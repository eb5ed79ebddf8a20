import ExtensionHost.Proofs.Guest.Soundness
import ExtensionHost.Proofs.Memory.Replay

/-!
# What staging a payload comes to

Staging either takes room in a buffer at hand, and then the guest does not run, or it makes one call
of the guest's allocator.  This call is untrusted: it may fail, return any address, let memory grow,
or enter the host again and change the pool.  So what staging comes to is said relative to the
machine that the call leaves (`Bridge.Procures`): either this very machine is left, or a payload
arrives on it.

**What a payload changes.**  `Bridge.Arrives` lists it all: the bytes of memory at one address, and
the pool.

## Main definitions

* `Bridge.Arrives`, a payload arrives at an address
* `Bridge.Procures`, the outcome of staging by the outcome of the allocator

## Main results

* `Bridge.exists_stage_of_hasRoom`, staging in a buffer at hand
* `Bridge.stage_procures`, staging in a fresh one
-/

namespace ExtensionHost

namespace Bridge

open Guest

variable {σ : Type}

/-- A payload arrives at an address: it stands there, the staging pool is another one, and nothing
else changes. -/
structure Arrives (bytes : ByteArray) (address : Address) (pool : StagingPool) (s t : Machine σ) :
    Prop where
  /-- Only memory and the pool change. -/
  eq : t = { s with guest := { s.guest with pool, memory := t.guest.memory } }
  /-- Memory has the same size. -/
  size_eq : t.guest.memory.size = s.guest.memory.size
  /-- No byte outside the payload changes. -/
  outside : ∀ i, i < address.toNat ∨ address.toNat + bytes.size ≤ i →
    t.guest.memory.byteAt i = s.guest.memory.byteAt i
  /-- The payload is there. -/
  read_eq : t.guest.memory.read address.toNat bytes.size = bytes

/-- How staging a payload ends when it needs a buffer of some size, by how the call of the guest's
allocator ends. -/
inductive Procures (bytes : ByteArray) (capacity : UInt32) :
    EStateM.Result Failure (Machine σ) (List UInt64) → EStateM.Result Failure (Machine σ) UInt64 →
      Prop where
  /-- The allocator fails, and staging fails with its failure. -/
  | failed (f : Failure) (t : Machine σ) : Procures bytes capacity (.error f t) (.error f t)
  /-- The buffer is null or does not lie within the memory that there is when the allocator has
  returned.  Everything stays as the allocator left it. -/
  | rejected {results : List UInt64} {t : Machine σ} {base : Address}
    (hbase : base = (results.headD 0).toUInt32)
    (h : base = 0 ∨ t.guest.memory.size < base.toNat + capacity.toNat) :
    Procures bytes capacity (.ok results t) (.error (.host (.unableToWriteMemory base capacity)) t)
  /-- The buffer is adopted, and the payload arrives at its start. -/
  | adopted {results : List UInt64} {t u : Machine σ} {base : Address}
    (hbase : base = (results.headD 0).toUInt32) (hne : base ≠ 0)
    (hend : base.toNat + capacity.toNat ≤ t.guest.memory.size)
    (h : Arrives bytes base { t.guest.pool with
      buffers := t.guest.pool.buffers ++ [⟨base, capacity, .ofNat bytes.size⟩] } t u) :
    Procures bytes capacity (.ok results t) (.ok (Slice.mk base (.ofNat bytes.size)).pack u)

section Staging

variable {bytes : ByteArray} {s t : Machine σ} {pool : StagingPool} {address : Address}
  {limit : Nat}

/-- Where the pool grants room, the payload arrives. -/
theorem exists_place_of_grants (hlimit : limit < UInt32.size) (hs : s.guest.IsSound limit)
    (hsize : bytes.size < UInt32.size)
    (hgrant :
      StagingPool.Grants s.guest.memory.size s.guest.pool (.ofNat bytes.size) address pool) :
    ∃ t, place bytes address pool s = .ok (Slice.mk address (.ofNat bytes.size)).pack t ∧
      Arrives bytes address pool s t := by
  have hwithin := within_of_grants hlimit hs hsize hgrant
  rw [place, if_pos hwithin]
  refine ⟨_, rfl, rfl, ?_, fun i hi => ?_, ?_⟩
  · exact Memory.size_eq_of_pageCount_eq (Memory.pageCount_write ..)
  · exact Memory.byteAt_write_of_outside hwithin hi
  · exact Memory.read_write hwithin

/-- **Staging in a buffer at hand.**  If there is room at hand, the guest is not entered. -/
theorem exists_stage_of_reserve? (hlimit : limit < UInt32.size) (hs : s.guest.IsSound limit)
    (hexports : s.exports.isSome = true) (hsize : bytes.size < UInt32.size)
    (hroom : s.guest.pool.reserve? (.ofNat bytes.size) = some (address, pool)) :
    ∃ t, Arrives bytes address pool s t ∧
      ∀ enter : Enter σ,
        stage enter bytes s = .ok (Slice.mk address (.ofNat bytes.size)).pack t := by
  obtain ⟨t, hplace, harrives⟩ := exists_place_of_grants hlimit hs hsize (.reserved hroom)
  exact ⟨t, harrives, fun enter => (stage_of_reserve? hsize hexports hroom).trans hplace⟩

/-- If some buffer has room for a payload, it arrives at the front of the first such buffer, of
which as many bytes are handed out. -/
theorem exists_stage_of_hasRoom (hlimit : limit < UInt32.size) (hs : s.guest.IsSound limit)
    (hexports : s.exports.isSome = true) (hsize : bytes.size < UInt32.size)
    (hroom : ∃ b ∈ s.guest.pool.buffers, b.HasRoom bytes.size) :
    ∃ full b rest, s.guest.pool.buffers = full ++ b :: rest ∧
      (∀ c ∈ full, ¬ c.HasRoom bytes.size) ∧ b.HasRoom bytes.size ∧
      ∃ address cursor t, address.toNat = b.base.toNat + b.cursor.toNat ∧
        cursor.toNat = b.cursor.toNat + bytes.size ∧
        Arrives bytes address
          { s.guest.pool with buffers := full ++ { b with cursor } :: rest } s t ∧
        ∀ enter : Enter σ,
          stage enter bytes s = .ok (Slice.mk address (.ofNat bytes.size)).pack t := by
  have hmemory := Nat.lt_of_le_of_lt hs.within hlimit
  have hle {c : StagingBuffer} (hc : c ∈ s.guest.pool.buffers) :
      UInt32.ofNat bytes.size ≤ c.remaining ↔ c.HasRoom bytes.size :=
    (hs.fits c hc).le_remaining_iff hsize
  cases hr : s.guest.pool.reserve? (.ofNat bytes.size) with
  | none =>
    obtain ⟨b, hb, hfits⟩ := hroom
    have hlt := StagingPool.reserve?_eq_none_iff.mp hr b hb
    exact absurd ((hle hb).mpr hfits) (UInt32.not_le.mpr hlt)
  | some room =>
    obtain ⟨t, harrives, hstage⟩ := exists_stage_of_reserve? hlimit hs hexports hsize hr
    obtain ⟨full, b, rest, hbuffers, hfull, hb, haddress, hpool⟩ :=
      StagingPool.reserve?_eq_some_iff.mp hr
    have hmem {c : StagingBuffer} (hc : c ∈ full ∨ c = b) : c ∈ s.guest.pool.buffers := by
      rw [hbuffers, List.mem_append, List.mem_cons]
      exact hc.imp_right Or.inl
    have hfits := hs.fits b (hmem (Or.inr rfl))
    refine ⟨full, b, rest, hbuffers, fun c hc hroom => ?_, (hle (hmem (Or.inr rfl))).mp hb,
      room.1, (b.take (.ofNat bytes.size)).cursor, t, ?_, ?_, ?_, hstage⟩
    · exact absurd ((hle (hmem (Or.inl hc))).mpr hroom) (UInt32.not_le.mpr (hfull c hc))
    · rw [haddress, hfits.toNat_front hmemory]
    · rw [hfits.toNat_cursor_take hb, UInt32.toNat_ofNat_of_lt' hsize]
    · rw [hpool] at harrives
      exact harrives

/-- **Staging in a fresh buffer.**  If there is no room at hand, the guest's allocator is called,
and what staging comes to depends on nothing but what this call comes to. -/
theorem stage_procures {sandbox : Sandbox σ} {enter : Enter σ} {tell : Tell σ} {exports : Exports}
    (htell : ∀ name args, (tell name args).Tells sandbox (enter name args))
    (hlimit : sandbox.memoryLimit < UInt32.size) (hs : s.guest.IsSound sandbox.memoryLimit)
    (hexports : s.exports = some exports) (hsize : bytes.size < UInt32.size)
    (hroom : ∀ b ∈ s.guest.pool.buffers, ¬ b.HasRoom bytes.size) :
    Procures bytes (request bytes s) (enter exports.malloc [(request bytes s).toUInt64] s)
      (stage enter bytes s) := by
  have hr : s.guest.pool.reserve? (.ofNat bytes.size) = none := by
    refine StagingPool.reserve?_eq_none_iff.mpr fun b hb => ?_
    exact UInt32.not_le.mp ((not_congr ((hs.fits b hb).le_remaining_iff hsize)).mpr (hroom b hb))
  have hready : s.IsReady := fun _ => by rw [hexports]; rfl
  have hmalloc := htell exports.malloc [(request bytes s).toUInt64] s hready
  cases hm : enter exports.malloc [(request bytes s).toUInt64] s with
  | error f t =>
    rw [stage_of_malloc_error hsize hexports hr hm]
    exact .failed f t
  | ok results t =>
    rw [Run.after_of_ok hm] at hmalloc
    have ht : t.exports.isSome = true := by rw [hmalloc.exports_eq, hexports]; rfl
    cases hc : checkedAllocation? (results.headD 0).toUInt32 (request bytes s)
        t.guest.memory.size with
    | none =>
      rw [stage_of_rejected hsize hexports hr hm ht hc]
      exact .rejected rfl (checkedAllocation?_eq_none_iff.mp hc)
    | some base =>
      obtain ⟨hbase, hne, hend⟩ := checkedAllocation?_eq_some_iff.mp hc
      subst hbase
      have hle := StagingPool.le_growthFor s.guest.pool (.ofNat bytes.size)
      obtain ⟨u, hplace, harrives⟩ :=
        exists_place_of_grants hlimit (hmalloc.isSound hs) hsize (.adopted hle hc)
      rw [stage_of_adopted hsize hexports hr hm ht hc, hplace]
      have hmin : min (.ofNat bytes.size) (request bytes s) = .ofNat bytes.size := if_pos hle
      rw [StagingPool.adopt, hmin] at harrives
      exact .adopted rfl hne hend harrives

end Staging

end Bridge

end ExtensionHost
