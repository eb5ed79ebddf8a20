import ExtensionHost.Proofs.Bridge.Binding
import ExtensionHost.Proofs.Guest.Payloads

/-!
# Memory that nobody stores to

Two parties store to the memory of a running guest: the guest itself, and the host when it stages a
payload.  The host stays within the staging buffers, so that a range apart from all of them which
the guest spares is read at every later moment as it was read before.

## Main definitions

* `StagingPool.IsApart`

## Main results

* `Leads.readBytes_eq` and `Leads.readText_eq`
-/

namespace ExtensionHost

/-- No buffer of a pool has a position in common with a slice. -/
def StagingPool.IsApart (p : StagingPool) (slice : Slice) : Prop :=
  ∀ b ∈ p.buffers, ∀ i, slice.Covers i → ¬ b.Covers i

namespace StagingPool.IsApart

variable {p q : StagingPool} {slice : Slice}

/-- Buffers that come later do not bring a pool closer to what it is apart from. -/
theorem of_prefix (hq : q.IsApart slice) (h : p.places <+: q.places) : p.IsApart slice := by
  intro b hb i hi hcovers
  have hplace : (b.base, b.capacity) ∈ q.places :=
    h.subset (List.mem_map_of_mem (f := fun b : StagingBuffer => (b.base, b.capacity)) hb)
  obtain ⟨c, hc, heq⟩ := List.mem_map.mp hplace
  obtain ⟨hbase, hcapacity⟩ := Prod.mk.inj heq
  refine hq c hc i hi ?_
  rw [StagingBuffer.Covers, hbase, hcapacity]
  exact hcovers

end StagingPool.IsApart

namespace Guest

variable {σ : Type} {sandbox : Sandbox σ} {slice : Slice}

namespace Note.Legal

variable {n : Note σ}

/-- Memory never shrinks. -/
theorem size_le (h : n.Legal sandbox) :
    n.before.guest.memory.size ≤ n.after.guest.memory.size := by
  refine Nat.mul_le_mul_right _ ?_
  cases h with
  | executed _ h =>
    cases h with
    | stored _ _ hpages _ => exact Nat.le_of_eq hpages.symm
    | grown => exact Memory.pageCount_grow .. ▸ Nat.le_add_right ..
    | idle | trapped | globalSet | refused | tableGrown | spun => exact Nat.le_refl _
  | entered | rejected | misplaced => exact Nat.le_refl _
  | asked h => exact Nat.le_of_eq (congrArg (·.memory.pageCount) h.guest_eq.symm)
  | staged => exact Nat.le_of_eq (Memory.pageCount_write ..).symm

/-- An event changes no byte of a slice that the guest spares and that the buffers are apart
from. -/
theorem byteAt_of_apart (h : n.Legal sandbox) (hlimit : sandbox.memoryLimit < UInt32.size)
    (hs : n.before.guest.IsSound sandbox.memoryLimit) (hspares : n.Spares slice)
    (hapart : n.after.guest.pool.IsApart slice) {i : Nat} (hi : slice.Covers i) :
    n.after.guest.memory.byteAt i = n.before.guest.memory.byteAt i := by
  cases h with
  | executed _ h => exact h.byteAt_of_spares hspares hi
  | entered | rejected | misplaced => rfl
  | asked h => exact congrArg (·.memory.byteAt i) h.guest_eq
  | @staged bytes before address pool _ hsize hgrant hfit =>
    refine Memory.byteAt_write_of_outside hfit ?_
    by_cases hin : address.toNat ≤ i ∧ i < address.toNat + bytes.size
    · have hholds := hgrant.holds hs.fits (Nat.lt_of_le_of_lt hs.within hlimit)
      rw [UInt32.toNat_ofNat_of_lt' hsize] at hholds
      obtain ⟨b, hb, hbi⟩ := hholds.handed hin
      exact absurd ((hgrant.fits hs.fits b hb).covers_of_handed hbi) (hapart b hb i hi)
    · omega

end Note.Legal

namespace Leads

variable {s t : Machine σ} {notes : List (Note σ)}

theorem size_le (h : Leads sandbox s notes t) : s.guest.memory.size ≤ t.guest.memory.size :=
  h.relation (R := fun s t => s.guest.memory.size ≤ t.guest.memory.size) (fun _ => Nat.le_refl _)
    Nat.le_trans fun _ _ hn => hn.size_le

theorem byteAt_of_apart (h : Leads sandbox s notes t) (hlimit : sandbox.memoryLimit < UInt32.size)
    (hs : s.guest.IsSound sandbox.memoryLimit) (hspares : ∀ n ∈ notes, n.Spares slice)
    (hapart : t.guest.pool.IsApart slice) {i : Nat} (hi : slice.Covers i) :
    t.guest.memory.byteAt i = s.guest.memory.byteAt i := by
  induction h with
  | nil s => rfl
  | @cons n rest t hn h ih =>
    have hlater := ih (hn.isSound hs) (fun m hm => hspares m (List.mem_cons_of_mem _ hm)) hapart
    exact hlater.trans (hn.byteAt_of_apart hlimit hs (hspares n List.mem_cons_self)
      (hapart.of_prefix h.places_prefix) hi)

/-- **What nobody stores to stays.**  A slice that the guest spares and that the staging buffers are
apart from is read as before. -/
theorem readBytes_eq (h : Leads sandbox s notes t) (hlimit : sandbox.memoryLimit < UInt32.size)
    (hs : s.guest.IsSound sandbox.memoryLimit) (hexports : s.exports.isSome = true)
    (hspares : ∀ n ∈ notes, n.Spares slice) (hapart : t.guest.pool.IsApart slice)
    {bytes : ByteArray} (hread : Bridge.readBytes slice.ptr slice.len s = .ok bytes s) :
    Bridge.readBytes slice.ptr slice.len t = .ok bytes t := by
  have hexports' : t.exports.isSome = true := h.exports_eq ▸ hexports
  obtain ⟨hfit, hbytes⟩ := (Bridge.readBytes_eq_ok_iff hexports).mp hread
  refine (Bridge.readBytes_eq_ok_iff hexports').mpr ⟨Nat.le_trans hfit h.size_le, ?_⟩
  have hlen : bytes.size = slice.len.toNat := hbytes ▸ Memory.size_read ..
  rw [← hlen] at hbytes ⊢
  refine Memory.read_eq_iff.mpr fun k hk => ?_
  have hcovers : slice.Covers (slice.ptr.toNat + k) :=
    ⟨Nat.le_add_right .., Nat.add_lt_add_left (hlen ▸ hk) _⟩
  rw [h.byteAt_of_apart hlimit hs hspares hapart hcovers]
  exact Memory.read_eq_iff.mp hbytes k hk

/-- So is a text. -/
theorem readText_eq (h : Leads sandbox s notes t) (hlimit : sandbox.memoryLimit < UInt32.size)
    (hs : s.guest.IsSound sandbox.memoryLimit) (hexports : s.exports.isSome = true)
    (hspares : ∀ n ∈ notes, n.Spares slice) (hapart : t.guest.pool.IsApart slice)
    {text : String} (hread : Bridge.readText slice.ptr slice.len s = .ok text s) :
    Bridge.readText slice.ptr slice.len t = .ok text t := by
  obtain ⟨bytes, hbytes, htext⟩ := Bridge.readText_eq_ok_iff.mp hread
  exact Bridge.readText_eq_ok_iff.mpr
    ⟨bytes, h.readBytes_eq hlimit hs hexports hspares hapart hbytes, htext⟩

end Leads

end Guest

end ExtensionHost
