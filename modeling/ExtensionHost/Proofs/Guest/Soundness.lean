import ExtensionHost.Proofs.Guest.History

/-!
# Staging buffers stay usable

The invariant of running guests: memory is within its limit, and every staging buffer fits into
memory.  Memory never shrinks and buffers never move, so that a buffer that passed the check when it
was adopted passes it ever after.

**Why the limit matters.**  With memory below `2 ^ 32` bytes, the address of the first free byte of
a buffer is a sum that does not saturate, and the room that a pool grants lies in memory.

## Main definitions

* `GuestState.IsSound`
* `Bridge.Unprovided`, how the guest's allocator fails to provide a buffer

## Main results

* `Note.Legal.isSound`, every legal event keeps the invariant
* `Bridge.unprovided_of_stage_error`, staging fails for want of a buffer only
-/

namespace ExtensionHost

namespace Guest

variable {σ : Type}

/-- Memory is within a limit, and every staging buffer fits into memory. -/
structure GuestState.IsSound (limit : Nat) (g : GuestState) : Prop where
  /-- Memory is within the limit. -/
  within : g.memory.size ≤ limit
  /-- Every buffer fits. -/
  fits : g.pool.Fits g.memory.size

namespace GuestState.IsSound

variable {limit : Nat} {g : GuestState} {memory : Memory}

theorem of_pageCount_eq (h : g.IsSound limit) (hm : memory.pageCount = g.memory.pageCount) :
    IsSound limit { g with memory } := by
  have hsize : memory.size = g.memory.size := Memory.size_eq_of_pageCount_eq hm
  constructor
  · show memory.size ≤ limit
    rw [hsize]
    exact h.within
  · show g.pool.Fits memory.size
    rw [hsize]
    exact h.fits

theorem of_grants (h : g.IsSound limit) {size : UInt32} {address : Address} {pool : StagingPool}
    (hgrant : StagingPool.Grants g.memory.size g.pool size address pool) :
    IsSound limit { g with pool } :=
  ⟨h.within, hgrant.fits h.fits⟩

end GuestState.IsSound

theorem Effect.isSound {sandbox : Sandbox σ} {frame : Frame} {s : Statement}
    {before after : Machine σ} {o : Option Failure} (h : Effect sandbox frame s before o after)
    (hs : before.guest.IsSound sandbox.memoryLimit) :
    after.guest.IsSound sandbox.memoryLimit := by
  cases h with
  | stored _ _ hpages _ => exact hs.of_pageCount_eq hpages
  | grown _ hlimit =>
    refine ⟨?_, hs.fits.mono ?_⟩
    · rwa [Memory.size, Memory.pageCount_grow]
    · rw [Memory.size, Memory.size, Memory.pageCount_grow]
      exact Nat.mul_le_mul_right _ (Nat.le_add_right ..)
  | idle | trapped | globalSet | refused | tableGrown | spun => exact ⟨hs.within, hs.fits⟩

namespace Note.Legal

variable {sandbox : Sandbox σ} {n : Note σ}

/-- Every legal event keeps memory within its limit and all staging buffers usable. -/
theorem isSound (h : n.Legal sandbox) (hs : n.before.guest.IsSound sandbox.memoryLimit) :
    n.after.guest.IsSound sandbox.memoryLimit := by
  cases h with
  | executed _ h => exact h.isSound hs
  | entered | rejected => exact hs
  | asked h => exact h.guest_eq ▸ hs
  | staged _ _ hgrant _ => exact (hs.of_grants hgrant).of_pageCount_eq (Memory.pageCount_write ..)
  | misplaced _ _ hgrant _ => exact hs.of_grants hgrant

/-- A pool forgets no buffer and moves none. -/
theorem places_prefix (h : n.Legal sandbox) :
    n.before.guest.pool.places <+: n.after.guest.pool.places := by
  cases h with
  | executed _ h => cases h <;> exact List.prefix_refl _
  | entered | rejected => exact List.prefix_refl _
  | asked h => exact h.guest_eq ▸ List.prefix_refl _
  | staged _ _ hgrant _ => exact hgrant.places_prefix
  | misplaced _ _ hgrant _ => exact hgrant.places_prefix

/-- A pool goes on requesting buffers of the same size. -/
theorem growthIncrement_eq (h : n.Legal sandbox) :
    n.after.guest.pool.growthIncrement = n.before.guest.pool.growthIncrement := by
  cases h with
  | executed _ h => cases h <;> rfl
  | entered | rejected => rfl
  | asked h => rw [h.guest_eq]
  | staged _ _ hgrant _ => exact hgrant.growthIncrement_eq
  | misplaced _ _ hgrant _ => exact hgrant.growthIncrement_eq

/-- Outside invocations a pool does not change at all. -/
theorem pool_eq (h : n.Legal sandbox) (hb : n.before.bound = none) :
    n.after.guest.pool = n.before.guest.pool := by
  cases h with
  | executed _ h => cases h <;> rfl
  | entered | rejected => rfl
  | asked h => exact congrArg _ h.guest_eq
  | staged hbound => rw [hb] at hbound; cases hbound
  | misplaced hbound => rw [hb] at hbound; cases hbound

end Note.Legal

namespace Leads

variable {sandbox : Sandbox σ} {s t : Machine σ} {notes : List (Note σ)}

/-- So does every history. -/
theorem isSound (h : Leads sandbox s notes t) (hs : s.guest.IsSound sandbox.memoryLimit) :
    t.guest.IsSound sandbox.memoryLimit :=
  (h.invariant (P := fun t => t.guest.IsSound sandbox.memoryLimit) (fun _ hn => hn.isSound) hs).2

theorem places_prefix (h : Leads sandbox s notes t) :
    s.guest.pool.places <+: t.guest.pool.places :=
  h.relation (R := fun s t => s.guest.pool.places <+: t.guest.pool.places)
    (fun _ => List.prefix_refl _) List.IsPrefix.trans fun _ _ hn => hn.places_prefix

theorem growthIncrement_eq (h : Leads sandbox s notes t) :
    t.guest.pool.growthIncrement = s.guest.pool.growthIncrement :=
  h.relation (R := fun s t => t.guest.pool.growthIncrement = s.guest.pool.growthIncrement)
    (fun _ => rfl) (fun hst htu => htu.trans hst) fun _ _ hn => hn.growthIncrement_eq

end Leads

end Guest

/-! ### Why staging fails -/

namespace Bridge

open Guest

variable {σ : Type}

/-- The guest's allocator does not provide a buffer of a size: it fails itself, or what it returns
is rejected. -/
inductive Unprovided (enter : Enter σ) (exports : Exports) (capacity : UInt32) (s : Machine σ) :
    Failure → Machine σ → Prop where
  /-- The allocator fails. -/
  | failed {f : Failure} {t : Machine σ}
    (h : enter exports.malloc [capacity.toUInt64] s = .error f t) :
    Unprovided enter exports capacity s f t
  /-- The buffer is null or does not lie within memory. -/
  | rejected {results : List UInt64} {t : Machine σ}
    (h : enter exports.malloc [capacity.toUInt64] s = .ok results t)
    (hc : checkedAllocation? (results.headD 0).toUInt32 capacity t.guest.memory.size = none) :
    Unprovided enter exports capacity s
      (.host (.unableToWriteMemory (results.headD 0).toUInt32 capacity)) t

variable {sandbox : Sandbox σ} {enter : Enter σ} {tell : Tell σ} {bytes : ByteArray}
  {s t : Machine σ}

/-- Where the pool grants room, the payload fits. -/
theorem within_of_grants {limit : Nat} {address : Address} {pool : StagingPool}
    (hlimit : limit < UInt32.size) (hs : s.guest.IsSound limit) (hsize : bytes.size < UInt32.size)
    (hgrant :
      StagingPool.Grants s.guest.memory.size s.guest.pool (.ofNat bytes.size) address pool) :
    address.toNat + bytes.size ≤ s.guest.memory.size := by
  have hwithin := hgrant.within hs.fits (Nat.lt_of_le_of_lt hs.within hlimit)
  rwa [UInt32.toNat_ofNat_of_lt' hsize] at hwithin

/-- Staging a payload whose length is a 32-bit number fails only if there is no room at hand and the
guest's allocator does not provide a buffer. -/
theorem unprovided_of_stage_error
    (htell : ∀ name args, (tell name args).Tells sandbox (enter name args))
    (hlimit : sandbox.memoryLimit < UInt32.size) {exports : Exports} (hready : s.IsReady)
    (hexports : s.exports = some exports) (hs : s.guest.IsSound sandbox.memoryLimit)
    (hsize : bytes.size < UInt32.size) {f : Failure} (h : stage enter bytes s = .error f t) :
    s.guest.pool.reserve? (.ofNat bytes.size) = none ∧
      Unprovided enter exports (request bytes s) s f t := by
  have hsome : s.exports.isSome = true := by rw [hexports]; rfl
  cases hr : s.guest.pool.reserve? (.ofNat bytes.size) with
  | some room =>
    have hwithin := within_of_grants hlimit hs hsize (.reserved hr)
    rw [stage_of_reserve? hsize hsome hr, place, if_pos hwithin] at h
    cases h
  | none =>
    refine ⟨rfl, ?_⟩
    have hmalloc := htell exports.malloc [(request bytes s).toUInt64] s hready
    cases hm : enter exports.malloc [(request bytes s).toUInt64] s with
    | error e u =>
      rw [stage_of_malloc_error hsize hexports hr hm] at h
      cases h
      exact .failed hm
    | ok results u =>
      rw [Run.after_of_ok hm] at hmalloc
      have hu : u.exports.isSome = true := by rw [hmalloc.exports_eq, hexports]; rfl
      have hsound := hmalloc.isSound hs
      cases hc : checkedAllocation? (results.headD 0).toUInt32 (request bytes s)
          u.guest.memory.size with
      | none =>
        rw [stage_of_rejected hsize hexports hr hm hu hc] at h
        cases h
        exact .rejected hm hc
      | some base =>
        obtain ⟨rfl, -⟩ := checkedAllocation?_eq_some_iff.mp hc
        have hwithin :=
          within_of_grants hlimit hsound hsize (.adopted (StagingPool.le_growthFor ..) hc)
        rw [stage_of_adopted hsize hexports hr hm hu hc, place, if_pos hwithin] at h
        cases h

end Bridge

end ExtensionHost
