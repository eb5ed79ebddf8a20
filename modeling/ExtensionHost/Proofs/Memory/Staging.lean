import ExtensionHost.Memory.Staging

/-!
# Buffers that stay usable

A staging buffer is usable as long as it `Fits`: it is not null, no more of it was handed out than
there is, and all of it lies within memory.  The first result about a pool whose buffers all fit is
that address arithmetic on them is arithmetic on numbers: nothing saturates and nothing wraps.

Room for a payload comes from a buffer at hand or from a fresh one.  `StagingPool.Grants` is the
common form of the two, and it is all that later proofs know about where payloads go.

## Main results

* `StagingPool.reserve?_eq_some_iff`, first fit
* `StagingPool.Grants.fits`, `StagingPool.Grants.within`, room that is handed out lies in memory
* `StagingPool.Grants.holds`, `StagingPool.Grants.not_handed`, it lies in one buffer and was not
  handed out before
-/

namespace ExtensionHost

/-! ### Addresses and allocations -/

/-- Within the range of addresses, an offset is a sum. -/
theorem Address.toNat_offset {a : Address} {bytes : UInt32}
    (h : a.toNat + bytes.toNat < UInt32.size) : (a.offset bytes).toNat = a.toNat + bytes.toNat := by
  rw [Address.offset, if_pos h, UInt32.toNat_add]
  exact Nat.mod_eq_of_lt h

/-- An allocation is usable if it is not null and lies within memory. -/
theorem checkedAllocation?_eq_some_iff {base address : Address} {capacity : UInt32} {size : Nat} :
    checkedAllocation? base capacity size = some address ↔
      address = base ∧ base ≠ 0 ∧ base.toNat + capacity.toNat ≤ size := by
  by_cases hbase : base = 0
  · simp [checkedAllocation?, hbase]
  · by_cases hfit : base.toNat + capacity.toNat ≤ size
    · simp [checkedAllocation?, Slice.rangeIn?, hbase, hfit, eq_comm]
    · simp [checkedAllocation?, Slice.rangeIn?, hbase, hfit]

/-- Otherwise it is null, or does not lie within memory. -/
theorem checkedAllocation?_eq_none_iff {base : Address} {capacity : UInt32} {size : Nat} :
    checkedAllocation? base capacity size = none ↔
      base = 0 ∨ size < base.toNat + capacity.toNat := by
  by_cases hbase : base = 0
  · simp [checkedAllocation?, hbase]
  · simp [checkedAllocation?, Slice.rangeIn?, hbase]

namespace StagingBuffer

/-- A buffer that the host may use in a memory of `memorySize` bytes. -/
structure Fits (memorySize : Nat) (b : StagingBuffer) : Prop where
  /-- The buffer is not null. -/
  base_ne_zero : b.base ≠ 0
  /-- No more was handed out than there is. -/
  cursor_le : b.cursor ≤ b.capacity
  /-- All of the buffer lies within memory. -/
  end_le : b.base.toNat + b.capacity.toNat ≤ memorySize

/-- A position within a buffer. -/
def Covers (b : StagingBuffer) (i : Nat) : Prop :=
  b.base.toNat ≤ i ∧ i < b.base.toNat + b.capacity.toNat

instance (b : StagingBuffer) (i : Nat) : Decidable (b.Covers i) :=
  inferInstanceAs (Decidable (_ ∧ _))

/-- A position within the part of a buffer that was handed out. -/
def Handed (b : StagingBuffer) (i : Nat) : Prop :=
  b.base.toNat ≤ i ∧ i < b.base.toNat + b.cursor.toNat

variable {memorySize : Nat} {b : StagingBuffer} {size : UInt32}

theorem Fits.mono {larger : Nat} (h : b.Fits memorySize) (hle : memorySize ≤ larger) :
    b.Fits larger :=
  ⟨h.base_ne_zero, h.cursor_le, Nat.le_trans h.end_le hle⟩

theorem Fits.covers_of_handed (h : b.Fits memorySize) {i : Nat} (hi : b.Handed i) : b.Covers i := by
  have := UInt32.le_iff_toNat_le.mp h.cursor_le
  exact ⟨hi.1, by have := hi.2; omega⟩

/-- If no more was handed out than there is, what is left is a difference of numbers. -/
theorem toNat_remaining (h : b.cursor ≤ b.capacity) :
    b.remaining.toNat = b.capacity.toNat - b.cursor.toNat :=
  UInt32.toNat_sub_of_le _ _ h

/-- A cursor that moves by no more than what is left moves by a sum of numbers. -/
theorem toNat_cursor_take (h : b.cursor ≤ b.capacity) (hsize : size ≤ b.remaining) :
    (b.take size).cursor.toNat = b.cursor.toNat + size.toNat := by
  have hcursor := UInt32.le_iff_toNat_le.mp h
  have hle := UInt32.le_iff_toNat_le.mp hsize
  rw [toNat_remaining h] at hle
  have hlt := b.capacity.toNat_lt
  rw [take, UInt32.toNat_add, Nat.mod_eq_of_lt (by omega)]

theorem cursor_take_le (h : b.cursor ≤ b.capacity) (hsize : size ≤ b.remaining) :
    (b.take size).cursor ≤ b.capacity := by
  have hcursor := UInt32.le_iff_toNat_le.mp h
  have hle := UInt32.le_iff_toNat_le.mp hsize
  rw [toNat_remaining h] at hle
  rw [UInt32.le_iff_toNat_le, toNat_cursor_take h hsize]
  omega

theorem Fits.toNat_remaining (h : b.Fits memorySize) :
    b.remaining.toNat = b.capacity.toNat - b.cursor.toNat :=
  StagingBuffer.toNat_remaining h.cursor_le

/-- A buffer has some bytes left. -/
def HasRoom (b : StagingBuffer) (count : Nat) : Prop := b.cursor.toNat + count ≤ b.capacity.toNat

instance (b : StagingBuffer) (count : Nat) : Decidable (b.HasRoom count) :=
  inferInstanceAs (Decidable (_ ≤ _))

/-- In a buffer that fits, room is counted without wrapping. -/
theorem Fits.le_remaining_iff (h : b.Fits memorySize) {count : Nat} (hcount : count < UInt32.size) :
    UInt32.ofNat count ≤ b.remaining ↔ b.HasRoom count := by
  have hcursor := UInt32.le_iff_toNat_le.mp h.cursor_le
  rw [UInt32.le_iff_toNat_le, UInt32.toNat_ofNat_of_lt' hcount, h.toNat_remaining, HasRoom]
  omega

/-- The front of a buffer that fits is the sum of its base and its cursor. -/
theorem Fits.toNat_front (h : b.Fits memorySize) (hm : memorySize < UInt32.size) :
    b.front.toNat = b.base.toNat + b.cursor.toNat := by
  have hle := UInt32.le_iff_toNat_le.mp h.cursor_le
  have hend := h.end_le
  exact Address.toNat_offset (by omega)

theorem Fits.toNat_cursor_take (h : b.Fits memorySize) (hsize : size ≤ b.remaining) :
    (b.take size).cursor.toNat = b.cursor.toNat + size.toNat :=
  StagingBuffer.toNat_cursor_take h.cursor_le hsize

theorem Fits.take (h : b.Fits memorySize) (hsize : size ≤ b.remaining) :
    (b.take size).Fits memorySize :=
  ⟨h.base_ne_zero, cursor_take_le h.cursor_le hsize, h.end_le⟩

end StagingBuffer

namespace StagingPool

/-- All buffers of a pool fit. -/
def Fits (memorySize : Nat) (p : StagingPool) : Prop := ∀ b ∈ p.buffers, b.Fits memorySize

/-- No position lies in two buffers of a pool. -/
def Separate (p : StagingPool) : Prop :=
  p.buffers.Pairwise fun b c => ∀ i, b.Covers i → ¬ c.Covers i

/-- A position that a pool has handed out. -/
def Handed (p : StagingPool) (i : Nat) : Prop := ∃ b ∈ p.buffers, b.Handed i

theorem Fits.mono {p : StagingPool} {memorySize larger : Nat} (h : p.Fits memorySize)
    (hle : memorySize ≤ larger) : p.Fits larger :=
  fun b hb => (h b hb).mono hle

theorem fits_reset {p : StagingPool} {memorySize : Nat} (h : p.Fits memorySize) :
    p.reset.Fits memorySize := by
  intro b hb
  obtain ⟨c, hc, rfl⟩ := List.mem_map.mp hb
  exact ⟨(h c hc).base_ne_zero, UInt32.le_iff_toNat_le.mpr (Nat.zero_le _), (h c hc).end_le⟩

/-- Every cursor of a rewound pool is zero. -/
theorem cursor_of_mem_reset {p : StagingPool} {b : StagingBuffer} (hb : b ∈ p.reset.buffers) :
    b.cursor = 0 := by
  obtain ⟨c, _, rfl⟩ := List.mem_map.mp hb
  rfl

/-! ### First fit -/

theorem reserveIn?_eq_some_iff {size : UInt32} {buffers after : List StagingBuffer}
    {address : Address} :
    reserveIn? size buffers = some (address, after) ↔
      ∃ full b rest, buffers = full ++ b :: rest ∧ (∀ c ∈ full, c.remaining < size) ∧
        size ≤ b.remaining ∧ address = b.front ∧ after = full ++ b.take size :: rest := by
  induction buffers generalizing after with
  | nil => simp [reserveIn?]
  | cons first others ih =>
    simp only [reserveIn?]
    constructor
    · intro h
      split at h
      · rename_i hle
        simp only [Option.some.injEq, Prod.mk.injEq] at h
        exact ⟨[], first, others, rfl, by simp, hle, h.1.symm, h.2.symm⟩
      · rename_i hnle
        obtain ⟨⟨a, tail⟩, hr, heq⟩ := Option.map_eq_some_iff.mp h
        simp only [Prod.mk.injEq] at heq
        obtain ⟨rfl, rfl⟩ := heq
        obtain ⟨full, b, rest, rfl, hfull, hb, ha, rfl⟩ := ih.mp hr
        refine ⟨first :: full, b, rest, rfl, ?_, hb, ha, rfl⟩
        intro c hc
        rcases List.mem_cons.mp hc with rfl | hc
        · exact UInt32.not_le.mp hnle
        · exact hfull c hc
    · rintro ⟨full, b, rest, heq, hfull, hb, rfl, rfl⟩
      cases full with
      | nil =>
        simp only [List.nil_append, List.cons.injEq] at heq
        obtain ⟨rfl, rfl⟩ := heq
        rw [if_pos hb]
        rfl
      | cons c full =>
        simp only [List.cons_append, List.cons.injEq] at heq
        obtain ⟨rfl, rfl⟩ := heq
        rw [if_neg (UInt32.not_le.mpr (hfull first List.mem_cons_self)),
          ih.mpr ⟨full, b, rest, rfl, fun d hd => hfull d (List.mem_cons_of_mem _ hd), hb, rfl, rfl⟩]
        rfl

/-- A reservation takes from the first buffer with enough room and touches no other. -/
theorem reserve?_eq_some_iff {p q : StagingPool} {size : UInt32} {address : Address} :
    p.reserve? size = some (address, q) ↔
      ∃ full b rest, p.buffers = full ++ b :: rest ∧ (∀ c ∈ full, c.remaining < size) ∧
        size ≤ b.remaining ∧ address = b.front ∧
        q = { p with buffers := full ++ b.take size :: rest } := by
  simp only [reserve?, Option.map_eq_some_iff, Prod.exists, reserveIn?_eq_some_iff, Prod.mk.injEq]
  constructor
  · rintro ⟨a, after, ⟨full, b, rest, hp, hfull, hb, rfl, rfl⟩, rfl, rfl⟩
    exact ⟨full, b, rest, hp, hfull, hb, rfl, rfl⟩
  · rintro ⟨full, b, rest, hp, hfull, hb, rfl, rfl⟩
    exact ⟨_, _, ⟨full, b, rest, hp, hfull, hb, rfl, rfl⟩, rfl, rfl⟩

theorem le_growthFor (p : StagingPool) (size : UInt32) : size ≤ p.growthFor size := by
  show size ≤ if size ≤ p.growthIncrement then p.growthIncrement else size
  split
  · assumption
  · exact UInt32.le_refl size

/-! ### Where the buffers are

Cursors move, but a pool never forgets a buffer and never moves one. -/

/-- The places of the buffers, oldest first. -/
def places (p : StagingPool) : List (Address × UInt32) := p.buffers.map fun b => (b.base, b.capacity)

/-- Whether buffers are separate depends on their places alone. -/
theorem separate_iff_places {p : StagingPool} :
    p.Separate ↔ p.places.Pairwise fun a b => ∀ i : Nat,
      (a.1.toNat ≤ i ∧ i < a.1.toNat + a.2.toNat) →
        ¬ (b.1.toNat ≤ i ∧ i < b.1.toNat + b.2.toNat) := by
  rw [places, List.pairwise_map]
  rfl

theorem Separate.of_prefix {p q : StagingPool} (hq : q.Separate) (h : p.places <+: q.places) :
    p.Separate :=
  separate_iff_places.mpr ((separate_iff_places.mp hq).sublist h.sublist)

/-- In a pool of separate buffers, a position in one buffer is in no other. -/
theorem Separate.not_covers {p : StagingPool} {full rest : List StagingBuffer} {b c : StagingBuffer}
    (h : p.Separate) (hp : p.buffers = full ++ b :: rest) (hc : c ∈ full ∨ c ∈ rest) {i : Nat}
    (hi : b.Covers i) : ¬ c.Covers i := by
  rw [Separate, hp, List.pairwise_append, List.pairwise_cons] at h
  obtain ⟨_, ⟨hright, _⟩, hleft⟩ := h
  rcases hc with hc | hc
  · exact fun hci => hleft c hc b List.mem_cons_self i hci hi
  · exact hright c hc i hi

/-! ### Room for a payload -/

/-- A pool hands out room for `size` bytes at an address: from a buffer at hand, or from a fresh
one, which is checked against a memory of `memorySize` bytes. -/
inductive Grants (memorySize : Nat) (p : StagingPool) (size : UInt32) :
    Address → StagingPool → Prop where
  /-- Room in a buffer at hand. -/
  | reserved {address : Address} {q : StagingPool} (h : p.reserve? size = some (address, q)) :
    Grants memorySize p size address q
  /-- Room at the start of a fresh buffer. -/
  | adopted {base : Address} {capacity : UInt32} (hle : size ≤ capacity)
    (h : checkedAllocation? base capacity memorySize = some base) :
    Grants memorySize p size base (p.adopt base capacity size)

/-- The part of a pool that was handed out has room for `count` bytes at a position, all in one
buffer. -/
def Holds (p : StagingPool) (start count : Nat) : Prop :=
  ∃ b ∈ p.buffers, b.base.toNat ≤ start ∧ start + count ≤ b.base.toNat + b.cursor.toNat

theorem Holds.handed {p : StagingPool} {start count i : Nat} (h : p.Holds start count)
    (hi : start ≤ i ∧ i < start + count) : p.Handed i := by
  obtain ⟨b, hb, hbase, hend⟩ := h
  exact ⟨b, hb, by omega, by omega⟩

namespace Grants

variable {memorySize : Nat} {p q : StagingPool} {size : UInt32} {address : Address}

theorem places_prefix (h : Grants memorySize p size address q) : p.places <+: q.places := by
  cases h with
  | reserved h =>
    obtain ⟨full, b, rest, hp, _, _, _, rfl⟩ := reserve?_eq_some_iff.mp h
    simp [places, hp, StagingBuffer.take]
  | adopted _ _ => simp [places, adopt]

theorem growthIncrement_eq (h : Grants memorySize p size address q) :
    q.growthIncrement = p.growthIncrement := by
  cases h with
  | reserved h =>
    obtain ⟨full, b, rest, _, _, _, _, rfl⟩ := reserve?_eq_some_iff.mp h
    rfl
  | adopted _ _ => rfl

theorem fits (h : Grants memorySize p size address q) (hp : p.Fits memorySize) :
    q.Fits memorySize := by
  cases h with
  | reserved h =>
    obtain ⟨full, b, rest, hbuffers, _, hb, _, rfl⟩ := reserve?_eq_some_iff.mp h
    have hall : ∀ c ∈ full ++ b :: rest, c.Fits memorySize := hbuffers ▸ hp
    intro c hc
    simp only [List.mem_append, List.mem_cons] at hc hall
    rcases hc with hc | rfl | hc
    · exact hall c (Or.inl hc)
    · exact (hall b (Or.inr (Or.inl rfl))).take hb
    · exact hall c (Or.inr (Or.inr hc))
  | @adopted capacity hle h =>
    obtain ⟨_, hbase, hend⟩ := checkedAllocation?_eq_some_iff.mp h
    intro c hc
    rcases List.mem_append.mp hc with hc | hc
    · exact hp c hc
    · obtain rfl := List.mem_singleton.mp hc
      exact ⟨hbase, Std.min_le_right, hend⟩

/-- Room that is handed out belongs to the part of one buffer that was handed out. -/
theorem holds (h : Grants memorySize p size address q) (hp : p.Fits memorySize)
    (hm : memorySize < UInt32.size) : q.Holds address.toNat size.toNat := by
  cases h with
  | reserved h =>
    obtain ⟨full, b, rest, hbuffers, _, hb, rfl, rfl⟩ := reserve?_eq_some_iff.mp h
    have hfits : b.Fits memorySize := hp b (by simp [hbuffers])
    refine ⟨b.take size, by simp, ?_, ?_⟩
    · rw [hfits.toNat_front hm]
      exact Nat.le_add_right ..
    · rw [hfits.toNat_front hm, hfits.toNat_cursor_take hb, ← Nat.add_assoc]
      exact Nat.le_refl _
  | @adopted capacity hle h =>
    have hmin : min size capacity = size := if_pos hle
    refine ⟨⟨address, capacity, min size capacity⟩, by simp [adopt], Nat.le_refl _, ?_⟩
    exact Nat.add_le_add_left (Nat.le_of_eq (congrArg UInt32.toNat hmin.symm)) _

theorem within (h : Grants memorySize p size address q) (hp : p.Fits memorySize)
    (hm : memorySize < UInt32.size) : address.toNat + size.toNat ≤ memorySize := by
  obtain ⟨b, hb, _, hend⟩ := h.holds hp hm
  have hfits := h.fits hp b hb
  have := UInt32.le_iff_toNat_le.mp hfits.cursor_le
  have := hfits.end_le
  omega

/-- What was handed out stays handed out. -/
theorem holds_of_holds (h : Grants memorySize p size address q) (hp : p.Fits memorySize)
    {start count : Nat} (hs : p.Holds start count) : q.Holds start count := by
  obtain ⟨c, hc, hbase, hend⟩ := hs
  cases h with
  | reserved h =>
    obtain ⟨full, b, rest, hbuffers, _, hb, _, rfl⟩ := reserve?_eq_some_iff.mp h
    have hfits : b.Fits memorySize := hp b (by simp [hbuffers])
    simp only [hbuffers, List.mem_append, List.mem_cons] at hc
    rcases hc with hc | rfl | hc
    · exact ⟨c, by simp [hc], hbase, hend⟩
    · refine ⟨c.take size, by simp, hbase, ?_⟩
      rw [hfits.toNat_cursor_take hb]
      show start + count ≤ c.base.toNat + (c.cursor.toNat + size.toNat)
      omega
    · exact ⟨c, by simp [hc], hbase, hend⟩
  | adopted _ _ => exact ⟨c, by simp [adopt, hc], hbase, hend⟩

/-- As long as buffers are separate, room that is handed out was not handed out before. -/
theorem not_handed (h : Grants memorySize p size address q) (hp : p.Fits memorySize)
    (hm : memorySize < UInt32.size) (hq : q.Separate) {i : Nat}
    (hi : address.toNat ≤ i ∧ i < address.toNat + size.toNat) : ¬ p.Handed i := by
  rintro ⟨c, hc, hci⟩
  have hcovers := (hp c hc).covers_of_handed hci
  cases h with
  | reserved h =>
    obtain ⟨full, b, rest, hbuffers, _, hb, rfl, rfl⟩ := reserve?_eq_some_iff.mp h
    have hfits : b.Fits memorySize := hp b (by simp [hbuffers])
    have hsep : p.Separate := by
      refine hq.of_prefix ?_
      simp [places, hbuffers, StagingBuffer.take]
    rw [hfits.toNat_front hm] at hi
    have hroom := UInt32.le_iff_toNat_le.mp hb
    have hcursor := UInt32.le_iff_toNat_le.mp hfits.cursor_le
    rw [hfits.toNat_remaining] at hroom
    have hbi : b.Covers i := ⟨by omega, by omega⟩
    simp only [hbuffers, List.mem_append, List.mem_cons] at hc
    rcases hc with hc | rfl | hc
    · exact hsep.not_covers hbuffers (Or.inl hc) hbi hcovers
    -- in the buffer itself, the room begins where the part handed out ends
    · have := hci.2
      omega
    · exact hsep.not_covers hbuffers (Or.inr hc) hbi hcovers
  | @adopted capacity hle h =>
    have hle := UInt32.le_iff_toNat_le.mp hle
    have hfresh : StagingBuffer.Covers ⟨address, capacity, min size capacity⟩ i :=
      ⟨hi.1, show i < address.toNat + capacity.toNat by omega⟩
    have hbuffers : (p.adopt address capacity size).buffers
        = p.buffers ++ [⟨address, capacity, min size capacity⟩] := rfl
    exact hq.not_covers hbuffers (Or.inl hc) hfresh hcovers

end Grants

end StagingPool

end ExtensionHost
