import ExtensionHost.Memory.Linear

/-!
# The bytes of linear memory

What the operations on a `Memory` do to its number of pages and to the answers of
`Memory.byteAt`.  `Memory.write`, `Memory.fill` and `Memory.store` set a run of bytes one after the
other; `Memory.setBytes` is their common form, so that each fact is proved once.

## Main results

* `Memory.byteAt_setByte`
* `Memory.byteAt_write_of_outside`, `Memory.read_write`, a payload and what lies around it
* `Memory.byteAt_grow`, `Memory.overlay_of_pageCount_eq`
* `Memory.read_eq_iff`, a range is read as its bytes are
-/

namespace ExtensionHost

namespace Page

theorem size_pad (bytes : ByteArray) (n : Nat) : (pad bytes n).size = bytes.size + n := by
  induction n generalizing bytes with
  | zero => rfl
  | succ n ih => rw [pad, ih, ByteArray.size_push]; omega

theorem byteAt_of_size_le {p : Page} {i : Nat} (h : p.bytes.size ≤ i) : p.byteAt i = 0 := by
  rw [byteAt, dif_neg (Nat.not_lt.mpr h)]

theorem byteAt_push (bytes : ByteArray) (b : UInt8) (i : Nat) :
    byteAt ⟨bytes.push b⟩ i = if i = bytes.size then b else byteAt ⟨bytes⟩ i := by
  simp only [byteAt, ByteArray.size_push]
  rcases Nat.lt_trichotomy i bytes.size with h | h | h
  · rw [dif_pos (by omega), if_neg (by omega), dif_pos h]
    simp [ByteArray.getElem_eq_getElem_data, Array.getElem_push_lt h]
  · subst h
    rw [dif_pos (by omega), if_pos rfl, ByteArray.getElem_eq_getElem_data]
    exact Array.getElem_push_eq
  · rw [dif_neg (by omega), if_neg (by omega), dif_neg (by omega)]

theorem byteAt_pad (bytes : ByteArray) (n i : Nat) : byteAt ⟨pad bytes n⟩ i = byteAt ⟨bytes⟩ i := by
  induction n generalizing bytes with
  | zero => rfl
  | succ n ih =>
    rw [pad, ih, byteAt_push]
    split
    · exact (byteAt_of_size_le (by simp_all)).symm
    · rfl

theorem byteAt_setByte (p : Page) (i j : Nat) (b : UInt8) :
    (p.setByte i b).byteAt j = if j = i then b else p.byteAt j := by
  by_cases hi : i < p.bytes.size
  · rw [setByte, dif_pos hi]
    simp only [byteAt, ByteArray.getElem_eq_getElem_data, ByteArray.data_set]
    have hsize : (p.bytes.set i b hi).size = p.bytes.size := by
      simp [← ByteArray.size_data]
    by_cases hj : j < p.bytes.size
    · rw [dif_pos (by omega), dif_pos hj]
      by_cases h : j = i
      · subst h; simp
      · rw [if_neg h, Array.getElem_set_ne _ _ (Ne.symm h)]
    · rw [dif_neg (by omega), dif_neg hj, if_neg (by omega)]
  · rw [setByte, dif_neg hi, byteAt_push, size_pad, byteAt_pad]
    rw [show p.bytes.size + (i - p.bytes.size) = i by omega]

end Page

namespace Memory

/-! ### Single bytes -/

@[simp] theorem pageCount_zeroed (n : Nat) : (zeroed n).pageCount = n := Array.size_replicate

@[simp] theorem pageCount_setByte (m : Memory) (i : Nat) (b : UInt8) :
    (m.setByte i b).pageCount = m.pageCount := Array.size_modify

/-- Setting a byte changes that byte alone. -/
theorem byteAt_setByte {m : Memory} {i : Nat} (h : i < m.size) (j : Nat) (b : UInt8) :
    (m.setByte i b).byteAt j = if j = i then b else m.byteAt j := by
  have hpage : i / pageSize < m.pages.size := Nat.div_lt_of_lt_mul (by rwa [Nat.mul_comm])
  simp only [byteAt, setByte, Array.getD_eq_getD_getElem?, Array.getElem?_modify]
  by_cases hij : i / pageSize = j / pageSize
  · have hmod : j % pageSize = i % pageSize ↔ j = i := by
      constructor
      · intro h'
        rw [← Nat.div_add_mod j pageSize, ← Nat.div_add_mod i pageSize, hij, h']
      · rintro rfl
        rfl
    rw [if_pos hij, ← hij, Array.getElem?_eq_getElem hpage]
    simp only [Option.map_some, Option.getD_some, Page.byteAt_setByte, hmod]
  · have hne : j ≠ i := fun hc => hij (hc ▸ rfl)
    rw [if_neg hij, if_neg hne]

/-! ### Runs of bytes -/

/-- Set `count` bytes from a position on. -/
def setBytes (m : Memory) (start count : Nat) (b : ∀ k, k < count → UInt8) : Memory :=
  count.fold (fun k h m => m.setByte (start + k) (b k h)) m

theorem setBytes_succ (m : Memory) (start count : Nat) (b : ∀ k, k < count + 1 → UInt8) :
    m.setBytes start (count + 1) b
      = (m.setBytes start count fun k h => b k (by omega)).setByte (start + count)
          (b count (by omega)) := by
  rw [setBytes, Nat.fold_succ]
  rfl

@[simp] theorem pageCount_setBytes (m : Memory) (start count : Nat) (b : ∀ k, k < count → UInt8) :
    (m.setBytes start count b).pageCount = m.pageCount := by
  induction count with
  | zero => rfl
  | succ count ih => rw [setBytes_succ, pageCount_setByte, ih]

theorem size_eq_of_pageCount_eq {m n : Memory} (h : m.pageCount = n.pageCount) :
    m.size = n.size :=
  congrArg (· * pageSize) h

theorem byteAt_setBytes {m : Memory} {start count : Nat} (h : start + count ≤ m.size)
    (b : ∀ k, k < count → UInt8) (i : Nat) :
    (m.setBytes start count b).byteAt i
      = if hi : start ≤ i ∧ i < start + count then b (i - start) (by omega) else m.byteAt i := by
  induction count with
  | zero => rw [dif_neg (by omega)]; rfl
  | succ count ih =>
    have hsize : (m.setBytes start count fun k h => b k (by omega)).size = m.size :=
      size_eq_of_pageCount_eq (pageCount_setBytes ..)
    rw [setBytes_succ, byteAt_setByte (by omega), ih (by omega)]
    by_cases hi : i = start + count
    · subst hi
      rw [if_pos rfl, dif_pos (by omega)]
      congr 1
      omega
    · rw [if_neg hi]
      by_cases hin : start ≤ i ∧ i < start + count
      · rw [dif_pos hin, dif_pos (by omega)]
      · rw [dif_neg hin, dif_neg (by omega)]

/-- Bytes outside a run that is set keep what they were. -/
theorem byteAt_setBytes_of_outside {m : Memory} {start count : Nat} (h : start + count ≤ m.size)
    (b : ∀ k, k < count → UInt8) {i : Nat} (hi : i < start ∨ start + count ≤ i) :
    (m.setBytes start count b).byteAt i = m.byteAt i := by
  rw [byteAt_setBytes h, dif_neg (by omega)]

theorem write_eq_setBytes (m : Memory) (start : Nat) (bytes : ByteArray) :
    m.write start bytes = m.setBytes start bytes.size fun k _ => bytes[k] := rfl

@[simp] theorem pageCount_write (m : Memory) (start : Nat) (bytes : ByteArray) :
    (m.write start bytes).pageCount = m.pageCount := pageCount_setBytes ..

/-- Bytes outside a payload keep what they were. -/
theorem byteAt_write_of_outside {m : Memory} {start : Nat} {bytes : ByteArray}
    (h : start + bytes.size ≤ m.size) {i : Nat} (hi : i < start ∨ start + bytes.size ≤ i) :
    (m.write start bytes).byteAt i = m.byteAt i :=
  byteAt_setBytes_of_outside h _ hi

/-! ### Reading -/

@[simp] theorem size_read (m : Memory) (start count : Nat) : (m.read start count).size = count := by
  induction count with
  | zero => rfl
  | succ count ih =>
    rw [read, Nat.fold_succ, ByteArray.size_push]
    exact congrArg (· + 1) ih

theorem getElem_read (m : Memory) (start count k : Nat) (hk : k < (m.read start count).size) :
    (m.read start count)[k] = m.byteAt (start + k) := by
  induction count with
  | zero => simp at hk
  | succ count ih =>
    have hread : m.read start (count + 1) = (m.read start count).push (m.byteAt (start + count)) := by
      rw [read, Nat.fold_succ]
      rfl
    simp only [hread, ByteArray.getElem_eq_getElem_data, ByteArray.data_push]
    rw [size_read] at hk
    have hsize : (m.read start count).data.size = count := size_read m start count
    by_cases h : k < count
    · rw [Array.getElem_push_lt (by omega), ← ByteArray.getElem_eq_getElem_data]
      exact ih (by rw [size_read]; exact h)
    · obtain rfl : k = count := by omega
      simp [Array.getElem_push, hsize]

/-- What is read from a range is settled by its bytes. -/
theorem read_eq_iff {m : Memory} {start : Nat} {bytes : ByteArray} :
    m.read start bytes.size = bytes ↔ ∀ k, (h : k < bytes.size) → m.byteAt (start + k) = bytes[k] := by
  constructor
  · intro hread k hk
    rw [← getElem_read m start bytes.size k (by rwa [size_read])]
    simp only [hread]
  · intro h
    refine ByteArray.ext_getElem (size_read ..) fun k hk hk' => ?_
    rw [getElem_read, h k hk']

/-- A payload is read back as it was written. -/
theorem read_write {m : Memory} {start : Nat} {bytes : ByteArray}
    (h : start + bytes.size ≤ m.size) : (m.write start bytes).read start bytes.size = bytes := by
  refine read_eq_iff.mpr fun k hk => ?_
  rw [write_eq_setBytes, byteAt_setBytes h, dif_pos (by omega)]
  simp

/-! ### Growth -/

@[simp] theorem pageCount_grow (m : Memory) (n : Nat) : (m.grow n).pageCount = m.pageCount + n := by
  simp [grow, pageCount]

/-- New pages hold zeros, which is also what lies past the end. -/
theorem byteAt_grow (m : Memory) (n i : Nat) : (m.grow n).byteAt i = m.byteAt i := by
  simp only [byteAt, grow, Array.getD_eq_getD_getElem?, Array.getElem?_append,
    Array.getElem?_replicate]
  split
  · rfl
  · rename_i h
    rw [Array.getElem?_eq_none (Nat.not_lt.mp h)]
    split <;> rfl

@[simp] theorem grow_zero (m : Memory) : m.grow 0 = m := by
  simp [grow]

/-- A memory laid over one of its own size takes its place. -/
theorem overlay_of_pageCount_eq {m captured : Memory} (h : m.pageCount = captured.pageCount) :
    m.overlay captured = captured := by
  rw [overlay, h, Nat.sub_self, grow_zero]

end Memory

end ExtensionHost
