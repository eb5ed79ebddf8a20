import ExtensionHost.Config.Basic
import ExtensionHost.Memory.Linear
import Mathlib.Order.Bounds.Defs

/-!
# Which settings are usable

Settings are checked in words of 32 and 64 bits, with divisions that round down.  The rule is a
strict inequality between numbers: the memory limit exceeds the first staging buffer by more than
seventy per cent (`EngineConfig.LeavesRoom`).

**Why the two agree.**  A number exceeds a fraction if and only if it exceeds the fraction rounded
down.  This is used twice: for the tenths of a byte in the required size, and for the part of a page
in the least limit.  No word overflows on the way: seventeen times a buffer of 32 bits has no more
than 37, and its pages no more than 17.

## Main definitions

* `EngineConfig.LeavesRoom`, the rule in numbers
* `EngineConfig.IsExact`, computed quantities are what they are in unbounded arithmetic

## Main results

* `EngineConfig.isExact`
* `EngineConfig.validate_eq_ok_iff`
* `EngineConfig.memoryLimitBytes_lt`, memory is addressable under valid settings
* `EngineConfig.isLeast_minMemoryLimitPages`
* `EngineConfig.validation_is_exact`
-/

namespace ExtensionHost

namespace EngineConfig

/-- So many pages hold a first staging buffer of a size with more than seventy per cent to spare. -/
def LeavesRoom (bufferSize pages : Nat) : Prop := 17 * bufferSize < 10 * (pageSize * pages)

instance (bufferSize pages : Nat) : Decidable (LeavesRoom bufferSize pages) :=
  inferInstanceAs (Decidable (_ < _))

/-- Rounding down twice does not change which numbers of pages leave room. -/
theorem leavesRoom_iff {bufferSize pages : Nat} :
    LeavesRoom bufferSize pages ↔ 17 * bufferSize / 10 / pageSize + 1 ≤ pages := by
  rw [LeavesRoom, pageSize]
  omega

/-- Nothing is lost in the arithmetic on settings. -/
structure IsExact (c : EngineConfig) : Prop where
  /-- The memory limit in bytes. -/
  limit : c.memoryLimitBytes.toNat = pageSize * c.effectiveMemoryLimitPages.toNat
  /-- The product from which the required size comes. -/
  product : (c.preallocatedBufferSize.toUInt64 * 17).toNat = 17 * c.preallocatedBufferSize.toNat
  /-- The required size. -/
  required : c.requiredBytes.toNat = 17 * c.preallocatedBufferSize.toNat / 10
  /-- The number of pages that the required size takes, and one more. -/
  quotient : (c.requiredBytes / pageBytes + 1).toNat
    = 17 * c.preallocatedBufferSize.toNat / 10 / pageSize + 1
  /-- This number in a narrower word. -/
  narrowed : c.minMemoryLimitPages.toNat
    = 17 * c.preallocatedBufferSize.toNat / 10 / pageSize + 1

variable {c : EngineConfig}

/-- The limit in bytes is the limit in pages. -/
theorem toNat_memoryLimitBytes (c : EngineConfig) :
    c.memoryLimitBytes.toNat = pageSize * c.effectiveMemoryLimitPages.toNat := by
  have hpages := c.effectiveMemoryLimitPages.toNat_lt
  rw [memoryLimitBytes, UInt64.toNat_mul, UInt32.toNat_toUInt64,
    show pageBytes.toNat = 65536 from rfl, pageSize]
  omega

theorem isExact (c : EngineConfig) : c.IsExact := by
  have hbuffer := c.preallocatedBufferSize.toNat_lt
  have hproduct : (c.preallocatedBufferSize.toUInt64 * 17).toNat
      = 17 * c.preallocatedBufferSize.toNat := by
    rw [UInt64.toNat_mul, UInt32.toNat_toUInt64, show (17 : UInt64).toNat = 17 from rfl]
    omega
  have hrequired : c.requiredBytes.toNat = 17 * c.preallocatedBufferSize.toNat / 10 := by
    rw [requiredBytes, UInt64.toNat_div, hproduct, show (10 : UInt64).toNat = 10 from rfl]
  have hquotient : (c.requiredBytes / pageBytes + 1).toNat
      = 17 * c.preallocatedBufferSize.toNat / 10 / pageSize + 1 := by
    rw [UInt64.toNat_add, UInt64.toNat_div, hrequired, show pageBytes.toNat = 65536 from rfl,
      show (1 : UInt64).toNat = 1 from rfl, pageSize]
    omega
  refine ⟨c.toNat_memoryLimitBytes, hproduct, hrequired, hquotient, ?_⟩
  rw [minMemoryLimitPages, UInt64.toNat_toUInt32, hquotient, pageSize]
  omega

/-- The check of the limit, in numbers. -/
theorem memoryLimitBytes_le_requiredBytes_iff :
    c.memoryLimitBytes ≤ c.requiredBytes ↔
      ¬ LeavesRoom c.preallocatedBufferSize.toNat c.effectiveMemoryLimitPages.toNat := by
  rw [UInt64.le_iff_toNat_le, c.toNat_memoryLimitBytes, c.isExact.required, LeavesRoom]
  omega

theorem maxMemoryLimitPages_lt_iff :
    maxMemoryLimitPages < c.effectiveMemoryLimitPages ↔
      ¬ c.effectiveMemoryLimitPages.toNat ≤ 0xFFFF := by
  rw [UInt32.lt_iff_toNat_lt, Nat.not_le]
  rfl

theorem epochTickMillis_eq_zero_iff :
    c.epochTickMillis = 0 ↔ ¬ 0 < c.epochTickMillis.toNat := by
  rw [← UInt64.toNat_inj, Nat.not_lt, Nat.le_zero]
  rfl

/-- The three checks of settings, in numbers. -/
theorem validate_eq (c : EngineConfig) : c.validate =
    if ¬ c.effectiveMemoryLimitPages.toNat ≤ 0xFFFF then
      .error (.memoryLimitTooHigh c.effectiveMemoryLimitPages maxMemoryLimitPages)
    else if ¬ LeavesRoom c.preallocatedBufferSize.toNat c.effectiveMemoryLimitPages.toNat then
      .error (.memoryLimitTooLow c.effectiveMemoryLimitPages c.minMemoryLimitPages
        c.preallocatedBufferSize)
    else if ¬ 0 < c.epochTickMillis.toNat then
      .error (.config (.stated "epoch_tick_ms must be greater than zero"))
    else .ok () := by
  simp only [validate, maxMemoryLimitPages_lt_iff, memoryLimitBytes_le_requiredBytes_iff,
    epochTickMillis_eq_zero_iff]

/-- Settings are usable if they pass all three. -/
theorem validate_eq_ok_iff : c.validate = .ok () ↔
    c.effectiveMemoryLimitPages.toNat ≤ 0xFFFF ∧
      LeavesRoom c.preallocatedBufferSize.toNat c.effectiveMemoryLimitPages.toNat ∧
      0 < c.epochTickMillis.toNat := by
  rw [validate_eq]
  grind

theorem effectiveMemoryLimitPages_le (h : c.validate = .ok ()) :
    c.effectiveMemoryLimitPages.toNat ≤ 0xFFFF :=
  (validate_eq_ok_iff.mp h).1

/-- Under valid settings the memory limit is below the number of addresses. -/
theorem memoryLimitBytes_lt (h : c.validate = .ok ()) :
    c.memoryLimitBytes.toNat < UInt32.size := by
  have hle := effectiveMemoryLimitPages_le h
  rw [toNat_memoryLimitBytes, pageSize, UInt32.size]
  omega

/-- The least limit is the least number of pages that leaves room. -/
theorem isLeast_minMemoryLimitPages (c : EngineConfig) :
    IsLeast {pages | 1 ≤ pages ∧ LeavesRoom c.preallocatedBufferSize.toNat pages}
      c.minMemoryLimitPages.toNat := by
  rw [c.isExact.narrowed]
  constructor
  · exact ⟨Nat.le_add_left .., leavesRoom_iff.mpr (Nat.le_refl _)⟩
  · rintro pages ⟨-, hroom⟩
    exact leavesRoom_iff.mp hroom

/-- A limit that is given is in force. -/
theorem effectiveMemoryLimitPages_of_pos {pages : UInt32} (h : 0 < pages)
    (hpages : c.memoryLimitPages = pages) : c.effectiveMemoryLimitPages = pages := by
  rw [effectiveMemoryLimitPages, hpages, if_neg (UInt32.pos_iff_ne_zero.mp h)]

/-- Limits up to the highest one are usable from the least limit on. -/
theorem validate_withLimit_eq_ok_iff (c : EngineConfig) {pages : UInt32} {tick : UInt64}
    (hpages : 0 < pages) (hmax : pages ≤ 0xFFFF) (htick : 0 < tick) :
    { c with memoryLimitPages := pages, epochTickMillis := tick }.validate = .ok () ↔
      c.minMemoryLimitPages ≤ pages := by
  have hmax : pages.toNat ≤ 0xFFFF := UInt32.le_iff_toNat_le.mp hmax
  have htick : 0 < tick.toNat := UInt64.lt_iff_toNat_lt.mp htick
  rw [validate_eq_ok_iff, effectiveMemoryLimitPages_of_pos hpages rfl, UInt32.le_iff_toNat_le,
    c.isExact.narrowed, ← leavesRoom_iff]
  exact ⟨fun h => h.2.1, fun h => ⟨hmax, h, htick⟩⟩

/-- **Validation is exact.**  Take any settings, with a limit that is given or, where it is zero,
the highest one.  They are usable if and only if the limit is at most 65535 pages, it exceeds the
first staging buffer by more than seventy per cent, and ticks have a length; otherwise the error is
that of the first of these three that does not hold.  The least limit, which is what a limit that is
too low is compared with in its error, is the least positive number of pages that leaves room; a
limit of one to 65535 pages is usable, with ticks of some length, from this number on.  None of the
words on the way is too narrow. -/
theorem validation_is_exact (c : EngineConfig) :
    let pages := c.effectiveMemoryLimitPages
    let bufferSize := c.preallocatedBufferSize
    (c.validate = .ok () ↔ pages.toNat ≤ 0xFFFF ∧ LeavesRoom bufferSize.toNat pages.toNat ∧
        0 < c.epochTickMillis.toNat) ∧
      (¬ pages.toNat ≤ 0xFFFF → c.validate = .error (.memoryLimitTooHigh pages 0xFFFF)) ∧
      (pages.toNat ≤ 0xFFFF → ¬ LeavesRoom bufferSize.toNat pages.toNat →
        c.validate = .error (.memoryLimitTooLow pages c.minMemoryLimitPages bufferSize)) ∧
      (pages.toNat ≤ 0xFFFF → LeavesRoom bufferSize.toNat pages.toNat →
        ¬ 0 < c.epochTickMillis.toNat →
        c.validate = .error (.config (.stated "epoch_tick_ms must be greater than zero"))) ∧
      IsLeast {n | 1 ≤ n ∧ LeavesRoom bufferSize.toNat n} c.minMemoryLimitPages.toNat ∧
      (∀ (n : UInt32) (tick : UInt64), 0 < n → n ≤ 0xFFFF → 0 < tick →
        ({ c with memoryLimitPages := n, epochTickMillis := tick }.validate = .ok () ↔
          c.minMemoryLimitPages ≤ n)) ∧
      c.IsExact := by
  intro pages bufferSize
  refine ⟨validate_eq_ok_iff, fun hhigh => ?_, fun hfits hlow => ?_, fun hfits hroom htick => ?_,
    c.isLeast_minMemoryLimitPages, fun n tick hpos hmax htick => ?_, c.isExact⟩
  · rw [validate_eq, if_pos hhigh]
    rfl
  · rw [validate_eq, if_neg (not_not_intro hfits), if_pos hlow]
  · rw [validate_eq, if_neg (not_not_intro hfits), if_neg (not_not_intro hroom), if_pos htick]
  · exact c.validate_withLimit_eq_ok_iff hpos hmax htick

/-- The default settings need 26 pages: a limit of 25 leaves too little room, and is told so. -/
theorem validation_is_exact_sample :
    { default with memoryLimitPages := 26 }.validate = .ok () ∧
      { default with memoryLimitPages := 25 }.validate
        = .error (.memoryLimitTooLow 25 26 1000000) := by
  constructor
  · obtain ⟨-, -, -, -, -, hlimits, -⟩ := validation_is_exact default
    exact (hlimits 26 10 (by decide) (by decide) (by decide)).mpr (by decide)
  · obtain ⟨-, -, hlow, -⟩ := validation_is_exact { default with memoryLimitPages := 25 }
    exact hlow (by decide) (by decide)

end EngineConfig

end ExtensionHost
