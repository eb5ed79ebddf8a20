import ExtensionHost.Binary.Float
import Mathlib.Algebra.GroupWithZero.Nat

/-!
# Large words as floating-point numbers

A natural number from `2 ^ 63` on that fits a word has eleven binary digits more than a
double-precision number can hold.  As such a number it is rounded to a multiple of `2048`, of two
that are equally near to the even one; the word that is read from it is this multiple, or the
greatest word if the multiple is `2 ^ 64`.

The significand is cut by shifting one digit at a time, where the digit that was cut last and
whether any other one was set are kept (`shiftRight_eq`).  Rounding may carry into one digit more,
and then one more shift leaves the leading digit alone.

## Main definitions

* `Binary64.significand`

## Main results

* `Binary64.toNat_roundToWord_toFloat`
-/

namespace ExtensionHost

namespace Binary64

open Float.Model Float.Model.UnpackedFloat

/-- How many times `2048` fits a number best: of two multiples that are equally near, the even
one. -/
def significand (n : Nat) : Nat :=
  if n % 2048 < 1024 then n / 2048
  else if n % 2048 = 1024 then n / 2048 + n / 2048 % 2
  else n / 2048 + 1

/-! ### Cutting digits -/

/-- What is left of a number after `k + 1` binary digits were cut: the digit cut last, and whether
another one was set, are kept. -/
theorem shiftRight_eq (n k : Nat) :
    (⟨n, false, false⟩ : ExtendedMantissa) >>> (k + 1)
      = ⟨n / 2 ^ (k + 1), n / 2 ^ k % 2 != 0, n % 2 ^ k != 0⟩ := by
  induction k with
  | zero =>
    show (⟨n / 2, n % 2 != 0, false || false⟩ : ExtendedMantissa) = _
    simp [Nat.mod_one]
  | succ k ih =>
    show ExtendedMantissa.shiftRightOne ((⟨n, false, false⟩ : ExtendedMantissa) >>> (k + 1)) = _
    rw [ih, ExtendedMantissa.shiftRightOne]
    have hsticky : ((n / 2 ^ k % 2 != 0) || (n % 2 ^ k != 0)) = (n % 2 ^ (k + 1) != 0) := by
      have hsplit : n % 2 ^ (k + 1) = n % 2 ^ k + 2 ^ k * (n / 2 ^ k % 2) := by
        rw [Nat.pow_succ, Nat.mod_mul]
      rw [hsplit, Bool.eq_iff_iff]
      have hpos := Nat.two_pow_pos k
      rcases Nat.mod_two_eq_zero_or_one (n / 2 ^ k) with hbit | hbit <;> simp [hbit]
    rw [hsticky]
    congr 1
    rw [Nat.div_div_eq_div_mul, ← Nat.pow_succ]

/-- A number is rounded where its last eleven digits are cut. -/
theorem roundedMantissa_shiftRight (n : Nat) :
    ((⟨n, false, false⟩ : ExtendedMantissa) >>> 11).roundedMantissa = significand n := by
  have hcut : n / 2 ^ (10 + 1) = n / 2048 := rfl
  rw [shiftRight_eq n 10, hcut, ExtendedMantissa.roundedMantissa, significand]
  cases hbit : (n / 2 ^ 10 % 2 != 0) <;> cases hrest : (n % 2 ^ 10 != 0) <;>
    simp only [bne_eq_false_iff_eq, bne_iff_ne] at hbit hrest <;>
    simp only [ExtendedMantissa.accuracy, Accuracy.roundToNearestEven]
  · rw [if_pos (by omega)]
  · rw [if_pos (by omega)]
  · rw [if_neg (by omega), if_pos (by omega)]
  · rw [if_neg (by omega), if_neg (by omega)]

/-- The exponent of the last of fifty-three digits. -/
theorem targetExponent_eq {n k : Nat} (h : n.log2 = 52 + k) {e : Int} (he : 0 ≤ e) :
    Format.targetExponent .binary64 (totalExponent n e) = e + k := by
  show max ((n.log2 : Int) + 1 + e - (53 : Nat)) (3 - 1024 - (53 : Nat)) = e + k
  omega

/-- A number of more than fifty-three digits is cut to fifty-three. -/
theorem shiftToTargetExponent_eq {n k : Nat} (h : n.log2 = 52 + k) {e : Int} (he : 0 ≤ e) :
    shiftToTargetExponent .binary64 n e .exact
      = ((⟨n, false, false⟩ : ExtendedMantissa) >>> k, e + k) := by
  have hcut : (e + k - e).toNat = k := by omega
  simp only [shiftToTargetExponent, targetExponent_eq h he, shiftToExponent, hcut]
  rfl

/-- A number is cut, rounded, and cut once more. -/
theorem roundWithAccuracy_eq {n m last : Nat} {e e₁ e₂ : Int} {cut again : ExtendedMantissa}
    (hcut : shiftToTargetExponent .binary64 n e .exact = (cut, e₁))
    (hround : cut.roundedMantissa = m)
    (hagain : shiftToTargetExponent .binary64 m e₁ .exact = (again, e₂))
    (hlast : again.mantissa = last) (hpos : 0 < last) :
    roundWithAccuracy .binary64 .positive n e .exact = .finite .positive last e₂ hpos := by
  subst hround hlast
  rw [roundWithAccuracy, hcut]
  dsimp only
  rw [hagain]
  exact dif_neg (Nat.ne_of_gt hpos)

/-- The word of a number: its sign, its exponent and its significand, the
leading digit of which is left out. -/
theorem pack_finite {m : Nat} {e : Int} (hpos : 0 < m) :
    UnpackedFloat.pack .binary64 (.finite .positive m e hpos)
      = if 2048 ≤ (e + 1023 + 52).toNat + 1 then packedInfinity .binary64 .positive
        else if m.log2 + 1 = 53 then
          packComponents .binary64 .positive (.ofNat 11 (e + 1023 + 52).toNat) (.ofNat 52 m)
        else packComponents .binary64 .positive 0 (.ofNat 52 m) := rfl

/-! ### Rounding -/

section Large

variable {n : Nat} (hmin : 2 ^ 63 ≤ n) (hmax : n < 2 ^ 64)

include hmin hmax

theorem le_significand : 2 ^ 52 ≤ significand n := by
  rw [significand]
  split
  · omega
  · split <;> omega

theorem significand_le : significand n ≤ 2 ^ 53 := by
  rw [significand]
  split
  · omega
  · split <;> omega

/-- A number is rounded to fifty-three digits.  If the last digit is carried over all others, one
more digit is cut. -/
theorem ofNat_eq_finite : ∃ m e, ∃ hpos : 0 < m,
    UnpackedFloat.ofNat .binary64 n = .finite .positive m (e : Nat) hpos ∧
      (significand n < 2 ^ 53 ∧ m = significand n ∧ e = 11 ∨
        significand n = 2 ^ 53 ∧ m = 2 ^ 52 ∧ e = 12) := by
  have hlog : n.log2 = 52 + 11 := (Nat.log2_eq_iff (by omega)).mpr ⟨hmin, hmax⟩
  have hround : UnpackedFloat.ofNat .binary64 n
      = roundWithAccuracy .binary64 .positive n 0 .exact := by
    have hpos : compare (n : Int) 0 = .gt := Int.compare_eq_gt.mpr (by omega)
    rw [UnpackedFloat.ofNat, UnpackedFloat.ofInt, UnpackedFloat.normalize, hpos]
    simp only [UnpackedFloat.round, Int.toNat_natCast, targetExponent_eq hlog (Int.le_refl 0)]
    rfl
  have hlow := le_significand hmin hmax
  have hhigh := significand_le hmin hmax
  have hcut := shiftToTargetExponent_eq hlog (Int.le_refl 0)
  rw [hround]
  rcases Nat.lt_or_ge (significand n) (2 ^ 53) with hlt | hge
  · have hlog' : (significand n).log2 = 52 + 0 := (Nat.log2_eq_iff (by omega)).mpr ⟨hlow, hlt⟩
    have hagain := shiftToTargetExponent_eq hlog' (e := 11) (by decide)
    have hpos : 0 < significand n := by omega
    exact ⟨significand n, 11, hpos,
      roundWithAccuracy_eq hcut (roundedMantissa_shiftRight n) hagain rfl hpos,
      Or.inl ⟨hlt, rfl, rfl⟩⟩
  · have heq : significand n = 2 ^ 53 := by omega
    have hagain := shiftToTargetExponent_eq (n := 2 ^ 53) (k := 1) (e := 11) (by decide) (by decide)
    exact ⟨2 ^ 52, 12, by decide,
      roundWithAccuracy_eq hcut ((roundedMantissa_shiftRight n).trans heq) hagain rfl (by decide),
      Or.inr ⟨heq, rfl, rfl⟩⟩

/-- The word of the number: its exponent, and its significand without the leading digit. -/
theorem toNat_toBits_toFloat :
    ∃ m e, (significand n < 2 ^ 53 ∧ m = significand n ∧ e = 11 ∨
        significand n = 2 ^ 53 ∧ m = 2 ^ 52 ∧ e = 12) ∧
      (UInt64.ofNat n).toFloat.toBits.toNat = (e + 1075) * 2 ^ 52 + m % 2 ^ 52 := by
  obtain ⟨m, e, hpos, hfinite, hcases⟩ := ofNat_eq_finite hmin hmax
  refine ⟨m, e, hcases, ?_⟩
  have hlow := le_significand hmin hmax
  have hlog : m.log2 = 52 := (Nat.log2_eq_iff (by omega)).mpr (by omega)
  have he : ((e : Int) + 1023 + 52).toNat = e + 1075 := by omega
  have hn : (UInt64.ofNat n).toNat = n := UInt64.toNat_ofNat_of_lt' hmax
  show (UnpackedFloat.pack .binary64
    (UnpackedFloat.ofNat .binary64 (UInt64.ofNat n).toNat)).toNat = _
  rw [hn, hfinite]
  rw [pack_finite, he, hlog, if_neg (by omega), if_pos rfl]
  show (0#1 ++ BitVec.ofNat 11 (e + 1075) ++ BitVec.ofNat 52 m).toNat = _
  have hfits : e + 1075 < 2 ^ 11 := by omega
  simp only [BitVec.toNat_append, BitVec.toNat_ofNat, Nat.mod_eq_of_lt hfits]
  rw [← Nat.shiftLeft_add_eq_or_of_lt (Nat.mod_lt m (by decide)), Nat.shiftLeft_eq]
  simp

end Large

/-! ### Reading the word -/

theorem toNat_and_ones (w : UInt64) {k : Nat} (hk : k ≤ 64) :
    (w &&& UInt64.ofNat (2 ^ k - 1)).toNat = w.toNat % 2 ^ k := by
  have hpow : 2 ^ k ≤ 2 ^ 64 := Nat.pow_le_pow_right (by decide) hk
  rw [UInt64.toNat_and, UInt64.toNat_ofNat_of_lt' (by show 2 ^ k - 1 < 2 ^ 64; omega),
    Nat.and_two_pow_sub_one_eq_mod]

/-- The natural number that is read from the word of a large number, which has no fraction. -/
theorem toNat_roundToWord {w : UInt64} {x f : Nat} (hw : w.toNat = x * 2 ^ 52 + f)
    (hf : f < 2 ^ 52) (hmin : 1075 ≤ x) (hmax : x < 2047) :
    (roundToWord w).toNat = min ((f + 2 ^ 52) * 2 ^ (x - 1075)) (2 ^ 64 - 1) := by
  have hall : (w &&& 0x7FFFFFFFFFFFFFFF).toNat = w.toNat % 2 ^ 63 :=
    toNat_and_ones w (k := 63) (by decide)
  have hfraction : (w &&& 0xFFFFFFFFFFFFF).toNat = f := by
    have hlast : (w &&& 0xFFFFFFFFFFFFF).toNat = w.toNat % 2 ^ 52 :=
      toNat_and_ones w (k := 52) (by decide)
    omega
  have hexponent : (w >>> 52).toNat = x := by
    rw [UInt64.toNat_shiftRight, Nat.shiftRight_eq_div_pow, hw]
    show (x * 2 ^ 52 + f) / 2 ^ 52 = x
    omega
  have hsign : w >>> 63 = 0 := by
    rw [← UInt64.toNat_inj, UInt64.toNat_shiftRight, Nat.shiftRight_eq_div_pow, hw]
    show (x * 2 ^ 52 + f) / 2 ^ 63 = 0
    omega
  have hnumber : isNaN w = false := by
    rw [isNaN, decide_eq_false_iff_not, gt_iff_lt, UInt64.lt_iff_toNat_lt, hall, hw]
    show ¬ 2047 * 2 ^ 52 < (x * 2 ^ 52 + f) % 2 ^ 63
    omega
  have hzero : x ≠ 0 := by omega
  have hone : max x 1 = x := by omega
  simp only [roundToWord, hnumber, hsign, hexponent, hfraction, hzero, hone, hmin]
  simp only [bne_self_eq_false, Bool.or_false, Bool.false_eq_true, if_false, if_true]
  rw [Nat.shiftLeft_eq]
  have hlast : UInt64.size - 1 = 2 ^ 64 - 1 := rfl
  rw [hlast, UInt64.toNat_ofNat_of_lt' (by show min _ (2 ^ 64 - 1) < 2 ^ 64; omega)]
  rfl

/-- **Large words are rounded.**  What is read from the floating-point number of a number from
`2 ^ 63` on is the multiple of `2048` nearest to it, or the greatest word. -/
theorem toNat_roundToWord_toFloat {n : Nat} (hmin : 2 ^ 63 ≤ n) (hmax : n < 2 ^ 64) :
    (roundToWord (UInt64.ofNat n).toFloat.toBits).toNat
      = min (significand n * 2048) (2 ^ 64 - 1) := by
  obtain ⟨m, e, hcases, hbits⟩ := toNat_toBits_toFloat hmin hmax
  have hlow := le_significand hmin hmax
  rw [toNat_roundToWord hbits (Nat.mod_lt m (by decide)) (by omega) (by omega)]
  rcases hcases with ⟨hlt, rfl, rfl⟩ | ⟨heq, rfl, rfl⟩
  · have hleading : significand n % 2 ^ 52 + 2 ^ 52 = significand n := by omega
    rw [hleading]
    rfl
  · rw [heq]
    rfl

/-- Of large words, the multiples of `2048` and the greatest one are read as they are. -/
theorem rounded_eq_iff {n : Nat} (hmin : 2 ^ 63 ≤ n) (hmax : n < 2 ^ 64) :
    min (significand n * 2048) (2 ^ 64 - 1) = n ↔ 2048 ∣ n ∨ n = 2 ^ 64 - 1 := by
  rw [significand]
  split
  · omega
  · split <;> omega

end Binary64

end ExtensionHost
