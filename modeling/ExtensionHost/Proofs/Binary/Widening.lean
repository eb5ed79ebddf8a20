import ExtensionHost.Binary.Float
import Mathlib.Tactic.Ring

/-!
# Single precision in double precision

A word of either format is a sign, an exponent and a fraction, and stands for a number
(`Number.ofFields`).  Widening a single-precision word keeps the number that it stands for.

**Units.**  A finite number is a multiple of the least positive one.  That of single precision is
`2 ^ 925` times that of double precision, so magnitudes are counted in units of the latter in both
formats, and no fractions are needed.

## Main definitions

* `Number`, with `Binary32.number` and `Binary64.number`

## Main results

* `Binary32.number_widen`
-/

namespace ExtensionHost

/-- A number that a floating-point word stands for.  The magnitude of a finite one counts multiples
of the least positive number of double precision. -/
inductive Number where
  | finite (negative : Bool) (magnitude : Nat)
  | infinite (negative : Bool)
  | nan
  deriving DecidableEq, Repr

/-- The number that a sign, an exponent and a fraction stand for, in a format whose fractions have
`digits` binary digits, whose greatest exponent is `top` and whose least positive number is
`2 ^ scale` units. -/
def Number.ofFields (digits top scale : Nat) (negative : Bool) (exponent fraction : Nat) : Number :=
  if exponent = top then
    if fraction = 0 then .infinite negative else .nan
  else if exponent = 0 then .finite negative (fraction * 2 ^ scale)
  else .finite negative ((2 ^ digits + fraction) * 2 ^ (exponent - 1 + scale))

section Fields

variable {digits top scale exponent fraction : Nat} {negative : Bool}

theorem Number.ofFields_top :
    ofFields digits top scale negative top fraction
      = if fraction = 0 then .infinite negative else .nan := if_pos rfl

theorem Number.ofFields_zero (htop : 0 < top) :
    ofFields digits top scale negative 0 fraction = .finite negative (fraction * 2 ^ scale) := by
  rw [ofFields, if_neg (Nat.ne_of_lt htop), if_pos rfl]

theorem Number.ofFields_normal (hpositive : 0 < exponent) (htop : exponent < top) :
    ofFields digits top scale negative exponent fraction
      = .finite negative ((2 ^ digits + fraction) * 2 ^ (exponent - 1 + scale)) := by
  rw [ofFields, if_neg (Nat.ne_of_lt htop), if_neg (Nat.ne_of_gt hpositive)]

end Fields

/-- The number that a single-precision word stands for. -/
def Binary32.number (w : UInt32) : Number :=
  .ofFields 23 255 925 (2 ^ 31 ≤ w.toNat) (w.toNat / 2 ^ 23 % 2 ^ 8) (w.toNat % 2 ^ 23)

/-- The number that a double-precision word stands for. -/
def Binary64.number (w : UInt64) : Number :=
  .ofFields 52 2047 0 (2 ^ 63 ≤ w.toNat) (w.toNat / 2 ^ 52 % 2 ^ 11) (w.toNat % 2 ^ 52)

namespace Binary64

/-- The fields of a word do not overlap. -/
theorem toNat_fields {sign exponent fraction : UInt64} (hs : sign.toNat < 2)
    (he : exponent.toNat < 2 ^ 11) (hf : fraction.toNat < 2 ^ 52) :
    (sign <<< 63 ||| exponent <<< 52 ||| fraction).toNat
      = 2 ^ 63 * sign.toNat + 2 ^ 52 * exponent.toNat + fraction.toNat := by
  have hsign : (sign <<< 63).toNat = 2 ^ 63 * sign.toNat := by
    rw [UInt64.toNat_shiftLeft, Nat.shiftLeft_eq]
    show sign.toNat * 2 ^ 63 % 2 ^ 64 = _
    omega
  have hexponent : (exponent <<< 52).toNat = 2 ^ 52 * exponent.toNat := by
    rw [UInt64.toNat_shiftLeft, Nat.shiftLeft_eq]
    show exponent.toNat * 2 ^ 52 % 2 ^ 64 = _
    omega
  have hupper : 2 ^ 63 * sign.toNat + 2 ^ 52 * exponent.toNat
      = 2 ^ 52 * (2 ^ 11 * sign.toNat + exponent.toNat) := by omega
  rw [UInt64.toNat_or, UInt64.toNat_or, hsign, hexponent,
    ← Nat.two_pow_add_eq_or_of_lt (show 2 ^ 52 * exponent.toNat < 2 ^ 63 by omega), hupper,
    ← Nat.two_pow_add_eq_or_of_lt hf]

/-- A word stands for the number of its fields. -/
theorem number_fields {sign : UInt64} (exponent fraction : UInt64) (hs : sign.toNat < 2)
    (he : exponent.toNat < 2 ^ 11) (hf : fraction.toNat < 2 ^ 52) :
    number (sign <<< 63 ||| exponent <<< 52 ||| fraction)
      = .ofFields 52 2047 0 (sign.toNat = 1) exponent.toNat fraction.toNat := by
  rw [number, toNat_fields hs he hf]
  congr 1
  · exact decide_eq_decide.mpr (by omega)
  · omega
  · omega

end Binary64

namespace Binary32

theorem toNat_sign (w : UInt32) : (w >>> 31).toUInt64.toNat = w.toNat / 2 ^ 31 := by
  rw [UInt32.toNat_toUInt64, UInt32.toNat_shiftRight, Nat.shiftRight_eq_div_pow]
  rfl

theorem toNat_exponent (w : UInt32) :
    ((w >>> 23) &&& 0xFF).toUInt64.toNat = w.toNat / 2 ^ 23 % 2 ^ 8 := by
  rw [UInt32.toNat_toUInt64, UInt32.toNat_and, UInt32.toNat_shiftRight, Nat.shiftRight_eq_div_pow]
  exact Nat.and_two_pow_sub_one_eq_mod _ 8

theorem toNat_fraction (w : UInt32) : (w &&& 0x7FFFFF).toUInt64.toNat = w.toNat % 2 ^ 23 := by
  rw [UInt32.toNat_toUInt64, UInt32.toNat_and]
  exact Nat.and_two_pow_sub_one_eq_mod _ 23

section Widening

variable {sign exponent fraction : UInt64} (hs : sign.toNat < 2) (hf : fraction.toNat < 2 ^ 23)

include hf in
/-- A fraction is as long in double precision, from its first digit on. -/
theorem toNat_aligned : (fraction <<< 29).toNat = 2 ^ 29 * fraction.toNat := by
  rw [UInt64.toNat_shiftLeft, Nat.shiftLeft_eq]
  show fraction.toNat * 2 ^ 29 % 2 ^ 64 = _
  omega

include hs

theorem number_of_zero :
    Binary64.number (sign <<< 63) = .ofFields 23 255 925 (sign.toNat = 1) 0 0 := by
  have hfields := Binary64.number_fields 0 0 hs (by decide) (by decide)
  rw [UInt64.or_zero, UInt64.zero_shiftLeft, UInt64.or_zero] at hfields
  rw [hfields, Number.ofFields_zero (by decide), UInt64.toNat_zero, Number.ofFields_zero (by decide),
    Nat.zero_mul, Nat.zero_mul]

include hf

/-- What is no number, or is infinite, stays so. -/
theorem number_of_top :
    Binary64.number (sign <<< 63 ||| (0x7FF0000000000000 : UInt64)
        ||| (if fraction == 0 then (0 : UInt64) else 0x8000000000000) ||| fraction <<< 29)
      = .ofFields 23 255 925 (sign.toNat = 1) 255 fraction.toNat := by
  rw [Number.ofFields_top]
  by_cases hzero : fraction = 0
  · subst hzero
    have hfields := Binary64.number_fields 0x7FF 0 hs (by decide) (by decide)
    rw [if_pos (by decide), if_pos (by decide), UInt64.or_assoc]
    exact hfields.trans Number.ofFields_top
  · have hpositive : fraction.toNat ≠ 0 := fun h => hzero (UInt64.toNat_inj.mp h)
    have hquiet : ((0x8000000000000 : UInt64) ||| fraction <<< 29).toNat
        = 2 ^ 51 ||| 2 ^ 29 * fraction.toNat := by
      rw [UInt64.toNat_or, toNat_aligned hf]
      rfl
    have hbound : 2 ^ 51 ||| 2 ^ 29 * fraction.toNat < 2 ^ 52 :=
      Nat.or_lt_two_pow (by decide) (by omega)
    have hfraction : 2 ^ 51 ||| 2 ^ 29 * fraction.toNat ≠ 0 :=
      fun h => absurd (Nat.or_eq_zero_iff.mp h).1 (by decide)
    have hfields := Binary64.number_fields 0x7FF _ hs (by decide) (hquiet ▸ hbound)
    rw [if_neg (by simpa using hzero), if_neg hpositive, UInt64.or_assoc]
    refine hfields.trans (Number.ofFields_top.trans ?_)
    rw [hquiet, if_neg hfraction]

/-- A normal number stays one. -/
theorem number_of_normal (hpositive : 0 < exponent.toNat) (htop : exponent.toNat < 255) :
    Binary64.number (sign <<< 63 ||| (exponent + 896) <<< 52 ||| fraction <<< 29)
      = .ofFields 23 255 925 (sign.toNat = 1) exponent.toNat fraction.toNat := by
  have hrebased : (exponent + 896).toNat = exponent.toNat + 896 := by
    rw [UInt64.toNat_add]
    show (exponent.toNat + 896) % 2 ^ 64 = _
    omega
  rw [Binary64.number_fields _ _ hs (by omega) (by rw [toNat_aligned hf]; omega), hrebased,
    toNat_aligned hf, Number.ofFields_normal (by omega) (by omega),
    Number.ofFields_normal hpositive htop]
  have hexponent : exponent.toNat - 1 + 925 = exponent.toNat + 896 - 1 + 0 + 29 := by omega
  rw [hexponent, Nat.pow_add 2 (exponent.toNat + 896 - 1 + 0) 29]
  generalize 2 ^ (exponent.toNat + 896 - 1 + 0) = unit
  exact congrArg (Number.finite _) (by ring)

/-- A subnormal number becomes a normal one. -/
theorem number_of_subnormal (hpositive : 0 < fraction.toNat) :
    Binary64.number (sign <<< 63 ||| UInt64.ofNat (fraction.toNat.log2 + 874) <<< 52 |||
        UInt64.ofNat (fraction.toNat <<< (52 - fraction.toNat.log2)) &&& 0xFFFFFFFFFFFFF)
      = .ofFields 23 255 925 (sign.toNat = 1) 0 fraction.toNat := by
  generalize fraction.toNat = n at hf hpositive ⊢
  generalize hdigits : n.log2 = k
  have hk : k < 23 := hdigits ▸ (Nat.log2_lt (by omega)).mpr hf
  have hlow : 2 ^ k ≤ n := hdigits ▸ Nat.log2_self_le (by omega)
  have hhigh : n < 2 ^ (k + 1) := hdigits ▸ Nat.lt_log2_self
  have hone : 2 ^ k * 2 ^ (52 - k) = 2 ^ 52 := by
    rw [← Nat.pow_add, Nat.add_sub_cancel' (by omega)]
  have htwo : 2 ^ (k + 1) * 2 ^ (52 - k) = 2 ^ 53 := by
    rw [← Nat.pow_add, show k + 1 + (52 - k) = 53 by omega]
  have hge : 2 ^ 52 ≤ n * 2 ^ (52 - k) := hone ▸ Nat.mul_le_mul_right _ hlow
  have hlt : n * 2 ^ (52 - k) < 2 ^ 53 :=
    htwo ▸ Nat.mul_lt_mul_of_pos_right hhigh (Nat.two_pow_pos _)
  -- the leading digit is left out
  have hcut : (UInt64.ofNat (n <<< (52 - k)) &&& 0xFFFFFFFFFFFFF).toNat
      = n * 2 ^ (52 - k) - 2 ^ 52 := by
    rw [UInt64.toNat_and, UInt64.toNat_ofNat', Nat.shiftLeft_eq]
    refine (Nat.and_two_pow_sub_one_eq_mod _ 52).trans ?_
    omega
  have hrebased : (UInt64.ofNat (k + 874)).toNat = k + 874 :=
    UInt64.toNat_ofNat_of_lt' (by show k + 874 < 2 ^ 64; omega)
  rw [Binary64.number_fields _ _ hs (by omega) (by omega), hcut, hrebased,
    Number.ofFields_normal (by omega) (by omega), Number.ofFields_zero (by decide)]
  generalize hscale : 925 = scale
  have hexponent : 52 - k + (k + 874 - 1 + 0) = scale := by omega
  rw [Nat.add_sub_cancel' hge, Nat.mul_assoc, ← Nat.pow_add, hexponent]

end Widening

/-- **Widening is exact.**  A widened word stands for the number that it stood for before. -/
theorem number_widen (w : UInt32) : Binary64.number (widen w) = number w := by
  have hsign : decide (2 ^ 31 ≤ w.toNat) = decide (w.toNat / 2 ^ 31 = 1) := by
    have := w.toNat_lt
    exact decide_eq_decide.mpr (by omega)
  rw [number, hsign, ← toNat_sign, ← toNat_exponent, ← toNat_fraction, widen]
  have hs : (w >>> 31).toUInt64.toNat < 2 := by
    have := w.toNat_lt
    rw [toNat_sign]
    omega
  have he : ((w >>> 23) &&& 0xFF).toUInt64.toNat < 2 ^ 8 := by
    rw [toNat_exponent]
    exact Nat.mod_lt _ (by decide)
  have hf : (w &&& 0x7FFFFF).toUInt64.toNat < 2 ^ 23 := by
    rw [toNat_fraction]
    exact Nat.mod_lt _ (by decide)
  generalize (w >>> 31).toUInt64 = sign at hs ⊢
  generalize ((w >>> 23) &&& 0xFF).toUInt64 = exponent at he ⊢
  generalize (w &&& 0x7FFFFF).toUInt64 = fraction at hf ⊢
  by_cases htop : exponent = 255
  · subst htop
    exact number_of_top hs hf
  have htop' : exponent.toNat ≠ 255 := fun h => htop (UInt64.toNat_inj.mp h)
  rw [if_neg (by simpa using htop)]
  by_cases hnone : exponent = 0
  · subst hnone
    rw [if_neg (by decide)]
    by_cases hzero : fraction = 0
    · subst hzero
      rw [if_pos (by decide)]
      exact number_of_zero hs
    · have hpositive : fraction.toNat ≠ 0 := fun h => hzero (UInt64.toNat_inj.mp h)
      rw [if_neg (by simpa using hzero)]
      exact number_of_subnormal hs hf (Nat.pos_of_ne_zero hpositive)
  · have hpositive : exponent.toNat ≠ 0 := fun h => hnone (UInt64.toNat_inj.mp h)
    rw [if_pos (by simpa using hnone)]
    exact number_of_normal hs hf (Nat.pos_of_ne_zero hpositive) (by omega)

end Binary32

end ExtensionHost
