/-!
# Floating-point words

Numbers cross the boundary between host and guest as their binary words.  This file reads such
words without doing arithmetic on them: when two are equal as numbers, and which double-precision
word a single-precision word widens to.

## Main definitions

* `Binary32.equal` and `Binary64.equal`, equality of numbers: no NaN equals anything, and the two
  zeros are equal;
* `Binary32.widen`, the exact conversion to double precision;
* `Binary64.roundToWord`, the nearest natural number that fits a word.
-/

namespace ExtensionHost

namespace Binary32

/-- Whether the word is not a number: all exponent bits set and a fraction. -/
def isNaN (w : UInt32) : Bool := (w &&& 0x7FFFFFFF) > 0x7F800000

/-- Whether the word is one of the two zeros. -/
def isZero (w : UInt32) : Bool := (w &&& 0x7FFFFFFF) == 0

/-- Equality of the numbers that two words stand for. -/
def equal (v w : UInt32) : Bool :=
  !isNaN v && !isNaN w && (v == w || (isZero v && isZero w))

/-- The word of the same number in double precision.  A subnormal number has its leading bit
shifted into the place of the implicit one. -/
def widen (w : UInt32) : UInt64 :=
  let sign : UInt64 := (w >>> 31).toUInt64 <<< 63
  let exponent : UInt64 := ((w >>> 23) &&& 0xFF).toUInt64
  let fraction : UInt64 := (w &&& 0x7FFFFF).toUInt64
  let aligned : UInt64 := fraction <<< 29
  if exponent == 0xFF then
    let quiet : UInt64 := if fraction == 0 then 0 else 0x8000000000000
    sign ||| 0x7FF0000000000000 ||| quiet ||| aligned
  else if exponent != 0 then
    let rebased : UInt64 := (exponent + 896) <<< 52
    sign ||| rebased ||| aligned
  else if fraction == 0 then sign
  else
    let top := fraction.toNat.log2
    let rebased : UInt64 := UInt64.ofNat (top + 874) <<< 52
    let normalised : UInt64 := UInt64.ofNat (fraction.toNat <<< (52 - top)) &&& 0xFFFFFFFFFFFFF
    sign ||| rebased ||| normalised

end Binary32

namespace Binary64

/-- Whether the word is not a number: all exponent bits set and a fraction. -/
def isNaN (w : UInt64) : Bool := (w &&& 0x7FFFFFFFFFFFFFFF) > 0x7FF0000000000000

/-- Whether the word is one of the two zeros. -/
def isZero (w : UInt64) : Bool := (w &&& 0x7FFFFFFFFFFFFFFF) == 0

/-- Equality of the numbers that two words stand for. -/
def equal (v w : UInt64) : Bool :=
  !isNaN v && !isNaN w && (v == w || (isZero v && isZero w))

/-- The nearest natural number, at most `2 ^ 64 - 1`: halves go up, negative numbers and no number
go to zero.  The word stands for `m * 2 ^ (e - 1075)`. -/
def roundToWord (w : UInt64) : UInt64 :=
  if isNaN w || w >>> 63 != 0 then 0
  else
    let exponent := (w >>> 52).toNat
    let fraction := (w &&& 0xFFFFFFFFFFFFF).toNat
    let m := if exponent = 0 then fraction else fraction + 0x10000000000000
    let e := max exponent 1
    let n := if 1075 ≤ e then m <<< (e - 1075) else (m + 1 <<< (1074 - e)) >>> (1075 - e)
    UInt64.ofNat (min n (UInt64.size - 1))

end Binary64

end ExtensionHost
