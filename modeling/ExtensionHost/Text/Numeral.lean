/-!
# Numerals

Numbers as people write them in settings: integers with an optional sign, and decimal numbers with
an optional point and exponent.

## Main definitions

* `Numeral.natural?`, digits of a base;
* `Numeral.signed?` and `Numeral.int64?`, integers with a sign;
* `Numeral.unsigned64?`, natural numbers that fit a word;
* `Numeral.scientific` and `Numeral.decimal?`, floating-point numbers.
-/

namespace ExtensionHost

namespace Numeral

/-- The value of a digit of a base up to sixteen. -/
def digitValue? (base : Nat) (c : Char) : Option Nat :=
  let value :=
    if '0' ≤ c ∧ c ≤ '9' then c.toNat - 48
    else if 'a' ≤ c ∧ c ≤ 'f' then c.toNat - 87
    else if 'A' ≤ c ∧ c ≤ 'F' then c.toNat - 55
    else base
  if value < base then some value else none

/-- Whether a character is a decimal digit. -/
def isDigit (c : Char) : Bool := '0' ≤ c && c ≤ '9'

/-- The number that digits stand for, of which there is at least one. -/
def natural? (base : Nat) (digits : List Char) : Option Nat :=
  if digits.isEmpty then none
  else digits.foldlM (fun n c => (digitValue? base c).map (n * base + ·)) 0

/-- The number of digits that are known to be decimal. -/
def ofDigits (digits : List Char) : Nat := digits.foldl (fun n c => n * 10 + (c.toNat - 48)) 0

/-- A sign, if there is one, and what follows it. -/
def splitSign : List Char → Bool × List Char
  | '-' :: rest => (true, rest)
  | '+' :: rest => (false, rest)
  | text => (false, text)

/-- An integer with an optional sign. -/
def signed? (base : Nat) (text : List Char) : Option Int :=
  let (negative, digits) := splitSign text
  (natural? base digits).map fun n => if negative then -(n : Int) else n

/-- An integer of 64 bits with an optional sign. -/
def int64? (base : Nat) (text : List Char) : Option Int :=
  (signed? base text).filter fun n => -0x8000000000000000 ≤ n && n < 0x8000000000000000

/-- A natural number of 64 bits with an optional plus sign. -/
def unsigned64? (text : List Char) : Option Nat :=
  let digits := match text with
    | '+' :: rest => rest
    | text => text
  (natural? 10 digits).filter (· < UInt64.size)

/-- The floating-point number nearest to `m * 10 ^ e`.  Numbers that are too large or too small in
any case are recognised by their number of digits. -/
def scientific (m : Nat) (e : Int) : Float :=
  if m = 0 then 0
  else
    let magnitude := ((Nat.toDigits 10 m).length : Int) + e
    if magnitude > 310 then 1.0 / 0.0
    else if magnitude < -330 then 0
    else Float.ofScientific m (e < 0) e.natAbs

/-- The exponent that ends a decimal number; it is zero when there is none. -/
def exponent? : List Char → Option Int
  | [] => some 0
  | c :: rest => if c = 'e' ∨ c = 'E' then signed? 10 rest else none

/-- A decimal number without a sign: digits, with a point anywhere among them or none, and an
optional exponent. -/
def magnitude? (text : List Char) : Option Float :=
  let (whole, rest) := text.span isDigit
  let (fraction, rest) := match rest with
    | '.' :: rest => rest.span isDigit
    | rest => ([], rest)
  if whole.isEmpty && fraction.isEmpty then none
  else
    (exponent? rest).map fun e =>
      scientific (ofDigits (whole ++ fraction)) (e - fraction.length)

/-- A decimal number with an optional sign, or a word for infinity or for no number, in any case. -/
def decimal? (text : String) : Option Float :=
  let (negative, body) := splitSign text.toList
  let value := match String.ofList (body.map Char.toLower) with
    | "inf" | "infinity" => some (1.0 / 0.0)
    | "nan" => some (0.0 / 0.0)
    | _ => magnitude? body
  value.map fun x => if negative then -x else x

end Numeral

end ExtensionHost
