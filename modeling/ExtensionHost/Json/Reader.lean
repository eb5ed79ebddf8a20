import ExtensionHost.Json.Value
import ExtensionHost.Text.Numeral

/-!
# Reading JSON

A text is read as one value with blanks around it.  Objects keep the last of several fields with one
name.  Arrays and objects are nested to a bounded depth.

An integer that fits 64 bits is kept; any other number becomes a decimal number in a fixed way that
is fast rather than exact: at most nineteen or twenty digits count, and the result is one product or
quotient of the number they form and a power of ten.

## Main definitions

* `JsonText.number?`, `JsonText.string?` and `JsonText.value?`;
* `Json.parse?`.
-/

namespace ExtensionHost

namespace JsonText

/-- Whether a character is a blank. -/
def isBlank (c : Char) : Bool := c == ' ' || c == '\n' || c == '\t' || c == '\r'

/-- The text without blanks in front. -/
def skipBlanks (text : List Char) : List Char := text.dropWhile isBlank

/-! ### Numbers -/

/-- Digits taken into a number as long as it fits 64 bits: the number, how many digits were taken,
and the rest. -/
def takeDigits (n taken : Nat) : List Char → Nat × Nat × List Char
  | [] => (n, taken, [])
  | c :: rest =>
    if Numeral.isDigit c && n * 10 + (c.toNat - 48) < UInt64.size then
      takeDigits (n * 10 + (c.toNat - 48)) (taken + 1) rest
    else (n, taken, c :: rest)

/-- The power of ten with a natural exponent up to 308. -/
def powerOfTen (e : Nat) : Float := Float.ofScientific 1 false e

/-- The number `x * 10 ^ e`, absent when it is too large.  Steps of a quotient are counted by
`steps`, which is more than are needed before the result is zero. -/
def scale? (x : Float) (e : Int) : Nat → Option Float
  | 0 => some 0
  | steps + 1 =>
    if e.natAbs ≤ 308 then
      if 0 ≤ e then
        let y := x * powerOfTen e.natAbs
        if y.isInf then none else some y
      else some (x / powerOfTen e.natAbs)
    else if x == 0 then some x
    else if 0 ≤ e then none
    else scale? (x / powerOfTen 308) (e + 308) steps

/-- The decimal number of a sign, a significand and an exponent. -/
def assemble? (negative : Bool) (significand : Nat) (e : Int) : Option Json :=
  (scale? (UInt64.ofNat significand).toFloat e 8).map fun x =>
    .decimal (if negative then -x else x)

/-- The least exponent that is too large to be counted. -/
def exponentBound : Nat := 0x80000000

/-- A number from its exponent on. -/
def withExponent? (negative : Bool) (significand : Nat) (e : Int) (text : List Char) :
    Option (Json × List Char) :=
  let (below, digits) := Numeral.splitSign text
  let (digits, rest) := digits.span Numeral.isDigit
  if digits.isEmpty then none
  else
    let power := Numeral.ofDigits digits
    if power < exponentBound then
      (assemble? negative significand (if below then e - power else e + power)).map (·, rest)
    else if significand ≠ 0 ∧ ¬ below then none
    else some (.decimal (if negative then -0.0 else 0.0), rest)

/-- A number after its digits: an exponent may follow. -/
def finish? (negative : Bool) (significand : Nat) (e : Int) (text : List Char) :
    Option (Json × List Char) :=
  match text with
  | c :: rest =>
    if c = 'e' ∨ c = 'E' then withExponent? negative significand e rest
    else (assemble? negative significand e).map (·, text)
  | [] => (assemble? negative significand e).map (·, [])

/-- A number from its point on.  Digits that do not fit the significand are dropped. -/
def withFraction? (negative : Bool) (significand : Nat) (e : Int) (text : List Char) :
    Option (Json × List Char) :=
  let (n, taken, rest) := takeDigits significand 0 text
  let rest' := rest.dropWhile Numeral.isDigit
  if taken = 0 ∧ rest'.length = rest.length then none
  else finish? negative n (e - taken) rest'

/-- A number after its sign. -/
def number? (negative : Bool) (text : List Char) : Option (Json × List Char) :=
  let (n, taken, rest) := takeDigits 0 0 text
  let rest' := rest.dropWhile Numeral.isDigit
  let dropped := rest.length - rest'.length
  if taken = 0 ∨ (text.head? = some '0' ∧ 1 < taken) then none
  else
    match rest' with
    | '.' :: rest'' => withFraction? negative n dropped rest''
    | _ =>
      if dropped ≠ 0 ∨ rest'.head? = some 'e' ∨ rest'.head? = some 'E' then
        finish? negative n dropped rest'
      else if !negative then some (.integer n, rest')
      else if n = 0 ∨ 0x8000000000000000 < n then
        some (.decimal (-(UInt64.ofNat n).toFloat), rest')
      else some (.integer (-n), rest')

/-! ### Strings -/

/-- Four hexadecimal digits. -/
def hex4? : List Char → Option (Nat × List Char)
  | a :: b :: c :: d :: rest => (Numeral.natural? 16 [a, b, c, d]).map (·, rest)
  | _ => none

/-- An escaped character after the letter that announces its number.  Characters beyond the first
plane are written as two halves. -/
def unicode? (text : List Char) : Option (Char × List Char) := do
  let (n, rest) ← hex4? text
  if 0xD800 ≤ n ∧ n < 0xDC00 then
    match rest with
    | '\\' :: 'u' :: rest =>
      let (m, rest) ← hex4? rest
      if 0xDC00 ≤ m ∧ m < 0xE000 then
        some (Char.ofNat (0x10000 + (n - 0xD800) * 0x400 + (m - 0xDC00)), rest)
      else none
    | _ => none
  else if 0xDC00 ≤ n ∧ n < 0xE000 then none
  else some (Char.ofNat n, rest)

/-- The character that a letter stands for after a backslash. -/
def escape? : Char → Option Char
  | '"' => some '"'
  | '\\' => some '\\'
  | '/' => some '/'
  | 'b' => some '\x08'
  | 'f' => some '\x0C'
  | 'n' => some '\n'
  | 'r' => some '\r'
  | 't' => some '\t'
  | _ => none

/-- A string after its opening quote.  Every step takes at least one character, and `fuel` counts
the characters; `taken` holds those of the string so far, the last one first. -/
def stringFrom? : Nat → List Char → List Char → Option (String × List Char)
  | 0, _, _ => none
  | _ + 1, _, [] => none
  | fuel + 1, taken, c :: rest =>
    if c = '"' then some (String.ofList taken.reverse, rest)
    else if c.toNat < 0x20 then none
    else if c ≠ '\\' then stringFrom? fuel (c :: taken) rest
    else
      match rest with
      | 'u' :: rest => do
        let (c, rest) ← unicode? rest
        stringFrom? fuel (c :: taken) rest
      | c :: rest => do
        let c ← escape? c
        stringFrom? fuel (c :: taken) rest
      | [] => none

/-- A string after its opening quote. -/
def string? (text : List Char) : Option (String × List Char) :=
  stringFrom? (text.length + 1) [] text

/-! ### Values -/

/-- Items of a list after its opening bracket, at least one, separated by commas; `fuel` counts the
items that may follow. -/
def items? {α : Type} (item : List Char → Option (α × List Char)) (close : Char) :
    Nat → List Char → Option (List α × List Char)
  | 0, _ => none
  | fuel + 1, text => do
    let (a, rest) ← item (skipBlanks text)
    match skipBlanks rest with
    | ',' :: rest =>
      let (as, rest) ← items? item close fuel rest
      some (a :: as, rest)
    | c :: rest => if c = close then some ([a], rest) else none
    | [] => none

/-- A list after its opening bracket. -/
def list? {α : Type} (item : List Char → Option (α × List Char)) (close : Char)
    (text : List Char) : Option (List α × List Char) :=
  match skipBlanks text with
  | c :: rest => if c = close then some ([], rest) else items? item close text.length text
  | [] => none

/-- A field of an object. -/
def field? (value : List Char → Option (Json × List Char)) :
    List Char → Option ((String × Json) × List Char)
  | '"' :: rest => do
    let (name, rest) ← string? rest
    match skipBlanks rest with
    | ':' :: rest =>
      let (j, rest) ← value (skipBlanks rest)
      some ((name, j), rest)
    | _ => none
  | _ => none

/-- Of several fields with one name, the last one. -/
def keepLast (fields : List (String × Json)) : List (String × Json) :=
  fields.foldl (fun kept (name, j) => kept.filter (·.1 != name) ++ [(name, j)]) []

/-- A word at the start of a text. -/
def word? (word : String) (j : Json) (text : List Char) : Option (Json × List Char) :=
  if word.toList.isPrefixOf text then some (j, text.drop word.toList.length) else none

/-- A value, with arrays and objects nested to at most a depth. -/
def value? : Nat → List Char → Option (Json × List Char)
  | _, [] => none
  | depth, c :: rest =>
    match c with
    | 'n' => word? "null" .null (c :: rest)
    | 't' => word? "true" (.bool true) (c :: rest)
    | 'f' => word? "false" (.bool false) (c :: rest)
    | '"' => (string? rest).map fun (s, rest) => (.string s, rest)
    | '-' => number? true rest
    | '[' =>
      match depth with
      | 0 => none
      | depth + 1 => (list? (value? depth) ']' rest).map fun (as, rest) => (.array as, rest)
    | '\x7b' =>
      match depth with
      | 0 => none
      | depth + 1 =>
        (list? (field? (value? depth)) '\x7d' rest).map fun (fields, rest) =>
          (.object (keepLast fields), rest)
    | _ => number? false (c :: rest)

/-- The depth to which arrays and objects may be nested. -/
def maxDepth : Nat := 127

end JsonText

/-- Read a text as one value. -/
def Json.parse? (text : String) : Option Json :=
  match JsonText.value? JsonText.maxDepth (JsonText.skipBlanks text.toList) with
  | some (j, rest) => if (JsonText.skipBlanks rest).isEmpty then some j else none
  | none => none

end ExtensionHost
