import ExtensionHost.Json.Value

/-!
# Writing JSON

A value is written without blanks.  In strings the quote, the backslash and control characters are
escaped.  Values with decimal numbers are not written: no record of this library holds one.

## Main definitions

* `JsonText.escaped`, the form of one character of a string;
* `Json.render?`.
-/

namespace ExtensionHost

namespace JsonText

/-- The digits of a number below 256 in base sixteen. -/
def hexPair (n : Nat) : List Char := [Nat.digitChar (n / 16), Nat.digitChar (n % 16)]

/-- The form of a character of a string. -/
def escaped (c : Char) : List Char :=
  match c with
  | '"' => ['\\', '"']
  | '\\' => ['\\', '\\']
  | '\n' => ['\\', 'n']
  | '\r' => ['\\', 'r']
  | '\t' => ['\\', 't']
  | '\x08' => ['\\', 'b']
  | '\x0C' => ['\\', 'f']
  | c => if c.toNat < 0x20 then ['\\', 'u', '0', '0'] ++ hexPair c.toNat else [c]

/-- A string between quotes. -/
def quoted (s : String) : List Char := ['"'] ++ s.toList.flatMap escaped ++ ['"']

mutual

/-- The text of a value. -/
def text? : Json → Option (List Char)
  | .null => some "null".toList
  | .bool true => some "true".toList
  | .bool false => some "false".toList
  | .integer n => some (toString n).toList
  | .decimal _ => none
  | .string s => some (quoted s)
  | .array items => do
    let texts ← itemTexts? items
    return ['['] ++ [','].intercalate texts ++ [']']
  | .object fields => do
    let texts ← fieldTexts? fields
    return ['\x7b'] ++ [','].intercalate texts ++ ['\x7d']

/-- The texts of the items of an array. -/
def itemTexts? : List Json → Option (List (List Char))
  | [] => some []
  | j :: rest => do
    let text ← text? j
    return text :: (← itemTexts? rest)

/-- The texts of the fields of an object. -/
def fieldTexts? : List (String × Json) → Option (List (List Char))
  | [] => some []
  | field :: rest => do
    let text ← fieldText? field
    return text :: (← fieldTexts? rest)

/-- The text of a field of an object. -/
def fieldText? : String × Json → Option (List Char)
  | (name, j) => do
    let text ← text? j
    return quoted name ++ [':'] ++ text

end

end JsonText

/-- The text of a value, without blanks. -/
def Json.render? (j : Json) : Option String := (JsonText.text? j).map String.ofList

end ExtensionHost
