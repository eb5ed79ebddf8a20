/-!
# Percent encoding

Bytes that a URL cannot show are written as a percent sign and two hexadecimal digits.

## Main definitions

* `Percent.encode`, which escapes the bytes of a class;
* `Percent.decode`, which undoes every escape and leaves anything else alone.
-/

namespace ExtensionHost

namespace Percent

/-- A digit of an escape. -/
def digit (n : UInt8) : Char :=
  if n < 10 then Char.ofNat (48 + n.toNat) else Char.ofNat (55 + n.toNat)

/-- The value of a hexadecimal digit. -/
def digitValue? (b : UInt8) : Option UInt8 :=
  if 48 ≤ b ∧ b ≤ 57 then some (b - 48)
  else if 65 ≤ b ∧ b ≤ 70 then some (b - 55)
  else if 97 ≤ b ∧ b ≤ 102 then some (b - 87)
  else none

/-- Escape the bytes for which `special` holds, and every byte outside ASCII. -/
def encode (special : UInt8 → Bool) (text : String) : String :=
  String.ofList <| text.toUTF8.data.toList.flatMap fun b =>
    if 0x80 ≤ b ∨ special b then ['%', digit (b / 16), digit (b % 16)]
    else [Char.ofNat b.toNat]

/-- Undo every escape. -/
def decodeBytes : List UInt8 → List UInt8
  | 37 :: a :: b :: rest =>
    match digitValue? a, digitValue? b with
    | some a, some b => (a * 16 + b) :: decodeBytes rest
    | _, _ => 37 :: decodeBytes (a :: b :: rest)
  | b :: rest => b :: decodeBytes rest
  | [] => []

/-- The bytes that a text stands for. -/
def decode (text : String) : ByteArray := ⟨(decodeBytes text.toUTF8.data.toList).toArray⟩

end Percent

end ExtensionHost
