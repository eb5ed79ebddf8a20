/-!
# Lower case

Names of settings, variables and formats are compared without regard to case, that is, by their
forms in lower case.  The table covers the scripts that have case and whose letters have lower-case
forms of one letter.

## Main definitions

* `Lower.char` and `Lower.text`.
-/

namespace ExtensionHost

namespace Lower

/-- Ranges of capitals that lie at a fixed distance below their lower-case forms: the first and the
last capital and the distance. -/
def shifted : List (Nat × Nat × Nat) := [
  (0x41, 0x5A, 32), (0xC0, 0xD6, 32), (0xD8, 0xDE, 32), (0x388, 0x38A, 37), (0x391, 0x3A1, 32),
  (0x3A3, 0x3AB, 32), (0x400, 0x40F, 80), (0x410, 0x42F, 32), (0x531, 0x556, 48),
  (0x2160, 0x216F, 16), (0x24B6, 0x24CF, 26), (0xFF21, 0xFF3A, 32), (0x10400, 0x10427, 40)]

/-- Ranges in which every capital with an even number precedes its lower-case form. -/
def evenPairs : List (Nat × Nat) := [
  (0x100, 0x12F), (0x132, 0x137), (0x14A, 0x177), (0x1DE, 0x1EF), (0x1F8, 0x21F), (0x222, 0x233),
  (0x3D8, 0x3EF), (0x460, 0x481), (0x48A, 0x4BF), (0x4D0, 0x52F), (0x1E00, 0x1E95),
  (0x1EA0, 0x1EFF)]

/-- Ranges in which every capital with an odd number precedes its lower-case form. -/
def oddPairs : List (Nat × Nat) := [(0x139, 0x148), (0x179, 0x17E), (0x1CD, 0x1DC), (0x4C1, 0x4CE)]

/-- Capitals with lower-case forms of their own. -/
def single : List (Nat × Nat) := [
  (0x178, 0xFF), (0x386, 0x3AC), (0x38C, 0x3CC), (0x38E, 0x3CD), (0x38F, 0x3CE), (0x4C0, 0x4CF),
  (0x1E9E, 0xDF), (0x2126, 0x3C9), (0x212A, 0x6B), (0x212B, 0xE5)]

/-- The number of the lower-case form of the character with a number. -/
def code (n : Nat) : Nat :=
  match shifted.find? fun (first, last, _) => first ≤ n && n ≤ last with
  | some (_, _, distance) => n + distance
  | none =>
    if evenPairs.any (fun (first, last) => first ≤ n && n ≤ last) && n % 2 == 0 then n + 1
    else if oddPairs.any (fun (first, last) => first ≤ n && n ≤ last) && n % 2 == 1 then n + 1
    else (single.lookup n).getD n

/-- The lower-case form of a character. -/
def char (c : Char) : Char := if c.toNat < 0x80 then c.toLower else Char.ofNat (code c.toNat)

/-- The lower-case form of a text. -/
def text (s : String) : String := String.ofList (s.toList.map char)

end Lower

end ExtensionHost
