/-!
# UTF-8 payloads

Text crosses the boundary between host and guest as bytes.  `Utf8.decode` reads such bytes, and on
malformed input it names the first `Utf8.Fault`: how many bytes before it form whole characters,
and how long the rejected sequence is, or that the input ends inside a sequence.

## Main definitions

* `Utf8.Fault`, with its wording `Utf8.Fault.message`;
* `Utf8.firstFault`, a scan by one octet at a time;
* `Utf8.decode`.
-/

namespace ExtensionHost

namespace Utf8

/-- The place where a byte sequence stops being UTF-8. -/
structure Fault where
  /-- The number of bytes before the fault; they form whole characters. -/
  start : Nat
  /-- The length of the rejected sequence, absent when the input ends inside a sequence. -/
  length : Option Nat
  deriving DecidableEq, Repr

/-- The wording of a fault. -/
def Fault.message (f : Fault) : String :=
  match f.length with
  | some n => s!"invalid utf-8 sequence of {n} bytes from index {f.start}"
  | none => s!"incomplete utf-8 byte sequence from index {f.start}"

/-- What a started character still needs: a number of further octets, the next of which lies
between two bounds.  Every later octet is a plain continuation octet. -/
structure Pending where
  /-- The number of octets still owed. -/
  owed : Nat
  /-- The least value of the next octet. -/
  low : UInt8
  /-- The greatest value of the next octet. -/
  high : UInt8
  deriving DecidableEq, Repr

/-- How an octet may open a character. -/
inductive Opening where
  /-- The octet is a character by itself. -/
  | whole
  /-- The octet starts a longer character. -/
  | pending (rest : Pending)
  /-- No character starts with the octet. -/
  | invalid
  deriving DecidableEq, Repr

/-- The first octet of a character decides its length and, to exclude overlong forms, surrogates
and code points past the last one, the bounds of its second octet. -/
def Opening.ofByte (b : UInt8) : Opening :=
  if b < 0x80 then .whole
  else if b < 0xC2 then .invalid
  else if b < 0xE0 then .pending ⟨1, 0x80, 0xBF⟩
  else if b = 0xE0 then .pending ⟨2, 0xA0, 0xBF⟩
  else if b = 0xED then .pending ⟨2, 0x80, 0x9F⟩
  else if b < 0xF0 then .pending ⟨2, 0x80, 0xBF⟩
  else if b = 0xF0 then .pending ⟨3, 0x90, 0xBF⟩
  else if b < 0xF4 then .pending ⟨3, 0x80, 0xBF⟩
  else if b = 0xF4 then .pending ⟨3, 0x80, 0x8F⟩
  else .invalid

/-- Scan on from a position with `start` bytes of whole characters behind it, and, inside a
character, `taken` octets of it. -/
def scan (start taken : Nat) : Option Pending → List UInt8 → Option Fault
  | none, [] => none
  | some _, [] => some ⟨start, none⟩
  | none, b :: rest =>
    match Opening.ofByte b with
    | .whole => scan (start + 1) 0 none rest
    | .pending p => scan start 1 (some p) rest
    | .invalid => some ⟨start, some 1⟩
  | some p, b :: rest =>
    if p.low ≤ b ∧ b ≤ p.high then
      if p.owed ≤ 1 then scan (start + taken + 1) 0 none rest
      else scan start (taken + 1) (some ⟨p.owed - 1, 0x80, 0xBF⟩) rest
    else some ⟨start, some taken⟩

/-- The first fault of a byte sequence, if it has one. -/
def firstFault (bytes : ByteArray) : Option Fault :=
  scan 0 0 none bytes.data.toList

/-- Read bytes as text, or name the first fault. -/
def decode (bytes : ByteArray) : Except Fault String :=
  match String.fromUTF8? bytes with
  | some text => .ok text
  | none => .error ((firstFault bytes).getD ⟨0, none⟩)

end Utf8

end ExtensionHost
