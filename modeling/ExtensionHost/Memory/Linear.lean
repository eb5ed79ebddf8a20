import ExtensionHost.Bytes
import ExtensionHost.Memory.Slice

/-!
# Linear memory

The memory of a guest is a whole number of pages of bytes.  A page is kept only up to the last byte
ever written to it: what lies behind is zero, and a page never written to takes no room.

Everything observable goes through `Memory.size` and `Memory.byteAt`; the other operations are
folds of `Memory.setByte`.

## Main definitions

* `Memory`, `Memory.byteAt` and `Memory.setByte`;
* `Memory.read`, `Memory.write`, `Memory.fill`, `Memory.load` and `Memory.store`;
* `Memory.grow` and `Memory.overlay`.
-/

namespace ExtensionHost

/-- The number of bytes in a page. -/
abbrev pageSize : Nat := 65536

/-- A page of memory, kept up to the last byte written to it. -/
structure Page where
  /-- The bytes up to the last one written. -/
  bytes : ByteArray
  deriving DecidableEq

namespace Page

/-- A page of zeros. -/
def blank : Page := ⟨.empty⟩

instance : Inhabited Page := ⟨blank⟩

/-- The byte at a position. -/
def byteAt (p : Page) (i : Nat) : UInt8 :=
  if h : i < p.bytes.size then p.bytes[i] else 0

/-- Append `n` zeros. -/
def pad (bytes : ByteArray) : Nat → ByteArray
  | 0 => bytes
  | n + 1 => pad (bytes.push 0) n

/-- Change the byte at a position. -/
def setByte (p : Page) (i : Nat) (b : UInt8) : Page :=
  if h : i < p.bytes.size then ⟨p.bytes.set i b h⟩
  else ⟨(pad p.bytes (i - p.bytes.size)).push b⟩

end Page

/-- The memory of a guest. -/
structure Memory where
  /-- The pages in order. -/
  pages : Array Page
  deriving DecidableEq

namespace Memory

/-- A memory of `n` pages of zeros. -/
def zeroed (n : Nat) : Memory := ⟨Array.replicate n Page.blank⟩

instance : Inhabited Memory := ⟨zeroed 0⟩

/-- The number of pages. -/
def pageCount (m : Memory) : Nat := m.pages.size

/-- The number of bytes. -/
def size (m : Memory) : Nat := m.pageCount * pageSize

/-- The byte at a position; past the end it is zero. -/
def byteAt (m : Memory) (i : Nat) : UInt8 :=
  (m.pages.getD (i / pageSize) Page.blank).byteAt (i % pageSize)

/-- Change the byte at a position; past the end nothing happens. -/
def setByte (m : Memory) (i : Nat) (b : UInt8) : Memory :=
  ⟨m.pages.modify (i / pageSize) fun page => page.setByte (i % pageSize) b⟩

/-- The `count` bytes from a position on. -/
def read (m : Memory) (start count : Nat) : ByteArray :=
  count.fold (fun k _ bytes => bytes.push (m.byteAt (start + k))) ByteArray.empty

/-- Write bytes from a position on. -/
def write (m : Memory) (start : Nat) (bytes : ByteArray) : Memory :=
  bytes.size.fold (fun k h m => m.setByte (start + k) bytes[k]) m

/-- Write one byte `count` times from a position on. -/
def fill (m : Memory) (start : Nat) (b : UInt8) (count : Nat) : Memory :=
  count.fold (fun k _ m => m.setByte (start + k) b) m

/-- The number whose `count` bytes stand at a position, the lowest one first. -/
def load (m : Memory) (start count : Nat) : UInt64 :=
  count.fold (fun k _ w => w ||| ((m.byteAt (start + k)).toUInt64 <<< UInt64.ofNat (8 * k))) 0

/-- Write the lowest `count` bytes of a number at a position, the lowest one first. -/
def store (m : Memory) (start count : Nat) (w : UInt64) : Memory :=
  count.fold (fun k _ m => m.setByte (start + k) (w >>> UInt64.ofNat (8 * k)).toUInt8) m

/-- Append `n` pages of zeros. -/
def grow (m : Memory) (n : Nat) : Memory := ⟨m.pages ++ Array.replicate n Page.blank⟩

/-- Lay a captured memory over this one: its bytes replace the first ones, and what lies behind
them becomes zero.  The result is as large as the larger of the two. -/
def overlay (m captured : Memory) : Memory :=
  captured.grow (m.pageCount - captured.pageCount)

end Memory

end ExtensionHost
