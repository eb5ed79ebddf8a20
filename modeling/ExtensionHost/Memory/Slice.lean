/-!
# Addresses and slices

Guests address their memory with 32-bit numbers.  A `Slice` is an address with a length; a slice
travels to the guest as one word, the address in its upper half and the length in its lower half.

## Main definitions

* `Address.offset`, which stops at the last address;
* `Slice`, `Slice.rangeIn?`, `Slice.pack` and `Slice.unpack`;
* `checkedAllocation?`, the test that an allocation must pass before the host uses it.
-/

namespace ExtensionHost

/-- A position in the memory of a guest. -/
abbrev Address := UInt32

/-- The address some bytes further on, or the last address there is. -/
def Address.offset (a : Address) (bytes : UInt32) : Address :=
  if a.toNat + bytes.toNat < UInt32.size then a + bytes else UInt32.ofNat (UInt32.size - 1)

/-- A range of bytes in the memory of a guest. -/
structure Slice where
  /-- The address of the first byte. -/
  ptr : Address
  /-- The number of bytes. -/
  len : UInt32
  deriving DecidableEq, Repr

namespace Slice

/-- The first position and the position after the last one, if the slice lies within a memory of
`memoryLength` bytes. -/
def rangeIn? (s : Slice) (memoryLength : Nat) : Option (Nat × Nat) :=
  if s.ptr.toNat + s.len.toNat ≤ memoryLength then
    some (s.ptr.toNat, s.ptr.toNat + s.len.toNat)
  else none

/-- The word that stands for a slice. -/
def pack (s : Slice) : UInt64 := (s.ptr.toUInt64 <<< 32) ||| s.len.toUInt64

/-- The slice that a word stands for. -/
def unpack (w : UInt64) : Slice := ⟨(w >>> 32).toUInt32, w.toUInt32⟩

end Slice

/-- The base of an allocation, if it may be used: it is not null, which is how a guest's allocator
reports failure, and all of the allocation lies within memory. -/
def checkedAllocation? (base : Address) (capacity : UInt32) (memoryLength : Nat) :
    Option Address :=
  if base = 0 then none
  else ((Slice.mk base capacity).rangeIn? memoryLength).map fun _ => base

end ExtensionHost
