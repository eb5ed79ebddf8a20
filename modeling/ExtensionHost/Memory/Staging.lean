import ExtensionHost.Memory.Slice

/-!
# Staging buffers

Payloads for the guest are staged in buffers that the guest's own allocator handed out.  A pool
hands out bytes from the front of its buffers and never gives a buffer back; before every
invocation all cursors are rewound, so that no payload needs to be freed.

## Main definitions

* `StagingBuffer` and `StagingPool`;
* `StagingPool.reserve?`, first fit among the buffers at hand;
* `StagingPool.growthFor`, `StagingPool.adopt` for a fresh buffer, and `StagingPool.reset`.
-/

namespace ExtensionHost

/-- A buffer obtained from the guest's allocator. -/
structure StagingBuffer where
  /-- The address of its first byte. -/
  base : Address
  /-- Its size. -/
  capacity : UInt32
  /-- The number of bytes handed out since the last rewind. -/
  cursor : UInt32
  deriving DecidableEq, Repr

namespace StagingBuffer

/-- The number of bytes not handed out. -/
def remaining (b : StagingBuffer) : UInt32 := b.capacity - b.cursor

/-- The address of the first byte not handed out. -/
def front (b : StagingBuffer) : Address := Address.offset b.base b.cursor

/-- Hand out `size` bytes. -/
def take (b : StagingBuffer) (size : UInt32) : StagingBuffer :=
  { b with cursor := b.cursor + size }

end StagingBuffer

/-- The buffers of one guest, oldest first. -/
structure StagingPool where
  /-- The buffers, oldest first. -/
  buffers : List StagingBuffer
  /-- The least size of a buffer requested from the guest. -/
  growthIncrement : UInt32
  deriving DecidableEq, Repr

namespace StagingPool

/-- The pool without buffers.  It never requests a buffer of no size. -/
def new (growthIncrement : UInt32) : StagingPool := ⟨[], max growthIncrement 1⟩

/-- The number of buffers. -/
def size (p : StagingPool) : Nat := p.buffers.length

/-- Whether the pool has no buffer. -/
def isEmpty (p : StagingPool) : Bool := p.buffers.isEmpty

/-- The number of bytes obtained from the guest. -/
def capacity (p : StagingPool) : UInt64 :=
  p.buffers.foldl (fun n b => n + b.capacity.toUInt64) 0

/-- Take `size` bytes from the first of some buffers that has them. -/
def reserveIn? (size : UInt32) : List StagingBuffer → Option (Address × List StagingBuffer)
  | [] => none
  | b :: rest =>
    if size ≤ b.remaining then some (b.front, b.take size :: rest)
    else (reserveIn? size rest).map fun (address, rest) => (address, b :: rest)

/-- Take `size` bytes from the first buffer that has them. -/
def reserve? (p : StagingPool) (size : UInt32) : Option (Address × StagingPool) :=
  (reserveIn? size p.buffers).map fun (address, buffers) => (address, { p with buffers })

/-- The size of the buffer to request from the guest for a payload of `size` bytes. -/
def growthFor (p : StagingPool) (size : UInt32) : UInt32 := max size p.growthIncrement

/-- Add a fresh buffer and take `size` bytes from it. -/
def adopt (p : StagingPool) (base : Address) (capacity size : UInt32) : StagingPool :=
  { p with buffers := p.buffers ++ [⟨base, capacity, min size capacity⟩] }

/-- Rewind every cursor. -/
def reset (p : StagingPool) : StagingPool :=
  { p with buffers := p.buffers.map ({ · with cursor := 0 }) }

end StagingPool

end ExtensionHost
