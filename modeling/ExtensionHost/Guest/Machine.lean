import ExtensionHost.Bridge.HostFunction
import ExtensionHost.Guest.Failure
import ExtensionHost.Memory.Linear
import ExtensionHost.Memory.Staging
import ExtensionHost.State.Adapter
import ExtensionHost.Assoc

/-!
# The state of a running guest

Between runs a guest is its `GuestState`: memory, globals, the size of its table, the staging
buffers that the host got from it, and whether a growth of its memory was refused.  During a run the
`Machine` adds what lasts only that long: the exports that host functions go through, the state of
the adapter bound to the run, and the time left.  What never changes during a run is its `Sandbox`.

A step of a run is a function from a machine to an outcome and the machine after it (`Run`); a
failure keeps all effects made before it.

## Main definitions

* `GuestState`, `Exports`, `Machine`, `Sandbox` and `Run`;
* `Run.growMemory` and `Run.growTable`, the two requests that may be refused.
-/

namespace ExtensionHost

namespace Guest

/-- What is left of a guest between runs. -/
structure GuestState where
  /-- The linear memory. -/
  memory : Memory
  /-- The contents of the globals, by name. -/
  globals : Assoc String UInt64
  /-- The number of elements of the table. -/
  tableSize : Nat
  /-- The staging buffers obtained from the guest. -/
  pool : StagingPool
  /-- Whether a growth of memory was refused. -/
  growthRefused : Bool
  deriving DecidableEq

/-- The functions of a guest that the host calls, by their names in the program. -/
structure Exports where
  /-- Allocates. -/
  malloc : String
  /-- Frees. -/
  free : String
  /-- Fails unless the guest was made for this version of the boundary. -/
  abiVersion : String
  /-- Counts the bytes allocated. -/
  heapInUse : String
  /-- Counts the bytes obtained from the host. -/
  heapSys : String
  /-- Counts allocations. -/
  heapMallocs : String
  /-- Counts frees. -/
  heapFrees : String
  /-- Collects garbage. -/
  heapGc : String
  /-- Receives a row of an iteration. -/
  onReadValue : String
  deriving DecidableEq, Repr

/-- A guest during a run. -/
structure Machine (σ : Type) where
  /-- The guest. -/
  guest : GuestState
  /-- The exports, absent as long as the guest is being instantiated. -/
  exports : Option Exports
  /-- The state of the adapter, absent outside invocations. -/
  bound : Option σ
  /-- The number of ticks left. -/
  budget : Nat

/-- What does not change during a run. -/
structure Sandbox (σ : Type) where
  /-- The program. -/
  program : Program
  /-- The package that the program belongs to. -/
  package : String
  /-- The greatest size of the memory, in bytes. -/
  memoryLimit : Nat
  /-- The adapter that serves the run. -/
  adapter : Adapter σ

/-- A step of a run.  A failure keeps the effects made before it. -/
abbrev Run (σ : Type) := EStateM Failure (Machine σ)

/-- The greatest number of elements of a table. -/
abbrev maxTableElements : Nat := 10000

/-- The answer to a refused growth. -/
abbrev growthFailure : UInt64 := 0xFFFFFFFF

namespace Run

variable {σ : Type}

/-- The guest. -/
def guest : Run σ GuestState := return (← get).guest

/-- Change the guest. -/
def modifyGuest (f : GuestState → GuestState) : Run σ Unit :=
  modify fun machine => { machine with guest := f machine.guest }

/-- Change the memory. -/
def modifyMemory (f : Memory → Memory) : Run σ Unit :=
  modifyGuest fun guest => { guest with memory := f guest.memory }

/-- Trap. -/
def trap {α : Type} (cause : TrapCause) : Run σ α := throw (.trap cause)

/-- A step of which the outcome is known. -/
def ofExcept {α : Type} : Except TrapCause α → Run σ α
  | .ok a => pure a
  | .error cause => trap cause

/-- Ask for more pages of memory.  A request for none is always granted.  Any other one is granted
if the memory stays within the limit, and else remembered as refused; besides it must stay within
the maximum that the program declares. -/
def growMemory (sandbox : Sandbox σ) (extra : Nat) : Run σ UInt64 := do
  let guest ← guest
  let old := guest.memory.pageCount
  if extra = 0 then return UInt64.ofNat old
  if (old + extra) * pageSize > sandbox.memoryLimit then
    modifyGuest fun guest => { guest with growthRefused := true }
    return growthFailure
  let maximum := (sandbox.program.memory.bind (·.maximum)).getD 65536
  if old + extra > maximum then return growthFailure
  modifyMemory (·.grow extra)
  return UInt64.ofNat old

/-- Ask for more elements of the table. -/
def growTable (sandbox : Sandbox σ) (extra : Nat) : Run σ UInt64 := do
  let old := (← guest).tableSize
  let maximum := (sandbox.program.table.bind (·.maximum)).getD maxTableElements
  if old + extra > min maximum maxTableElements then return growthFailure
  modifyGuest fun guest => { guest with tableSize := old + extra }
  return UInt64.ofNat old

end Run

end Guest

end ExtensionHost
