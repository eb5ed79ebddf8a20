import ExtensionHost.Guest.Machine
import ExtensionHost.Text.Utf8

/-!
# Serving host calls

A host function decodes its arguments from the guest's memory, asks the adapter bound to the run,
and hands the answer back, staging it in the guest's memory if it is text or bytes.

Two host functions enter the guest again: staging may need a new buffer from the guest's allocator,
and an iteration calls the guest for every row.  How the guest is entered is a parameter here
(`Enter`), so that these definitions do not depend on how programs run.

## Main definitions

* `Bridge.readBytes` and `Bridge.readText`, the slices that a guest passes;
* `Bridge.stage`, payloads for the guest;
* `Bridge.ask` and `Bridge.deliverRows`, requests to the adapter;
* `HostFunction.call`.
-/

namespace ExtensionHost

open Guest

/-- How the guest is entered: the function to call and its arguments. -/
abbrev Enter (σ : Type) := String → List UInt64 → Run σ (List UInt64)

namespace Bridge

variable {σ : Type}

/-- Fail with an error of the host. -/
def fail {α : Type} (error : ExtensionError) : Run σ α := throw (.host error)

/-- The exports of the guest, which are not there during its instantiation. -/
def guestExports : Run σ Exports := do
  match (← get).exports with
  | some exports => pure exports
  | none => fail (.internal "guest exports not resolved")

/-- The memory of the guest, which is not there during its instantiation. -/
def guestMemory : Run σ Memory := do
  let machine ← get
  if machine.exports.isSome then pure machine.guest.memory
  else fail (.internal "guest memory not resolved")

/-- The state of the adapter, which is there during invocations only. -/
def boundState (sandbox : Sandbox σ) : Run σ σ := do
  match (← get).bound with
  | some state => pure state
  | none => fail (.internal s!"no state bound to {sandbox.package}")

/-- Set the state of the adapter. -/
def bind (state : σ) : Run σ Unit :=
  modify fun machine => { machine with bound := some state }

/-- What an adapter answered. -/
def ofReply {α : Type} : Except StateError α → Run σ α
  | .ok a => pure a
  | .error e => fail (.state e)

/-- Make a request to the adapter. -/
def ask {α : Type} (sandbox : Sandbox σ) (request : σ → Adapter.Reply σ α) : Run σ α := do
  let (reply, state) := request (← boundState sandbox)
  bind state
  ofReply reply

/-- The bytes of a slice that the guest passes. -/
def readBytes (ptr len : UInt32) : Run σ ByteArray := do
  let memory ← guestMemory
  match (Slice.mk ptr len).rangeIn? memory.size with
  | some (start, stop) => pure (memory.read start (stop - start))
  | none => fail (.unableToReadMemory ptr len)

/-- The text of a slice that the guest passes. -/
def readText (ptr len : UInt32) : Run σ String := do
  match Utf8.decode (← readBytes ptr len) with
  | .ok text => pure text
  | .error fault =>
    fail (.trap s!"invalid UTF-8 string at offset {ptr.toNat}: {fault.message}")

/-- Room for `size` bytes: from a buffer at hand, else from a new buffer of the guest's
allocator. -/
def allocate (enter : Enter σ) (size : UInt32) : Run σ Address := do
  match (← get).guest.pool.reserve? size with
  | some (address, pool) =>
    Run.modifyGuest fun guest => { guest with pool }
    pure address
  | none =>
    let exports ← guestExports
    let capacity := (← get).guest.pool.growthFor size
    let base := ((← enter exports.malloc [capacity.toUInt64]).headD 0).toUInt32
    let memory ← guestMemory
    match checkedAllocation? base capacity memory.size with
    | none => fail (.unableToWriteMemory base capacity)
    | some base =>
      Run.modifyGuest fun guest => { guest with pool := guest.pool.adopt base capacity size }
      pure base

/-- Put a payload into the guest's memory and pack where it is. -/
def stage (enter : Enter σ) (bytes : ByteArray) : Run σ UInt64 := do
  if bytes.size ≥ UInt32.size then fail (.unableToWriteMemory 0 0xFFFFFFFF)
  let size := UInt32.ofNat bytes.size
  let address ← allocate enter size
  let memory ← guestMemory
  if address.toNat + bytes.size ≤ memory.size then
    Run.modifyMemory (·.write address.toNat bytes)
    pure (Slice.mk address size).pack
  else fail (.unableToWriteMemory address size)

/-- A field that a guest reads: where it is, and how it is named there. -/
inductive FieldRef where
  | key (key : UInt64) (ptr len : UInt32)
  | value (value : UInt64) (ptr len : UInt32)
  | item (value : UInt64) (index : UInt32)
  deriving DecidableEq, Repr

/-- Ask the adapter for a field. -/
def readField (sandbox : Sandbox σ) (field : FieldRef) (kind : FieldKind) : Run σ FieldValue := do
  let _ ← boundState sandbox
  match field with
  | .key key ptr len =>
    let name ← readText ptr len
    ask sandbox (sandbox.adapter.keyField ⟨key⟩ name kind)
  | .value value ptr len =>
    let name ← readText ptr len
    ask sandbox (sandbox.adapter.valueField ⟨value⟩ name kind)
  | .item value index => ask sandbox (sandbox.adapter.valueItem ⟨value⟩ index kind)

/-- The field value that the last arguments of a call stand for. -/
def decodePayload (args : List UInt64) (payload : Payload) : Run σ FieldValue := do
  let long := fun i => args.getD i 0
  let short := fun i => (args.getD i 0).toUInt32
  match payload with
  | .string => return .string (← readText (short 4) (short 5))
  | .bytes => return .bytes (← readBytes (short 4) (short 5))
  | .int32 => return .int32 (short 4).toInt32
  | .int64 => return .int64 (long 4).toInt64
  | .float32 => return .float32 (short 4)
  | .float64 => return .float64 (long 4)
  | .bool => return .bool (short 4 != 0)
  | .qname =>
    let package ← readText (short 4) (short 5)
    let entity ← readText (short 6) (short 7)
    return .qname ⟨package, entity⟩

/-- Set a field of a row writer. -/
def putField (sandbox : Sandbox σ) (id : UInt64) (tag ptr len : UInt32) (value : FieldValue) :
    Run σ Unit := do
  match RowWriter.ofTag? id tag with
  | none => fail (.invalidRowWriter tag)
  | some writer =>
    let name ← readText ptr len
    ask sandbox (sandbox.adapter.putField writer name value)

/-- Hand the rows of an iteration to the guest, one by one.  The adapter learns of a failure of the
guest only that the iteration is interrupted.  The answer is the last failure of the guest, if there
is one, and the outcome of the adapter. -/
def deliverRows (enter : Enter σ) (callback : String) (last : Option Failure) :
    Rows σ → Run σ (Option Failure × Except StateError Unit)
  | .done outcome state => do
    bind state
    pure (last, outcome)
  | .row key value state resume => fun machine =>
    match enter callback [key.id, value.id] { machine with bound := some state } with
    | .ok _ machine =>
      match machine.bound with
      | some state => deliverRows enter callback last (resume (.ok ()) state) machine
      | none => .ok (last, .ok ()) machine
    | .error failure machine =>
      match machine.bound with
      | some state =>
        deliverRows enter callback (some failure) (resume (.error .interrupted) state) machine
      | none => .ok (some failure, .ok ()) machine

/-- Serve an iteration. -/
def iterateRows (sandbox : Sandbox σ) (enter : Enter σ) (key : UInt64) : Run σ Unit := do
  let state ← boundState sandbox
  let exports ← guestExports
  let (failure, outcome) ←
    deliverRows enter exports.onReadValue none (sandbox.adapter.readValues ⟨key⟩ state)
  match failure with
  | some failure => throw failure
  | none => ofReply outcome

/-- The kind that a reader asks for. -/
def kindOf : Reader → FieldKind
  | .string => .string
  | .bytes => .bytes
  | .int32 => .int32
  | .int64 => .int64
  | .float32 => .float32
  | .float64 => .float64
  | .bool => .bool
  | .qnamePackage | .qnameEntity => .qname

/-- Hand a field to the guest as a reader wants it. -/
def present (enter : Enter σ) (value : FieldValue) : Reader → Run σ UInt64
  | .string => do stage enter (← ofReply value.toString?).toUTF8
  | .bytes => do stage enter (← ofReply value.toBytes?)
  | .int32 => return (← ofReply value.toInt32?).toUInt32.toUInt64
  | .int64 => return (← ofReply value.toInt64?).toUInt64
  | .float32 => return (← ofReply value.toFloat32?).toUInt64
  | .float64 => ofReply value.toFloat64?
  | .bool => return if ← ofReply value.toBool? then 1 else 0
  | .qnamePackage => do stage enter (← ofReply value.toQName?).package.toUTF8
  | .qnameEntity => do stage enter (← ofReply value.toQName?).entity.toUTF8

end Bridge

open Bridge in
/-- Serve a call of a host function.  Missing arguments are zero; in a well-formed program there
are none. -/
def HostFunction.call {σ : Type} (sandbox : Sandbox σ) (enter : Enter σ) (f : HostFunction)
    (args : List UInt64) : Run σ (List UInt64) := do
  let long := fun i => args.getD i 0
  let short := fun i => (args.getD i 0).toUInt32
  match f with
  | .panic =>
    let message ← readText (short 0) (short 1)
    fail (.guestPanic message)
  | .getKey =>
    let storage ← readText (short 0) (short 1)
    let entity ← readText (short 2) (short 3)
    let key ← ask sandbox (sandbox.adapter.keyBuilder storage entity)
    return [key.id]
  | .mustExist =>
    let value ← ask sandbox (sandbox.adapter.mustExist ⟨long 0⟩)
    return [value.id]
  | .canExist =>
    match ← ask sandbox (sandbox.adapter.canExist ⟨long 0⟩) with
    | some value => return [1, value.id]
    | none => return [0, 0]
  | .readValues =>
    iterateRows sandbox enter (long 0)
    return []
  | .newValue =>
    let intent ← ask sandbox (sandbox.adapter.newValue ⟨long 0⟩)
    return [intent.id]
  | .updateValue =>
    let intent ← ask sandbox (sandbox.adapter.updateValue ⟨long 0⟩ ⟨long 1⟩)
    return [intent.id]
  | .put payload =>
    let value ← decodePayload args payload
    putField sandbox (long 0) (short 1) (short 2) (short 3) value
    return []
  | .read source reader =>
    let field := match source with
      | .key => .key (long 0) (short 1) (short 2)
      | .value => .value (long 0) (short 1) (short 2)
      | .item => .item (long 0) (short 1)
    let value ← readField sandbox field (kindOf reader)
    return [← present enter value reader]
  | .nestedField =>
    let value ← readField sandbox (.value (long 0) (short 1) (short 2)) .value
    return [(← ofReply value.toValue?).id]
  | .nestedItem =>
    let value ← readField sandbox (.item (long 0) (short 1)) .value
    return [(← ofReply value.toValue?).id]
  | .valueLength =>
    let length ← ask sandbox (sandbox.adapter.valueLength ⟨long 0⟩)
    return [length.toUInt64]

end ExtensionHost
