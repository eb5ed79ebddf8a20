import ExtensionHost.Abi
import ExtensionHost.Config.Basic
import ExtensionHost.Guest.Execution
import ExtensionHost.Limits

/-!
# Loaded modules

A module is a program that was instantiated for a package and passed every check: its imports exist,
its memory and table are within the limits, it exports what the host needs, it was made for this
version of the boundary, and its allocator handed out the first staging buffer.  What the guest
looks like at this point is captured in a `Snapshot`.

Rolling a module back instantiates its program again in the same way and lays the snapshot over the
result.

A module holds the adapter that is bound to it, if there is one.  An invocation binds its own and
releases it in the end; every other call of the guest is served by whoever is bound at the time.

## Main definitions

* `GuestModule.instantiate` and `GuestModule.prepare`, the steps of loading;
* `GuestModule`, `GuestModule.load` and `GuestModule.restore`;
* `GuestModule.call`, a call of the guest, and `GuestModule.bind` and `GuestModule.release`;
* `GuestModule.run`, an invocation;
* `GuestModule.heapStats` and `GuestModule.collect`.
-/

namespace ExtensionHost

open Guest

/-- The counters that a guest keeps of its heap. -/
structure HeapStats where
  /-- Bytes allocated. -/
  inUse : UInt64
  /-- Bytes obtained from the host. -/
  sys : UInt64
  /-- Allocations. -/
  mallocs : UInt64
  /-- Frees. -/
  frees : UInt64
  deriving DecidableEq, Repr

/-- What a guest looked like right after its initialization. -/
structure Snapshot where
  /-- The linear memory. -/
  memory : Memory
  /-- The exported globals that can be set and hold numbers, by the names of their exports, with
  their types and contents. -/
  globals : List (String × NumberType × UInt64)
  /-- The staging buffers. -/
  pool : StagingPool
  deriving DecidableEq

namespace Snapshot

/-- What a snapshot keeps of a global. -/
def kept (guest : GuestState) (g : Global) : Option (String × NumberType × UInt64) :=
  match g.isMutable, g.exportName, g.type with
  | true, some exportName, .number type =>
    some (exportName, type, (guest.globals.find? g.name).getD 0)
  | _, _, _ => none

/-- Capture a guest. -/
def capture (program : Program) (guest : GuestState) : Snapshot where
  memory := guest.memory
  globals := program.globals.filterMap (kept guest)
  pool := guest.pool

/-- A memory of `pages` pages may grow to the size of the captured one, if it is smaller. -/
def checkGrowth (s : Snapshot) (program : Program) (memoryLimit pages : Nat) :
    Except ExtensionError Unit :=
  let maximum := (program.memory.bind (·.maximum)).getD 65536
  if pages < s.memory.pageCount
      ∧ (memoryLimit < s.memory.pageCount * pageSize ∨ maximum < s.memory.pageCount) then
    .error (.internal s!"failed to grow memory: {s.memory.pageCount - pages} pages refused")
  else .ok ()

/-- Put the content of a global back, which must still be exported with its type. -/
def putBack (program : Program) (globals : Assoc String UInt64) :
    String × NumberType × UInt64 → Except ExtensionError (Assoc String UInt64)
  | (exportName, type, w) =>
    match program.exportedGlobal? exportName with
    | none => .error (.internal s!"global {exportName} vanished on restore")
    | some g =>
      if g.isMutable ∧ g.type = .number type then .ok (globals.insert g.name w)
      else .error (.internal s!"failed to restore global: {exportName} has another type")

/-- Lay a snapshot over a guest that was just initialized. -/
def apply (s : Snapshot) (program : Program) (memoryLimit : Nat) (guest : GuestState) :
    Except ExtensionError GuestState := do
  s.checkGrowth program memoryLimit guest.memory.pageCount
  let globals ← s.globals.foldlM (putBack program) guest.globals
  .ok { guest with memory := guest.memory.overlay s.memory, globals, pool := s.pool.reset }

end Snapshot

/-- A module that passed every check. -/
structure GuestModule where
  /-- The name of its package. -/
  package : String
  /-- Its program. -/
  program : Program
  /-- The settings it was loaded with. -/
  config : EngineConfig
  /-- The guest. -/
  guest : GuestState
  /-- The functions of the guest that the host calls. -/
  exports : Exports
  /-- The functions of the declared extensions, by the names of the extensions. -/
  extensions : Assoc String String
  /-- What the guest looked like right after its initialization. -/
  snapshot : Snapshot
  /-- Who serves the calls of the host that the guest makes. -/
  bound : Option Client

namespace GuestModule

/-- The surroundings of a guest in preparation, which no adapter was bound to yet. -/
def quietSandbox (package : String) (program : Program) (config : EngineConfig) :
    Sandbox Empty where
  program := program
  package := package
  memoryLimit := config.memoryLimitBytes.toNat
  adapter := .absent

/-- Call a function of a guest in preparation, with no adapter and without a limit of time. -/
def callQuietly (sandbox : Sandbox Empty) (exports : Option Exports) (guest : GuestState)
    (function : String) (args : List UInt64) : Except Failure (List UInt64) × GuestState :=
  match sandbox.call function args ⟨guest, exports, none, unboundedTicks⟩ with
  | .ok results machine => (.ok results, machine.guest)
  | .error failure machine => (.error failure, machine.guest)

/-- Every import is a host function with the very type. -/
def link (program : Program) : Except ExtensionError Unit :=
  program.imports.forM fun decl =>
    if decl.module = Abi.hostModule
        ∧ (HostFunction.named? decl.name).map HostFunction.signature = some decl.signature then
      .ok ()
    else
      .error (.instantiation
        (.reported s!"unknown import {decl.module}.{decl.name} {decl.signature.text}"))

/-- The memory at the start, if it is within the limit. -/
def initialMemory (program : Program) (config : EngineConfig) : Except ExtensionError Memory :=
  let pages := (program.memory.map (·.minimum)).getD 0
  if pages * pageSize ≤ config.memoryLimitBytes.toNat then .ok (.zeroed pages)
  else .error (.instantiation (.reported s!"{pages} pages of memory exceed the limit"))

/-- The size of the table at the start, if it is within the limit. -/
def initialTable (program : Program) : Except ExtensionError Nat :=
  let elements := (program.table.map (·.minimum)).getD 0
  if elements ≤ maxTableElements then .ok elements
  else .error (.instantiation (.reported s!"{elements} elements of the table exceed the limit"))

/-- Write a segment of data, which must fit into memory. -/
def writeSegment (memory : Memory) (segment : DataSegment) : Except ExtensionError Memory :=
  if segment.offset + segment.bytes.size ≤ memory.size then
    .ok (memory.write segment.offset segment.bytes)
  else .error (.instantiation (.reported "a segment of data is out of bounds"))

/-- The globals at the start. -/
def initialGlobals (program : Program) : Assoc String UInt64 :=
  .ofList (program.globals.map fun g =>
    (g.name, match g.type with
      | .number type => type.narrow g.initial
      | .reference => 0))

/-- Instantiate a program: link its imports, set up memory, table, globals and data, and run its
start function. -/
def instantiate (package : String) (program : Program) (config : EngineConfig) :
    Except ExtensionError GuestState := do
  link program
  let memory ← initialMemory program config
  let tableSize ← initialTable program
  let memory ← program.data.foldlM writeSegment memory
  let guest : GuestState :=
    ⟨memory, initialGlobals program, tableSize, .new config.bufferGrowthIncrement, false⟩
  match program.start with
  | none => .ok guest
  | some start =>
    match callQuietly (quietSandbox package program config) none guest start [] with
    | (.ok _, guest) => .ok guest
    | (.error failure, _) =>
      .error (.instantiation (.stated s!"{package}: {failure.chain}"))

/-- The function that is exported under a name with a type. -/
def typedExport (program : Program) (name : String) (signature : Signature) :
    Except ExtensionError String :=
  match program.exportedFunction? name with
  | none => .error (.missingExport name)
  | some f =>
    if f.signature = signature then .ok f.name
    else .error (.exportSignature name
      s!"expected {signature.text}, found {f.signature.text}")

/-- The exports that the host needs. -/
def resolveExports (program : Program) : Except ExtensionError Exports := do
  if !program.exportsMemory Abi.memoryExport then .error (.missingExport Abi.memoryExport)
  let malloc ← typedExport program Abi.mallocExport ⟨[.i32], [.i32]⟩
  let free ← typedExport program Abi.freeExport ⟨[.i32], []⟩
  let abiVersion ← typedExport program Abi.versionExport ⟨[], []⟩
  let heapInUse ← typedExport program Abi.heapInUseExport ⟨[], [.i64]⟩
  let heapSys ← typedExport program Abi.heapSysExport ⟨[], [.i64]⟩
  let heapMallocs ← typedExport program Abi.heapMallocsExport ⟨[], [.i64]⟩
  let heapFrees ← typedExport program Abi.heapFreesExport ⟨[], [.i64]⟩
  let heapGc ← typedExport program Abi.heapGcExport ⟨[], []⟩
  let onReadValue ← typedExport program Abi.onReadValueExport ⟨[.i64, .i64], []⟩
  .ok { malloc, free, abiVersion, heapInUse, heapSys, heapMallocs, heapFrees, heapGc, onReadValue }

/-- Probe the version of the boundary that the guest was made for. -/
def probeVersion (package : String) (program : Program) (config : EngineConfig)
    (exports : Exports) (guest : GuestState) : Except ExtensionError GuestState :=
  match callQuietly (quietSandbox package program config) (some exports) guest
      exports.abiVersion [] with
  | (.ok _, guest) => .ok guest
  | (.error failure, _) => .error (.unsupportedAbiVersion s!"{package}: {failure.chain}")

/-- Get the first staging buffer from the guest's allocator. -/
def preallocate (package : String) (program : Program) (config : EngineConfig)
    (exports : Exports) (guest : GuestState) : Except ExtensionError GuestState :=
  let size := config.preallocatedBufferSize
  let failed := fun (reason : ExtensionError) =>
    ExtensionError.instantiation
      (.stated s!"{package}: failed to preallocate buffer: {reason.message}")
  match callQuietly (quietSandbox package program config) (some exports) guest
      exports.malloc [size.toUInt64] with
  | (.error failure, guest) => .error (failed (failure.classify guest.growthRefused))
  | (.ok results, guest) =>
    let base := (results.headD 0).toUInt32
    match checkedAllocation? base size guest.memory.size with
    | none => .error (failed (.unableToWriteMemory base size))
    | some base => .ok { guest with pool := guest.pool.adopt base size 0, growthRefused := false }

/-- A guest that is ready for invocations, and the exports that the host needs. -/
def prepare (package : String) (program : Program) (config : EngineConfig) :
    Except ExtensionError (GuestState × Exports) := do
  let guest ← instantiate package program config
  let exports ← resolveExports program
  let guest ← probeVersion package program config exports guest
  let guest ← preallocate package program config exports guest
  .ok (guest, exports)

/-- Find the functions of extensions, whose names must be neither empty nor reserved. -/
def resolveExtensions (program : Program) (names : List String) :
    Except ExtensionError (Assoc String String) :=
  names.foldlM (fun extensions name => do
    if name.isEmpty || Abi.isReserved name then .error (.incorrectExtensionName name)
    let function ← typedExport program name ⟨[], []⟩
    .ok (extensions.insert name function)) ∅

/-- Load a program for a package. -/
def load (package : String) (extensionNames : List String) (program : Program)
    (config : EngineConfig) : Except ExtensionError GuestModule :=
  let parts : Except ExtensionError (GuestState × Exports × Assoc String String) := do
    let (guest, exports) ← prepare package program config
    let extensions ← resolveExtensions program extensionNames
    .ok (guest, exports, extensions)
  parts.map fun (guest, exports, extensions) =>
    { package, program, config, guest, exports, extensions, snapshot := .capture program guest
      bound := none }

/-- Whether an extension is declared. -/
def hasExtension (m : GuestModule) (name : String) : Bool := m.extensions.contains name

/-- The names of the declared extensions, in ascending order. -/
def extensionNames (m : GuestModule) : List String := m.extensions.keys

/-- The size of the memory in bytes. -/
def memorySize (m : GuestModule) : Nat := m.guest.memory.size

/-- The staging buffers. -/
def buffers (m : GuestModule) : List StagingBuffer := m.guest.pool.buffers

/-- The function of a declared extension. -/
def entry (m : GuestModule) (extension : String) : Except ExtensionError String :=
  match m.extensions.find? extension with
  | some function => .ok function
  | none => .error (.invalidExtensionName extension)

section Calls

variable {σ : Type} (m : GuestModule)

/-- What does not change while an adapter serves the guest. -/
def sandbox (adapter : Adapter σ) : Sandbox σ :=
  ⟨m.program, m.package, m.config.memoryLimitBytes.toNat, adapter⟩

/-- The machine that a call of the guest starts on. -/
def machine (bound : Option σ) (ticks : Nat) : Machine σ := ⟨m.guest, some m.exports, bound, ticks⟩

/-- Call a function of the guest with a number of ticks to use.  Whoever is bound to the module
serves the call. -/
def call (function : String) (ticks : Nat) :
    EStateM.Result Failure (Machine (Client.StateOf m.bound)) (List UInt64) :=
  (m.sandbox (Client.adapterOf m.bound)).call function []
    (m.machine (Client.stateOf m.bound) ticks)

/-- The module after a call. -/
def settle (machine : Machine (Client.StateOf m.bound)) : GuestModule :=
  { m with guest := machine.guest, bound := Client.leftIn m.bound machine.bound }

/-- Rewind all staging buffers, and forget refused growths. -/
def rewind : GuestModule :=
  { m with guest := { m.guest with pool := m.guest.pool.reset, growthRefused := false } }

/-- Bind an adapter to a module. -/
def bind (client : Client) : GuestModule := { m with bound := some client }

/-- Release the adapter that is bound, and forget refused growths. -/
def release : GuestModule :=
  { m with guest := { m.guest with growthRefused := false }, bound := none }

/-- Run a function with an adapter bound to the run and a number of ticks to use. -/
def run (adapter : Adapter σ) (state : σ) (function : String) (ticks : Nat) :
    Except ExtensionError Unit × GuestModule × σ :=
  let entered := m.rewind.bind ⟨σ, adapter, state⟩
  match entered.call function ticks with
  | .ok _ machine => (.ok (), (entered.settle machine).release, machine.bound.getD state)
  | .error failure machine =>
    (.error (failure.classify machine.guest.growthRefused), (entered.settle machine).release,
      machine.bound.getD state)

end Calls

/-- Call a function of the guest outside invocations, without a limit of time. -/
def callExport (m : GuestModule) (function : String) :
    Except Failure (List UInt64) × GuestModule :=
  match m.call function unboundedTicks with
  | .ok results machine => (.ok results, m.settle machine)
  | .error failure machine => (.error failure, m.settle machine)

/-- Roll a module back to what it was right after its initialization.  If a step fails, the module
stays as it is. -/
def restore (m : GuestModule) : Except ExtensionError GuestModule :=
  let parts : Except ExtensionError (GuestState × Exports × Assoc String String) := do
    let (guest, exports) ← prepare m.package m.program m.config
    let guest ← m.snapshot.apply m.program m.config.memoryLimitBytes.toNat guest
    let extensions ← resolveExtensions m.program m.extensionNames
    .ok (guest, exports, extensions)
  parts.map fun (guest, exports, extensions) =>
    { m with guest, exports, extensions, bound := none }

/-- Read a counter of the guest. -/
def callCounter (m : GuestModule) (function : String) :
    Except ExtensionError UInt64 × GuestModule :=
  let (outcome, m) := m.callExport function
  match outcome with
  | .ok results => (.ok (results.headD 0), m)
  | .error failure => (.error (failure.classify m.guest.growthRefused), m)

/-- Read the counters that the guest keeps of its heap, up to the first one that fails. -/
def heapStats (m : GuestModule) : Except ExtensionError HeapStats × GuestModule :=
  match m.callCounter m.exports.heapInUse with
  | (.error e, m) => (.error e, m)
  | (.ok inUse, m) =>
    match m.callCounter m.exports.heapSys with
    | (.error e, m) => (.error e, m)
    | (.ok sys, m) =>
      match m.callCounter m.exports.heapMallocs with
      | (.error e, m) => (.error e, m)
      | (.ok mallocs, m) =>
        match m.callCounter m.exports.heapFrees with
        | (.error e, m) => (.error e, m)
        | (.ok frees, m) => (.ok { inUse, sys, mallocs, frees }, m)

/-- Have the guest collect garbage. -/
def collect (m : GuestModule) : Except ExtensionError Unit × GuestModule :=
  let (outcome, m) := m.callExport m.exports.heapGc
  match outcome with
  | .ok _ => (.ok (), m)
  | .error failure => (.error (failure.classify false), m)

end GuestModule

end ExtensionHost
