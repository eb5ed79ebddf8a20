import ExtensionHost.Engine
import ExtensionHost.Package.Basic

/-!
# Pools of engines

A factory builds pools of engines for one application.  Every engine of a pool serves every package
asked for; a pool is complete, or there is none.

Sizes of pools are machine words, and room for all engines is asked for at once, before the first
one is built.  A size for which the number of bytes leaves the range of addresses has no answer.
Memory that runs out at a size within that range is not modelled, here or anywhere else.

## Main definitions

* `Factory`, `Factory.new` and `FactoryStats`;
* `PoolOutcome` and `Factory.newEngines`.
-/

namespace ExtensionHost

/-- What a factory counts. -/
structure FactoryStats where
  /-- The pools built. -/
  poolsCreated : UInt64
  /-- The engines in them. -/
  enginesCreated : UInt64
  /-- The packages compiled for them. -/
  packagesCompiled : UInt64
  deriving DecidableEq, Repr

/-- A factory. -/
structure Factory where
  /-- The application. -/
  app : String
  /-- The settings of all engines. -/
  config : EngineConfig
  /-- What was counted so far. -/
  stats : FactoryStats
  /-- The identity of the next engine. -/
  nextId : Nat

/-- A capacity that no memory can have. -/
structure CapacityOverflow where
  deriving DecidableEq, Repr

/-- How a request for a pool ends for its caller. -/
inductive PoolOutcome where
  /-- It returns. -/
  | returned (result : Except ExtensionError (List Engine))
  /-- Room for that many engines cannot be asked for, and there is no answer. -/
  | crashed (cause : CapacityOverflow)

namespace Factory

/-- A factory for an application, if its settings are usable. -/
def new (app : String) (config : EngineConfig) : Except ExtensionError Factory := do
  config.validate
  .ok ⟨app, config, ⟨0, 0, 0⟩, 0⟩

/-- No package is asked for twice; otherwise the first one that comes again is named. -/
def checkDistinct (seen : List String) : List Package → Except ExtensionError Unit
  | [] => .ok ()
  | package :: rest =>
    if seen.contains package.qualifiedName then
      .error (.packageAlreadyLoaded package.qualifiedName)
    else checkDistinct (package.qualifiedName :: seen) rest

/-- Read and compile a package. -/
def compile (tree : FileTree ModuleImage) (package : Package) :
    Except ExtensionError (Package × Guest.Program) := do
  let image ← package.read tree
  let program ← image.compile package.qualifiedName
  .ok (package, program)

/-- Load a compiled package into an engine's modules. -/
def load (config : EngineConfig) (modules : Assoc String GuestModule) :
    Package × Guest.Program → Except ExtensionError (Assoc String GuestModule)
  | (package, program) => do
    if modules.contains package.qualifiedName then
      .error (.packageAlreadyLoaded package.qualifiedName)
    let m ← GuestModule.load package.qualifiedName package.extensionNames program config
    .ok (modules.insert package.qualifiedName m)

/-- The programs of the packages of a pool.  The size of the pool is looked at, the names of the
packages are compared, and then the packages are read and compiled in order. -/
def compileAll (tree : FileTree ModuleImage) (packages : List Package) (poolSize : UInt64) :
    Except ExtensionError (List (Package × Guest.Program)) := do
  if poolSize = 0 then
    .error (.config (.stated "pool size must be greater than zero"))
  checkDistinct [] packages
  packages.mapM (compile tree)

/-- The size of an engine in a pool, in bytes: what it holds itself, without what it refers to. -/
abbrev engineBytes : Nat := 128

/-- The greatest number of bytes that can be asked for at once. -/
abbrev maxReservation : Nat := 0x7FFFFFFFFFFFFFFF

/-- Ask for room for a pool. -/
def reserve (poolSize : UInt64) : Except CapacityOverflow Unit :=
  if maxReservation < poolSize.toNat * engineBytes then .error ⟨⟩ else .ok ()

/-- The engine of a slot, into which all compiled packages are loaded in order. -/
def fillSlot (f : Factory) (compiled : List (Package × Guest.Program)) (slot : Nat) :
    Except ExtensionError Engine :=
  (compiled.foldlM (load f.config) ∅).map (Engine.new (f.nextId + slot) f.app f.config)

/-- The factory after it has built a pool. -/
def counted (f : Factory) (compiled : List (Package × Guest.Program)) (poolSize : UInt64) :
    Factory :=
  { f with
    nextId := f.nextId + poolSize.toNat
    stats := {
      poolsCreated := f.stats.poolsCreated + 1
      enginesCreated := f.stats.enginesCreated + poolSize
      packagesCompiled := f.stats.packagesCompiled + .ofNat compiled.length } }

/-- Build a pool of engines that serve packages: compile the packages, ask for room for the engines,
and fill one slot after the other. -/
def newEngines (f : Factory) (tree : FileTree ModuleImage) (packages : List Package)
    (poolSize : UInt64) : PoolOutcome × Factory :=
  match compileAll tree packages poolSize with
  | .error error => (.returned (.error error), f)
  | .ok compiled =>
    match reserve poolSize with
    | .error overflow => (.crashed overflow, f)
    | .ok () =>
      match (List.range poolSize.toNat).mapM (f.fillSlot compiled) with
      | .error error => (.returned (.error error), f)
      | .ok engines => (.returned (.ok engines), f.counted compiled poolSize)

end Factory

end ExtensionHost
