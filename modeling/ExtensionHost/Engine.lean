import ExtensionHost.Metrics
import ExtensionHost.Module
import ExtensionHost.Text.Quoted

/-!
# Engines

An engine holds a module for each of its packages and runs invocations on them, one at a time.  An
invocation names a package and one of its extensions, carries a context, and is served by an adapter
of its own.  When it fails after the guest was entered, the module is rolled back, unless the
settings say otherwise.

What is deliberately absent: a clock, several threads and logs.  An invocation is told the instant
at which it is made, and what is asked of one engine is asked in sequence.

## Main definitions

* `Engine` with `Engine.packages`, `Engine.hasExtension` and `Engine.close`;
* `Engine.invoke`;
* `Engine.recover`, `Engine.heapStats` and `Engine.collect`.
-/

namespace ExtensionHost

/-- An engine. -/
structure Engine where
  /-- A number that no other engine of the factory has. -/
  id : Nat
  /-- The application that the engine works for. -/
  app : String
  /-- The settings. -/
  config : EngineConfig
  /-- The modules, by the names of their packages. -/
  modules : Assoc String GuestModule
  /-- The limits put on every invocation. -/
  limits : Limits
  /-- What was counted so far. -/
  metrics : Metrics

/-- How an invocation ends for its caller. -/
inductive InvokeOutcome where
  /-- It returns. -/
  | returned (result : Except ExtensionError Unit)
  /-- Its deadline lies past the end of the clock, and there is no answer. -/
  | crashed (cause : ClockOverflow)

/-- An invocation that is over: its outcome, and the engine and the adapter's state after it. -/
structure Invocation (σ : Type) where
  /-- How it ended. -/
  outcome : InvokeOutcome
  /-- The engine after it. -/
  engine : Engine
  /-- The state of the adapter after it. -/
  state : σ

namespace Engine

/-- An engine with modules that nothing was asked of yet. -/
def new (id : Nat) (app : String) (config : EngineConfig) (modules : Assoc String GuestModule) :
    Engine :=
  ⟨id, app, config, modules, .unlimited, .zero⟩

/-- Put limits on every further invocation. -/
def setLimits (e : Engine) (limits : Limits) : Engine := { e with limits }

/-- The names of the packages, in ascending order. -/
def packages (e : Engine) : List String := e.modules.keys

/-- The module of a package. -/
def module? (e : Engine) (package : String) : Option GuestModule := e.modules.find? package

/-- Whether a package is loaded and declares an extension. -/
def hasExtension (e : Engine) (package extension : String) : Bool :=
  (e.module? package).any (·.hasExtension extension)

/-- Release all modules. -/
def close (e : Engine) : Engine := { e with modules := ∅ }

/-- Replace the module of a package. -/
def putModule (e : Engine) (package : String) (m : GuestModule) : Engine :=
  { e with modules := e.modules.insert package m }

/-- Count. -/
def count (e : Engine) (f : Metrics → Metrics) : Engine := { e with metrics := f e.metrics }

/-- The module of a package and the function of one of its extensions. -/
def resolve (e : Engine) (package extension : String) :
    Except ExtensionError (GuestModule × String) :=
  match e.module? package with
  | none => .error (.undefinedPackage package)
  | some m => (m.entry extension).map fun function => (m, function)

/-- The number of ticks that an invocation may use from `now` on, absent when its deadline has
passed. -/
def ticksAt (e : Engine) (now : Instant) (context : Context) :
    Except ClockOverflow (Option Nat) :=
  (context.effectiveDeadline e.limits now).map fun
    | none => some unboundedTicks
    | some deadline =>
      if deadline ≤ now then none else some (ticksUntil e.config.epochTickMillis deadline now)

/-- Roll the module of a package back, and count it if that succeeds. -/
def restoreModule (e : Engine) (package : String) (m : GuestModule) :
    Except ExtensionError Unit × Engine :=
  match m.restore with
  | .ok m => (.ok (), (e.putModule package m).count .countRecover)
  | .error error => (.error error, e)

/-- Run a function of a module.  If it fails, the module is rolled back where the settings say so;
the failure of the run is the outcome in any case. -/
def runModule {σ : Type} (e : Engine) (package : String) (m : GuestModule) (function : String)
    (ticks : Nat) (adapter : Adapter σ) (state : σ) :
    Except ExtensionError Unit × Engine × σ :=
  let (result, m, state) := m.run adapter state function ticks
  let e := e.putModule package m
  match result with
  | .ok () => (.ok (), e, state)
  | .error error =>
    if e.config.autoRecover then (.error error, (e.restoreModule package m).2, state)
    else (.error error, e, state)

/-- Run an extension of a package at the instant `now`, served by an adapter. -/
def invoke {σ : Type} (e : Engine) (now : Instant) (package extension : String)
    (context : Context) (adapter : Adapter σ) (state : σ) : Invocation σ :=
  let e := e.count .countInvocation
  match e.resolve package extension with
  | .error error => ⟨.returned (.error error), e.count .countError, state⟩
  | .ok (m, function) =>
    match e.ticksAt now context with
    | .error overflow => ⟨.crashed overflow, e, state⟩
    | .ok none => ⟨.returned (.error .deadlineExceeded), e.count .countError, state⟩
    | .ok (some ticks) =>
      match e.runModule package m function ticks adapter state with
      | (.ok (), e, state) => ⟨.returned (.ok ()), e, state⟩
      | (.error error, e, state) => ⟨.returned (.error error), e.count .countError, state⟩

/-- Do something with the module of a package, which must be loaded. -/
def withModule {α : Type} (e : Engine) (package : String)
    (f : GuestModule → Except ExtensionError α × GuestModule) : Except ExtensionError α × Engine :=
  match e.module? package with
  | none => (.error (.undefinedPackage package), e)
  | some m =>
    let (result, m) := f m
    (result, e.putModule package m)

/-- The counters that the guest of a package keeps of its heap. -/
def heapStats (e : Engine) (package : String) : Except ExtensionError HeapStats × Engine :=
  e.withModule package GuestModule.heapStats

/-- Have the guest of a package collect garbage. -/
def collect (e : Engine) (package : String) : Except ExtensionError Unit × Engine :=
  e.withModule package GuestModule.collect

/-- Roll the module of a package back. -/
def recover (e : Engine) (package : String) : Except ExtensionError Unit × Engine :=
  match e.module? package with
  | none => (.error (.undefinedPackage package), e)
  | some m => e.restoreModule package m

/-- A description of an engine for people, with `idText` for its identity. -/
def describe (e : Engine) (idText : String) : String :=
  let packages := ", ".intercalate (e.packages.map Quoted.text)
  let interval := e.limits.executionInterval.text
  s!"ExtensionEngine \x7b id: {idText}, app: {Quoted.text e.app}, packages: [{packages}], " ++
    s!"limits: ExtensionLimits \x7b execution_interval: {interval} \x7d \x7d"

end Engine

end ExtensionHost
