import ExtensionHost.Guest.Standard
import ExtensionHost.Proofs.Factory.Loading
import ExtensionHost.Proofs.Module.Invocation

/-!
# Operations on engines

Everything that can be asked of an engine, as data, so that runs of operations can be spoken of.
Every invocation brings its own adapter, and may name any instant.

An engine is reachable if operations lead to it from an engine that a factory has built.  Of its
modules nothing but the guests has changed since then, and the guests are sound
(`Engine.Continues`).

## Main definitions

* `Operation` and `Answer`
* `Engine.perform` and `Engine.performAll`
* `Engine.Enters`, an invocation that gets as far as the guest, and `Engine.Runs`, what it does then
* `Engine.IsFresh` and `Engine.IsReachable`
* `Sample.engine`, an engine to try things on

## Main results

* `Engine.Continues.performAll`
* `Engine.IsReachable.module`
-/

namespace ExtensionHost

open Guest

/-- What can be asked of an engine. -/
inductive Operation where
  /-- Run an extension at an instant. -/
  | invoke (now : Instant) (package extension : String) (context : Context) (client : Client)
  /-- Read the counters of a guest's heap. -/
  | heapStats (package : String)
  /-- Have a guest collect garbage. -/
  | collect (package : String)
  /-- Roll a module back. -/
  | recover (package : String)
  /-- Put limits on further invocations. -/
  | setLimits (limits : Limits)
  /-- Release all modules. -/
  | close

/-- What an engine answers. -/
inductive Answer where
  /-- The outcome of an invocation, with the state that its adapter was left in. -/
  | invoked (State : Type) (outcome : InvokeOutcome) (state : State)
  /-- The counters of a heap. -/
  | counted (result : Except ExtensionError HeapStats)
  /-- That it is done. -/
  | done (result : Except ExtensionError Unit)

/-- The package that an operation names. -/
def Operation.package? : Operation → Option String
  | .invoke _ package _ _ _ | .heapStats package | .collect package | .recover package =>
    some package
  | .setLimits _ | .close => none

namespace Engine

/-- Perform an operation. -/
def perform (e : Engine) : Operation → Answer × Engine
  | .invoke now package extension context client =>
    let invocation := e.invoke now package extension context client.adapter client.state
    (.invoked client.State invocation.outcome invocation.state, invocation.engine)
  | .heapStats package => let (result, e) := e.heapStats package; (.counted result, e)
  | .collect package => let (result, e) := e.collect package; (.done result, e)
  | .recover package => let (result, e) := e.recover package; (.done result, e)
  | .setLimits limits => (.done (.ok ()), e.setLimits limits)
  | .close => (.done (.ok ()), e.close)

/-- Perform operations one after the other. -/
def performAll (e : Engine) (ops : List Operation) : Engine :=
  ops.foldl (fun e op => (e.perform op).2) e

/-- An invocation enters the guest: the extension stands for a function of a module, and there is
time left. -/
structure Enters (e : Engine) (now : Instant) (package extension : String) (context : Context)
    (m : GuestModule) (function : String) (ticks : Nat) : Prop where
  /-- The extension is found. -/
  resolve : e.resolve package extension = .ok (m, function)
  /-- Time is left. -/
  ticks : e.ticksAt now context = .ok (some ticks)

/-- An invocation runs a function of a module for a number of ticks: whoever serves it, it does what
the run does, and counts. -/
def Runs (e : Engine) (now : Instant) (package extension : String) (context : Context)
    (m : GuestModule) (function : String) (ticks : Nat) : Prop :=
  ∀ client : Client, ∃ f : Metrics → Metrics,
    e.invoke now package extension context client.adapter client.state
      = let run := (e.count .countInvocation).runModule package m function ticks client.adapter
          client.state
        ⟨.returned run.1, run.2.1.count f, run.2.2⟩

/-- An engine as a factory with valid settings builds it. -/
inductive IsFresh : Engine → Prop where
  | built {f f' : Factory} {tree : FileTree ModuleImage} {packages : List Package}
    {poolSize : UInt64} {engines : List Engine} {e : Engine} (hvalid : f.config.validate = .ok ())
    (hbuild : f.newEngines tree packages poolSize = (.returned (.ok engines), f'))
    (he : e ∈ engines) : IsFresh e

/-- Operations lead to an engine from a fresh one. -/
def IsReachable (e : Engine) : Prop := ∃ fresh ops, IsFresh fresh ∧ e = fresh.performAll ops

theorem IsFresh.isReachable {e : Engine} (h : e.IsFresh) : e.IsReachable := ⟨e, [], h, rfl⟩

/-! ### What invocations do -/

section Invoke

variable {σ : Type} {e : Engine} {now : Instant} {package extension : String} {context : Context}
  {m : GuestModule} {function : String} {ticks : Nat} {adapter : Adapter σ} {state : σ}

@[simp] theorem resolve_count (e : Engine) (f : Metrics → Metrics) (package extension : String) :
    (e.count f).resolve package extension = e.resolve package extension := rfl

@[simp] theorem ticksAt_count (e : Engine) (f : Metrics → Metrics) (now : Instant)
    (context : Context) : (e.count f).ticksAt now context = e.ticksAt now context := rfl

@[simp] theorem metrics_count (e : Engine) (f : Metrics → Metrics) :
    (e.count f).metrics = f e.metrics := rfl

theorem module?_putModule (e : Engine) (package other : String) (m : GuestModule) :
    (e.putModule package m).module? other
      = if other = package then some m else e.module? other :=
  Assoc.find?_insert ..

theorem module?_of_resolve (h : e.resolve package extension = .ok (m, function)) :
    e.module? package = some m := by
  rw [resolve] at h
  cases hm : e.module? package with
  | none =>
    rw [hm] at h
    cases h
  | some m' =>
    rw [hm] at h
    cases hf : m'.entry extension with
    | error e =>
      simp only [hf, Except.map] at h
      cases h
    | ok function' =>
      simp only [hf, Except.map] at h
      cases h
      rfl

theorem Enters.module? (h : e.Enters now package extension context m function ticks) :
    e.module? package = some m :=
  module?_of_resolve h.resolve

/-- There is at least one tick to use. -/
theorem Enters.ticks_ne_zero (h : e.Enters now package extension context m function ticks) :
    ticks ≠ 0 := by
  have hticks := h.ticks
  rw [ticksAt] at hticks
  cases hd : context.effectiveDeadline e.limits now with
  | error overflow =>
    rw [hd] at hticks
    cases hticks
  | ok deadline =>
    rw [hd] at hticks
    cases deadline with
    | none =>
      cases hticks
      decide
    | some deadline =>
      simp only [Except.map] at hticks
      split at hticks
      · cases hticks
      · cases hticks
        rw [ticksUntil]
        have : 1 ≤ unboundedTicks := by decide
        omega

theorem fst_runModule (e : Engine) (package : String) (m : GuestModule) (function : String)
    (ticks : Nat) (adapter : Adapter σ) (state : σ) :
    (e.runModule package m function ticks adapter state).1
      = (m.run adapter state function ticks).1 := by
  rw [runModule]
  cases hr : m.run adapter state function ticks with
  | mk result rest =>
    cases result with
    | ok u => rfl
    | error error =>
      dsimp only
      split <;> rfl

/-- The state that a run leaves the adapter in is not touched by a roll-back. -/
theorem state_runModule (e : Engine) (package : String) (m : GuestModule) (function : String)
    (ticks : Nat) (adapter : Adapter σ) (state : σ) :
    (e.runModule package m function ticks adapter state).2.2
      = (m.run adapter state function ticks).2.2 := by
  rw [runModule]
  cases hr : m.run adapter state function ticks with
  | mk result rest =>
    cases result with
    | ok u => rfl
    | error error =>
      dsimp only
      split <;> rfl

/-- After a run that did not fail, or where the settings ask for no roll-back, the module is put
back as the run left it. -/
theorem engine_runModule_of_kept
    (h : (m.run adapter state function ticks).1 = .ok () ∨ e.config.autoRecover = false) :
    (e.runModule package m function ticks adapter state).2.1
      = e.putModule package (m.run adapter state function ticks).2.1 := by
  rw [runModule]
  cases hr : m.run adapter state function ticks with
  | mk result rest =>
    rw [hr] at h
    cases result with
    | ok u => rfl
    | error error =>
      have hauto : (e.putModule package rest.1).config.autoRecover = false := by
        rcases h with h | h
        · cases h
        · exact h
      simp only [hauto, Bool.false_eq_true, if_false]

/-- After a run that failed, the module is rolled back where the settings say so. -/
theorem engine_runModule_of_restored {error : ExtensionError}
    (h : (m.run adapter state function ticks).1 = .error error)
    (hauto : e.config.autoRecover = true) :
    (e.runModule package m function ticks adapter state).2.1
      = ((e.putModule package (m.run adapter state function ticks).2.1).restoreModule package
          (m.run adapter state function ticks).2.1).2 := by
  rw [runModule]
  cases hr : m.run adapter state function ticks with
  | mk result rest =>
    rw [hr] at h
    cases h
    have hauto : (e.putModule package rest.1).config.autoRecover = true := hauto
    simp only [hauto, if_true]

/-- An invocation that enters the guest is a run of the module. -/
theorem invoke_of_enters (h : e.Enters now package extension context m function ticks)
    (adapter : Adapter σ) (state : σ) :
    ∃ f, e.invoke now package extension context adapter state
      = let run := (e.count .countInvocation).runModule package m function ticks adapter state
        ⟨.returned run.1, run.2.1.count f, run.2.2⟩ := by
  have hresolve : (e.count .countInvocation).resolve package extension = .ok (m, function) :=
    h.resolve
  have hticks : (e.count .countInvocation).ticksAt now context = .ok (some ticks) := h.ticks
  simp only [invoke, hresolve, hticks]
  cases hr : (e.count .countInvocation).runModule package m function ticks adapter state with
  | mk result rest =>
    cases result with
    | ok u => exact ⟨fun metrics => metrics, rfl⟩
    | error error => exact ⟨.countError, rfl⟩

theorem Enters.runs (h : e.Enters now package extension context m function ticks) :
    e.Runs now package extension context m function ticks :=
  fun client => invoke_of_enters h client.adapter client.state

/-- The answer to an invocation that runs a function is that of the run. -/
theorem Runs.outcome_eq (h : e.Runs now package extension context m function ticks)
    (client : Client) :
    (e.invoke now package extension context client.adapter client.state).outcome
      = .returned (m.run client.adapter client.state function ticks).1 := by
  obtain ⟨f, hinvoke⟩ := h client
  rw [hinvoke]
  exact congrArg InvokeOutcome.returned (fst_runModule ..)

/-- An invocation that does not enter the guest only counts. -/
theorem invoke_of_not_enters
    (h : ∀ m function ticks, ¬ e.Enters now package extension context m function ticks)
    (adapter : Adapter σ) (state : σ) :
    ∃ f, (e.invoke now package extension context adapter state).engine = e.count f := by
  simp only [invoke]
  cases hresolve : (e.count .countInvocation).resolve package extension with
  | error error => exact ⟨fun metrics => metrics.countInvocation.countError, rfl⟩
  | ok found =>
    obtain ⟨m, function⟩ := found
    dsimp only
    cases hticks : (e.count .countInvocation).ticksAt now context with
    | error overflow => exact ⟨.countInvocation, rfl⟩
    | ok ticks =>
      cases ticks with
      | none => exact ⟨fun metrics => metrics.countInvocation.countError, rfl⟩
      | some ticks => exact absurd ⟨hresolve, hticks⟩ (h m function ticks)

end Invoke

/-! ### Fresh engines -/

theorem mem_of_mapM {ε α β : Type} {f : α → Except ε β} {l : List α} {l' : List β}
    (h : l.mapM f = .ok l') {b : β} (hb : b ∈ l') : ∃ a ∈ l, f a = .ok b := by
  induction l generalizing l' with
  | nil =>
    cases h
    cases hb
  | cons a l ih =>
    simp only [List.mapM_cons, bind_eq_ok_iff] at h
    obtain ⟨first, hfirst, rest, hrest, h⟩ := h
    cases h
    rcases List.mem_cons.mp hb with rfl | hb
    · exact ⟨a, List.mem_cons_self, hfirst⟩
    · obtain ⟨a', ha', hfa'⟩ := ih hrest hb
      exact ⟨a', List.mem_cons_of_mem _ ha', hfa'⟩

/-- Modules that a factory has loaded with some settings. -/
def Loads (config : EngineConfig) (modules : Assoc String GuestModule) : Prop :=
  ∀ package m, modules.find? package = some m →
    m.IsLoaded ∧ m.package = package ∧ m.config = config

theorem loads_of_load {config : EngineConfig} {modules modules' : Assoc String GuestModule}
    {package : Package} {program : Program} (hvalid : config.validate = .ok ())
    (hnodup : program.exportNames.Nodup)
    (h : Factory.load config modules (package, program) = .ok modules')
    (hloads : Loads config modules) : Loads config modules' := by
  obtain ⟨-, m, hload, rfl⟩ := Factory.load_eq_ok h
  intro name found hfound
  rw [Assoc.find?_insert] at hfound
  split at hfound
  · rename_i hname
    cases hfound
    obtain ⟨_, _, _, _, _, heq⟩ := GuestModule.load_eq_ok_iff.mp hload
    have hpackage : m.package = package.qualifiedName := by rw [heq]
    have hprogram : m.program = program := by rw [heq]
    have hconfig : m.config = config := by rw [heq]
    refine ⟨⟨hconfig ▸ hvalid, hprogram ▸ hnodup, package.extensionNames, ?_⟩,
      hpackage.trans hname.symm, hconfig⟩
    rw [hpackage, hprogram, hconfig]
    exact hload
  · exact hloads name found hfound

theorem loads_of_foldlM {config : EngineConfig} (hvalid : config.validate = .ok ())
    {compiled : List (Package × Program)} (hnodup : ∀ p ∈ compiled, p.2.exportNames.Nodup)
    {modules modules' : Assoc String GuestModule}
    (h : compiled.foldlM (Factory.load config) modules = .ok modules')
    (hloads : Loads config modules) : Loads config modules' := by
  induction compiled generalizing modules with
  | nil =>
    cases h
    exact hloads
  | cons p compiled ih =>
    rw [List.foldlM_cons, bind_eq_ok_iff] at h
    obtain ⟨next, hload, hrest⟩ := h
    exact ih (fun q hq => hnodup q (List.mem_cons_of_mem _ hq)) hrest
      (loads_of_load hvalid (hnodup p List.mem_cons_self) hload hloads)

theorem nodup_of_compile {tree : FileTree ModuleImage} {package : Package}
    {compiled : Package × Program} (h : Factory.compile tree package = .ok compiled) :
    compiled.2.exportNames.Nodup := by
  simp only [Factory.compile, bind_eq_ok_iff] at h
  obtain ⟨image, _, program, hprogram, h⟩ := h
  cases h
  exact ModuleImage.nodup_exportNames hprogram

/-- The modules of a fresh engine are as they were loaded. -/
theorem IsFresh.isLoaded {e : Engine} (h : e.IsFresh) {package : String} {m : GuestModule}
    (hm : e.module? package = some m) : m.IsLoaded ∧ m.package = package ∧ m.config = e.config := by
  obtain ⟨hvalid, hbuild, he⟩ := h
  obtain ⟨-, compiled, modules, hcompiled, hfold, rfl, -⟩ := Factory.newEngines_eq_ok hbuild
  have hnodup : ∀ p ∈ compiled, p.2.exportNames.Nodup := by
    intro p hp
    obtain ⟨package, _, hpackage⟩ := mem_of_mapM hcompiled hp
    exact nodup_of_compile hpackage
  have hloads := loads_of_foldlM hvalid hnodup hfold fun _ _ h => nomatch h
  obtain ⟨slot, _, rfl⟩ := List.mem_map.mp he
  exact hloads package m hm

/-! ### Engines in the course of operations -/

/-- An engine in the course of operations: its settings stay, and its modules continue those of the
engine that it was at the start. -/
structure Continues (e fresh : Engine) : Prop where
  /-- The settings stay. -/
  config : e.config = fresh.config
  /-- Modules continue. -/
  modules : ∀ package m, e.module? package = some m →
    ∃ loaded, fresh.module? package = some loaded ∧ m.Continues loaded

namespace Continues

variable {e fresh : Engine}

theorem refl (h : fresh.IsFresh) : fresh.Continues fresh :=
  ⟨rfl, fun _ m hm => ⟨m, hm, (h.isLoaded hm).1.continues⟩⟩

theorem count (h : e.Continues fresh) (f : Metrics → Metrics) : (e.count f).Continues fresh :=
  ⟨h.config, h.modules⟩

theorem putModule (h : e.Continues fresh) {package : String} {m loaded : GuestModule}
    (hfresh : fresh.module? package = some loaded) (hm : m.Continues loaded) :
    (e.putModule package m).Continues fresh := by
  refine ⟨h.config, fun other m' hm' => ?_⟩
  rw [module?_putModule] at hm'
  split at hm'
  · rename_i hother
    cases hm'
    exact ⟨loaded, hother ▸ hfresh, hm⟩
  · exact h.modules other m' hm'

/-- A roll-back succeeds and yields the module as it was loaded. -/
theorem restoreModule_eq (hfresh : fresh.IsFresh) {package : String} {m loaded : GuestModule}
    (hloaded : fresh.module? package = some loaded) (hm : m.Continues loaded) (e : Engine) :
    e.restoreModule package m = (.ok (), (e.putModule package loaded).count .countRecover) := by
  rw [Engine.restoreModule, (hfresh.isLoaded hloaded).1.restore_eq hm.comesFrom]

theorem restoreModule (h : e.Continues fresh) (hfresh : fresh.IsFresh) {package : String}
    {m loaded : GuestModule} (hloaded : fresh.module? package = some loaded)
    (hm : m.Continues loaded) : (e.restoreModule package m).2.Continues fresh := by
  rw [restoreModule_eq hfresh hloaded hm]
  exact (h.putModule hloaded (hfresh.isLoaded hloaded).1.continues).count _

theorem runModule {σ : Type} (h : e.Continues fresh) (hfresh : fresh.IsFresh) {package : String}
    {m : GuestModule} (hm : e.module? package = some m) (function : String) (ticks : Nat)
    (adapter : Adapter σ) (state : σ) :
    (e.runModule package m function ticks adapter state).2.1.Continues fresh := by
  obtain ⟨loaded, hloaded, hcontinues⟩ := h.modules package m hm
  have hrun := hcontinues.run adapter state function ticks
  have hput := h.putModule hloaded hrun
  cases hr : (m.run adapter state function ticks).1 with
  | ok u => rwa [engine_runModule_of_kept (Or.inl hr)]
  | error error =>
    by_cases hauto : e.config.autoRecover = true
    · rw [engine_runModule_of_restored hr hauto]
      exact hput.restoreModule hfresh hloaded hrun
    · rwa [engine_runModule_of_kept (Or.inr (Bool.not_eq_true _ ▸ hauto))]

theorem invoke {σ : Type} (h : e.Continues fresh) (hfresh : fresh.IsFresh) (now : Instant)
    (package extension : String) (context : Context) (adapter : Adapter σ) (state : σ) :
    (e.invoke now package extension context adapter state).engine.Continues fresh := by
  by_cases henters : ∃ m function ticks, e.Enters now package extension context m function ticks
  · obtain ⟨m, function, ticks, henters⟩ := henters
    obtain ⟨f, hinvoke⟩ := invoke_of_enters henters adapter state
    rw [hinvoke]
    exact ((h.count _).runModule hfresh henters.module? function ticks adapter state).count f
  · have hnot : ∀ m function ticks,
        ¬ e.Enters now package extension context m function ticks :=
      fun m function ticks hentered => henters ⟨m, function, ticks, hentered⟩
    obtain ⟨f, hengine⟩ := invoke_of_not_enters hnot adapter state
    rw [hengine]
    exact h.count f

theorem withModule {α : Type} (h : e.Continues fresh) {package : String}
    {f : GuestModule → Except ExtensionError α × GuestModule}
    (hf : ∀ {m loaded : GuestModule}, m.Continues loaded → (f m).2.Continues loaded) :
    (e.withModule package f).2.Continues fresh := by
  rw [Engine.withModule]
  cases hm : e.module? package with
  | none => exact h
  | some m =>
    obtain ⟨loaded, hloaded, hcontinues⟩ := h.modules package m hm
    exact h.putModule hloaded (hf hcontinues)

/-- Every operation continues an engine. -/
theorem perform (h : e.Continues fresh) (hfresh : fresh.IsFresh) (op : Operation) :
    (e.perform op).2.Continues fresh := by
  cases op with
  | invoke now package extension context client =>
    exact h.invoke hfresh now package extension context client.adapter client.state
  | heapStats package => exact h.withModule fun hm => hm.heapStats
  | collect package => exact h.withModule fun hm => hm.collect
  | recover package =>
    show (e.recover package).2.Continues fresh
    rw [Engine.recover]
    cases hm : e.module? package with
    | none => exact h
    | some m =>
      obtain ⟨loaded, hloaded, hcontinues⟩ := h.modules package m hm
      exact h.restoreModule hfresh hloaded hcontinues
  | setLimits limits => exact ⟨h.config, h.modules⟩
  | close => exact ⟨h.config, fun _ _ hm => nomatch hm⟩

/-- So do all runs of operations. -/
theorem performAll (h : e.Continues fresh) (hfresh : fresh.IsFresh) (ops : List Operation) :
    (e.performAll ops).Continues fresh := by
  induction ops generalizing e with
  | nil => exact h
  | cons op ops ih => exact ih (h.perform hfresh op)

end Continues

/-- A module of a reachable engine continues a loaded one. -/
theorem IsReachable.module {e : Engine} (h : e.IsReachable) {package : String} {m : GuestModule}
    (hm : e.module? package = some m) : ∃ loaded, loaded.IsLoaded ∧ m.Continues loaded := by
  obtain ⟨fresh, ops, hfresh, rfl⟩ := h
  obtain ⟨loaded, hloaded, hcontinues⟩ :=
    ((Continues.refl hfresh).performAll hfresh ops).modules package m hm
  exact ⟨loaded, (hfresh.isLoaded hloaded).1, hcontinues⟩

end Engine

/-! ### A small engine

One package, whose guest reads a text and some bytes, asks for too much memory, or runs for ever. -/

instance decidableEqExcept {ε α : Type} [DecidableEq ε] [DecidableEq α] :
    DecidableEq (Except ε α)
  | .ok a, .ok b => decidable_of_iff (a = b) ⟨congrArg _, Except.ok.inj⟩
  | .error e, .error f => decidable_of_iff (e = f) ⟨congrArg _, Except.error.inj⟩
  | .ok _, .error _ => .isFalse nofun
  | .error _, .ok _ => .isFalse nofun

namespace Sample

/-- The extensions. -/
def extensions : List (String × List Statement) := [
  ("greet", [
    .call "host_value_get_as_string" [.const 0, .const 0] [],
    .call "host_value_get_as_bytes" [.const 0, .const 1] []]),
  ("overreach", [.growMemory (.const 5) none, .unreachable]),
  ("linger", [.spin])]

/-- The guest, whose heap starts right behind the counters. -/
def program : Program :=
  extensions.foldl (fun p (name, body) => p.putFunction (Standard.exported name [] [] body))
    { standard with data := [⟨0, ⟨#[32, 0, 0, 0]⟩⟩] }

/-- Settings with little memory and small buffers. -/
def config : EngineConfig :=
  { EngineConfig.default with
    memoryLimitPages := 2, preallocatedBufferSize := 8, bufferGrowthIncrement := 8 }

/-- The pool of engines. -/
def pool : PoolOutcome × Factory :=
  Factory.newEngines ⟨"sample", config, ⟨0, 0, 0⟩, 0⟩ ⟨[("/sample", .program program)], []⟩
    [⟨"sample", .ofFilePath "/sample", extensions.map Prod.fst⟩] 1

/-- The engine. -/
def engine : Engine :=
  match pool with
  | (.returned (.ok (e :: _)), _) => e
  | _ => .new 0 "" config ∅

theorem exists_engines :
    ∃ engines after, pool = (.returned (.ok engines), after) ∧ engine ∈ engines := by
  have hpool : (match pool with | (.returned (.ok (_ :: _)), _) => true | _ => false) = true := by
    decide +kernel
  rw [engine]
  split
  · rename_i heq
    exact ⟨_, _, heq, List.mem_cons_self⟩
  · rename_i hnot
    split at hpool
    · rename_i heq
      exact absurd heq (hnot _ _ _)
    · cases hpool

theorem isFresh_engine : engine.IsFresh := by
  obtain ⟨engines, after, hbuild, hengine⟩ := exists_engines
  exact .built (f := ⟨"sample", config, ⟨0, 0, 0⟩, 0⟩) (by decide +kernel) hbuild hengine

/-- Its module. -/
def module : GuestModule := (engine.module? "sample").get (by decide +kernel)

theorem module?_engine : engine.module? "sample" = some module := (Option.some_get _).symm

/-- An adapter that knows a text and some bytes, and nothing else. -/
def client : Client where
  State := Unit
  state := ()
  adapter := {
    keyBuilder _ _ s := (.error (.other "read only"), s)
    mustExist _ s := (.error (.other "read only"), s)
    canExist _ s := (.ok none, s)
    readValues _ s := .done (.ok ()) s
    newValue _ s := (.error (.other "read only"), s)
    updateValue _ _ s := (.error (.other "read only"), s)
    putField _ _ _ s := (.error (.other "read only"), s)
    keyField _ name _ s := (.error (.notFound name), s)
    valueField _ name _ s := (.error (.notFound name), s)
    valueItem _ _ kind s :=
      (.ok (if kind = .string then .string "hello" else .bytes ⟨#[1, 2, 3, 4, 5, 6]⟩), s)
    valueLength _ s := (.ok 2, s) }

/-- One invocation that reads the text and the bytes. -/
def greeting : List Operation := [.invoke ⟨0⟩ "sample" "greet" .unbounded client]

/-- The module after it. -/
def greetedModule : GuestModule :=
  ((engine.performAll greeting).module? "sample").get (by decide +kernel)

theorem module?_greeted : (engine.performAll greeting).module? "sample" = some greetedModule :=
  (Option.some_get _).symm

/-- Extensions are entered with all the time there is. -/
theorem enters {e : Engine} {m : GuestModule} (hm : e.module? "sample" = some m)
    (hlimits : e.limits = .unlimited) {extension : String}
    (hentry : m.entry extension = .ok extension) :
    e.Enters ⟨0⟩ "sample" extension .unbounded m extension unboundedTicks := by
  constructor
  · rw [Engine.resolve, hm]
    simp only [hentry, Except.map]
  · rw [Engine.ticksAt, hlimits]
    rfl

end Sample

end ExtensionHost
