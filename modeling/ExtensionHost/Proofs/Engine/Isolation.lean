import ExtensionHost.Proofs.Engine.Operation
import ExtensionHost.Proofs.Guest.Calls

/-!
# Who calls which adapter

Let many adapters act on one world, which every invocation finds as the one before has left it, and
let every invocation name the adapter that serves it.  As the adapters are arbitrary, they may note
every call in the world that they receive; what the world becomes tells who was called and when.

An invocation that enters the guest moves the world by calls of its own adapter, between the entry
and the return, and not before or after.

**Nobody is left behind.**  Guest code also runs outside invocations: the start function, the probe
of the boundary's version and the allocator when a module is loaded or restored, the heap counters
and the collector.  The first three run before an adapter was ever bound.  The other two run in the
very module that invocations have bound their adapters to, and whoever is bound there would serve
them (`GuestModule.call`).  They find no adapter since every invocation releases its own, however it
ends; so their calls of the host fail, and nothing is staged.

## Main definitions

* `GuestModule.IsUnserved`, a call outside invocations that reaches no adapter
* `Engine.Request` and `Engine.Scene`, an engine with the world of its adapters
* `Engine.Scene.serveAll`

## Main results

* `GuestModule.reaches_of_history`, what happens to the world in the course of an invocation
* `GuestModule.isUnserved_of_unbound`
* `Engine.adapters_serve_their_own_invocations`
-/

namespace ExtensionHost

open Guest

/-! ### Modules -/

namespace GuestModule

/-- At every moment of an invocation, calls of its adapter have led to the state that is bound. -/
theorem reaches_of_history {σ : Type} {m : GuestModule} {adapter : Adapter σ} {w : σ}
    {function : String} {ticks : Nat} {past later : List (Note σ)}
    (h : m.history adapter w function ticks = past ++ later) :
    ∃ w', (reached (m.start w ticks) past).bound = some w' ∧ adapter.Reaches w w' := by
  have hturns := (m.sandbox adapter).turns_history function [] (m.start w ticks)
  have hpast : ∀ n ∈ past, n.Turns adapter := fun n hn => by
    refine hturns n ?_
    rw [show (m.sandbox adapter).history function [] (m.start w ticks) = past ++ later from h]
    exact List.mem_append_left later hn
  exact (m.leads_past adapter w function ticks h).turns hpast w rfl

/-! ### Guests in preparation -/

/-- The machine that a call in preparation starts on. -/
def quietStart (exports : Option Exports) (guest : GuestState) : Machine Empty :=
  ⟨guest, exports, none, unboundedTicks⟩

/-- The history of a call in preparation. -/
def quietHistory (sandbox : Sandbox Empty) (exports : Option Exports) (guest : GuestState)
    (function : String) (args : List UInt64) : List (Note Empty) :=
  sandbox.history function args (quietStart exports guest)

section Quiet

variable (sandbox : Sandbox Empty) (exports : Option Exports) (guest : GuestState)
  (function : String) (args : List UInt64)

theorem leads_quietHistory :
    Leads sandbox (quietStart exports guest) (quietHistory sandbox exports guest function args)
      (Run.after (sandbox.call function args) (quietStart exports guest)) :=
  sandbox.tells_history function args (quietStart exports guest) nofun

/-- In preparation every call of the host fails. -/
theorem isUnserved_quietHistory :
    ∀ n ∈ quietHistory sandbox exports guest function args, n.IsUnserved sandbox :=
  (leads_quietHistory sandbox exports guest function args).isUnserved rfl

/-- The staging buffers stay as they are. -/
theorem pool_callQuietly :
    (callQuietly sandbox exports guest function args).2.pool = guest.pool := by
  rw [callQuietly_snd]
  exact (leads_quietHistory sandbox exports guest function args).pool_eq rfl

end Quiet

/-! ### Calls outside invocations -/

section Outside

variable (m : GuestModule)

/-- A call outside invocations reaches no adapter: at all its moments nobody is bound, calls of the
host fail, and nothing is staged. -/
def IsUnserved (function : String) : Prop :=
  ∀ n ∈ m.callHistory function, n.IsUnserved (m.sandbox (Client.adapterOf m.bound))

/-- The module after calls of functions outside invocations, one after the other. -/
def callAll (functions : List String) : GuestModule :=
  functions.foldl (fun m function => (m.callExport function).2) m

theorem callAll_append_singleton (functions : List String) (function : String) :
    m.callAll (functions ++ [function]) = ((m.callAll functions).callExport function).2 :=
  List.foldl_concat ..

variable {m}

/-- Nobody serves a call outside invocations if nobody is bound to the module. -/
theorem isUnserved_of_unbound (h : m.bound = none) (function : String) : m.IsUnserved function := by
  refine (m.leads_callHistory function).isUnserved ?_
  show Client.stateOf m.bound = none
  rw [h]
  rfl

theorem pool_callExport (h : m.bound = none) (function : String) :
    (m.callExport function).2.guest.pool = m.guest.pool := by
  rw [callExport_eq h]
  exact pool_callQuietly ..

/-- Calls outside invocations bind nobody, and leave the staging buffers as they are. -/
theorem unbound_callAll (h : m.bound = none) (functions : List String) :
    (m.callAll functions).bound = none ∧ (m.callAll functions).guest.pool = m.guest.pool := by
  induction functions using List.reverseRecOn with
  | nil => exact ⟨h, rfl⟩
  | append_singleton functions function ih =>
    rw [callAll_append_singleton]
    exact ⟨unbound_callExport ih.1 function, (pool_callExport ih.1 function).trans ih.2⟩

variable (m) in
/-- Reading the counters of a heap is calling functions outside invocations. -/
theorem exists_heapStats_eq_callAll : ∃ functions, m.heapStats.2 = m.callAll functions := by
  refine heapStats_invariant (P := fun next => ∃ functions, next = m.callAll functions) ?_ ⟨[], rfl⟩
  rintro _ function ⟨functions, rfl⟩
  exact ⟨functions ++ [function], (callAll_append_singleton ..).symm⟩

variable (m) in
theorem collect_eq_callAll : m.collect.2 = m.callAll [m.exports.heapGc] := m.snd_collect

theorem pool_heapStats (h : m.bound = none) : m.heapStats.2.guest.pool = m.guest.pool := by
  obtain ⟨functions, heq⟩ := m.exists_heapStats_eq_callAll
  rw [heq]
  exact (unbound_callAll h functions).2

theorem pool_collect (h : m.bound = none) : m.collect.2.guest.pool = m.guest.pool := by
  rw [collect_eq_callAll]
  exact (unbound_callAll h _).2

end Outside

/-- A module that is loaded has the buffer of its preallocation and no other one. -/
theorem buffers_of_load {package : String} {names : List String} {program : Program}
    {config : EngineConfig} {m : GuestModule} (h : load package names program config = .ok m) :
    ∃ base, m.guest.pool.buffers = [⟨base, config.preallocatedBufferSize, 0⟩] := by
  obtain ⟨guest, exports, extensions, hprepare, -, rfl⟩ := load_eq_ok_iff.mp h
  exact (prepared_of_prepare hprepare).buffers

end GuestModule

/-! ### Engines -/

namespace Engine

/-- The staging buffers of a package. -/
def pool? (e : Engine) (package : String) : Option StagingPool :=
  (e.module? package).map (·.guest.pool)

/-- What leaves the staging buffers of a module as they are, leaves those of all packages. -/
theorem pool?_withModule {α : Type} {e : Engine} {package : String}
    {f : GuestModule → Except ExtensionError α × GuestModule}
    (hf : ∀ m, e.module? package = some m → (f m).2.guest.pool = m.guest.pool) (other : String) :
    (e.withModule package f).2.pool? other = e.pool? other := by
  rw [withModule]
  cases hm : e.module? package with
  | none => rfl
  | some m =>
    rw [pool?, pool?, module?_putModule]
    by_cases hother : other = package
    · rw [if_pos hother, hother, hm, Option.map_some, Option.map_some, hf m hm]
    · rw [if_neg hother]

/-- A request to an engine whose adapters share a world.  An invocation names its adapter. -/
inductive Request (ι : Type) where
  /-- Run an extension at an instant, served by an adapter. -/
  | invoke (i : ι) (now : Instant) (package extension : String) (context : Context)
  /-- Anything else, be it an invocation that is served by an adapter with a world of its own. -/
  | other (op : Operation)

/-- An engine, and the world that adapters share. -/
structure Scene (W : Type) where
  /-- The engine. -/
  engine : Engine
  /-- The world. -/
  world : W

namespace Scene

variable {ι W : Type} (adapters : ι → Adapter W)

/-- Serve a request.  An invocation finds the world as it is, and leaves it as the run does. -/
def serve (s : Scene W) : Request ι → Scene W
  | .invoke i now package extension context =>
    let invocation := s.engine.invoke now package extension context (adapters i) s.world
    ⟨invocation.engine, invocation.state⟩
  | .other op => ⟨(s.engine.perform op).2, s.world⟩

/-- Serve requests one after the other. -/
def serveAll (s : Scene W) (requests : List (Request ι)) : Scene W :=
  requests.foldl (serve adapters) s

theorem continues_serveAll {s : Scene W} {fresh : Engine} (h : s.engine.Continues fresh)
    (hfresh : fresh.IsFresh) (requests : List (Request ι)) :
    (s.serveAll adapters requests).engine.Continues fresh := by
  induction requests generalizing s with
  | nil => exact h
  | cons request requests ih =>
    refine ih (s := s.serve adapters request) ?_
    cases request with
    | invoke i now package extension context =>
      exact h.invoke hfresh now package extension context (adapters i) s.world
    | other op => exact h.perform hfresh op

/-- A run of a module moves the world from one scene to the next by calls of one adapter: the world
is handed to the run as it is, calls of the adapter lead from it to the world at every moment of the
run, and the world at the end of the run is handed on. -/
structure Moved (a : Adapter W) (m : GuestModule) (function : String) (ticks : Nat)
    (s t : Scene W) : Prop where
  /-- All requests that the guest makes are made of calls of the adapter. -/
  turns : ∀ n ∈ m.history a s.world function ticks, n.Turns a
  /-- In the course of the run the adapter alone moves the world. -/
  course : ∀ past later, m.history a s.world function ticks = past ++ later →
    ∃ w, (reached (m.start s.world ticks) past).bound = some w ∧ a.Reaches s.world w
  /-- The run leaves the world behind. -/
  final : (m.final a s.world function ticks).bound = some t.world

theorem moved_serve_invoke {s : Scene W} {i : ι} {now : Instant} {package extension : String}
    {context : Context} {m : GuestModule} {function : String} {ticks : Nat}
    (henters : s.engine.Enters now package extension context m function ticks) :
    Moved (adapters i) m function ticks s
      (s.serve adapters (.invoke i now package extension context)) := by
  refine ⟨(m.sandbox (adapters i)).turns_history function [] (m.start s.world ticks),
    fun past later h => GuestModule.reaches_of_history h, ?_⟩
  obtain ⟨f, hinvoke⟩ := invoke_of_enters henters (adapters i) s.world
  obtain ⟨w, hw, -⟩ := GuestModule.reaches_of_history
    (m := m) (List.append_nil (m.history (adapters i) s.world function ticks)).symm
  rw [← (m.leads_history (adapters i) s.world function ticks).eq_reached] at hw
  have hworld : (s.serve adapters (.invoke i now package extension context)).world = w := by
    rw [serve, hinvoke]
    dsimp only
    rw [state_runModule, GuestModule.state_run, hw]
    rfl
  rw [hw, hworld]

/-- An invocation that does not enter the guest leaves the world alone. -/
theorem world_serve_of_not_enters {s : Scene W} {i : ι} {now : Instant}
    {package extension : String} {context : Context}
    (h : ∀ m function ticks, ¬ s.engine.Enters now package extension context m function ticks) :
    (s.serve adapters (.invoke i now package extension context)).world = s.world := by
  simp only [serve, Engine.invoke, resolve_count, ticksAt_count]
  cases hresolve : s.engine.resolve package extension with
  | error error => rfl
  | ok found =>
    obtain ⟨m, function⟩ := found
    dsimp only
    cases hticks : s.engine.ticksAt now context with
    | error overflow => rfl
    | ok ticks =>
      cases ticks with
      | none => rfl
      | some ticks => exact absurd ⟨hresolve, hticks⟩ (h m function ticks)

end Scene

/-- Nobody is bound to a module between operations, and nobody serves the calls that are made
outside invocations: neither those that read the counters of the heap, nor that of the collector. -/
structure LeftAlone (m : GuestModule) : Prop where
  /-- Nobody is bound. -/
  unbound : m.bound = none
  /-- Whatever was called outside invocations, the next call reaches no adapter. -/
  unserved : ∀ functions function, (m.callAll functions).IsUnserved function
  /-- Nobody gets bound. -/
  still : ∀ functions, (m.callAll functions).bound = none
  /-- Reading the counters consists of such calls. -/
  counted : ∃ functions, m.heapStats.2 = m.callAll functions
  /-- So does collecting garbage. -/
  collected : m.collect.2 = m.callAll [m.exports.heapGc]

theorem leftAlone_of_unbound {m : GuestModule} (h : m.bound = none) : LeftAlone m where
  unbound := h
  unserved functions :=
    GuestModule.isUnserved_of_unbound (GuestModule.unbound_callAll h functions).1
  still functions := (GuestModule.unbound_callAll h functions).1
  counted := m.exists_heapStats_eq_callAll
  collected := m.collect_eq_callAll

/-- **An adapter is reached by its own invocations only.**  Take an engine as a factory builds it,
any adapters on any world, and any requests.  The next invocation, if it enters the guest, is handed
the world as the requests before have left it; from there to its end the world moves by calls of the
adapter that the invocation names, at every moment of the run.  An invocation that does not enter
the guest leaves the world as it is.

However the requests before have ended, nobody is bound to a module now.  Thus reading the heap
counters and collecting garbage reach no adapter, and they leave the staging buffers with their
cursors as they are.  Loading and restoring run guest code that nobody was bound to yet; its calls
of the host fail, and it leaves the preallocated buffer only, with nobody bound. -/
theorem adapters_serve_their_own_invocations {fresh : Engine} (hfresh : fresh.IsFresh)
    {ι W : Type} (adapters : ι → Adapter W) (world : W) (past : List (Request ι)) :
    let s := Scene.serveAll adapters ⟨fresh, world⟩ past
    (∀ i now package extension context,
      let t := s.serve adapters (.invoke i now package extension context)
      (∀ m function ticks, s.engine.Enters now package extension context m function ticks →
        Scene.Moved (adapters i) m function ticks s t) ∧
      ((∀ m function ticks,
        ¬ s.engine.Enters now package extension context m function ticks) → t.world = s.world)) ∧
    (∀ package m, s.engine.module? package = some m → LeftAlone m) ∧
    (∀ package other, (s.engine.heapStats package).2.pool? other = s.engine.pool? other) ∧
    (∀ package other, (s.engine.collect package).2.pool? other = s.engine.pool? other) ∧
    (∀ (sandbox : Sandbox Empty) exports guest function args,
      (∀ n ∈ GuestModule.quietHistory sandbox exports guest function args, n.IsUnserved sandbox) ∧
      (GuestModule.callQuietly sandbox exports guest function args).2.pool = guest.pool) ∧
    (∀ package names program config m, GuestModule.load package names program config = .ok m →
      m.bound = none ∧ ∃ base, m.guest.pool.buffers = [⟨base, config.preallocatedBufferSize, 0⟩]) ∧
    ∀ package m, s.engine.module? package = some m → ∃ restored, m.restore = .ok restored ∧
      restored.bound = none ∧
      ∃ base, restored.guest.pool.buffers = [⟨base, m.config.preallocatedBufferSize, 0⟩] := by
  intro s
  have hcontinues : s.engine.Continues fresh :=
    Scene.continues_serveAll adapters (.refl hfresh) hfresh past
  have hunbound : ∀ package m, s.engine.module? package = some m → m.bound = none := by
    intro package m hm
    obtain ⟨loaded, -, hmodule⟩ := hcontinues.modules package m hm
    exact hmodule.unbound
  refine ⟨fun i now package extension context =>
      ⟨fun m function ticks henters => ?_, fun hnot => ?_⟩,
    fun package m hm => ?_, fun package other => ?_, fun package other => ?_,
    fun sandbox exports guest function args => ⟨?_, ?_⟩,
    fun package names program config m hload => ⟨?_, ?_⟩, fun package m hm => ?_⟩
  · exact Scene.moved_serve_invoke adapters henters
  · exact Scene.world_serve_of_not_enters adapters hnot
  · exact leftAlone_of_unbound (hunbound package m hm)
  · exact pool?_withModule (fun m hm => GuestModule.pool_heapStats (hunbound package m hm)) other
  · exact pool?_withModule (fun m hm => GuestModule.pool_collect (hunbound package m hm)) other
  · exact GuestModule.isUnserved_quietHistory sandbox exports guest function args
  · exact GuestModule.pool_callQuietly sandbox exports guest function args
  · exact GuestModule.unbound_of_load hload
  · exact GuestModule.buffers_of_load hload
  · obtain ⟨loaded, hloaded, hmodule⟩ := hcontinues.modules package m hm
    have hisLoaded := (hfresh.isLoaded hloaded).1
    refine ⟨loaded, hisLoaded.restore_eq hmodule.comesFrom, hisLoaded.bound, ?_⟩
    rw [hmodule.comesFrom.config]
    exact hisLoaded.prepared.buffers

end Engine

/-- Two adapters on one world, in which each of them notes every item that it is asked for. -/
def Sample.noting (i : Bool) : Adapter (List Bool) where
  keyBuilder _ _ w := (.error (.other "read only"), w)
  mustExist _ w := (.error (.other "read only"), w)
  canExist _ w := (.ok none, w)
  readValues _ w := .done (.ok ()) w
  newValue _ w := (.error (.other "read only"), w)
  updateValue _ _ w := (.error (.other "read only"), w)
  putField _ _ _ w := (.error (.other "read only"), w)
  keyField _ name _ w := (.error (.notFound name), w)
  valueField _ name _ w := (.error (.notFound name), w)
  valueItem _ _ kind w :=
    (.ok (if kind = .string then .string "hello" else .bytes ⟨#[1, 2, 3]⟩), w ++ [i])
  valueLength _ w := (.ok 2, w)

/-- The first adapter serves an invocation, and the second one an invocation that fails. -/
def Sample.requests : List (Engine.Request Bool) :=
  [.invoke true ⟨0⟩ "sample" "greet" .unbounded, .other (.recover "sample"),
    .invoke false ⟨0⟩ "sample" "overreach" .unbounded]

/-- What they come to. -/
def Sample.scene : Engine.Scene (List Bool) :=
  Engine.Scene.serveAll Sample.noting ⟨Sample.engine, []⟩ Sample.requests

namespace Engine

/-- The second adapter is asked for two items, after the first one has been; in between, when its
first invocation has failed, nobody is bound. -/
theorem adapters_serve_their_own_invocations_sample :
    Sample.scene.world = [true, true] ∧
    ∃ m t, t.world = [true, true, false, false] ∧
      Scene.Moved (Sample.noting false) m "greet" unboundedTicks Sample.scene t ∧
      LeftAlone m := by
  have hentry : (Sample.scene.engine.module? "sample").map (·.entry "greet")
      = some (.ok "greet") := by decide +kernel
  have hlimits : Sample.scene.engine.limits = .unlimited := by decide +kernel
  have hworld : (Sample.scene.serve Sample.noting
      (.invoke false ⟨0⟩ "sample" "greet" .unbounded)).world = [true, true, false, false] := by
    decide +kernel
  obtain ⟨m, hm, hentry⟩ := Option.map_eq_some_iff.mp hentry
  have henters := Sample.enters hm hlimits hentry
  obtain ⟨hinvoke, halone, -⟩ := adapters_serve_their_own_invocations Sample.isFresh_engine
    Sample.noting [] Sample.requests
  obtain ⟨hmoved, -⟩ := hinvoke false ⟨0⟩ "sample" "greet" .unbounded
  exact ⟨by decide +kernel, m, _, hworld, hmoved m "greet" unboundedTicks henters,
    halone "sample" m hm⟩

end Engine

end ExtensionHost
