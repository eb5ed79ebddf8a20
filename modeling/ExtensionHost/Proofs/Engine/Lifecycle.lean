import ExtensionHost.Proofs.Bridge.Complaints
import ExtensionHost.Proofs.Engine.Agreement
import ExtensionHost.Proofs.Engine.Deadline
import ExtensionHost.Proofs.Engine.Isolation
import ExtensionHost.Proofs.Factory.Pools

/-!
# The life of an engine

An engine offers the same packages with the same extensions from its creation until it is closed,
and nothing from then on.  In between, a name that is asked for is rejected if it is not on offer,
and for no other reason; and the limits that were set last are in force.

Every operation but closing puts a module in the place of one under the same name.  As the modules
are kept in ascending order of their names, the list of names is the same list afterwards
(`Engine.Lists`).  A roll-back finds the extensions anew from their own names; that this yields the
extensions of the loaded module is part of `Engine.Continues`.

A rejection must not be taken for anything else: counters of a heap and collections run guest code
too, and no failure of it looks as if the package were not there.

## Main definitions

* `PoolRequest.Declares`, the extensions that the packages of a request declare
* `Engine.Lists`, an engine with a list of packages
* `Engine.Rejects`, what an engine rejects
* `Operation.lastLimits`

## Main results

* `Engine.Lists.perform`, what an operation preserves
* `Engine.limits_performAll`
* `Engine.packages_stay_until_closed`
-/

namespace ExtensionHost

open Guest

/-! ### Guest code outside invocations -/

/-- Failures of the guest, and errors of host functions, do not say that a package is not loaded. -/
theorem Guest.Failure.classify_ne_undefinedPackage {f : Failure}
    (hf : ∀ e, f = .host e → e.isOfHost = true) (growthRefused : Bool) (package : String) :
    f.classify growthRefused ≠ .undefinedPackage package := by
  cases f with
  | interrupted => exact fun h => ExtensionError.noConfusion h
  | trap cause => cases growthRefused <;> exact fun h => ExtensionError.noConfusion h
  | host e =>
    cases growthRefused with
    | true => exact fun h => ExtensionError.noConfusion h
    | false =>
      rintro rfl
      cases hf _ rfl

namespace GuestModule

/-- A call outside invocations fails as the run of the function does. -/
theorem failure?_of_callQuietly {sandbox : Sandbox Empty} {exports : Option Exports}
    {guest : GuestState} {function : String} {args : List UInt64} {f : Failure}
    (h : (callQuietly sandbox exports guest function args).1 = .error f) :
    Run.failure? (sandbox.call function args) (quietStart exports guest) = some f := by
  rw [callQuietly] at h
  rw [Run.failure?, quietStart]
  split at h
  · cases h
  · rename_i heq
    cases h
    rw [heq]

/-- What host functions fail with in a call outside invocations. -/
theorem isOfHost_of_callQuietly {sandbox : Sandbox Empty} {exports : Option Exports}
    {guest : GuestState} {function : String} {args : List UInt64} {e : ExtensionError}
    (h : (callQuietly sandbox exports guest function args).1 = .error (.host e)) :
    e.isOfHost = true := by
  obtain ⟨n, hn, f, args', depth, -, hraised⟩ :=
    sandbox.explains_history function args (quietStart exports guest) e (failure?_of_callQuietly h)
  have hunserved := isUnserved_quietHistory sandbox exports guest function args n hn
  exact HostFunction.isOfHost_of_unbound hunserved.bound.1 hraised

/-- What they fail with in functions that are called in turn, if nobody serves these. -/
theorem isOfHost_of_quietFailure? {m : GuestModule} (hbound : m.bound = none)
    {functions : List (Exports → String)} {e : ExtensionError}
    (h : m.quietFailure? functions = some (.host e)) : e.isOfHost = true := by
  induction functions generalizing m with
  | nil => cases h
  | cons function rest ih =>
    have hunbound := unbound_callExport hbound (function m.exports)
    rw [quietFailure?] at h
    rcases hcall : m.callExport (function m.exports) with ⟨f | results, m'⟩
    · simp only [hcall, Option.some.injEq] at h
      rw [callExport_eq hbound, h] at hcall
      exact isOfHost_of_callQuietly (Prod.mk.inj hcall).1
    · rw [hcall] at hunbound
      simp only [hcall] at h
      exact ih hunbound h

/-- Functions that fail are never reported as a package that is not loaded. -/
theorem classify_quietFailure?_ne {m : GuestModule} (hbound : m.bound = none)
    {functions : List (Exports → String)} {f : Failure} (hf : m.quietFailure? functions = some f)
    (growthRefused : Bool) (package : String) :
    f.classify growthRefused ≠ .undefinedPackage package := by
  refine f.classify_ne_undefinedPackage (fun e he => ?_) growthRefused package
  exact isOfHost_of_quietFailure? hbound (he ▸ hf)

theorem heapStats_ne_undefinedPackage {m : GuestModule} (hbound : m.bound = none)
    (package : String) : m.heapStats.1 ≠ .error (.undefinedPackage package) := by
  intro h
  have hstats := m.fst_heapStats
  rw [h] at hstats
  split at hstats
  · cases hstats
  · rename_i f hf
    exact classify_quietFailure?_ne hbound hf _ package (Except.error.inj hstats).symm

theorem collect_ne_undefinedPackage {m : GuestModule} (hbound : m.bound = none)
    (package : String) : m.collect.1 ≠ .error (.undefinedPackage package) := by
  rw [fst_collect]
  split
  · exact nofun
  · rename_i f hf
    exact fun h => classify_quietFailure?_ne hbound hf false package (Except.error.inj h)

end GuestModule

/-! ### Lists of packages -/

/-- Modules are loaded into a map that is in order. -/
theorem Factory.sorted_of_foldlM {config : EngineConfig} {compiled : List (Package × Program)}
    {modules modules' : Assoc String GuestModule} (h : modules.Sorted)
    (hfold : compiled.foldlM (Factory.load config) modules = .ok modules') : modules'.Sorted := by
  induction compiled generalizing modules with
  | nil =>
    cases hfold
    exact h
  | cons c compiled ih =>
    rw [List.foldlM_cons, bind_eq_ok_iff] at hfold
    obtain ⟨next, hload, hrest⟩ := hfold
    obtain ⟨-, m, -, rfl⟩ := Factory.load_eq_ok hload
    exact ih (h.insert _ m) hrest

namespace Engine

variable {e fresh : Engine} {names : List String}

theorem mem_packages_iff {package : String} :
    package ∈ e.packages ↔ ∃ m, e.module? package = some m := by
  rw [packages, Assoc.mem_keys_iff, Assoc.contains, Option.isSome_iff_exists]
  rfl

theorem module?_eq_none_iff {package : String} :
    e.module? package = none ↔ package ∉ e.packages := by
  rw [mem_packages_iff, Option.eq_none_iff_forall_ne_some, not_exists]

/-- The packages of an engine, whose modules are in the order of their names. -/
structure Lists (names : List String) (e : Engine) : Prop where
  /-- The names of the packages. -/
  packages : e.packages = names
  /-- Their order. -/
  sorted : e.modules.Sorted

theorem IsFresh.lists (h : e.IsFresh) : Lists e.packages e := by
  obtain ⟨-, hbuild, he⟩ := h
  obtain ⟨-, compiled, modules, -, hfold, rfl, -⟩ := Factory.newEngines_eq_ok hbuild
  obtain ⟨slot, -, rfl⟩ := List.mem_map.mp he
  exact ⟨rfl, Factory.sorted_of_foldlM Assoc.sorted_empty hfold⟩

namespace Lists

variable {package : String} {m : GuestModule}

theorem count (h : Lists names e) (f : Metrics → Metrics) : Lists names (e.count f) :=
  ⟨h.packages, h.sorted⟩

theorem putModule (h : Lists names e) (hpackage : package ∈ names) (m : GuestModule) :
    Lists names (e.putModule package m) := by
  refine ⟨?_, h.sorted.insert package m⟩
  rw [← h.packages] at hpackage ⊢
  exact Assoc.keys_insert_of_contains h.sorted (Assoc.mem_keys_iff.mp hpackage) m

theorem restoreModule (h : Lists names e) (hpackage : package ∈ names) (m : GuestModule) :
    Lists names (e.restoreModule package m).2 := by
  rw [Engine.restoreModule]
  cases m.restore with
  | ok restored => exact (h.putModule hpackage restored).count _
  | error error => exact h

theorem runModule {σ : Type} (h : Lists names e) (hpackage : package ∈ names) (m : GuestModule)
    (function : String) (ticks : Nat) (adapter : Adapter σ) (state : σ) :
    Lists names (e.runModule package m function ticks adapter state).2.1 := by
  have hput := h.putModule hpackage (m.run adapter state function ticks).2.1
  cases hr : (m.run adapter state function ticks).1 with
  | ok u => rwa [engine_runModule_of_kept (Or.inl hr)]
  | error error =>
    by_cases hauto : e.config.autoRecover = true
    · rw [engine_runModule_of_restored hr hauto]
      exact hput.restoreModule hpackage _
    · rwa [engine_runModule_of_kept (Or.inr (Bool.not_eq_true _ ▸ hauto))]

theorem mem_of_module? (h : Lists names e) (hm : e.module? package = some m) : package ∈ names :=
  h.packages ▸ mem_packages_iff.mpr ⟨m, hm⟩

theorem invoke {σ : Type} (h : Lists names e) (now : Instant) (package extension : String)
    (context : Context) (adapter : Adapter σ) (state : σ) :
    Lists names (e.invoke now package extension context adapter state).engine := by
  by_cases henters : ∃ m function ticks, e.Enters now package extension context m function ticks
  · obtain ⟨m, function, ticks, henters⟩ := henters
    obtain ⟨f, hinvoke⟩ := invoke_of_enters henters adapter state
    rw [hinvoke]
    have hpackage := h.mem_of_module? henters.module?
    exact ((h.count _).runModule hpackage m function ticks adapter state).count f
  · obtain ⟨f, hengine⟩ := invoke_of_not_enters
      (fun m function ticks hentered => henters ⟨m, function, ticks, hentered⟩) adapter state
    rw [hengine]
    exact h.count f

theorem withModule {α : Type} (h : Lists names e) (package : String)
    (f : GuestModule → Except ExtensionError α × GuestModule) :
    Lists names (e.withModule package f).2 := by
  rw [Engine.withModule]
  cases hm : e.module? package with
  | none => exact h
  | some m => exact h.putModule (h.mem_of_module? hm) _

theorem close (e : Engine) : Lists [] e.close := ⟨rfl, Assoc.sorted_empty⟩

/-- No operation changes the list of packages, unless it is closing. -/
theorem perform (h : Lists names e) {op : Operation} (hop : op = .close → names = []) :
    Lists names (e.perform op).2 := by
  cases op with
  | invoke now package extension context client =>
    exact h.invoke now package extension context client.adapter client.state
  | heapStats package => exact h.withModule package _
  | collect package => exact h.withModule package _
  | recover package =>
    show Lists names (e.recover package).2
    rw [Engine.recover]
    cases hm : e.module? package with
    | none => exact h
    | some m => exact h.restoreModule (h.mem_of_module? hm) m
  | setLimits limits => exact ⟨h.packages, h.sorted⟩
  | close => exact hop rfl ▸ close e

theorem performAll (h : Lists names e) {ops : List Operation}
    (hops : Operation.close ∈ ops → names = []) : Lists names (e.performAll ops) := by
  induction ops generalizing e with
  | nil => exact h
  | cons op ops ih =>
    refine ih (h.perform fun hop => hops (hop ▸ List.mem_cons_self)) fun hlater => ?_
    exact hops (List.mem_cons_of_mem op hlater)

end Lists

/-- An engine that was closed lists nothing, whatever else is asked of it. -/
theorem lists_of_close_mem (e : Engine) {ops : List Operation} (h : Operation.close ∈ ops) :
    Lists [] (e.performAll ops) := by
  obtain ⟨past, later, rfl⟩ := List.append_of_mem h
  rw [performAll, List.foldl_append, List.foldl_cons]
  have hlists : Lists [] (Engine.perform (past.foldl (fun e op => (e.perform op).2) e) .close).2 :=
    Lists.close _
  exact hlists.performAll fun _ => rfl

/-- Of a package that is still listed, the extensions are those of the engine at the start. -/
theorem Continues.hasExtension_eq (h : e.Continues fresh) (hlists : Lists fresh.packages e)
    (package extension : String) :
    e.hasExtension package extension = fresh.hasExtension package extension := by
  rw [hasExtension, hasExtension]
  cases hm : e.module? package with
  | none =>
    have hfresh : fresh.module? package = none :=
      module?_eq_none_iff.mpr (hlists.packages ▸ module?_eq_none_iff.mp hm)
    rw [hfresh]
  | some m =>
    obtain ⟨loaded, hloaded, hcontinues⟩ := h.modules package m hm
    have hextensions : m.extensions = loaded.extensions := by rw [hcontinues.comesFrom]
    rw [hloaded, Option.any_some, Option.any_some, GuestModule.hasExtension, hextensions]
    rfl

/-! ### Rejections -/

/-- An engine rejects what it does not offer: invocations of packages that are not listed and of
extensions that a package does not declare, and other requests about packages that are not
listed.  Nothing else looks like such a rejection. -/
structure Rejects (names : List String) (declares : String → String → Prop) (e : Engine) :
    Prop where
  /-- Invocations, by their packages. -/
  package : ∀ (now : Instant) (package extension : String) (context : Context) (client : Client),
    (e.invoke now package extension context client.adapter client.state).outcome
      = .returned (.error (.undefinedPackage package)) ↔ package ∉ names
  /-- Invocations, by their extensions. -/
  extension : ∀ (now : Instant) (package extension : String) (context : Context) (client : Client),
    (e.invoke now package extension context client.adapter client.state).outcome
      = .returned (.error (.invalidExtensionName extension)) ↔
        package ∈ names ∧ ¬ declares package extension
  /-- Counters of a heap. -/
  heapStats : ∀ package, (e.heapStats package).1 = .error (.undefinedPackage package) ↔
    package ∉ names
  /-- Collections. -/
  collect : ∀ package, (e.collect package).1 = .error (.undefinedPackage package) ↔
    package ∉ names
  /-- Roll-backs. -/
  recover : ∀ package, (e.recover package).1 = .error (.undefinedPackage package) ↔
    package ∉ names

theorem withModule_eq_undefinedPackage_iff {α : Type} {package : String}
    {f : GuestModule → Except ExtensionError α × GuestModule}
    (hf : ∀ m, e.module? package = some m → (f m).1 ≠ .error (.undefinedPackage package)) :
    (e.withModule package f).1 = .error (.undefinedPackage package) ↔ package ∉ e.packages := by
  rw [← module?_eq_none_iff, withModule]
  cases hm : e.module? package with
  | none => simp only
  | some m => simpa only [reduceCtorEq, iff_false] using hf m hm

/-- The roll-back of a module succeeds. -/
theorem Continues.recover_eq_ok (h : e.Continues fresh) (hfresh : fresh.IsFresh) {package : String}
    (hpackage : package ∈ e.packages) : (e.recover package).1 = .ok () := by
  obtain ⟨m, hm⟩ := mem_packages_iff.mp hpackage
  obtain ⟨loaded, hloaded, hcontinues⟩ := h.modules package m hm
  simp only [recover, hm]
  rw [Continues.restoreModule_eq hfresh hloaded hcontinues]

/-- A reachable engine rejects what it does not offer, by its own account. -/
theorem IsReachable.rejects (h : e.IsReachable) :
    Rejects e.packages (fun package extension => e.hasExtension package extension = true) e := by
  have hunbound {package : String} {m : GuestModule} (hm : e.module? package = some m) :
      m.bound = none := by
    obtain ⟨loaded, -, hcontinues⟩ := h.module hm
    exact hcontinues.unbound
  refine ⟨fun now package extension context client => ?_,
    fun now package extension context client => ?_,
    fun package => withModule_eq_undefinedPackage_iff fun m hm =>
      GuestModule.heapStats_ne_undefinedPackage (hunbound hm) package,
    fun package => withModule_eq_undefinedPackage_iff fun m hm =>
      GuestModule.collect_ne_undefinedPackage (hunbound hm) package,
    fun package => ?_⟩
  · rw [← module?_eq_none_iff]
    refine ⟨fun herror => ?_, outcome_of_module?_eq_none now context client.adapter client.state⟩
    cases hm : e.module? package with
    | none => rfl
    | some m =>
      cases hextension : m.hasExtension extension with
      | false =>
        rw [outcome_of_not_hasExtension now context client.adapter client.state hm hextension]
          at herror
        cases herror
      | true =>
        have hdeclared : e.hasExtension package extension = true := by
          rw [hasExtension, hm, Option.any_some, hextension]
        cases isRecoverable_of_hasExtension now context client.adapter client.state h hdeclared
          herror
  · constructor
    · intro herror
      constructor
      · by_contra hpackage
        rw [outcome_of_module?_eq_none now context client.adapter client.state
          (module?_eq_none_iff.mpr hpackage)] at herror
        cases herror
      · intro hdeclared
        cases isRecoverable_of_hasExtension now context client.adapter client.state h hdeclared
          herror
    · rintro ⟨hpackage, hdeclared⟩
      obtain ⟨m, hm⟩ := mem_packages_iff.mp hpackage
      rw [hasExtension, hm, Option.any_some, Bool.not_eq_true] at hdeclared
      exact outcome_of_not_hasExtension now context client.adapter client.state hm hdeclared
  · obtain ⟨fresh, ops, hfresh, rfl⟩ := h
    have hcontinues := (Continues.refl hfresh).performAll hfresh ops
    by_cases hpackage : package ∈ (fresh.performAll ops).packages
    · simp only [hcontinues.recover_eq_ok hfresh hpackage, reduceCtorEq, hpackage,
        not_true_eq_false]
    · simp only [recover, module?_eq_none_iff.mpr hpackage, hpackage, not_false_eq_true]

end Engine

/-! ### Limits -/

/-- The limits that an operation sets. -/
def Operation.limits? : Operation → Option Limits
  | .setLimits limits => some limits
  | _ => none

/-- The limits that were set last, where there were none at the start. -/
def Operation.lastLimits (ops : List Operation) : Limits :=
  (ops.filterMap Operation.limits?).getLast?.getD .unlimited

namespace Engine

/-- Setting limits is the only way to change them. -/
theorem limits_perform (e : Engine) (op : Operation) :
    (e.perform op).2.limits = op.limits?.getD e.limits := by
  cases hpackage : op.package? with
  | some package =>
    have hnone : op.limits? = none := by
      cases op with
      | setLimits limits => cases hpackage
      | _ => rfl
    rw [(changesOnly_perform e hpackage).limits, hnone]
    rfl
  | none =>
    cases op with
    | setLimits limits => rfl
    | close => rfl
    | _ => cases hpackage

theorem limits_performAll (e : Engine) (ops : List Operation) :
    (e.performAll ops).limits = (ops.filterMap Operation.limits?).getLast?.getD e.limits := by
  induction ops generalizing e with
  | nil => rfl
  | cons op ops ih =>
    show ((e.perform op).2.performAll ops).limits = _
    rw [ih, limits_perform, List.filterMap_cons]
    cases op.limits? with
    | none => rfl
    | some limits =>
      dsimp only
      rw [List.getLast?_cons]
      rfl

end Engine

/-! ### The life of an engine -/

/-- A package of a request declares an extension. -/
def PoolRequest.Declares (r : PoolRequest) (package extension : String) : Prop :=
  ∃ p ∈ r.packages, p.qualifiedName = package ∧ extension ∈ p.extensionNames

/-- The engines of a pool have the extensions that are declared. -/
theorem Factory.IsPool.hasExtension_iff {f : Factory} {r : PoolRequest} {engines : List Engine}
    (h : IsPool f r engines) {e : Engine} (he : e ∈ engines) (package extension : String) :
    e.hasExtension package extension = true ↔ r.Declares package extension := by
  constructor
  · intro hextension
    have hpackage : package ∈ e.packages := by
      by_contra hpackage
      rw [Engine.hasExtension, Engine.module?_eq_none_iff.mpr hpackage] at hextension
      cases hextension
    obtain ⟨p, hp, rfl⟩ := List.mem_map.mp ((h.packages e he).mem_iff.mp hpackage)
    exact ⟨p, hp, rfl, (h.hasExtension e he p hp extension).mp hextension⟩
  · rintro ⟨p, hp, rfl, hname⟩
    exact (h.hasExtension e he p hp extension).mpr hname

namespace Engine

/-- **Packages stay until the engine is closed.**  A new engine lists the packages that it was asked
for, and has the extensions that these declare.  Let any operations follow, with any outcomes.

Until it is closed, the engine lists the same packages and has the same extensions.  It rejects
invocations, readings of counters, collections and roll-backs because of the package if and only if
the package is not among these, and invocations because of the extension if and only if their
package does not declare it.  From then on it lists no package and has no extension.

The limits that were set last are in force: every invocation of a declared extension gets the time
until its earliest bound under these limits, whatever became of the operations since they were
set. -/
theorem packages_stay_until_closed {f f' : Factory} {r : PoolRequest} {engines : List Engine}
    {fresh : Engine} (hvalid : f.config.validate = .ok ())
    (hbuild : f.newEngines r.tree r.packages r.poolSize = (.returned (.ok engines), f'))
    (hfresh : fresh ∈ engines) (ops : List Operation) :
    let e := fresh.performAll ops
    (fresh.packages.Perm (r.packages.map (·.qualifiedName)) ∧
      ∀ package extension,
        fresh.hasExtension package extension = true ↔ r.Declares package extension) ∧
    (Operation.close ∉ ops →
      e.packages = fresh.packages ∧
      (∀ package extension,
        e.hasExtension package extension = fresh.hasExtension package extension) ∧
      Rejects fresh.packages r.Declares e) ∧
    (Operation.close ∈ ops →
      e.packages = [] ∧ ∀ package extension, e.hasExtension package extension = false) ∧
    e.limits = Operation.lastLimits ops ∧
    ∀ now package extension context m function, e.resolve package extension = .ok (m, function) →
      e.Heeds (Operation.lastLimits ops) now package extension context m function := by
  intro e
  have hisFresh : fresh.IsFresh := .built hvalid hbuild hfresh
  have hpool := (Factory.isPool_of_newEngines hbuild).1
  have hdeclares := hpool.hasExtension_iff hfresh
  have hcontinues : e.Continues fresh := (Continues.refl hisFresh).performAll hisFresh ops
  have hlimits : e.limits = Operation.lastLimits ops := by
    rw [limits_performAll, hpool.limits fresh hfresh]
    rfl
  refine ⟨⟨hpool.packages fresh hfresh, hdeclares⟩, fun hopen => ?_, fun hclosed => ?_, hlimits,
    fun now package extension context m function hresolve => hlimits ▸ heeds_limits hresolve⟩
  · have hlists : Lists fresh.packages e := hisFresh.lists.performAll fun h => absurd h hopen
    have hextension := hcontinues.hasExtension_eq hlists
    have hrejects := IsReachable.rejects (e := e) ⟨fresh, ops, hisFresh, rfl⟩
    simp only [hlists.packages, hextension, hdeclares] at hrejects
    exact ⟨hlists.packages, hextension, hrejects⟩
  · have hlists : Lists [] e := fresh.lists_of_close_mem hclosed
    refine ⟨hlists.packages, fun package extension => ?_⟩
    rw [hasExtension, module?_eq_none_iff.mpr (hlists.packages ▸ List.not_mem_nil)]
    rfl

end Engine

namespace Sample

/-- What the small engine was asked for with. -/
def request : PoolRequest where
  tree := ⟨[("/sample", .program program)], []⟩
  packages := [⟨"sample", .ofFilePath "/sample", extensions.map Prod.fst⟩]
  poolSize := 1

/-- Limits of five seconds. -/
def limits : Limits := ⟨.ofMillis 5000⟩

/-- An invocation that fails and is rolled back, limits, and requests that are rejected. -/
def operations : List Operation :=
  [.invoke ⟨0⟩ "sample" "overreach" .unbounded client, .setLimits limits,
    .invoke ⟨7⟩ "sample" "depart" .unbounded client, .collect "absent", .recover "sample"]

end Sample

namespace Engine

/-- After a failure, a roll-back and some rejections, five seconds are what an endless loop gets. -/
theorem packages_stay_until_closed_sample :
    let e := Sample.engine.performAll Sample.operations
    let closed := Sample.engine.performAll (Sample.operations ++ [.close])
    (e.packages = ["sample"] ∧ e.hasExtension "sample" "linger" = true ∧
      (e.invoke ⟨9⟩ "sample" "depart" .unbounded Sample.client.adapter Sample.client.state).outcome
        = .returned (.error (.invalidExtensionName "depart")) ∧
      (e.heapStats "absent").1 = .error (.undefinedPackage "absent") ∧
      e.limits = Sample.limits ∧
      ∃ m, e.Runs ⟨9⟩ "sample" "linger" .unbounded m "linger" 500) ∧
    closed.packages = [] ∧ closed.hasExtension "sample" "linger" = false := by
  obtain ⟨engines, f', hbuild, hengine⟩ := Sample.exists_engines
  have hvalid : Sample.config.validate = .ok () := by decide +kernel
  have hstay := packages_stay_until_closed (r := Sample.request) hvalid hbuild hengine
  have hfresh : Sample.engine.packages = ["sample"] ∧
      Sample.engine.hasExtension "sample" "linger" = true := by decide +kernel
  obtain ⟨⟨-, hdeclares⟩, hopen, -, hlimits, hheeds⟩ := hstay Sample.operations
  obtain ⟨hpackages, hextension, hrejects⟩ := hopen (by simp [Sample.operations])
  obtain ⟨-, -, hclosed, -⟩ := hstay (Sample.operations ++ [.close])
  obtain ⟨hnone, hnothing⟩ := hclosed (List.mem_append_right _ List.mem_cons_self)
  have hends : ¬ Sample.limits.Outlasts ⟨9⟩ := fun houtlasts =>
    absurd houtlasts.2 (by decide +kernel)
  have hearliest : Context.unbounded.IsEarliest Sample.limits ⟨9⟩ (some ⟨5000000009⟩) :=
    (Context.effectiveDeadline_eq_ok_iff hends).mp (by decide +kernel)
  have hticks : ticksUntil (Sample.engine.performAll Sample.operations).config.epochTickMillis
      ⟨5000000009⟩ ⟨9⟩ = 500 := by decide +kernel
  obtain ⟨m, hresolve⟩ : ∃ m,
      (Sample.engine.performAll Sample.operations).resolve "sample" "linger"
        = .ok (m, "linger") := by
    have hentry : ((Sample.engine.performAll Sample.operations).module? "sample").map
        (·.entry "linger") = some (.ok "linger") := by decide +kernel
    obtain ⟨m, hm, hentry⟩ := Option.map_eq_some_iff.mp hentry
    exact ⟨m, by simp only [resolve, hm, hentry, Except.map]⟩
  have hruns := (hheeds _ _ _ _ _ _ hresolve).bounded _ hends hearliest (by decide)
  rw [hticks] at hruns
  refine ⟨⟨hpackages.trans hfresh.1, (hextension _ _).trans hfresh.2, ?_, ?_, hlimits, m, hruns⟩,
    hnone, hnothing _ _⟩
  · refine (hrejects.extension _ _ _ _ _).mpr ⟨by rw [hfresh.1]; exact List.mem_cons_self, ?_⟩
    rw [← hdeclares]
    decide +kernel
  · exact (hrejects.heapStats _).mpr (by rw [hfresh.1]; decide)

end Engine

end ExtensionHost
