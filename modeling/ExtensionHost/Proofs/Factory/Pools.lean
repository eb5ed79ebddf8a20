import ExtensionHost.Proofs.Engine.Operation
import ExtensionHost.Proofs.Factory.Loading
import Mathlib.Algebra.GroupWithZero.Nat
import Mathlib.Data.List.Dedup

/-!
# Pools are complete or absent

A request for a pool walks through steps: it looks at the size, compares the names of the packages,
reads and compiles every module, asks for room, and loads every program into the engine of every
slot.  Which step comes after which is written down as a list, `PoolRequest.steps`, and what a step
stops with is a function of the step alone.  A request stops with the first step that does, and if
none does it yields all the engines asked for.

**Room.**  One step does not stop with an error.  If the bytes of all engines are more than can be
asked for at once, there is no answer at all, not even the error of a program that no engine could
load (`Factory.pools_may_crash`).  This takes a size of at least 2⁵⁶, but no memory.

**Slot by slot.**  Every slot is filled for itself, and with the same outcome
(`Factory.mapM_fillSlot_of_ok`), so that the modules of all engines are the same.

## Main definitions

* `PoolRequest`, `Factory.request`, `Factory.requestAll` and `Factory.served`
* `PoolStep`, `PoolRequest.steps`, `PoolStop` and `Factory.firstStop?`
* `Factory.IsPool`, engines that serve the packages asked for

## Main results

* `Factory.stop?_request`, what a request stops with
* `Factory.isPool_of_newEngines`
* `Factory.stats_requestAll`, what a run of requests counts
* `Factory.pools_are_complete_or_absent`
* `Factory.pools_may_crash`
-/

namespace ExtensionHost

open Guest

/-- What a pool is asked for with, and the files at that time. -/
structure PoolRequest where
  /-- The files. -/
  tree : FileTree ModuleImage
  /-- The packages that every engine is to serve. -/
  packages : List Package
  /-- The number of engines. -/
  poolSize : UInt64

/-- A step on the way to a pool. -/
inductive PoolStep where
  /-- The size of the pool is looked at. -/
  | size
  /-- The name of a package is compared with the names of those before it. -/
  | name (earlier : List Package) (package : Package)
  /-- The module of a package is read. -/
  | read (package : Package)
  /-- What was read is compiled. -/
  | compile (package : Package)
  /-- Room for all engines is asked for. -/
  | room
  /-- The program is loaded into the engine of a slot. -/
  | load (slot : Nat) (package : Package)

/-- All steps, in order: the size, the names, the modules, the room, and slot by slot the loads. -/
def PoolRequest.steps (r : PoolRequest) : List PoolStep :=
  .size :: ((Factory.withEarlier r.packages).map fun (earlier, p) => .name earlier p)
    ++ (r.packages.flatMap fun p => [PoolStep.read p, .compile p])
    ++ .room :: (List.range r.poolSize.toNat).flatMap fun slot => r.packages.map (.load slot)

/-- The engines asked for have no room. -/
abbrev PoolRequest.IsTooLarge (r : PoolRequest) : Prop :=
  Factory.maxReservation < r.poolSize.toNat * Factory.engineBytes

/-- This is so from `2 ^ 56` engines on. -/
theorem PoolRequest.isTooLarge_iff {r : PoolRequest} :
    r.IsTooLarge ↔ 0x0100000000000000 ≤ r.poolSize.toNat := by
  rw [IsTooLarge, Factory.maxReservation, Factory.engineBytes]
  omega

/-- What a request for a pool stops with. -/
inductive PoolStop where
  /-- An error, which is returned. -/
  | failed (error : ExtensionError)
  /-- Nothing that could be returned. -/
  | crashed
  deriving DecidableEq

/-- What the caller sees of it. -/
def PoolStop.outcome : PoolStop → PoolOutcome
  | .failed error => .returned (.error error)
  | .crashed => .crashed ⟨⟩

/-- What a request has stopped with, if it did not yield a pool. -/
def PoolOutcome.stop? : PoolOutcome → Option PoolStop
  | .returned (.ok _) => none
  | .returned (.error error) => some (.failed error)
  | .crashed _ => some .crashed

namespace Factory

/-- What a step stops with, if the steps before it went well. -/
def stepStop? (config : EngineConfig) (r : PoolRequest) : PoolStep → Option PoolStop
  | .size =>
    if r.poolSize = 0 then some (.failed (.config (.stated "pool size must be greater than zero")))
    else none
  | .name earlier p =>
    if p.qualifiedName ∈ earlier.map (·.qualifiedName) then
      some (.failed (.packageAlreadyLoaded p.qualifiedName))
    else none
  | .read p => (failure? (p.read r.tree)).map .failed
  | .compile p =>
    ((p.read r.tree).toOption.bind fun image =>
      failure? (image.compile p.qualifiedName)).map .failed
  | .room => if r.IsTooLarge then some .crashed else none
  | .load _ p =>
    ((program r.tree p).toOption.bind fun program =>
      failure? (GuestModule.load p.qualifiedName p.extensionNames program config)).map .failed

/-- What the first step stops with that does not go well. -/
def firstStop? (config : EngineConfig) (r : PoolRequest) : Option PoolStop :=
  r.steps.findSome? (stepStop? config r)

/-! ### Requests -/

/-- Ask a factory for a pool. -/
def request (f : Factory) (r : PoolRequest) : PoolOutcome × Factory :=
  f.newEngines r.tree r.packages r.poolSize

/-- Ask a factory for one pool after the other. -/
def requestAll (f : Factory) (rs : List PoolRequest) : Factory :=
  rs.foldl (fun f r => (f.request r).2) f

/-- The requests of a run that were served. -/
def served : Factory → List PoolRequest → List PoolRequest
  | _, [] => []
  | f, r :: rs =>
    let rest := served (f.request r).2 rs
    match (f.request r).1 with
    | .returned (.ok _) => r :: rest
    | _ => rest

variable {f f' : Factory} {r : PoolRequest} {engines : List Engine}

/-! ### The first stop -/

theorem failure?_compile (tree : FileTree ModuleImage) (p : Package) :
    failure? (compile tree p)
      = (failure? (p.read tree)).or
          ((p.read tree).toOption.bind fun image => failure? (image.compile p.qualifiedName)) := by
  rw [compile_eq, failure?_map, program, failure?_bind]

/-- The names stop at the first one that comes again. -/
theorem findSome?_names (config : EngineConfig) (r : PoolRequest) :
    (((withEarlier r.packages).map fun (earlier, p) => PoolStep.name earlier p).findSome?
      (stepStop? config r)) = (failure? (checkDistinct [] r.packages)).map .failed := by
  rw [List.findSome?_map, failure?_checkDistinct, List.map_findSome?]
  congr 1
  funext ⟨earlier, p⟩
  simp only [List.append_nil, Function.comp, stepStop?, repetition?]
  split <;> rfl

/-- The modules stop at the first one that cannot be read or compiled. -/
theorem findSome?_programs (config : EngineConfig) (r : PoolRequest) :
    ((r.packages.flatMap fun p => [PoolStep.read p, .compile p]).findSome?
      (stepStop? config r)) = (failure? (r.packages.mapM (compile r.tree))).map .failed := by
  rw [findSome?_flatMap, failure?_mapM, List.map_findSome?]
  congr 1
  funext p
  rw [Function.comp, failure?_compile, findSome?_cons_eq_or, findSome?_cons_eq_or,
    List.findSome?_nil, Option.or_none, stepStop?, stepStop?]
  cases failure? (p.read r.tree) <;> rfl

/-- The loads of a slot stop at the first program that cannot be loaded. -/
theorem findSome?_loads {compiled : List (Package × Program)}
    (hcompiled : r.packages.mapM (compile r.tree) = .ok compiled)
    (hnodup : (r.packages.map (·.qualifiedName)).Nodup) (f : Factory) (slot : Nat) :
    (r.packages.map (PoolStep.load slot)).findSome? (stepStop? f.config r)
      = (failure? (f.fillSlot compiled slot)).map .failed := by
  obtain ⟨hpackages, hprograms⟩ := compiled_of_mapM hcompiled
  rw [← hpackages, List.map_map] at hnodup ⊢
  rw [fillSlot, failure?_map, failure?_foldlM_load hnodup fun _ _ => rfl, List.findSome?_map,
    List.map_findSome?]
  refine findSome?_congr fun c hc => ?_
  simp only [Function.comp, stepStop?, hprograms c hc, Except.toOption, Option.bind_some,
    loadModule]

/-- So do the loads of all slots. -/
theorem findSome?_slots {compiled : List (Package × Program)}
    (hcompiled : r.packages.mapM (compile r.tree) = .ok compiled)
    (hnodup : (r.packages.map (·.qualifiedName)).Nodup) (f : Factory) (slots : List Nat) :
    (slots.flatMap fun slot => r.packages.map (.load slot)).findSome? (stepStop? f.config r)
      = (failure? (slots.mapM (f.fillSlot compiled))).map .failed := by
  rw [findSome?_flatMap, failure?_mapM, List.map_findSome?]
  congr 1
  funext slot
  exact findSome?_loads hcompiled hnodup f slot

/-- Looking at the size, comparing names and compiling stop with the first error of theirs. -/
theorem findSome?_compileAll (config : EngineConfig) (r : PoolRequest) :
    (PoolStep.size :: ((withEarlier r.packages).map fun (earlier, p) => PoolStep.name earlier p)
        ++ (r.packages.flatMap fun p => [PoolStep.read p, .compile p])).findSome?
          (stepStop? config r)
      = (failure? (compileAll r.tree r.packages r.poolSize)).map .failed := by
  rw [List.findSome?_append, findSome?_cons_eq_or, findSome?_names, findSome?_programs, stepStop?,
    compileAll]
  by_cases hsize : r.poolSize = 0
  · simp only [if_pos hsize]
    rfl
  · simp only [if_neg hsize]
    show _ = (failure? (checkDistinct [] r.packages >>= fun _ => _)).map PoolStop.failed
    rw [failure?_bind]
    cases checkDistinct [] r.packages <;> rfl

/-- A request stops with the first of its steps that does. -/
theorem stop?_request (f : Factory) (r : PoolRequest) :
    (f.request r).1.stop? = firstStop? f.config r := by
  rw [firstStop?, PoolRequest.steps, List.findSome?_append, findSome?_compileAll, request,
    newEngines]
  cases hcompiled : compileAll r.tree r.packages r.poolSize with
  | error e => rfl
  | ok compiled =>
    obtain ⟨-, hdistinct, hmapM⟩ := compileAll_eq_ok_iff.mp hcompiled
    have hnodup := (checkDistinct_eq_ok_iff.mp hdistinct).1
    rw [findSome?_cons_eq_or, findSome?_slots hmapM hnodup, stepStop?, reserve]
    by_cases hlarge : r.IsTooLarge
    · simp only [if_pos hlarge]
      rfl
    · simp only [if_neg hlarge]
      cases (List.range r.poolSize.toNat).mapM (f.fillSlot compiled) <;> rfl

/-! ### The pool -/

/-- Engines that serve the packages asked for. -/
structure IsPool (f : Factory) (r : PoolRequest) (engines : List Engine) : Prop where
  /-- There are as many as asked for. -/
  length : engines.length = r.poolSize.toNat
  /-- No two of them are taken for each other. -/
  nodup : (engines.map (·.id)).Nodup
  /-- They hold the packages asked for, and no others. -/
  packages : ∀ e ∈ engines, e.packages.Perm (r.packages.map (·.qualifiedName))
  /-- Every package has the module that loading it yields, with the extensions that it declares. -/
  module? : ∀ e ∈ engines, ∀ p ∈ r.packages, ∃ program m, Factory.program r.tree p = .ok program ∧
    GuestModule.load p.qualifiedName p.extensionNames program f.config = .ok m ∧
      e.module? p.qualifiedName = some m ∧ m.extensionNames.Perm p.extensionNames.dedup
  /-- An extension is there if its package declares it. -/
  hasExtension : ∀ e ∈ engines, ∀ p ∈ r.packages, ∀ name,
    e.hasExtension p.qualifiedName name = true ↔ name ∈ p.extensionNames
  /-- The modules are the same in all of them. -/
  same : ∀ e ∈ engines, ∀ other ∈ engines, ∀ package, e.module? package = other.module? package
  /-- They have counted nothing. -/
  metrics : ∀ e ∈ engines, e.metrics = .zero
  /-- They put no limits on invocations. -/
  limits : ∀ e ∈ engines, e.limits = .unlimited
  /-- They work for the application of the factory, with its settings. -/
  settings : ∀ e ∈ engines, e.app = f.app ∧ e.config = f.config

/-- If a request yields engines, they are a pool, and the request is counted. -/
theorem isPool_of_newEngines
    (h : f.newEngines r.tree r.packages r.poolSize = (.returned (.ok engines), f')) :
    IsPool f r engines ∧ ∃ compiled, f' = f.counted compiled r.poolSize ∧
      compiled.length = r.packages.length := by
  obtain ⟨-, compiled, modules, hcompiled, hfold, rfl, rfl⟩ := newEngines_eq_ok h
  have hholds := holds_of_foldlM holds_nil hfold
  obtain ⟨hpackages, hprograms⟩ := compiled_of_mapM hcompiled
  have hmodule : ∀ p ∈ r.packages, ∃ program m, Factory.program r.tree p = .ok program ∧
      GuestModule.load p.qualifiedName p.extensionNames program f.config = .ok m ∧
        modules.find? p.qualifiedName = some m := by
    intro p hp
    rw [← hpackages] at hp
    obtain ⟨c, hc, rfl⟩ := List.mem_map.mp hp
    obtain ⟨m, hload, hfind⟩ := hholds.module? c hc
    exact ⟨c.2, m, hprograms c hc, hload, hfind⟩
  refine ⟨⟨?_, ?_, ?_, ?_, ?_, ?_, ?_, ?_, ?_⟩, compiled, rfl, by rw [← hpackages, List.length_map]⟩
  · rw [List.length_map, List.length_range]
  · rw [List.map_map]
    exact List.Nodup.map (fun i j hij => Nat.add_left_cancel hij) List.nodup_range
  all_goals simp only [List.mem_map, forall_exists_index, and_imp]
  · rintro e slot - rfl
    rw [← hpackages, List.map_map]
    exact hholds.keys
  · rintro e slot - rfl p hp
    obtain ⟨program, m, hprogram, hload, hfind⟩ := hmodule p hp
    refine ⟨program, m, hprogram, hload, hfind, ?_⟩
    rw [List.perm_ext_iff_of_nodup (GuestModule.nodup_extensionNames_of_load hload)
      (List.nodup_dedup _)]
    intro name
    rw [List.mem_dedup, ← GuestModule.contains_extensions_of_load hload name]
    exact Assoc.mem_keys_iff
  · rintro e slot - rfl p hp name
    obtain ⟨program, m, -, hload, hfind⟩ := hmodule p hp
    rw [← GuestModule.contains_extensions_of_load hload name]
    show ((modules.find? p.qualifiedName).any (·.hasExtension name)) = true ↔ _
    rw [hfind, Option.any_some]
  · rintro e slot - rfl other slot' - rfl package
    rfl
  · rintro e slot - rfl
    rfl
  · rintro e slot - rfl
    rfl
  · rintro e slot - rfl
    exact ⟨rfl, rfl⟩

end Factory

/-- The engines of a pool have valid settings if the factory has. -/
theorem Engine.IsFresh.validate_config {e : Engine} (h : e.IsFresh) :
    e.config.validate = .ok () := by
  obtain ⟨hvalid, hbuild, he⟩ := h
  obtain ⟨hpool, -⟩ := Factory.isPool_of_newEngines (r := ⟨_, _, _⟩) hbuild
  rw [(hpool.settings e he).2]
  exact hvalid

namespace Factory

variable {f f' : Factory} {r : PoolRequest} {engines : List Engine}

/-! ### Runs of requests -/

/-- A request yields a pool, or stops with the first of its steps that does and leaves the factory
as it is. -/
theorem request_cases (f : Factory) (r : PoolRequest) :
    (∃ engines compiled, f.request r = (.returned (.ok engines), f.counted compiled r.poolSize) ∧
      compiled.length = r.packages.length ∧ IsPool f r engines ∧ firstStop? f.config r = none) ∨
      ∃ stop, f.request r = (stop.outcome, f) ∧ firstStop? f.config r = some stop := by
  have hkept : (f.request r).1.stop? ≠ none → (f.request r).2 = f := by
    rw [request, newEngines]
    split
    · exact fun _ => rfl
    · split
      · exact fun _ => rfl
      · split
        · exact fun _ => rfl
        · exact fun hstop => absurd rfl hstop
  rw [← stop?_request]
  rcases hrequest : f.request r with ⟨outcome, after⟩
  rw [hrequest] at hkept
  cases outcome with
  | crashed cause => exact .inr ⟨.crashed, Prod.ext rfl (hkept (Option.some_ne_none _)), rfl⟩
  | returned result =>
    cases result with
    | error e => exact .inr ⟨.failed e, Prod.ext rfl (hkept (Option.some_ne_none _)), rfl⟩
    | ok engines =>
      obtain ⟨hpool, compiled, rfl, hlength⟩ := isPool_of_newEngines hrequest
      exact .inl ⟨engines, compiled, rfl, hlength, hpool, rfl⟩

/-- What a run of requests counts: those that were served, their engines and their packages. -/
theorem stats_requestAll (f : Factory) (rs : List PoolRequest) :
    (f.requestAll rs).stats = {
      poolsCreated := f.stats.poolsCreated + .ofNat (f.served rs).length
      enginesCreated := f.stats.enginesCreated + .ofNat ((f.served rs).map (·.poolSize.toNat)).sum
      packagesCompiled :=
        f.stats.packagesCompiled + .ofNat ((f.served rs).map (·.packages.length)).sum } := by
  induction rs generalizing f with
  | nil =>
    simp only [requestAll, served, List.foldl_nil, List.length_nil, List.map_nil, List.sum_nil]
    rw [show UInt64.ofNat 0 = 0 from rfl, UInt64.add_zero, UInt64.add_zero, UInt64.add_zero]
  | cons r rs ih =>
    have hrest : f.requestAll (r :: rs) = (f.request r).2.requestAll rs := rfl
    rw [hrest, ih]
    rcases request_cases f r with ⟨engines, compiled, hrequest, hlength, -⟩ | ⟨stop, hrequest, -⟩
    · have hserved : f.served (r :: rs) = r :: (f.counted compiled r.poolSize).served rs := by
        simp only [served, hrequest]
      rw [hserved, hrequest]
      simp only [counted, hlength]
      generalize Factory.served _ rs = rest
      simp only [List.length_cons, List.map_cons, List.sum_cons, Nat.add_comm rest.length 1,
        UInt64.ofNat_add, UInt64.ofNat_toNat, UInt64.add_assoc]
      rfl
    · cases stop <;> simp only [served, hrequest, PoolStop.outcome]

/-- A request crashes if it is too large, and everything up to the programs is in order. -/
theorem request_crashes_iff (f : Factory) (r : PoolRequest) :
    (f.request r).1 = .crashed ⟨⟩ ↔ r.IsTooLarge ∧ (r.packages.map (·.qualifiedName)).Nodup ∧
      ∀ p ∈ r.packages, ∃ program, Factory.program r.tree p = .ok program := by
  rw [request, newEngines]
  constructor
  · intro h
    split at h
    · cases h
    · rename_i compiled hcompiled
      obtain ⟨-, hdistinct, hmapM⟩ := compileAll_eq_ok_iff.mp hcompiled
      obtain ⟨hpackages, hprograms⟩ := compiled_of_mapM hmapM
      split at h
      · rename_i hreserve
        have hlarge : r.IsTooLarge := by
          rw [reserve] at hreserve
          by_contra hsmall
          rw [if_neg hsmall] at hreserve
          cases hreserve
        refine ⟨hlarge, (checkDistinct_eq_ok_iff.mp hdistinct).1, fun p hp => ?_⟩
        rw [← hpackages] at hp
        obtain ⟨c, hc, rfl⟩ := List.mem_map.mp hp
        exact ⟨c.2, hprograms c hc⟩
      · split at h <;> cases h
  · rintro ⟨hlarge, hnodup, hprograms⟩
    obtain ⟨compiled, hmapM⟩ := exists_compiled hprograms
    have hsize : r.poolSize ≠ 0 := by
      rintro hzero
      rw [PoolRequest.IsTooLarge, hzero] at hlarge
      exact absurd hlarge (by decide)
    have hdistinct : checkDistinct [] r.packages = .ok () :=
      checkDistinct_eq_ok_iff.mpr ⟨hnodup, List.forall_mem_nil _⟩
    simp only [compileAll_eq_ok_iff.mpr ⟨hsize, hdistinct, hmapM⟩, reserve, if_pos hlarge]

/-- **Pools are complete or absent**, unless they are too large.  Ask any factory for any packages
and any number of engines.  Either it yields a pool: as many engines as asked for, each holding the
packages asked for with the extensions that they declare, no counts and no limits, and package by
package the same modules in all of them.  Or it stops with the first step that does, and the factory
is what it was.  The size comes first, then the names, then reading and compiling the modules in
order, then the room, and then loading the modules in order.  All but one of these steps stop with
an error.  The room does not: a request that comes to it has no answer if it is too large.

A factory counts what it has done since it was made, modulo `2 ^ 64`: the requests that were served,
the engines of their pools, and the packages compiled for them. -/
theorem pools_are_complete_or_absent (f : Factory) :
    (∀ r, (∃ engines after, f.request r = (.returned (.ok engines), after) ∧ IsPool f r engines ∧
        firstStop? f.config r = none) ∨
      ∃ stop, f.request r = (stop.outcome, f) ∧ firstStop? f.config r = some stop) ∧
    (∀ r, (f.request r).1 = .crashed ⟨⟩ ↔ r.IsTooLarge ∧
      (r.packages.map (·.qualifiedName)).Nodup ∧
        ∀ p ∈ r.packages, ∃ program, Factory.program r.tree p = .ok program) ∧
    ∀ app config rs, Factory.new app config = .ok f →
      (f.requestAll rs).stats = {
        poolsCreated := .ofNat (f.served rs).length
        enginesCreated := .ofNat ((f.served rs).map (·.poolSize.toNat)).sum
        packagesCompiled := .ofNat ((f.served rs).map (·.packages.length)).sum } := by
  refine ⟨fun r => ?_, f.request_crashes_iff, fun app config rs hnew => ?_⟩
  · refine (request_cases f r).imp_left ?_
    rintro ⟨engines, compiled, hrequest, -, hpool, hnone⟩
    exact ⟨engines, _, hrequest, hpool, hnone⟩
  · have hstats : f.stats = ⟨0, 0, 0⟩ := by
      simp only [Factory.new, bind_eq_ok_iff] at hnew
      obtain ⟨_, -, hnew⟩ := hnew
      rw [← Except.ok.inj hnew]
    rw [stats_requestAll, hstats]
    simp only [UInt64.zero_add]

end Factory

/-- A new factory. -/
def Sample.factory : Factory := ⟨"sample", Sample.config, ⟨0, 0, 0⟩, 0⟩

theorem Sample.new_factory : Factory.new "sample" Sample.config = .ok Sample.factory := by
  have hvalid : Sample.config.validate = .ok () := by decide +kernel
  rw [Factory.new, hvalid]
  rfl

/-- The files of the sample requests. -/
def Sample.tree : FileTree ModuleImage := ⟨[("/sample", .program Sample.program)], []⟩

/-- A package that cannot be loaded, because its module lacks an extension that it declares. -/
def Sample.unusable : Package := ⟨"unusable", .ofFilePath "/sample", ["absent"]⟩

/-- Four requests: a pool of two engines, a pool without packages, a package that comes twice, and
one that is not there, behind one that cannot be loaded. -/
def Sample.poolRequests : List PoolRequest :=
  let sample : Package := ⟨"sample", .ofFilePath "/sample", ["greet"]⟩
  let missing : Package := ⟨"missing", .ofFilePath "/missing", []⟩
  [⟨tree, [sample], 2⟩, ⟨tree, [], 3⟩, ⟨tree, [missing, sample, missing], 1⟩,
    ⟨tree, [unusable, missing], 1⟩]

namespace Factory

theorem pools_are_complete_or_absent_sample :
    ∃ f, Factory.new "sample" Sample.config = .ok f ∧
      (f.requestAll Sample.poolRequests).stats = ⟨2, 5, 1⟩ ∧
      Sample.poolRequests.map (firstStop? f.config) = [none, none,
        some (.failed (.packageAlreadyLoaded "missing")), some (.failed (.io .notFound))] := by
  have hserved : ((Sample.factory.served Sample.poolRequests).map (·.poolSize.toNat),
      (Sample.factory.served Sample.poolRequests).map (·.packages.length)) = ([2, 3], [1, 0]) := by
    decide +kernel
  obtain ⟨hsizes, hpackages⟩ := Prod.mk.inj hserved
  have hlength : (Sample.factory.served Sample.poolRequests).length = 2 := by
    rw [← List.length_map (·.poolSize.toNat), hsizes]
    rfl
  refine ⟨Sample.factory, Sample.new_factory, ?_, by decide +kernel⟩
  rw [(pools_are_complete_or_absent Sample.factory).2.2 _ _ _ Sample.new_factory, hsizes, hpackages,
    hlength]
  rfl

/-- A package that cannot be loaded.  Asked for one engine with it, a factory answers with what is
missing; asked for `2 ^ 60`, it does not answer, although no engine is ever built. -/
theorem pools_may_crash :
    ∃ f, Factory.new "sample" Sample.config = .ok f ∧
      (f.request ⟨Sample.tree, [Sample.unusable], 1⟩).1.stop?
        = some (.failed (.missingExport "absent")) ∧
      ∀ result, (f.request ⟨Sample.tree, [Sample.unusable], 0x1000000000000000⟩).1
        ≠ .returned result := by
  have hprogram : program Sample.tree Sample.unusable = .ok Sample.program := by rfl
  refine ⟨Sample.factory, Sample.new_factory, by decide +kernel, fun result hresult => ?_⟩
  have hcrash := (Sample.factory.request_crashes_iff
    ⟨Sample.tree, [Sample.unusable], 0x1000000000000000⟩).mpr
    ⟨PoolRequest.isTooLarge_iff.mpr (by decide), List.nodup_singleton _,
      List.forall_mem_singleton.mpr ⟨_, hprogram⟩⟩
  rw [hcrash] at hresult
  cases hresult

end Factory

end ExtensionHost
