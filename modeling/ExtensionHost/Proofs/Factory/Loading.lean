import ExtensionHost.Factory
import ExtensionHost.Proofs.Module.Restore
import Mathlib.Data.List.Infix

/-!
# Loading a list of packages

A pool takes its packages through three phases, each over the whole list: the names are compared,
every module is read and compiled, and every program is loaded.  This file says of each phase what
it fails with, and of the last one what it leaves behind.

**Why the first failure is a search.**  Every phase is a loop that stops at its first error, but the
loops differ in what they carry along: names seen so far, programs compiled so far, modules loaded
so far.  What a step fails with does not depend on any of that, once the names are known to differ.
So the error of a loop is the first one in a list that can be written down beforehand
(`List.findSome?`).

## Main definitions

* `failure?`, the error of a computation
* `Factory.loadModule`, a compiled package as a module
* `Factory.Holds`, modules that stand for compiled packages

## Main results

* `Factory.failure?_checkDistinct`, `failure?_mapM` and `Factory.failure?_foldlM_load`, the errors
  of the three loops
* `Factory.holds_of_foldlM`, what a loop of loads leaves behind
* `Factory.newEngines_eq_ok`, what a pool consists of
* `GuestModule.contains_extensions_of_load`
-/

namespace ExtensionHost

open Guest

universe u v

/-! ### The first answer -/

section First

variable {α : Type u} {β : Type v} {γ : Type}

theorem findSome?_cons_eq_or (f : α → Option β) (a : α) (l : List α) :
    (a :: l).findSome? f = (f a).or (l.findSome? f) := by
  rw [List.findSome?_cons]
  cases f a <;> rfl

theorem findSome?_congr {f g : α → Option β} {l : List α} (h : ∀ a ∈ l, f a = g a) :
    l.findSome? f = l.findSome? g := by
  induction l with
  | nil => rfl
  | cons a l ih =>
    rw [findSome?_cons_eq_or, findSome?_cons_eq_or, h a List.mem_cons_self,
      ih fun b hb => h b (List.mem_cons_of_mem _ hb)]

theorem findSome?_flatMap (f : β → Option γ) (g : α → List β) (l : List α) :
    (l.flatMap g).findSome? f = l.findSome? fun a => (g a).findSome? f := by
  induction l with
  | nil => rfl
  | cons a l ih =>
    rw [List.flatMap_cons, List.findSome?_append, findSome?_cons_eq_or, ih]

end First

/-! ### The error of a computation -/

section Failure

variable {ε : Type} {α β : Type u} {γ : Type v}

/-- The error of a computation, if it fails. -/
def failure? : Except ε α → Option ε
  | .ok _ => none
  | .error e => some e

@[simp] theorem failure?_map (f : α → γ) (x : Except ε α) :
    failure? (x.map f) = failure? x := by
  cases x <;> rfl

/-- A second step matters if the first one succeeds. -/
theorem failure?_bind (x : Except ε α) (f : α → Except ε β) :
    failure? (x >>= f) = (failure? x).or (x.toOption.bind fun a => failure? (f a)) := by
  cases x <;> rfl

/-- A step that changes nothing but the form of its result adds no failure. -/
theorem failure?_bind_ok (x : Except ε α) (f : α → β) :
    failure? (x >>= fun a => .ok (f a)) = failure? x := by
  cases x <;> rfl

/-- A loop over a list fails as the first member does for which it fails. -/
theorem failure?_mapM (f : γ → Except ε α) (l : List γ) :
    failure? (l.mapM f) = l.findSome? fun a => failure? (f a) := by
  induction l with
  | nil => rfl
  | cons a l ih =>
    rw [List.mapM_cons, findSome?_cons_eq_or, ← ih]
    cases f a with
    | error e => rfl
    | ok b => exact failure?_bind_ok _ _

end Failure

/-! ### Declared extensions -/

/-- A module that was loaded knows the extensions that were declared, and no other. -/
theorem GuestModule.contains_extensions_of_load {package : String} {names : List String}
    {program : Program} {config : EngineConfig} {m : GuestModule}
    (h : load package names program config = .ok m) (name : String) :
    m.hasExtension name = true ↔ name ∈ names := by
  obtain ⟨guest, exports, extensions, -, hextensions, rfl⟩ := load_eq_ok_iff.mp h
  rw [resolveExtensions_eq_collect] at hextensions
  rw [hasExtension, Assoc.contains_of_collect hextensions]
  simp [Assoc.contains, Assoc.find?, EmptyCollection.emptyCollection, Assoc.empty]

/-- It lists them once each. -/
theorem GuestModule.nodup_extensionNames_of_load {package : String} {names : List String}
    {program : Program} {config : EngineConfig} {m : GuestModule}
    (h : load package names program config = .ok m) : m.extensionNames.Nodup := by
  obtain ⟨guest, exports, extensions, -, hextensions, rfl⟩ := load_eq_ok_iff.mp h
  rw [resolveExtensions_eq_collect] at hextensions
  have hsorted := (Assoc.sorted_of_collect hextensions Assoc.sorted_empty
    fun entry hentry => absurd hentry List.not_mem_nil).1
  exact List.pairwise_map.mpr (hsorted.imp fun hlt => Std.ne_of_lt hlt)

namespace Factory

/-! ### Names -/

/-- The packages of a list, each with those before it. -/
def withEarlier (packages : List Package) : List (List Package × Package) :=
  packages.inits.zip packages

/-- The failure of a package whose name was seen before. -/
def repetition? (seen : List String) (package : Package) : Option ExtensionError :=
  if package.qualifiedName ∈ seen then some (.packageAlreadyLoaded package.qualifiedName) else none

theorem withEarlier_cons (package : Package) (packages : List Package) :
    withEarlier (package :: packages)
      = ([], package) ::
          (withEarlier packages).map fun (earlier, p) => (package :: earlier, p) := by
  rw [withEarlier, List.inits_cons, List.zip_cons_cons, List.zip_map_left]
  rfl

/-- Names are compared up to the first one that comes again. -/
theorem failure?_checkDistinct (seen : List String) (packages : List Package) :
    failure? (checkDistinct seen packages)
      = (withEarlier packages).findSome? fun (earlier, p) =>
          repetition? (earlier.map (·.qualifiedName) ++ seen) p := by
  induction packages generalizing seen with
  | nil => rfl
  | cons package rest ih =>
    rw [withEarlier_cons, findSome?_cons_eq_or, List.findSome?_map, checkDistinct]
    simp only [List.contains_iff_mem, List.map_nil, List.nil_append, repetition?]
    split
    · rfl
    · -- names seen before come in another order here, which no comparison notices
      rw [ih]
      congr 1
      funext ⟨earlier, p⟩
      simp only [repetition?, Function.comp, List.map_cons, List.mem_append, List.mem_cons]
      congr 1
      exact propext (or_left_comm.trans or_assoc.symm)

theorem checkDistinct_eq_ok_iff {seen : List String} {packages : List Package} :
    checkDistinct seen packages = .ok () ↔ (packages.map (·.qualifiedName)).Nodup ∧
      ∀ name ∈ seen, name ∉ packages.map (·.qualifiedName) := by
  induction packages generalizing seen with
  | nil => simp [checkDistinct]
  | cons package rest ih =>
    rw [checkDistinct, List.map_cons, List.nodup_cons]
    split
    · rename_i hseen
      exact ⟨nofun, fun h => absurd List.mem_cons_self (h.2 _ (List.contains_iff_mem.mp hseen))⟩
    · rename_i hnew
      rw [ih, List.forall_mem_cons]
      refine ⟨fun ⟨hnodup, hfirst, hrest⟩ => ⟨⟨hfirst, hnodup⟩, fun name hname hmem => ?_⟩,
        fun ⟨⟨hfirst, hnodup⟩, hseen⟩ =>
          ⟨hnodup, hfirst, fun name hname => List.not_mem_of_not_mem_cons (hseen name hname)⟩⟩
      rcases List.mem_cons.mp hmem with rfl | hmem
      · exact hnew (List.contains_iff_mem.mpr hname)
      · exact hrest name hname hmem

/-! ### Programs -/

/-- The program of a package: what lies at its location, compiled. -/
def program (tree : FileTree ModuleImage) (package : Package) : Except ExtensionError Program :=
  package.read tree >>= fun image => image.compile package.qualifiedName

theorem compile_eq (tree : FileTree ModuleImage) (package : Package) :
    compile tree package = (program tree package).map (package, ·) := by
  rw [compile, program]
  cases package.read tree with
  | error e => rfl
  | ok image =>
    show (image.compile package.qualifiedName >>= _) = (image.compile package.qualifiedName).map _
    cases image.compile package.qualifiedName <;> rfl

/-- Compiled packages are the packages asked for, each with its program. -/
theorem compiled_of_mapM {tree : FileTree ModuleImage} {packages : List Package}
    {compiled : List (Package × Program)} (h : packages.mapM (compile tree) = .ok compiled) :
    compiled.map Prod.fst = packages ∧ ∀ c ∈ compiled, program tree c.1 = .ok c.2 := by
  induction packages generalizing compiled with
  | nil =>
    cases h
    exact ⟨rfl, nofun⟩
  | cons p packages ih =>
    simp only [List.mapM_cons, bind_eq_ok_iff, compile_eq] at h
    obtain ⟨c, hc, rest, hrest, h⟩ := h
    cases h
    obtain ⟨hpackages, hprograms⟩ := ih hrest
    cases hp : program tree p with
    | error e =>
      rw [hp] at hc
      cases hc
    | ok q =>
      rw [hp] at hc
      cases hc
      rw [List.map_cons, hpackages]
      exact ⟨rfl, List.forall_mem_cons.mpr ⟨hp, hprograms⟩⟩

/-- If every package has a program, all of them are compiled. -/
theorem exists_compiled {tree : FileTree ModuleImage} {packages : List Package}
    (h : ∀ p ∈ packages, ∃ q, program tree p = .ok q) :
    ∃ compiled, packages.mapM (compile tree) = .ok compiled := by
  have hnone : failure? (packages.mapM (compile tree)) = none := by
    rw [failure?_mapM, List.findSome?_eq_none_iff]
    intro p hp
    obtain ⟨q, hq⟩ := h p hp
    rw [compile_eq, failure?_map, hq]
    rfl
  cases hmapM : packages.mapM (compile tree) with
  | error e =>
    rw [hmapM] at hnone
    cases hnone
  | ok compiled => exact ⟨compiled, rfl⟩

/-! ### Modules -/

/-- A compiled package as a module. -/
def loadModule (config : EngineConfig) (c : Package × Program) :
    Except ExtensionError GuestModule :=
  GuestModule.load c.1.qualifiedName c.1.extensionNames c.2 config

variable {config : EngineConfig}

theorem load_of_new {modules : Assoc String GuestModule} {c : Package × Program}
    (h : modules.contains c.1.qualifiedName = false) :
    load config modules c
      = (loadModule config c).map fun m => modules.insert c.1.qualifiedName m := by
  obtain ⟨package, program⟩ := c
  simp only [load, h, Bool.false_eq_true, if_false, loadModule]
  show (GuestModule.load _ _ _ _ >>= _) = _
  cases GuestModule.load package.qualifiedName package.extensionNames program config <;> rfl

/-- A package is loaded under a name that was not taken, and what is loaded is its module. -/
theorem load_eq_ok {modules modules' : Assoc String GuestModule} {c : Package × Program}
    (h : load config modules c = .ok modules') :
    modules.contains c.1.qualifiedName = false ∧
      ∃ m, loadModule config c = .ok m ∧ modules' = modules.insert c.1.qualifiedName m := by
  by_cases hnew : modules.contains c.1.qualifiedName = true
  · obtain ⟨package, program⟩ := c
    simp only [load, hnew, if_true] at h
    cases h
  · have hnew : modules.contains c.1.qualifiedName = false := Bool.not_eq_true _ ▸ hnew
    rw [load_of_new hnew] at h
    cases hm : loadModule config c with
    | error e =>
      rw [hm] at h
      cases h
    | ok m =>
      rw [hm] at h
      cases h
      exact ⟨hnew, m, rfl, rfl⟩

/-- If the names of compiled packages differ, loading them stops at the first one that cannot be
loaded, whatever was loaded before it. -/
theorem failure?_foldlM_load {compiled : List (Package × Program)}
    {modules : Assoc String GuestModule}
    (hnodup : (compiled.map (·.1.qualifiedName)).Nodup)
    (hnew : ∀ c ∈ compiled, modules.contains c.1.qualifiedName = false) :
    failure? (compiled.foldlM (load config) modules)
      = compiled.findSome? fun c => failure? (loadModule config c) := by
  induction compiled generalizing modules with
  | nil => rfl
  | cons c compiled ih =>
    rw [List.map_cons, List.nodup_cons] at hnodup
    rw [List.foldlM_cons, findSome?_cons_eq_or, load_of_new (hnew c List.mem_cons_self)]
    cases loadModule config c with
    | error e => rfl
    | ok m =>
      refine ih hnodup.2 fun other hother => ?_
      have hne : other.1.qualifiedName ≠ c.1.qualifiedName := fun heq =>
        hnodup.1 (heq ▸ List.mem_map_of_mem hother)
      rw [Assoc.contains_insert, decide_eq_false hne, Bool.false_or]
      exact hnew other (List.mem_cons_of_mem _ hother)

/-- Modules that stand for compiled packages: each package has the module that loading it yields,
and there is nothing else. -/
structure Holds (config : EngineConfig) (compiled : List (Package × Program))
    (modules : Assoc String GuestModule) : Prop where
  /-- There is one module for every package. -/
  keys : modules.keys.Perm (compiled.map (·.1.qualifiedName))
  /-- The module of a package is what loading the package yields. -/
  module? : ∀ c ∈ compiled, ∃ m, loadModule config c = .ok m ∧
    modules.find? c.1.qualifiedName = some m

theorem holds_nil : Holds config [] ∅ := ⟨.refl _, nofun⟩

/-- One load more is one module more. -/
theorem Holds.load {compiled : List (Package × Program)}
    {modules modules' : Assoc String GuestModule} {c : Package × Program}
    (h : Holds config compiled modules) (hload : load config modules c = .ok modules') :
    Holds config (compiled ++ [c]) modules' := by
  obtain ⟨hnew, m, hm, rfl⟩ := load_eq_ok hload
  refine ⟨?_, fun other hother => ?_⟩
  · rw [List.map_append]
    exact (Assoc.keys_insert_perm hnew m).trans
      ((h.keys.cons _).trans (List.perm_append_singleton ..).symm)
  · rcases List.mem_append.mp hother with hother | hother
    · obtain ⟨m', hm', hfind⟩ := h.module? other hother
      refine ⟨m', hm', ?_⟩
      have hne : other.1.qualifiedName ≠ c.1.qualifiedName := by
        intro heq
        rw [Assoc.contains, ← heq, hfind] at hnew
        cases hnew
      rw [Assoc.find?_insert, if_neg hne, hfind]
    · obtain rfl := List.mem_singleton.mp hother
      exact ⟨m, hm, Assoc.find?_insert_self ..⟩

/-- A loop of loads that comes to its end leaves a module for every package. -/
theorem holds_of_foldlM {done compiled : List (Package × Program)}
    {modules modules' : Assoc String GuestModule} (h : Holds config done modules)
    (hfold : compiled.foldlM (Factory.load config) modules = .ok modules') :
    Holds config (done ++ compiled) modules' := by
  induction compiled generalizing done modules with
  | nil =>
    cases hfold
    rwa [List.append_nil]
  | cons c compiled ih =>
    rw [List.foldlM_cons, bind_eq_ok_iff] at hfold
    obtain ⟨next, hload, hrest⟩ := hfold
    rw [List.append_cons]
    exact ih (h.load hload) hrest

/-! ### Slots -/

variable {f f' : Factory} {tree : FileTree ModuleImage} {packages : List Package}
  {poolSize : UInt64} {compiled : List (Package × Program)} {modules : Assoc String GuestModule}
  {engines : List Engine}

theorem compileAll_eq_ok_iff :
    compileAll tree packages poolSize = .ok compiled ↔
      poolSize ≠ 0 ∧ checkDistinct [] packages = .ok () ∧
        packages.mapM (compile tree) = .ok compiled := by
  rw [compileAll]
  split
  · rename_i hsize
    exact ⟨nofun, fun h => absurd hsize h.1⟩
  · rename_i hsize
    show (checkDistinct [] packages >>= fun _ => packages.mapM (compile tree)) = _ ↔ _
    rw [bind_eq_ok_iff]
    exact ⟨fun ⟨(), hdistinct, hmapM⟩ => ⟨hsize, hdistinct, hmapM⟩,
      fun ⟨_, hdistinct, hmapM⟩ => ⟨(), hdistinct, hmapM⟩⟩

/-- Every slot is filled in the same way, so that the engines differ in their identities only. -/
theorem mapM_fillSlot_of_ok (h : compiled.foldlM (load f.config) ∅ = .ok modules)
    (slots : List Nat) :
    slots.mapM (f.fillSlot compiled)
      = .ok (slots.map fun slot => .new (f.nextId + slot) f.app f.config modules) := by
  have hfill : f.fillSlot compiled
      = fun slot => pure (.new (f.nextId + slot) f.app f.config modules) := by
    funext slot
    rw [fillSlot, h]
    rfl
  rw [hfill]
  exact List.mapM_pure

/-- Where loading fails, the first slot cannot be filled. -/
theorem mapM_fillSlot_of_error {e : ExtensionError}
    (h : compiled.foldlM (load f.config) ∅ = .error e) {slots : List Nat} (hslots : slots ≠ []) :
    slots.mapM (f.fillSlot compiled) = .error e := by
  obtain ⟨slot, rest, rfl⟩ := List.exists_cons_of_ne_nil hslots
  have hfill : f.fillSlot compiled slot = .error e := by
    rw [fillSlot, h]
    rfl
  rw [List.mapM_cons, hfill]
  rfl

/-- What a pool that is returned consists of: the packages were compiled, there is room for the
engines, and they all hold the modules that one round of loading yields. -/
theorem newEngines_eq_ok (h : f.newEngines tree packages poolSize = (.returned (.ok engines), f')) :
    checkDistinct [] packages = .ok () ∧ ∃ compiled modules,
      packages.mapM (compile tree) = .ok compiled ∧
      compiled.foldlM (load f.config) ∅ = .ok modules ∧
      engines = (List.range poolSize.toNat).map
        (fun slot => .new (f.nextId + slot) f.app f.config modules) ∧
      f' = f.counted compiled poolSize := by
  rw [newEngines] at h
  split at h
  · cases h
  · rename_i compiled hcompiled
    obtain ⟨hsize, hdistinct, hmapM⟩ := compileAll_eq_ok_iff.mp hcompiled
    have hslots : List.range poolSize.toNat ≠ [] := fun hnil =>
      hsize (UInt64.toNat_inj.mp (List.range_eq_nil.mp hnil))
    split at h
    · cases h
    · cases hfold : compiled.foldlM (load f.config) ∅ with
      | error e =>
        rw [mapM_fillSlot_of_error hfold hslots] at h
        cases h
      | ok modules =>
        rw [mapM_fillSlot_of_ok hfold] at h
        cases h
        exact ⟨hdistinct, compiled, modules, hmapM, hfold, rfl, rfl⟩

end Factory

end ExtensionHost
