import ExtensionHost.Guest.Standard
import ExtensionHost.Proofs.Module.Restore

/-!
# Which programs are loaded

Loading is a long row of checks, with guest code running in between: the start function, the probe
of the version and the allocator.  A program may fail several checks at once, and the error has to
be that of the first one.

So the checks are written down as data (`GuestModule.Check`), in the order in which they are made
(`GuestModule.Candidate.checks`).  Each says by itself when it is passed and what is reported if it
is not.  Every step of loading is then a `GuestModule.Candidate.verdict` on some of them, and
loading is the verdict on all of them.

**Guests on the way.**  Later checks are about guests that earlier ones leave behind.  These guests
are total: where guest code fails, they are what it leaves.  No verdict depends on such a guest,
since the failure comes first.

## Main definitions

* `GuestModule.Candidate`, a program that is to be loaded, with the guests on the way
* `GuestModule.Check`, with `GuestModule.Check.Holds` and `GuestModule.Check.complaint`
* `GuestModule.Candidate.checks`, the checks in order
* `GuestModule.Candidate.verdict`, what some checks come to

## Main results

* `GuestModule.Candidate.load_eq_verdict`
* `GuestModule.loading_stops_at_the_first_defect`
* `GuestModule.loading_limits_tables`
-/

namespace ExtensionHost

open Guest

universe u v

namespace GuestModule

/-- A program that is to be loaded for a package. -/
structure Candidate where
  /-- The name of the package. -/
  package : String
  /-- The program. -/
  program : Program
  /-- The settings. -/
  config : EngineConfig

namespace Candidate

variable (c : Candidate)

/-! ### Guests on the way -/

/-- The number of pages of memory at the start. -/
def pages : Nat := (c.program.memory.map (·.minimum)).getD 0

/-- The number of elements of the table at the start. -/
def elements : Nat := (c.program.table.map (·.minimum)).getD 0

/-- The memory at the start: zeros, with the segments of data written over them in order. -/
def memory : Memory :=
  c.program.data.foldl (fun memory segment => memory.write segment.offset segment.bytes)
    (.zeroed c.pages)

/-- The guest before any of its code runs. -/
def unstarted : GuestState :=
  ⟨c.memory, initialGlobals c.program, c.elements, .new c.config.bufferGrowthIncrement, false⟩

/-- A call of guest code on the way to a module. -/
def call (exports : Option Exports) (guest : GuestState) (function : String)
    (args : List UInt64) : Except Failure (List UInt64) × GuestState :=
  callQuietly (quietSandbox c.package c.program c.config) exports guest function args

/-- The start function, if there is one. -/
def start : Except Failure (List UInt64) × GuestState :=
  match c.program.start with
  | none => (.ok [], c.unstarted)
  | some function => c.call none c.unstarted function []

/-- The function that is exported under a name. -/
def exported (name : String) : String := ((c.program.exportedFunction? name).map (·.name)).getD ""

/-- The functions that the host calls. -/
def exports : Exports where
  malloc := c.exported Abi.mallocExport
  free := c.exported Abi.freeExport
  abiVersion := c.exported Abi.versionExport
  heapInUse := c.exported Abi.heapInUseExport
  heapSys := c.exported Abi.heapSysExport
  heapMallocs := c.exported Abi.heapMallocsExport
  heapFrees := c.exported Abi.heapFreesExport
  heapGc := c.exported Abi.heapGcExport
  onReadValue := c.exported Abi.onReadValueExport

/-- The probe of the version, on the guest that was started. -/
def probe : Except Failure (List UInt64) × GuestState :=
  c.call (some c.exports) c.start.2 c.exports.abiVersion []

/-- The first call of the allocator, on the guest that was probed. -/
def allocation : Except Failure (List UInt64) × GuestState :=
  c.call (some c.exports) c.probe.2 c.exports.malloc [c.config.preallocatedBufferSize.toUInt64]

/-- The address in the answer of an allocator. -/
def base (results : List UInt64) : Address := (results.headD 0).toUInt32

/-- The guest with its first staging buffer. -/
def ready : GuestState :=
  let guest := c.allocation.2
  let base := base (c.allocation.1.toOption.getD [])
  { guest with
    pool := guest.pool.adopt base c.config.preallocatedBufferSize 0
    growthRefused := false }

end Candidate

/-! ### Checks -/

/-- What is checked of a program before it is loaded. -/
inductive Check where
  /-- An import is a host function. -/
  | linked (decl : ImportDecl)
  /-- The memory at the start is within the limit. -/
  | memoryFits
  /-- The table at the start is within the limit. -/
  | tableFits
  /-- A segment of data is within memory. -/
  | segmentFits (segment : DataSegment)
  /-- The start function returns. -/
  | starts
  /-- The memory is exported. -/
  | memoryExported
  /-- A function is exported under a name. -/
  | functionExported (name : String)
  /-- It has the type that is expected. -/
  | functionTyped (name : String) (signature : Signature)
  /-- The probe of the version returns. -/
  | probed
  /-- The allocator hands out the first staging buffer. -/
  | allocated
  /-- An extension may have a name. -/
  | nameable (name : String)

namespace Check

open Candidate

/-- A check is passed. -/
def Holds (c : Candidate) : Check → Prop
  | linked decl =>
    decl.module = Abi.hostModule ∧
      (HostFunction.named? decl.name).map HostFunction.signature = some decl.signature
  | memoryFits => c.pages * pageSize ≤ c.config.memoryLimitBytes.toNat
  | tableFits => c.elements ≤ maxTableElements
  | segmentFits segment => segment.offset + segment.bytes.size ≤ c.pages * pageSize
  | starts => ∃ results, c.start.1 = .ok results
  | memoryExported => c.program.exportsMemory Abi.memoryExport = true
  | functionExported name => ∃ f, c.program.exportedFunction? name = some f
  | functionTyped name signature =>
    ∃ f, c.program.exportedFunction? name = some f ∧ f.signature = signature
  | probed => ∃ results, c.probe.1 = .ok results
  | allocated =>
    ∃ results, c.allocation.1 = .ok results ∧ base results ≠ 0 ∧
      (base results).toNat + c.config.preallocatedBufferSize.toNat ≤ c.allocation.2.memory.size
  | nameable name =>
    name ≠ "" ∧ name ∉ Abi.infrastructureExports ∧ name ∉ Abi.memoryPrimitives

/-- The text of the failure of guest code. -/
def fault (outcome : Except Failure (List UInt64)) : String :=
  match outcome with
  | .ok _ => ""
  | .error failure => failure.chain

/-- Why there is no first staging buffer. -/
def shortage (c : Candidate) : ExtensionError :=
  match c.allocation.1 with
  | .ok results => .unableToWriteMemory (base results) c.config.preallocatedBufferSize
  | .error failure => failure.classify c.allocation.2.growthRefused

/-- The error that says that a check is not passed. -/
def complaint (c : Candidate) : Check → ExtensionError
  | linked decl =>
    .instantiation (.reported s!"unknown import {decl.module}.{decl.name} {decl.signature.text}")
  | memoryFits => .instantiation (.reported s!"{c.pages} pages of memory exceed the limit")
  | tableFits =>
    .instantiation (.reported s!"{c.elements} elements of the table exceed the limit")
  | segmentFits _ => .instantiation (.reported "a segment of data is out of bounds")
  | starts => .instantiation (.stated s!"{c.package}: {fault c.start.1}")
  | memoryExported => .missingExport Abi.memoryExport
  | functionExported name => .missingExport name
  | functionTyped name signature =>
    let found := ((c.program.exportedFunction? name).map (·.signature)).getD ⟨[], []⟩
    .exportSignature name s!"expected {signature.text}, found {found.text}"
  | probed => .unsupportedAbiVersion s!"{c.package}: {fault c.probe.1}"
  | allocated =>
    .instantiation
      (.stated s!"{c.package}: failed to preallocate buffer: {(shortage c).message}")
  | nameable name => .incorrectExtensionName name

/-- Whether guest code returns, and what is asked of its answer, can be told by running it. -/
instance decidableReturns (outcome : Except Failure (List UInt64)) (P : List UInt64 → Prop)
    [DecidablePred P] : Decidable (∃ results, outcome = .ok results ∧ P results) :=
  match outcome with
  | .ok results =>
    decidable_of_iff (P results)
      ⟨fun h => ⟨results, rfl, h⟩, fun ⟨_, heq, h⟩ => Except.ok.inj heq ▸ h⟩
  | .error _ => .isFalse fun ⟨_, heq, _⟩ => nomatch heq

instance decidableHolds (c : Candidate) : (check : Check) → Decidable (check.Holds c)
  | linked _ => inferInstanceAs (Decidable (_ ∧ _))
  | memoryFits => inferInstanceAs (Decidable (_ ≤ _))
  | tableFits => inferInstanceAs (Decidable (_ ≤ _))
  | segmentFits _ => inferInstanceAs (Decidable (_ ≤ _))
  | starts => decidable_of_iff (∃ results, c.start.1 = .ok results ∧ True) (by simp [Holds])
  | memoryExported => inferInstanceAs (Decidable (_ = true))
  | functionExported _ => decidable_of_iff _ Option.isSome_iff_exists
  | functionTyped _ _ => decidable_of_iff _ Option.map_eq_some_iff
  | probed => decidable_of_iff (∃ results, c.probe.1 = .ok results ∧ True) (by simp [Holds])
  | allocated => decidableReturns _ _
  | nameable _ => inferInstanceAs (Decidable (_ ∧ _))

end Check

namespace Candidate

variable (c : Candidate)

/-- The functions that every guest has to export, with their types. -/
def requiredFunctions : List (String × Signature) :=
  [(Abi.mallocExport, ⟨[.i32], [.i32]⟩), (Abi.freeExport, ⟨[.i32], []⟩),
    (Abi.versionExport, ⟨[], []⟩), (Abi.heapInUseExport, ⟨[], [.i64]⟩),
    (Abi.heapSysExport, ⟨[], [.i64]⟩), (Abi.heapMallocsExport, ⟨[], [.i64]⟩),
    (Abi.heapFreesExport, ⟨[], [.i64]⟩), (Abi.heapGcExport, ⟨[], []⟩),
    (Abi.onReadValueExport, ⟨[.i64, .i64], []⟩)]

/-- What is checked of a function that has to be exported. -/
def functionChecks (name : String) (signature : Signature) : List Check :=
  [.functionExported name, .functionTyped name signature]

/-- What is checked when a program is instantiated. -/
def instantiationChecks : List Check :=
  c.program.imports.map .linked ++ .memoryFits :: .tableFits ::
    (c.program.data.map .segmentFits ++ [.starts])

/-- What is checked of the exports that the host needs. -/
def exportChecks : List Check :=
  .memoryExported :: requiredFunctions.flatMap fun (name, signature) =>
    functionChecks name signature

/-- What is checked of a declared extension. -/
def extensionChecks (name : String) : List Check := .nameable name :: functionChecks name ⟨[], []⟩

/-- What is checked of a program with a list of declared extensions, in order. -/
def checks (names : List String) : List Check :=
  c.instantiationChecks ++ (exportChecks ++ (.probed :: .allocated ::
    names.flatMap extensionChecks))

/-! ### Verdicts -/

section Verdict

variable {α β : Type u} {γ : Type v}

/-- What a computation comes to that makes some checks in order. -/
def verdict (checks : List Check) (a : α) : Except ExtensionError α :=
  match checks.find? fun check => ¬ check.Holds c with
  | none => .ok a
  | some check => .error (check.complaint c)

variable {c} {checks more : List Check} {a : α} {b : β}

/-- A computation succeeds if all its checks are passed. -/
theorem verdict_eq_ok_iff {a' : α} :
    c.verdict checks a = .ok a' ↔ (∀ check ∈ checks, check.Holds c) ∧ a = a' := by
  rw [verdict]
  split
  · rename_i hnone
    have hall : ∀ check ∈ checks, check.Holds c := by simpa using hnone
    exact ⟨fun h => ⟨hall, Except.ok.inj h⟩, fun h => congrArg _ h.2⟩
  · rename_i check hsome
    have hfails : ¬ check.Holds c := by simpa using List.find?_some hsome
    refine ⟨fun h => (nomatch h), fun h => absurd (h.1 check ?_) hfails⟩
    exact List.mem_of_find?_eq_some hsome

/-- A computation fails as the first check says that is not passed. -/
theorem verdict_eq_error_iff {e : ExtensionError} :
    c.verdict checks a = .error e ↔ ∃ before check after, checks = before ++ check :: after ∧
      (∀ earlier ∈ before, earlier.Holds c) ∧ ¬ check.Holds c ∧ e = check.complaint c := by
  rw [verdict]
  constructor
  · intro h
    split at h
    · cases h
    · rename_i check hsome
      obtain ⟨hfails, before, after, hchecks, hbefore⟩ := List.find?_eq_some_iff_append.mp hsome
      cases h
      exact ⟨before, check, after, hchecks, by simpa using hbefore, by simpa using hfails, rfl⟩
  · rintro ⟨before, check, after, hchecks, hbefore, hfails, rfl⟩
    have hsome : checks.find? (fun check => ¬ check.Holds c) = some check :=
      List.find?_eq_some_iff_append.mpr
        ⟨by simpa using hfails, before, after, hchecks, by simpa using hbefore⟩
    rw [hsome]

/-- Checks that are made one after the other are a longer list of checks. -/
theorem bind_verdict (checks : List Check) {f : α → Except ExtensionError β}
    (h : f a = c.verdict more b) :
    (c.verdict checks a >>= f) = c.verdict (checks ++ more) b := by
  rw [verdict, verdict, List.find?_append]
  cases checks.find? fun check => ¬ check.Holds c with
  | none => exact h
  | some check => rfl

/-- A last step that checks nothing. -/
theorem bind_verdict_ok (f : α → β) :
    (c.verdict checks a >>= fun a => .ok (f a)) = c.verdict checks (f a) := by
  have hlast : (.ok (f a) : Except ExtensionError β) = c.verdict [] (f a) := rfl
  have hbind := bind_verdict (f := fun a => .ok (f a)) checks hlast
  rwa [List.append_nil] at hbind

theorem map_verdict (f : α → γ) :
    (c.verdict checks a).map f = c.verdict checks (f a) := by
  rw [verdict, verdict]
  cases checks.find? fun check => ¬ check.Holds c <;> rfl

theorem verdict_cons (check : Check) (checks : List Check) (a : α) :
    c.verdict (check :: checks) a
      = if check.Holds c then c.verdict checks a else .error (check.complaint c) := by
  by_cases hholds : check.Holds c <;> simp [verdict, hholds]

/-- One check. -/
theorem verdict_singleton (check : Check) (a : α) :
    c.verdict [check] a = if check.Holds c then .ok a else .error (check.complaint c) :=
  verdict_cons check [] a

/-- A loop makes the checks of all its steps, one step after the other. -/
theorem foldlM_eq_verdict {f : α → γ → Except ExtensionError α} {step : α → γ → α}
    {checksOf : γ → List Check} {P : α → Prop}
    (hstep : ∀ a b, P a → f a b = c.verdict (checksOf b) (step a b))
    (hkeeps : ∀ a b, P a → P (step a b)) (l : List γ) {a : α} (ha : P a) :
    l.foldlM f a = c.verdict (l.flatMap checksOf) (l.foldl step a) := by
  induction l generalizing a with
  | nil => rfl
  | cons b l ih =>
    rw [List.foldlM_cons, hstep a b ha, List.flatMap_cons, List.foldl_cons]
    exact bind_verdict _ (ih (hkeeps a b ha))

end Verdict

/-! ### Steps of loading -/

theorem link_eq_verdict : link c.program = c.verdict (c.program.imports.map .linked) () := by
  have hstep (decl : ImportDecl) :
      (if decl.module = Abi.hostModule
          ∧ (HostFunction.named? decl.name).map HostFunction.signature = some decl.signature then
        .ok ()
      else
        .error (.instantiation
          (.reported s!"unknown import {decl.module}.{decl.name} {decl.signature.text}")))
      = c.verdict [.linked decl] () := by
    rw [verdict_singleton]
    rfl
  simp only [link, hstep]
  induction c.program.imports with
  | nil => rfl
  | cons decl imports ih => exact bind_verdict _ ih

theorem initialMemory_eq_verdict :
    initialMemory c.program c.config = c.verdict [.memoryFits] (.zeroed c.pages) := by
  rw [verdict_singleton]
  rfl

theorem initialTable_eq_verdict : initialTable c.program = c.verdict [.tableFits] c.elements := by
  rw [verdict_singleton]
  rfl

/-- Every segment is checked against the size of memory at the start, which no segment changes. -/
theorem writeSegments_eq_verdict :
    c.program.data.foldlM writeSegment (.zeroed c.pages)
      = c.verdict (c.program.data.map .segmentFits) c.memory := by
  rw [List.map_eq_flatMap]
  refine foldlM_eq_verdict (P := fun memory => memory.pageCount = c.pages) ?_ ?_ _
    (Memory.pageCount_zeroed _)
  · intro memory segment hpages
    rw [verdict_singleton, writeSegment, Memory.size, hpages]
    rfl
  · intro memory segment hpages
    rw [Memory.pageCount_write, hpages]

theorem setUp_eq_verdict :
    setUp c.program c.config
      = c.verdict (c.program.imports.map .linked ++
          .memoryFits :: .tableFits :: c.program.data.map .segmentFits) c.unstarted := by
  rw [setUp, link_eq_verdict, initialMemory_eq_verdict, initialTable_eq_verdict]
  refine bind_verdict _ (bind_verdict [.memoryFits] (bind_verdict [.tableFits] ?_))
  rw [writeSegments_eq_verdict]
  exact bind_verdict_ok _

/-- The guest that a call leaves, if it returns. -/
def returned (outcome : Except Failure (List UInt64) × GuestState)
    (report : String → ExtensionError) : Except ExtensionError GuestState :=
  match outcome with
  | (.ok _, guest) => .ok guest
  | (.error failure, _) => .error (report failure.chain)

theorem returned_eq_verdict (check : Check) (report : String → ExtensionError)
    {outcome : Except Failure (List UInt64) × GuestState}
    (hholds : check.Holds c ↔ ∃ results, outcome.1 = .ok results)
    (hcomplaint : check.complaint c = report (Check.fault outcome.1)) :
    returned outcome report = c.verdict [check] outcome.2 := by
  rw [verdict_singleton, hcomplaint]
  obtain ⟨result, guest⟩ := outcome
  match result with
  | .ok results => exact (if_pos (hholds.mpr ⟨results, rfl⟩)).symm
  | .error failure =>
    refine (if_neg fun h => ?_).symm
    obtain ⟨results, hresults⟩ := hholds.mp h
    cases hresults

theorem runStart_eq_verdict :
    runStart c.package c.program c.config c.unstarted = c.verdict [.starts] c.start.2 := by
  have hreturned : returned c.start _ = _ := c.returned_eq_verdict .starts
    (fun text => .instantiation (.stated s!"{c.package}: {text}")) Iff.rfl rfl
  rw [← hreturned, runStart, start]
  cases c.program.start with
  | none => rfl
  | some function => rfl

/-- **Instantiation.** -/
theorem instantiate_eq_verdict :
    instantiate c.package c.program c.config = c.verdict c.instantiationChecks c.start.2 := by
  rw [instantiate_eq, setUp_eq_verdict, instantiationChecks, bind_verdict _ c.runStart_eq_verdict]
  simp only [List.append_assoc, List.cons_append]

theorem typedExport_eq_verdict (name : String) (signature : Signature) :
    typedExport c.program name signature
      = c.verdict (functionChecks name signature) (c.exported name) := by
  rw [typedExport, functionChecks, verdict_cons, verdict_singleton]
  obtain hf | ⟨f, hf⟩ := Option.eq_none_or_eq_some (c.program.exportedFunction? name)
  · simp [Check.Holds, Check.complaint, hf]
  · simp [Check.Holds, Check.complaint, exported, hf]

/-- **Exports.** -/
theorem resolveExports_eq_verdict :
    resolveExports c.program = c.verdict exportChecks c.exports := by
  rw [resolveExports, exportChecks, verdict_cons]
  by_cases hmemory : c.program.exportsMemory Abi.memoryExport = true
  · rw [if_pos (show Check.memoryExported.Holds c from hmemory)]
    simp only [hmemory, Bool.not_true, Bool.false_eq_true, if_false, typedExport_eq_verdict]
    iterate 8 refine bind_verdict _ ?_
    exact bind_verdict_ok _
  · rw [if_neg (show ¬ Check.memoryExported.Holds c from hmemory)]
    simp only [hmemory, Bool.not_false, if_true]
    rfl

theorem probeVersion_eq_verdict :
    probeVersion c.package c.program c.config c.exports c.start.2
      = c.verdict [.probed] c.probe.2 :=
  c.returned_eq_verdict .probed (fun text => .unsupportedAbiVersion s!"{c.package}: {text}")
    Iff.rfl rfl

theorem preallocate_eq_verdict :
    preallocate c.package c.program c.config c.exports c.probe.2
      = c.verdict [.allocated] c.ready := by
  have hcall : callQuietly (quietSandbox c.package c.program c.config) (some c.exports) c.probe.2
      c.exports.malloc [c.config.preallocatedBufferSize.toUInt64] = c.allocation := rfl
  rw [verdict_singleton, preallocate, hcall]
  rcases hallocation : c.allocation with ⟨failure | results, guest⟩
  · have hfails : ¬ Check.allocated.Holds c := by
      rintro ⟨results, hresults, -⟩
      rw [hallocation] at hresults
      cases hresults
    rw [if_neg hfails]
    simp only [Check.complaint, Check.shortage, hallocation]
  · have hholds : Check.allocated.Holds c ↔ base results ≠ 0 ∧
        (base results).toNat + c.config.preallocatedBufferSize.toNat ≤ guest.memory.size := by
      simp [Check.Holds, hallocation]
    have hready : c.ready = { guest with
        pool := guest.pool.adopt (base results) c.config.preallocatedBufferSize 0
        growthRefused := false } := by
      simp only [ready, hallocation, Except.toOption, Option.getD_some]
    by_cases husable : Check.allocated.Holds c
    · have hbase := checkedAllocation?_eq_some_iff.mpr ⟨rfl, hholds.mp husable⟩
      rw [if_pos husable, hready]
      simp only [show (results.headD 0).toUInt32 = base results from rfl, hbase]
    · have hnone : checkedAllocation? (base results) c.config.preallocatedBufferSize
          guest.memory.size = none := by
        refine Option.eq_none_iff_forall_ne_some.mpr fun address haddress => husable ?_
        exact hholds.mpr (checkedAllocation?_eq_some_iff.mp haddress).2
      rw [if_neg husable]
      simp only [show (results.headD 0).toUInt32 = base results from rfl, hnone, Check.complaint,
        Check.shortage, hallocation]

theorem extensionFunction_eq_verdict (name : String) :
    extensionFunction c.program name = c.verdict (extensionChecks name) (c.exported name) := by
  have hnameable : Check.Holds c (.nameable name) ↔
      ¬ (name.isEmpty || Abi.isReserved name) = true := by
    simp [Check.Holds, Abi.isReserved]
  rw [extensionFunction, extensionChecks, verdict_cons, ← typedExport_eq_verdict]
  by_cases hname : (name.isEmpty || Abi.isReserved name) = true
  · rw [if_pos hname, if_neg fun h => hnameable.mp h hname]
    rfl
  · rw [if_neg hname, if_pos (hnameable.mpr hname)]

/-- The functions of declared extensions, by their names. -/
def extensions (names : List String) : Assoc String String :=
  names.foldl (fun extensions name => extensions.insert name (c.exported name)) ∅

theorem resolveExtensions_eq_verdict (names : List String) :
    resolveExtensions c.program names
      = c.verdict (names.flatMap extensionChecks) (c.extensions names) := by
  rw [resolveExtensions_eq_collect, Assoc.collect]
  refine foldlM_eq_verdict (P := fun _ => True) (fun extensions name _ => ?_) (fun _ _ _ => trivial)
    names trivial
  rw [extensionFunction_eq_verdict]
  exact bind_verdict_ok _

/-- The module, if the program passes every check. -/
def toModule (names : List String) : GuestModule where
  package := c.package
  program := c.program
  config := c.config
  guest := c.ready
  exports := c.exports
  extensions := c.extensions names
  snapshot := .capture c.program c.ready
  bound := none

/-- **Loading is a verdict on all checks.** -/
theorem load_eq_verdict (names : List String) :
    load c.package names c.program c.config = c.verdict (c.checks names) (c.toModule names) := by
  have hprepare : prepare c.package c.program c.config
      = c.verdict (c.instantiationChecks ++ (exportChecks ++ [.probed, .allocated]))
          (c.ready, c.exports) := by
    rw [prepare, instantiate_eq_verdict, resolveExports_eq_verdict]
    refine bind_verdict _ (bind_verdict _ ?_)
    rw [probeVersion_eq_verdict]
    refine bind_verdict [.probed] ?_
    rw [preallocate_eq_verdict]
    exact bind_verdict_ok _
  have hextensions : (resolveExtensions c.program names >>= fun extensions =>
        .ok (c.ready, c.exports, extensions))
      = c.verdict (names.flatMap extensionChecks) (c.ready, c.exports, c.extensions names) := by
    rw [resolveExtensions_eq_verdict]
    exact bind_verdict_ok _
  have hchecks : c.checks names = (c.instantiationChecks ++ (exportChecks ++ [.probed, .allocated]))
      ++ names.flatMap extensionChecks := by
    simp only [checks, List.append_assoc, List.cons_append, List.nil_append]
  rw [load, hprepare, hchecks]
  refine (congrArg (Except.map _) ?_).trans
    (map_verdict (a := (c.ready, c.exports, c.extensions names)) _)
  exact bind_verdict _ hextensions

end Candidate

/-- **Loading stops at the first defect.**  Take any program, any settings and any list of declared
extensions, which may be empty names, reserved ones or names that come twice.  The program is loaded
if and only if it passes every check: it can be instantiated, it exports the memory and all the
functions that the host needs, with their types, the probe of the version returns, the allocator
hands out a first staging buffer that lies within memory as it is after the call, and every declared
extension has a name that it may have and is exported with the type of an extension.  Otherwise the
error is that of the first check in this order that the program does not pass, whatever else is
wrong with it. -/
theorem loading_stops_at_the_first_defect (c : Candidate) (names : List String) :
    ((∃ m, load c.package names c.program c.config = .ok m) ↔
      ∀ check ∈ c.checks names, check.Holds c) ∧
    ∀ e, load c.package names c.program c.config = .error e ↔
      ∃ before check after, c.checks names = before ++ check :: after ∧
        (∀ earlier ∈ before, earlier.Holds c) ∧ ¬ check.Holds c ∧ e = check.complaint c := by
  rw [c.load_eq_verdict names]
  refine ⟨?_, fun e => Candidate.verdict_eq_error_iff⟩
  constructor
  · rintro ⟨m, hm⟩
    exact (Candidate.verdict_eq_ok_iff.mp hm).1
  · intro hall
    exact ⟨_, Candidate.verdict_eq_ok_iff.mpr ⟨hall, rfl⟩⟩

end GuestModule

namespace Sample

/-- A guest without a collector, whose probe traps. -/
def uncollected : GuestModule.Candidate where
  package := "sample"
  program :=
    (standard.removeFunction "heap_gc").putFunction
      (Standard.exported "abi_version_0_1" [] [] [.unreachable])
  config := .default

/-- A guest whose table starts with one element more than a table may have. -/
def broad : GuestModule.Candidate where
  package := "sample"
  program := { standard with table := some ⟨maxTableElements + 1, none⟩ }
  config := .default

end Sample

namespace GuestModule

/-- Of several defects the first one is named. -/
example : load "sample" ["malloc", ""] Sample.uncollected.program .default
    = .error (.missingExport "heap_gc") := rfl

/-- **Tables are limited.**  A guest that passes every check but that of its table is not loaded. -/
theorem loading_limits_tables :
    (∃ before after, Sample.broad.checks [] = before ++ .tableFits :: after ∧
      ∀ check ∈ before ++ after, check.Holds Sample.broad) ∧
    load "sample" [] Sample.broad.program .default
      = .error (.instantiation (.reported "10001 elements of the table exceed the limit")) := by
  refine ⟨⟨[.memoryFits], (Sample.broad.checks []).drop 2, rfl, ?_⟩, rfl⟩
  decide +kernel

end GuestModule

end ExtensionHost
