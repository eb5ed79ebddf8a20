import ExtensionHost.Proofs.Engine.Classification
import ExtensionHost.Proofs.Module.Rejection

/-!
# Which errors there are

Every error belongs where it arises.  Building engines fails with load errors.  An invocation fails
with an error of its caller, if what it names is not there, and with an error raised while the guest
ran in every other case.

Host functions have an error for calls that come at the wrong time, when the exports of the guest or
the adapter are not there.  No invocation shows it: both are there when a run starts, and stay to
its end, at every depth of calls (`Guest.Ended`).

## Main results

* `Factory.isLoadError_of_newEngines`
* `Engine.isRecoverable_of_hasExtension`
* `Engine.errors_belong_to_their_class`
-/

namespace ExtensionHost

open Guest

/-! ### Building engines -/

theorem Package.isLoadStep_read {α : Type} (p : Package) (tree : FileTree α) :
    IsLoadStep (p.read tree) := by
  rw [Package.read]
  split
  · exact isLoadStep_error rfl
  · split
    · exact isLoadStep_error rfl
    · cases tree.read _ with
      | ok content => exact isLoadStep_ok content
      | error e => exact isLoadStep_error rfl

theorem ModuleImage.isLoadStep_compile (name : String) (image : ModuleImage) :
    IsLoadStep (image.compile name) := by
  cases image with
  | bytes content => exact isLoadStep_ite _ rfl
  | program p =>
    rw [ModuleImage.compile]
    split
    · exact isLoadStep_ok p
    · exact isLoadStep_error rfl

namespace Factory

theorem isLoadStep_checkDistinct (packages : List Package) (seen : List String) :
    IsLoadStep (checkDistinct seen packages) := by
  induction packages generalizing seen with
  | nil => exact isLoadStep_ok _
  | cons package rest ih =>
    rw [checkDistinct]
    split
    · exact isLoadStep_error rfl
    · exact ih _

theorem isLoadStep_compile (tree : FileTree ModuleImage) (package : Package) :
    IsLoadStep (compile tree package) :=
  (package.isLoadStep_read tree).bind fun image _ =>
    (image.isLoadStep_compile package.qualifiedName).bind fun _ _ => isLoadStep_ok _

theorem isLoadStep_load (config : EngineConfig) (modules : Assoc String GuestModule)
    (compiled : Package × Program) : IsLoadStep (load config modules compiled) := by
  obtain ⟨package, program⟩ := compiled
  rw [load]
  split
  · exact isLoadStep_error_bind rfl _
  · exact (GuestModule.isLoadStep_load _ program config _).bind fun _ _ => isLoadStep_ok _

theorem isLoadStep_compileAll (tree : FileTree ModuleImage) (packages : List Package)
    (poolSize : UInt64) : IsLoadStep (compileAll tree packages poolSize) := by
  rw [compileAll]
  split
  · exact isLoadStep_error_bind rfl _
  · exact (isLoadStep_checkDistinct packages _).bind fun _ _ =>
      isLoadStep_mapM (isLoadStep_compile tree) packages

theorem isLoadStep_fillSlot (f : Factory) (compiled : List (Package × Guest.Program))
    (slot : Nat) : IsLoadStep (f.fillSlot compiled slot) :=
  (isLoadStep_foldlM (isLoadStep_load f.config) compiled _).map _

/-- Building engines fails with load errors. -/
theorem isLoadError_of_newEngines {f : Factory} {tree : FileTree ModuleImage}
    {packages : List Package} {poolSize : UInt64} {error : ExtensionError}
    (h : (f.newEngines tree packages poolSize).1 = .returned (.error error)) :
    error.isLoadError = true := by
  rw [newEngines] at h
  split at h
  · rename_i hcompiled
    cases h
    exact isLoadStep_compileAll tree packages poolSize error hcompiled
  · split at h
    · cases h
    · split at h
      · rename_i hslots
        cases h
        exact isLoadStep_mapM (f.isLoadStep_fillSlot _) _ error hslots
      · cases h

end Factory

/-! ### Invocations -/

/-- A run that fails shows an error that was raised while the guest ran. -/
theorem Guest.Failure.isRecoverable_classify {f : Failure}
    (hf : ∀ e, f = .host e → e.isRaised = true) (growthRefused : Bool) :
    (f.classify growthRefused).isRecoverable = true := by
  cases f with
  | interrupted => rfl
  | trap cause => cases growthRefused <;> rfl
  | host e =>
    cases growthRefused with
    | true => rfl
    | false => exact ExtensionError.isRecoverable_of_isRaised (hf e rfl)

theorem GuestModule.entry_of_hasExtension {m : GuestModule} {extension : String}
    (h : m.hasExtension extension = true) : ∃ function, m.entry extension = .ok function := by
  rw [hasExtension, Assoc.contains, Option.isSome_iff_exists] at h
  obtain ⟨function, hfunction⟩ := h
  exact ⟨function, by rw [entry, hfunction]⟩

theorem GuestModule.entry_of_not_hasExtension {m : GuestModule} {extension : String}
    (h : m.hasExtension extension = false) :
    m.entry extension = .error (.invalidExtensionName extension) := by
  rw [hasExtension, Assoc.contains, Option.isSome_eq_false_iff, Option.isNone_iff_eq_none] at h
  rw [entry, h]

namespace Engine

variable {e : Engine} {σ : Type} (now : Instant) {package extension : String} (context : Context)
  (adapter : Adapter σ) (state : σ)

/-- An invocation that cannot be resolved returns the reason. -/
theorem outcome_of_resolve_error {error : ExtensionError}
    (h : e.resolve package extension = .error error) :
    (e.invoke now package extension context adapter state).outcome = .returned (.error error) := by
  simp only [invoke, resolve_count, h]

/-- An invocation of a package that is not loaded. -/
theorem outcome_of_module?_eq_none (h : e.module? package = none) :
    (e.invoke now package extension context adapter state).outcome
      = .returned (.error (.undefinedPackage package)) :=
  outcome_of_resolve_error now context adapter state (by rw [resolve, h])

/-- An invocation of an extension that is not declared. -/
theorem outcome_of_not_hasExtension {m : GuestModule} (hm : e.module? package = some m)
    (h : m.hasExtension extension = false) :
    (e.invoke now package extension context adapter state).outcome
      = .returned (.error (.invalidExtensionName extension)) := by
  refine outcome_of_resolve_error now context adapter state ?_
  simp only [resolve, hm, GuestModule.entry_of_not_hasExtension h, Except.map]

/-- A run of a module that fails shows an error that was raised while the guest ran. -/
theorem isRecoverable_of_enters (h : e.IsReachable) {m : GuestModule} {function : String}
    {ticks : Nat} (henters : e.Enters now package extension context m function ticks)
    {error : ExtensionError}
    (herror : (e.invoke now package extension context adapter state).outcome
      = .returned (.error error)) : error.isRecoverable = true := by
  obtain ⟨loaded, hloaded, hcontinues⟩ := h.module henters.module?
  obtain ⟨f, hinvoke⟩ := invoke_of_enters henters adapter state
  have hresult : (m.run adapter state function ticks).1 = .error error := by
    rw [hinvoke] at herror
    simpa only [fst_runModule, InvokeOutcome.returned.injEq] using herror
  have hattributed := hcontinues.attributed adapter state function hloaded henters.ticks_ne_zero
  cases hfailure : m.failure? adapter state function ticks with
  | none =>
    rw [GuestModule.fst_run_of_none hfailure] at hresult
    cases hresult
  | some f =>
    rw [GuestModule.fst_run_of_some hfailure] at hresult
    cases hresult
    exact f.isRecoverable_classify (fun e he => hattributed.raised e (he ▸ hfailure)) _

/-- An invocation of an extension that is loaded returns no error of its caller. -/
theorem isRecoverable_of_hasExtension (h : e.IsReachable)
    (hextension : e.hasExtension package extension = true) {error : ExtensionError}
    (herror : (e.invoke now package extension context adapter state).outcome
      = .returned (.error error)) : error.isRecoverable = true := by
  obtain ⟨m, hm, hdeclared⟩ := (Option.any_eq_true _ _).mp hextension
  obtain ⟨function, hentry⟩ := GuestModule.entry_of_hasExtension hdeclared
  have hresolve : e.resolve package extension = .ok (m, function) := by
    simp only [resolve, hm, hentry, Except.map]
  cases hticks : e.ticksAt now context with
  | error overflow =>
    simp only [invoke, resolve_count, ticksAt_count, hresolve, hticks] at herror
    cases herror
  | ok ticks =>
    cases ticks with
    | none =>
      simp only [invoke, resolve_count, ticksAt_count, hresolve, hticks] at herror
      cases herror
      rfl
    | some ticks =>
      exact isRecoverable_of_enters now context adapter state h ⟨hresolve, hticks⟩ herror

/-- **Every error belongs to its class.**  Whatever the packages and the size of the pool, building
engines fails with a load error, which is no recoverable one.  An invocation on a reachable engine
says that the package is not loaded, or that it declares no such extension, if this is so; that is
neither a load error nor a recoverable one.  Every other error of an invocation is recoverable and
no load error, and no invocation shows the error of host functions that are called at the wrong
time: not for any guest, nor for any adapter. -/
theorem errors_belong_to_their_class :
    (∀ (f : Factory) (tree : FileTree ModuleImage) (packages : List Package) (poolSize : UInt64)
        (error : ExtensionError),
        (f.newEngines tree packages poolSize).1 = .returned (.error error) →
      error.isLoadError = true ∧ error.isRecoverable = false) ∧
    ∀ e : Engine, e.IsReachable → ∀ (now : Instant) (package extension : String)
        (context : Context) (client : Client),
      let outcome := (e.invoke now package extension context client.adapter client.state).outcome
      (e.module? package = none → outcome = .returned (.error (.undefinedPackage package))) ∧
      (∀ m, e.module? package = some m → m.hasExtension extension = false →
        outcome = .returned (.error (.invalidExtensionName extension))) ∧
      ∀ error, outcome = .returned (.error error) →
        error.isLoadError = false ∧ error.isRecoverable = e.hasExtension package extension ∧
          ∀ detail, error ≠ .internal detail := by
  refine ⟨fun f tree packages poolSize error herror => ?_,
    fun e h now package extension context client => ?_⟩
  · have hload := Factory.isLoadError_of_newEngines herror
    exact ⟨hload, ExtensionError.isRecoverable_eq_false_of_isLoadError hload⟩
  · intro outcome
    have hpackage : e.module? package = none →
        outcome = .returned (.error (.undefinedPackage package)) :=
      outcome_of_module?_eq_none now context client.adapter client.state
    have hname : ∀ m, e.module? package = some m → m.hasExtension extension = false →
        outcome = .returned (.error (.invalidExtensionName extension)) := fun m hm hm' =>
      outcome_of_not_hasExtension now context client.adapter client.state hm hm'
    refine ⟨hpackage, hname, fun error herror => ?_⟩
    cases hextension : e.hasExtension package extension with
    | true =>
      have hrecoverable := isRecoverable_of_hasExtension now context client.adapter client.state h
        hextension herror
      refine ⟨ExtensionError.isLoadError_eq_false_of_isRecoverable hrecoverable, hrecoverable, ?_⟩
      rintro detail rfl
      cases hrecoverable
    | false =>
      cases hm : e.module? package with
      | none =>
        rw [hpackage hm] at herror
        cases herror
        exact ⟨rfl, rfl, nofun⟩
      | some m =>
        rw [hasExtension, hm] at hextension
        rw [hname m hm hextension] at herror
        cases herror
        exact ⟨rfl, rfl, nofun⟩

end Engine

deriving instance DecidableEq for InvokeOutcome

/-- The error that a request for a pool returns. -/
def PoolOutcome.error? : PoolOutcome → Option ExtensionError
  | .returned (.error error) => some error
  | _ => none

theorem PoolOutcome.eq_of_error?_eq_some {outcome : PoolOutcome} {error : ExtensionError}
    (h : outcome.error? = some error) : outcome = .returned (.error error) := by
  match outcome, h with
  | .returned (.error _), rfl => rfl

/-- A program that turns to the host as soon as it starts, when there is no adapter. -/
def Sample.hasty : Program :=
  { Sample.program.putFunction (Standard.exported "begin" [] []
      [.call "host_value_len" [.const 0] []]) with start := some "begin" }

/-- The outcome of building an engine for it. -/
def Sample.hastyPool : PoolOutcome :=
  (Factory.newEngines ⟨"sample", Sample.config, ⟨0, 0, 0⟩, 0⟩
    ⟨[("/sample", .program Sample.hasty)], []⟩ [⟨"sample", .ofFilePath "/sample", []⟩] 1).1

namespace Engine

/-- The internal error of the host function shows as a failed instantiation; and of two invocations,
the one of an extension that fails returns a recoverable error, the other one does not. -/
theorem errors_belong_to_their_class_sample :
    (∃ reason, Sample.hastyPool = .returned (.error (.instantiation reason)) ∧
      (ExtensionError.instantiation reason).isLoadError = true ∧
      (ExtensionError.instantiation reason).isRecoverable = false) ∧
    (Sample.engine.invoke ⟨0⟩ "sample" "depart" .unbounded Sample.client.adapter
        Sample.client.state).outcome = .returned (.error (.invalidExtensionName "depart")) ∧
    ∃ error, (Sample.engine.invoke ⟨0⟩ "sample" "overreach" .unbounded Sample.client.adapter
        Sample.client.state).outcome = .returned (.error error) ∧ error.isRecoverable = true := by
  obtain ⟨hload, hinvoke⟩ := errors_belong_to_their_class
  refine ⟨?_, ?_, ?_⟩
  · have hpool : Sample.hastyPool.error? = some
        (.instantiation (.stated "sample: internal error: no state bound to sample")) := by
      decide +kernel
    have hpool := PoolOutcome.eq_of_error?_eq_some hpool
    exact ⟨_, hpool, hload _ _ _ _ _ hpool⟩
  · exact (hinvoke Sample.engine Sample.isFresh_engine.isReachable ⟨0⟩ "sample" "depart" .unbounded
      Sample.client).2.1 Sample.module Sample.module?_engine (by decide +kernel)
  · have houtcome : (Sample.engine.invoke ⟨0⟩ "sample" "overreach" .unbounded
        Sample.client.adapter Sample.client.state).outcome
          = .returned (.error (.outOfMemory (Failure.chain (.trap .unreachable)))) := by
      decide +kernel
    have hdeclared : Sample.engine.hasExtension "sample" "overreach" = true := by decide +kernel
    obtain ⟨-, hrecoverable, -⟩ := (hinvoke Sample.engine Sample.isFresh_engine.isReachable ⟨0⟩
      "sample" "overreach" .unbounded Sample.client).2.2 _ houtcome
    exact ⟨_, houtcome, hrecoverable.trans hdeclared⟩

end Engine

end ExtensionHost
