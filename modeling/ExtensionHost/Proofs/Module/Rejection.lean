import ExtensionHost.Module
import ExtensionHost.Proofs.Bridge.Serving

/-!
# How loading fails

Whatever goes wrong between the list of packages and the finished engines, the error says that a
package cannot be loaded.  Guest code runs in three places on the way: in the start function, in the
probe of the boundary's version, and in the allocator.  There host functions have no adapter, and at
first no exports either, so that they fail with internal errors; these, like traps, are wrapped up
in the error of the step that ran the guest, and never show as they are.

The argument follows the steps of loading.  Each of them fails with load errors only
(`IsLoadStep`), and so do steps one after the other.

## Main definitions

* `IsLoadStep`

## Main results

* `ExtensionError.isRecoverable_eq_false_of_isLoadError`, the classes do not overlap
* `GuestModule.isLoadStep_load`
-/

namespace ExtensionHost

open Guest

universe u v

namespace ExtensionError

/-- No error that aborts loading counts as raised while a guest ran. -/
theorem isRecoverable_eq_false_of_isLoadError {e : ExtensionError} (h : e.isLoadError = true) :
    e.isRecoverable = false := by
  cases e <;> first | rfl | cases h

/-- No error raised while a guest ran aborts loading. -/
theorem isLoadError_eq_false_of_isRecoverable {e : ExtensionError} (h : e.isRecoverable = true) :
    e.isLoadError = false := by
  cases e <;> first | rfl | cases h

/-- What host functions raise, they raise while a guest runs. -/
theorem isRecoverable_of_isRaised {e : ExtensionError} (h : e.isRaised = true) :
    e.isRecoverable = true := by
  cases e <;> first | rfl | cases h

end ExtensionError

/-- A step of loading: if it fails, then with an error that aborts the loading of a package. -/
def IsLoadStep {α : Type u} (x : Except ExtensionError α) : Prop :=
  ∀ error, x = .error error → error.isLoadError = true

section Steps

variable {α β : Type u} {γ : Type v}

theorem isLoadStep_ok (a : α) : IsLoadStep (.ok a : Except ExtensionError α) := nofun

theorem isLoadStep_error {e : ExtensionError} (h : e.isLoadError = true) :
    IsLoadStep (.error e : Except ExtensionError α) := by
  intro error herror
  cases herror
  exact h

/-- Nothing follows an error. -/
theorem isLoadStep_error_bind {e : ExtensionError} (h : e.isLoadError = true)
    (f : α → Except ExtensionError β) :
    IsLoadStep ((.error e : Except ExtensionError α) >>= f) :=
  isLoadStep_error h

theorem isLoadStep_ite {p : Prop} [Decidable p] (a : α) {e : ExtensionError}
    (h : e.isLoadError = true) :
    IsLoadStep (if p then .ok a else .error e : Except ExtensionError α) := by
  split
  · exact isLoadStep_ok a
  · exact isLoadStep_error h

theorem IsLoadStep.bind {x : Except ExtensionError α} {f : α → Except ExtensionError β}
    (hx : IsLoadStep x) (hf : ∀ a, x = .ok a → IsLoadStep (f a)) : IsLoadStep (x >>= f) := by
  cases x with
  | ok a => exact hf a rfl
  | error e => exact isLoadStep_error (hx e rfl)

theorem IsLoadStep.map {x : Except ExtensionError α} (hx : IsLoadStep x) (f : α → γ) :
    IsLoadStep (x.map f) := by
  cases x with
  | ok a => exact isLoadStep_ok _
  | error e => exact isLoadStep_error (hx e rfl)

theorem isLoadStep_mapM {f : γ → Except ExtensionError α} (hf : ∀ c, IsLoadStep (f c))
    (l : List γ) : IsLoadStep (l.mapM f) := by
  induction l with
  | nil => exact isLoadStep_ok _
  | cons c l ih =>
    rw [List.mapM_cons]
    exact (hf c).bind fun _ _ => ih.bind fun _ _ => isLoadStep_ok _

theorem isLoadStep_forM {f : γ → Except ExtensionError PUnit} (hf : ∀ c, IsLoadStep (f c))
    (l : List γ) : IsLoadStep (l.forM f) := by
  induction l with
  | nil => exact isLoadStep_ok _
  | cons c l ih => exact (hf c).bind fun _ _ => ih

theorem isLoadStep_foldlM {f : α → γ → Except ExtensionError α} (hf : ∀ a c, IsLoadStep (f a c))
    (l : List γ) (a : α) : IsLoadStep (l.foldlM f a) := by
  induction l generalizing a with
  | nil => exact isLoadStep_ok _
  | cons c l ih =>
    rw [List.foldlM_cons]
    exact (hf a c).bind fun next _ => ih next

end Steps

/-! ### Modules -/

namespace GuestModule

variable (package : String) (program : Program) (config : EngineConfig)

theorem isLoadStep_link : IsLoadStep (link program) :=
  isLoadStep_forM (fun _ => isLoadStep_ite _ rfl) _

theorem isLoadStep_initialMemory : IsLoadStep (initialMemory program config) :=
  isLoadStep_ite _ rfl

theorem isLoadStep_initialTable : IsLoadStep (initialTable program) := isLoadStep_ite _ rfl

theorem isLoadStep_writeSegment (memory : Memory) (segment : DataSegment) :
    IsLoadStep (writeSegment memory segment) := isLoadStep_ite _ rfl

/-- Whatever the start function fails with, the module cannot be instantiated. -/
theorem isLoadStep_instantiate : IsLoadStep (instantiate package program config) := by
  refine (isLoadStep_link program).bind fun _ _ => ?_
  refine (isLoadStep_initialMemory program config).bind fun _ _ => ?_
  refine (isLoadStep_initialTable program).bind fun _ _ => ?_
  refine (isLoadStep_foldlM isLoadStep_writeSegment _ _).bind fun _ _ => ?_
  split
  · exact isLoadStep_ok _
  · dsimp only
    split
    · exact isLoadStep_ok _
    · exact isLoadStep_error rfl

theorem isLoadStep_typedExport (name : String) (signature : Signature) :
    IsLoadStep (typedExport program name signature) := by
  rw [typedExport]
  split
  · exact isLoadStep_error rfl
  · exact isLoadStep_ite _ rfl

theorem isLoadStep_resolveExports : IsLoadStep (resolveExports program) := by
  have htyped := isLoadStep_typedExport program
  rw [resolveExports]
  split
  · exact isLoadStep_error_bind rfl _
  · refine (htyped _ _).bind fun _ _ => (htyped _ _).bind fun _ _ => (htyped _ _).bind fun _ _ => ?_
    refine (htyped _ _).bind fun _ _ => (htyped _ _).bind fun _ _ => (htyped _ _).bind fun _ _ => ?_
    refine (htyped _ _).bind fun _ _ => (htyped _ _).bind fun _ _ => (htyped _ _).bind fun _ _ => ?_
    exact isLoadStep_ok _

/-- Whatever the probe fails with, the version is not supported. -/
theorem isLoadStep_probeVersion (exports : Exports) (guest : GuestState) :
    IsLoadStep (probeVersion package program config exports guest) := by
  rw [probeVersion]
  split
  · exact isLoadStep_ok _
  · exact isLoadStep_error rfl

/-- Whatever the allocator fails with, the module cannot be instantiated. -/
theorem isLoadStep_preallocate (exports : Exports) (guest : GuestState) :
    IsLoadStep (preallocate package program config exports guest) := by
  simp only [preallocate]
  split
  · exact isLoadStep_error rfl
  · split
    · exact isLoadStep_error rfl
    · exact isLoadStep_ok _

theorem isLoadStep_prepare : IsLoadStep (prepare package program config) := by
  refine (isLoadStep_instantiate package program config).bind fun guest _ => ?_
  refine (isLoadStep_resolveExports program).bind fun exports _ => ?_
  refine (isLoadStep_probeVersion package program config exports guest).bind fun guest _ => ?_
  exact (isLoadStep_preallocate package program config exports guest).bind fun _ _ =>
    isLoadStep_ok _

theorem isLoadStep_resolveExtensions (names : List String) :
    IsLoadStep (resolveExtensions program names) := by
  refine isLoadStep_foldlM (fun extensions name => ?_) _ _
  split
  · exact isLoadStep_error_bind rfl _
  · exact (isLoadStep_typedExport program _ _).bind fun _ _ => isLoadStep_ok _

/-- A program that cannot be loaded is rejected with a load error. -/
theorem isLoadStep_load (extensionNames : List String) :
    IsLoadStep (load package extensionNames program config) := by
  refine IsLoadStep.map ?_ _
  exact (isLoadStep_prepare package program config).bind fun _ _ =>
    (isLoadStep_resolveExtensions program extensionNames).bind fun _ _ => isLoadStep_ok _

end GuestModule

end ExtensionHost
