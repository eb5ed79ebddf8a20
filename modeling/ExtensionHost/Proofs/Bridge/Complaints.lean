import ExtensionHost.Proofs.Bridge.Story

/-!
# What host functions complain of

An error that a host function fails with is raised while it serves an invocation, or says that the
call comes at the wrong time.  Outside invocations a host function fails in any case, so that
nothing of the guest can come between, and the error is one of these two kinds.

## Main definitions

* `ExtensionError.isOfHost`, the errors of host functions at any time
* `Bridge.Complains`

## Main results

* `HostFunction.isOfHost_of_unbound`
-/

namespace ExtensionHost

open Guest

/-- Whether an error is one that host functions fail with, whenever they are called. -/
def ExtensionError.isOfHost : ExtensionError → Bool
  | .internal _ => true
  | e => e.isRaised

theorem ExtensionError.isOfHost_of_isRaised {e : ExtensionError} (h : e.isRaised = true) :
    e.isOfHost = true := by
  cases e <;> first | rfl | exact h

namespace Bridge

variable {σ α : Type}

/-- The contract of steps that fail with errors of host functions only. -/
def Complains : Contract σ := fun _ o _ => ∀ f, o = some f → ∃ e, f = .host e ∧ e.isOfHost = true

theorem complains_of_ok (s s' : Machine σ) : Complains s none s' := by
  intro f hf
  cases hf

theorem complains_composes : Contract.Composes (σ := σ) Complains :=
  ⟨fun s => complains_of_ok s s, fun _ h => h⟩

theorem complains_fail {e : ExtensionError} (he : e.isOfHost = true) :
    Run.Meets Complains (fail e : Run σ α) := by
  rintro s f hf
  cases hf
  exact ⟨e, rfl, he⟩

theorem complains_boundState (sandbox : Sandbox σ) :
    Run.Meets Complains (boundState sandbox) := by
  intro s
  cases h : s.bound with
  | some state =>
    rw [Run.failure?, boundState_of_eq_some h]
    exact complains_of_ok s s
  | none =>
    rw [Run.failure?, boundState_of_eq_none h]
    rintro f hf
    cases hf
    exact ⟨_, rfl, rfl⟩

theorem admits_complains (sandbox : Sandbox σ) : Admits sandbox Complains where
  composes := complains_composes
  fail h := complains_fail (ExtensionError.isOfHost_of_isRaised h)
  guestMemory := by
    intro s
    by_cases hs : s.exports.isSome = true
    · rw [Run.failure?, guestMemory_of_isSome hs]
      exact complains_of_ok s s
    · rw [Run.failure?, guestMemory, Run.get_bind, if_neg hs]
      rintro f hf
      cases hf
      exact ⟨_, rfl, rfl⟩
  boundState := complains_boundState sandbox
  ask := by
    intro α request _
    refine (complains_boundState sandbox).bind complains_composes fun w => ?_
    refine Run.Meets.bind complains_composes (fun s => complains_of_ok s _) fun _ => ?_
    cases hreply : (request w).1 with
    | ok a => exact fun s => complains_of_ok s s
    | error cause => exact complains_fail rfl

end Bridge

/-- Outside invocations host functions complain, those that enter the guest included. -/
theorem HostFunction.isOfHost_of_unbound {σ : Type} {sandbox : Sandbox σ} {enter : Enter σ}
    {f : HostFunction} {args : List UInt64} {s : Machine σ} {e : ExtensionError}
    (hs : s.bound = none) (h : Run.failure? (f.call sandbox enter args) s = some (.host e)) :
    e.isOfHost = true := by
  by_cases hf : f.entersGuest = false
  · obtain ⟨e', he, hhost⟩ := (Bridge.admits_complains sandbox).call enter hf args s _ h
    cases he
    exact hhost
  · -- a function that enters the guest looks for the adapter before it does so
    have hfails : ∃ detail, Run.failure? (f.call sandbox enter args) s
        = some (.host (.internal detail)) := by
      cases f with
      | readValues =>
        have hiterate : Bridge.iterateRows sandbox enter (args.getD 0 0) s
            = .error (.host (.internal s!"no state bound to {sandbox.package}")) s :=
          Run.bind_of_error (Bridge.boundState_of_eq_none hs)
        refine ⟨s!"no state bound to {sandbox.package}", ?_⟩
        show Run.failure? (Bridge.iterateRows sandbox enter (args.getD 0 0) >>= fun _ => pure []) s
          = _
        rw [Run.failure?, Run.bind_of_error hiterate]
      | read source reader =>
        rw [call_read, Run.failure?, Run.bind_of_error (Bridge.readField_of_eq_none _ _ hs)]
        exact ⟨_, rfl⟩
      | _ => exact absurd rfl hf
    obtain ⟨detail, hfails⟩ := hfails
    rw [hfails] at h
    cases h
    rfl

end ExtensionHost
