import ExtensionHost.Guest.Execution

/-!
# Contracts of runs

A step of a run takes a machine to an outcome and the machine after it.  What such a step may do is
said by a `Contract`: a relation between the machine before it, the failure that it ends with, if
any, and the machine after it.  A contract that `Composes` holds of a sequence of steps as soon as
it holds of each of them, so that a fact about all runs is proved by looking at single steps.

## Main definitions

* `Run.after` and `Run.failure?`, the two halves of an outcome
* `Contract`, `Contract.Composes` and `Run.Meets`
* `Run.Reads`, a step that looks at the machine and may trap

## Main results

* `Run.Meets.bind`, sequences of steps
* `Run.Reads.bind_cases`, a step behind one that only looks
-/

namespace ExtensionHost

namespace Guest

/-- What a step may do: the machine before it, its failure and the machine after it. -/
abbrev Contract (σ : Type) := Machine σ → Option Failure → Machine σ → Prop

/-- A contract that sequences of steps inherit from their parts. -/
structure Contract.Composes {σ : Type} (R : Contract σ) : Prop where
  /-- Doing nothing is allowed. -/
  refl : ∀ s, R s none s
  /-- A step may follow one that did not fail. -/
  trans : ∀ {s t u o}, R s none t → R t o u → R s o u

namespace Run

variable {σ α β : Type}

/-- The machine after a step, whatever its outcome. -/
def after (c : Run σ α) (s : Machine σ) : Machine σ :=
  match c s with
  | .ok _ t => t
  | .error _ t => t

/-- The failure that a step ends with. -/
def failure? (c : Run σ α) (s : Machine σ) : Option Failure :=
  match c s with
  | .ok _ _ => none
  | .error f _ => some f

/-- A step keeps a contract. -/
def Meets (R : Contract σ) (c : Run σ α) : Prop := ∀ s, R s (failure? c s) (after c s)

/-! ### Outcomes of composed steps -/

theorem after_of_ok {c : Run σ α} {s t : Machine σ} {a : α} (h : c s = .ok a t) :
    after c s = t := by
  rw [after, h]

theorem after_of_error {c : Run σ α} {s t : Machine σ} {f : Failure} (h : c s = .error f t) :
    after c s = t := by
  rw [after, h]

theorem bind_of_ok {c : Run σ α} {f : α → Run σ β} {s t : Machine σ} {a : α} (h : c s = .ok a t) :
    (c >>= f) s = f a t := by
  show EStateM.bind c f s = _
  rw [EStateM.bind, h]

theorem bind_of_error {c : Run σ α} {f : α → Run σ β} {s t : Machine σ} {e : Failure}
    (h : c s = .error e t) : (c >>= f) s = .error e t := by
  show EStateM.bind c f s = _
  rw [EStateM.bind, h]

theorem get_bind (f : Machine σ → Run σ β) (s : Machine σ) :
    ((get : Run σ (Machine σ)) >>= f) s = f s s := rfl

theorem after_bind_pure (c : Run σ α) (g : α → β) (s : Machine σ) :
    after (c >>= fun a => Pure.pure (g a)) s = after c s := by
  rw [after, after]
  cases h : c s with
  | ok a t => rw [bind_of_ok h]; rfl
  | error f t => rw [bind_of_error h]

/-! ### Contracts -/

namespace Meets

variable {R : Contract σ}

theorem ok {c : Run σ α} (h : Meets R c) {s t : Machine σ} {a : α} (hc : c s = .ok a t) :
    R s none t := by
  have := h s
  rwa [failure?, after, hc] at this

theorem error {c : Run σ α} (h : Meets R c) {s t : Machine σ} {f : Failure}
    (hc : c s = .error f t) : R s (some f) t := by
  have := h s
  rwa [failure?, after, hc] at this

theorem pure (hR : R.Composes) (a : α) : Meets R (Pure.pure a : Run σ α) := hR.refl

theorem bind (hR : R.Composes) {c : Run σ α} {f : α → Run σ β} (hc : Meets R c)
    (hf : ∀ a, Meets R (f a)) : Meets R (c >>= f) := by
  intro s
  cases h : c s with
  | ok a t =>
    rw [failure?, after, bind_of_ok h]
    exact hR.trans (hc.ok h) (hf a t)
  | error e t =>
    rw [failure?, after, bind_of_error h]
    exact hc.error h

theorem mono {S : Contract σ} {c : Run σ α} (hc : Meets R c) (h : ∀ {s o t}, R s o t → S s o t) :
    Meets S c := fun s => h (hc s)

end Meets

/-! ### Steps that only look -/

/-- A step that looks at the machine without changing it, and at worst traps. -/
def Reads (c : Run σ α) : Prop :=
  ∀ s, (∃ a, c s = .ok a s) ∨ ∃ cause, c s = .error (.trap cause) s

namespace Reads

theorem pure (a : α) : Reads (Pure.pure a : Run σ α) := fun _ => Or.inl ⟨a, rfl⟩

theorem trap (cause : TrapCause) : Reads (Run.trap cause : Run σ α) :=
  fun _ => Or.inr ⟨cause, rfl⟩

/-- A step behind one that only looks: either the latter traps, or the former takes place on the
same machine. -/
theorem bind_cases {c : Run σ α} (hc : Reads c) (f : α → Run σ β) (s : Machine σ) :
    (∃ cause, (c >>= f) s = .error (.trap cause) s) ∨
      ∃ a, c s = .ok a s ∧ (c >>= f) s = f a s := by
  rcases hc s with ⟨a, h⟩ | ⟨cause, h⟩
  · exact Or.inr ⟨a, h, bind_of_ok h⟩
  · exact Or.inl ⟨cause, bind_of_error h⟩

theorem bind {c : Run σ α} {f : α → Run σ β} (hc : Reads c) (hf : ∀ a, Reads (f a)) :
    Reads (c >>= f) := by
  intro s
  rcases hc.bind_cases f s with ⟨cause, h⟩ | ⟨a, _, h⟩
  · exact Or.inr ⟨cause, h⟩
  · rw [h]
    exact hf a s

end Reads

theorem reads_ofExcept (r : Except TrapCause α) : Reads (ofExcept r : Run σ α) := by
  cases r with
  | ok a => exact Reads.pure a
  | error cause => exact Reads.trap cause

end Run

variable {σ : Type}

theorem evaluate_apply (frame : Frame) (e : Expression) (s : Machine σ) :
    evaluate frame e s = Run.ofExcept (e.eval frame s.guest) s := rfl

theorem reads_evaluate (frame : Frame) (e : Expression) :
    Run.Reads (evaluate frame e : Run σ UInt64) :=
  fun s => Run.reads_ofExcept (e.eval frame s.guest) s

theorem eval_of_evaluate {frame : Frame} {e : Expression} {s t : Machine σ} {w : UInt64}
    (h : evaluate frame e s = .ok w t) : e.eval frame s.guest = .ok w := by
  rw [evaluate_apply] at h
  cases he : e.eval frame s.guest with
  | ok v =>
    rw [he] at h
    cases h
    rfl
  | error cause =>
    rw [he] at h
    cases h

theorem reads_evaluateAll (frame : Frame) (es : List Expression) :
    Run.Reads (evaluateAll frame es : Run σ (List UInt64)) := by
  rw [evaluateAll]
  induction es with
  | nil => exact Run.Reads.pure []
  | cons e es ih =>
    rw [List.mapM_cons]
    exact (reads_evaluate frame e).bind fun _ => ih.bind fun _ => Run.Reads.pure _

theorem reads_evaluateShort (frame : Frame) (e : Expression) :
    Run.Reads (evaluateShort frame e : Run σ Nat) :=
  (reads_evaluate frame e).bind fun _ => Run.Reads.pure _

theorem eval_of_evaluateShort {frame : Frame} {e : Expression} {s t : Machine σ} {n : Nat}
    (h : evaluateShort frame e s = .ok n t) :
    ∃ w, e.eval frame s.guest = .ok w ∧ n = w.toUInt32.toNat := by
  cases he : evaluate frame e s with
  | ok w u =>
    rw [evaluateShort, Run.bind_of_ok he] at h
    cases h
    exact ⟨w, eval_of_evaluate he, rfl⟩
  | error f u =>
    rw [evaluateShort, Run.bind_of_error he] at h
    cases h

theorem requireRange_apply (start count : Nat) (s : Machine σ) :
    requireRange start count s
      = if start + count > s.guest.memory.size then .error (.trap .outOfBounds) s
        else .ok () s := by
  rw [requireRange, Run.bind_of_ok (rfl : Run.guest s = .ok s.guest s)]
  split <;> rfl

theorem reads_requireRange (start count : Nat) :
    Run.Reads (requireRange start count : Run σ Unit) := by
  intro s
  rw [requireRange_apply]
  split
  · exact Or.inr ⟨_, rfl⟩
  · exact Or.inl ⟨(), rfl⟩

theorem le_of_requireRange {start count : Nat} {s t : Machine σ}
    (h : requireRange start count s = .ok () t) : start + count ≤ s.guest.memory.size := by
  rw [requireRange_apply] at h
  split at h
  · cases h
  · omega

end Guest

end ExtensionHost
