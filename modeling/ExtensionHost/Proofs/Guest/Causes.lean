import ExtensionHost.Proofs.Guest.Ending

/-!
# Causes in the history

Why an invocation fails is seen in its history.  Its time is used up where the guest runs for ever,
memory is refused where the guest asks for too much, and an error of the host was raised by some
host function that was entered.

## Main definitions

* `Note.IsSpin`, `Note.IsRefusal` and `Note.Raises`
* `Story.Explains`, every error of the host is raised in a story

## Main results

* `Leads.budget_eq_zero_iff` and `Leads.growthRefused_iff`
-/

namespace ExtensionHost

namespace Guest

variable {σ α : Type} {sandbox : Sandbox σ}

/-! ### Time and memory -/

namespace Note

/-- The guest runs for ever, until it is interrupted. -/
def IsSpin (n : Note σ) : Prop := ∃ s frame, n.deed = .executed s frame ∧ s.isSpin = true

/-- The guest is refused memory. -/
def IsRefusal (limit : Nat) (n : Note σ) : Prop :=
  ∃ s frame, n.deed = .executed s frame ∧ s.IsRefused limit frame n.before.guest

variable {n : Note σ}

theorem isSpin_executed {s : Statement} {frame : Frame} {before after : Machine σ} :
    IsSpin ⟨.executed s frame, before, after⟩ ↔ s.isSpin = true := by
  constructor
  · rintro ⟨s', frame', heq, hs⟩
    cases heq
    exact hs
  · exact fun hs => ⟨s, frame, rfl, hs⟩

theorem isRefusal_executed {limit : Nat} {s : Statement} {frame : Frame} {before after : Machine σ} :
    IsRefusal limit ⟨.executed s frame, before, after⟩ ↔ s.IsRefused limit frame before.guest := by
  constructor
  · rintro ⟨s', frame', heq, hs⟩
    cases heq
    exact hs
  · exact fun hs => ⟨s, frame, rfl, hs⟩

/-- Only endless loops use up time. -/
theorem Legal.budget_eq_zero_iff (h : n.Legal sandbox) :
    n.after.budget = 0 ↔ n.before.budget = 0 ∨ n.IsSpin := by
  cases h with
  | executed _ h =>
    rw [isSpin_executed]
    cases h with
    | spun hs => exact ⟨fun _ => Or.inr hs, fun _ => rfl⟩
    | refused _ hs => simp [hs]
    | idle hq | trapped _ hq | globalSet _ _ hq | stored hq | grown hq | tableGrown _ hq =>
      simp [hq.2]
  | asked h => rw [h.1]; simp [IsSpin]
  | entered | rejected | staged | misplaced => simp [IsSpin]

/-- A refusal is remembered, and nothing else is. -/
theorem Legal.growthRefused_iff (h : n.Legal sandbox) :
    n.after.guest.growthRefused = true ↔
      n.before.guest.growthRefused = true ∨ n.IsRefusal sandbox.memoryLimit := by
  cases h with
  | executed _ h =>
    rw [isRefusal_executed]
    cases h with
    | refused hr => exact ⟨fun _ => Or.inr hr, fun _ => rfl⟩
    | spun _ hr => simp [hr]
    | idle hq | trapped _ hq | globalSet _ _ hq | stored hq | grown hq | tableGrown _ hq =>
      simp [hq.1]
  | asked h => rw [h.1]; simp [IsRefusal]
  | entered | rejected | staged | misplaced => simp [IsRefusal]

end Note

namespace Leads

variable {s t : Machine σ} {notes : List (Note σ)}

/-- A mark on machines that events of one kind set and no event clears. -/
theorem mark_iff (h : Leads sandbox s notes t) {P : Machine σ → Prop} {Q : Note σ → Prop}
    (hstep : ∀ n : Note σ, n.Legal sandbox → (P n.after ↔ P n.before ∨ Q n)) :
    P t ↔ P s ∨ ∃ n ∈ notes, Q n := by
  induction h with
  | nil s => simp
  | @cons n rest t hn _ ih => simp only [ih, hstep n hn, List.mem_cons, exists_eq_or_imp, or_assoc]

theorem budget_eq_zero_iff (h : Leads sandbox s notes t) :
    t.budget = 0 ↔ s.budget = 0 ∨ ∃ n ∈ notes, n.IsSpin :=
  h.mark_iff (P := fun s => s.budget = 0) fun _ hn => hn.budget_eq_zero_iff

theorem growthRefused_iff (h : Leads sandbox s notes t) :
    t.guest.growthRefused = true ↔
      s.guest.growthRefused = true ∨ ∃ n ∈ notes, n.IsRefusal sandbox.memoryLimit :=
  h.mark_iff (P := fun s => s.guest.growthRefused = true) fun _ hn => hn.growthRefused_iff

end Leads

/-! ### Errors of the host -/

/-- A host function is entered and fails with an error. -/
def Note.Raises (sandbox : Sandbox σ) (e : ExtensionError) (n : Note σ) : Prop :=
  ∃ f args depth, n.deed = .entered f args ∧
    Run.failure? (HostFunction.call sandbox (sandbox.callNested depth) f args) n.before
      = some (.host e)

/-- A story explains a step if every error of the host that the step fails with is raised in it. -/
def Story.Explains (sandbox : Sandbox σ) (h : Story σ) (c : Run σ α) : Prop :=
  ∀ s e, Run.failure? c s = some (.host e) → ∃ n ∈ h s, n.Raises sandbox e

end Guest

end ExtensionHost
