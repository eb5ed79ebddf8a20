import ExtensionHost.Proofs.Guest.Law
import ExtensionHost.Proofs.Guest.Payloads

/-!
# Whom a run turns to

The state that an adapter is bound with moves in the course of a run only where the adapter is
asked, and only by calls of this adapter.  With no adapter bound there is nothing to move, no
payload is staged, and the staging buffers stay as they are.

**What is added.**  What an event may do to the state is said by `Note.Legal` for all events but
one: of a request it says only that the state moves, not how.  `Story.Turns` says what is missing,
and is a law of histories (`law_turns`).

## Main definitions

* `Story.Turns`, in a story every request to the adapter consists of its calls
* `Note.IsUnserved`, an event where no adapter is bound

## Main results

* `Sandbox.turns_history`
* `Leads.turns`, `Leads.isUnserved` and `Leads.pool_eq`
-/

namespace ExtensionHost

namespace Guest

open Bridge

variable {σ : Type} {sandbox : Sandbox σ}

/-- Only requests to the adapter move its state. -/
theorem Note.Legal.bound_eq {n : Note σ} (h : n.Legal sandbox) (hn : n.deed ≠ .asked) :
    n.after.bound = n.before.bound := by
  cases h with
  | executed _ h => cases h <;> rfl
  | asked => exact absurd rfl hn
  | _ => rfl

/-- A request is made of calls of an adapter. -/
def Note.Turns (a : Adapter σ) (n : Note σ) : Prop :=
  n.deed = .asked → Bridge.Turns a n.before none n.after

/-- Every request that a story tells of is made of calls of an adapter. -/
def Story.Turns (a : Adapter σ) (h : Story σ) : Prop := ∀ s, ∀ n ∈ h s, n.Turns a

/-- Staging makes no request of its own; the guest's allocator may make some. -/
theorem turns_stageStory {a : Adapter σ} {enter : Enter σ} {tell : Tell σ}
    (htell : ∀ name args, (tell name args).Turns a) (bytes : ByteArray) :
    (stageStory enter tell bytes).Turns a := by
  have hsettled : ∀ (s : Machine σ) r, (settled bytes s r).Turns a := by
    intro s r hasked
    cases r <;> cases hasked
  intro s n hn
  rw [stageStory] at hn
  split at hn
  · exact absurd hn List.not_mem_nil
  · split at hn
    · obtain rfl := List.mem_singleton.mp hn
      exact hsettled _ _
    · exact absurd hn List.not_mem_nil
    · rcases List.mem_append.mp hn with hn | hn
      · exact htell _ _ s n hn
      · split at hn
        · obtain rfl := List.mem_singleton.mp hn
          exact hsettled _ _
        · exact absurd hn List.not_mem_nil

/-- All requests are made of calls of the adapter that serves the run. -/
theorem law_turns (sandbox : Sandbox σ) :
    Story.Law sandbox fun notes => ∀ n ∈ notes, n.Turns sandbox.adapter where
  nil := fun _ hn => absurd hn List.not_mem_nil
  append h hmore := List.forall_mem_append.mpr ⟨h, hmore⟩
  executed _ _ _ _ := List.forall_mem_singleton.mpr nofun
  entered _ _ _ := List.forall_mem_singleton.mpr nofun
  asked h := List.forall_mem_singleton.mpr fun _ => h
  stage _ htell bytes := turns_stageStory htell bytes

/-! ### Without an adapter -/

/-- An event where no adapter is bound: nothing is staged, and a host function that is entered fails
without having changed anything. -/
structure Note.IsUnserved (sandbox : Sandbox σ) (n : Note σ) : Prop where
  /-- No adapter is bound. -/
  bound : n.before.bound = none ∧ n.after.bound = none
  /-- The staging buffers stay as they are. -/
  pool : n.after.guest.pool = n.before.guest.pool
  /-- No payload is handed out. -/
  handout : n.handout? = none
  /-- Host functions fail. -/
  fails : ∀ f args, n.deed = .entered f args → ∀ enter, ∃ e,
    HostFunction.call sandbox enter f args n.before = .error (.host e) n.before

theorem Note.Legal.isUnserved {sandbox : Sandbox σ} {n : Note σ} (h : n.Legal sandbox)
    (hbound : n.before.bound = none) : n.IsUnserved sandbox := by
  have hafter : n.after.bound = none := by
    rw [← Option.isNone_iff_eq_none, ← Option.isSome_eq_false_iff, h.isSome_bound_eq, hbound]
    rfl
  refine ⟨⟨hbound, hafter⟩, h.pool_eq hbound, ?_, fun f args hn enter => ?_⟩
  · cases h with
    | staged hsome =>
      rw [hbound] at hsome
      cases hsome
    | _ => rfl
  · exact HostFunction.failsUnbound_call sandbox enter f args n.before hbound

namespace Sandbox

theorem turns_historyNested (sandbox : Sandbox σ) (depth : Nat) (name : String)
    (args : List UInt64) : (historyNested sandbox depth name args).Turns sandbox.adapter :=
  (law_turns sandbox).historyNested depth name args

/-- **A run turns to its own adapter only.**  At whatever depth a request is made, it is made of
calls of the adapter that the run is served by. -/
theorem turns_history (sandbox : Sandbox σ) (name : String) (args : List UInt64) :
    (sandbox.history name args).Turns sandbox.adapter :=
  turns_historyNested sandbox maxDepth name args

end Sandbox

namespace Leads

variable {sandbox : Sandbox σ} {s t : Machine σ} {notes : List (Note σ)}

/-- Calls of an adapter lead from the state at the beginning of a chain to the state at its end, if
all requests in it are made of such calls. -/
theorem turns (h : Leads sandbox s notes t) {a : Adapter σ} (hnotes : ∀ n ∈ notes, n.Turns a) :
    Bridge.Turns a s none t := by
  refine h.relation (R := fun s t => Bridge.Turns a s none t) Bridge.turns_composes.refl
    Bridge.turns_composes.trans fun n hn hlegal => ?_
  by_cases hasked : n.deed = .asked
  · exact hnotes n hn hasked
  · exact Bridge.turns_of_bound_eq (hlegal.bound_eq hasked) none

/-- Where no adapter is bound at the beginning of a chain, none is at any of its events. -/
theorem isUnserved (h : Leads sandbox s notes t) (hs : s.bound = none) :
    ∀ n ∈ notes, n.IsUnserved sandbox := by
  induction h with
  | nil => exact fun n hn => absurd hn List.not_mem_nil
  | @cons first rest t hlegal _ ih =>
    have hfirst := hlegal.isUnserved hs
    intro n hn
    rcases List.mem_cons.mp hn with rfl | hn
    · exact hfirst
    · exact ih hfirst.bound.2 n hn

/-- Then the staging buffers at the end are those at the beginning. -/
theorem pool_eq (h : Leads sandbox s notes t) (hs : s.bound = none) :
    t.guest.pool = s.guest.pool :=
  h.relation (R := fun s t => t.guest.pool = s.guest.pool) (fun _ => rfl)
    (fun hst htu => htu.trans hst) fun n hn _ => (h.isUnserved hs n hn).pool

end Leads

end Guest

end ExtensionHost
