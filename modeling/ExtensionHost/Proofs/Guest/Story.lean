import ExtensionHost.Proofs.Guest.Effect
import ExtensionHost.Proofs.Memory.Staging

/-!
# What happens during a run

A run is told as a list of `Note`s, one for every event that matters to the host: a simple statement
is executed, a host function is entered, the adapter is asked, a payload is staged.  Every note
keeps the machine before the event and the machine after it, so that "at every moment of the run" is
a statement about the members of a list.

A `Story` assigns such a list to the machine that a step starts on.  It follows the step and takes
every intermediate machine from the step itself; `Story.Tells` says that nothing is left out, in
that the notes are a chain of legal events from the machine before the step to the machine after it.

**Why events are legal.**  `Note.Legal` is the complete list of what an event can do.  An invariant
of runs is proved by looking at one legal event, and `Leads.invariant` carries it through the run.

## Main definitions

* `Deed`, `Note` and `Note.Legal`
* `Leads`, a chain of legal events, and `reached`, where it leads to
* `Story`, `Story.bind` and `Story.Tells`

## Main results

* `Leads.invariant`, what every legal event preserves holds at every moment
* `Story.Tells.bind`, the story of a sequence of steps
-/

namespace ExtensionHost

namespace Guest

variable {σ α β : Type}

/-- An event of a run. -/
inductive Deed where
  /-- A simple statement is executed. -/
  | executed (s : Statement) (frame : Frame)
  /-- A host function is entered. -/
  | entered (f : HostFunction) (args : List UInt64)
  /-- The adapter is asked. -/
  | asked
  /-- A payload is staged, and the guest gets a word for it. -/
  | staged (bytes : ByteArray) (word : UInt64)
  /-- A payload cannot be staged in the buffer at hand. -/
  | unplaced (bytes : ByteArray)

/-- An event with the machines before and after it. -/
structure Note (σ : Type) where
  /-- What happens. -/
  deed : Deed
  /-- The machine before it. -/
  before : Machine σ
  /-- The machine after it. -/
  after : Machine σ

/-- The contract of requests to the adapter: only its state changes, and only where there is one. -/
def Asks : Contract σ := fun s _ t =>
  t = { s with bound := t.bound } ∧ t.bound.isSome = s.bound.isSome

theorem Asks.guest_eq {s t : Machine σ} {o : Option Failure} (h : Asks s o t) :
    t.guest = s.guest := by
  rw [h.1]

namespace Note

/-- Everything that an event can do.  Payloads are staged during invocations only.  If one cannot
be, a fresh buffer was rejected, or the room for it lies outside memory. -/
inductive Legal (sandbox : Sandbox σ) : Note σ → Prop where
  | executed {s : Statement} {frame : Frame} {before after : Machine σ} {o : Option Failure}
    (hs : s.isSimple = true) (h : Effect sandbox frame s before o after) :
    Legal sandbox ⟨.executed s frame, before, after⟩
  | entered (f : HostFunction) (args : List UInt64) (before : Machine σ) :
    Legal sandbox ⟨.entered f args, before, before⟩
  | asked {before after : Machine σ} (h : Asks before none after) :
    Legal sandbox ⟨.asked, before, after⟩
  | staged {bytes : ByteArray} {before : Machine σ} {address : Address} {pool : StagingPool}
    (hbound : before.bound.isSome = true) (hsize : bytes.size < UInt32.size)
    (hgrant : StagingPool.Grants before.guest.memory.size before.guest.pool
      (UInt32.ofNat bytes.size) address pool)
    (hfit : address.toNat + bytes.size ≤ before.guest.memory.size) :
    Legal sandbox ⟨.staged bytes (Slice.mk address (UInt32.ofNat bytes.size)).pack, before,
      { before with guest :=
        { before.guest with pool, memory := before.guest.memory.write address.toNat bytes } }⟩
  | rejected (bytes : ByteArray) (before : Machine σ) :
    Legal sandbox ⟨.unplaced bytes, before, before⟩
  | misplaced {bytes : ByteArray} {before : Machine σ} {address : Address} {pool : StagingPool}
    (hbound : before.bound.isSome = true) (hsize : bytes.size < UInt32.size)
    (hgrant : StagingPool.Grants before.guest.memory.size before.guest.pool
      (UInt32.ofNat bytes.size) address pool)
    (hfit : before.guest.memory.size < address.toNat + bytes.size) :
    Legal sandbox ⟨.unplaced bytes, before, { before with guest := { before.guest with pool } }⟩

end Note

/-- A machine that an adapter is bound to has its exports resolved. -/
def Machine.IsReady (s : Machine σ) : Prop := s.bound.isSome = true → s.exports.isSome = true

namespace Note.Legal

variable {sandbox : Sandbox σ} {n : Note σ}

/-- Exports last as long as the run does. -/
theorem exports_eq (h : n.Legal sandbox) : n.after.exports = n.before.exports := by
  cases h with
  | executed _ h => cases h <;> rfl
  | asked h => rw [h.1]
  | _ => rfl

/-- An adapter is bound for the whole run or not at all. -/
theorem isSome_bound_eq (h : n.Legal sandbox) :
    n.after.bound.isSome = n.before.bound.isSome := by
  cases h with
  | executed _ h => cases h <;> rfl
  | asked h => exact h.2
  | _ => rfl

theorem isReady (h : n.Legal sandbox) (hs : n.before.IsReady) : n.after.IsReady := by
  rw [Machine.IsReady, h.exports_eq, h.isSome_bound_eq]
  exact hs

end Note.Legal

/-! ### Chains of events -/

/-- Where events that start on `s` have led to. -/
def reached (s : Machine σ) (notes : List (Note σ)) : Machine σ :=
  (notes.getLast?.map Note.after).getD s

/-- Legal events lead from one machine to another. -/
inductive Leads (sandbox : Sandbox σ) : Machine σ → List (Note σ) → Machine σ → Prop where
  | nil (s : Machine σ) : Leads sandbox s [] s
  | cons {n : Note σ} {rest : List (Note σ)} {t : Machine σ} (hn : n.Legal sandbox)
    (h : Leads sandbox n.after rest t) : Leads sandbox n.before (n :: rest) t

namespace Leads

variable {sandbox : Sandbox σ} {s t u : Machine σ} {notes more : List (Note σ)}

theorem single {n : Note σ} (hn : n.Legal sandbox) : Leads sandbox n.before [n] n.after :=
  .cons hn (.nil _)

theorem append (h : Leads sandbox s notes t) (h' : Leads sandbox t more u) :
    Leads sandbox s (notes ++ more) u := by
  induction h with
  | nil => exact h'
  | cons hn _ ih => exact .cons hn (ih h')

/-- A chain can be cut anywhere. -/
theorem of_append (h : Leads sandbox s (notes ++ more) u) :
    ∃ t, Leads sandbox s notes t ∧ Leads sandbox t more u := by
  induction notes generalizing s with
  | nil => exact ⟨s, .nil s, h⟩
  | cons n notes ih =>
    cases h with
    | cons hn h =>
      obtain ⟨t, hleft, hright⟩ := ih h
      exact ⟨t, .cons hn hleft, hright⟩

/-- A relation that every legal event stands in, and that composes, holds from the beginning of a
chain to its end. -/
theorem relation (h : Leads sandbox s notes t) {R : Machine σ → Machine σ → Prop}
    (hrefl : ∀ s, R s s) (htrans : ∀ {s t u}, R s t → R t u → R s u)
    (hstep : ∀ n ∈ notes, n.Legal sandbox → R n.before n.after) : R s t := by
  induction h with
  | nil s => exact hrefl s
  | cons hn _ ih =>
    exact htrans (hstep _ List.mem_cons_self hn)
      (ih fun m hm => hstep m (List.mem_cons_of_mem _ hm))

/-- **Invariants.**  What every legal event preserves holds at every moment of a chain. -/
theorem invariant (h : Leads sandbox s notes t) {P : Machine σ → Prop}
    (hstep : ∀ n : Note σ, n.Legal sandbox → P n.before → P n.after) (hs : P s) :
    (∀ n ∈ notes, P n.before ∧ P n.after) ∧ P t := by
  induction h with
  | nil s => exact ⟨fun n hn => absurd hn List.not_mem_nil, hs⟩
  | cons hn _ ih =>
    have hafter := hstep _ hn hs
    obtain ⟨hnotes, ht⟩ := ih hafter
    refine ⟨fun m hm => ?_, ht⟩
    rcases List.mem_cons.mp hm with rfl | hm
    · exact ⟨hs, hafter⟩
    · exact hnotes m hm

/-- Where a chain leads to is said by its last event. -/
theorem eq_reached (h : Leads sandbox s notes t) : t = reached s notes := by
  induction h with
  | nil => rfl
  | @cons n rest t _ _ ih =>
    rw [ih, reached, reached, List.getLast?_cons]
    cases rest.getLast? <;> rfl

theorem exports_eq (h : Leads sandbox s notes t) : t.exports = s.exports :=
  h.relation (R := fun s t => t.exports = s.exports) (fun _ => rfl)
    (fun hst htu => htu.trans hst) fun _ _ hn => hn.exports_eq

theorem isSome_bound_eq (h : Leads sandbox s notes t) : t.bound.isSome = s.bound.isSome :=
  h.relation (R := fun s t => t.bound.isSome = s.bound.isSome) (fun _ => rfl)
    (fun hst htu => htu.trans hst) fun _ _ hn => hn.isSome_bound_eq

theorem isReady (h : Leads sandbox s notes t) (hs : s.IsReady) : t.IsReady :=
  (h.invariant (fun _ hn => hn.isReady) hs).2

end Leads

/-! ### Stories -/

/-- The notes of a step, by the machine that it starts on. -/
abbrev Story (σ : Type) := Machine σ → List (Note σ)

namespace Story

/-- The story of a step that changes nothing. -/
def silent : Story σ := fun _ => []

/-- The story of a step that is a single event. -/
def once (deed : Deed) (c : Run σ α) : Story σ := fun s => [⟨deed, s, Run.after c s⟩]

/-- The story of a step and of what is made of its outcome. -/
def bind (h : Story σ) (c : Run σ α) (k : α → Story σ) : Story σ := fun s =>
  h s ++ match c s with
    | .ok a t => k a t
    | .error _ _ => []

/-- A story tells all of a step. -/
def Tells (sandbox : Sandbox σ) (h : Story σ) (c : Run σ α) : Prop :=
  ∀ s, s.IsReady → Leads sandbox s (h s) (Run.after c s)

namespace Tells

variable {sandbox : Sandbox σ} {h : Story σ} {c : Run σ α}

theorem once {deed : Deed} (hc : ∀ s, s.IsReady → Note.Legal sandbox ⟨deed, s, Run.after c s⟩) :
    Tells sandbox (Story.once deed c) c := fun s hs => .single (hc s hs)

theorem silent (hc : ∀ s, Run.after c s = s) : Tells sandbox silent c := by
  intro s _
  rw [hc s]
  exact .nil s

theorem of_reads (hc : Run.Reads c) : Tells sandbox Story.silent c := by
  refine silent fun s => ?_
  rcases hc s with ⟨a, h⟩ | ⟨cause, h⟩
  · exact Run.after_of_ok h
  · exact Run.after_of_error h

theorem pure (a : α) : Tells sandbox Story.silent (Pure.pure a : Run σ α) := fun s _ => .nil s

/-- **Sequences.**  The story of a sequence is put together from the stories of its parts. -/
theorem bind (hc : Tells sandbox h c) {f : α → Run σ β} {k : α → Story σ}
    (hf : ∀ a, Tells sandbox (k a) (f a)) : Tells sandbox (h.bind c k) (c >>= f) := by
  intro s hs
  rw [Story.bind, Run.after]
  have hleads := hc s hs
  cases h : c s with
  | ok a t =>
    rw [Run.bind_of_ok h]
    rw [Run.after_of_ok h] at hleads
    exact hleads.append (hf a t (hleads.isReady hs))
  | error e t =>
    rw [Run.bind_of_error h, List.append_nil]
    rw [Run.after_of_error h] at hleads
    exact hleads

/-- What is made of the outcome of a step does not matter to its story. -/
theorem bind_pure (hc : Tells sandbox h c) (g : α → β) :
    Tells sandbox h (c >>= fun a => Pure.pure (g a)) := by
  intro s hs
  rw [Run.after_bind_pure]
  exact hc s hs

end Tells

end Story

end Guest

end ExtensionHost
