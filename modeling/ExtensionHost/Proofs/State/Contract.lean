import ExtensionHost.Proofs.State.Calls
import ExtensionHost.State.Tables

/-!
# The contract of iterations

An adapter that learns that a row could not be received is to stop the iteration and to hand the
error on.  `Rows.Stops` says so of an iteration in progress.  As long as rows are received, an
iteration may well have a list of them to go through, which `Rows.Lists` says.

**At which states.**  What an iteration does after a row depends on the state that is left by then,
and an adapter may keep the contract at some states only.  So both speak of the states that calls of
the adapter lead to, and of no others.

The adapter in memory is an example.  It keeps the contract unless it is told to swallow failures,
and no call of it changes whether it is; its rows are those that have got handles by the time the
iteration begins.

## Main definitions

* `Rows.Stops` and `Rows.Lists`

## Main results

* `Tables.stops_readValues`
-/

namespace ExtensionHost

/-- An iteration keeps the contract at the states of a set: when it learns that a row could not be
received, it offers no further row and hands the error on. -/
inductive Rows.Stops {σ : Type} (P : σ → Prop) : Rows σ → Prop where
  /-- The iteration is over. -/
  | done (outcome : Except StateError Unit) (state : σ) : Stops P (.done outcome state)
  /-- A row is offered. -/
  | row {key : KeyHandle} {value : ValueHandle} {state : σ}
    {resume : Except StateError Unit → σ → Rows σ}
    (hstop : ∀ e w, P w → ∃ w', resume (.error e) w = .done (.error e) w')
    (hgo : ∀ w, P w → Stops P (resume (.ok ()) w)) : Stops P (.row key value state resume)

/-- An iteration offers the rows of a list, as long as they are received at the states of a set. -/
inductive Rows.Lists {σ : Type} (P : σ → Prop) : Rows σ → List (KeyHandle × ValueHandle) → Prop where
  /-- The iteration is over. -/
  | done (outcome : Except StateError Unit) (state : σ) : Lists P (.done outcome state) []
  /-- A row is offered. -/
  | row {key : KeyHandle} {value : ValueHandle} {state : σ}
    {resume : Except StateError Unit → σ → Rows σ} {rest : List (KeyHandle × ValueHandle)}
    (hgo : ∀ w, P w → Lists P (resume (.ok ()) w) rest) :
    Lists P (.row key value state resume) ((key, value) :: rest)

namespace Tables

/-! ### Failures to be swallowed -/

section Requests

variable {α : Type} {t : Tables}

@[simp] theorem swallow_note (t : Tables) (event : Event) :
    (t.note event).swallow = t.swallow := rfl

theorem swallow_serve {request : Request} {event : Except StateError α → Event}
    {body : Tables → Adapter.Reply Tables α} (hbody : (body t).2.swallow = t.swallow) :
    (serve request event body t).2.swallow = t.swallow := by
  rw [serve]
  cases t.refusal? request with
  | some error => rfl
  | none => exact hbody

theorem swallow_withBuilder {key : KeyBuilderHandle} {body : KeyBuilder → Adapter.Reply Tables α}
    (hbody : ∀ builder, (body builder).2.swallow = t.swallow) :
    (withBuilder key t body).2.swallow = t.swallow := by
  rw [withBuilder]
  split
  · exact hbody _
  · rfl

theorem swallow_mintRows (records : List Record) (t : Tables) :
    (mintRows records t).2.swallow = t.swallow := by
  induction records generalizing t with
  | nil => rfl
  | cons record rest ih => exact ih _

end Requests

/-- An iteration over tables: rows are left to be offered, or it is over. -/
inductive IsIteration : Rows Tables → Prop where
  | offer (handles : List (KeyHandle × ValueHandle)) (t : Tables) : IsIteration (offer handles t)
  | done (outcome : Except StateError Unit) (t : Tables) : IsIteration (.done outcome t)

theorem state_offer (handles : List (KeyHandle × ValueHandle)) (t : Tables) :
    (offer handles t).state = t := by
  cases handles <;> rfl

theorem isIteration_readValues (key : KeyBuilderHandle) (t : Tables) :
    IsIteration (readValues key t) ∧ (readValues key t).state.swallow = t.swallow := by
  rw [readValues]
  generalize hreply : serve .readValues (.readValues key) _ t = reply
  have hserve : reply.2.swallow = t.swallow := by
    rw [← hreply]
    exact swallow_serve (swallow_withBuilder fun _ => swallow_mintRows _ t)
  obtain ⟨outcome, next⟩ := reply
  cases outcome with
  | ok handles => exact ⟨.offer handles next, by rw [state_offer]; exact hserve⟩
  | error e => exact ⟨.done _ next, hserve⟩

theorem IsIteration.resume {key : KeyHandle} {value : ValueHandle} {state : Tables}
    {resume : Except StateError Unit → Tables → Rows Tables}
    (h : IsIteration (.row key value state resume)) (outcome : Except StateError Unit)
    (t : Tables) :
    IsIteration (resume outcome t) ∧ (resume outcome t).state.swallow = t.swallow := by
  generalize hrows : Rows.row key value state resume = rows at h
  cases h with
  | done => cases hrows
  | offer handles _ =>
    cases handles with
    | nil => cases hrows
    | cons handle rest =>
      cases hrows
      cases outcome with
      | ok u => exact ⟨.offer rest t, by rw [state_offer]⟩
      | error e =>
        dsimp only
        split
        · exact ⟨.offer rest _, by rw [state_offer]; rfl⟩
        · exact ⟨.done _ _, rfl⟩

theorem isIteration_of_offers {rows : Rows Tables} (h : adapter.Offers rows) :
    IsIteration rows := by
  induction h with
  | begun key w => exact (isIteration_readValues key w).1
  | resumed _ outcome w ih => exact (ih.resume outcome w).1

/-- No call changes whether failures are to be swallowed. -/
theorem swallow_of_moves {t t' : Tables} (h : adapter.Moves t t') : t'.swallow = t.swallow := by
  cases h with
  | keyBuilder => exact swallow_serve rfl
  | mustExist =>
    refine swallow_serve (swallow_withBuilder fun builder => ?_)
    split <;> rfl
  | canExist =>
    refine swallow_serve (swallow_withBuilder fun builder => ?_)
    split <;> rfl
  | readValues key => exact (isIteration_readValues key t).2
  | resume h outcome => exact ((isIteration_of_offers h).resume outcome t).2
  | newValue => exact swallow_serve (swallow_withBuilder fun _ => rfl)
  | updateValue =>
    refine swallow_serve (swallow_withBuilder fun builder => ?_)
    split <;> rfl
  | putField writer =>
    refine swallow_serve ?_
    cases writer <;> (dsimp only; split <;> rfl)
  | valueItem =>
    refine swallow_serve ?_
    split
    · rfl
    · split <;> rfl
  | valueLength =>
    refine swallow_serve ?_
    split <;> rfl
  | _ => exact swallow_serve rfl

theorem swallow_of_reaches {t t' : Tables} (h : adapter.Reaches t t') : t'.swallow = t.swallow := by
  induction h with
  | refl => rfl
  | tail _ hmoves ih => exact (swallow_of_moves hmoves).trans ih

theorem IsIteration.stops {P : Tables → Prop} (hP : ∀ t, P t → t.swallow = false)
    {rows : Rows Tables} (h : IsIteration rows) : rows.Stops P := by
  cases h with
  | done outcome t => exact .done outcome t
  | offer handles t =>
    induction handles generalizing t with
    | nil => exact .done _ t
    | cons handle rest ih =>
      refine .row (fun e w hw => ⟨w.note (.callback handle.1 handle.2 e), ?_⟩) fun w _ => ih w
      exact if_neg (by rw [swallow_note, hP w hw]; exact Bool.false_ne_true)

theorem lists_offer (P : Tables → Prop) (handles : List (KeyHandle × ValueHandle)) (t : Tables) :
    (offer handles t).Lists P handles := by
  induction handles generalizing t with
  | nil => exact .done _ t
  | cons handle rest ih => exact .row fun w _ => ih w

/-- **The adapter in memory keeps the contract**, unless it is told to swallow failures. -/
theorem stops_readValues (key : KeyBuilderHandle) {t : Tables} (ht : t.swallow = false) :
    (adapter.readValues key t).Stops (adapter.Reaches t) :=
  (isIteration_readValues key t).1.stops fun _ hw => (swallow_of_reaches hw).trans ht

end Tables

end ExtensionHost
