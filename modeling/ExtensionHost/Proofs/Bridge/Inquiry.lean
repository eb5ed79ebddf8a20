import ExtensionHost.Proofs.Bridge.Binding
import ExtensionHost.Proofs.Guest.Origin

/-!
# What host functions raise on behalf of others

Some errors that a host function raises are not its own.  The adapter declines what it is asked for,
or the guest gives up with a message.  This file says when that is so, without looking at what the
host function makes of it: by the request that is made to the adapter and the adapter's answer, and
by the text that the guest passes.  The error that the call fails with follows.

## Main definitions

* `Bridge.Inquiry` and `HostFunction.inquiry`, what the adapter is asked for
* `HostCall.Declined`, the adapter answers with an error
* `HostCall.GivesUp`, the guest gives up with a message

## Main results

* `HostCall.Declined.failure?` and `HostCall.GivesUp.failure?`
-/

namespace ExtensionHost

open Guest

namespace Bridge

variable {σ α β : Type} {sandbox : Sandbox σ}

/-- A request to an adapter, as far as it can be declined: the error that it is answered with in a
state of the adapter, if it is. -/
abbrev Inquiry (σ : Type) := σ → Option StateError

/-- The errors that a request is answered with. -/
def Inquiry.of (request : σ → Adapter.Reply σ α) : Inquiry σ := fun w =>
  match (request w).1 with
  | .ok _ => none
  | .error e => some e

/-- No request. -/
def Inquiry.none : Inquiry σ := fun _ => Option.none

/-- What the adapter is asked for by a guest that reads a field. -/
def FieldRef.inquiry (sandbox : Sandbox σ) (kind : FieldKind) : FieldRef → Run σ (Inquiry σ)
  | .key handle ptr len => do
    let name ← readText ptr len
    return .of (sandbox.adapter.keyField ⟨handle⟩ name kind)
  | .value handle ptr len => do
    let name ← readText ptr len
    return .of (sandbox.adapter.valueField ⟨handle⟩ name kind)
  | .item handle index => return .of (sandbox.adapter.valueItem ⟨handle⟩ index kind)

end Bridge

open Bridge in
/-- What the adapter is asked for in a call of a host function.  An iteration is asked for anew
after every row, and is not told here. -/
def HostFunction.inquiry {σ : Type} (sandbox : Sandbox σ) (f : HostFunction) (args : List UInt64) :
    Run σ (Inquiry σ) := do
  let long := fun i => args.getD i 0
  let short := fun i => (args.getD i 0).toUInt32
  match f with
  | .panic | .readValues => return .none
  | .getKey =>
    let storage ← readText (short 0) (short 1)
    let entity ← readText (short 2) (short 3)
    return .of (sandbox.adapter.keyBuilder storage entity)
  | .mustExist => return .of (sandbox.adapter.mustExist ⟨long 0⟩)
  | .canExist => return .of (sandbox.adapter.canExist ⟨long 0⟩)
  | .newValue => return .of (sandbox.adapter.newValue ⟨long 0⟩)
  | .updateValue => return .of (sandbox.adapter.updateValue ⟨long 0⟩ ⟨long 1⟩)
  | .put payload =>
    let value ← decodePayload args payload
    match RowWriter.ofTag? (long 0) (short 1) with
    | none => return .none
    | some writer =>
      let name ← readText (short 2) (short 3)
      return .of (sandbox.adapter.putField writer name value)
  | .read source reader => (HostFunction.fieldOf args source).inquiry sandbox (kindOf reader)
  | .nestedField => (HostFunction.fieldOf args .value).inquiry sandbox .value
  | .nestedItem => (HostFunction.fieldOf args .item).inquiry sandbox .value
  | .valueLength => return .of (sandbox.adapter.valueLength ⟨long 0⟩)

namespace Guest.HostCall

open Bridge

variable {σ : Type}

/-- In a call of a host function, the adapter answers with an error. -/
inductive Declined (sandbox : Sandbox σ) (e : StateError) (call : HostCall σ) : Prop where
  /-- It is asked for something. -/
  | asked {w : σ} {inquiry : Inquiry σ} (hbound : call.machine.bound = some w)
    (hasks : call.function.inquiry sandbox call.args call.machine = .ok inquiry call.machine)
    (hanswer : inquiry w = some e)
  /-- It ends an iteration, and the guest has failed on none of the rows. -/
  | iterated {w : σ} {exports : Exports} {t : Machine σ} (hfunction : call.function = .readValues)
    (hbound : call.machine.bound = some w) (hexports : call.machine.exports = some exports)
    (hends : deliverRows (sandbox.callNested call.depth) exports.onReadValue none
      (sandbox.adapter.readValues ⟨call.args.getD 0 0⟩ w) call.machine = .ok (none, .error e) t)

/-- In a call of a host function, the guest gives up with a message that can be read. -/
def GivesUp (message : String) (call : HostCall σ) : Prop :=
  call.function = .panic ∧
    readText (call.args.getD 0 0).toUInt32 (call.args.getD 1 0).toUInt32 call.machine
      = .ok message call.machine

end Guest.HostCall

namespace Bridge

variable {σ α β : Type} {sandbox : Sandbox σ}

/-- If the adapter declines what is asked for, a step fails with the adapter's error. -/
def Declines (q : Run σ (Inquiry σ)) (c : Run σ α) : Prop :=
  ∀ s w inquiry e, s.bound = some w → q s = .ok inquiry s → inquiry w = some e →
    Run.failure? c s = some (.host (.state e))

namespace Declines

variable {q : Run σ (Inquiry σ)} {c : Run σ α}

theorem none (c : Run σ α) : Declines (pure .none) c := by
  intro s w inquiry e _ hq he
  cases hq
  cases he

theorem ask (sandbox : Sandbox σ) (request : σ → Adapter.Reply σ α) :
    Declines (pure (.of request)) (ask sandbox request) := by
  intro s w inquiry e hbound hq he
  cases hq
  rw [Inquiry.of] at he
  cases hreply : (request w).1 with
  | ok a =>
    rw [hreply] at he
    cases he
  | error e' =>
    rw [hreply] at he
    cases he
    rw [Run.failure?, Bridge.ask, Run.bind_of_ok (boundState_of_eq_some hbound)]
    show Run.failure? (ofReply (request w).1) { s with bound := some (request w).2 } = _
    rw [hreply]
    rfl

/-- What is made of the answer does not matter. -/
theorem bind (h : Declines q c) (f : α → Run σ β) : Declines q (c >>= f) := by
  intro s w inquiry e hbound hq he
  have hfails := h s w inquiry e hbound hq he
  rw [Run.failure?] at hfails ⊢
  cases hc : c s with
  | ok a t =>
    rw [hc] at hfails
    cases hfails
  | error f t =>
    rw [hc] at hfails
    rw [Run.bind_of_error hc]
    exact hfails

/-- Before the adapter is asked, arguments are checked. -/
theorem after_checks {d : Run σ β} (hd : Run.Checks d) {q : β → Run σ (Inquiry σ)}
    {c : β → Run σ α} (h : ∀ b, Declines (q b) (c b)) : Declines (d >>= q) (d >>= c) := by
  intro s w inquiry e hbound hq he
  rw [Run.failure?]
  rcases hd s with ⟨b, hb⟩ | ⟨error, herror⟩
  · rw [Run.bind_of_ok hb] at hq ⊢
    exact h b s w inquiry e hbound hq he
  · rw [Run.bind_of_error herror] at hq
    cases hq

theorem after_boundState (h : Declines q c) :
    Declines q (boundState sandbox >>= fun _ => c) := by
  intro s w inquiry e hbound hq he
  rw [Run.failure?, Run.bind_of_ok (boundState_of_eq_some hbound)]
  exact h s w inquiry e hbound hq he

end Declines

theorem declines_readField (sandbox : Sandbox σ) (field : FieldRef) (kind : FieldKind) :
    Declines (field.inquiry sandbox kind) (readField sandbox field kind) := by
  refine Declines.after_boundState ?_
  cases field with
  | key key ptr len => exact .after_checks (checks_readText ptr len) fun _ => .ask sandbox _
  | value value ptr len => exact .after_checks (checks_readText ptr len) fun _ => .ask sandbox _
  | item value index => exact .ask sandbox _

end Bridge

namespace HostFunction

open Bridge

variable {σ : Type}

/-- If the adapter declines what a host function asks for, the call fails with the adapter's
error. -/
theorem declines_call (sandbox : Sandbox σ) (enter : Enter σ) (f : HostFunction)
    (args : List UInt64) : Declines (f.inquiry sandbox args) (f.call sandbox enter args) := by
  cases f with
  | panic | readValues => exact .none _
  | getKey =>
    exact .after_checks (checks_readText _ _) fun _ => .after_checks (checks_readText _ _) fun _ =>
      (Declines.ask sandbox _).bind _
  | mustExist | canExist | newValue | updateValue | valueLength =>
    exact (Declines.ask sandbox _).bind _
  | put payload =>
    refine .after_checks (checks_decodePayload args payload) fun value => ?_
    refine Declines.bind (?_ : Declines _ (putField sandbox _ _ _ _ value)) _
    dsimp only [putField]
    cases RowWriter.ofTag? (args.getD 0 0) (args.getD 1 0).toUInt32 with
    | none => exact .none _
    | some writer => exact .after_checks (checks_readText _ _) fun _ => .ask sandbox _
  | read source reader =>
    rw [call_read]
    exact (declines_readField sandbox _ _).bind _
  | nestedField => exact (declines_readField sandbox (fieldOf args .value) .value).bind _
  | nestedItem => exact (declines_readField sandbox (fieldOf args .item) .value).bind _

end HostFunction

namespace Guest.HostCall

open Bridge

variable {σ : Type} {sandbox : Sandbox σ} {call : HostCall σ}

/-- What the adapter declines fails with the adapter's error. -/
theorem Declined.failure? {e : StateError} (h : call.Declined sandbox e) :
    call.failure? sandbox = some (.host (.state e)) := by
  obtain ⟨depth, f, args, s⟩ := call
  cases h with
  | asked hbound hasks hanswer =>
    exact HostFunction.declines_call sandbox _ f args s _ _ e hbound hasks hanswer
  | @iterated w exports t hfunction hbound hexports hends =>
    dsimp only at hfunction hbound hexports hends
    subst hfunction
    have hfails : iterateRows sandbox (sandbox.callNested depth) (args.getD 0 0) s
        = .error (.host (.state e)) t := by
      rw [iterateRows, Run.bind_of_ok (boundState_of_eq_some hbound),
        Run.bind_of_ok (guestExports_of_eq_some hexports), Run.bind_of_ok hends]
      rfl
    show Run.failure? (iterateRows sandbox (sandbox.callNested depth) (args.getD 0 0) >>= fun _ =>
      pure []) s = _
    rw [Run.failure?, Run.bind_of_error hfails]

/-- A guest that gives up fails with its message. -/
theorem GivesUp.failure? {message : String} (h : call.GivesUp message) :
    call.failure? sandbox = some (.host (.guestPanic message)) := by
  obtain ⟨depth, f, args, s⟩ := call
  obtain ⟨rfl, htext⟩ := h
  show Run.failure? (readText _ _ >>= fun message => fail (.guestPanic message)) s = _
  rw [Run.failure?, Run.bind_of_ok htext]
  rfl

end Guest.HostCall

end ExtensionHost
