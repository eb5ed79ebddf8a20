import ExtensionHost.Proofs.Guest.Story
import ExtensionHost.Proofs.State.Calls

/-!
# Host functions that do not enter the guest

All host functions but those that stage a payload or iterate over rows do no more than read the
guest's memory and ask the adapter.  What holds of these two steps holds of the whole group:
`Bridge.Admits` names the few things that a contract is asked for, and everything else that is said
about the group goes through it.

`Serves` is the first such contract: the guest stays as it is, and a failure during an invocation is
one of the errors that host functions raise.

## Main definitions

* `ExtensionError.isRaised`, the errors that host functions raise
* `Bridge.Admits`, contracts that hold of what host functions are made of
* `Bridge.Serves`

## Main results

* `Bridge.Admits.call`, such a contract holds of every host function of the group
* `HostFunction.serves_call`
-/

namespace ExtensionHost

open Guest

/-- Whether an error is one that host functions raise while they serve an invocation. -/
def ExtensionError.isRaised : ExtensionError → Bool
  | .trap _ | .guestPanic _ | .unableToReadMemory _ _ | .unableToWriteMemory _ _
  | .invalidRowWriter _ | .state _ => true
  | _ => false

/-- Whether a host function may enter the guest. -/
def HostFunction.entersGuest : HostFunction → Bool
  | .readValues | .read _ _ => true
  | _ => false

namespace Bridge

variable {σ α : Type}

/-! ### Contracts -/

/-- A contract of what host functions are made of that do not enter the guest: to raise an error, to
look at the memory, and to ask the adapter. -/
structure Admits (sandbox : Sandbox σ) (R : Contract σ) : Prop where
  /-- One step may follow another. -/
  composes : R.Composes
  /-- An error is raised. -/
  fail : ∀ {α : Type} {e : ExtensionError}, e.isRaised = true → Run.Meets R (fail e : Run σ α)
  /-- The memory is looked at. -/
  guestMemory : Run.Meets R (guestMemory : Run σ Memory)
  /-- An adapter is required. -/
  boundState : Run.Meets R (boundState sandbox)
  /-- The adapter is asked for something that is one of its calls. -/
  ask : ∀ {α : Type} {request : σ → Adapter.Reply σ α},
    (∀ w, sandbox.adapter.Moves w (request w).2) → Run.Meets R (ask sandbox request)

namespace Admits

variable {sandbox : Sandbox σ} {R : Contract σ} (h : Admits sandbox R)

include h

theorem pure (a : α) : Run.Meets R (Pure.pure a : Run σ α) := .pure h.composes a

theorem ofReply (r : Except StateError α) : Run.Meets R (ofReply r : Run σ α) := by
  cases r with
  | ok a => exact h.pure a
  | error e => exact h.fail rfl

theorem readBytes (ptr len : UInt32) : Run.Meets R (readBytes ptr len : Run σ ByteArray) := by
  refine h.guestMemory.bind h.composes fun memory => ?_
  split
  · exact h.pure _
  · exact h.fail rfl

theorem readText (ptr len : UInt32) : Run.Meets R (readText ptr len : Run σ String) := by
  refine (h.readBytes ptr len).bind h.composes fun bytes => ?_
  split
  · exact h.pure _
  · exact h.fail rfl

theorem readField (field : FieldRef) (kind : FieldKind) :
    Run.Meets R (readField sandbox field kind) := by
  refine h.boundState.bind h.composes fun _ => ?_
  cases field with
  | key key ptr len =>
    exact (h.readText ptr len).bind h.composes fun name =>
      h.ask fun w => .keyField ⟨key⟩ name kind w
  | value value ptr len =>
    exact (h.readText ptr len).bind h.composes fun name =>
      h.ask fun w => .valueField ⟨value⟩ name kind w
  | item value index => exact h.ask fun w => .valueItem ⟨value⟩ index kind w

theorem decodePayload (args : List UInt64) (payload : Payload) :
    Run.Meets R (decodePayload args payload : Run σ FieldValue) := by
  cases payload with
  | string => exact (h.readText _ _).bind h.composes fun _ => h.pure _
  | bytes => exact (h.readBytes _ _).bind h.composes fun _ => h.pure _
  | qname =>
    exact (h.readText _ _).bind h.composes fun _ =>
      (h.readText _ _).bind h.composes fun _ => h.pure _
  | _ => exact h.pure _

theorem putField (id : UInt64) (tag ptr len : UInt32) (value : FieldValue) :
    Run.Meets R (putField sandbox id tag ptr len value) := by
  rw [Bridge.putField]
  split
  · exact h.fail rfl
  · rename_i writer _
    exact (h.readText ptr len).bind h.composes fun name =>
      h.ask fun w => .putField writer name value w

/-- **The contract holds of the whole group.** -/
theorem call (enter : Enter σ) {f : HostFunction} (hf : f.entersGuest = false)
    (args : List UInt64) : Run.Meets R (f.call sandbox enter args) := by
  cases f with
  | readValues => cases hf
  | read source reader => cases hf
  | panic => exact (h.readText _ _).bind h.composes fun _ => h.fail rfl
  | getKey =>
    exact (h.readText _ _).bind h.composes fun storage =>
      (h.readText _ _).bind h.composes fun entity =>
        (h.ask fun w => .keyBuilder storage entity w).bind h.composes fun _ => h.pure _
  | mustExist => exact (h.ask fun w => .mustExist _ w).bind h.composes fun _ => h.pure _
  | canExist =>
    refine (h.ask fun w => .canExist _ w).bind h.composes fun found => ?_
    cases found <;> exact h.pure _
  | newValue => exact (h.ask fun w => .newValue _ w).bind h.composes fun _ => h.pure _
  | updateValue => exact (h.ask fun w => .updateValue _ _ w).bind h.composes fun _ => h.pure _
  | put payload =>
    exact (h.decodePayload args payload).bind h.composes fun value =>
      (h.putField _ _ _ _ value).bind h.composes fun _ => h.pure _
  | nestedField =>
    exact (h.readField _ _).bind h.composes fun value =>
      (h.ofReply value.toValue?).bind h.composes fun _ => h.pure _
  | nestedItem =>
    exact (h.readField _ _).bind h.composes fun value =>
      (h.ofReply value.toValue?).bind h.composes fun _ => h.pure _
  | valueLength => exact (h.ask fun w => .valueLength _ w).bind h.composes fun _ => h.pure _

end Admits

/-! ### Serving -/

/-- The contract of serving a call without entering the guest.  During an invocation, a failure is
an error that host functions raise. -/
structure Serves (s : Machine σ) (o : Option Failure) (t : Machine σ) : Prop where
  /-- Only the adapter's state changes. -/
  asks : Asks s o t
  /-- The failures. -/
  raises : s.exports.isSome = true → s.bound.isSome = true → ∀ f, o = some f →
    ∃ e, f = .host e ∧ e.isRaised = true

theorem serves_refl (s : Machine σ) : Serves s none s :=
  ⟨⟨rfl, rfl⟩, fun _ _ _ hf => nomatch hf⟩

theorem serves_composes : Contract.Composes (σ := σ) Serves where
  refl := serves_refl
  trans := by
    intro s t u o hst htu
    obtain ⟨⟨ht, hbound⟩, _⟩ := hst
    obtain ⟨⟨hu, hbound'⟩, hraises⟩ := htu
    have hexports : t.exports = s.exports := by rw [ht]
    rw [ht] at hu
    exact ⟨⟨hu, hbound'.trans hbound⟩, fun he hb => hraises (hexports ▸ he) (hbound ▸ hb)⟩

theorem serves_fail {e : ExtensionError} (he : e.isRaised = true) :
    Run.Meets Serves (fail e : Run σ α) := fun _ =>
  ⟨⟨rfl, rfl⟩, fun _ _ _ hf => ⟨e, (Option.some.inj hf).symm, he⟩⟩

theorem serves_ofReply (r : Except StateError α) : Run.Meets Serves (ofReply r : Run σ α) := by
  cases r with
  | ok a => exact Run.Meets.pure serves_composes a
  | error e => exact serves_fail rfl

theorem guestMemory_of_isSome {s : Machine σ} (h : s.exports.isSome = true) :
    guestMemory s = .ok s.guest.memory s := by
  rw [guestMemory, Run.get_bind, if_pos h]
  rfl

theorem guestExports_of_eq_some {s : Machine σ} {exports : Exports}
    (h : s.exports = some exports) : guestExports s = .ok exports s := by
  rw [guestExports, Run.get_bind, h]
  rfl

theorem serves_guestMemory : Run.Meets Serves (guestMemory : Run σ Memory) := by
  intro s
  by_cases h : s.exports.isSome = true
  · rw [Run.failure?, Run.after, guestMemory_of_isSome h]
    exact serves_refl s
  · rw [Run.failure?, Run.after, guestMemory, Run.get_bind, if_neg h]
    exact ⟨⟨rfl, rfl⟩, fun he => absurd he h⟩

theorem boundState_of_eq_some {sandbox : Sandbox σ} {s : Machine σ} {state : σ}
    (h : s.bound = some state) : boundState sandbox s = .ok state s := by
  rw [boundState, Run.get_bind, h]
  rfl

theorem boundState_of_eq_none {sandbox : Sandbox σ} {s : Machine σ} (h : s.bound = none) :
    boundState sandbox s
      = .error (.host (.internal s!"no state bound to {sandbox.package}")) s := by
  rw [boundState, Run.get_bind, h]
  rfl

theorem serves_boundState (sandbox : Sandbox σ) : Run.Meets Serves (boundState sandbox) := by
  intro s
  cases h : s.bound with
  | some state =>
    rw [Run.failure?, Run.after, boundState_of_eq_some h]
    exact serves_refl s
  | none =>
    rw [Run.failure?, Run.after, boundState_of_eq_none h]
    exact ⟨⟨rfl, rfl⟩, fun _ hb => by rw [h] at hb; cases hb⟩

theorem serves_ask (sandbox : Sandbox σ) (request : σ → Adapter.Reply σ α) :
    Run.Meets Serves (ask sandbox request) := by
  intro s
  cases h : s.bound with
  | none =>
    rw [Run.failure?, Run.after, ask, Run.bind_of_error (boundState_of_eq_none h)]
    exact ⟨⟨rfl, rfl⟩, fun _ hb => by rw [h] at hb; cases hb⟩
  | some state =>
    have hreply := serves_ofReply (request state).1 { s with bound := some (request state).2 }
    rw [Run.failure?, Run.after, ask, Run.bind_of_ok (boundState_of_eq_some h)]
    refine serves_composes.trans (t := { s with bound := some (request state).2 }) ?_ hreply
    refine ⟨⟨rfl, by rw [h]; rfl⟩, fun _ _ _ hf => ?_⟩
    cases hf

theorem admits_serves (sandbox : Sandbox σ) : Admits sandbox Serves where
  composes := serves_composes
  fail := serves_fail
  guestMemory := serves_guestMemory
  boundState := serves_boundState sandbox
  ask _ := serves_ask sandbox _

theorem serves_readField (sandbox : Sandbox σ) (field : FieldRef) (kind : FieldKind) :
    Run.Meets Serves (readField sandbox field kind) :=
  (admits_serves sandbox).readField field kind

/-- Without an adapter no field can be read. -/
theorem readField_of_eq_none {sandbox : Sandbox σ} {s : Machine σ} (field : FieldRef)
    (kind : FieldKind) (h : s.bound = none) :
    readField sandbox field kind s
      = .error (.host (.internal s!"no state bound to {sandbox.package}")) s := by
  show (boundState sandbox >>= _) s = _
  rw [Run.bind_of_error (boundState_of_eq_none h)]

end Bridge

namespace HostFunction

variable {σ : Type}

/-- Host functions that do not enter the guest serve their calls. -/
theorem serves_call (sandbox : Sandbox σ) (enter : Enter σ) {f : HostFunction}
    (hf : f.entersGuest = false) (args : List UInt64) :
    Run.Meets Bridge.Serves (f.call sandbox enter args) :=
  (Bridge.admits_serves sandbox).call enter hf args

end HostFunction

end ExtensionHost
