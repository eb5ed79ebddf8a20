import ExtensionHost.Proofs.Bridge.Story

/-!
# What host functions do to the adapter

A host function works on behalf of the adapter that is bound to the run.  It makes calls of this
adapter, and puts back the state that they lead to (`Bridge.Turns`).  Where no adapter is bound,
every host function fails, and leaves the machine as it is.

Most of what a host function does before it asks the adapter is a check of its arguments, which
looks at the machine and may fail.  `Run.Checks` says so once for all of these steps.

## Main definitions

* `Run.Checks`
* `Bridge.Turns`, the contract of steps on behalf of an adapter
* `Bridge.FailsUnbound`

## Main results

* `HostFunction.turns_call`
* `HostFunction.failsUnbound_call`
-/

namespace ExtensionHost

open Guest

namespace Guest.Run

variable {σ α β : Type}

/-- A step that looks at the machine without changing it, and at worst fails with an error of the
host. -/
def Checks (c : Run σ α) : Prop :=
  ∀ s, (∃ a, c s = .ok a s) ∨ ∃ e, c s = .error (.host e) s

namespace Checks

theorem pure (a : α) : Checks (Pure.pure a : Run σ α) := fun _ => Or.inl ⟨a, rfl⟩

theorem fail (e : ExtensionError) : Checks (Bridge.fail e : Run σ α) := fun _ => Or.inr ⟨e, rfl⟩

theorem bind {c : Run σ α} {f : α → Run σ β} (hc : Checks c) (hf : ∀ a, Checks (f a)) :
    Checks (c >>= f) := by
  intro s
  rcases hc s with ⟨a, h⟩ | ⟨e, h⟩
  · rw [bind_of_ok h]
    exact hf a s
  · exact Or.inr ⟨e, bind_of_error h⟩

end Checks

end Guest.Run

namespace Bridge

variable {σ α β : Type}

/-! ### Checks -/

theorem checks_guestMemory : Run.Checks (guestMemory : Run σ Memory) := by
  intro s
  by_cases h : s.exports.isSome = true
  · exact Or.inl ⟨_, guestMemory_of_isSome h⟩
  · rw [guestMemory, Run.get_bind, if_neg h]
    exact Or.inr ⟨_, rfl⟩

theorem checks_boundState (sandbox : Sandbox σ) : Run.Checks (boundState sandbox) := by
  intro s
  cases h : s.bound with
  | some state => exact Or.inl ⟨_, boundState_of_eq_some h⟩
  | none => exact Or.inr ⟨_, boundState_of_eq_none h⟩

theorem checks_readBytes (ptr len : UInt32) : Run.Checks (readBytes ptr len : Run σ ByteArray) := by
  refine checks_guestMemory.bind fun memory => ?_
  split
  · exact .pure _
  · exact .fail _

theorem checks_readText (ptr len : UInt32) : Run.Checks (readText ptr len : Run σ String) := by
  refine (checks_readBytes ptr len).bind fun bytes => ?_
  split
  · exact .pure _
  · exact .fail _

/-- Bytes are read where they lie within memory. -/
theorem readBytes_eq_ok_iff {s : Machine σ} (hs : s.exports.isSome = true) {ptr len : UInt32}
    {bytes : ByteArray} :
    readBytes ptr len s = .ok bytes s ↔
      ptr.toNat + len.toNat ≤ s.guest.memory.size ∧
        s.guest.memory.read ptr.toNat len.toNat = bytes := by
  rw [readBytes, Run.bind_of_ok (guestMemory_of_isSome hs), Slice.rangeIn?]
  by_cases hfit : ptr.toNat + len.toNat ≤ s.guest.memory.size
  · rw [if_pos hfit]
    simp only [Nat.add_sub_cancel_left]
    exact ⟨fun h => ⟨hfit, (EStateM.Result.ok.inj h).1⟩, fun h => h.2 ▸ rfl⟩
  · rw [if_neg hfit]
    refine ⟨fun h => ?_, fun h => absurd h.1 hfit⟩
    cases h

/-- A text is read where there are bytes of a text. -/
theorem readText_eq_ok_iff {s : Machine σ} {ptr len : UInt32} {text : String} :
    readText ptr len s = .ok text s ↔
      ∃ bytes, readBytes ptr len s = .ok bytes s ∧ Utf8.decode bytes = .ok text := by
  rcases checks_readBytes ptr len s with ⟨bytes, hbytes⟩ | ⟨e, herror⟩
  · rw [readText, Run.bind_of_ok hbytes, hbytes]
    cases hdecode : Utf8.decode bytes with
    | ok decoded =>
      constructor
      · intro h
        cases h
        exact ⟨bytes, rfl, hdecode⟩
      · rintro ⟨_, h, htext⟩
        cases h
        rw [hdecode] at htext
        cases htext
        rfl
    | error fault =>
      constructor
      · intro h
        cases h
      · rintro ⟨_, h, htext⟩
        cases h
        rw [hdecode] at htext
        cases htext
  · rw [readText, Run.bind_of_error herror, herror]
    constructor
    · intro h
      cases h
    · rintro ⟨_, h, -⟩
      cases h

theorem checks_decodePayload (args : List UInt64) (payload : Payload) :
    Run.Checks (decodePayload args payload : Run σ FieldValue) := by
  cases payload with
  | string => exact (checks_readText _ _).bind fun _ => .pure _
  | bytes => exact (checks_readBytes _ _).bind fun _ => .pure _
  | qname => exact (checks_readText _ _).bind fun _ => (checks_readText _ _).bind fun _ => .pure _
  | _ => exact .pure _

/-! ### With an adapter -/

/-- The contract of steps on behalf of an adapter: if one is bound, its state moves by calls of this
adapter. -/
def Turns (a : Adapter σ) : Contract σ := fun s _ t =>
  ∀ w, s.bound = some w → ∃ w', t.bound = some w' ∧ a.Reaches w w'

section Turns

variable {a : Adapter σ} {sandbox : Sandbox σ}

theorem turns_of_bound_eq {s t : Machine σ} (h : t.bound = s.bound) (o : Option Failure) :
    Turns a s o t := fun w hw => ⟨w, h.trans hw, .refl⟩

theorem turns_composes : Contract.Composes (Turns a) where
  refl s := turns_of_bound_eq rfl none
  trans hst htu := by
    intro w hw
    obtain ⟨w', hw', hreaches⟩ := hst w hw
    obtain ⟨w'', hw'', hreaches'⟩ := htu w' hw'
    exact ⟨w'', hw'', hreaches.trans hreaches'⟩

theorem turns_of_checks {c : Run σ α} (hc : Run.Checks c) : Run.Meets (Turns a) c := by
  intro s
  have hafter : Run.after c s = s := by
    rcases hc s with ⟨x, h⟩ | ⟨e, h⟩
    · exact Run.after_of_ok h
    · exact Run.after_of_error h
  exact turns_of_bound_eq (by rw [hafter]) _

/-- A request is one call. -/
theorem turns_ask {request : σ → Adapter.Reply σ α}
    (hrequest : ∀ w, sandbox.adapter.Moves w (request w).2) :
    Run.Meets (Turns sandbox.adapter) (ask sandbox request) := by
  intro s w hw
  refine ⟨(request w).2, ?_, .single (hrequest w)⟩
  rw [Run.after, ask, Run.bind_of_ok (boundState_of_eq_some hw)]
  cases hreply : request w with
  | mk reply next => cases reply <;> rfl

theorem admits_turns (sandbox : Sandbox σ) : Admits sandbox (Turns sandbox.adapter) where
  composes := turns_composes
  fail _ := turns_of_checks (.fail _)
  guestMemory := turns_of_checks checks_guestMemory
  boundState := turns_of_checks (checks_boundState sandbox)
  ask := turns_ask

theorem turns_readField (sandbox : Sandbox σ) (field : FieldRef) (kind : FieldKind) :
    Run.Meets (Turns sandbox.adapter) (readField sandbox field kind) :=
  (admits_turns sandbox).readField field kind

end Turns

/-! ### Without an adapter -/

/-- Where no adapter is bound, a step fails with an error of the host and changes nothing. -/
def FailsUnbound (c : Run σ α) : Prop :=
  ∀ s, s.bound = none → ∃ e, c s = .error (.host e) s

section FailsUnbound

theorem FailsUnbound.bind {c : Run σ α} (hc : FailsUnbound c) (f : α → Run σ β) :
    FailsUnbound (c >>= f) := by
  intro s hs
  obtain ⟨e, h⟩ := hc s hs
  exact ⟨e, Run.bind_of_error h⟩

theorem FailsUnbound.after_checks {c : Run σ α} (hc : Run.Checks c) {f : α → Run σ β}
    (hf : ∀ a, FailsUnbound (f a)) : FailsUnbound (c >>= f) := by
  intro s hs
  rcases hc s with ⟨a, h⟩ | ⟨e, h⟩
  · rw [Run.bind_of_ok h]
    exact hf a s hs
  · exact ⟨e, Run.bind_of_error h⟩

theorem failsUnbound_fail (e : ExtensionError) : FailsUnbound (fail e : Run σ α) :=
  fun _ _ => ⟨e, rfl⟩

theorem failsUnbound_boundState (sandbox : Sandbox σ) : FailsUnbound (boundState sandbox) :=
  fun _ hs => ⟨_, boundState_of_eq_none hs⟩

theorem failsUnbound_ask (sandbox : Sandbox σ) (request : σ → Adapter.Reply σ α) :
    FailsUnbound (ask sandbox request) :=
  (failsUnbound_boundState sandbox).bind _

theorem failsUnbound_readField (sandbox : Sandbox σ) (field : FieldRef) (kind : FieldKind) :
    FailsUnbound (readField sandbox field kind) :=
  (failsUnbound_boundState sandbox).bind _

theorem failsUnbound_putField (sandbox : Sandbox σ) (id : UInt64) (tag ptr len : UInt32)
    (value : FieldValue) : FailsUnbound (putField sandbox id tag ptr len value) := by
  rw [putField]
  split
  · exact failsUnbound_fail _
  · exact .after_checks (checks_readText ptr len) fun _ => failsUnbound_ask sandbox _

end FailsUnbound

end Bridge

namespace HostFunction

open Bridge

variable {σ : Type}

/-- **Host functions turn to the bound adapter only.**  This is about those that do not enter the
guest; the others are told in `HostFunction.story`. -/
theorem turns_call (sandbox : Sandbox σ) (enter : Enter σ) {f : HostFunction}
    (hf : f.entersGuest = false) (args : List UInt64) :
    Run.Meets (Turns sandbox.adapter) (f.call sandbox enter args) :=
  (admits_turns sandbox).call enter hf args

/-- **Without an adapter every host function fails**, those that enter the guest included. -/
theorem failsUnbound_call (sandbox : Sandbox σ) (enter : Enter σ) (f : HostFunction)
    (args : List UInt64) : FailsUnbound (f.call sandbox enter args) := by
  cases f with
  | panic => exact .after_checks (checks_readText _ _) fun _ => failsUnbound_fail _
  | getKey =>
    exact .after_checks (checks_readText _ _) fun _ => .after_checks (checks_readText _ _) fun _ =>
      (failsUnbound_ask sandbox _).bind _
  | readValues => exact ((failsUnbound_boundState sandbox).bind _).bind _
  | put payload =>
    exact .after_checks (checks_decodePayload args payload) fun _ =>
      (failsUnbound_putField sandbox _ _ _ _ _).bind _
  | read source reader =>
    rw [call_read]
    exact (failsUnbound_readField sandbox _ _).bind _
  | nestedField => exact (failsUnbound_readField sandbox _ _).bind _
  | nestedItem => exact (failsUnbound_readField sandbox _ _).bind _
  | _ => exact (failsUnbound_ask sandbox _).bind _

end HostFunction

end ExtensionHost
