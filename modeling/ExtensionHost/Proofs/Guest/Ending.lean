import ExtensionHost.Proofs.Guest.History

/-!
# How invocations fail

An invocation is interrupted exactly when its time is used up, and the error that it otherwise fails
with is one that host functions raise.  This takes an argument in one place: an iteration catches
the failures of the guest and goes on, so that a row may be offered when the time is over.  As the
receiver of rows is a function of the program, it cannot be entered any more and is interrupted
again.

## Main definitions

* `Machine.IsServing`, an invocation in progress
* `Ends`, the contract of steps of an invocation

## Main results

* `Sandbox.ends_call`
-/

namespace ExtensionHost

namespace Guest

variable {σ α : Type}

/-- An invocation is in progress: there is time left, an adapter is bound, and rows are received by
a function of the program. -/
structure Machine.IsServing (program : Program) (s : Machine σ) : Prop where
  /-- Time is left. -/
  budget : s.budget ≠ 0
  /-- An adapter is bound. -/
  bound : s.bound.isSome = true
  /-- Rows are received by a function of the program. -/
  receiver : ∃ exports, s.exports = some exports ∧
    (program.function? exports.onReadValue).isSome = true

theorem Machine.IsServing.exports {program : Program} {s : Machine σ} (h : s.IsServing program) :
    s.exports.isSome = true := by
  obtain ⟨exports, he, _⟩ := h.receiver
  rw [he]
  rfl

/-- How an outcome fits the machine that it leaves behind. -/
structure Attributed (o : Option Failure) (t : Machine σ) : Prop where
  /-- A run is interrupted when the time is over, and only then. -/
  interrupted : o = some .interrupted ↔ t.budget = 0
  /-- Errors of the host are raised by host functions. -/
  raised : ∀ e, o = some (.host e) → e.isRaised = true

/-- How a step of an invocation ends. -/
structure Ended (s : Machine σ) (o : Option Failure) (t : Machine σ) : Prop where
  /-- The exports stay. -/
  exports : t.exports = s.exports
  /-- The adapter stays. -/
  bound : t.bound.isSome = s.bound.isSome
  /-- The outcome fits. -/
  attributed : Attributed o t

/-- The contract of steps of an invocation. -/
def Ends (program : Program) : Contract σ := fun s o t => s.IsServing program → Ended s o t

section Contract

variable {program : Program} {s t : Machine σ} {o : Option Failure}

theorem attributed_none (h : t.budget ≠ 0) : Attributed none t :=
  ⟨⟨nofun, fun hb => absurd hb h⟩, nofun⟩

/-- A run that did not fail has time left. -/
theorem Attributed.budget_ne_zero (h : Attributed none t) : t.budget ≠ 0 :=
  fun hb => nomatch h.interrupted.mpr hb

theorem attributed_interrupted (h : t.budget = 0) : Attributed (some .interrupted) t :=
  ⟨⟨fun _ => h, fun _ => rfl⟩, nofun⟩

theorem attributed_trap (h : t.budget ≠ 0) (cause : TrapCause) : Attributed (some (.trap cause)) t :=
  ⟨⟨nofun, fun hb => absurd hb h⟩, nofun⟩

theorem Ended.isServing (h : Ended s none t) (hs : s.IsServing program) : t.IsServing program where
  budget := h.attributed.budget_ne_zero
  bound := h.bound.trans hs.bound
  receiver := by
    rw [h.exports]
    exact hs.receiver

theorem ends_composes : Contract.Composes (σ := σ) (Ends program) where
  refl _ hs := ⟨rfl, rfl, attributed_none hs.budget⟩
  trans hst htu hs := by
    have ht := hst hs
    have hu := htu (ht.isServing hs)
    exact ⟨hu.exports.trans ht.exports, hu.bound.trans ht.bound, hu.attributed⟩

/-- A change of the guest ends well. -/
theorem ends_modifyGuest (f : GuestState → GuestState) :
    Run.Meets (Ends program) (Run.modifyGuest f : Run σ Unit) :=
  fun _ hs => ⟨rfl, rfl, attributed_none hs.budget⟩

theorem ends_get : Run.Meets (Ends program) (get : Run σ (Machine σ)) :=
  fun _ hs => ⟨rfl, rfl, attributed_none hs.budget⟩

theorem ends_of_reads {c : Run σ α} (hc : Run.Reads c) : Run.Meets (Ends program) c := by
  intro s hs
  rcases hc s with ⟨a, h⟩ | ⟨cause, h⟩
  · rw [Run.failure?, Run.after, h]
    exact ⟨rfl, rfl, attributed_none hs.budget⟩
  · rw [Run.failure?, Run.after, h]
    exact ⟨rfl, rfl, attributed_trap hs.budget cause⟩

/-- Serving a call without entering the guest ends well. -/
theorem ends_of_serves_step (h : Bridge.Serves s o t) : Ends program s o t := by
  intro hs
  have hraises := h.raises hs.exports hs.bound
  have hbudget : t.budget = s.budget := by rw [h.asks.1]
  refine ⟨by rw [h.asks.1], h.asks.2, ⟨fun ho => ?_, fun hb => ?_⟩, fun e ho => ?_⟩
  · obtain ⟨e, he, _⟩ := hraises _ ho
    cases he
  · exact absurd (hbudget.symm.trans hb) hs.budget
  · obtain ⟨e', he, hraised⟩ := hraises _ ho
    cases he
    exact hraised

theorem ends_of_serves {c : Run σ α} (hc : Run.Meets Bridge.Serves c) :
    Run.Meets (Ends program) c :=
  hc.mono ends_of_serves_step

theorem Effect.ends {sandbox : Sandbox σ} {frame : Frame} {statement : Statement}
    (h : Effect sandbox frame statement s o t) : Ends program s o t := by
  intro hs
  cases h with
  | spun => exact ⟨rfl, rfl, attributed_interrupted rfl⟩
  | trapped cause => exact ⟨rfl, rfl, attributed_trap hs.budget cause⟩
  | idle | globalSet | stored | grown | refused | tableGrown =>
    exact ⟨rfl, rfl, attributed_none hs.budget⟩

end Contract

/-- What host functions rely on when they enter the guest. -/
structure EndsWell (program : Program) (enter : Enter σ) : Prop where
  /-- Calls end well. -/
  ends : ∀ name args, Run.Meets (Ends program) (enter name args)
  /-- A function of the program is not entered when the time is over, or is not entered at all. -/
  receiver : ∀ name, (program.function? name).isSome = true →
    (∀ args s, s.budget = 0 → enter name args s = .error .interrupted s) ∨
      ∀ args s, ∃ cause, enter name args s = .error (.trap cause) s

end Guest

/-! ### Host functions -/

open Guest

namespace Bridge

variable {σ α : Type} {program : Program} {sandbox : Sandbox σ} {enter : Enter σ}

theorem ends_guestExports : Run.Meets (Ends program) (guestExports : Run σ Exports) := by
  intro s hs
  obtain ⟨exports, he, _⟩ := hs.receiver
  rw [Run.failure?, Run.after, guestExports_of_eq_some he]
  exact ⟨rfl, rfl, attributed_none hs.budget⟩

theorem ends_fail {e : ExtensionError} (he : e.isRaised = true) :
    Run.Meets (Ends program) (fail e : Run σ α) :=
  ends_of_serves (serves_fail he)

theorem ends_allocate (h : EndsWell program enter) (size : UInt32) :
    Run.Meets (Ends program) (allocate enter size) := by
  refine ends_get.bind ends_composes fun machine => ?_
  split
  · exact (ends_modifyGuest _).bind ends_composes fun _ => Run.Meets.pure ends_composes _
  · refine ends_guestExports.bind ends_composes fun exports => ?_
    refine ends_get.bind ends_composes fun machine => ?_
    refine (h.ends exports.malloc _).bind ends_composes fun results => ?_
    refine (ends_of_serves serves_guestMemory).bind ends_composes fun memory => ?_
    split
    · exact ends_fail rfl
    · exact (ends_modifyGuest _).bind ends_composes fun _ => Run.Meets.pure ends_composes _

theorem ends_stage (h : EndsWell program enter) (bytes : ByteArray) :
    Run.Meets (Ends program) (stage enter bytes) := by
  have hrest : Run.Meets (Ends program) (do
      let address ← allocate enter (UInt32.ofNat bytes.size)
      let memory ← guestMemory
      if address.toNat + bytes.size ≤ memory.size then
        Run.modifyMemory (·.write address.toNat bytes)
        pure (Slice.mk address (UInt32.ofNat bytes.size)).pack
      else fail (.unableToWriteMemory address (UInt32.ofNat bytes.size))) := by
    refine (ends_allocate h _).bind ends_composes fun address => ?_
    refine (ends_of_serves serves_guestMemory).bind ends_composes fun memory => ?_
    split
    · exact (ends_modifyGuest _).bind ends_composes fun _ => Run.Meets.pure ends_composes _
    · exact ends_fail rfl
  rw [stage]
  split
  · exact (ends_fail rfl).bind ends_composes fun _ => hrest
  · exact hrest

theorem ends_present (h : EndsWell program enter) (value : FieldValue) (reader : Reader) :
    Run.Meets (Ends program) (present enter value reader) := by
  have reply {β : Type} (r : Except StateError β) :
      Run.Meets (Ends program) (ofReply r : Run σ β) := ends_of_serves (serves_ofReply r)
  have answer {β : Type} (b : β) : Run.Meets (Ends program) (pure b : Run σ β) :=
    .pure ends_composes b
  cases reader with
  | string => exact (reply _).bind ends_composes fun _ => ends_stage h _
  | bytes => exact (reply _).bind ends_composes fun _ => ends_stage h _
  | qnamePackage => exact (reply _).bind ends_composes fun _ => ends_stage h _
  | qnameEntity => exact (reply _).bind ends_composes fun _ => ends_stage h _
  | int32 => exact (reply _).bind ends_composes fun _ => answer _
  | int64 => exact (reply _).bind ends_composes fun _ => answer _
  | float32 => exact (reply _).bind ends_composes fun _ => answer _
  | float64 => exact reply _
  | bool => exact (reply _).bind ends_composes fun _ => answer _

/-- How the receiver of rows behaves when the time is over: it is interrupted at once.  One that is
never entered leaves the time that there is. -/
def Refuses (enter : Enter σ) (callback : String) (s : Machine σ) : Prop :=
  (∀ args t, t.budget = 0 → enter callback args t = .error .interrupted t) ∨
    s.budget ≠ 0 ∧ ∀ args t, ∃ cause, enter callback args t = .error (.trap cause) t

/-- A row that is received leaves the iteration's last failure fitting. -/
theorem row_attributed (h : EndsWell program enter) {callback : String} (args : List UInt64)
    {last : Option Failure} {s : Machine σ} (hbound : s.bound.isSome = true)
    (hreceiver : ∃ exports, s.exports = some exports ∧
      (program.function? exports.onReadValue).isSome = true)
    (hlast : Attributed last s) (hrefuses : Refuses enter callback s) :
    (Run.after (enter callback args) s).exports = s.exports ∧
      (Run.after (enter callback args) s).bound.isSome = true ∧
      Attributed ((Run.failure? (enter callback args) s).or last)
        (Run.after (enter callback args) s) ∧
      Refuses enter callback (Run.after (enter callback args) s) := by
  rcases hrefuses with htime | ⟨hbudget, htraps⟩
  · by_cases hbudget : s.budget = 0
    · rw [Run.after, Run.failure?, htime args s hbudget]
      exact ⟨rfl, hbound, attributed_interrupted hbudget, Or.inl htime⟩
    · have hended := h.ends callback args s ⟨hbudget, hbound, hreceiver⟩
      refine ⟨hended.exports, hended.bound.trans hbound, ?_, Or.inl htime⟩
      have hattributed := hended.attributed
      cases ho : Run.failure? (enter callback args) s with
      | some f =>
        rw [ho] at hattributed
        exact hattributed
      | none =>
        rw [ho] at hattributed
        refine ⟨⟨fun hl => ?_, fun hb => ?_⟩, hlast.raised⟩
        · exact absurd (hlast.interrupted.mp hl) hbudget
        · exact absurd hb hattributed.budget_ne_zero
  · obtain ⟨cause, htrap⟩ := htraps args s
    rw [Run.after, Run.failure?, htrap]
    exact ⟨rfl, hbound, attributed_trap hbudget cause, Or.inr ⟨hbudget, htraps⟩⟩

/-- An iteration offers its rows to the end, and the last failure of the guest fits the machine that
is left behind. -/
theorem deliverRows_attributed (h : EndsWell program enter) {callback : String} (rows : Rows σ)
    {last : Option Failure} {s : Machine σ} (hbound : s.bound.isSome = true)
    (hreceiver : ∃ exports, s.exports = some exports ∧
      (program.function? exports.onReadValue).isSome = true)
    (hlast : Attributed last s) (hrefuses : Refuses enter callback s) :
    ∃ failure outcome t, deliverRows enter callback last rows s = .ok (failure, outcome) t ∧
      t.exports = s.exports ∧ t.bound.isSome = true ∧ Attributed failure t := by
  induction rows generalizing last s with
  | done outcome state =>
    exact ⟨last, outcome, { s with bound := some state }, rfl, rfl, rfl,
      hlast.interrupted, hlast.raised⟩
  | row key value state resume ih =>
    have hoffered : Attributed last { s with bound := some state } :=
      ⟨hlast.interrupted, hlast.raised⟩
    obtain ⟨hexports, hafter, hattributed, hnext⟩ :=
      row_attributed (s := { s with bound := some state }) h [key.id, value.id] rfl hreceiver
        hoffered hrefuses
    cases hc : enter callback [key.id, value.id] { s with bound := some state } with
    | ok results t =>
      rw [Run.failure?, hc] at hattributed
      rw [Run.after_of_ok hc] at hexports hafter hattributed hnext
      obtain ⟨next, hsome⟩ := Option.isSome_iff_exists.mp hafter
      rw [deliverRows_of_ok hc hsome, ← show t.exports = s.exports from hexports]
      rw [← show t.exports = s.exports from hexports] at hreceiver
      exact ih _ next hafter hreceiver hattributed hnext
    | error f t =>
      rw [Run.failure?, hc] at hattributed
      rw [Run.after_of_error hc] at hexports hafter hattributed hnext
      obtain ⟨next, hsome⟩ := Option.isSome_iff_exists.mp hafter
      rw [deliverRows_of_error hc hsome, ← show t.exports = s.exports from hexports]
      rw [← show t.exports = s.exports from hexports] at hreceiver
      exact ih _ next hafter hreceiver hattributed hnext

theorem ends_iterateRows (h : EndsWell program enter) (key : UInt64) :
    Run.Meets (Ends program) (iterateRows sandbox enter key) := by
  intro s hs
  obtain ⟨state, hbound⟩ := Option.isSome_iff_exists.mp hs.bound
  obtain ⟨exports, hexports, hreceiver⟩ := hs.receiver
  have hrefuses : Refuses enter exports.onReadValue s := by
    rcases h.receiver exports.onReadValue hreceiver with htime | htraps
    · exact Or.inl htime
    · exact Or.inr ⟨hs.budget, htraps⟩
  obtain ⟨failure, outcome, t, hd, htexports, htbound, hattributed⟩ :=
    deliverRows_attributed h (sandbox.adapter.readValues ⟨key⟩ state) hs.bound hs.receiver
      (attributed_none hs.budget) hrefuses
  rw [Run.failure?, Run.after, iterateRows, Run.bind_of_ok (boundState_of_eq_some hbound),
    Run.bind_of_ok (guestExports_of_eq_some hexports), Run.bind_of_ok hd]
  cases failure with
  | some f => exact ⟨htexports, htbound.trans hs.bound.symm, hattributed⟩
  | none =>
    have hbudget : t.budget ≠ 0 := hattributed.budget_ne_zero
    have hserving : t.IsServing program := by
      refine ⟨hbudget, htbound, ?_⟩
      rw [htexports]
      exact hs.receiver
    have hended := ends_of_serves (serves_ofReply outcome) t hserving
    exact ⟨hended.exports.trans htexports, hended.bound.trans (htbound.trans hs.bound.symm),
      hended.attributed⟩

end Bridge

theorem HostFunction.ends_call {σ : Type} {program : Program} (sandbox : Sandbox σ)
    {enter : Enter σ} (h : EndsWell program enter) (f : HostFunction) (args : List UInt64) :
    Run.Meets (Ends program) (f.call sandbox enter args) := by
  by_cases hf : f.entersGuest = false
  · exact ends_of_serves (serves_call sandbox enter hf args)
  · cases f with
    | readValues =>
      exact (Bridge.ends_iterateRows h _).bind ends_composes fun _ => .pure ends_composes _
    | read source reader =>
      rw [call_read]
      refine (ends_of_serves (Bridge.serves_readField sandbox _ _)).bind ends_composes fun value => ?_
      exact (Bridge.ends_present h value reader).bind ends_composes fun _ => .pure ends_composes _
    | _ => exact absurd rfl hf

/-! ### Programs -/

namespace Guest

variable {σ : Type} {program : Program} {sandbox : Sandbox σ}

section Blocks

variable {call : Enter σ}

theorem ends_repeatBlock {block : Frame → Run σ Outcome}
    (hblock : ∀ frame, Run.Meets (Ends program) (block frame)) (n : Nat) (frame : Frame) :
    Run.Meets (Ends program) (repeatBlock block n frame) := by
  induction n generalizing frame with
  | zero => exact .pure ends_composes _
  | succ n ih =>
    refine (hblock frame).bind ends_composes fun outcome => ?_
    cases outcome with
    | next frame => exact ih frame
    | left results => exact .pure ends_composes _

mutual

theorem Statement.ends_run (hcall : ∀ name args, Run.Meets (Ends program) (call name args))
    (frame : Frame) (s : Statement) : Run.Meets (Ends program) (s.run sandbox call frame) := by
  cases s with
  | branch condition onTrue onFalse =>
    rw [Statement.run]
    refine (ends_of_reads (reads_evaluate frame condition)).bind ends_composes fun w => ?_
    split
    · exact Block.ends_run hcall onTrue frame
    · exact Block.ends_run hcall onFalse frame
  | iterate count body =>
    rw [Statement.run]
    exact (ends_of_reads (reads_evaluate frame count)).bind ends_composes fun w =>
      ends_repeatBlock (Block.ends_run hcall body) w.toNat frame
  | call callee args answers =>
    rw [Statement.run]
    exact (ends_of_reads (reads_evaluateAll frame args)).bind ends_composes fun ws =>
      (hcall callee ws).bind ends_composes fun _ => .pure ends_composes _
  | _ => exact fun s => (Statement.meets_effect sandbox call frame rfl s).ends

theorem Block.ends_run (hcall : ∀ name args, Run.Meets (Ends program) (call name args))
    (block : List Statement) (frame : Frame) :
    Run.Meets (Ends program) (Block.run sandbox call block frame) := by
  cases block with
  | nil =>
    rw [Block.run]
    exact .pure ends_composes _
  | cons s rest =>
    rw [Block.run]
    refine (Statement.ends_run hcall frame s).bind ends_composes fun outcome => ?_
    cases outcome with
    | next frame => exact Block.ends_run hcall rest frame
    | left results => exact .pure ends_composes _

end

end Blocks

namespace Sandbox

theorem ends_runFunction {call : Enter σ}
    (hcall : ∀ name args, Run.Meets (Ends program) (call name args)) (f : Function)
    (args : List UInt64) : Run.Meets (Ends program) (runFunction sandbox call f args) := by
  intro s hs
  rw [Run.failure?, Run.after, runFunction_of_budget_ne_zero sandbox call f args hs.budget]
  exact (Block.ends_run hcall f.body _).bind ends_composes (fun _ => .pure ends_composes _) s hs

/-- At every depth, calls end well, and functions of the program are not entered when the time is
over. -/
theorem endsWell_callNested (sandbox : Sandbox σ) (depth : Nat) :
    EndsWell sandbox.program (callNested sandbox depth) := by
  induction depth with
  | zero =>
    refine ⟨fun name args s hs => ?_, fun name _ => Or.inr fun args s => ⟨.stackExhausted, rfl⟩⟩
    exact ⟨rfl, rfl, attributed_trap hs.budget .stackExhausted⟩
  | succ depth ih =>
    refine ⟨fun name args => ?_, fun name hname => Or.inl fun args s hs => ?_⟩
    · rw [callNested]
      cases sandbox.program.function? name with
      | some f => exact ends_runFunction ih.ends f args
      | none =>
        cases HostFunction.named? name with
        | some f =>
          exact (HostFunction.ends_call sandbox ih f _).bind ends_composes fun _ =>
            .pure ends_composes _
        | none => exact ends_of_reads (Run.Reads.trap .unreachable)
    · obtain ⟨f, hf⟩ := Option.isSome_iff_exists.mp hname
      rw [callNested, hf]
      exact runFunction_of_budget_eq_zero sandbox _ f args hs

/-- **How invocations fail.**  A call is interrupted exactly when its time is used up, and errors of
the host are raised by host functions. -/
theorem ends_call (sandbox : Sandbox σ) (name : String) (args : List UInt64) :
    Run.Meets (Ends sandbox.program) (sandbox.call name args) :=
  (endsWell_callNested sandbox maxDepth).ends name args

end Sandbox

end Guest

end ExtensionHost
