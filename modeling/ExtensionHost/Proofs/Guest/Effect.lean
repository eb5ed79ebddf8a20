import ExtensionHost.Proofs.Guest.Run
import ExtensionHost.Proofs.Memory.Linear

/-!
# The effects of statements

A `Statement` is simple if it enters neither a block nor a function.  `Effect` lists everything that
executing a simple statement can do, and every invariant of running guests is derived from that
list: no other proof looks into `Statement.run`.

## Main definitions

* `Statement.isSimple`, `Statement.target?`, `Statement.IsRefused`
* `Effect`

## Main results

* `Statement.meets_effect`, executing a simple statement has one of the listed effects
-/

namespace ExtensionHost

namespace Guest

variable {σ : Type}

namespace Statement

/-- Whether a statement enters neither a block nor a function. -/
def isSimple : Statement → Bool
  | .branch .. | .iterate .. | .call .. => false
  | _ => true

/-- Whether a statement is the endless loop. -/
def isSpin : Statement → Bool
  | .spin => true
  | _ => false

/-- The range of memory that a statement stores to, by its first position and its length. -/
def target? (frame : Frame) (guest : GuestState) : Statement → Option (Nat × Nat)
  | .store width address _ =>
    match address.eval frame guest with
    | .ok a => some (a.toUInt32.toNat, width.bytes)
    | .error _ => none
  | .copyMemory target _ length | .fillMemory target _ length =>
    match target.eval frame guest, length.eval frame guest with
    | .ok a, .ok n => some (a.toUInt32.toNat, n.toUInt32.toNat)
    | _, _ => none
  | _ => none

/-- The number of pages that a statement asks for. -/
def pagesAsked (frame : Frame) (guest : GuestState) : Statement → Nat
  | .growMemory extra _ =>
    match extra.eval frame guest with
    | .ok w => w.toUInt32.toNat
    | .error _ => 0
  | _ => 0

/-- A statement asks for pages with which memory would pass the limit. -/
def IsRefused (memoryLimit : Nat) (frame : Frame) (guest : GuestState) (s : Statement) : Prop :=
  s.pagesAsked frame guest ≠ 0 ∧
    memoryLimit < (guest.memory.pageCount + s.pagesAsked frame guest) * pageSize

/-- A statement that neither is refused memory nor runs for ever. -/
def IsQuiet (memoryLimit : Nat) (frame : Frame) (guest : GuestState) (s : Statement) : Prop :=
  ¬ s.IsRefused memoryLimit frame guest ∧ s.isSpin = false

/-- A statement that asks for no memory is not refused any. -/
theorem not_isRefused_of_pagesAsked {s : Statement} {memoryLimit : Nat} {frame : Frame}
    {guest : GuestState} (h : s.pagesAsked frame guest = 0) :
    ¬ s.IsRefused memoryLimit frame guest :=
  fun hr => hr.1 h

theorem isQuiet_of_pagesAsked {s : Statement} {memoryLimit : Nat} {frame : Frame}
    {guest : GuestState} (h : s.pagesAsked frame guest = 0) (hs : s.isSpin = false) :
    s.IsQuiet memoryLimit frame guest :=
  ⟨not_isRefused_of_pagesAsked h, hs⟩

end Statement

/-- Everything that executing a simple statement can do to a machine, with the failure that it ends
with. -/
inductive Effect (sandbox : Sandbox σ) (frame : Frame) (s : Statement) (before : Machine σ) :
    Option Failure → Machine σ → Prop where
  /-- At most the registers change. -/
  | idle (hq : s.IsQuiet sandbox.memoryLimit frame before.guest) :
    Effect sandbox frame s before none before
  /-- The guest traps. -/
  | trapped (cause : TrapCause) (hq : s.IsQuiet sandbox.memoryLimit frame before.guest) :
    Effect sandbox frame s before (some (.trap cause)) before
  /-- A global is set. -/
  | globalSet (name : String) (w : UInt64)
    (hq : s.IsQuiet sandbox.memoryLimit frame before.guest) :
    Effect sandbox frame s before none
      { before with guest :=
        { before.guest with globals := before.guest.globals.insert name w } }
  /-- A range of memory is stored to. -/
  | stored {memory : Memory} {start count : Nat}
    (hq : s.IsQuiet sandbox.memoryLimit frame before.guest)
    (htarget : s.target? frame before.guest = some (start, count))
    (hpages : memory.pageCount = before.guest.memory.pageCount)
    (hbytes : ∀ i, i < start ∨ start + count ≤ i →
      memory.byteAt i = before.guest.memory.byteAt i) :
    Effect sandbox frame s before none
      { before with guest := { before.guest with memory } }
  /-- Memory grows within the limit. -/
  | grown {extra : Nat} (hq : s.IsQuiet sandbox.memoryLimit frame before.guest)
    (hlimit : (before.guest.memory.pageCount + extra) * pageSize ≤ sandbox.memoryLimit) :
    Effect sandbox frame s before none
      { before with guest :=
        { before.guest with memory := before.guest.memory.grow extra } }
  /-- A request for memory past the limit is refused and remembered. -/
  | refused (hr : s.IsRefused sandbox.memoryLimit frame before.guest) (hs : s.isSpin = false) :
    Effect sandbox frame s before none
      { before with guest := { before.guest with growthRefused := true } }
  /-- The table grows. -/
  | tableGrown (n : Nat) (hq : s.IsQuiet sandbox.memoryLimit frame before.guest) :
    Effect sandbox frame s before none
      { before with guest := { before.guest with tableSize := n } }
  /-- The time that is left is used up. -/
  | spun (hs : s.isSpin = true) (hr : ¬ s.IsRefused sandbox.memoryLimit frame before.guest) :
    Effect sandbox frame s before (some .interrupted) { before with budget := 0 }

/-- A step has one of the listed effects on a machine. -/
def HasEffect (sandbox : Sandbox σ) (frame : Frame) (s : Statement) {α : Type} (c : Run σ α)
    (before : Machine σ) : Prop :=
  Effect sandbox frame s before (Run.failure? c before) (Run.after c before)

namespace HasEffect

variable {α β : Type} {sandbox : Sandbox σ} {frame : Frame} {s : Statement} {before : Machine σ}

theorem of_ok {c : Run σ α} {a : α} {t : Machine σ} (hc : c before = .ok a t)
    (h : Effect sandbox frame s before none t) : HasEffect sandbox frame s c before := by
  rw [HasEffect, Run.failure?, Run.after, hc]
  exact h

theorem of_error {c : Run σ α} {f : Failure} {t : Machine σ} (hc : c before = .error f t)
    (h : Effect sandbox frame s before (some f) t) : HasEffect sandbox frame s c before := by
  rw [HasEffect, Run.failure?, Run.after, hc]
  exact h

/-- The operands of a statement are evaluated first, which at worst traps. -/
theorem bind_reads {c : Run σ α} {f : α → Run σ β} (hc : Run.Reads c)
    (hq : s.IsQuiet sandbox.memoryLimit frame before.guest)
    (hf : ∀ a, c before = .ok a before → HasEffect sandbox frame s (f a) before) :
    HasEffect sandbox frame s (c >>= f) before := by
  rcases hc.bind_cases f before with ⟨cause, h⟩ | ⟨a, ha, h⟩
  · exact of_error h (.trapped cause hq)
  · have := hf a ha
    rwa [HasEffect, Run.failure?, Run.after, h]

/-- What is made of the outcome of a step does not matter. -/
theorem bind_pure {c : Run σ α} (h : HasEffect sandbox frame s c before) (g : α → β) :
    HasEffect sandbox frame s (c >>= fun a => pure (g a)) before := by
  rw [HasEffect, Run.failure?, Run.after] at h
  cases hc : c before with
  | ok a t =>
    rw [hc] at h
    exact of_ok (Run.bind_of_ok hc) h
  | error f t =>
    rw [hc] at h
    exact of_error (Run.bind_of_error hc) h

end HasEffect

/-! ### Requests for more -/

theorem growMemory_apply (sandbox : Sandbox σ) (extra : Nat) (s : Machine σ) :
    Run.growMemory sandbox extra s
      = if extra = 0 then .ok (UInt64.ofNat s.guest.memory.pageCount) s
        else if (s.guest.memory.pageCount + extra) * pageSize > sandbox.memoryLimit then
          .ok growthFailure { s with guest := { s.guest with growthRefused := true } }
        else if s.guest.memory.pageCount + extra
            > (sandbox.program.memory.bind (·.maximum)).getD 65536 then .ok growthFailure s
        else .ok (UInt64.ofNat s.guest.memory.pageCount)
          { s with guest := { s.guest with memory := s.guest.memory.grow extra } } := by
  rw [Run.growMemory, Run.bind_of_ok (rfl : Run.guest s = .ok s.guest s)]
  dsimp only
  repeat' split
  all_goals rfl

theorem growTable_apply (sandbox : Sandbox σ) (extra : Nat) (s : Machine σ) :
    Run.growTable sandbox extra s
      = if s.guest.tableSize + extra
            > min ((sandbox.program.table.bind (·.maximum)).getD maxTableElements)
                maxTableElements then .ok growthFailure s
        else .ok (UInt64.ofNat s.guest.tableSize)
          { s with guest := { s.guest with tableSize := s.guest.tableSize + extra } } := by
  rw [Run.growTable, Run.bind_of_ok (rfl : Run.guest s = .ok s.guest s)]
  dsimp only
  split <;> rfl

/-- A request for memory is refused, or granted within the limit, or has no effect. -/
theorem growMemory_hasEffect (sandbox : Sandbox σ) (frame : Frame) (answer : Option Register)
    {extra : Expression} {before : Machine σ} {w : UInt64}
    (he : extra.eval frame before.guest = .ok w) :
    HasEffect sandbox frame (.growMemory extra answer)
      (Run.growMemory sandbox w.toUInt32.toNat) before := by
  have hasked : (Statement.growMemory extra answer).pagesAsked frame before.guest
      = w.toUInt32.toNat := by
    rw [Statement.pagesAsked, he]
  have happly := growMemory_apply sandbox w.toUInt32.toNat before
  by_cases hzero : w.toUInt32.toNat = 0
  · rw [if_pos hzero] at happly
    exact .of_ok happly (.idle ⟨Statement.not_isRefused_of_pagesAsked (hasked.trans hzero), rfl⟩)
  · rw [if_neg hzero] at happly
    by_cases hlimit :
        (before.guest.memory.pageCount + w.toUInt32.toNat) * pageSize > sandbox.memoryLimit
    · rw [if_pos hlimit] at happly
      refine .of_ok happly (.refused ?_ rfl)
      rw [Statement.IsRefused, hasked]
      exact ⟨hzero, hlimit⟩
    · have hq : (Statement.growMemory extra answer).IsQuiet sandbox.memoryLimit frame
          before.guest := by
        refine ⟨fun hr => hlimit ?_, rfl⟩
        rw [← hasked]
        exact hr.2
      rw [if_neg hlimit] at happly
      split at happly
      · exact .of_ok happly (.idle hq)
      · exact .of_ok happly (.grown hq (Nat.not_lt.mp hlimit))

/-! ### Stores -/

namespace Effect

variable {sandbox : Sandbox σ} {frame : Frame} {s : Statement} {before : Machine σ}

/-- Setting a run of bytes within memory is a store to the range that it covers. -/
theorem setBytes {start count : Nat} (hq : s.IsQuiet sandbox.memoryLimit frame before.guest)
    (htarget : s.target? frame before.guest = some (start, count))
    (hfit : start + count ≤ before.guest.memory.size) (b : ∀ k, k < count → UInt8) :
    Effect sandbox frame s before none
      { before with guest :=
        { before.guest with memory := before.guest.memory.setBytes start count b } } :=
  .stored hq htarget (Memory.pageCount_setBytes ..) fun _ hi =>
    Memory.byteAt_setBytes_of_outside hfit b hi

end Effect

/-- **The effects of statements.**  Whatever a simple statement does to a machine is on the list. -/
theorem Statement.meets_effect (sandbox : Sandbox σ) (call : Enter σ) (frame : Frame)
    {s : Statement} (hs : s.isSimple = true) (before : Machine σ) :
    HasEffect sandbox frame s (s.run sandbox call frame) before := by
  cases s with
  | branch condition onTrue onFalse => cases hs
  | iterate count body => cases hs
  | call callee args answers => cases hs
  | assign target value =>
    rw [Statement.run]
    have hq : (Statement.assign target value).IsQuiet sandbox.memoryLimit frame before.guest :=
      isQuiet_of_pagesAsked rfl rfl
    exact .bind_reads (reads_evaluate frame value) hq fun w _ => .of_ok rfl (.idle hq)
  | assignGlobal name value =>
    rw [Statement.run]
    have hq : (Statement.assignGlobal name value).IsQuiet sandbox.memoryLimit frame before.guest :=
      isQuiet_of_pagesAsked rfl rfl
    exact .bind_reads (reads_evaluate frame value) hq fun w _ => .of_ok rfl (.globalSet name _ hq)
  | store width address value =>
    rw [Statement.run]
    have hq : (Statement.store width address value).IsQuiet sandbox.memoryLimit frame
        before.guest := isQuiet_of_pagesAsked rfl rfl
    refine .bind_reads (reads_evaluateShort frame address) hq fun a ha => ?_
    refine .bind_reads (reads_evaluate frame value) hq fun w _ => ?_
    refine .bind_reads (reads_requireRange a width.bytes) hq fun _ hrange => .of_ok rfl ?_
    obtain ⟨v, hv, rfl⟩ := eval_of_evaluateShort ha
    refine Effect.setBytes hq ?_ (le_of_requireRange hrange) _
    rw [target?, hv]
  | copyMemory target source length =>
    rw [Statement.run]
    have hq : (Statement.copyMemory target source length).IsQuiet sandbox.memoryLimit frame
        before.guest := isQuiet_of_pagesAsked rfl rfl
    refine .bind_reads (reads_evaluateShort frame target) hq fun a ha => ?_
    refine .bind_reads (reads_evaluateShort frame source) hq fun b _ => ?_
    refine .bind_reads (reads_evaluateShort frame length) hq fun n hn => ?_
    refine .bind_reads (reads_requireRange b n) hq fun _ _ => ?_
    refine .bind_reads (reads_requireRange a n) hq fun _ hrange => .of_ok rfl ?_
    obtain ⟨v, hv, rfl⟩ := eval_of_evaluateShort ha
    obtain ⟨w, hw, rfl⟩ := eval_of_evaluateShort hn
    have hfit := le_of_requireRange hrange
    have htarget : (Statement.copyMemory target source length).target? frame before.guest
        = some (v.toUInt32.toNat, w.toUInt32.toNat) := by
      rw [target?, hv, hw]
    refine .stored hq htarget (Memory.pageCount_write ..) fun i hi => ?_
    exact Memory.byteAt_write_of_outside (by rwa [Memory.size_read]) (by rwa [Memory.size_read])
  | fillMemory target value length =>
    rw [Statement.run]
    have hq : (Statement.fillMemory target value length).IsQuiet sandbox.memoryLimit frame
        before.guest := isQuiet_of_pagesAsked rfl rfl
    refine .bind_reads (reads_evaluateShort frame target) hq fun a ha => ?_
    refine .bind_reads (reads_evaluate frame value) hq fun b _ => ?_
    refine .bind_reads (reads_evaluateShort frame length) hq fun n hn => ?_
    refine .bind_reads (reads_requireRange a n) hq fun _ hrange => .of_ok rfl ?_
    obtain ⟨v, hv, rfl⟩ := eval_of_evaluateShort ha
    obtain ⟨w, hw, rfl⟩ := eval_of_evaluateShort hn
    refine Effect.setBytes hq ?_ (le_of_requireRange hrange) _
    rw [target?, hv, hw]
  | growMemory extra answer =>
    rw [Statement.run]
    cases he : extra.eval frame before.guest with
    | error cause =>
      have heval : evaluate frame extra before = .error (.trap cause) before := by
        rw [evaluate_apply, he]
        rfl
      have hq : (Statement.growMemory extra answer).IsQuiet sandbox.memoryLimit frame
          before.guest := isQuiet_of_pagesAsked (by rw [pagesAsked, he]) rfl
      exact .of_error (Run.bind_of_error (Run.bind_of_error heval)) (.trapped cause hq)
    | ok w =>
      have heval : evaluateShort frame extra before = .ok w.toUInt32.toNat before := by
        rw [evaluateShort, Run.bind_of_ok (a := w) (t := before) (by rw [evaluate_apply, he]; rfl)]
        rfl
      have := (growMemory_hasEffect sandbox frame answer he).bind_pure
        fun v => Outcome.next (frame.set? answer v)
      rwa [HasEffect, Run.failure?, Run.after, Run.bind_of_ok heval]
  | growTable extra answer =>
    rw [Statement.run]
    have hq : (Statement.growTable extra answer).IsQuiet sandbox.memoryLimit frame before.guest :=
      isQuiet_of_pagesAsked rfl rfl
    refine .bind_reads (reads_evaluateShort frame extra) hq fun n _ => ?_
    have happly := growTable_apply sandbox n before
    split at happly
    · exact .of_ok (Run.bind_of_ok happly) (.idle hq)
    · exact .of_ok (Run.bind_of_ok happly) (.tableGrown _ hq)
  | unreachable =>
    rw [Statement.run]
    exact .of_error rfl (.trapped .unreachable (isQuiet_of_pagesAsked rfl rfl))
  | spin =>
    rw [Statement.run]
    exact .of_error rfl (.spun rfl (not_isRefused_of_pagesAsked rfl))
  | leave results =>
    rw [Statement.run]
    have hq : (Statement.leave results).IsQuiet sandbox.memoryLimit frame before.guest :=
      isQuiet_of_pagesAsked rfl rfl
    exact .bind_reads (reads_evaluateAll frame results) hq fun ws _ => .of_ok rfl (.idle hq)

end Guest

end ExtensionHost
