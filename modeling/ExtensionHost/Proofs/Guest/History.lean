import ExtensionHost.Proofs.Bridge.Story

/-!
# The history of a call

The story of a whole call of a function of the program, with everything that happens at any depth:
in the function itself, in the functions that it calls, in allocators that host functions enter to
stage a payload, and in receivers of rows.

## Main definitions

* `Statement.story` and `Block.story`
* `Sandbox.history`, the story of a call

## Main results

* `Sandbox.tells_history`, the history of a call is a chain of legal events from the machine before
  the call to the machine after it
* `Sandbox.history_invariant`, what every legal event preserves holds throughout a call
-/

namespace ExtensionHost

namespace Guest

variable {σ : Type}

/-- The story of a block that runs up to a number of times. -/
def repeatStory (block : Frame → Run σ Outcome) (tell : Frame → Story σ) : Nat → Frame → Story σ
  | 0, _ => .silent
  | n + 1, frame => (tell frame).bind (block frame) fun
    | .next frame => repeatStory block tell n frame
    | .left _ => .silent

mutual

/-- The story of a statement. -/
def Statement.story (sandbox : Sandbox σ) (call : Enter σ) (tell : Tell σ) (frame : Frame) :
    Statement → Story σ
  | .branch condition onTrue onFalse =>
    Story.silent.bind (evaluate frame condition) fun w =>
      if w != 0 then Block.story sandbox call tell onTrue frame
      else Block.story sandbox call tell onFalse frame
  | .iterate count body =>
    Story.silent.bind (evaluate frame count) fun w =>
      repeatStory (Block.run sandbox call body) (Block.story sandbox call tell body) w.toNat frame
  | .call callee args _ => Story.silent.bind (evaluateAll frame args) (tell callee)
  | s => .once (.executed s frame) (s.run sandbox call frame)

/-- The story of a block. -/
def Block.story (sandbox : Sandbox σ) (call : Enter σ) (tell : Tell σ) :
    List Statement → Frame → Story σ
  | [], _ => .silent
  | s :: rest, frame =>
    (Statement.story sandbox call tell frame s).bind (s.run sandbox call frame) fun
      | .next frame => Block.story sandbox call tell rest frame
      | .left _ => .silent

end

section Blocks

variable {sandbox : Sandbox σ} {call : Enter σ} {tell : Tell σ}

theorem tells_repeatStory {block : Frame → Run σ Outcome} {told : Frame → Story σ}
    (hblock : ∀ frame, (told frame).Tells sandbox (block frame)) (n : Nat) (frame : Frame) :
    (repeatStory block told n frame).Tells sandbox (repeatBlock block n frame) := by
  induction n generalizing frame with
  | zero => exact .pure _
  | succ n ih =>
    refine (hblock frame).bind fun outcome => ?_
    cases outcome with
    | next frame => exact ih frame
    | left results => exact .pure _

theorem Statement.story_of_isSimple {s : Statement} (hs : s.isSimple = true) (frame : Frame) :
    s.story sandbox call tell frame = .once (.executed s frame) (s.run sandbox call frame) := by
  cases s with
  | branch => cases hs
  | iterate => cases hs
  | call => cases hs
  | _ => rw [Statement.story] <;> nofun

theorem Statement.tells_story_of_isSimple {s : Statement} (hs : s.isSimple = true) (frame : Frame) :
    (s.story sandbox call tell frame).Tells sandbox (s.run sandbox call frame) := by
  rw [Statement.story_of_isSimple hs]
  exact .once fun t _ => .executed hs (Statement.meets_effect sandbox call frame hs t)

mutual

theorem Statement.tells_story (htell : ∀ name args, (tell name args).Tells sandbox (call name args))
    (frame : Frame) (s : Statement) :
    (s.story sandbox call tell frame).Tells sandbox (s.run sandbox call frame) := by
  cases s with
  | branch condition onTrue onFalse =>
    rw [Statement.story, Statement.run]
    refine (Story.Tells.of_reads (reads_evaluate frame condition)).bind fun w => ?_
    by_cases hw : (w != 0) = true
    · rw [if_pos hw, if_pos hw]
      exact Block.tells_story htell onTrue frame
    · rw [if_neg hw, if_neg hw]
      exact Block.tells_story htell onFalse frame
  | iterate count body =>
    rw [Statement.story, Statement.run]
    exact (Story.Tells.of_reads (reads_evaluate frame count)).bind fun w =>
      tells_repeatStory (Block.tells_story htell body) w.toNat frame
  | call callee args answers =>
    rw [Statement.story, Statement.run]
    exact (Story.Tells.of_reads (reads_evaluateAll frame args)).bind fun ws =>
      (htell callee ws).bind_pure _
  | _ => exact Statement.tells_story_of_isSimple rfl frame

theorem Block.tells_story (htell : ∀ name args, (tell name args).Tells sandbox (call name args))
    (block : List Statement) (frame : Frame) :
    (Block.story sandbox call tell block frame).Tells sandbox
      (Block.run sandbox call block frame) := by
  cases block with
  | nil =>
    rw [Block.story, Block.run]
    exact .pure _
  | cons s rest =>
    rw [Block.story, Block.run]
    refine (Statement.tells_story htell frame s).bind fun outcome => ?_
    cases outcome with
    | next frame => exact Block.tells_story htell rest frame
    | left results => exact .pure _

end

end Blocks

/-! ### Calls -/

namespace Sandbox

/-- The story of the body of a function, which is not entered when the time is over. -/
def functionStory (sandbox : Sandbox σ) (call : Enter σ) (tell : Tell σ) (f : Function)
    (args : List UInt64) : Story σ := fun s =>
  if s.budget = 0 then []
  else Block.story sandbox call tell f.body (.enter (narrowAll f.signature.params args)) s

/-- The story of a call with at most a number of calls nested. -/
def historyNested (sandbox : Sandbox σ) : Nat → Tell σ
  | 0, _, _ => .silent
  | depth + 1, name, args =>
    match sandbox.program.function? name with
    | some f => functionStory sandbox (callNested sandbox depth) (historyNested sandbox depth) f args
    | none =>
      match HostFunction.named? name with
      | some f =>
        f.story sandbox (callNested sandbox depth) (historyNested sandbox depth)
          (narrowAll f.signature.params args)
      | none => .silent

/-- The history of a call of a function. -/
def history (sandbox : Sandbox σ) : Tell σ := historyNested sandbox maxDepth

theorem runFunction_of_budget_eq_zero (sandbox : Sandbox σ) (call : Enter σ) (f : Function)
    (args : List UInt64) {s : Machine σ} (h : s.budget = 0) :
    runFunction sandbox call f args s = .error .interrupted s := by
  rw [runFunction, Run.get_bind, if_pos h]
  rfl

/-- The words that the body of a function ends with. -/
def results : Outcome → List UInt64
  | .next _ => []
  | .left words => words

theorem runFunction_of_budget_ne_zero (sandbox : Sandbox σ) (call : Enter σ) (f : Function)
    (args : List UInt64) {s : Machine σ} (h : s.budget ≠ 0) :
    runFunction sandbox call f args s
      = (Block.run sandbox call f.body (.enter (narrowAll f.signature.params args)) >>= fun
          outcome => pure (narrowAll f.signature.results (results outcome))) s := by
  have hresults : (fun outcome => match outcome with
      | .next _ => pure (narrowAll f.signature.results [])
      | .left words => pure (narrowAll f.signature.results words) : Outcome → Run σ (List UInt64))
      = fun outcome => pure (narrowAll f.signature.results (results outcome)) := by
    funext outcome
    cases outcome <;> rfl
  rw [runFunction, ← hresults]
  exact (Run.get_bind ..).trans (congrFun (if_neg h) s)

theorem tells_functionStory {sandbox : Sandbox σ} {call : Enter σ} {tell : Tell σ}
    (htell : ∀ name args, (tell name args).Tells sandbox (call name args)) (f : Function)
    (args : List UInt64) :
    (functionStory sandbox call tell f args).Tells sandbox (runFunction sandbox call f args) := by
  intro s hs
  rw [functionStory]
  by_cases h : s.budget = 0
  · rw [if_pos h, Run.after_of_error (runFunction_of_budget_eq_zero sandbox call f args h)]
    exact .nil s
  · rw [if_neg h, Run.after, runFunction_of_budget_ne_zero sandbox call f args h]
    exact (Block.tells_story htell f.body _).bind_pure _ s hs

theorem tells_historyNested (sandbox : Sandbox σ) (depth : Nat) (name : String)
    (args : List UInt64) :
    (historyNested sandbox depth name args).Tells sandbox (callNested sandbox depth name args) := by
  induction depth generalizing name args with
  | zero => exact .silent fun s => rfl
  | succ depth ih =>
    rw [historyNested, callNested]
    cases sandbox.program.function? name with
    | some f => exact tells_functionStory ih f args
    | none =>
      cases HostFunction.named? name with
      | some f => exact (HostFunction.tells_story sandbox _ _ ih f _).bind_pure _
      | none => exact .silent fun s => rfl

/-- **Histories.**  The history of a call is a chain of legal events from the machine before the
call to the machine after it. -/
theorem tells_history (sandbox : Sandbox σ) (name : String) (args : List UInt64) :
    (sandbox.history name args).Tells sandbox (sandbox.call name args) :=
  tells_historyNested sandbox maxDepth name args

/-- What every legal event preserves holds throughout a call, at whatever depth. -/
theorem history_invariant (sandbox : Sandbox σ) {P : Machine σ → Prop}
    (hstep : ∀ n : Note σ, n.Legal sandbox → P n.before → P n.after) (name : String)
    (args : List UInt64) {s : Machine σ} (hready : s.IsReady) (hs : P s) :
    (∀ n ∈ sandbox.history name args s, P n.before ∧ P n.after) ∧
      P (Run.after (sandbox.call name args) s) :=
  (tells_history sandbox name args s hready).invariant hstep hs

end Sandbox

end Guest

end ExtensionHost
