import ExtensionHost.Proofs.Bridge.Binding
import ExtensionHost.Proofs.Guest.History

/-!
# Laws of histories

Some properties of histories speak of more than one event at a time, or say more of an event than
`Note.Legal` does.  Such a property holds of every history if it holds of the histories of single
events, of what staging a payload comes to, and of two histories in a row: this is all that
histories are made of.  `Story.Law` asks for these, and the recursion over blocks, host functions
and nested calls is done once, in `Story.Law.historyNested`.

## Main definitions

* `Story.Law`, a property that is handed on by all parts of histories
* `Story.Obeys`, a story with such a property

## Main results

* `Story.Law.historyNested`
-/

namespace ExtensionHost

namespace Guest

open Bridge

variable {σ α : Type}

namespace Story

/-- A property that holds of every history because all that histories are made of hands it on. -/
structure Law (sandbox : Sandbox σ) (P : List (Note σ) → Prop) : Prop where
  /-- Nothing happens. -/
  nil : P []
  /-- Something happens, and then something else. -/
  append {notes more : List (Note σ)} : P notes → P more → P (notes ++ more)
  /-- A simple statement is executed. -/
  executed (s : Statement) (frame : Frame) (before after : Machine σ) :
    P [⟨.executed s frame, before, after⟩]
  /-- A host function is entered. -/
  entered (f : HostFunction) (args : List UInt64) (s : Machine σ) : P [⟨.entered f args, s, s⟩]
  /-- The adapter is asked. -/
  asked {before after : Machine σ} (h : Bridge.Turns sandbox.adapter before none after) :
    P [⟨.asked, before, after⟩]
  /-- A payload is staged. -/
  stage {enter : Enter σ} {tell : Tell σ}
    (htells : ∀ name args, (tell name args).Tells sandbox (enter name args))
    (htell : ∀ name args s, P (tell name args s)) (bytes : ByteArray) (s : Machine σ) :
    P (stageStory enter tell bytes s)

/-- A property of what a story tells. -/
def Obeys (P : List (Note σ) → Prop) (h : Story σ) : Prop := ∀ s, P (h s)

namespace Law

variable {sandbox : Sandbox σ} {P : List (Note σ) → Prop} (law : Law sandbox P)

include law

theorem cons {n : Note σ} {rest : List (Note σ)} (hn : P [n]) (hrest : P rest) : P (n :: rest) :=
  law.append hn hrest

theorem silent : Obeys P (Story.silent : Story σ) := fun _ => law.nil

theorem bind {h : Story σ} (hh : h.Obeys P) (c : Run σ α) {k : α → Story σ}
    (hk : ∀ x, (k x).Obeys P) : (h.bind c k).Obeys P := by
  intro s
  refine law.append (hh s) ?_
  cases c s with
  | ok x t => exact hk x t
  | error f t => exact law.nil

theorem once_asked {c : Run σ α} (hc : Run.Meets (Bridge.Turns sandbox.adapter) c) :
    (Story.once .asked c).Obeys P := fun s => law.asked (hc s)

/-! ### Through blocks -/

section Blocks

variable {call : Enter σ} {tell : Tell σ}

theorem repeatStory {block : Frame → Run σ Outcome} {told : Frame → Story σ}
    (htold : ∀ frame, (told frame).Obeys P) (n : Nat) (frame : Frame) :
    (Guest.repeatStory block told n frame).Obeys P := by
  induction n generalizing frame with
  | zero => exact law.silent
  | succ n ih =>
    refine law.bind (htold frame) _ fun outcome => ?_
    cases outcome with
    | next frame => exact ih frame
    | left results => exact law.silent

mutual

theorem statement (htell : ∀ name args, (tell name args).Obeys P) (frame : Frame)
    (s : Statement) : (s.story sandbox call tell frame).Obeys P := by
  cases s with
  | branch condition onTrue onFalse =>
    rw [Statement.story]
    refine law.bind law.silent _ fun w => ?_
    by_cases hw : (w != 0) = true
    · rw [if_pos hw]
      exact block htell onTrue frame
    · rw [if_neg hw]
      exact block htell onFalse frame
  | iterate count body =>
    rw [Statement.story]
    exact law.bind law.silent _ fun w => law.repeatStory (block htell body) w.toNat frame
  | call callee args answers =>
    rw [Statement.story]
    exact law.bind law.silent _ (htell callee)
  | _ =>
    rw [Statement.story_of_isSimple rfl]
    exact fun s => law.executed ..

theorem block (htell : ∀ name args, (tell name args).Obeys P) (statements : List Statement)
    (frame : Frame) : (Block.story sandbox call tell statements frame).Obeys P := by
  cases statements with
  | nil =>
    rw [Block.story]
    exact law.silent
  | cons s rest =>
    rw [Block.story]
    refine law.bind (statement htell frame s) _ fun outcome => ?_
    cases outcome with
    | next frame => exact block htell rest frame
    | left results => exact law.silent

end

end Blocks

/-! ### Through host functions -/

section HostFunctions

variable {enter : Enter σ} {tell : Tell σ}

theorem presentStory (htells : ∀ name args, (tell name args).Tells sandbox (enter name args))
    (htell : ∀ name args, (tell name args).Obeys P) (value : FieldValue) (reader : Reader) :
    (Bridge.presentStory enter tell value reader).Obeys P := by
  have hstage : ∀ bytes, (stageStory enter tell bytes).Obeys P := law.stage htells htell
  cases reader with
  | string => exact law.bind law.silent _ fun _ => hstage _
  | bytes => exact law.bind law.silent _ fun _ => hstage _
  | qnamePackage => exact law.bind law.silent _ fun _ => hstage _
  | qnameEntity => exact law.bind law.silent _ fun _ => hstage _
  | _ => exact law.silent

/-- Every row is offered by the adapter: the first ones when the iteration begins, and each of the
others when it is called again after the one before. -/
theorem rowsStory (htell : ∀ name args, (tell name args).Obeys P) (callback : String)
    {rows : Rows σ} (hrows : sandbox.adapter.Offers rows) {s : Machine σ}
    (hmoves : ∀ w, s.bound = some w → sandbox.adapter.Moves w rows.state) :
    P (Bridge.rowsStory enter tell callback rows s) := by
  induction rows generalizing s with
  | done outcome state => exact law.asked fun w hw => ⟨state, rfl, .single (hmoves w hw)⟩
  | row key value state resume ih =>
    rw [Bridge.rowsStory]
    refine law.cons (law.asked fun w hw => ⟨state, rfl, .single (hmoves w hw)⟩) ?_
    refine law.append (htell _ _ _) ?_
    have hrest : ∀ (outcome : Except StateError Unit) {t : Machine σ} {next : σ},
        t.bound = some next → P (Bridge.rowsStory enter tell callback (resume outcome next) t) := by
      intro outcome t next hnext
      refine ih outcome next (.resumed hrows outcome next) fun w hw => ?_
      obtain rfl : next = w := Option.some.inj (hnext.symm.trans hw)
      exact .resume hrows outcome next
    split
    · split
      · exact hrest _ ‹_›
      · exact law.nil
    · split
      · exact hrest _ ‹_›
      · exact law.nil

theorem iterateStory (htell : ∀ name args, (tell name args).Obeys P) (key : UInt64) :
    (Bridge.iterateStory sandbox enter tell key).Obeys P := by
  intro s
  rw [Bridge.iterateStory]
  split
  · rename_i state exports hbound _
    refine law.rowsStory htell _ (.begun ⟨key⟩ state) fun w hw => ?_
    obtain rfl : state = w := Option.some.inj (hbound.symm.trans hw)
    exact .readValues ⟨key⟩ state
  · exact law.nil

theorem hostFunction (htells : ∀ name args, (tell name args).Tells sandbox (enter name args))
    (htell : ∀ name args, (tell name args).Obeys P) (f : HostFunction) (args : List UInt64) :
    (f.story sandbox enter tell args).Obeys P := by
  intro s
  by_cases hf : f.entersGuest = false
  · rw [HostFunction.story_of_not_entersGuest sandbox enter tell hf]
    exact law.cons (law.entered f args s)
      (law.once_asked (HostFunction.turns_call sandbox enter hf args) s)
  · refine law.cons (law.entered f args s) ?_
    cases f with
    | readValues => exact law.iterateStory htell _ s
    | read source reader =>
      exact law.bind (law.once_asked (turns_readField sandbox _ _)) _
        (fun value => law.presentStory htells htell value reader) s
    | _ => exact absurd rfl hf

end HostFunctions

/-! ### Through calls -/

/-- **Laws hold of histories**, at whatever depth a call is made. -/
theorem historyNested (depth : Nat) (name : String) (args : List UInt64) :
    (sandbox.historyNested depth name args).Obeys P := by
  induction depth generalizing name args with
  | zero => exact law.silent
  | succ depth ih =>
    rw [Sandbox.historyNested]
    cases sandbox.program.function? name with
    | some f =>
      intro s
      simp only [Sandbox.functionStory]
      split
      · exact law.nil
      · exact law.block ih f.body _ s
    | none =>
      cases HostFunction.named? name with
      | some f => exact law.hostFunction (Sandbox.tells_historyNested sandbox depth) ih f _
      | none => exact law.silent

end Law

end Story

end Guest

end ExtensionHost
