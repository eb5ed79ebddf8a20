import ExtensionHost.Proofs.Guest.Causes

/-!
# Where errors of the host come from

An error of the host may be raised deep in a run: by a host function in an allocator that staging
enters, or in a receiver of rows.  It fails the function that it is raised in, the host function
that entered this one, and so on up to the entry point.  Its origin is the innermost call of a host
function on this way.

Not every host function that fails is the origin of what the run fails with.  An iteration goes on
after a row that the guest fails on, and fails in the end with what the guest failed with last.  So
the origin cannot be read off the history, and is found by a recursion of its own, next to that of
the stories.

## Main definitions

* `HostCall`, a call of a host function in the course of a run
* `Origin` and `Sandbox.origin`, the call that the error of a run comes from
* `Origin.Traces`, what is right about an origin, and `Origin.Names`, what holds of all origins
* `HostCall.IsInnermost`

## Main results

* `Sandbox.traces_origin`, every error of the host that a call fails with is the one that its origin
  fails with
* `Sandbox.isInnermost_origin`, the error does not come from further within
* `Sandbox.explains_history`, every such error is raised in the history
-/

namespace ExtensionHost

namespace Guest

variable {σ α β : Type} {sandbox : Sandbox σ}

/-- A call of a host function in the course of a run. -/
structure HostCall (σ : Type) where
  /-- The number of calls that may be nested in it. -/
  depth : Nat
  /-- The host function. -/
  function : HostFunction
  /-- The arguments. -/
  args : List UInt64
  /-- The machine that it is entered on. -/
  machine : Machine σ

namespace HostCall

/-- The event of entering it. -/
def note (c : HostCall σ) : Note σ := ⟨.entered c.function c.args, c.machine, c.machine⟩

/-- The failure that it ends with. -/
def failure? (sandbox : Sandbox σ) (c : HostCall σ) : Option Failure :=
  Run.failure? (c.function.call sandbox (sandbox.callNested c.depth) c.args) c.machine

end HostCall

/-- Where the error of the host that a step fails with comes from, by the machine that the step
starts on. -/
abbrev Origin (σ : Type) := Machine σ → Option (HostCall σ)

/-- How origins are found in functions of the guest: the function and its arguments. -/
abbrev Trace (σ : Type) := String → List UInt64 → Origin σ

namespace Origin

/-- No origin. -/
def unknown : Origin σ := fun _ => none

/-- The origin of a step and of what is made of its outcome. -/
def bind (o : Origin σ) (c : Run σ α) (k : α → Origin σ) : Origin σ := fun s =>
  match c s with
  | .ok a t => k a t
  | .error _ _ => o s

end Origin

/-- A call is to blame for a failure: it is told of, and the failure is the error of the host that
it fails with itself. -/
def HostCall.Causes (sandbox : Sandbox σ) (c : HostCall σ) (notes : List (Note σ))
    (failure? : Option Failure) : Prop :=
  c.note ∈ notes ∧ ∃ e, failure? = some (.host e) ∧ c.failure? sandbox = some (.host e)

theorem HostCall.Causes.mono {c : HostCall σ} {notes more : List (Note σ)} {failure? : Option Failure}
    (h : c.Causes sandbox notes failure?) (hnotes : notes ⊆ more) :
    c.Causes sandbox more failure? :=
  ⟨hnotes h.1, h.2⟩

/-- An origin is sound for a step if the call that it names is to blame for the failure of the
step. -/
def Origin.Sound (sandbox : Sandbox σ) (h : Story σ) (o : Origin σ) (c : Run σ α) : Prop :=
  ∀ s call, o s = some call → call.Causes sandbox (h s) (Run.failure? c s)

/-- An origin traces a step if besides it names a call for every error of the host. -/
structure Origin.Traces (sandbox : Sandbox σ) (h : Story σ) (o : Origin σ) (c : Run σ α) : Prop where
  /-- The call that is named is to blame. -/
  sound : o.Sound sandbox h c
  /-- A call is named for every error of the host. -/
  complete : ∀ s e, Run.failure? c s = some (.host e) → (o s).isSome = true

namespace Origin

variable {h : Story σ} {o : Origin σ} {c : Run σ α}

theorem sound_unknown (h : Story σ) (c : Run σ α) : unknown.Sound sandbox h c := by
  intro s call hcall
  cases hcall

theorem Sound.bind (hc : o.Sound sandbox h c) {f : α → Run σ β} {k : α → Story σ} {l : α → Origin σ}
    (hf : ∀ a, (l a).Sound sandbox (k a) (f a)) :
    (o.bind c l).Sound sandbox (h.bind c k) (c >>= f) := by
  intro s call hcall
  have hsound := hc s call
  rw [Origin.bind] at hcall
  rw [Story.bind, Run.failure?]
  rw [Run.failure?] at hsound
  cases heq : c s with
  | ok a t =>
    rw [heq] at hcall
    rw [Run.bind_of_ok heq]
    exact (hf a t call hcall).mono (List.subset_append_right _ _)
  | error failure t =>
    rw [heq] at hcall hsound
    rw [Run.bind_of_error heq]
    exact (hsound hcall).mono (List.subset_append_left _ _)

theorem failure?_bind_pure (c : Run σ α) (g : α → β) (s : Machine σ) :
    Run.failure? (c >>= fun a => Pure.pure (g a)) s = Run.failure? c s := by
  rw [Run.failure?, Run.failure?]
  cases heq : c s with
  | ok a t => rw [Run.bind_of_ok heq]; rfl
  | error f t => rw [Run.bind_of_error heq]

theorem Sound.bind_pure (hc : o.Sound sandbox h c) (g : α → β) :
    o.Sound sandbox h (c >>= fun a => Pure.pure (g a)) := by
  intro s call hcall
  rw [failure?_bind_pure]
  exact hc s call hcall

namespace Traces

/-- Nothing is to be found where the host is not turned to. -/
theorem unknown (hc : ∀ s e, Run.failure? c s ≠ some (.host e)) (h : Story σ) :
    Origin.unknown.Traces sandbox h c :=
  ⟨sound_unknown h c, fun s e hf => absurd hf (hc s e)⟩

theorem of_reads (hc : Run.Reads c) (h : Story σ) : Origin.unknown.Traces sandbox h c := by
  refine unknown (fun s e hf => ?_) h
  rw [Run.failure?] at hf
  rcases hc s with ⟨a, heq⟩ | ⟨cause, heq⟩
  · rw [heq] at hf
    cases hf
  · rw [heq] at hf
    cases hf

theorem pure (a : α) (h : Story σ) : Origin.unknown.Traces sandbox h (Pure.pure a : Run σ α) :=
  unknown (fun _ _ => by nofun) h

theorem bind (hc : o.Traces sandbox h c) {f : α → Run σ β} {k : α → Story σ} {l : α → Origin σ}
    (hf : ∀ a, (l a).Traces sandbox (k a) (f a)) :
    (o.bind c l).Traces sandbox (h.bind c k) (c >>= f) := by
  refine ⟨hc.sound.bind fun a => (hf a).sound, fun s e hfails => ?_⟩
  have hcomplete := hc.complete s e
  rw [Origin.bind]
  rw [Run.failure?] at hfails hcomplete
  cases heq : c s with
  | ok a t =>
    rw [Run.bind_of_ok heq] at hfails
    exact (hf a).complete t e hfails
  | error failure t =>
    rw [Run.bind_of_error heq] at hfails
    rw [heq] at hcomplete
    exact hcomplete hfails

theorem bind_pure (hc : o.Traces sandbox h c) (g : α → β) :
    o.Traces sandbox h (c >>= fun a => Pure.pure (g a)) := by
  refine ⟨hc.sound.bind_pure g, fun s e hfails => ?_⟩
  rw [failure?_bind_pure] at hfails
  exact hc.complete s e hfails

/-- What is traced is explained. -/
theorem explains (hc : o.Traces sandbox h c) : h.Explains sandbox c := by
  intro s e hf
  obtain ⟨call, hcall⟩ := Option.isSome_iff_exists.mp (hc.complete s e hf)
  obtain ⟨hnote, e', he', hraises⟩ := hc.sound s call hcall
  obtain rfl : e = e' := Failure.host.inj (Option.some.inj (hf.symm.trans he'))
  exact ⟨call.note, hnote, call.function, call.args, call.depth, rfl, hraises⟩

end Traces

/-- All calls that an origin names have a property. -/
def Names (P : HostCall σ → Prop) (o : Origin σ) : Prop := ∀ s call, o s = some call → P call

theorem names_unknown (P : HostCall σ → Prop) : unknown.Names P := by
  intro s call hcall
  cases hcall

theorem Names.bind {P : HostCall σ → Prop} (ho : o.Names P) (c : Run σ α) {k : α → Origin σ}
    (hk : ∀ a, (k a).Names P) : (o.bind c k).Names P := by
  intro s call hcall
  rw [Origin.bind] at hcall
  split at hcall
  · exact hk _ _ call hcall
  · exact ho s call hcall

end Origin

/-! ### Through blocks -/

/-- The origin in a block that runs up to a number of times. -/
def repeatOrigin (block : Frame → Run σ Outcome) (origin : Frame → Origin σ) :
    Nat → Frame → Origin σ
  | 0, _ => .unknown
  | n + 1, frame => (origin frame).bind (block frame) fun
    | .next frame => repeatOrigin block origin n frame
    | .left _ => .unknown

mutual

/-- The origin in a statement. -/
def Statement.origin (sandbox : Sandbox σ) (call : Enter σ) (trace : Trace σ) (frame : Frame) :
    Statement → Origin σ
  | .branch condition onTrue onFalse =>
    Origin.unknown.bind (evaluate frame condition) fun w =>
      if w != 0 then Block.origin sandbox call trace onTrue frame
      else Block.origin sandbox call trace onFalse frame
  | .iterate count body =>
    Origin.unknown.bind (evaluate frame count) fun w =>
      repeatOrigin (Block.run sandbox call body) (Block.origin sandbox call trace body) w.toNat frame
  | .call callee args _ => Origin.unknown.bind (evaluateAll frame args) (trace callee)
  | _ => .unknown

/-- The origin in a block. -/
def Block.origin (sandbox : Sandbox σ) (call : Enter σ) (trace : Trace σ) :
    List Statement → Frame → Origin σ
  | [], _ => .unknown
  | s :: rest, frame =>
    (Statement.origin sandbox call trace frame s).bind (s.run sandbox call frame) fun
      | .next frame => Block.origin sandbox call trace rest frame
      | .left _ => .unknown

end

section Blocks

variable {call : Enter σ} {tell : Tell σ} {trace : Trace σ}

theorem traces_repeatOrigin {block : Frame → Run σ Outcome} {told : Frame → Story σ}
    {origin : Frame → Origin σ}
    (hblock : ∀ frame, (origin frame).Traces sandbox (told frame) (block frame)) (n : Nat)
    (frame : Frame) :
    (repeatOrigin block origin n frame).Traces sandbox (repeatStory block told n frame)
      (repeatBlock block n frame) := by
  induction n generalizing frame with
  | zero => exact .pure _ _
  | succ n ih =>
    refine (hblock frame).bind fun outcome => ?_
    cases outcome with
    | next frame => exact ih frame
    | left results => exact .pure _ _

theorem Statement.origin_of_isSimple {s : Statement} (hs : s.isSimple = true) (frame : Frame) :
    s.origin sandbox call trace frame = .unknown := by
  cases s with
  | branch => cases hs
  | iterate => cases hs
  | call => cases hs
  | _ => rw [Statement.origin] <;> nofun

/-- A simple statement fails without the host. -/
theorem Statement.failure?_ne_host {s : Statement} (hs : s.isSimple = true) (frame : Frame)
    (t : Machine σ) (e : ExtensionError) :
    Run.failure? (s.run sandbox call frame) t ≠ some (.host e) := by
  intro hf
  have heffect := Statement.meets_effect sandbox call frame hs t
  rw [HasEffect, hf] at heffect
  cases heffect

mutual

theorem Statement.traces_origin
    (hcall : ∀ name args, (trace name args).Traces sandbox (tell name args) (call name args))
    (frame : Frame) (s : Statement) :
    (s.origin sandbox call trace frame).Traces sandbox (s.story sandbox call tell frame)
      (s.run sandbox call frame) := by
  cases s with
  | branch condition onTrue onFalse =>
    rw [Statement.origin, Statement.story, Statement.run]
    refine (Origin.Traces.of_reads (reads_evaluate frame condition) _).bind fun w => ?_
    by_cases hw : (w != 0) = true
    · rw [if_pos hw, if_pos hw, if_pos hw]
      exact Block.traces_origin hcall onTrue frame
    · rw [if_neg hw, if_neg hw, if_neg hw]
      exact Block.traces_origin hcall onFalse frame
  | iterate count body =>
    rw [Statement.origin, Statement.story, Statement.run]
    exact (Origin.Traces.of_reads (reads_evaluate frame count) _).bind fun w =>
      traces_repeatOrigin (Block.traces_origin hcall body) w.toNat frame
  | call callee args answers =>
    rw [Statement.origin, Statement.story, Statement.run]
    exact (Origin.Traces.of_reads (reads_evaluateAll frame args) _).bind fun ws =>
      (hcall callee ws).bind_pure _
  | _ =>
    rw [Statement.origin_of_isSimple rfl]
    exact .unknown (Statement.failure?_ne_host rfl frame) _

theorem Block.traces_origin
    (hcall : ∀ name args, (trace name args).Traces sandbox (tell name args) (call name args))
    (block : List Statement) (frame : Frame) :
    (Block.origin sandbox call trace block frame).Traces sandbox
      (Block.story sandbox call tell block frame) (Block.run sandbox call block frame) := by
  cases block with
  | nil =>
    rw [Block.origin, Block.run]
    exact .pure _ _
  | cons s rest =>
    rw [Block.origin, Block.story, Block.run]
    refine (Statement.traces_origin hcall frame s).bind fun outcome => ?_
    cases outcome with
    | next frame => exact Block.traces_origin hcall rest frame
    | left results => exact .pure _ _

end

variable {P : HostCall σ → Prop}

theorem names_repeatOrigin {block : Frame → Run σ Outcome} {origin : Frame → Origin σ}
    (horigin : ∀ frame, (origin frame).Names P) (n : Nat) (frame : Frame) :
    (repeatOrigin block origin n frame).Names P := by
  induction n generalizing frame with
  | zero => exact Origin.names_unknown P
  | succ n ih =>
    refine (horigin frame).bind _ fun outcome => ?_
    cases outcome with
    | next frame => exact ih frame
    | left results => exact Origin.names_unknown P

mutual

theorem Statement.names_origin (htrace : ∀ name args, (trace name args).Names P) (frame : Frame)
    (s : Statement) : (s.origin sandbox call trace frame).Names P := by
  cases s with
  | branch condition onTrue onFalse =>
    rw [Statement.origin]
    refine (Origin.names_unknown P).bind _ fun w => ?_
    by_cases hw : (w != 0) = true
    · rw [if_pos hw]
      exact Block.names_origin htrace onTrue frame
    · rw [if_neg hw]
      exact Block.names_origin htrace onFalse frame
  | iterate count body =>
    rw [Statement.origin]
    exact (Origin.names_unknown P).bind _ fun w =>
      names_repeatOrigin (Block.names_origin htrace body) w.toNat frame
  | call callee args answers =>
    rw [Statement.origin]
    exact (Origin.names_unknown P).bind _ (htrace callee)
  | _ =>
    rw [Statement.origin_of_isSimple rfl]
    exact Origin.names_unknown P

theorem Block.names_origin (htrace : ∀ name args, (trace name args).Names P)
    (block : List Statement) (frame : Frame) :
    (Block.origin sandbox call trace block frame).Names P := by
  cases block with
  | nil =>
    rw [Block.origin]
    exact Origin.names_unknown P
  | cons s rest =>
    rw [Block.origin]
    refine (Statement.names_origin htrace frame s).bind _ fun outcome => ?_
    cases outcome with
    | next frame => exact Block.names_origin htrace rest frame
    | left results => exact Origin.names_unknown P

end

end Blocks

end Guest

/-! ### Through host functions -/

namespace Bridge

open Guest

variable {σ : Type} {sandbox : Sandbox σ} {enter : Enter σ} {tell : Tell σ} {trace : Trace σ}

/-- The origin in the allocator that staging enters if no buffer at hand has room. -/
def stageOrigin (trace : Trace σ) (bytes : ByteArray) : Origin σ := fun s =>
  if UInt32.size ≤ bytes.size then none
  else
    match s.guest.pool.reserve? (.ofNat bytes.size), s.exports with
    | none, some exports => trace exports.malloc [(request bytes s).toUInt64] s
    | _, _ => none

/-- The origin in the handing of a field to the guest. -/
def presentOrigin (trace : Trace σ) (value : FieldValue) : Reader → Origin σ
  | .string =>
    Origin.unknown.bind (ofReply value.toString?) fun text => stageOrigin trace text.toUTF8
  | .bytes => Origin.unknown.bind (ofReply value.toBytes?) (stageOrigin trace)
  | .qnamePackage =>
    Origin.unknown.bind (ofReply value.toQName?) fun name => stageOrigin trace name.package.toUTF8
  | .qnameEntity =>
    Origin.unknown.bind (ofReply value.toQName?) fun name => stageOrigin trace name.entity.toUTF8
  | _ => .unknown

/-- The origin in the last row that the guest failed on, which is `last` as long as it fails on no
other. -/
def rowsOrigin (enter : Enter σ) (trace : Trace σ) (callback : String) (last : Option (HostCall σ)) :
    Rows σ → Origin σ
  | .done _ _ => fun _ => last
  | .row key value state resume => fun s =>
    let offered : Machine σ := { s with bound := some state }
    match enter callback [key.id, value.id] offered with
    | .ok _ t =>
      match t.bound with
      | some state => rowsOrigin enter trace callback last (resume (.ok ()) state) t
      | none => last
    | .error _ t =>
      let last := trace callback [key.id, value.id] offered
      match t.bound with
      | some state => rowsOrigin enter trace callback last (resume (.error .interrupted) state) t
      | none => last

/-- The origin in the rows of an iteration. -/
def iterateOrigin (sandbox : Sandbox σ) (enter : Enter σ) (trace : Trace σ) (key : UInt64) :
    Origin σ := fun s =>
  match s.bound, s.exports with
  | some state, some exports =>
    rowsOrigin enter trace exports.onReadValue none (sandbox.adapter.readValues ⟨key⟩ state) s
  | _, _ => none

section Parts

variable (hcall : ∀ name args, (trace name args).Sound sandbox (tell name args) (enter name args))

include hcall

theorem sound_stageOrigin (bytes : ByteArray) :
    (stageOrigin trace bytes).Sound sandbox (stageStory enter tell bytes) (stage enter bytes) := by
  intro s call horigin
  rw [stageOrigin] at horigin
  by_cases hlarge : UInt32.size ≤ bytes.size
  · rw [if_pos hlarge] at horigin
    cases horigin
  rw [if_neg hlarge] at horigin
  split at horigin
  · rename_i exports hr hexports
    obtain ⟨hnote, e, hfails, hraises⟩ := hcall _ _ s call horigin
    rw [Run.failure?] at hfails
    cases hm : enter exports.malloc [(request bytes s).toUInt64] s with
    | ok results t =>
      rw [hm] at hfails
      cases hfails
    | error f t =>
      rw [hm] at hfails
      rw [stageStory, if_neg hlarge, Run.failure?,
        stage_of_malloc_error (Nat.not_le.mp hlarge) hexports hr hm]
      simp only [hr, hexports]
      exact ⟨List.mem_append_left _ hnote, e, hfails, hraises⟩
  · cases horigin

theorem sound_presentOrigin (value : FieldValue) (reader : Reader) :
    (presentOrigin trace value reader).Sound sandbox (presentStory enter tell value reader)
      (present enter value reader) := by
  cases reader with
  | string | bytes | qnamePackage | qnameEntity =>
    exact (Origin.sound_unknown _ _).bind fun _ => sound_stageOrigin hcall _
  | _ => exact Origin.sound_unknown _ _

/-- The invariant of an iteration: the call that is named is to blame for the last failure of the
guest. -/
theorem causes_rowsOrigin (callback : String) (rows : Rows σ) {last : Option (HostCall σ)}
    {failed : Option Failure} {notes : List (Note σ)}
    (hlast : ∀ call, last = some call → call.Causes sandbox notes failed) (s : Machine σ) {call}
    (horigin : rowsOrigin enter trace callback last rows s = some call) :
    ∃ failure? outcome t, deliverRows enter callback failed rows s = .ok (failure?, outcome) t ∧
      call.Causes sandbox (notes ++ rowsStory enter tell callback rows s) failure? := by
  induction rows generalizing last failed notes s with
  | done outcome state =>
    exact ⟨failed, outcome, _, rfl, (hlast call horigin).mono (List.subset_append_left _ _)⟩
  | row key value state resume ih =>
    have hrow := hcall callback [key.id, value.id] { s with bound := some state }
    rw [rowsOrigin] at horigin
    rw [rowsStory]
    cases hc : enter callback [key.id, value.id] { s with bound := some state } with
    | ok results t =>
      simp only [hc] at horigin ⊢
      cases hnext : t.bound with
      | none =>
        simp only [hnext] at horigin ⊢
        refine ⟨failed, .ok (), t, ?_, (hlast call horigin).mono (List.subset_append_left _ _)⟩
        simp only [deliverRows, hc, hnext]
      | some next =>
        simp only [hnext] at horigin ⊢
        rw [deliverRows_of_ok hc hnext]
        obtain ⟨failure?, outcome, u, hrows, hcauses⟩ := ih (.ok ()) next hlast t horigin
        refine ⟨failure?, outcome, u, hrows, hcauses.mono fun n hn => ?_⟩
        simp only [List.mem_append, List.mem_cons] at hn ⊢
        exact hn.imp_right fun hn => Or.inr (Or.inr hn)
    | error f t =>
      have hfailed : ∀ call, trace callback [key.id, value.id] { s with bound := some state }
          = some call → call.Causes sandbox
            (tell callback [key.id, value.id] { s with bound := some state }) (some f) := by
        intro call htrace
        have hcauses := hrow call htrace
        rwa [Run.failure?, hc] at hcauses
      simp only [hc] at horigin ⊢
      cases hnext : t.bound with
      | none =>
        simp only [hnext] at horigin ⊢
        refine ⟨some f, .ok (), t, ?_, (hfailed call horigin).mono fun n hn => ?_⟩
        · simp only [deliverRows, hc, hnext]
        · simp only [List.mem_append, List.mem_cons]
          exact Or.inr (Or.inr (Or.inl hn))
      | some next =>
        simp only [hnext] at horigin ⊢
        rw [deliverRows_of_error hc hnext]
        obtain ⟨failure?, outcome, u, hrows, hcauses⟩ :=
          ih (.error .interrupted) next hfailed t horigin
        refine ⟨failure?, outcome, u, hrows, hcauses.mono fun n hn => ?_⟩
        simp only [List.mem_append, List.mem_cons] at hn ⊢
        exact Or.inr (Or.inr hn)

theorem sound_iterateOrigin (key : UInt64) :
    (iterateOrigin sandbox enter trace key).Sound sandbox (iterateStory sandbox enter tell key)
      (iterateRows sandbox enter key) := by
  intro s call horigin
  rw [iterateOrigin] at horigin
  split at horigin
  · rename_i state exports hbound hexports
    have hnone : ∀ call : HostCall σ, none = some call → call.Causes sandbox [] none := by
      intro call h
      cases h
    obtain ⟨failure?, outcome, t, hrows, hnote, e, rfl, hraises⟩ := causes_rowsOrigin hcall
      exports.onReadValue (sandbox.adapter.readValues ⟨key⟩ state) hnone s horigin
    have hfails : iterateRows sandbox enter key s = .error (.host e) t := by
      rw [iterateRows, Run.bind_of_ok (boundState_of_eq_some hbound),
        Run.bind_of_ok (guestExports_of_eq_some hexports), Run.bind_of_ok hrows]
      rfl
    rw [List.nil_append] at hnote
    rw [HostCall.Causes, Run.failure?, hfails, iterateStory]
    simp only [hbound, hexports]
    exact ⟨hnote, e, rfl, hraises⟩
  · cases horigin

end Parts

section Names

variable {P : HostCall σ → Prop} (htrace : ∀ name args, (trace name args).Names P)

include htrace

theorem names_stageOrigin (bytes : ByteArray) : (stageOrigin trace bytes).Names P := by
  intro s call horigin
  rw [stageOrigin] at horigin
  split at horigin
  · cases horigin
  · split at horigin
    · exact htrace _ _ s call horigin
    · cases horigin

theorem names_presentOrigin (value : FieldValue) (reader : Reader) :
    (presentOrigin trace value reader).Names P := by
  cases reader with
  | string | bytes | qnamePackage | qnameEntity =>
    exact (Origin.names_unknown P).bind _ fun _ => names_stageOrigin htrace _
  | _ => exact Origin.names_unknown P

theorem names_rowsOrigin (callback : String) (rows : Rows σ) {last : Option (HostCall σ)}
    (hlast : ∀ call, last = some call → P call) :
    (rowsOrigin enter trace callback last rows).Names P := by
  induction rows generalizing last with
  | done outcome state => exact fun s => hlast
  | row key value state resume ih =>
    intro s call horigin
    have hrow := htrace callback [key.id, value.id] { s with bound := some state }
    simp only [rowsOrigin] at horigin
    split at horigin
    · split at horigin
      · exact ih _ _ hlast _ call horigin
      · exact hlast call horigin
    · split at horigin
      · exact ih _ _ hrow _ call horigin
      · exact hrow call horigin

theorem names_iterateOrigin (sandbox : Sandbox σ) (key : UInt64) :
    (iterateOrigin sandbox enter trace key).Names P := by
  intro s call horigin
  rw [iterateOrigin] at horigin
  split at horigin
  · refine names_rowsOrigin htrace _ _ (fun call h => ?_) s call horigin
    cases h
  · cases horigin

end Names

end Bridge

namespace HostFunction

open Guest Bridge

variable {σ : Type}

/-- The origin in the functions of the guest that a host function enters. -/
def originWithin (sandbox : Sandbox σ) (enter : Enter σ) (trace : Trace σ) (f : HostFunction)
    (args : List UInt64) : Origin σ :=
  match f with
  | .readValues => iterateOrigin sandbox enter trace (args.getD 0 0)
  | .read source reader =>
    Origin.unknown.bind (readField sandbox (fieldOf args source) (kindOf reader)) fun value =>
      presentOrigin trace value reader
  | _ => .unknown

/-- An error of the host that a call of a host function fails with comes from a function of the
guest that it enters, or else from the call itself. -/
def origin (sandbox : Sandbox σ) (depth : Nat) (trace : Trace σ) (f : HostFunction)
    (args : List UInt64) : Origin σ := fun s =>
  match Run.failure? (f.call sandbox (sandbox.callNested depth) args) s with
  | some (.host _) =>
    some ((f.originWithin sandbox (sandbox.callNested depth) trace args s).getD ⟨depth, f, args, s⟩)
  | _ => none

variable {sandbox : Sandbox σ} {tell : Tell σ} {trace : Trace σ}

theorem sound_originWithin {enter : Enter σ}
    (hcall : ∀ name args, (trace name args).Sound sandbox (tell name args) (enter name args))
    (f : HostFunction) (args : List UInt64) :
    (f.originWithin sandbox enter trace args).Sound sandbox (f.story sandbox enter tell args)
      (f.call sandbox enter args) := by
  intro s call horigin
  cases f with
  | readValues =>
    exact ((sound_iterateOrigin hcall (args.getD 0 0)).bind_pure _ s call horigin).mono
      (List.subset_cons_self _ _)
  | read source reader =>
    rw [call_read]
    obtain ⟨hnote, hcauses⟩ := (Origin.sound_unknown _ _).bind (fun value =>
      (sound_presentOrigin hcall value reader).bind_pure fun w => [w]) s call horigin
    exact ⟨List.mem_cons_of_mem _ hnote, hcauses⟩
  | _ => cases horigin

theorem names_originWithin {P : HostCall σ → Prop} (htrace : ∀ name args, (trace name args).Names P)
    (enter : Enter σ) (f : HostFunction) (args : List UInt64) :
    (f.originWithin sandbox enter trace args).Names P := by
  cases f with
  | readValues => exact names_iterateOrigin htrace sandbox _
  | read source reader =>
    exact (Origin.names_unknown P).bind _ fun value => names_presentOrigin htrace value reader
  | _ => exact Origin.names_unknown P

theorem traces_origin {depth : Nat}
    (hcall : ∀ name args,
      (trace name args).Traces sandbox (tell name args) (sandbox.callNested depth name args))
    (f : HostFunction) (args : List UInt64) :
    (f.origin sandbox depth trace args).Traces sandbox
      (f.story sandbox (sandbox.callNested depth) tell args)
      (f.call sandbox (sandbox.callNested depth) args) := by
  constructor
  · intro s call horigin
    rw [origin] at horigin
    split at horigin
    · rename_i e hfails
      obtain rfl := Option.some.inj horigin
      cases hwithin : f.originWithin sandbox (sandbox.callNested depth) trace args s with
      | none => exact ⟨List.mem_cons_self, e, hfails, hfails⟩
      | some call =>
        exact sound_originWithin (fun name args => (hcall name args).sound) f args s call hwithin
    · cases horigin
  · intro s e hfails
    rw [origin, hfails]
    rfl

end HostFunction

/-! ### Calls -/

namespace Guest

variable {σ : Type}

namespace Sandbox

/-- The origin in the body of a function, which is not entered when the time is over. -/
def functionOrigin (sandbox : Sandbox σ) (call : Enter σ) (trace : Trace σ) (f : Function)
    (args : List UInt64) : Origin σ := fun s =>
  if s.budget = 0 then none
  else Block.origin sandbox call trace f.body (.enter (narrowAll f.signature.params args)) s

/-- The origin in a call with at most a number of calls nested. -/
def originNested (sandbox : Sandbox σ) : Nat → Trace σ
  | 0, _, _ => .unknown
  | depth + 1, name, args =>
    match sandbox.program.function? name with
    | some f => functionOrigin sandbox (callNested sandbox depth) (originNested sandbox depth) f args
    | none =>
      match HostFunction.named? name with
      | some f =>
        f.origin sandbox depth (originNested sandbox depth) (narrowAll f.signature.params args)
      | none => .unknown

/-- The call of a host function that the error comes from which a call of a function fails with. -/
def origin (sandbox : Sandbox σ) : Trace σ := originNested sandbox maxDepth

theorem traces_functionOrigin {sandbox : Sandbox σ} {call : Enter σ} {tell : Tell σ}
    {trace : Trace σ}
    (hcall : ∀ name args, (trace name args).Traces sandbox (tell name args) (call name args))
    (f : Function) (args : List UInt64) :
    (functionOrigin sandbox call trace f args).Traces sandbox
      (functionStory sandbox call tell f args) (runFunction sandbox call f args) := by
  have hbody := Block.traces_origin hcall f.body (.enter (narrowAll f.signature.params args))
  have hfailure : ∀ s : Machine σ, s.budget ≠ 0 → Run.failure? (runFunction sandbox call f args) s
      = Run.failure? (Block.run sandbox call f.body (.enter (narrowAll f.signature.params args)))
          s := by
    intro s hbudget
    rw [Run.failure?, runFunction_of_budget_ne_zero sandbox call f args hbudget]
    exact Origin.failure?_bind_pure _ _ s
  constructor
  · intro s call' horigin
    rw [functionOrigin] at horigin
    split at horigin
    · cases horigin
    · rename_i hbudget
      rw [functionStory, if_neg hbudget, hfailure s hbudget]
      exact hbody.sound s call' horigin
  · intro s e hfails
    by_cases hbudget : s.budget = 0
    · rw [Run.failure?, runFunction_of_budget_eq_zero sandbox call f args hbudget] at hfails
      cases hfails
    · rw [hfailure s hbudget] at hfails
      rw [functionOrigin, if_neg hbudget]
      exact hbody.complete s e hfails

theorem traces_originNested (sandbox : Sandbox σ) (depth : Nat) (name : String)
    (args : List UInt64) :
    (originNested sandbox depth name args).Traces sandbox (historyNested sandbox depth name args)
      (callNested sandbox depth name args) := by
  induction depth generalizing name args with
  | zero => exact .of_reads (Run.Reads.trap .stackExhausted) _
  | succ depth ih =>
    rw [originNested, historyNested, callNested]
    cases sandbox.program.function? name with
    | some f => exact traces_functionOrigin ih f args
    | none =>
      cases HostFunction.named? name with
      | some f => exact (HostFunction.traces_origin ih f _).bind_pure _
      | none => exact .of_reads (Run.Reads.trap .unreachable) _

/-- **Origins.**  Whenever a call fails with an error of the host, its history tells of a call of a
host function, at whatever depth, that fails with the same error and that the error comes from. -/
theorem traces_origin (sandbox : Sandbox σ) (name : String) (args : List UInt64) :
    (sandbox.origin name args).Traces sandbox (sandbox.history name args)
      (sandbox.call name args) :=
  traces_originNested sandbox maxDepth name args

end Sandbox

/-- What a call of a host function fails with does not come from further within, that is, from a
function of the guest that it enters. -/
def HostCall.IsInnermost (sandbox : Sandbox σ) (call : HostCall σ) : Prop :=
  call.function.originWithin sandbox (sandbox.callNested call.depth)
    (sandbox.originNested call.depth) call.args call.machine = none

namespace Sandbox

theorem isInnermost_originNested (sandbox : Sandbox σ) (depth : Nat) (name : String)
    (args : List UInt64) :
    (originNested sandbox depth name args).Names (HostCall.IsInnermost sandbox) := by
  induction depth generalizing name args with
  | zero => exact Origin.names_unknown _
  | succ depth ih =>
    rw [originNested]
    cases sandbox.program.function? name with
    | some f =>
      intro s call horigin
      simp only [functionOrigin] at horigin
      split at horigin
      · cases horigin
      · exact Block.names_origin ih f.body _ s call horigin
    | none =>
      cases HostFunction.named? name with
      | none => exact Origin.names_unknown _
      | some f =>
        intro s call horigin
        simp only [HostFunction.origin] at horigin
        split at horigin
        · obtain rfl := Option.some.inj horigin
          cases hwithin : f.originWithin sandbox (sandbox.callNested depth)
              (sandbox.originNested depth) (narrowAll f.signature.params args) s with
          | none => exact hwithin
          | some call => exact HostFunction.names_originWithin ih _ f _ s call hwithin
        · cases horigin

/-- The error does not come from further within than its origin. -/
theorem isInnermost_origin (sandbox : Sandbox σ) (name : String) (args : List UInt64) :
    (sandbox.origin name args).Names (HostCall.IsInnermost sandbox) :=
  isInnermost_originNested sandbox maxDepth name args

/-- **Errors of the host.**  Every error of the host that a call fails with is raised by a host
function that its history tells of. -/
theorem explains_history (sandbox : Sandbox σ) (name : String) (args : List UInt64) :
    (sandbox.history name args).Explains sandbox (sandbox.call name args) :=
  (traces_origin sandbox name args).explains

end Sandbox

end Guest

end ExtensionHost
