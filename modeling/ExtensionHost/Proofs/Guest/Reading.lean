import ExtensionHost.Proofs.Binary.Widening
import ExtensionHost.Proofs.Bridge.Decoding
import ExtensionHost.Proofs.Guest.Passage

/-!
# Readings

A guest reads a field as a value of one kind, and the adapter answers with a value of whatever kind
the field has.  If the two agree, or the number that the adapter has is one that the guest's kind
holds as well, the guest gets the value; otherwise it gets an error that names both kinds, and
nothing has happened but the request.

**By name.**  There are twenty-nine host functions for this, and a guest knows them by their names.
So a reading is told by where the field is looked for, which is the first part of the name, and by
what is wanted, which is the last part of it (`Want`).  That the function of this name asks for the
right kind, and takes the right half of a qualified name, has to be shown.

**Up to staging.**  A text or some bytes are staged, which may fail for reasons of its own.  What is
said here is which part of the value the guest is handed.

## Main definitions

* `Bridge.Want`, what a guest wants of a field, and `Bridge.Want.Tells`, what is right to hand over
* `FieldValue.ReadsAs`, the kinds that a value can be read as
* `Bridge.Field`, what the adapter is asked for

## Main results

* `Bridge.named?_eq_function?`, the names of the functions
* `Bridge.Want.hands_deliver`, what is handed over of which value
* `Guest.Sandbox.reads_value_or_names_both_kinds`
-/

namespace ExtensionHost

open Guest

/-- A value can be read as a kind: it has this kind, or it is a number that the kind holds as
well. -/
def FieldValue.ReadsAs (v : FieldValue) (kind : FieldKind) : Prop :=
  v.kind = kind ∨ (v.kind = .int32 ∧ kind = .int64) ∨ (v.kind = .float32 ∧ kind = .float64)

instance (v : FieldValue) (kind : FieldKind) : Decidable (v.ReadsAs kind) :=
  inferInstanceAs (Decidable (_ ∨ _))

namespace Bridge

variable {σ : Type}

/-! ### What is asked for -/

/-- A field as an adapter knows it. -/
inductive Field where
  /-- A field of a key, by name. -/
  | key (key : KeyHandle) (name : String)
  /-- A field of a value, by name. -/
  | value (value : ValueHandle) (name : String)
  /-- A field of a value, by position. -/
  | item (value : ValueHandle) (index : UInt32)

/-- Ask an adapter for a field. -/
def Field.request (adapter : Adapter σ) (kind : FieldKind) : Field → σ → Adapter.Reply σ FieldValue
  | .key handle name => adapter.keyField handle name kind
  | .value handle name => adapter.valueField handle name kind
  | .item handle index => adapter.valueItem handle index kind

/-- What a guest passes stands for a field.  The name is a text in memory. -/
inductive FieldRef.Denotes (memory : Memory) : FieldRef → Field → Prop
  | key {key : UInt64} {ptr len : UInt32} {name : String} (hname : memory.HasText ptr len name) :
    Denotes memory (.key key ptr len) (.key ⟨key⟩ name)
  | value {value : UInt64} {ptr len : UInt32} {name : String}
    (hname : memory.HasText ptr len name) : Denotes memory (.value value ptr len) (.value ⟨value⟩ name)
  | item (value : UInt64) (index : UInt32) : Denotes memory (.item value index) (.item ⟨value⟩ index)

/-- One request is made, for the field that the guest names. -/
theorem readField_bind {α : Type} {sandbox : Sandbox σ} {ref : FieldRef} {field : Field}
    {s : Machine σ} {w : σ} (hexports : s.exports.isSome = true) (hbound : s.bound = some w)
    (h : ref.Denotes s.guest.memory field) (kind : FieldKind) (next : FieldValue → Run σ α) :
    (readField sandbox ref kind >>= next) s
      = afterReply s next (field.request sandbox.adapter kind w) := by
  cases h with
  | key hname =>
    rw [readField, bind_assoc, Run.bind_of_ok (boundState_of_eq_some hbound), bind_assoc,
      Run.bind_of_ok (readText_of_hasText hexports hname)]
    exact ask_bind hbound _ _
  | value hname =>
    rw [readField, bind_assoc, Run.bind_of_ok (boundState_of_eq_some hbound), bind_assoc,
      Run.bind_of_ok (readText_of_hasText hexports hname)]
    exact ask_bind hbound _ _
  | item value index =>
    rw [readField, bind_assoc, Run.bind_of_ok (boundState_of_eq_some hbound)]
    exact ask_bind hbound _ _

/-! ### What is wanted -/

/-- What a guest wants of a field: a value of a kind, or one half of a qualified name. -/
inductive Want where
  /-- A value of a kind. -/
  | whole (kind : FieldKind)
  /-- The package of a qualified name. -/
  | package
  /-- The entity of a qualified name. -/
  | entity
  deriving DecidableEq, Repr

namespace Want

/-- The last part of the name of the host function. -/
def suffix : Want → String
  | .whole kind => kind.text
  | .package => "qname_pkg"
  | .entity => "qname_entity"

/-- The kind that the adapter is asked for. -/
def kind : Want → FieldKind
  | .whole kind => kind
  | .package | .entity => .qname

/-- A part of a value is what the guest wants of it. -/
def Tells : Want → FieldValue → Part → Prop
  | .whole .string, .string text, .payload bytes => bytes = text.toUTF8
  | .whole .bytes, .bytes content, .payload bytes => bytes = content
  | .whole .int32, .int32 n, .number w => w = n.toUInt32.toUInt64
  | .whole .int64, .int64 n, .number w => w = n.toUInt64
  | .whole .int64, .int32 n, .number w => w.toInt64.toInt = n.toInt
  | .whole .float32, .float32 word, .number w => w = word.toUInt64
  | .whole .float64, .float64 word, .number w => w = word
  | .whole .float64, .float32 word, .number w =>
    w = Binary32.widen word ∧ Binary64.number w = Binary32.number word
  | .whole .bool, .bool flag, .number w => w = if flag then 1 else 0
  | .whole .value, .value handle, .number w => w = handle.id
  | .package, .qname name, .payload bytes => bytes = name.package.toUTF8
  | .entity, .qname name, .payload bytes => bytes = name.entity.toUTF8
  | _, _, _ => False

/-- The reader that hands over what is wanted.  Nested values have none, and qualified names are
read by halves. -/
def reader? : Want → Option Reader
  | .whole .string => some .string
  | .whole .bytes => some .bytes
  | .whole .int32 => some .int32
  | .whole .int64 => some .int64
  | .whole .float32 => some .float32
  | .whole .float64 => some .float64
  | .whole .bool => some .bool
  | .whole .qname | .whole .value => none
  | .package => some .qnamePackage
  | .entity => some .qnameEntity

/-- The host function that reads a field of some source.  Keys have no nested values. -/
def function? (source : FieldSource) (want : Want) : Option HostFunction :=
  match want.reader?, want, source with
  | some reader, _, source => some (.read source reader)
  | none, .whole .value, .value => some .nestedField
  | none, .whole .value, .item => some .nestedItem
  | none, _, _ => none

end Want

/-- **Names.**  What a function is called says what it reads. -/
theorem named?_eq_function? (source : FieldSource) (want : Want) :
    HostFunction.named? (source.stem ++ want.suffix) = want.function? source := by
  cases want with
  | whole kind => cases source <;> cases kind <;> decide +kernel
  | package => cases source <;> decide +kernel
  | entity => cases source <;> decide +kernel

/-! ### What is handed over -/

namespace Want

/-- What a host function makes of a value that the adapter has answered with. -/
def deliver (enter : Enter σ) (want : Want) (v : FieldValue) : Run σ UInt64 :=
  match want.reader? with
  | some reader => present enter v reader
  | none => return (← ofReply v.toValue?).id

/-- The story of it. -/
def deliverStory (enter : Enter σ) (tell : Tell σ) (want : Want) (v : FieldValue) : Story σ :=
  match want.reader? with
  | some reader => presentStory enter tell v reader
  | none => .silent

/-- A value is handed over if it can be read so, and refused otherwise. -/
inductive Hands (enter : Enter σ) (tell : Tell σ) (want : Want) (v : FieldValue) :
    Run σ UInt64 → Story σ → Prop
  /-- The part that is wanted is handed over. -/
  | handed (part : Part) (hreads : v.ReadsAs want.kind) (htells : want.Tells v part) :
    Hands enter tell want v (part.hand enter) (part.story enter tell)
  /-- There is no such part. -/
  | refused (hreads : ¬ v.ReadsAs want.kind) :
    Hands enter tell want v (fail (.state (.typeMismatch want.kind v.kind))) .silent

/-- What is handed over of which value, where it is of the kind that is wanted or widened. -/
theorem hands_whole (enter : Enter σ) (tell : Tell σ) {kind : FieldKind} (hkind : kind ≠ .qname)
    (v : FieldValue) :
    Hands enter tell (.whole kind) v ((whole kind).deliver enter v)
      ((whole kind).deliverStory enter tell v) := by
  have refused (h : ¬ v.ReadsAs kind) : Hands enter tell (.whole kind) v _ _ := .refused h
  cases kind with
  | qname => exact absurd rfl hkind
  | string =>
    cases v with
    | string text => exact .handed (.payload text.toUTF8) (.inl rfl) rfl
    | _ => exact refused (by simp [FieldValue.ReadsAs, FieldValue.kind])
  | bytes =>
    cases v with
    | bytes content => exact .handed (.payload content) (.inl rfl) rfl
    | _ => exact refused (by simp [FieldValue.ReadsAs, FieldValue.kind])
  | int32 =>
    cases v with
    | int32 n => exact .handed (.number n.toUInt32.toUInt64) (.inl rfl) rfl
    | _ => exact refused (by simp [FieldValue.ReadsAs, FieldValue.kind])
  | int64 =>
    cases v with
    | int64 n => exact .handed (.number n.toUInt64) (.inl rfl) rfl
    | int32 n =>
      refine .handed (.number n.toInt64.toUInt64) (.inr (.inl ⟨rfl, rfl⟩)) ?_
      show n.toInt64.toUInt64.toInt64.toInt = n.toInt
      rw [Int64.toInt64_toUInt64, Int32.toInt_toInt64]
    | _ => exact refused (by simp [FieldValue.ReadsAs, FieldValue.kind])
  | float32 =>
    cases v with
    | float32 word => exact .handed (.number word.toUInt64) (.inl rfl) rfl
    | _ => exact refused (by simp [FieldValue.ReadsAs, FieldValue.kind])
  | float64 =>
    cases v with
    | float64 word => exact .handed (.number word) (.inl rfl) rfl
    | float32 word =>
      exact .handed (.number (Binary32.widen word)) (.inr (.inr ⟨rfl, rfl⟩))
        ⟨rfl, Binary32.number_widen word⟩
    | _ => exact refused (by simp [FieldValue.ReadsAs, FieldValue.kind])
  | bool =>
    cases v with
    | bool flag => exact .handed (.number (if flag then 1 else 0)) (.inl rfl) rfl
    | _ => exact refused (by simp [FieldValue.ReadsAs, FieldValue.kind])
  | value =>
    cases v with
    | value handle => exact .handed (.number handle.id) (.inl rfl) rfl
    | _ => exact refused (by simp [FieldValue.ReadsAs, FieldValue.kind])

/-- **Values.**  Of all values and all that can be wanted of them. -/
theorem hands_deliver (enter : Enter σ) (tell : Tell σ) {source : FieldSource} {want : Want}
    (hwant : want.function? source ≠ none) (v : FieldValue) :
    Hands enter tell want v (want.deliver enter v) (want.deliverStory enter tell v) := by
  cases want with
  | whole kind =>
    refine hands_whole enter tell ?_ v
    rintro rfl
    cases source <;> exact hwant rfl
  | package =>
    cases v with
    | qname name => exact .handed (.payload name.package.toUTF8) (.inl rfl) rfl
    | _ => exact .refused (by simp [FieldValue.ReadsAs, FieldValue.kind, Want.kind])
  | entity =>
    cases v with
    | qname name => exact .handed (.payload name.entity.toUTF8) (.inl rfl) rfl
    | _ => exact .refused (by simp [FieldValue.ReadsAs, FieldValue.kind, Want.kind])

/-! ### Calls -/

/-- The host functions that read fields. -/
inductive Reads : FieldSource → Want → HostFunction → Prop
  /-- A reader takes what is wanted of a value. -/
  | reader {source : FieldSource} {want : Want} {reader : Reader} (h : want.reader? = some reader)
    (hkind : kindOf reader = want.kind) : Reads source want (.read source reader)
  /-- Nested values are handles. -/
  | field : Reads .value (.whole .value) .nestedField
  /-- So are those that are read by position. -/
  | item : Reads .item (.whole .value) .nestedItem

theorem reads_of_function? {source : FieldSource} {want : Want} {f : HostFunction}
    (hf : want.function? source = some f) : Reads source want f := by
  cases want with
  | whole kind =>
    cases kind with
    | qname => cases source <;> cases hf
    | value =>
      cases source <;> cases hf
      · exact .field
      · exact .item
    | _ => cases hf; exact .reader rfl rfl
  | package => cases hf; exact .reader rfl rfl
  | entity => cases hf; exact .reader rfl rfl

theorem fieldOf_narrowAll (args : List UInt64) (source : FieldSource) :
    HostFunction.fieldOf (narrowAll source.params args) source
      = HostFunction.fieldOf args source := by
  have hlong (w : UInt64) : NumberType.i64.narrow w = w := rfl
  rcases args with _ | ⟨a, _ | ⟨b, _ | ⟨c, _⟩⟩⟩ <;> cases source <;>
    simp [HostFunction.fieldOf, FieldSource.params, narrowAll, hlong]

section Calls

variable {sandbox : Sandbox σ} {enter : Enter σ} {tell : Tell σ} {source : FieldSource}
  {want : Want} {f : HostFunction} {args : List UInt64} {v : FieldValue} {s asked : Machine σ}

/-- What is made of the answer. -/
theorem Reads.call_eq (h : Reads source want f) (args : List UInt64) :
    f.call sandbox enter args
      = readField sandbox (HostFunction.fieldOf args source) want.kind >>= fun v =>
          want.deliver enter v >>= fun w => pure [w] := by
  cases h with
  | reader h hkind =>
    rw [HostFunction.call_read, hkind]
    simp only [deliver, h]
  | field => simp only [deliver, reader?, bind_assoc, pure_bind]; rfl
  | item => simp only [deliver, reader?, bind_assoc, pure_bind]; rfl

/-- A nested value is a number, and handing it over changes nothing. -/
theorem after_deliver_value (v : FieldValue) :
    Run.after ((whole .value).deliver enter v) asked = asked := by
  show Run.after (ofReply v.toValue? >>= fun handle => pure handle.id) asked = asked
  rw [Run.after_bind_pure]
  exact after_ofReply _ asked

/-- A call tells of one request, and then of what is made of the answer. -/
theorem Reads.story_eq (h : Reads source want f)
    (hanswer : readField sandbox (HostFunction.fieldOf args source) want.kind s = .ok v asked) :
    f.story sandbox enter tell args s
      = ⟨.entered f args, s, s⟩ :: ⟨.asked, s, asked⟩ :: want.deliverStory enter tell v asked := by
  have hafter : Run.after (f.call sandbox enter args) s
      = Run.after (want.deliver enter v) asked := by
    rw [h.call_eq, Run.after, Run.bind_of_ok hanswer]
    exact Run.after_bind_pure _ _ _
  cases h with
  | reader h hkind =>
    rw [← hkind] at hanswer
    simp only [HostFunction.story, Story.bind, Story.once, hanswer, Run.after, deliverStory, h]
    rfl
  | field =>
    rw [HostFunction.story_of_not_entersGuest sandbox enter tell rfl, Story.once, hafter,
      after_deliver_value]
    rfl
  | item =>
    rw [HostFunction.story_of_not_entersGuest sandbox enter tell rfl, Story.once, hafter,
      after_deliver_value]
    rfl

/-- What is handed over has no more bits than the function yields. -/
theorem Reads.narrow_eq (h : Reads source want f) {part : Part} (htells : want.Tells v part)
    {w : UInt64} {t : Machine σ} (hw : part.hand enter asked = .ok w t) :
    narrowAll f.signature.results [w] = [w] := by
  cases h with
  | field => rfl
  | item => rfl
  | @reader source want reader h hkind =>
    show [reader.result.narrow w] = [w]
    cases want with
    | package => cases h; rfl
    | entity => cases h; rfl
    | whole kind =>
      cases kind <;> cases h <;> try rfl
      -- what is left are the numbers of 32 bits
      all_goals cases v <;> cases part <;> cases htells
      all_goals cases hw
      · exact congrArg (fun w => [w]) (low_toUInt64 _)
      · exact congrArg (fun w => [w]) (low_toUInt64 _)
      · rename_i flag
        cases flag <;> rfl

end Calls

end Want

end Bridge

namespace Guest.Sandbox

open Bridge

variable {σ : Type}

/-- **Readings.**  Take any field, anything that a guest may want of it, and the host function that
is called for that.  The adapter is asked once: for this field, and for the kind that is wanted.

If the value that it answers with has this kind, or is a number that the kind holds as well, the
guest is handed what it wants of the value, which may have to be staged.  Otherwise the call fails
with an error that names the kind that is wanted and the kind of the value, and nothing has changed
but the state of the adapter. -/
theorem reads_value_or_names_both_kinds (sandbox : Sandbox σ) (depth : Nat) {source : FieldSource}
    {want : Want} {f : HostFunction}
    (hf : HostFunction.named? (source.stem ++ want.suffix) = some f) (args : List UInt64)
    {s : Machine σ} {w : σ} (hexports : s.exports.isSome = true) (hbound : s.bound = some w)
    {field : Field} (hfield : (HostFunction.fieldOf args source).Denotes s.guest.memory field)
    {v : FieldValue} {w' : σ} (hreply : field.request sandbox.adapter want.kind w = (.ok v, w')) :
    let enter := sandbox.callNested depth
    let asked : Machine σ := { s with bound := some w' }
    let request : List (Note σ) :=
      [⟨.entered f (narrowAll f.signature.params args), s, s⟩, ⟨.asked, s, asked⟩]
    (v.ReadsAs want.kind →
      ∃ part, want.Tells v part ∧
        sandbox.callHost depth f args s = (part.hand enter >>= fun word => pure [word]) asked ∧
        sandbox.hostStory depth f args s
          = request ++ part.story enter (sandbox.historyNested depth) asked) ∧
    (¬ v.ReadsAs want.kind →
      sandbox.callHost depth f args s
          = .error (.host (.state (.typeMismatch want.kind v.kind))) asked ∧
        sandbox.hostStory depth f args s = request) := by
  intro enter asked request
  rw [named?_eq_function?] at hf
  have hreads := Want.reads_of_function? hf
  have hparams : f.signature.params = source.params := by cases hreads <;> rfl
  have hanswer : readField sandbox
      (HostFunction.fieldOf (narrowAll f.signature.params args) source) want.kind s
        = .ok v asked := by
    rw [hparams, Want.fieldOf_narrowAll, ← bind_pure (readField _ _ _),
      readField_bind hexports hbound hfield, hreply]
    rfl
  have hcall : f.call sandbox enter (narrowAll f.signature.params args) s
      = (want.deliver enter v >>= fun word => pure [word]) asked := by
    rw [hreads.call_eq, Run.bind_of_ok hanswer]
  have hstory : sandbox.hostStory depth f args s
      = request ++ want.deliverStory enter (sandbox.historyNested depth) v asked :=
    hreads.story_eq hanswer
  have hhands := Want.hands_deliver enter (sandbox.historyNested depth)
    (hf ▸ Option.some_ne_none f : want.function? source ≠ none) v
  generalize want.deliver enter v = handing at hcall hhands
  generalize want.deliverStory enter (sandbox.historyNested depth) v = told at hstory hhands
  cases hhands with
  | handed part hreadsAs htells =>
    refine ⟨fun _ => ⟨part, htells, ?_, hstory⟩, fun hnot => absurd hreadsAs hnot⟩
    show (f.call sandbox enter (narrowAll f.signature.params args) >>= fun results =>
      pure (narrowAll f.signature.results results)) s = _
    cases hhand : part.hand enter asked with
    | ok word t =>
      rw [Run.bind_of_ok hhand] at hcall ⊢
      rw [Run.bind_of_ok hcall]
      show EStateM.Result.ok (narrowAll f.signature.results [word]) t = .ok [word] t
      rw [hreads.narrow_eq htells hhand]
    | error e t =>
      rw [Run.bind_of_error hhand] at hcall ⊢
      rw [Run.bind_of_error hcall]
  | refused hnot =>
    refine ⟨fun hreadsAs => absurd hreadsAs hnot, fun _ => ⟨?_, ?_⟩⟩
    · exact Run.bind_of_error hcall
    · exact hstory.trans (List.append_nil request)

end Guest.Sandbox

/-- An adapter where every item is five below zero.  It keeps what it is asked for. -/
def Sample.thermometer : Adapter (List (String × String)) :=
  { Sample.registry with
    valueItem := fun _ index kind asked =>
      (.ok (.int32 (-5)), asked ++ [(kind.text, toString index)]) }

namespace Guest.Sandbox

/-- A number of 32 bits is read as one of 64 bits, and not as a text. -/
theorem reads_value_or_names_both_kinds_sample :
    let sandbox : Sandbox (List (String × String)) :=
      { Sample.registrySandbox with adapter := Sample.thermometer }
    sandbox.callHost 1 (.read .item .int64) [3, 7] Sample.running
        = .ok [0xFFFFFFFFFFFFFFFB] { Sample.running with bound := some [("int64", "7")] } ∧
      sandbox.callHost 1 (.read .item .string) [3, 7] Sample.running
        = .error (.host (.state (.typeMismatch .string .int32)))
            { Sample.running with bound := some [("string", "7")] } := by
  intro sandbox
  have hlong := (sandbox.reads_value_or_names_both_kinds 1
    (Bridge.named?_eq_function? .item (.whole .int64)) [3, 7] (s := Sample.running) rfl rfl
    (.item 3 7) rfl).1 (by decide)
  have htext := (sandbox.reads_value_or_names_both_kinds 1
    (Bridge.named?_eq_function? .item (.whole .string)) [3, 7] (s := Sample.running) rfl rfl
    (.item 3 7) rfl).2 (by decide)
  refine ⟨?_, htext.1⟩
  obtain ⟨part, htells, hcall, -⟩ := hlong
  cases part with
  | payload bytes => cases htells
  | number word =>
    have hword : word.toInt64 = -5 := Int64.toInt_inj.mp htells
    have : word = 0xFFFFFFFFFFFFFFFB := by
      rw [← UInt64.toUInt64_toInt64 word, hword]
      rfl
    exact this ▸ hcall

end Guest.Sandbox

end ExtensionHost
