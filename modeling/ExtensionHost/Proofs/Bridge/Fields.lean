import Mathlib.Data.List.Forall2
import ExtensionHost.Proofs.Guest.Untouched

/-!
# How field values are encoded

A guest gets a field value as one word, or as two words if it is a qualified name.  A word is a
number, or it says where a payload was staged.  To put the value into a field, the guest passes
numbers on as they are, and the halves of a packed word as an address and a length.  What the host
decodes from these arguments is the value, as long as the payloads are where they were staged.

## Main definitions

* `FieldValue.payload?`, `Payload.readers` and `Payload.arguments`
* `Bridge.Part` and `FieldValue.part?`, what a reader hands to the guest
* `Bridge.Encodes`, words that stand for a value

## Main results

* `Bridge.present_eq_hand`, readers hand over parts
* `Bridge.Encodes.decodePayload`, the host decodes the value that words stand for
* `Bridge.Encodes.call_put`, the adapter puts this value
-/

namespace ExtensionHost

open Guest

/-- The payload that carries a value.  Nested values are not put into fields. -/
def FieldValue.payload? : FieldValue → Option Payload
  | .string _ => some .string
  | .bytes _ => some .bytes
  | .int32 _ => some .int32
  | .int64 _ => some .int64
  | .float32 _ => some .float32
  | .float64 _ => some .float64
  | .bool _ => some .bool
  | .qname _ => some .qname
  | .value _ => none

namespace Payload

/-- The readers by which a guest gets a value that a payload carries. -/
def readers : Payload → List Reader
  | .string => [.string]
  | .bytes => [.bytes]
  | .int32 => [.int32]
  | .int64 => [.int64]
  | .float32 => [.float32]
  | .float64 => [.float64]
  | .bool => [.bool]
  | .qname => [.qnamePackage, .qnameEntity]

/-- The words of a value as arguments: packed words are passed by their halves. -/
def spread : Payload → List UInt64 → List UInt64
  | .string, words | .bytes, words | .qname, words =>
    words.flatMap fun w : UInt64 => [w >>> 32, w &&& 0xFFFFFFFF]
  | _, words => words

/-- The arguments by which a guest puts a value into a field: the identifier and the tag of the row
writer, the name of the field, and the words of the value. -/
def arguments (payload : Payload) (id : UInt64) (tag : UInt32) (name : Slice)
    (words : List UInt64) : List UInt64 :=
  [id, tag.toUInt64, name.ptr.toUInt64, name.len.toUInt64] ++ payload.spread words

end Payload

/-! ### Words and texts -/

/-- The lower half of a word is the lower half of the word that it was cut from. -/
theorem toUInt32_low (w : UInt64) : (w &&& 0xFFFFFFFF).toUInt32 = w.toUInt32 := by
  refine UInt32.toNat_inj.mp ?_
  rw [UInt64.toNat_toUInt32, UInt64.toNat_toUInt32, UInt64.toNat_and]
  show (w.toNat &&& (2 ^ 32 - 1)) % 2 ^ 32 = w.toNat % 2 ^ 32
  rw [Nat.and_two_pow_sub_one_eq_mod, Nat.mod_mod]

/-- A number of 32 bits has no other bits. -/
theorem low_toUInt64 (n : UInt32) : n.toUInt64 &&& 0xFFFFFFFF = n.toUInt64 := by
  refine UInt64.toNat_inj.mp ?_
  rw [UInt64.toNat_and, UInt32.toNat_toUInt64]
  show n.toNat &&& (2 ^ 32 - 1) = n.toNat
  rw [Nat.and_two_pow_sub_one_eq_mod]
  exact Nat.mod_eq_of_lt n.toNat_lt

/-- Crossing the boundary does not touch the lower half of a word. -/
@[simp] theorem toUInt32_narrow (type : NumberType) (w : UInt64) :
    (type.narrow w).toUInt32 = w.toUInt32 := by
  cases type with
  | i32 | f32 => exact toUInt32_low w
  | i64 | f64 => rfl

/-- A text is read from its own bytes. -/
theorem Utf8.decode_toUTF8 (text : String) : decode text.toUTF8 = .ok text := by
  have hvalid : String.fromUTF8? text.toUTF8 = some text := by
    simp only [String.fromUTF8?, String.toUTF8_eq_toByteArray, dif_pos text.isValidUTF8]
    rfl
  rw [decode, hvalid]

namespace Bridge

variable {σ : Type}

/-! ### To the guest -/

/-- What a reader hands to the guest. -/
inductive Part where
  /-- A number. -/
  | number (w : UInt64)
  /-- A payload, which is staged. -/
  | payload (bytes : ByteArray)

namespace Part

/-- Hand a part to the guest. -/
def hand (enter : Enter σ) : Part → Run σ UInt64
  | .number w => pure w
  | .payload bytes => stage enter bytes

/-- The story of handing a part to the guest. -/
def story (enter : Enter σ) (tell : Tell σ) : Part → Story σ
  | .number _ => .silent
  | .payload bytes => stageStory enter tell bytes

/-- A word stands for a part, given the payloads that were handed out. -/
def IsWord (ps : List Handout) : Part → UInt64 → Prop
  | .number n, w => w = n
  | .payload bytes, w => (bytes, w) ∈ ps

theorem IsWord.mono {ps ps' : List Handout} {part : Part} {w : UInt64} (h : part.IsWord ps w)
    (hps : ps ⊆ ps') : part.IsWord ps' w := by
  cases part with
  | number n => exact h
  | payload bytes => exact hps h

/-- The word that the guest gets for a part stands for it. -/
theorem isWord_of_hand {enter : Enter σ} {tell : Tell σ} {part : Part} {s t : Machine σ}
    {w : UInt64} (hs : s.exports.isSome = true) (h : part.hand enter s = .ok w t) :
    part.IsWord (handouts (part.story enter tell s)) w := by
  cases part with
  | number n =>
    cases h
    rfl
  | payload bytes =>
    have hstory : ∃ u, (stageStory enter tell bytes s).getLast?
        = some ⟨.staged bytes w, u, t⟩ := getLast?_stageStory hs h
    obtain ⟨u, hlast⟩ := hstory
    exact List.mem_filterMap.mpr ⟨_, List.mem_of_getLast? hlast, rfl⟩

end Part

end Bridge

open Bridge in
/-- The part of a value that a reader of its own kind hands to the guest. -/
def FieldValue.part? : FieldValue → Reader → Option Part
  | .string text, .string => some (.payload text.toUTF8)
  | .bytes content, .bytes => some (.payload content)
  | .int32 n, .int32 => some (.number n.toUInt32.toUInt64)
  | .int64 n, .int64 => some (.number n.toUInt64)
  | .float32 w, .float32 => some (.number w.toUInt64)
  | .float64 w, .float64 => some (.number w)
  | .bool flag, .bool => some (.number (if flag then 1 else 0))
  | .qname name, .qnamePackage => some (.payload name.package.toUTF8)
  | .qname name, .qnameEntity => some (.payload name.entity.toUTF8)
  | _, _ => none

/-- The readers of a value's own kind all hand over a part of it. -/
theorem FieldValue.isSome_part? {v : FieldValue} {payload : Payload}
    (hv : v.payload? = some payload) : ∀ reader ∈ payload.readers, (v.part? reader).isSome = true := by
  cases v <;> cases hv <;> simp [Payload.readers, part?]

namespace Bridge

variable {σ : Type}

/-- A reader hands over a part of a value of its own kind. -/
theorem present_eq_hand {v : FieldValue} {reader : Reader} {part : Part}
    (h : v.part? reader = some part) (enter : Enter σ) :
    present enter v reader = part.hand enter := by
  cases v <;> cases reader <;> cases h <;> rfl

theorem presentStory_eq_story {v : FieldValue} {reader : Reader} {part : Part}
    (h : v.part? reader = some part) (enter : Enter σ) (tell : Tell σ) :
    presentStory enter tell v reader = part.story enter tell := by
  cases v <;> cases reader <;> cases h <;> rfl

/-- What a reader hands over has no more bits than the reader yields. -/
theorem narrow_of_hand {v : FieldValue} {reader : Reader} {part : Part} {enter : Enter σ}
    {s t : Machine σ} {w : UInt64} (h : v.part? reader = some part)
    (hw : part.hand enter s = .ok w t) : reader.result.narrow w = w := by
  cases v <;> cases reader <;> cases h <;> try rfl
  -- what is left are the numbers of 32 bits
  all_goals cases hw
  · exact low_toUInt64 _
  · exact low_toUInt64 _
  · rename_i flag
    cases flag <;> rfl

/-- Words stand for a value, one for each of some readers. -/
def Encodes (ps : List Handout) (v : FieldValue) : List Reader → List UInt64 → Prop :=
  List.Forall₂ fun reader w => ∃ part, v.part? reader = some part ∧ part.IsWord ps w

namespace Encodes

variable {ps : List Handout} {v : FieldValue} {reader : Reader} {readers : List Reader}
  {words : List UInt64} {part : Part}

theorem cons_iff (hpart : v.part? reader = some part) :
    Encodes ps v (reader :: readers) words ↔
      ∃ w rest, words = w :: rest ∧ part.IsWord ps w ∧ Encodes ps v readers rest := by
  rw [Encodes, List.forall₂_cons_left_iff]
  constructor
  · rintro ⟨w, rest, ⟨part', hpart', hword⟩, hrest, rfl⟩
    cases hpart.symm.trans hpart'
    exact ⟨w, rest, rfl, hword, hrest⟩
  · rintro ⟨w, rest, rfl, hword, hrest⟩
    exact ⟨w, rest, ⟨part, hpart, hword⟩, hrest, rfl⟩

/-- A value that is read by one reader is one word. -/
theorem of_single (h : Encodes ps v [reader] words) (hpart : v.part? reader = some part) :
    ∃ w, words = [w] ∧ part.IsWord ps w := by
  obtain ⟨w, rest, rfl, hword, hrest⟩ := (cons_iff hpart).mp h
  cases List.forall₂_nil_left_iff.mp hrest
  exact ⟨w, rfl, hword⟩

end Encodes

/-! ### To the host -/

section Decoding

variable {s : Machine σ} {ps : List Handout} {limit : Nat}

/-- The halves of a packed word name the payload that was handed out. -/
theorem readBytes_halves (hs : s.guest.IsSound limit) (hexports : s.exports.isSome = true)
    (hps : ∀ p ∈ ps, s.guest.Holds p) {bytes : ByteArray} {w : UInt64} (hp : (bytes, w) ∈ ps) :
    readBytes (NumberType.i32.narrow (w >>> 32)).toUInt32
      (NumberType.i32.narrow (w &&& 0xFFFFFFFF)).toUInt32 s = .ok bytes s := by
  have hread := (hps _ hp).readBytes hs hexports
  rw [Handout.slice, Slice.unpack] at hread
  rw [toUInt32_narrow, toUInt32_narrow, toUInt32_low]
  exact hread

theorem readText_halves (hs : s.guest.IsSound limit) (hexports : s.exports.isSome = true)
    (hps : ∀ p ∈ ps, s.guest.Holds p) {text : String} {w : UInt64} (hp : (text.toUTF8, w) ∈ ps) :
    readText (NumberType.i32.narrow (w >>> 32)).toUInt32
      (NumberType.i32.narrow (w &&& 0xFFFFFFFF)).toUInt32 s = .ok text s :=
  readText_eq_ok_iff.mpr
    ⟨_, readBytes_halves hs hexports hps hp, Utf8.decode_toUTF8 text⟩

/-- **Decoding.**  What the host decodes from the words of a value is the value, as long as the
payloads are where they were staged. -/
theorem Encodes.decodePayload {v : FieldValue} {payload : Payload} {words : List UInt64}
    (h : Encodes ps v payload.readers words) (hv : v.payload? = some payload)
    (hs : s.guest.IsSound limit) (hexports : s.exports.isSome = true)
    (hps : ∀ p ∈ ps, s.guest.Holds p) (id : UInt64) (tag : UInt32) (name : Slice) :
    Bridge.decodePayload
      (narrowAll (HostFunction.put payload).signature.params (payload.arguments id tag name words))
      payload s = .ok v s := by
  cases v with
  | value handle => cases hv
  | string text =>
    cases hv
    obtain ⟨w, rfl, hword⟩ := h.of_single rfl
    exact Run.bind_of_ok (readText_halves hs hexports hps hword)
  | bytes content =>
    cases hv
    obtain ⟨w, rfl, hword⟩ := h.of_single rfl
    exact Run.bind_of_ok (readBytes_halves hs hexports hps hword)
  | qname q =>
    cases hv
    obtain ⟨w, rest, rfl, hpackage, hrest⟩ := (Encodes.cons_iff rfl).mp h
    obtain ⟨w', rfl, hentity⟩ := hrest.of_single rfl
    exact (Run.bind_of_ok (readText_halves hs hexports hps hpackage)).trans
      (Run.bind_of_ok (readText_halves hs hexports hps hentity))
  | int32 n =>
    cases hv
    obtain ⟨w, rfl, rfl⟩ := h.of_single rfl
    show EStateM.Result.ok
      (FieldValue.int32 (NumberType.i32.narrow n.toUInt32.toUInt64).toUInt32.toInt32) s = _
    simp
  | int64 n =>
    cases hv
    obtain ⟨w, rfl, rfl⟩ := h.of_single rfl
    show EStateM.Result.ok (FieldValue.int64 n.toUInt64.toInt64) s = _
    simp
  | float32 w =>
    cases hv
    obtain ⟨_, rfl, rfl⟩ := h.of_single rfl
    show EStateM.Result.ok (FieldValue.float32 (NumberType.f32.narrow w.toUInt64).toUInt32) s = _
    simp
  | float64 w =>
    cases hv
    obtain ⟨_, rfl, rfl⟩ := h.of_single rfl
    rfl
  | bool flag =>
    cases hv
    obtain ⟨w, rfl, rfl⟩ := h.of_single rfl
    show EStateM.Result.ok
      (FieldValue.bool ((NumberType.i32.narrow (if flag then 1 else 0)).toUInt32 != 0)) s = _
    rw [toUInt32_narrow]
    cases flag <;> rfl

end Decoding

/-! ### Putting a field -/

/-- What a host function comes to that makes a request to the adapter and has no results, by what
the adapter replied. -/
def settle (s : Machine σ) : Adapter.Reply σ Unit → EStateM.Result Failure (Machine σ) (List UInt64)
  | (.ok (), state) => .ok [] { s with bound := some state }
  | (.error e, state) => .error (.host (.state e)) { s with bound := some state }

/-- A guest that puts a value into a field makes the adapter put this very value, with the row
writer and the name that it passes. -/
theorem call_put_of_decodes {sandbox : Sandbox σ} {enter : Enter σ} {payload : Payload}
    {args : List UInt64} {v : FieldValue} {writer : RowWriter} {name : String} {s : Machine σ}
    {state : σ} (hvalue : decodePayload args payload s = .ok v s)
    (hwriter : RowWriter.ofTag? (args.getD 0 0) (args.getD 1 0).toUInt32 = some writer)
    (hname : readText (args.getD 2 0).toUInt32 (args.getD 3 0).toUInt32 s = .ok name s)
    (hbound : s.bound = some state) :
    (HostFunction.put payload).call sandbox enter args s
      = settle s (sandbox.adapter.putField writer name v state) := by
  have hput : putField sandbox (args.getD 0 0) (args.getD 1 0).toUInt32 (args.getD 2 0).toUInt32
      (args.getD 3 0).toUInt32 v s = ask sandbox (sandbox.adapter.putField writer name v) s := by
    rw [putField, hwriter]
    exact Run.bind_of_ok hname
  have hask : ask sandbox (sandbox.adapter.putField writer name v) s
      = ofReply (sandbox.adapter.putField writer name v state).1
          { s with bound := some (sandbox.adapter.putField writer name v state).2 } := by
    rw [ask, Run.bind_of_ok (boundState_of_eq_some hbound)]
    rfl
  refine (Run.bind_of_ok hvalue).trans ?_
  cases hreply : sandbox.adapter.putField writer name v state with
  | mk reply next =>
    rw [hreply] at hask
    cases reply with
    | ok u => exact Run.bind_of_ok (hput.trans hask)
    | error e => exact Run.bind_of_error (hput.trans hask)

/-- The words of a value that a guest puts into a field make the adapter put the value. -/
theorem Encodes.call_put (sandbox : Sandbox σ) (enter : Enter σ) {s : Machine σ}
    {ps : List Handout} {limit : Nat} {v : FieldValue} {payload : Payload} {words : List UInt64}
    (h : Encodes ps v payload.readers words) (hv : v.payload? = some payload)
    (hs : s.guest.IsSound limit) (hexports : s.exports.isSome = true)
    (hps : ∀ p ∈ ps, s.guest.Holds p) {id : UInt64} {tag : UInt32} {writer : RowWriter}
    (hwriter : RowWriter.ofTag? id tag = some writer) {name : Slice} {text : String}
    (hname : readText name.ptr name.len s = .ok text s) {state : σ} (hbound : s.bound = some state) :
    (HostFunction.put payload).call sandbox enter
        (narrowAll (HostFunction.put payload).signature.params
          (payload.arguments id tag name words)) s
      = settle s (sandbox.adapter.putField writer text v state) := by
  have hshort (n : UInt32) : (NumberType.i32.narrow n.toUInt64).toUInt32 = n := by simp
  refine call_put_of_decodes (h.decodePayload hv hs hexports hps id tag name) ?_ ?_ hbound
  · show RowWriter.ofTag? id (NumberType.i32.narrow tag.toUInt64).toUInt32 = some writer
    rw [hshort, hwriter]
  · show readText (NumberType.i32.narrow name.ptr.toUInt64).toUInt32
      (NumberType.i32.narrow name.len.toUInt64).toUInt32 s = _
    rw [hshort, hshort, hname]

end Bridge

end ExtensionHost
