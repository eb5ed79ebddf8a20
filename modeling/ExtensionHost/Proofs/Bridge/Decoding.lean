import ExtensionHost.Guest.Standard
import ExtensionHost.Proofs.Bridge.Fields

/-!
# Arguments are decoded before anything is done

A host function that takes pointers has slices to read, some of them as text, and row writers have a
tag.  What has to be true of them is a list of demands (`Bridge.Demand`), in the order in which they
are looked at.

The demands are about the memory and nothing else, so the first one that is not met can be told
before the call (`Bridge.firstDefect?`).  It decides the error; the adapter is not asked and the
machine stays as it is.  If all demands are met, the arguments stand for something
(`HostFunction.IsDecoded`), and the call makes the one request that belongs to it
(`Bridge.Decoded.serve`).

How a call goes on after the request is no part of this: a text that the adapter answers with is
staged, for which the guest's allocator may be called.

## Main definitions

* `Memory.HasText`, a text that stands in a memory
* `Bridge.Demand`, with `Bridge.Demand.Holds` and `Bridge.Demand.complaint`
* `HostFunction.demands` and `Bridge.firstDefect?`
* `Bridge.Decoded`, `HostFunction.IsDecoded` and `Bridge.Decoded.serve`
* `Bridge.Screens`, demands that come before everything else

## Main results

* `Utf8.decode_eq_ok_iff`
* `HostFunction.screens_call`
* `HostFunction.decodes_all_or_has_no_effect`
-/

namespace ExtensionHost

open Guest

/-- Bytes are read as a text if and only if they encode it. -/
theorem Utf8.decode_eq_ok_iff {bytes : ByteArray} {text : String} :
    decode bytes = .ok text ↔ text.toUTF8 = bytes := by
  constructor
  · intro h
    simp only [decode, String.fromUTF8?] at h
    split at h
    · rename_i read hread
      split at hread
      · cases hread
        cases h
        rfl
      · cases hread
    · cases h
  · rintro rfl
    exact decode_toUTF8 text

/-- A text stands in a memory: its bytes are those of the slice, all of which lies within. -/
def Memory.HasText (memory : Memory) (ptr len : UInt32) (text : String) : Prop :=
  ptr.toNat + len.toNat ≤ memory.size ∧ text.toUTF8 = memory.read ptr.toNat len.toNat

/-- No other text stands in its place. -/
theorem Memory.HasText.unique {memory : Memory} {ptr len : UInt32} {text text' : String}
    (h : memory.HasText ptr len text) (h' : memory.HasText ptr len text') : text = text' := by
  have hdecode := Utf8.decode_eq_ok_iff.mpr h.2
  rw [Utf8.decode_eq_ok_iff.mpr h'.2] at hdecode
  exact (Except.ok.inj hdecode).symm

namespace Bridge

/-! ### Demands -/

/-- What a host function demands of its arguments. -/
inductive Demand where
  /-- A slice that can be read as text. -/
  | text (ptr len : UInt32)
  /-- A slice that can be read. -/
  | bytes (ptr len : UInt32)
  /-- The tag of a row writer. -/
  | writer (tag : UInt32)
  deriving DecidableEq, Repr

namespace Demand

/-- A demand is met.  Addresses and lengths are added as numbers, without a bound. -/
def Holds (memory : Memory) : Demand → Prop
  | .text ptr len => ∃ text, memory.HasText ptr len text
  | .bytes ptr len => ptr.toNat + len.toNat ≤ memory.size
  | .writer tag => tag = 0 ∨ tag = 1

/-- A text stands in a memory if and only if its slice lies within and can be decoded. -/
theorem holds_text_iff {memory : Memory} {ptr len : UInt32} :
    (Demand.text ptr len).Holds memory ↔
      ptr.toNat + len.toNat ≤ memory.size ∧
        (Utf8.decode (memory.read ptr.toNat len.toNat)).toOption.isSome = true := by
  simp only [Holds, Memory.HasText, exists_and_left, and_congr_right_iff]
  intro _
  rcases hdecode : Utf8.decode (memory.read ptr.toNat len.toNat) with fault | decoded
  · refine ⟨fun ⟨decoded, hdecoded⟩ => ?_, fun h => absurd h Bool.false_ne_true⟩
    rw [Utf8.decode_eq_ok_iff.mpr hdecoded] at hdecode
    cases hdecode
  · exact ⟨fun _ => rfl, fun _ => ⟨decoded, Utf8.decode_eq_ok_iff.mp hdecode⟩⟩

instance decidableHolds (memory : Memory) : (d : Demand) → Decidable (d.Holds memory)
  | .text _ _ => decidable_of_iff _ holds_text_iff.symm
  | .bytes ptr len => inferInstanceAs (Decidable (ptr.toNat + len.toNat ≤ memory.size))
  | .writer tag => inferInstanceAs (Decidable (tag = 0 ∨ tag = 1))

/-- The error that says that a demand is not met. -/
def complaint (memory : Memory) : Demand → ExtensionError
  | .text ptr len =>
    if ptr.toNat + len.toNat ≤ memory.size then
      let fault := (Utf8.firstFault (memory.read ptr.toNat len.toNat)).getD ⟨0, none⟩
      .trap s!"invalid UTF-8 string at offset {ptr.toNat}: {fault.message}"
    else .unableToReadMemory ptr len
  | .bytes ptr len => .unableToReadMemory ptr len
  | .writer tag => .invalidRowWriter tag

end Demand

/-- The first of some demands that is not met. -/
def firstDefect? (memory : Memory) (demands : List Demand) : Option Demand :=
  demands.find? fun d => ¬ d.Holds memory

end Bridge

/-! ### The demands of host functions -/

open Bridge

/-- Whether a host function takes pointers. -/
def HostFunction.takesPointers : HostFunction → Bool
  | .panic | .getKey | .put _ | .read .key _ | .read .value _ | .nestedField => true
  | _ => false

section

variable (args : List UInt64)

/-- What is demanded of a payload. -/
def Payload.demands : Payload → List Demand
  | .string => [.text (args.getD 4 0).toUInt32 (args.getD 5 0).toUInt32]
  | .bytes => [.bytes (args.getD 4 0).toUInt32 (args.getD 5 0).toUInt32]
  | .qname =>
    [.text (args.getD 4 0).toUInt32 (args.getD 5 0).toUInt32,
      .text (args.getD 6 0).toUInt32 (args.getD 7 0).toUInt32]
  | _ => []

/-- What a host function demands of its arguments, in order.  When a field is put, the payload comes
first, then the row writer, then the name of the field. -/
def HostFunction.demands : HostFunction → List Demand
  | .panic => [.text (args.getD 0 0).toUInt32 (args.getD 1 0).toUInt32]
  | .getKey =>
    [.text (args.getD 0 0).toUInt32 (args.getD 1 0).toUInt32,
      .text (args.getD 2 0).toUInt32 (args.getD 3 0).toUInt32]
  | .put payload =>
    payload.demands args ++ [.writer (args.getD 1 0).toUInt32,
      .text (args.getD 2 0).toUInt32 (args.getD 3 0).toUInt32]
  | .read .key _ | .read .value _ | .nestedField =>
    [.text (args.getD 1 0).toUInt32 (args.getD 2 0).toUInt32]
  | _ => []

end

namespace Bridge

/-- A call of a host function that takes pointers, with its arguments decoded. -/
inductive Decoded where
  /-- The guest gives up. -/
  | giveUp (message : String)
  /-- A key is started. -/
  | startKey (storage entity : String)
  /-- A field is put. -/
  | put (writer : RowWriter) (name : String) (value : FieldValue)
  /-- A field of a key is read. -/
  | keyField (key : KeyHandle) (name : String) (reader : Reader)
  /-- A field of a value is read. -/
  | valueField (value : ValueHandle) (name : String) (reader : Reader)
  /-- A nested value is read. -/
  | nested (value : ValueHandle) (name : String)

end Bridge

section

variable (args : List UInt64) (memory : Memory)

/-- The last arguments of a call stand for a field value. -/
def Payload.IsDecoded : Payload → FieldValue → Prop
  | .string, .string text =>
    memory.HasText (args.getD 4 0).toUInt32 (args.getD 5 0).toUInt32 text
  | .bytes, .bytes content =>
    let ptr := (args.getD 4 0).toUInt32.toNat
    let len := (args.getD 5 0).toUInt32.toNat
    ptr + len ≤ memory.size ∧ content = memory.read ptr len
  | .int32, .int32 n => n = (args.getD 4 0).toUInt32.toInt32
  | .int64, .int64 n => n = (args.getD 4 0).toInt64
  | .float32, .float32 w => w = (args.getD 4 0).toUInt32
  | .float64, .float64 w => w = args.getD 4 0
  | .bool, .bool flag => flag = ((args.getD 4 0).toUInt32 != 0)
  | .qname, .qname name =>
    memory.HasText (args.getD 4 0).toUInt32 (args.getD 5 0).toUInt32 name.package ∧
      memory.HasText (args.getD 6 0).toUInt32 (args.getD 7 0).toUInt32 name.entity
  | _, _ => False

/-- An identifier and a tag stand for a row writer. -/
def RowWriter.IsDecoded (id : UInt64) (tag : UInt32) : RowWriter → Prop
  | .keyBuilder handle => tag = 0 ∧ handle = ⟨id⟩
  | .intent handle => tag = 1 ∧ handle = ⟨id⟩

/-- The arguments of a host function stand for a call. -/
def HostFunction.IsDecoded : HostFunction → Decoded → Prop
  | .panic, .giveUp message =>
    memory.HasText (args.getD 0 0).toUInt32 (args.getD 1 0).toUInt32 message
  | .getKey, .startKey storage entity =>
    memory.HasText (args.getD 0 0).toUInt32 (args.getD 1 0).toUInt32 storage ∧
      memory.HasText (args.getD 2 0).toUInt32 (args.getD 3 0).toUInt32 entity
  | .put payload, .put writer name value =>
    payload.IsDecoded args memory value ∧
      writer.IsDecoded (args.getD 0 0) (args.getD 1 0).toUInt32 ∧
      memory.HasText (args.getD 2 0).toUInt32 (args.getD 3 0).toUInt32 name
  | .read .key reader, .keyField key name reader' =>
    key = ⟨args.getD 0 0⟩ ∧ reader' = reader ∧
      memory.HasText (args.getD 1 0).toUInt32 (args.getD 2 0).toUInt32 name
  | .read .value reader, .valueField value name reader' =>
    value = ⟨args.getD 0 0⟩ ∧ reader' = reader ∧
      memory.HasText (args.getD 1 0).toUInt32 (args.getD 2 0).toUInt32 name
  | .nestedField, .nested value name =>
    value = ⟨args.getD 0 0⟩ ∧
      memory.HasText (args.getD 1 0).toUInt32 (args.getD 2 0).toUInt32 name
  | _, _ => False

end

namespace RowWriter

theorem ofTag?_eq_none (id : UInt64) {tag : UInt32} (h : ¬ (tag = 0 ∨ tag = 1)) :
    ofTag? id tag = none := by
  rw [not_or] at h
  rw [ofTag?, keyBuilderTag, intentTag, if_neg h.1, if_neg h.2]

theorem exists_isDecoded (id : UInt64) {tag : UInt32} (h : tag = 0 ∨ tag = 1) :
    ∃ writer, ofTag? id tag = some writer ∧ writer.IsDecoded id tag := by
  rcases h with rfl | rfl
  · exact ⟨.keyBuilder ⟨id⟩, rfl, rfl, rfl⟩
  · exact ⟨.intent ⟨id⟩, rfl, rfl, rfl⟩

end RowWriter

namespace Bridge

variable {σ α β : Type}

/-- Go on with what the adapter has replied to a request, in the state that it was left in. -/
def afterReply (s : Machine σ) (next : α → Run σ β) :
    Adapter.Reply σ α → EStateM.Result Failure (Machine σ) β
  | (.ok a, state) => next a { s with bound := some state }
  | (.error e, state) => .error (.host (.state e)) { s with bound := some state }

/-- Serve a call with decoded arguments for an adapter in the state `w`: one request is made to the
adapter, or none if the guest gives up. -/
def Decoded.serve (adapter : Adapter σ) (enter : Enter σ) (s : Machine σ) (w : σ) :
    Decoded → EStateM.Result Failure (Machine σ) (List UInt64)
  | .giveUp message => .error (.host (.guestPanic message)) s
  | .startKey storage entity =>
    afterReply s (fun key => pure [key.id]) (adapter.keyBuilder storage entity w)
  | .put writer name value =>
    afterReply s (fun _ => pure []) (adapter.putField writer name value w)
  | .keyField key name reader =>
    afterReply s (fun value => return [← present enter value reader])
      (adapter.keyField key name (kindOf reader) w)
  | .valueField value name reader =>
    afterReply s (fun value => return [← present enter value reader])
      (adapter.valueField value name (kindOf reader) w)
  | .nested value name =>
    afterReply s (fun value => return [(← ofReply value.toValue?).id])
      (adapter.valueField value name .value w)

/-! ### Demands that come first -/

/-- Demands are looked at before everything else, in order.  The first one that is not met is the
outcome, and the machine stays as it is; if there is none, the outcome is as it should be. -/
structure Screens (s : Machine σ) (demands : List Demand)
    (Good : EStateM.Result Failure (Machine σ) α → Prop)
    (result : EStateM.Result Failure (Machine σ) α) : Prop where
  /-- All demands are met. -/
  good : firstDefect? s.guest.memory demands = none → Good result
  /-- A demand is not met. -/
  defect : ∀ d, firstDefect? s.guest.memory demands = some d →
    result = .error (.host (d.complaint s.guest.memory)) s

theorem readBytes_of_not_le {s : Machine σ} (hs : s.exports.isSome = true) {ptr len : UInt32}
    (h : ¬ ptr.toNat + len.toNat ≤ s.guest.memory.size) :
    readBytes ptr len s = .error (.host (.unableToReadMemory ptr len)) s := by
  rw [readBytes, Run.bind_of_ok (guestMemory_of_isSome hs), Slice.rangeIn?, if_neg h]
  rfl

theorem readText_of_hasText {s : Machine σ} (hs : s.exports.isSome = true) {ptr len : UInt32}
    {text : String} (h : s.guest.memory.HasText ptr len text) :
    readText ptr len s = .ok text s :=
  readText_eq_ok_iff.mpr
    ⟨_, (readBytes_eq_ok_iff hs).mpr ⟨h.1, rfl⟩, Utf8.decode_eq_ok_iff.mpr h.2⟩

theorem readText_of_not_holds {s : Machine σ} (hs : s.exports.isSome = true) {ptr len : UInt32}
    (h : ¬ (Demand.text ptr len).Holds s.guest.memory) :
    readText ptr len s
      = .error (.host ((Demand.text ptr len).complaint s.guest.memory)) s := by
  by_cases hfit : ptr.toNat + len.toNat ≤ s.guest.memory.size
  · have hbytes := (readBytes_eq_ok_iff hs).mpr ⟨hfit, rfl⟩
    rw [readText, Run.bind_of_ok hbytes]
    rcases hdecode : Utf8.decode (s.guest.memory.read ptr.toNat len.toNat) with fault | text
    · have hfault : fault = (Utf8.firstFault (s.guest.memory.read ptr.toNat len.toNat)).getD
          ⟨0, none⟩ := by
        rw [Utf8.decode] at hdecode
        split at hdecode
        · cases hdecode
        · exact (Except.error.inj hdecode).symm
      rw [Demand.complaint, if_pos hfit, hfault]
      rfl
    · exact absurd ⟨text, hfit, Utf8.decode_eq_ok_iff.mp hdecode⟩ h
  · rw [readText, Run.bind_of_error (readBytes_of_not_le hs hfit), Demand.complaint, if_neg hfit]

/-- A request to the adapter, and what is made of the reply. -/
theorem ask_bind {sandbox : Sandbox σ} {s : Machine σ} {w : σ} (hbound : s.bound = some w)
    (request : σ → Adapter.Reply σ α) (next : α → Run σ β) :
    (ask sandbox request >>= next) s = afterReply s next (request w) := by
  rw [ask, bind_assoc, Run.bind_of_ok (boundState_of_eq_some hbound)]
  rcases request w with ⟨e | a, state⟩ <;> rfl

namespace Screens

variable {s : Machine σ} {d : Demand} {demands : List Demand}
  {Good : EStateM.Result Failure (Machine σ) α → Prop}
  {result : EStateM.Result Failure (Machine σ) α}

theorem nil (h : Good result) : Screens s [] Good result := ⟨fun _ => h, nofun⟩

theorem cons (hmet : d.Holds s.guest.memory → Screens s demands Good result)
    (hnot : ¬ d.Holds s.guest.memory →
      result = .error (.host (d.complaint s.guest.memory)) s) :
    Screens s (d :: demands) Good result := by
  by_cases h : d.Holds s.guest.memory
  · have hskip : firstDefect? s.guest.memory (d :: demands)
        = firstDefect? s.guest.memory demands := by simp [firstDefect?, h]
    constructor
    · rw [hskip]
      exact (hmet h).good
    · rw [hskip]
      exact (hmet h).defect
  · have hfirst : firstDefect? s.guest.memory (d :: demands) = some d := by
      simp [firstDefect?, h]
    constructor
    · simp [hfirst]
    · intro d' hd'
      rw [hfirst, Option.some.injEq] at hd'
      exact hd' ▸ hnot h

/-- A step that reads bytes demands that they are there. -/
theorem bytes (hexports : s.exports.isSome = true) {ptr len : UInt32}
    {next : ByteArray → Run σ α}
    (h : ptr.toNat + len.toNat ≤ s.guest.memory.size →
      Screens s demands Good (next (s.guest.memory.read ptr.toNat len.toNat) s)) :
    Screens s (.bytes ptr len :: demands) Good ((readBytes ptr len >>= next) s) := by
  refine .cons (fun hfit => ?_) fun hfit => ?_
  · rw [Run.bind_of_ok ((readBytes_eq_ok_iff hexports).mpr ⟨hfit, rfl⟩)]
    exact h hfit
  · exact Run.bind_of_error (readBytes_of_not_le hexports hfit)

/-- A step that reads a text demands that there is one. -/
theorem text (hexports : s.exports.isSome = true) {ptr len : UInt32} {next : String → Run σ α}
    (h : ∀ read, s.guest.memory.HasText ptr len read → Screens s demands Good (next read s)) :
    Screens s (.text ptr len :: demands) Good ((readText ptr len >>= next) s) := by
  refine .cons (fun ⟨read, hread⟩ => ?_) fun hnone => ?_
  · rw [Run.bind_of_ok (readText_of_hasText hexports hread)]
    exact h read hread
  · exact Run.bind_of_error (readText_of_not_holds hexports hnone)

/-- Decoding a payload demands what belongs to the payload. -/
theorem decodePayload (hexports : s.exports.isSome = true) {args : List UInt64}
    {payload : Payload} {next : FieldValue → Run σ α}
    (h : ∀ value, payload.IsDecoded args s.guest.memory value →
      Screens s demands Good (next value s)) :
    Screens s (payload.demands args ++ demands) Good
      ((Bridge.decodePayload args payload >>= next) s) := by
  cases payload with
  | string =>
    rw [Bridge.decodePayload, bind_assoc]
    exact .text hexports fun read hread => h (.string read) hread
  | bytes =>
    rw [Bridge.decodePayload, bind_assoc]
    exact .bytes hexports fun hfit => h (.bytes _) ⟨hfit, rfl⟩
  | qname =>
    simp only [Bridge.decodePayload, bind_assoc]
    exact .text hexports fun package hpackage => .text hexports fun entity hentity =>
      h (.qname ⟨package, entity⟩) ⟨hpackage, hentity⟩
  | _ => exact h _ rfl

/-- Putting a field demands a row writer and the name of the field. -/
theorem putField (hexports : s.exports.isSome = true) {sandbox : Sandbox σ} {id : UInt64}
    {tag ptr len : UInt32} {value : FieldValue} {next : Unit → Run σ α}
    (h : ∀ (writer : RowWriter) (name : String), writer.IsDecoded id tag →
      s.guest.memory.HasText ptr len name →
      Good ((ask sandbox (sandbox.adapter.putField writer name value) >>= next) s)) :
    Screens s [.writer tag, .text ptr len] Good
      ((Bridge.putField sandbox id tag ptr len value >>= next) s) := by
  refine .cons (fun htag => ?_) fun htag => ?_
  · obtain ⟨writer, hwriter, hdecoded⟩ := RowWriter.exists_isDecoded id htag
    rw [Bridge.putField, hwriter]
    simp only [bind_assoc]
    exact .text hexports fun name hname => .nil (h writer name hdecoded hname)
  · rw [Bridge.putField, RowWriter.ofTag?_eq_none id htag]
    rfl

/-- Reading a field by its name demands the name. -/
theorem namedField (hexports : s.exports.isSome = true) {w : σ} (hbound : s.bound = some w)
    {sandbox : Sandbox σ} {ptr len : UInt32} {request : String → σ → Adapter.Reply σ FieldValue}
    {next : FieldValue → Run σ α}
    (h : ∀ name, s.guest.memory.HasText ptr len name →
      Good (afterReply s next (request name w))) :
    Screens s [.text ptr len] Good
      (((do
        let _ ← boundState sandbox
        let name ← readText ptr len
        ask sandbox (request name)) >>= next) s) := by
  rw [bind_assoc, Run.bind_of_ok (boundState_of_eq_some hbound), bind_assoc]
  refine .text hexports fun name hname => .nil ?_
  rw [ask_bind hbound]
  exact h name hname

end Screens

end Bridge

namespace HostFunction

variable {σ : Type} {s : Machine σ} {w : σ}

/-- The demands of a host function come before everything else that it does. -/
theorem screens_call (sandbox : Sandbox σ) (enter : Enter σ) (hexports : s.exports.isSome = true)
    (hbound : s.bound = some w) {f : HostFunction} (hf : f.takesPointers = true)
    (args : List UInt64) :
    Screens s (f.demands args)
      (fun result => ∃ decoded, f.IsDecoded args s.guest.memory decoded ∧
        result = decoded.serve sandbox.adapter enter s w)
      (f.call sandbox enter args s) := by
  match f, hf with
  | .panic, _ => exact .text hexports fun message hmessage => .nil ⟨.giveUp message, hmessage, rfl⟩
  | .getKey, _ =>
    refine .text hexports fun storage hstorage => .text hexports fun entity hentity => .nil ?_
    exact ⟨.startKey storage entity, ⟨hstorage, hentity⟩, ask_bind hbound _ _⟩
  | .put payload, _ =>
    refine .decodePayload hexports fun value hvalue =>
      .putField hexports fun writer name hwriter hname => ?_
    exact ⟨.put writer name value, ⟨hvalue, hwriter, hname⟩, ask_bind hbound _ _⟩
  | .read .key reader, _ =>
    rw [call_read]
    exact .namedField hexports hbound fun name hname =>
      ⟨.keyField _ name reader, ⟨rfl, rfl, hname⟩, rfl⟩
  | .read .value reader, _ =>
    rw [call_read]
    exact .namedField hexports hbound fun name hname =>
      ⟨.valueField _ name reader, ⟨rfl, rfl, hname⟩, rfl⟩
  | .nestedField, _ =>
    exact .namedField hexports hbound fun name hname => ⟨.nested _ name, ⟨rfl, hname⟩, rfl⟩

/-- **Host calls decode all arguments or have no effect.**  Take any guest, any adapter that is
bound to the run, in any state, and any arguments of a host function that takes pointers.  If all
slices lie within memory, all texts are valid and the tag of a row writer is one of the two there
are, then the call makes one request to the adapter, the one that its decoded arguments stand for,
or none where the guest gives up.  Otherwise the first defect is the error of the call, and the
adapter, the memory, the buffers and everything else stay as they are. -/
theorem decodes_all_or_has_no_effect (sandbox : Sandbox σ) (enter : Enter σ) {f : HostFunction}
    (hf : f.takesPointers = true) (args : List UInt64) {s : Machine σ} {w : σ}
    (hexports : s.exports.isSome = true) (hbound : s.bound = some w) :
    ((∀ d ∈ f.demands args, d.Holds s.guest.memory) →
      ∃ decoded, f.IsDecoded args s.guest.memory decoded ∧
        f.call sandbox enter args s = decoded.serve sandbox.adapter enter s w) ∧
    ∀ before d after, f.demands args = before ++ d :: after →
      (∀ b ∈ before, b.Holds s.guest.memory) → ¬ d.Holds s.guest.memory →
      f.call sandbox enter args s = .error (.host (d.complaint s.guest.memory)) s := by
  have hscreens := screens_call sandbox enter hexports hbound hf args
  constructor
  · intro hall
    exact hscreens.good (List.find?_eq_none.mpr fun d hd => by simpa using hall d hd)
  · intro before d after hdemands hbefore hnot
    refine hscreens.defect d ?_
    rw [firstDefect?, hdemands, List.find?_eq_some_iff_append]
    exact ⟨by simpa using hnot, before, after, rfl, fun b hb => by simpa using hbefore b hb⟩

end HostFunction

/-- An adapter that starts every key, and remembers which. -/
def Sample.registry : Adapter (List (String × String)) where
  keyBuilder storage entity keys := (.ok ⟨.ofNat keys.length⟩, keys ++ [(storage, entity)])
  mustExist _ keys := (.error (.other "empty"), keys)
  canExist _ keys := (.ok none, keys)
  readValues _ keys := .done (.ok ()) keys
  newValue _ keys := (.error (.other "read only"), keys)
  updateValue _ _ keys := (.error (.other "read only"), keys)
  putField _ _ _ keys := (.error (.other "read only"), keys)
  keyField _ name _ keys := (.error (.notFound name), keys)
  valueField _ name _ keys := (.error (.notFound name), keys)
  valueItem _ _ _ keys := (.ok (.bool true), keys)
  valueLength _ keys := (.ok 0, keys)

/-- The surroundings of a run that it serves. -/
def Sample.registrySandbox : Sandbox (List (String × String)) :=
  ⟨standard, "sample", pageSize, Sample.registry⟩

/-- A guest in the course of a run, with three letters and a byte of no text in memory. -/
def Sample.running : Machine (List (String × String)) where
  guest :=
    ⟨(Memory.zeroed 1).write 0 ⟨#[97, 98, 99, 255]⟩, ∅, 0, .new 8, false⟩
  exports := some ⟨"malloc", "free", "abi_version_0_1", "heap_in_use", "heap_sys", "heap_mallocs",
    "heap_frees", "heap_gc", "on_read_value"⟩
  bound := some []
  budget := 1

namespace HostFunction

/-- A key is started for two texts.  With a slice that is too long, a wrong tag and a broken name, a
field is not put because of the slice; without it, because of the tag. -/
theorem decodes_all_or_has_no_effect_sample :
    let call (f : HostFunction) (args : List UInt64) :=
      f.call Sample.registrySandbox Sample.registrySandbox.call args Sample.running
    call .getKey [0, 2, 2, 1] = .ok [0] { Sample.running with bound := some [("ab", "c")] } ∧
      call (.put .string) [5, 7, 3, 1, 65535, 2]
        = .error (.host (.unableToReadMemory 65535 2)) Sample.running ∧
      call (.put .string) [5, 7, 3, 1, 0, 3]
        = .error (.host (.invalidRowWriter 7)) Sample.running := by
  have hcalls (f : HostFunction) (hf : f.takesPointers = true) (args : List UInt64) :=
    decodes_all_or_has_no_effect Sample.registrySandbox Sample.registrySandbox.call hf args
      (s := Sample.running) rfl rfl
  refine ⟨?_, ?_, ?_⟩
  · obtain ⟨decoded, hdecoded, hcall⟩ := (hcalls .getKey rfl [0, 2, 2, 1]).1 (by decide +kernel)
    match decoded, hdecoded with
    | .startKey storage entity, ⟨hstorage, hentity⟩ =>
      have hab : Sample.running.guest.memory.HasText 0 2 "ab" := by
        constructor <;> decide +kernel
      have hc : Sample.running.guest.memory.HasText 2 1 "c" := by
        constructor <;> decide +kernel
      rw [hstorage.unique hab, hentity.unique hc] at hcall
      exact hcall
  · exact (hcalls (.put .string) rfl [5, 7, 3, 1, 65535, 2]).2 [] _ _ rfl nofun (by decide +kernel)
  · exact (hcalls (.put .string) rfl [5, 7, 3, 1, 0, 3]).2 [.text 0 3] (.writer 7) _ rfl
      (by decide +kernel) (by decide +kernel)

end HostFunction

end ExtensionHost
