import ExtensionHost.Assoc
import ExtensionHost.State.Adapter

/-!
# State in memory

A complete adapter over records held in memory.  Handles come from one counter.  Keys under
construction, keys, values and pending writes are kept in tables by handle; a value is a copy of a
record, and a key matches the records of its storage and entity whose fields agree with all fields
set on it.

The adapter keeps a journal of the requests made to it and of callbacks that failed, and it can be
told to refuse every request of one kind.

## Main definitions

* `Row`, `Record` and `Tables`;
* `Request`, `Event` and `Tables.journal`;
* `Tables.adapter`.
-/

namespace ExtensionHost

/-- The fields of a record, by ascending name. -/
abbrev Row := Assoc String FieldValue

/-- A stored record. -/
structure Record where
  /-- The storage that holds it. -/
  storage : String
  /-- The entity it belongs to. -/
  entity : String
  /-- Its fields. -/
  fields : Row
  deriving DecidableEq

/-- A key under construction. -/
structure KeyBuilder where
  /-- The storage to look in. -/
  storage : String
  /-- The entity to look for. -/
  entity : String
  /-- The fields set so far. -/
  fields : Row
  deriving DecidableEq

/-- A pending write. -/
structure Intent where
  /-- The entity to write. -/
  entity : String
  /-- The fields set so far. -/
  fields : Row
  deriving DecidableEq

/-- The kinds of requests. -/
inductive Request where
  | keyBuilder
  | mustExist
  | canExist
  | readValues
  | newValue
  | updateValue
  | putField
  | keyField
  | valueField
  | valueItem
  | valueLength
  deriving DecidableEq, Repr

/-- What happened to an adapter: a request with its outcome, or a callback that failed. -/
inductive Event where
  | keyBuilder (storage entity : String) (outcome : Except StateError KeyBuilderHandle)
  | mustExist (key : KeyBuilderHandle) (outcome : Except StateError ValueHandle)
  | canExist (key : KeyBuilderHandle) (outcome : Except StateError (Option ValueHandle))
  | readValues (key : KeyBuilderHandle)
      (outcome : Except StateError (List (KeyHandle × ValueHandle)))
  | newValue (key : KeyBuilderHandle) (outcome : Except StateError IntentHandle)
  | updateValue (key : KeyBuilderHandle) (existing : ValueHandle)
      (outcome : Except StateError IntentHandle)
  | putField (writer : RowWriter) (name : String) (value : FieldValue)
      (outcome : Except StateError Unit)
  | keyField (key : KeyHandle) (name : String) (kind : FieldKind)
      (outcome : Except StateError FieldValue)
  | valueField (value : ValueHandle) (name : String) (kind : FieldKind)
      (outcome : Except StateError FieldValue)
  | valueItem (value : ValueHandle) (index : UInt32) (kind : FieldKind)
      (outcome : Except StateError FieldValue)
  | valueLength (value : ValueHandle) (outcome : Except StateError UInt32)
  | callback (key : KeyHandle) (value : ValueHandle) (error : StateError)

/-- The state of an adapter in memory. -/
structure Tables where
  /-- The handle minted last. -/
  counter : UInt64
  /-- The keys under construction. -/
  builders : Assoc UInt64 KeyBuilder
  /-- The keys of rows that iterations produced. -/
  keys : Assoc UInt64 Row
  /-- The values. -/
  values : Assoc UInt64 Row
  /-- The pending writes. -/
  intents : Assoc UInt64 Intent
  /-- The stored records, in order. -/
  records : List Record
  /-- The requests to refuse. -/
  refusals : List (Request × StateError)
  /-- Whether an iteration goes on after its callback failed. -/
  swallow : Bool
  /-- What happened so far. -/
  journal : Array Event

namespace Tables

/-- Mint a handle. -/
def mint (t : Tables) : UInt64 × Tables := (t.counter + 1, { t with counter := t.counter + 1 })

/-- Mint a handle for a value. -/
def mintValue (t : Tables) (fields : Row) : ValueHandle × Tables :=
  let (id, t) := t.mint
  (⟨id⟩, { t with values := t.values.insert id fields })

/-- Mint a handle for a key of a row. -/
def mintKey (t : Tables) (fields : Row) : KeyHandle × Tables :=
  let (id, t) := t.mint
  (⟨id⟩, { t with keys := t.keys.insert id fields })

/-- Mint a handle for a pending write. -/
def mintIntent (t : Tables) (intent : Intent) : IntentHandle × Tables :=
  let (id, t) := t.mint
  (⟨id⟩, { t with intents := t.intents.insert id intent })

/-- The tables at the start: the counter stands at `counter`, and every nested value has a
handle. -/
def new (counter : UInt64) (nested : List Row) (records : List Record)
    (refusals : List (Request × StateError)) (swallow : Bool) : Tables :=
  nested.foldl (fun t row => (t.mintValue row).2)
    ⟨counter, ∅, ∅, ∅, ∅, records, refusals, swallow, #[]⟩

instance : Inhabited Tables := ⟨new 0 [] [] [] false⟩

/-- Note an event. -/
def note (t : Tables) (event : Event) : Tables := { t with journal := t.journal.push event }

/-- The journal, and the tables with an empty one. -/
def takeJournal (t : Tables) : Array Event × Tables := (t.journal, { t with journal := #[] })

/-- The refusal of a kind of request, if there is one. -/
def refusal? (t : Tables) (request : Request) : Option StateError := t.refusals.lookup request

/-- Serve a request unless it is to be refused, and note the outcome. -/
def serve {α : Type} (request : Request) (event : Except StateError α → Event)
    (body : Tables → Adapter.Reply Tables α) (t : Tables) : Adapter.Reply Tables α :=
  let (outcome, t) : Adapter.Reply Tables α :=
    match t.refusal? request with
    | some error => (.error error, t)
    | none => body t
  (outcome, t.note (event outcome))

/-- Whether a record matches a key: it has the key's storage and entity and, for every field of the
key, an equal field. -/
def isMatch (builder : KeyBuilder) (record : Record) : Bool :=
  record.storage == builder.storage && record.entity == builder.entity &&
    builder.fields.entries.all fun (name, value) =>
      (record.fields.find? name).any (value.same ·)

/-- The records that match a key, in order. -/
def matching (t : Tables) (builder : KeyBuilder) : List Record :=
  t.records.filter (isMatch builder)

/-- Do something with the key that a handle stands for. -/
def withBuilder {α : Type} (key : KeyBuilderHandle) (t : Tables)
    (body : KeyBuilder → Adapter.Reply Tables α) : Adapter.Reply Tables α :=
  match t.builders.find? key.id with
  | some builder => body builder
  | none => (.error (.invalidHandle key.id), t)

/-- Start a key. -/
def keyBuilder (storage entity : String) : Tables → Adapter.Reply Tables KeyBuilderHandle :=
  serve .keyBuilder (.keyBuilder storage entity) fun t =>
    let (id, t) := t.mint
    (.ok ⟨id⟩, { t with builders := t.builders.insert id ⟨storage, entity, ∅⟩ })

/-- The value of the first record that matches a key. -/
def mustExist (key : KeyBuilderHandle) : Tables → Adapter.Reply Tables ValueHandle :=
  serve .mustExist (.mustExist key) fun t => withBuilder key t fun builder =>
    match t.matching builder with
    | [] => (.error (.notFound builder.entity), t)
    | record :: _ =>
      let (handle, t) := t.mintValue record.fields
      (.ok handle, t)

/-- The value of the first record that matches a key, if there is one. -/
def canExist (key : KeyBuilderHandle) : Tables → Adapter.Reply Tables (Option ValueHandle) :=
  serve .canExist (.canExist key) fun t => withBuilder key t fun builder =>
    match t.matching builder with
    | [] => (.ok none, t)
    | record :: _ =>
      let (handle, t) := t.mintValue record.fields
      (.ok (some handle), t)

/-- Mint a key and a value for every record. -/
def mintRows : List Record → Tables → List (KeyHandle × ValueHandle) × Tables
  | [], t => ([], t)
  | record :: rest, t =>
    let (key, t) := t.mintKey record.fields
    let (value, t) := t.mintValue record.fields
    let (rows, t) := mintRows rest t
    ((key, value) :: rows, t)

/-- Offer rows one by one.  A callback that fails is noted and, unless failures are to be swallowed,
ends the iteration with its error. -/
def offer : List (KeyHandle × ValueHandle) → Tables → Rows Tables
  | [], t => .done (.ok ()) t
  | (key, value) :: rest, t => .row key value t fun outcome t =>
    match outcome with
    | .ok () => offer rest t
    | .error error =>
      let t := t.note (.callback key value error)
      if t.swallow then offer rest t else .done (.error error) t

/-- Iterate over the records that match a key.  All handles are minted before the first row is
offered. -/
def readValues (key : KeyBuilderHandle) (t : Tables) : Rows Tables :=
  let (outcome, t) := serve .readValues (.readValues key) (fun t =>
    withBuilder key t fun builder =>
      let (rows, t) := mintRows (t.matching builder) t
      (.ok rows, t)) t
  match outcome with
  | .ok rows => offer rows t
  | .error error => .done (.error error) t

/-- Start a write of a new value. -/
def newValue (key : KeyBuilderHandle) : Tables → Adapter.Reply Tables IntentHandle :=
  serve .newValue (.newValue key) fun t => withBuilder key t fun builder =>
    let (handle, t) := t.mintIntent ⟨builder.entity, ∅⟩
    (.ok handle, t)

/-- Start a write over an existing value, whose fields it starts with. -/
def updateValue (key : KeyBuilderHandle) (existing : ValueHandle) :
    Tables → Adapter.Reply Tables IntentHandle :=
  serve .updateValue (.updateValue key existing) fun t => withBuilder key t fun builder =>
    match t.values.find? existing.id with
    | none => (.error (.invalidHandle existing.id), t)
    | some fields =>
      let (handle, t) := t.mintIntent ⟨builder.entity, fields⟩
      (.ok handle, t)

/-- Set a field. -/
def putField (writer : RowWriter) (name : String) (value : FieldValue) :
    Tables → Adapter.Reply Tables Unit :=
  serve .putField (.putField writer name value) fun t =>
    match writer with
    | .keyBuilder ⟨id⟩ =>
      match t.builders.find? id with
      | none => (.error (.invalidHandle id), t)
      | some builder =>
        let builder := { builder with fields := builder.fields.insert name value }
        (.ok (), { t with builders := t.builders.insert id builder })
    | .intent ⟨id⟩ =>
      match t.intents.find? id with
      | none => (.error (.invalidHandle id), t)
      | some intent =>
        let intent := { intent with fields := intent.fields.insert name value }
        (.ok (), { t with intents := t.intents.insert id intent })

/-- A field by name of a row found under a handle. -/
def fieldOf (row : Option Row) (id : UInt64) (name : String) : Except StateError FieldValue :=
  match row with
  | none => .error (.invalidHandle id)
  | some row =>
    match row.find? name with
    | none => .error (.notFound name)
    | some value => .ok value

/-- A field of a key. -/
def keyField (key : KeyHandle) (name : String) (kind : FieldKind) :
    Tables → Adapter.Reply Tables FieldValue :=
  serve .keyField (.keyField key name kind) fun t =>
    (fieldOf (t.keys.find? key.id) key.id name, t)

/-- A field of a value. -/
def valueField (value : ValueHandle) (name : String) (kind : FieldKind) :
    Tables → Adapter.Reply Tables FieldValue :=
  serve .valueField (.valueField value name kind) fun t =>
    (fieldOf (t.values.find? value.id) value.id name, t)

/-- A field of a value by its position among the names. -/
def valueItem (value : ValueHandle) (index : UInt32) (kind : FieldKind) :
    Tables → Adapter.Reply Tables FieldValue :=
  serve .valueItem (.valueItem value index kind) fun t =>
    match t.values.find? value.id with
    | none => (.error (.invalidHandle value.id), t)
    | some row =>
      match row.entries[index.toNat]? with
      | none => (.error (.indexOutOfRange index (.ofNat row.size)), t)
      | some (_, field) => (.ok field, t)

/-- The number of fields of a value. -/
def valueLength (value : ValueHandle) : Tables → Adapter.Reply Tables UInt32 :=
  serve .valueLength (.valueLength value) fun t =>
    match t.values.find? value.id with
    | none => (.error (.invalidHandle value.id), t)
    | some row => (.ok (.ofNat row.size), t)

/-- The adapter over tables in memory. -/
def adapter : Adapter Tables where
  keyBuilder := keyBuilder
  mustExist := mustExist
  canExist := canExist
  readValues := readValues
  newValue := newValue
  updateValue := updateValue
  putField := putField
  keyField := keyField
  valueField := valueField
  valueItem := valueItem
  valueLength := valueLength

end Tables

end ExtensionHost
