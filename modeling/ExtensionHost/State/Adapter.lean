import ExtensionHost.State.Value

/-!
# State adapters

An `Adapter` is the capability through which an invocation reads and writes the platform's state.
It is a record of functions on a state type of its own.  Reading many rows hands control back for
every row, so that the reader may use the same adapter before the iteration goes on; `Rows` is the
tree of these exchanges.

## Main definitions

* `Adapter.Reply`, the outcome of a request with the state after it;
* `Rows`, an iteration in progress;
* `Adapter`, and `Client`, an adapter with its state.
-/

namespace ExtensionHost

/-- The outcome of a request and the adapter's state after it. -/
abbrev Adapter.Reply (σ α : Type) := Except StateError α × σ

/-- An iteration over rows.  It either is over, or offers a row together with the rest of the
iteration, which depends on what became of the row and on the state left by then. -/
inductive Rows (σ : Type) where
  /-- The iteration is over with this outcome. -/
  | done (outcome : Except StateError Unit) (state : σ)
  /-- A row is offered. -/
  | row (key : KeyHandle) (value : ValueHandle) (state : σ)
      (resume : Except StateError Unit → σ → Rows σ)

/-- The requests that an invocation may make. -/
structure Adapter (σ : Type) where
  /-- Start a key for an entity of a storage. -/
  keyBuilder (storage entity : String) (state : σ) : Adapter.Reply σ KeyBuilderHandle
  /-- The value of a key, which must exist. -/
  mustExist (key : KeyBuilderHandle) (state : σ) : Adapter.Reply σ ValueHandle
  /-- The value of a key, if it exists. -/
  canExist (key : KeyBuilderHandle) (state : σ) : Adapter.Reply σ (Option ValueHandle)
  /-- Every row that matches a key. -/
  readValues (key : KeyBuilderHandle) (state : σ) : Rows σ
  /-- Start a pending write of a new value. -/
  newValue (key : KeyBuilderHandle) (state : σ) : Adapter.Reply σ IntentHandle
  /-- Start a pending write over an existing value. -/
  updateValue (key : KeyBuilderHandle) (existing : ValueHandle) (state : σ) :
    Adapter.Reply σ IntentHandle
  /-- Set a field of a key under construction or of a pending write. -/
  putField (writer : RowWriter) (name : String) (value : FieldValue) (state : σ) :
    Adapter.Reply σ Unit
  /-- A field of a key, by name. -/
  keyField (key : KeyHandle) (name : String) (kind : FieldKind) (state : σ) :
    Adapter.Reply σ FieldValue
  /-- A field of a value, by name. -/
  valueField (value : ValueHandle) (name : String) (kind : FieldKind) (state : σ) :
    Adapter.Reply σ FieldValue
  /-- A field of a value, by position. -/
  valueItem (value : ValueHandle) (index : UInt32) (kind : FieldKind) (state : σ) :
    Adapter.Reply σ FieldValue
  /-- The number of fields of a value. -/
  valueLength (value : ValueHandle) (state : σ) : Adapter.Reply σ UInt32

/-- The adapter of runs that have none. -/
def Adapter.absent : Adapter Empty where
  keyBuilder _ _ state := state.elim
  mustExist _ state := state.elim
  canExist _ state := state.elim
  readValues _ state := state.elim
  newValue _ state := state.elim
  updateValue _ _ state := state.elim
  putField _ _ _ state := state.elim
  keyField _ _ _ state := state.elim
  valueField _ _ _ state := state.elim
  valueItem _ _ _ state := state.elim
  valueLength _ state := state.elim

/-- Who serves an invocation. -/
structure Client where
  /-- The states of the adapter. -/
  State : Type
  /-- The adapter. -/
  adapter : Adapter State
  /-- Its state. -/
  state : State

namespace Client

/-- The states of a client that may be there. -/
def StateOf : Option Client → Type
  | none => Empty
  | some client => client.State

/-- Its adapter. -/
def adapterOf : (client : Option Client) → Adapter (StateOf client)
  | none => .absent
  | some client => client.adapter

/-- Its state. -/
def stateOf : (client : Option Client) → Option (StateOf client)
  | none => none
  | some client => some client.state

/-- The client in the state that it was left in. -/
def leftIn : (client : Option Client) → Option (StateOf client) → Option Client
  | none, _ => none
  | some client, state => state.map fun state => { client with state }

end Client

end ExtensionHost
