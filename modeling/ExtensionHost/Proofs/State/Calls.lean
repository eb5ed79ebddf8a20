import ExtensionHost.State.Adapter
import Mathlib.Logic.Relation

/-!
# Calls of adapters

An adapter acts on a state, and nothing but calls of the adapter makes the state another one.  With
several adapters on one state, a state that calls of one of them lead to is told from a state that
needs calls of another.

An iteration is called more than once: when it begins, and again after every row, when the rest of
it goes on from the state left by then.  Each of these counts as a call.

## Main definitions

* `Adapter.Offers`, the iterations that an adapter has in progress
* `Adapter.Moves`, one call, and `Adapter.Reaches`, any number of them
-/

namespace ExtensionHost

variable {σ : Type}

/-- The state that an iteration has come to. -/
def Rows.state : Rows σ → σ
  | .done _ state => state
  | .row _ _ state _ => state

namespace Adapter

/-- An iteration of an adapter: one that it begins, or what is left of one after a row. -/
inductive Offers (a : Adapter σ) : Rows σ → Prop where
  | begun (key : KeyBuilderHandle) (w : σ) : Offers a (a.readValues key w)
  | resumed {key : KeyHandle} {value : ValueHandle} {state : σ}
    {resume : Except StateError Unit → σ → Rows σ} (h : Offers a (.row key value state resume))
    (outcome : Except StateError Unit) (w : σ) : Offers a (resume outcome w)

/-- One call of an adapter moves its state. -/
inductive Moves (a : Adapter σ) : σ → σ → Prop where
  | keyBuilder (storage entity : String) (w : σ) : Moves a w (a.keyBuilder storage entity w).2
  | mustExist (key : KeyBuilderHandle) (w : σ) : Moves a w (a.mustExist key w).2
  | canExist (key : KeyBuilderHandle) (w : σ) : Moves a w (a.canExist key w).2
  | readValues (key : KeyBuilderHandle) (w : σ) : Moves a w (a.readValues key w).state
  | resume {key : KeyHandle} {value : ValueHandle} {state : σ}
    {resume : Except StateError Unit → σ → Rows σ} (h : Offers a (.row key value state resume))
    (outcome : Except StateError Unit) (w : σ) : Moves a w (resume outcome w).state
  | newValue (key : KeyBuilderHandle) (w : σ) : Moves a w (a.newValue key w).2
  | updateValue (key : KeyBuilderHandle) (existing : ValueHandle) (w : σ) :
    Moves a w (a.updateValue key existing w).2
  | putField (writer : RowWriter) (name : String) (value : FieldValue) (w : σ) :
    Moves a w (a.putField writer name value w).2
  | keyField (key : KeyHandle) (name : String) (kind : FieldKind) (w : σ) :
    Moves a w (a.keyField key name kind w).2
  | valueField (value : ValueHandle) (name : String) (kind : FieldKind) (w : σ) :
    Moves a w (a.valueField value name kind w).2
  | valueItem (value : ValueHandle) (index : UInt32) (kind : FieldKind) (w : σ) :
    Moves a w (a.valueItem value index kind w).2
  | valueLength (value : ValueHandle) (w : σ) : Moves a w (a.valueLength value w).2

/-- Calls of an adapter lead from one state to another. -/
abbrev Reaches (a : Adapter σ) : σ → σ → Prop := Relation.ReflTransGen a.Moves

end Adapter

end ExtensionHost
