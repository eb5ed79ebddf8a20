/-!
# Ordered association lists

Finite maps whose keys are kept in ascending order, so that listing the entries of two maps with
the same content gives the same answer.

## Main definitions

* `Assoc`, with `Assoc.find?`, `Assoc.insert`, `Assoc.contains` and `Assoc.keys`;
* `Assoc.modify`, which changes the value of a key that is present.
-/

namespace ExtensionHost

universe u

/-- A finite map from keys to values, in ascending order of the keys. -/
structure Assoc (κ : Type) (α : Type u) where
  /-- The entries, by ascending key. -/
  entries : List (κ × α)
  deriving Repr, DecidableEq

namespace Assoc

variable {κ : Type} {α : Type u}

/-- The map without entries. -/
def empty : Assoc κ α := ⟨[]⟩

instance : EmptyCollection (Assoc κ α) := ⟨empty⟩

instance : Inhabited (Assoc κ α) := ⟨empty⟩

/-- The value of a key. -/
def find? [DecidableEq κ] (m : Assoc κ α) (key : κ) : Option α :=
  m.entries.lookup key

/-- Whether a key is present. -/
def contains [DecidableEq κ] (m : Assoc κ α) (key : κ) : Bool :=
  (m.find? key).isSome

/-- The keys, in ascending order. -/
def keys (m : Assoc κ α) : List κ := m.entries.map Prod.fst

/-- The number of entries. -/
def size (m : Assoc κ α) : Nat := m.entries.length

/-- Put an entry in its place among entries in ascending order. -/
def insertEntry [DecidableEq κ] [LT κ] [DecidableLT κ] (key : κ) (value : α) :
    List (κ × α) → List (κ × α)
  | [] => [(key, value)]
  | (k, v) :: rest =>
    if key = k then (key, value) :: rest
    else if key < k then (key, value) :: (k, v) :: rest
    else (k, v) :: insertEntry key value rest

/-- Set the value of a key. -/
def insert [DecidableEq κ] [LT κ] [DecidableLT κ] (m : Assoc κ α) (key : κ) (value : α) :
    Assoc κ α :=
  ⟨insertEntry key value m.entries⟩

/-- Change the value of a key that is present. -/
def modify [DecidableEq κ] (m : Assoc κ α) (key : κ) (f : α → α) : Assoc κ α :=
  ⟨m.entries.map fun (k, v) => if k = key then (k, f v) else (k, v)⟩

/-- The map with the given entries; of entries with one key, the last one counts. -/
def ofList [DecidableEq κ] [LT κ] [DecidableLT κ] (entries : List (κ × α)) : Assoc κ α :=
  entries.foldl (fun m (k, v) => m.insert k v) empty

end Assoc

end ExtensionHost
