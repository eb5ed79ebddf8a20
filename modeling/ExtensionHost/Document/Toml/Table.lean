import ExtensionHost.Document.Value

/-!
# Tables of TOML

A document is built from headers, which open tables, and from assignments, which put values into the
table opened last.  A table may be opened once; it may exist before because it lies on the way to
another one, but not because values were assigned through it.

## Main definitions

* `Toml.Item` and `Toml.Table`, a document under construction;
* `Toml.Table.assign?`, an assignment;
* `Toml.Table.open?` and `Toml.Table.append?`, the two kinds of headers;
* `Toml.Table.document`.
-/

namespace ExtensionHost

namespace Toml

/-- How a table came to be. -/
inductive Origin where
  /-- It has a header. -/
  | stated
  /-- It lies on the way to a table with a header. -/
  | implied
  /-- It lies on the way to an assigned value. -/
  | dotted
  deriving DecidableEq, Repr

/-- What a name stands for in a document under construction. -/
inductive Item where
  /-- A value that is complete. -/
  | value (d : Document)
  /-- A table. -/
  | table (origin : Origin) (entries : List (String × Item))
  /-- An array of tables, each of which has a header; the last one comes first. -/
  | tables (members : List (List (String × Item)))

/-- A table under construction. -/
structure Table where
  /-- How the table came to be. -/
  origin : Origin
  /-- The entries of the table. -/
  entries : List (String × Item)

namespace Table

/-- The table of a document in which nothing stands. -/
def empty : Table := ⟨.stated, []⟩

/-- The item of a name. -/
def item? (t : Table) (name : String) : Option Item := t.entries.lookup name

/-- Put an item in the place of the one with its name, or at the end when there is none. -/
def setItem (name : String) (item : Item) : List (String × Item) → List (String × Item)
  | [] => [(name, item)]
  | (key, old) :: rest =>
    if key = name then (name, item) :: rest else (key, old) :: setItem name item rest

/-- The table with an item for a name. -/
def withItem (t : Table) (name : String) (item : Item) : Table :=
  ⟨t.origin, setItem name item t.entries⟩

/-- Change the table at the end of a path.  Tables that are missing on the way are made.  A way of
an assignment does not lead through tables with headers, except as members of arrays; no way leads
through values. -/
def descend? (assigning : Bool) (change : Table → Option Table) :
    List String → Table → Option Table
  | [], t => change t
  | name :: path, t =>
    match t.item? name with
    | none => do
      let child ← descend? assigning change path ⟨if assigning then .dotted else .implied, []⟩
      return t.withItem name (.table child.origin child.entries)
    | some (.table origin entries) =>
      if assigning && origin == .stated then none
      else do
        let child ← descend? assigning change path ⟨origin, entries⟩
        return t.withItem name (.table child.origin child.entries)
    | some (.tables (last :: others)) => do
      let child ← descend? assigning change path ⟨.stated, last⟩
      return t.withItem name (.tables (child.entries :: others))
    | some (.tables []) => none
    | some (.value _) => none

/-- Assign a value to a name at the end of a path.  The name must be new, and a table that has to do
with headers is not reached by a path. -/
def assign? (path : List String) (name : String) (d : Document) (t : Table) : Option Table :=
  t |> descend? true (fun t =>
    if (t.origin == .dotted) == path.isEmpty then none
    else if (t.item? name).isSome then none
    else some (t.withItem name (.value d))) path

/-- Open the table of a name at the end of a path. -/
def open? (path : List String) (name : String) (t : Table) : Option Table :=
  t |> descend? false (fun t =>
    match t.item? name with
    | none => some (t.withItem name (.table .stated []))
    | some (.table .implied entries) => some (t.withItem name (.table .stated entries))
    | some _ => none) path

/-- Open a further member of the array of tables of a name at the end of a path. -/
def append? (path : List String) (name : String) (t : Table) : Option Table :=
  t |> descend? false (fun t =>
    match t.item? name with
    | none => some (t.withItem name (.tables [[]]))
    | some (.tables members) => some (t.withItem name (.tables ([] :: members)))
    | some _ => none) path

end Table

mutual

/-- The value of an item. -/
def Item.document : Item → Document
  | .value d => d
  | .table _ entries => .table (Item.documents entries)
  | .tables members => .array (Item.arrays members).reverse

/-- The values of entries. -/
def Item.documents : List (String × Item) → List (String × Document)
  | [] => []
  | entry :: rest => Item.entry entry :: Item.documents rest

/-- The value of an entry. -/
def Item.entry : String × Item → String × Document
  | (name, item) => (name, Item.document item)

/-- The values of the members of an array of tables. -/
def Item.arrays : List (List (String × Item)) → List Document
  | [] => []
  | entries :: rest => .table (Item.documents entries) :: Item.arrays rest

end

/-- The document of a table. -/
def Table.document (t : Table) : Document := .table (Item.documents t.entries)

end Toml

end ExtensionHost
