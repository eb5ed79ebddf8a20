import ExtensionHost.Json.Value
import ExtensionHost.Text.Lower

/-!
# Documents

What is read from a settings file, whichever format it is written in: scalars, arrays and tables.
Integers have 64 bits; larger numbers are decimal ones.

## Main definitions

* `Document` and its fields `Document.field?` and `Document.withField`;
* `Document.merge`, which puts a value into a table and merges tables with tables;
* `Document.ofJson`.
-/

namespace ExtensionHost

/-- A value of a document. -/
inductive Document where
  | null
  | bool (b : Bool)
  | integer (n : Int)
  | decimal (x : Float)
  | string (s : String)
  | array (items : List Document)
  | table (entries : List (String × Document))
  deriving Inhabited

namespace Document

/-- The entries of a table; other values have none. -/
def entries : Document → List (String × Document)
  | .table entries => entries
  | _ => []

/-- The items of an array; other values have none. -/
def items : Document → List Document
  | .array items => items
  | _ => []

/-- Whether a value is a table. -/
def isTable : Document → Bool
  | .table _ => true
  | _ => false

/-- The value of a name in a table. -/
def field? (d : Document) (name : String) : Option Document := d.entries.lookup name

/-- Put an entry in the place of the one with its name, or at the end when there is none. -/
def setEntry (name : String) (value : Document) :
    List (String × Document) → List (String × Document)
  | [] => [(name, value)]
  | (key, old) :: rest =>
    if key = name then (name, value) :: rest else (key, old) :: setEntry name value rest

/-- The table with a value for a name; anything that is not a table is replaced by one. -/
def withField (d : Document) (name : String) (value : Document) : Document :=
  .table (setEntry name value d.entries)

mutual

/-- Put a value into a table under a name.  A table is merged into what is there, its names in lower
case; any other value replaces it. -/
def merge (name : String) : Document → Document → Document
  | .table entries, target =>
    target.withField name (mergeAll entries ((target.field? name).getD (.table [])))
  | .null, target => target.withField name .null
  | .bool b, target => target.withField name (.bool b)
  | .integer n, target => target.withField name (.integer n)
  | .decimal x, target => target.withField name (.decimal x)
  | .string s, target => target.withField name (.string s)
  | .array items, target => target.withField name (.array items)

/-- Merge entries into a table one by one. -/
def mergeAll : List (String × Document) → Document → Document
  | [], target => target
  | entry :: rest, target => mergeAll rest (mergeEntry entry target)

/-- Merge one entry into a table. -/
def mergeEntry : String × Document → Document → Document
  | (name, value), target => merge (Lower.text name) value target

end

/-- The value of an integer of any size: one beyond 64 bits is a decimal number. -/
def ofInt (n : Int) : Document :=
  if -0x8000000000000000 ≤ n ∧ n < 0x8000000000000000 then .integer n
  else if 0 ≤ n then .decimal (UInt64.ofNat n.toNat).toFloat
  else .decimal (-(UInt64.ofNat n.natAbs).toFloat)

mutual

/-- The document of a JSON value. -/
def ofJson : Json → Document
  | .null => .null
  | .bool b => .bool b
  | .integer n => ofInt n
  | .decimal x => .decimal x
  | .string s => .string s
  | .array items => .array (ofJsonItems items)
  | .object fields => .table (ofJsonFields fields)

/-- The items of a JSON array. -/
def ofJsonItems : List Json → List Document
  | [] => []
  | j :: rest => ofJson j :: ofJsonItems rest

/-- The fields of a JSON object. -/
def ofJsonFields : List (String × Json) → List (String × Document)
  | [] => []
  | field :: rest => ofJsonField field :: ofJsonFields rest

/-- A field of a JSON object. -/
def ofJsonField : String × Json → String × Document
  | (name, j) => (name, ofJson j)

end

end Document

end ExtensionHost
