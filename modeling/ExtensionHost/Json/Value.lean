/-!
# JSON values

The values of JSON.  A number is an integer or a decimal number, whichever way it is written.

## Main definitions

* `Json` and `Json.field?`;
* `Json.members?` and `Json.optionalMembers?`, the fields of a record written as an object or as an
  array.
-/

namespace ExtensionHost

/-- A value of JSON. -/
inductive Json where
  | null
  | bool (b : Bool)
  | integer (n : Int)
  | decimal (x : Float)
  | string (s : String)
  | array (items : List Json)
  | object (fields : List (String × Json))
  deriving Inhabited

namespace Json

/-- The value of a field of an object. -/
def field? (name : String) : Json → Option Json
  | .object fields => fields.lookup name
  | _ => none

/-- The fields of a record that may lack some: by name from an object, or by position from an array
that is not longer than the record. -/
def optionalMembers? (names : List String) : Json → Option (List (Option Json))
  | .object fields => some (names.map fun name => fields.lookup name)
  | .array items =>
    if items.length ≤ names.length then
      some (items.map some ++ List.replicate (names.length - items.length) none)
    else none
  | _ => none

/-- The fields of a record, none of which may be missing. -/
def members? (names : List String) (j : Json) : Option (List Json) :=
  (j.optionalMembers? names).bind (·.mapM id)

end Json

end ExtensionHost
