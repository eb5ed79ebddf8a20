/-!
# Failures of state access

The kinds in which a field can be asked for, and what an adapter answers when it cannot serve a
request.

## Main definitions

* `FieldKind` and its name `FieldKind.text`;
* `StateError` and its wording `StateError.message`.
-/

namespace ExtensionHost

/-- The representation that a guest asks a field to be read as. -/
inductive FieldKind where
  | string
  | bytes
  | int32
  | int64
  | float32
  | float64
  | bool
  | qname
  | value
  deriving DecidableEq, Repr

/-- The name of a kind in messages. -/
def FieldKind.text : FieldKind → String
  | .string => "string"
  | .bytes => "bytes"
  | .int32 => "int32"
  | .int64 => "int64"
  | .float32 => "float32"
  | .float64 => "float64"
  | .bool => "bool"
  | .qname => "qname"
  | .value => "value"

/-- Why an adapter refuses a request. -/
inductive StateError where
  /-- Nothing is stored under the name. -/
  | notFound (what : String)
  /-- The field has another kind than the one asked for. -/
  | typeMismatch (expected actual : FieldKind)
  /-- The handle was not minted by the adapter. -/
  | invalidHandle (handle : UInt64)
  /-- A positional read past the last field. -/
  | indexOutOfRange (index length : UInt32)
  /-- The iteration was stopped by its callback. -/
  | interrupted
  /-- Any other reason, in the adapter's words. -/
  | other (reason : String)
  deriving DecidableEq, Repr

/-- The wording of a refusal. -/
def StateError.message : StateError → String
  | .notFound what => s!"not found: {what}"
  | .typeMismatch expected actual =>
    s!"type mismatch: expected {expected.text}, got {actual.text}"
  | .invalidHandle handle => s!"invalid handle: {handle.toNat}"
  | .indexOutOfRange index length =>
    s!"index {index.toNat} out of range for value of length {length.toNat}"
  | .interrupted => "iteration interrupted"
  | .other reason => reason

end ExtensionHost
