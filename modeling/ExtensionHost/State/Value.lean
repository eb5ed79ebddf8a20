import ExtensionHost.Binary.Float
import ExtensionHost.Bytes
import ExtensionHost.State.Error

/-!
# Field values

The values that cross the boundary between host and guest, the opaque handles that an adapter
mints, and the row writers that a guest may put fields into.

A field value is read as the kind it has; besides, a 32-bit integer can be read as a 64-bit one and
a single-precision number as a double-precision one.  Floating-point values are kept as their
binary words, so that a value goes through the host bit for bit.

## Main definitions

* `KeyHandle`, `ValueHandle`, `KeyBuilderHandle`, `IntentHandle`;
* `QName`, `FieldValue`, `FieldValue.kind` and the conversions `FieldValue.toString?` and so on;
* `FieldValue.same`, equality of values;
* `RowWriter`.
-/

namespace ExtensionHost

/-- The key of a row that an iteration produced. -/
structure KeyHandle where
  /-- The number that stands for the key. -/
  id : UInt64
  deriving DecidableEq, Repr

/-- A stored value. -/
structure ValueHandle where
  /-- The number that stands for the value. -/
  id : UInt64
  deriving DecidableEq, Repr

/-- A key under construction. -/
structure KeyBuilderHandle where
  /-- The number that stands for the key under construction. -/
  id : UInt64
  deriving DecidableEq, Repr

/-- A pending write. -/
structure IntentHandle where
  /-- The number that stands for the pending write. -/
  id : UInt64
  deriving DecidableEq, Repr

/-- A name qualified by its package. -/
structure QName where
  /-- The package that holds the entity. -/
  package : String
  /-- The entity. -/
  entity : String
  deriving DecidableEq, Repr

/-- The two parts of a qualified name with a point between them. -/
def QName.text (q : QName) : String := s!"{q.package}.{q.entity}"

/-- A value of a field. -/
inductive FieldValue where
  | string (text : String)
  | bytes (bytes : ByteArray)
  | int32 (number : Int32)
  | int64 (number : Int64)
  /-- A single-precision number, by its word. -/
  | float32 (word : UInt32)
  /-- A double-precision number, by its word. -/
  | float64 (word : UInt64)
  | bool (flag : Bool)
  | qname (name : QName)
  /-- A nested value. -/
  | value (handle : ValueHandle)
  deriving DecidableEq

namespace FieldValue

/-- The kind of a value. -/
def kind : FieldValue → FieldKind
  | .string _ => .string
  | .bytes _ => .bytes
  | .int32 _ => .int32
  | .int64 _ => .int64
  | .float32 _ => .float32
  | .float64 _ => .float64
  | .bool _ => .bool
  | .qname _ => .qname
  | .value _ => .value

/-- The refusal to read a value as a kind that it does not have. -/
def mismatch (v : FieldValue) (expected : FieldKind) : StateError :=
  .typeMismatch expected v.kind

/-- Read as text. -/
def toString? : FieldValue → Except StateError String
  | .string s => .ok s
  | v => .error (v.mismatch .string)

/-- Read as bytes. -/
def toBytes? : FieldValue → Except StateError ByteArray
  | .bytes b => .ok b
  | v => .error (v.mismatch .bytes)

/-- Read as a qualified name. -/
def toQName? : FieldValue → Except StateError QName
  | .qname q => .ok q
  | v => .error (v.mismatch .qname)

/-- Read as a 32-bit integer. -/
def toInt32? : FieldValue → Except StateError Int32
  | .int32 n => .ok n
  | v => .error (v.mismatch .int32)

/-- Read as a 64-bit integer; a 32-bit integer keeps its number. -/
def toInt64? : FieldValue → Except StateError Int64
  | .int64 n => .ok n
  | .int32 n => .ok n.toInt64
  | v => .error (v.mismatch .int64)

/-- Read as a single-precision word. -/
def toFloat32? : FieldValue → Except StateError UInt32
  | .float32 w => .ok w
  | v => .error (v.mismatch .float32)

/-- Read as a double-precision word; a single-precision number is widened. -/
def toFloat64? : FieldValue → Except StateError UInt64
  | .float64 w => .ok w
  | .float32 w => .ok (Binary32.widen w)
  | v => .error (v.mismatch .float64)

/-- Read as a truth value. -/
def toBool? : FieldValue → Except StateError Bool
  | .bool b => .ok b
  | v => .error (v.mismatch .bool)

/-- Read as a handle of a nested value. -/
def toValue? : FieldValue → Except StateError ValueHandle
  | .value h => .ok h
  | v => .error (v.mismatch .value)

/-- Equality of values.  Floating-point values are compared as numbers. -/
def same : FieldValue → FieldValue → Bool
  | .string s, .string t => s == t
  | .bytes b, .bytes c => b == c
  | .int32 m, .int32 n => m == n
  | .int64 m, .int64 n => m == n
  | .float32 v, .float32 w => Binary32.equal v w
  | .float64 v, .float64 w => Binary64.equal v w
  | .bool b, .bool c => b == c
  | .qname p, .qname q => p == q
  | .value h, .value k => h == k
  | _, _ => false

end FieldValue

/-- What a guest puts fields into. -/
inductive RowWriter where
  | keyBuilder (handle : KeyBuilderHandle)
  | intent (handle : IntentHandle)
  deriving DecidableEq, Repr

namespace RowWriter

/-- The tag that marks a key builder. -/
def keyBuilderTag : UInt32 := 0

/-- The tag that marks a pending write. -/
def intentTag : UInt32 := 1

/-- The writer that an identifier and a tag stand for. -/
def ofTag? (id : UInt64) (tag : UInt32) : Option RowWriter :=
  if tag = keyBuilderTag then some (.keyBuilder ⟨id⟩)
  else if tag = intentTag then some (.intent ⟨id⟩)
  else none

end RowWriter

end ExtensionHost
