import ExtensionHost.Guest.Syntax

/-!
# Host functions

The functions that a guest may import from the host, with their names and types.  Strings and bytes
travel to the host as an address and a length, and to the guest as one packed word; a truth value
is a 32-bit number; a row writer is an identifier and a tag.

## Main definitions

* `HostFunction`, `HostFunction.name` and `HostFunction.signature`;
* `HostFunction.named?`, the host function of a name.
-/

namespace ExtensionHost

open Guest

/-- What a guest puts into a field. -/
inductive Payload where
  | string
  | bytes
  | int32
  | int64
  | float32
  | float64
  | bool
  | qname
  deriving DecidableEq, Repr

/-- Where a guest reads a field from: a key or a value by name, or a value by position. -/
inductive FieldSource where
  | key
  | value
  | item
  deriving DecidableEq, Repr

/-- What a guest reads a field as.  A qualified name is read in two parts. -/
inductive Reader where
  | string
  | bytes
  | int32
  | int64
  | float32
  | float64
  | bool
  | qnamePackage
  | qnameEntity
  deriving DecidableEq, Repr

/-- A function of the host. -/
inductive HostFunction where
  /-- Give up with a message. -/
  | panic
  /-- Start a key. -/
  | getKey
  /-- The value of a key, which must exist. -/
  | mustExist
  /-- The value of a key, if it exists. -/
  | canExist
  /-- Receive every row that matches a key. -/
  | readValues
  /-- Start a write of a new value. -/
  | newValue
  /-- Start a write over an existing value. -/
  | updateValue
  /-- Put a field. -/
  | put (payload : Payload)
  /-- Read a field. -/
  | read (source : FieldSource) (reader : Reader)
  /-- Read a nested value of a value, by name. -/
  | nestedField
  /-- Read a nested value of a value, by position. -/
  | nestedItem
  /-- The number of fields of a value. -/
  | valueLength
  deriving DecidableEq, Repr

namespace Payload

/-- All payloads. -/
def all : List Payload := [.string, .bytes, .int32, .int64, .float32, .float64, .bool, .qname]

/-- The last part of the name of a host function that puts a payload. -/
def label : Payload → String
  | .string => "string"
  | .bytes => "bytes"
  | .int32 => "int32"
  | .int64 => "int64"
  | .float32 => "float32"
  | .float64 => "float64"
  | .bool => "bool"
  | .qname => "qname"

/-- The types of the parameters that carry a payload. -/
def params : Payload → List NumberType
  | .string | .bytes => [.i32, .i32]
  | .int32 | .bool => [.i32]
  | .int64 => [.i64]
  | .float32 => [.f32]
  | .float64 => [.f64]
  | .qname => [.i32, .i32, .i32, .i32]

end Payload

namespace FieldSource

/-- All sources. -/
def all : List FieldSource := [.key, .value, .item]

/-- The first part of the name of a host function that reads from a source. -/
def stem : FieldSource → String
  | .key => "host_key_as_"
  | .value => "host_value_as_"
  | .item => "host_value_get_as_"

/-- The types of the parameters that name a field. -/
def params : FieldSource → List NumberType
  | .key | .value => [.i64, .i32, .i32]
  | .item => [.i64, .i32]

end FieldSource

namespace Reader

/-- All readers. -/
def all : List Reader :=
  [.string, .bytes, .int32, .int64, .float32, .float64, .bool, .qnamePackage, .qnameEntity]

/-- The last part of the name of a host function that reads a field. -/
def label : Reader → String
  | .string => "string"
  | .bytes => "bytes"
  | .int32 => "int32"
  | .int64 => "int64"
  | .float32 => "float32"
  | .float64 => "float64"
  | .bool => "bool"
  | .qnamePackage => "qname_pkg"
  | .qnameEntity => "qname_entity"

/-- The type of the number that a reader hands to the guest. -/
def result : Reader → NumberType
  | .string | .bytes | .int64 | .qnamePackage | .qnameEntity => .i64
  | .int32 | .bool => .i32
  | .float32 => .f32
  | .float64 => .f64

end Reader

namespace HostFunction

/-- All host functions. -/
def all : List HostFunction :=
  [.panic, .getKey, .mustExist, .canExist, .readValues, .newValue, .updateValue] ++
    Payload.all.map .put ++
    FieldSource.all.flatMap (fun source => Reader.all.map (.read source)) ++
    [.nestedField, .nestedItem, .valueLength]

/-- The name that a guest imports a host function by. -/
def name : HostFunction → String
  | .panic => "host_panic"
  | .getKey => "host_get_key"
  | .mustExist => "host_must_exist"
  | .canExist => "host_can_exist"
  | .readValues => "host_read_values"
  | .newValue => "host_new_value"
  | .updateValue => "host_update_value"
  | .put payload => "host_row_writer_put_" ++ payload.label
  | .read source reader => source.stem ++ reader.label
  | .nestedField => "host_value_as_value"
  | .nestedItem => "host_value_get_as_value"
  | .valueLength => "host_value_len"

/-- The type of a host function. -/
def signature : HostFunction → Signature
  | .panic => ⟨[.i32, .i32], []⟩
  | .getKey => ⟨[.i32, .i32, .i32, .i32], [.i64]⟩
  | .mustExist => ⟨[.i64], [.i64]⟩
  | .canExist => ⟨[.i64], [.i32, .i64]⟩
  | .readValues => ⟨[.i64], []⟩
  | .newValue => ⟨[.i64], [.i64]⟩
  | .updateValue => ⟨[.i64, .i64], [.i64]⟩
  | .put payload => ⟨[.i64, .i32, .i32, .i32] ++ payload.params, []⟩
  | .read source reader => ⟨source.params, [reader.result]⟩
  | .nestedField => ⟨FieldSource.value.params, [.i64]⟩
  | .nestedItem => ⟨FieldSource.item.params, [.i64]⟩
  | .valueLength => ⟨[.i64], [.i32]⟩

/-- Every host function with its name. -/
def directory : List (String × HostFunction) := all.map fun f => (f.name, f)

/-- The host function of a name. -/
def named? (name : String) : Option HostFunction := directory.lookup name

end HostFunction

end ExtensionHost
