import ExtensionHost.Engine
import ExtensionHost.Factory
import ExtensionHost.Json.Value

/-!
# JSON forms

How the records of this library are written in JSON, and which JSON is read as one of them.  A
record is written as an object; it is read from an object, of which unknown fields are ignored, or
from an array of its fields in order.  A field that is missing is an error, except that a missing
setting has its default.

## Main definitions

* `JsonForm`, types with a form in JSON;
* its instances for settings, packages, limits, counters, names and kinds.
-/

namespace ExtensionHost

/-- A type whose values are written in JSON. -/
class JsonForm (α : Type) where
  /-- The form of a value. -/
  toJson : α → Json
  /-- The value of a form. -/
  ofJson? : Json → Option α

export JsonForm (toJson ofJson?)

instance : JsonForm Bool where
  toJson b := .bool b
  ofJson?
    | .bool b => some b
    | _ => none

instance : JsonForm String where
  toJson s := .string s
  ofJson?
    | .string s => some s
    | _ => none

/-- The number of an integer within bounds. -/
def natOfJson? (size : Nat) : Json → Option Nat
  | .integer n => if 0 ≤ n ∧ n < size then some n.toNat else none
  | _ => none

instance : JsonForm UInt32 where
  toJson n := .integer n.toNat
  ofJson? j := (natOfJson? UInt32.size j).map UInt32.ofNat

instance : JsonForm UInt64 where
  toJson n := .integer n.toNat
  ofJson? j := (natOfJson? UInt64.size j).map UInt64.ofNat

instance {α : Type} [JsonForm α] : JsonForm (List α) where
  toJson as := .array (as.map toJson)
  ofJson?
    | .array items => items.mapM ofJson?
    | _ => none

/-- The value of one of several names, given as the name or as an object of which the name is the
only field, with a null value. -/
def namedOfJson? {α : Type} (named? : String → Option α) : Json → Option α
  | .string name => named? name
  | .object [(name, .null)] => named? name
  | _ => none

instance : JsonForm OptimizationLevel where
  toJson level := .string level.text
  ofJson? := namedOfJson? OptimizationLevel.named?

namespace FieldKind

/-- All kinds. -/
def all : List FieldKind :=
  [.string, .bytes, .int32, .int64, .float32, .float64, .bool, .qname, .value]

/-- The name of a kind in JSON. -/
def formName : FieldKind → String
  | .string => "String"
  | .bytes => "Bytes"
  | .int32 => "Int32"
  | .int64 => "Int64"
  | .float32 => "Float32"
  | .float64 => "Float64"
  | .bool => "Bool"
  | .qname => "QName"
  | .value => "Value"

/-- The kind of a name in JSON. -/
def ofFormName? (name : String) : Option FieldKind := all.find? (·.formName == name)

end FieldKind

instance : JsonForm FieldKind where
  toJson kind := .string kind.formName
  ofJson? := namedOfJson? FieldKind.ofFormName?

namespace Interval

/-- The names of the fields of an interval. -/
def fieldNames : List String := ["secs", "nanos"]

/-- An object that stands for an interval has no other fields. -/
def isKnown : Json → Bool
  | .object fields => fields.all fun (name, _) => fieldNames.contains name
  | _ => true

end Interval

instance : JsonForm Interval where
  toJson d := .object [("secs", toJson d.seconds), ("nanos", toJson d.nanos)]
  ofJson? j := do
    let [secs, nanos] ← j.members? Interval.fieldNames | none
    if Interval.isKnown j then Interval.ofParts? (← ofJson? secs) (← ofJson? nanos) else none

instance : JsonForm Limits where
  toJson l := .object [("execution_interval", toJson l.executionInterval)]
  ofJson? j := do
    let [interval] ← j.members? ["execution_interval"] | none
    return ⟨← ofJson? interval⟩

instance : JsonForm QName where
  toJson q := .object [("package", .string q.package), ("entity", .string q.entity)]
  ofJson? j := do
    let [package, entity] ← j.members? ["package", "entity"] | none
    return ⟨← ofJson? package, ← ofJson? entity⟩

instance : JsonForm Metrics where
  toJson m := .object [("invocations_total", toJson m.invocations),
    ("errors_total", toJson m.errors), ("recovers_total", toJson m.recovers)]
  ofJson? j := do
    let [invocations, errors, recovers] ←
      j.members? ["invocations_total", "errors_total", "recovers_total"] | none
    return ⟨← ofJson? invocations, ← ofJson? errors, ← ofJson? recovers⟩

instance : JsonForm HeapStats where
  toJson h := .object [("in_use", toJson h.inUse), ("sys", toJson h.sys),
    ("mallocs", toJson h.mallocs), ("frees", toJson h.frees)]
  ofJson? j := do
    let [inUse, sys, mallocs, frees] ← j.members? ["in_use", "sys", "mallocs", "frees"] | none
    return ⟨← ofJson? inUse, ← ofJson? sys, ← ofJson? mallocs, ← ofJson? frees⟩

instance : JsonForm FactoryStats where
  toJson s := .object [("pools_created", toJson s.poolsCreated),
    ("engines_created", toJson s.enginesCreated),
    ("packages_compiled", toJson s.packagesCompiled)]
  ofJson? j := do
    let [pools, engines, packages] ←
      j.members? ["pools_created", "engines_created", "packages_compiled"] | none
    return ⟨← ofJson? pools, ← ofJson? engines, ← ofJson? packages⟩

instance : JsonForm Url where
  toJson u := .string u.text
  ofJson?
    | .string s => Url.parse? s
    | _ => none

instance : JsonForm Package where
  toJson p := .object [("qualified_name", toJson p.qualifiedName),
    ("module_url", toJson p.moduleUrl), ("extension_names", toJson p.extensionNames)]
  ofJson? j := do
    let [name, url, extensions] ←
      j.members? ["qualified_name", "module_url", "extension_names"] | none
    return ⟨← ofJson? name, ← ofJson? url, ← ofJson? extensions⟩

namespace EngineConfig

/-- The names of the settings. -/
def fieldNames : List String :=
  ["memory_limit_pages", "preallocated_buffer_size", "buffer_growth_increment", "auto_recover",
    "epoch_tick_ms", "optimization_level"]

/-- The value of a setting, which has its default when it is missing. -/
def settingOfJson? {α : Type} [JsonForm α] (default : α) : Option Json → Option α
  | some j => ofJson? j
  | none => some default

end EngineConfig

open EngineConfig in
instance : JsonForm EngineConfig where
  toJson c := .object [("memory_limit_pages", toJson c.memoryLimitPages),
    ("preallocated_buffer_size", toJson c.preallocatedBufferSize),
    ("buffer_growth_increment", toJson c.bufferGrowthIncrement),
    ("auto_recover", toJson c.autoRecover),
    ("epoch_tick_ms", toJson c.epochTickMillis),
    ("optimization_level", toJson c.optimizationLevel)]
  ofJson? j := do
    let [pages, buffer, increment, recover, tick, level] ←
      j.optionalMembers? EngineConfig.fieldNames | none
    let c := EngineConfig.default
    return {
      memoryLimitPages := ← settingOfJson? c.memoryLimitPages pages
      preallocatedBufferSize := ← settingOfJson? c.preallocatedBufferSize buffer
      bufferGrowthIncrement := ← settingOfJson? c.bufferGrowthIncrement increment
      autoRecover := ← settingOfJson? c.autoRecover recover
      epochTickMillis := ← settingOfJson? c.epochTickMillis tick
      optimizationLevel := ← settingOfJson? c.optimizationLevel level }

end ExtensionHost
