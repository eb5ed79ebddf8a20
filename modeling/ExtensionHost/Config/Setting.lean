import ExtensionHost.Binary.Float
import ExtensionHost.Config.Basic
import ExtensionHost.Document.Value
import ExtensionHost.Text.Numeral

/-!
# Settings in documents

How the value of each setting is read from a document.  Scalars are read generously: numbers may be
written as texts, truth values as numbers or words.  Unknown names are ignored, and a setting that
is not given has its default.

## Main definitions

* `Setting.natural?`, `Setting.word32?`, `Setting.word64?`, `Setting.switch?` and `Setting.level?`;
* `EngineConfig.ofDocument?`.
-/

namespace ExtensionHost

namespace Setting

/-- Words for yes. -/
def affirmative : List String := ["true", "on", "yes"]

/-- Words for no. -/
def negative : List String := ["false", "off", "no"]

/-- The truth value of a word, in any case. -/
def word? (s : String) : Option Bool :=
  if affirmative.contains (Lower.text s) then some true
  else if negative.contains (Lower.text s) then some false
  else none

/-- A natural number: a decimal number is rounded, truth values are one and zero, and a text is one
of the words or a numeral of 64 bits. -/
def natural? : Document → Option Nat
  | .bool b => some b.toNat
  | .integer n => if 0 ≤ n then some n.toNat else none
  | .decimal x => some (Binary64.roundToWord x.toBits).toNat
  | .string s =>
    match word? s with
    | some b => some b.toNat
    | none => Numeral.unsigned64? s.toList
  | .null | .array _ | .table _ => none

/-- A natural number of 32 bits. -/
def word32? (d : Document) : Option UInt32 :=
  ((natural? d).filter (· < UInt32.size)).map UInt32.ofNat

/-- A natural number of 64 bits. -/
def word64? (d : Document) : Option UInt64 :=
  ((natural? d).filter (· < UInt64.size)).map UInt64.ofNat

/-- A truth value: a number is one unless it is zero, and a text is one of the words or a digit. -/
def switch? : Document → Option Bool
  | .bool b => some b
  | .integer n => some (n != 0)
  | .decimal x => some (!Binary64.isZero x.toBits)
  | .string s => if s = "1" then some true else if s = "0" then some false else word? s
  | .null | .array _ | .table _ => none

/-- The level of a name in any case. -/
def levelNamed? (name : String) : Option OptimizationLevel :=
  OptimizationLevel.named? (Lower.text name)

/-- A level: its name, or a table with this name only. -/
def level? : Document → Option OptimizationLevel
  | .string s => levelNamed? s
  | .table [(name, _)] => levelNamed? name
  | _ => none

/-- The value of a setting, which has its default when the document does not give it. -/
def read? {α : Type} (value? : Document → Option α) (default : α) (name : String)
    (d : Document) : Option α :=
  match d.field? name with
  | some value => value? value
  | none => some default

end Setting

/-- The settings of a document. -/
def EngineConfig.ofDocument? (d : Document) : Option EngineConfig := do
  let c := EngineConfig.default
  return {
    memoryLimitPages := ← Setting.read? Setting.word32? c.memoryLimitPages "memory_limit_pages" d
    preallocatedBufferSize :=
      ← Setting.read? Setting.word32? c.preallocatedBufferSize "preallocated_buffer_size" d
    bufferGrowthIncrement :=
      ← Setting.read? Setting.word32? c.bufferGrowthIncrement "buffer_growth_increment" d
    autoRecover := ← Setting.read? Setting.switch? c.autoRecover "auto_recover" d
    epochTickMillis := ← Setting.read? Setting.word64? c.epochTickMillis "epoch_tick_ms" d
    optimizationLevel :=
      ← Setting.read? Setting.level? c.optimizationLevel "optimization_level" d }

end ExtensionHost
