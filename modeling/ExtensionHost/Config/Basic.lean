import ExtensionHost.Error

/-!
# Configuration

The settings that all engines of a factory share.  Before any engine is built they are checked: the
memory limit must not pass the highest one, it must leave room for the first staging buffer with
seventy per cent to spare, and the ticks of the clock must have a length.

## Main definitions

* `OptimizationLevel` and `EngineConfig`, with the defaults `EngineConfig.default`;
* `EngineConfig.memoryLimitBytes` and `EngineConfig.minMemoryLimitPages`;
* `EngineConfig.validate`.
-/

namespace ExtensionHost

/-- How much a module is optimised when it is compiled. -/
inductive OptimizationLevel where
  | none
  | speed
  | speedAndSize
  deriving DecidableEq, Repr

/-- The name of a level. -/
def OptimizationLevel.text : OptimizationLevel → String
  | .none => "none"
  | .speed => "speed"
  | .speedAndSize => "speed_and_size"

/-- All levels. -/
def OptimizationLevel.all : List OptimizationLevel := [.none, .speed, .speedAndSize]

/-- The level of a name. -/
def OptimizationLevel.named? (name : String) : Option OptimizationLevel :=
  OptimizationLevel.all.find? (·.text == name)

/-- The settings of engines. -/
structure EngineConfig where
  /-- The greatest number of pages of a guest's memory; zero means the highest limit. -/
  memoryLimitPages : UInt32
  /-- The size of the first staging buffer of a guest. -/
  preallocatedBufferSize : UInt32
  /-- The least size of any further staging buffer. -/
  bufferGrowthIncrement : UInt32
  /-- Whether a guest is rolled back after a failed invocation. -/
  autoRecover : Bool
  /-- The length of a tick, in which deadlines are measured, in milliseconds. -/
  epochTickMillis : UInt64
  /-- The optimisation of modules. -/
  optimizationLevel : OptimizationLevel
  deriving DecidableEq, Repr

namespace EngineConfig

/-- The number of bytes in a page. -/
def pageBytes : UInt64 := 65536

/-- The highest memory limit. -/
def maxMemoryLimitPages : UInt32 := 0xFFFF

/-- The settings that hold where none are given. -/
def default : EngineConfig where
  memoryLimitPages := 0
  preallocatedBufferSize := 1000000
  bufferGrowthIncrement := 4096
  autoRecover := true
  epochTickMillis := 10
  optimizationLevel := .speed

instance : Inhabited EngineConfig := ⟨default⟩

/-- The memory limit, in which zero stands for the highest one. -/
def effectiveMemoryLimitPages (c : EngineConfig) : UInt32 :=
  if c.memoryLimitPages = 0 then maxMemoryLimitPages else c.memoryLimitPages

/-- The memory limit in bytes. -/
def memoryLimitBytes (c : EngineConfig) : UInt64 :=
  c.effectiveMemoryLimitPages.toUInt64 * pageBytes

/-- The number of bytes that the memory limit must exceed: the first staging buffer and seventy per
cent more, rounded down. -/
def requiredBytes (c : EngineConfig) : UInt64 :=
  c.preallocatedBufferSize.toUInt64 * 17 / 10

/-- The least memory limit that leaves enough room for the first staging buffer. -/
def minMemoryLimitPages (c : EngineConfig) : UInt32 :=
  (c.requiredBytes / pageBytes + 1).toUInt32

/-- Check the settings. -/
def validate (c : EngineConfig) : Except ExtensionError Unit :=
  if maxMemoryLimitPages < c.effectiveMemoryLimitPages then
    .error (.memoryLimitTooHigh c.effectiveMemoryLimitPages maxMemoryLimitPages)
  else if c.memoryLimitBytes ≤ c.requiredBytes then
    .error (.memoryLimitTooLow c.effectiveMemoryLimitPages c.minMemoryLimitPages
      c.preallocatedBufferSize)
  else if c.epochTickMillis = 0 then
    .error (.config (.stated "epoch_tick_ms must be greater than zero"))
  else .ok ()

end EngineConfig

end ExtensionHost
