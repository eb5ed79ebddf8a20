import ExtensionHost.Error

/-!
# How a run fails

A run of a guest ends early in one of three ways: the guest traps, the run is interrupted because
its time is over, or a host function fails.  `Failure.classify` turns a failure into the error that
callers see: an interruption always shows, then comes a refused growth of memory, then the host
function's own error, and last the trap.

## Main definitions

* `TrapCause`, `Failure` and the texts `Failure.chain`;
* `Failure.classify`.
-/

namespace ExtensionHost

namespace Guest

/-- Why a guest traps. -/
inductive TrapCause where
  /-- The guest ran into a place that it marked as unreachable. -/
  | unreachable
  /-- An access past the end of memory. -/
  | outOfBounds
  /-- A division by zero. -/
  | divideByZero
  /-- A quotient that does not fit. -/
  | integerOverflow
  /-- Calls are nested too deeply. -/
  | stackExhausted
  deriving DecidableEq, Repr

/-- The wording of a cause. -/
def TrapCause.message : TrapCause → String
  | .unreachable => "wasm \x60unreachable\x60 instruction executed"
  | .outOfBounds => "out of bounds memory access"
  | .divideByZero => "integer divide by zero"
  | .integerOverflow => "integer overflow"
  | .stackExhausted => "call stack exhausted"

/-- The early end of a run. -/
inductive Failure where
  /-- The guest trapped. -/
  | trap (cause : TrapCause)
  /-- The time of the run is over. -/
  | interrupted
  /-- A host function failed. -/
  | host (error : ExtensionError)
  deriving DecidableEq, Repr

namespace Failure

/-- The wording of a failure together with the wording of its cause. -/
def chain : Failure → String
  | .trap cause => s!"wasm trap: {cause.message}"
  | .interrupted => "wasm trap: interrupt"
  | .host error => error.chain

/-- The error that a failure shows as, given whether a growth of memory was refused. -/
def classify (growthRefused : Bool) : Failure → ExtensionError
  | .interrupted => .deadlineExceeded
  | failure =>
    if growthRefused then .outOfMemory failure.chain
    else
      match failure with
      | .host error => error
      | _ => .trap failure.chain

end Failure

end Guest

end ExtensionHost
