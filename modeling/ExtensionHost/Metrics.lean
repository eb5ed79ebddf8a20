/-!
# Counters

What an engine counts: invocations, invocations that failed, and guests rolled back.

## Main definitions

* `Metrics` with `Metrics.countInvocation`, `Metrics.countError` and `Metrics.countRecover`;
* `Metrics.errorRate`.
-/

namespace ExtensionHost

/-- The counters of an engine.  They wrap around. -/
structure Metrics where
  /-- The number of invocations. -/
  invocations : UInt64
  /-- The number of invocations that failed. -/
  errors : UInt64
  /-- The number of times that a guest was rolled back. -/
  recovers : UInt64
  deriving DecidableEq, Repr

namespace Metrics

/-- The counters at the start. -/
def zero : Metrics := ⟨0, 0, 0⟩

instance : Inhabited Metrics := ⟨zero⟩

/-- Count an invocation. -/
def countInvocation (m : Metrics) : Metrics := { m with invocations := m.invocations + 1 }

/-- Count a failed invocation. -/
def countError (m : Metrics) : Metrics := { m with errors := m.errors + 1 }

/-- Count a guest rolled back. -/
def countRecover (m : Metrics) : Metrics := { m with recovers := m.recovers + 1 }

/-- The share of invocations that failed; zero when there were none. -/
def errorRate (m : Metrics) : Float :=
  if m.invocations = 0 then 0 else m.errors.toFloat / m.invocations.toFloat

end Metrics

end ExtensionHost
