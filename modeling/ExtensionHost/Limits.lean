import ExtensionHost.Clock

/-!
# Deadlines

An invocation may be bounded twice: by a deadline in its own `Context` and by the engine's
`Limits`, an interval that counts from the moment of the call.  The earlier of the two bounds
holds.  A running guest sees its bound as a number of ticks of a periodic clock
(`ticksUntil`); with no bound it gets `unboundedTicks`.

## Main definitions

* `Limits`, `Context` and `Context.effectiveDeadline`;
* `ticksUntil`, the least positive number of ticks that covers the time left.
-/

namespace ExtensionHost

/-- The limits that an engine puts on every invocation. -/
structure Limits where
  /-- The longest an invocation may run; zero means without limit. -/
  executionInterval : Interval
  deriving DecidableEq

namespace Limits

/-- No limit. -/
def unlimited : Limits := ⟨.zero⟩

instance : Inhabited Limits := ⟨unlimited⟩

/-- Whether the limits leave every invocation unbounded. -/
def isUnlimited (l : Limits) : Bool := l.executionInterval.isZero

end Limits

/-- What the caller of an invocation sets for this call alone. -/
structure Context where
  /-- The instant at which the call must be over. -/
  deadline : Option Instant
  deriving DecidableEq, Repr, Inhabited

/-- A deadline that the clock cannot show. -/
structure ClockOverflow where
  deriving DecidableEq, Repr

namespace Context

/-- The context without a deadline. -/
def unbounded : Context := ⟨none⟩

/-- The earlier of the context's deadline and the end of the engine's interval, if there is one.
The interval counts from `now`, and it must end before the clock does. -/
def effectiveDeadline (c : Context) (limits : Limits) (now : Instant) :
    Except ClockOverflow (Option Instant) :=
  if limits.isUnlimited then .ok c.deadline
  else
    match now.add? limits.executionInterval with
    | none => .error ⟨⟩
    | some bound =>
      .ok (some (match c.deadline with
        | none => bound
        | some deadline => deadline.earlier bound))

end Context

/-- The tick budget of an invocation without a deadline, and the largest one there is. -/
def unboundedTicks : Nat := 0x7FFFFFFFFFFFFFFF

/-- The length of a tick in nanoseconds: at least one millisecond. -/
def tickNanos (tickMillis : UInt64) : Nat := max tickMillis.toNat 1 * 1000000

/-- The number of ticks that cover the time from `now` to `deadline`: rounded up, at least one,
and at most `unboundedTicks`. -/
def ticksUntil (tickMillis : UInt64) (deadline now : Instant) : Nat :=
  let tick := tickNanos tickMillis
  min (max ((deadline.since now + (tick - 1)) / tick) 1) unboundedTicks

end ExtensionHost
