/-!
# Time

Two kinds of value: `Interval`, a length of time, and `Instant`, a reading of a monotonic clock.
Both count whole nanoseconds.  An interval has at most `2 ^ 64 - 1` seconds; the clock ends after
`2 ^ 63` seconds, so that adding an interval to an instant can fail (`Instant.add?`).

## Main definitions

* `Interval`, its length `Interval.totalNanos` and its text `Interval.text`;
* `Instant`, `Instant.add?` and `Instant.since`.
-/

namespace ExtensionHost

/-- The number of nanoseconds in a second. -/
abbrev nanosPerSecond : Nat := 1000000000

/-- A length of time. -/
structure Interval where
  /-- Whole seconds. -/
  seconds : UInt64
  /-- The part of the length below a second. -/
  nanos : UInt32
  /-- The part below a second is shorter than a second. -/
  nanos_lt : nanos.toNat < nanosPerSecond
  deriving DecidableEq

namespace Interval

/-- No time at all. -/
def zero : Interval := ⟨0, 0, by decide⟩

instance : Inhabited Interval := ⟨zero⟩

/-- The whole length in nanoseconds. -/
def totalNanos (d : Interval) : Nat :=
  d.seconds.toNat * nanosPerSecond + d.nanos.toNat

/-- Whether the length is zero. -/
def isZero (d : Interval) : Bool :=
  d.seconds == 0 && d.nanos == 0

/-- The interval of `n` nanoseconds, absent when its seconds do not fit. -/
def ofNanos? (n : Nat) : Option Interval :=
  if n / nanosPerSecond < UInt64.size then
    some ⟨.ofNat (n / nanosPerSecond), .ofNat (n % nanosPerSecond), by
      have h : n % nanosPerSecond < nanosPerSecond := Nat.mod_lt _ (by decide)
      have h' : n % nanosPerSecond % UInt32.size = n % nanosPerSecond :=
        Nat.mod_eq_of_lt (Nat.lt_trans h (by decide))
      simpa [UInt32.toNat_ofNat', h'] using h⟩
  else none

/-- The interval of `n` milliseconds. -/
def ofMillis (n : UInt64) : Interval :=
  (ofNanos? (n.toNat * 1000000)).getD zero

/-- Seconds plus any number of nanoseconds, whole seconds of which are carried over; absent when
the carry makes the seconds too large. -/
def ofParts? (seconds : UInt64) (nanos : UInt32) : Option Interval :=
  ofNanos? (seconds.toNat * nanosPerSecond + nanos.toNat)

/-- `fraction` as the digits of a decimal with `places` places, without trailing zeros, and without
the point when no digit is left. -/
def fractionText (places fraction : Nat) : String :=
  let digits := Nat.toDigits 10 fraction
  let padded := List.replicate (places - digits.length) '0' ++ digits
  let kept := (padded.reverse.dropWhile (· == '0')).reverse
  if fraction = 0 ∨ kept.isEmpty then "" else "." ++ String.ofList kept

/-- The text of an interval: a decimal number of the largest unit that is not larger than it, in
seconds, milliseconds, microseconds or nanoseconds. -/
def text (d : Interval) : String :=
  let nanos := d.nanos.toNat
  if d.seconds != 0 then s!"{d.seconds.toNat}{fractionText 9 nanos}s"
  else if nanos ≥ 1000000 then s!"{nanos / 1000000}{fractionText 6 (nanos % 1000000)}ms"
  else if nanos ≥ 1000 then s!"{nanos / 1000}{fractionText 3 (nanos % 1000)}µs"
  else s!"{nanos}ns"

end Interval

/-- A reading of the clock, in nanoseconds since its origin. -/
structure Instant where
  /-- Nanoseconds since the clock's origin. -/
  nanos : Nat
  deriving DecidableEq, Repr, Inhabited

namespace Instant

/-- The first number of nanoseconds that the clock cannot show. -/
def clockEnd : Nat := 0x8000000000000000 * nanosPerSecond

/-- The instant an interval later, absent when it lies past the end of the clock. -/
def add? (t : Instant) (d : Interval) : Option Instant :=
  if t.nanos + d.totalNanos < clockEnd then some ⟨t.nanos + d.totalNanos⟩ else none

/-- The nanoseconds from `now` until `t`, zero when `t` is not later. -/
def since (t now : Instant) : Nat := t.nanos - now.nanos

instance : LE Instant := ⟨fun a b => a.nanos ≤ b.nanos⟩

instance (a b : Instant) : Decidable (a ≤ b) := inferInstanceAs (Decidable (a.nanos ≤ b.nanos))

/-- The earlier of two instants. -/
def earlier (a b : Instant) : Instant := if a ≤ b then a else b

end Instant

end ExtensionHost
