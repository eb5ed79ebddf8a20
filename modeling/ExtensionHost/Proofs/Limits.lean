import ExtensionHost.Limits
import ExtensionHost.Proofs.Clock
import Mathlib.Order.Bounds.Basic

/-!
# Deadlines and ticks

An invocation has at most two bounds, the caller's own deadline and the end of the engine's interval
(`Context.IsBound`).  The deadline in force is the earliest of them, and the time left until then
is handed out in ticks.

Two things are not as one might expect.  An interval of no length is no bound, so that a longer
interval does not always bound less.  And an interval that reaches past the end of the clock leaves
no deadline in force at all, not even the caller's own, which it is added up before
(`Limits.Outlasts`).

## Main definitions

* `Context.IsBound`, `Context.IsEarliest` and `Limits.Outlasts`
* `Tightens`, bounds that are at least as tight as others
* `ticksWord`, the number of ticks as it is computed in words

## Main results

* `Context.effectiveDeadline_eq_ok_iff` and `Context.effectiveDeadline_eq_error_iff`
* `ticksUntil_eq`, the least number of ticks that covers the time left
* `toNat_ticksWord`, the words are wide enough
-/

namespace ExtensionHost

/-- The interval reaches past the end of the clock. -/
def Limits.Outlasts (limits : Limits) (now : Instant) : Prop :=
  0 < limits.executionInterval.totalNanos ∧
    Instant.clockEnd ≤ now.nanos + limits.executionInterval.totalNanos

namespace Context

/-- An instant at which an invocation must be over. -/
inductive IsBound (c : Context) (limits : Limits) (now : Instant) : Instant → Prop
  /-- The deadline that the caller sets. -/
  | own {d : Instant} (h : c.deadline = some d) : IsBound c limits now d
  /-- The end of the engine's interval, if it has a length and ends before the clock does. -/
  | limit {d : Instant} (hpos : 0 < limits.executionInterval.totalNanos)
    (h : now.add? limits.executionInterval = some d) : IsBound c limits now d

/-- The earliest bound, if there is one. -/
def IsEarliest (c : Context) (limits : Limits) (now : Instant) : Option Instant → Prop
  | none => ∀ d, ¬ c.IsBound limits now d
  | some d => IsLeast {bound | c.IsBound limits now bound} d

variable {c : Context} {limits : Limits} {now d : Instant} {answer : Option Instant}

/-- There is one earliest bound only. -/
theorem IsEarliest.unique {other : Option Instant} (h : c.IsEarliest limits now answer)
    (h' : c.IsEarliest limits now other) : answer = other := by
  match answer, other, h, h' with
  | none, none, _, _ => rfl
  | none, some d, h, h' => exact absurd h'.1 (h d)
  | some d, none, h, h' => exact absurd h.1 (h' d)
  | some ⟨n⟩, some ⟨k⟩, h, h' =>
    have hle : n ≤ k := h.2 h'.1
    have hge : k ≤ n := h'.2 h.1
    rw [Nat.le_antisymm hle hge]

/-- Without an interval, or with one that has no end, the caller's deadline is the only bound. -/
theorem isEarliest_own (h : limits.executionInterval.totalNanos = 0 ∨ limits.Outlasts now) :
    c.IsEarliest limits now c.deadline := by
  have hown {bound : Instant} (hbound : c.IsBound limits now bound) :
      c.deadline = some bound := by
    rcases hbound with hown | ⟨hpos, hend⟩
    · exact hown
    · obtain ⟨hsum, hlt⟩ := Instant.add?_eq_some_iff.mp hend
      rcases h with hzero | ⟨-, hlong⟩ <;> omega
  rcases hdeadline : c.deadline with _ | own
  · intro bound hbound
    rw [hown hbound] at hdeadline
    cases hdeadline
  · refine ⟨.own hdeadline, fun bound hbound => ?_⟩
    rw [hown hbound, Option.some.injEq] at hdeadline
    exact hdeadline ▸ Nat.le_refl _

/-- With an interval, the earlier of its end and the caller's deadline is the earliest bound. -/
theorem isEarliest_earlier (hpos : 0 < limits.executionInterval.totalNanos)
    (hend : now.add? limits.executionInterval = some d) :
    c.IsEarliest limits now (some (c.deadline.elim d (·.earlier d))) := by
  rcases hdeadline : c.deadline with _ | own
  · refine ⟨.limit hpos hend, fun bound hbound => ?_⟩
    rcases hbound with hown | ⟨-, hbound⟩
    · rw [hdeadline] at hown
      cases hown
    · rw [hend, Option.some.injEq] at hbound
      exact hbound ▸ Nat.le_refl _
  · constructor
    · show c.IsBound limits now (own.earlier d)
      rw [Instant.earlier]
      split
      · exact .own hdeadline
      · exact .limit hpos hend
    · intro bound hbound
      rcases hbound with hown | ⟨-, hbound⟩
      · rw [hdeadline, Option.some.injEq] at hown
        exact hown ▸ (own.earlier_le d).1
      · rw [hend, Option.some.injEq] at hbound
        exact hbound ▸ (own.earlier_le d).2

/-- What the deadline in force is, by cases on the interval. -/
theorem effectiveDeadline_cases (c : Context) (limits : Limits) (now : Instant) :
    (limits.Outlasts now ∧ c.effectiveDeadline limits now = .error ⟨⟩) ∨
      ¬ limits.Outlasts now ∧ ∃ answer, c.effectiveDeadline limits now = .ok answer ∧
        c.IsEarliest limits now answer := by
  rcases hunlimited : limits.isUnlimited with _ | _
  · have hpos : 0 < limits.executionInterval.totalNanos :=
      Interval.isZero_eq_false_iff.mp hunlimited
    rcases hend : now.add? limits.executionInterval with _ | d
    · left
      refine ⟨⟨hpos, Instant.add?_eq_none_iff.mp hend⟩, ?_⟩
      simp only [effectiveDeadline, hunlimited, hend, Bool.false_eq_true, if_false]
    · right
      obtain ⟨hsum, hlt⟩ := Instant.add?_eq_some_iff.mp hend
      refine ⟨fun houtlasts => Nat.not_le.mpr (hsum ▸ hlt) houtlasts.2, _, ?_,
        isEarliest_earlier hpos hend⟩
      rcases hdeadline : c.deadline with _ | own <;>
        simp only [effectiveDeadline, hunlimited, hend, hdeadline, Bool.false_eq_true, if_false,
          Option.elim]
  · right
    have hzero : limits.executionInterval.totalNanos = 0 := Interval.isZero_iff.mp hunlimited
    refine ⟨fun houtlasts => absurd houtlasts.1 (by omega), _, ?_, isEarliest_own (Or.inl hzero)⟩
    simp only [effectiveDeadline, hunlimited, if_true]

/-- An interval that reaches past the end of the clock leaves no deadline in force. -/
theorem effectiveDeadline_eq_error_iff :
    c.effectiveDeadline limits now = .error ⟨⟩ ↔ limits.Outlasts now := by
  rcases c.effectiveDeadline_cases limits now with ⟨houtlasts, h⟩ | ⟨houtlasts, answer, h, -⟩
  · exact iff_of_true h houtlasts
  · rw [h]
    exact iff_of_false nofun houtlasts

/-- Otherwise the earliest bound is in force. -/
theorem effectiveDeadline_eq_ok_iff (h : ¬ limits.Outlasts now) :
    c.effectiveDeadline limits now = .ok answer ↔ c.IsEarliest limits now answer := by
  rcases c.effectiveDeadline_cases limits now with ⟨houtlasts, -⟩ | ⟨-, found, hfound, hearliest⟩
  · exact absurd houtlasts h
  · rw [hfound, Except.ok.injEq]
    exact ⟨fun heq => heq ▸ hearliest, hearliest.unique⟩

/-- There is an earliest bound, or none at all, unless the interval reaches past the end of the
clock. -/
theorem exists_isEarliest (c : Context) (h : ¬ limits.Outlasts now) :
    ∃ answer, c.IsEarliest limits now answer := by
  rcases c.effectiveDeadline_cases limits now with ⟨houtlasts, -⟩ | ⟨-, answer, -, hanswer⟩
  · exact absurd houtlasts h
  · exact ⟨answer, hanswer⟩

/-- Only the caller's own deadline can have passed at the moment of the call. -/
theorem IsBound.eq_own_of_le (h : c.IsBound limits now d) (hpassed : d ≤ now) :
    c.deadline = some d := by
  rcases h with hown | ⟨hpos, hend⟩
  · exact hown
  · have hsum := (Instant.add?_eq_some_iff.mp hend).1
    have hle : d.nanos ≤ now.nanos := hpassed
    omega

end Context

/-! ### Tighter bounds -/

/-- The bounds on one invocation are at least as tight as those on another: the caller's deadline is
earlier, or there was none, and the engine's interval is shorter, or there was none. -/
structure Tightens (c' : Context) (limits' : Limits) (c : Context) (limits : Limits) : Prop where
  /-- The caller's deadline. -/
  own : ∀ d, c.deadline = some d → ∃ d', c'.deadline = some d' ∧ d' ≤ d
  /-- The engine's interval. -/
  limit : 0 < limits.executionInterval.totalNanos →
    0 < limits'.executionInterval.totalNanos ∧
      limits'.executionInterval.totalNanos ≤ limits.executionInterval.totalNanos

namespace Tightens

variable {c c' : Context} {limits limits' : Limits} {now d : Instant}

/-- Every bound has a tighter one. -/
theorem exists_isBound (h : Tightens c' limits' c limits) (hd : c.IsBound limits now d) :
    ∃ d', c'.IsBound limits' now d' ∧ d' ≤ d := by
  rcases hd with hown | ⟨hpos, hend⟩
  · obtain ⟨d', hown', hle⟩ := h.own d hown
    exact ⟨d', .own hown', hle⟩
  · obtain ⟨hpos', hshort⟩ := h.limit hpos
    obtain ⟨hsum, hlt⟩ := Instant.add?_eq_some_iff.mp hend
    refine ⟨⟨now.nanos + limits'.executionInterval.totalNanos⟩,
      .limit hpos' (Instant.add?_eq_some_iff.mpr ⟨rfl, ?_⟩), ?_⟩
    · show now.nanos + limits'.executionInterval.totalNanos < Instant.clockEnd
      omega
    · show now.nanos + limits'.executionInterval.totalNanos ≤ d.nanos
      omega

/-- The earliest bound gets no later. -/
theorem exists_isEarliest_le (h : Tightens c' limits' c limits) {answer : Option Instant}
    (hanswer : c'.IsEarliest limits' now answer) (hd : c.IsEarliest limits now (some d)) :
    ∃ d', answer = some d' ∧ d' ≤ d := by
  obtain ⟨d', hbound', hle⟩ := h.exists_isBound hd.1
  match answer, hanswer with
  | none, hnone => exact absurd hbound' (hnone d')
  | some earliest, hearliest => exact ⟨earliest, rfl, Nat.le_trans (hearliest.2 hbound') hle⟩

end Tightens

/-! ### Ticks -/

/-- Rounding up, but to one at least, yields the least number of ticks that covers a time. -/
theorem isLeast_ticks {tick : Nat} (htick : 0 < tick) (left : Nat) :
    IsLeast {n | 1 ≤ n ∧ left ≤ n * tick} (max ((left + (tick - 1)) / tick) 1) := by
  constructor
  · refine ⟨Nat.le_max_right .., ?_⟩
    have hdiv := Nat.div_add_mod' (left + (tick - 1)) tick
    have hmod := Nat.mod_lt (left + (tick - 1)) htick
    calc left ≤ (left + (tick - 1)) / tick * tick := by omega
      _ ≤ max ((left + (tick - 1)) / tick) 1 * tick :=
        Nat.mul_le_mul_right tick (Nat.le_max_left ..)
  · rintro n ⟨hpos, hcovers⟩
    refine Nat.max_le.mpr ⟨Nat.le_of_lt_succ (Nat.div_lt_of_lt_mul ?_), hpos⟩
    rw [Nat.mul_succ, Nat.mul_comm]
    omega

/-- Ticks are at least a millisecond long. -/
theorem tickNanos_eq {tickMillis : UInt64} (h : 1 ≤ tickMillis.toNat) :
    tickNanos tickMillis = tickMillis.toNat * 1000000 := by
  rw [tickNanos, Nat.max_eq_left h]

theorem tickNanos_pos (tickMillis : UInt64) : 0 < tickNanos tickMillis := by
  rw [tickNanos]
  omega

/-- The number of ticks until a deadline is the least positive one that covers the time left, or the
largest there is. -/
theorem ticksUntil_eq {tickMillis : UInt64} {deadline now : Instant} {n : Nat}
    (h : IsLeast {n | 1 ≤ n ∧ deadline.since now ≤ n * tickNanos tickMillis} n) :
    ticksUntil tickMillis deadline now = min n unboundedTicks := by
  rw [ticksUntil, (isLeast_ticks (tickNanos_pos tickMillis) _).unique h]

theorem ticksUntil_le_unboundedTicks (tickMillis : UInt64) (deadline now : Instant) :
    ticksUntil tickMillis deadline now ≤ unboundedTicks :=
  Nat.min_le_right ..

/-- An earlier deadline is fewer ticks away. -/
theorem ticksUntil_le_ticksUntil {tickMillis : UInt64} {d d' : Instant} (h : d' ≤ d)
    (now : Instant) : ticksUntil tickMillis d' now ≤ ticksUntil tickMillis d now := by
  have hleast := isLeast_ticks (tickNanos_pos tickMillis) (d.since now)
  have hleast' := isLeast_ticks (tickNanos_pos tickMillis) (d'.since now)
  have hsince : d'.since now ≤ d.since now := Nat.sub_le_sub_right h _
  have hfewer := hleast.mono hleast' fun n hn => ⟨hn.1, Nat.le_trans hsince hn.2⟩
  rw [ticksUntil_eq hleast, ticksUntil_eq hleast']
  omega

/-- The number of ticks of a length that cover a time, in words: of 128 bits up to the quotient, of
64 bits in the end. -/
def ticksWord (tick left : BitVec 128) : UInt64 :=
  let quotient := if left % tick = 0 then left / tick else left / tick + 1
  let clamped :=
    if quotient < 1 then 1
    else if .ofNat 128 unboundedTicks < quotient then .ofNat 128 unboundedTicks
    else quotient
  .ofBitVec (clamped.setWidth 64)

/-- Two ways to round a quotient up. -/
theorem ceilDiv_eq {tick left : Nat} (htick : 0 < tick) :
    (left + (tick - 1)) / tick = if left % tick = 0 then left / tick else left / tick + 1 := by
  have hdiv := Nat.div_add_mod' left tick
  have hmod := Nat.mod_lt left htick
  split
  · refine Nat.div_eq_of_lt_le (by omega) ?_
    rw [Nat.succ_mul]
    omega
  · refine Nat.div_eq_of_lt_le ?_ ?_
    · rw [Nat.succ_mul]
      omega
    · rw [Nat.succ_mul, Nat.succ_mul]
      omega

/-- No word is too narrow: not even the quotient and one more. -/
theorem toNat_ticksWord {tick left : BitVec 128} (htick : 0 < tick.toNat) :
    (ticksWord tick left).toNat
      = min (max ((left.toNat + (tick.toNat - 1)) / tick.toNat) 1) unboundedTicks := by
  have hleft := left.isLt
  have hzero : left % tick = 0 ↔ left.toNat % tick.toNat = 0 := by
    rw [← BitVec.toNat_inj, BitVec.toNat_umod]
    rfl
  have hquotient : (if left % tick = 0 then left / tick else left / tick + 1).toNat
      = (left.toNat + (tick.toNat - 1)) / tick.toNat := by
    rw [ceilDiv_eq htick]
    by_cases hmod : left % tick = 0
    · rw [if_pos hmod, if_pos (hzero.mp hmod), BitVec.toNat_udiv]
    · rw [if_neg hmod, if_neg (fun h => hmod (hzero.mpr h)), BitVec.toNat_add, BitVec.toNat_udiv]
      -- there is a remainder, so that a tick is longer than one nanosecond
      have htwo : 2 ≤ tick.toNat := by
        refine Nat.succ_le_of_lt (Nat.lt_of_le_of_ne htick fun hone => hmod (hzero.mpr ?_))
        rw [← hone, Nat.mod_one]
      have hhalf := Nat.div_le_div_left htwo (by decide : 0 < 2) (a := left.toNat)
      refine Nat.mod_eq_of_lt ?_
      show left.toNat / tick.toNat + 1 < 2 ^ 128
      omega
  have hlow : (1 : BitVec 128).toNat = 1 := rfl
  have hhigh : (BitVec.ofNat 128 unboundedTicks).toNat = unboundedTicks := rfl
  have hbound : unboundedTicks = 2 ^ 63 - 1 := rfl
  rw [← hquotient, ticksWord]
  generalize (if left % tick = 0 then left / tick else left / tick + 1) = quotient
  simp only [UInt64.toNat_ofBitVec, BitVec.toNat_setWidth, BitVec.lt_def, hlow, hhigh]
  split
  · rw [hlow]
    omega
  · split
    · rw [hhigh]
      omega
    · omega

end ExtensionHost
