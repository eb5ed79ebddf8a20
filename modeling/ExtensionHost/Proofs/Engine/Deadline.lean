import ExtensionHost.Json.Form
import ExtensionHost.Proofs.Engine.Admission
import Mathlib.Algebra.GroupWithZero.Nat

/-!
# Deadlines of invocations

How much time an invocation gets is settled before its guest is entered, by the bounds that there
are at the moment of the call.  No bound, and it gets all the ticks there are; a bound that has
passed, and it is turned away; otherwise the ticks that cover the time until the earliest bound.
Tighter bounds never lead to more time.

All of this supposes that the engine's interval ends before the clock does.  If it does not, there
is no answer at all: the end of the interval is worked out before anything else is looked at, and
that fails.  The invocation has been counted by then, but no error is, and nothing else has
happened.

## Main results

* `Engine.ticksAt_eq_error_iff` and `Engine.ticksAt_eq_some_iff`
* `Engine.enters_of_tightens`, tighter bounds lead to less time
* `Engine.heeds_limits`, what an invocation comes to under the limits of its engine
* `Engine.budgets_cover_the_time_left`
* `Engine.invocations_answer_within_the_clock`
* `Engine.long_limits_crash_invocations`, an example of an interval that is too long
-/

namespace ExtensionHost

open Guest

namespace Engine

variable {e : Engine} {now : Instant} {package extension : String} {context : Context}
  {m : GuestModule} {function : String} {ticks : Nat}

/-- The ticks are not told if and only if the interval reaches past the end of the clock. -/
theorem ticksAt_eq_error_iff : e.ticksAt now context = .error ⟨⟩ ↔ e.limits.Outlasts now := by
  rw [← Context.effectiveDeadline_eq_error_iff (c := context), ticksAt]
  rcases context.effectiveDeadline e.limits now with overflow | answer
  · exact iff_of_true rfl rfl
  · simp only [Except.map, reduceCtorEq]

/-- An invocation gets time by the earliest bound, if that is still to come. -/
theorem ticksAt_eq_some_iff (h : ¬ e.limits.Outlasts now) :
    e.ticksAt now context = .ok (some ticks) ↔
      context.IsEarliest e.limits now none ∧ ticks = unboundedTicks ∨
        ∃ d, context.IsEarliest e.limits now (some d) ∧ now.nanos < d.nanos ∧
          ticks = ticksUntil e.config.epochTickMillis d now := by
  obtain ⟨answer, hanswer⟩ := context.exists_isEarliest h
  rw [ticksAt, (Context.effectiveDeadline_eq_ok_iff h).mpr hanswer]
  rcases answer with _ | d
  · simp only [Except.map, Except.ok.injEq, Option.some.injEq]
    constructor
    · rintro rfl
      exact Or.inl ⟨hanswer, rfl⟩
    · rintro (⟨-, rfl⟩ | ⟨d, hd, -⟩)
      · rfl
      · cases hanswer.unique hd
  · simp only [Except.map, Except.ok.injEq, Option.ite_none_left_eq_some, Option.some.injEq,
      Instant.le_iff, Nat.not_le]
    constructor
    · rintro ⟨hlater, rfl⟩
      exact Or.inr ⟨d, hanswer, hlater, rfl⟩
    · rintro (⟨hnone, -⟩ | ⟨d', hd', hlater, rfl⟩)
      · cases hanswer.unique hnone
      · cases hanswer.unique hd'
        exact ⟨hlater, rfl⟩

/-- It gets none if the earliest bound has passed. -/
theorem ticksAt_eq_none_iff_isEarliest (h : ¬ e.limits.Outlasts now) :
    e.ticksAt now context = .ok none ↔
      ∃ d, context.IsEarliest e.limits now (some d) ∧ d ≤ now := by
  simp only [ticksAt_eq_none_iff, Context.effectiveDeadline_eq_ok_iff h]

theorem Enters.not_outlasts (h : e.Enters now package extension context m function ticks) :
    ¬ e.limits.Outlasts now := by
  intro houtlasts
  have hticks := h.ticks
  rw [ticksAt_eq_error_iff.mpr houtlasts] at hticks
  cases hticks

/-- What an extension stands for does not depend on the limits. -/
theorem resolve_setLimits (e : Engine) (limits : Limits) (package extension : String) :
    (e.setLimits limits).resolve package extension = e.resolve package extension := rfl

/-- **Tighter bounds lead to less time.**  What enters the guest under tighter bounds enters it
under others, with as many ticks at least. -/
theorem enters_of_tightens {context' : Context} {limits' : Limits}
    (htightens : Tightens context' limits' context e.limits) (hclock : ¬ e.limits.Outlasts now)
    (h : (e.setLimits limits').Enters now package extension context' m function ticks) :
    ∃ more, ticks ≤ more ∧ e.Enters now package extension context m function more := by
  have hresolve := e.resolve_setLimits limits' package extension ▸ h.resolve
  obtain ⟨answer, hanswer⟩ := context.exists_isEarliest hclock
  rcases answer with _ | d
  · refine ⟨unboundedTicks, ?_, hresolve, (ticksAt_eq_some_iff hclock).mpr (Or.inl ⟨hanswer, rfl⟩)⟩
    rcases (ticksAt_eq_some_iff h.not_outlasts).mp h.ticks with ⟨-, rfl⟩ | ⟨d', -, -, rfl⟩
    · exact Nat.le_refl _
    · exact ticksUntil_le_unboundedTicks ..
  · obtain ⟨answer', hanswer'⟩ := context'.exists_isEarliest h.not_outlasts
    obtain ⟨d', rfl, hle⟩ := htightens.exists_isEarliest_le hanswer' hanswer
    rcases (ticksAt_eq_some_iff h.not_outlasts).mp h.ticks with ⟨hnone, -⟩ | ⟨_, hd', hlater, rfl⟩
    · cases hnone.unique hanswer'
    · cases hd'.unique hanswer'
      exact ⟨_, ticksUntil_le_ticksUntil hle now, hresolve,
        (ticksAt_eq_some_iff hclock).mpr (Or.inr ⟨d, hanswer, Nat.lt_of_lt_of_le hlater hle, rfl⟩)⟩

/-- An invocation of a declared extension is turned away when it gets no ticks. -/
theorem turnsAway_iff_ticksAt (hresolve : e.resolve package extension = .ok (m, function)) :
    e.TurnsAway now package extension context .deadlineExceeded ↔
      e.ticksAt now context = .ok none := by
  rw [turnsAway_iff, hresolve]
  simp

/-- Ticks until a deadline on the clock are worked out in words without losing anything. -/
theorem exists_ticksWord {tickMillis : UInt64} {d : Instant} (htick : 1 ≤ tickMillis.toNat)
    (hd : d.nanos < Instant.clockEnd) (now : Instant) :
    ∃ left, Interval.ofNanos? (d.nanos - now.nanos) = some left ∧
      (ticksWord (Interval.ofMillis tickMillis).nanosWord left.nanosWord).toNat
        = ticksUntil tickMillis d now := by
  obtain ⟨left, hleft⟩ := Instant.exists_since hd
  have hlength : left.totalNanos = d.since now := Interval.ofNanos?_eq_some_iff.mp hleft
  have hword : (Interval.ofMillis tickMillis).nanosWord.toNat = tickNanos tickMillis := by
    rw [Interval.toNat_nanosWord, Interval.totalNanos_ofMillis, tickNanos_eq htick]
  refine ⟨left, hleft, ?_⟩
  rw [toNat_ticksWord (hword ▸ tickNanos_pos tickMillis), hword, Interval.toNat_nanosWord, hlength]
  rfl

/-- **Budgets cover the time left.**  Take any invocation of a declared extension, with any deadline
of the caller or none, at a moment from which the engine's interval ends before the clock does, and
ticks of at least a millisecond.  It is turned away past its deadline if and only if the earliest
bound is not after this moment.  Otherwise it enters the guest: with `2 ^ 63 - 1` ticks if there is
no bound, and else with the least positive number of ticks that covers the nanoseconds until the
earliest bound, but no more than `2 ^ 63 - 1`.  With whatever number of ticks it enters the guest,
the function is run for just as many.  For a deadline on the clock, the time left is an interval,
and in words of 128 bits, narrowed to 64 in the end, the number comes out the same.

Tighter bounds, which is an earlier deadline of the caller, a shorter interval, or one where there
was none, never let in what was turned away, and never give more ticks. -/
theorem budgets_cover_the_time_left (context : Context)
    (hresolve : e.resolve package extension = .ok (m, function))
    (htick : 1 ≤ e.config.epochTickMillis.toNat)
    (hclock : now.nanos + e.limits.executionInterval.totalNanos < Instant.clockEnd) :
    let tick := e.config.epochTickMillis.toNat * 1000000
    let Refused := e.TurnsAway now package extension context .deadlineExceeded
    let Granted := e.Enters now package extension context m function
    (∃ answer, context.IsEarliest e.limits now answer) ∧
      (Refused ↔ ∃ d, context.IsEarliest e.limits now (some d) ∧ d ≤ now) ∧
      (Refused → ∀ client : Client,
        (e.invoke now package extension context client.adapter client.state).outcome
          = .returned (.error .deadlineExceeded)) ∧
      (context.IsEarliest e.limits now none → Granted (2 ^ 63 - 1)) ∧
      (∀ d, context.IsEarliest e.limits now (some d) → ¬ d ≤ now →
        ∃ n, IsLeast {n | 1 ≤ n ∧ d.nanos - now.nanos ≤ n * tick} n ∧
          Granted (min n (2 ^ 63 - 1)) ∧
          (d.nanos < Instant.clockEnd →
            ∃ left, Interval.ofNanos? (d.nanos - now.nanos) = some left ∧
              (ticksWord (Interval.ofMillis e.config.epochTickMillis).nanosWord
                left.nanosWord).toNat = min n (2 ^ 63 - 1))) ∧
      (∀ ticks, Granted ticks → e.Runs now package extension context m function ticks) ∧
      ∀ context' limits', Tightens context' limits' context e.limits →
        ∀ ticks, (e.setLimits limits').Enters now package extension context' m function ticks →
          ∃ more, ticks ≤ more ∧ Granted more := by
  intro tick Refused Granted
  have hends : ¬ e.limits.Outlasts now := fun houtlasts => Nat.not_le.mpr hclock houtlasts.2
  refine ⟨context.exists_isEarliest hends, ?_, fun hrefused client => ?_, fun hnone => ?_,
    fun d hd hlater => ?_, fun ticks hgranted => hgranted.runs,
    fun context' limits' htightens ticks h => enters_of_tightens htightens hends h⟩
  · exact (turnsAway_iff_ticksAt hresolve).trans (ticksAt_eq_none_iff_isEarliest hends)
  · rw [hrefused.invoke_eq]
  · exact ⟨hresolve, (ticksAt_eq_some_iff hends).mpr (Or.inl ⟨hnone, rfl⟩)⟩
  · rw [Instant.le_iff, Nat.not_le] at hlater
    have hleast := isLeast_ticks (tickNanos_pos e.config.epochTickMillis) (d.since now)
    have hticks := ticksUntil_eq hleast
    rw [tickNanos_eq htick] at hleast hticks
    refine ⟨_, hleast, ⟨hresolve, (ticksAt_eq_some_iff hends).mpr (Or.inr ⟨d, hd, hlater, ?_⟩)⟩,
      fun hshown => ?_⟩
    · exact hticks.symm
    · obtain ⟨left, hleft, hword⟩ := exists_ticksWord htick hshown now
      exact ⟨left, hleft, hword.trans hticks⟩

end Engine

namespace Sample

/-- Limits of a minute. -/
def minute : Limits := ⟨.ofMillis 60000⟩

/-- Limits of `2 ^ 63` seconds. -/
def eternity : Limits := ⟨(Interval.ofParts? 9223372036854775808 0).getD .zero⟩

theorem isReachable_setLimits (limits : Limits) : (engine.setLimits limits).IsReachable :=
  ⟨engine, [.setLimits limits], isFresh_engine, rfl⟩

theorem resolve_setLimits (limits : Limits) {extension : String}
    (hentry : module.entry extension = .ok extension) :
    (engine.setLimits limits).resolve "sample" extension = .ok (module, extension) := by
  rw [Engine.resolve_setLimits]
  exact (enters module?_engine (by decide +kernel) hentry).resolve

end Sample

namespace Engine

/-- With two ticks and a nanosecond left until the caller's deadline, there are three ticks to use,
and an endless loop uses them up. -/
theorem budgets_cover_the_time_left_sample :
    let e := Sample.engine.setLimits Sample.minute
    let context : Context := ⟨some ⟨20000006⟩⟩
    e.Enters ⟨5⟩ "sample" "linger" context Sample.module "linger" 3 ∧
      (e.invoke ⟨5⟩ "sample" "linger" context Sample.client.adapter Sample.client.state).outcome
        = .returned (.error .deadlineExceeded) := by
  intro e context
  have hticks : e.config.epochTickMillis.toNat = 10 := by decide +kernel
  have hclock : Instant.nanos ⟨5⟩ + Sample.minute.executionInterval.totalNanos
      < Instant.clockEnd := by decide +kernel
  have hearliest : context.IsEarliest Sample.minute ⟨5⟩ (some ⟨20000006⟩) :=
    (Context.effectiveDeadline_eq_ok_iff fun houtlasts => Nat.not_le.mpr hclock houtlasts.2).mp
      (by decide +kernel)
  have hresolve : e.resolve "sample" "linger" = .ok (Sample.module, "linger") :=
    Sample.resolve_setLimits Sample.minute (by decide +kernel)
  obtain ⟨-, -, -, -, hgranted, hruns, -⟩ := budgets_cover_the_time_left context hresolve
    (by rw [hticks]; decide) hclock
  obtain ⟨n, hn, henters, -⟩ := hgranted _ hearliest (by decide)
  have hthree : n = 3 := by
    rw [hticks] at hn
    have hcovers : 20000006 - 5 ≤ n * (10 * 1000000) := hn.1.2
    have hleast : n ≤ 3 := hn.2 ⟨by decide, by decide⟩
    omega
  subst hthree
  have hrun : (Sample.module.run Sample.client.adapter Sample.client.state "linger" 3).1
      = .error .deadlineExceeded := by decide +kernel
  exact ⟨henters, hrun ▸ (hruns 3 henters).outcome_eq Sample.client⟩

/-! ### Intervals that are too long -/

variable {e : Engine} {now : Instant} {package extension : String} {context : Context}
  {m : GuestModule} {function : String}

/-- An invocation of a declared extension crashes if the engine's interval reaches past the end of
the clock. -/
theorem invoke_of_outlasts {σ : Type} (hresolve : e.resolve package extension = .ok (m, function))
    (houtlasts : e.limits.Outlasts now) (adapter : Adapter σ) (state : σ) :
    e.invoke now package extension context adapter state
      = ⟨.crashed ⟨⟩, e.count .countInvocation, state⟩ := by
  simp only [invoke, resolve_count, ticksAt_count, hresolve, ticksAt_eq_error_iff.mpr houtlasts]

/-- An invocation of a declared extension goes by limits: it runs for the ticks until its earliest
bound under them, is turned away if this has passed, and crashes if their interval reaches past the
end of the clock. -/
structure Heeds (e : Engine) (limits : Limits) (now : Instant) (package extension : String)
    (context : Context) (m : GuestModule) (function : String) : Prop where
  /-- There is no bound. -/
  unbounded : ¬ limits.Outlasts now → context.IsEarliest limits now none →
    e.Runs now package extension context m function unboundedTicks
  /-- The earliest bound is to come. -/
  bounded : ∀ d, ¬ limits.Outlasts now → context.IsEarliest limits now (some d) → ¬ d ≤ now →
    e.Runs now package extension context m function (ticksUntil e.config.epochTickMillis d now)
  /-- The earliest bound has passed. -/
  passed : ∀ d, ¬ limits.Outlasts now → context.IsEarliest limits now (some d) → d ≤ now →
    ∀ client : Client,
      (e.invoke now package extension context client.adapter client.state).outcome
        = .returned (.error .deadlineExceeded)
  /-- The interval has no end. -/
  crashed : limits.Outlasts now → ∀ client : Client,
    (e.invoke now package extension context client.adapter client.state).outcome = .crashed ⟨⟩

/-- Invocations go by the limits of the engine. -/
theorem heeds_limits (hresolve : e.resolve package extension = .ok (m, function)) :
    e.Heeds e.limits now package extension context m function where
  unbounded hends hnone :=
    Enters.runs ⟨hresolve, (ticksAt_eq_some_iff hends).mpr (Or.inl ⟨hnone, rfl⟩)⟩
  bounded d hends hd hlater := by
    rw [Instant.le_iff, Nat.not_le] at hlater
    exact Enters.runs ⟨hresolve, (ticksAt_eq_some_iff hends).mpr (Or.inr ⟨d, hd, hlater, rfl⟩)⟩
  passed d hends hd hpassed client := by
    have hturned : e.TurnsAway now package extension context .deadlineExceeded :=
      (turnsAway_iff_ticksAt hresolve).mpr
        ((ticksAt_eq_none_iff_isEarliest hends).mpr ⟨d, hd, hpassed⟩)
    rw [hturned.invoke_eq]
  crashed houtlasts client := by
    rw [invoke_of_outlasts hresolve houtlasts]

/-- Every other invocation returns. -/
theorem exists_returned {σ : Type}
    (h : ¬ (e.limits.Outlasts now ∧ ∃ found, e.resolve package extension = .ok found))
    (adapter : Adapter σ) (state : σ) :
    ∃ result, (e.invoke now package extension context adapter state).outcome
      = .returned result := by
  rcases hresolve : e.resolve package extension with error | found
  · exact ⟨.error error, outcome_of_resolve_error now context adapter state hresolve⟩
  · have hends : ¬ e.limits.Outlasts now := fun houtlasts => h ⟨houtlasts, found, hresolve⟩
    obtain ⟨answer, hanswer⟩ := context.exists_isEarliest hends
    have hdeadline := (Context.effectiveDeadline_eq_ok_iff hends).mpr hanswer
    rcases enters_or_turnsAway hdeadline package extension with
      ⟨m, function, ticks, henters⟩ | ⟨error, hturned⟩
    · obtain ⟨f, hinvoke⟩ := invoke_of_enters henters adapter state
      rw [hinvoke]
      exact ⟨_, rfl⟩
    · rw [hturned.invoke_eq]
      exact ⟨_, rfl⟩

/-- What an invocation of a reachable engine counts. -/
theorem IsReachable.counted_invoke (he : e.IsReachable) (now : Instant)
    (package extension : String) (context : Context) (client : Client) :
    let v : Event := ⟨e, .invoke now package extension context client⟩
    Counted e.metrics v.after.metrics 1 v.isFailed.toNat
      (if e.config.autoRecover then v.failsInGuest.toNat else 0) := by
  obtain ⟨fresh, ops, hfresh, rfl⟩ := he
  have hcontinues := (Continues.refl hfresh).performAll hfresh ops
  rw [hcontinues.config]
  exact hcontinues.counted_invoke hfresh now package extension context client

/-- **Invocations answer within the clock.**  Take any reachable engine, with whatever limits were
put on it, any invocation of it, and any moment.  If the engine's interval is of no length, or ends
before the clock does, the deadline in force is the earliest bound that there is, or none.  If it
reaches past the end of the clock, the earliest bound is the caller's own deadline, if there is one;
but what is in force cannot be told.

An invocation crashes in this second case, if it names an extension that there is: it was counted,
an error is not, and nothing else has changed.  Every other invocation returns, and counts itself,
its error, and the roll-back that a failure in the guest brings about. -/
theorem invocations_answer_within_the_clock (he : e.IsReachable) (now : Instant)
    (package extension : String) (context : Context) (client : Client) :
    let v : Event := ⟨e, .invoke now package extension context client⟩
    let invocation := e.invoke now package extension context client.adapter client.state
    let Crashes := e.limits.Outlasts now ∧ ∃ found, e.resolve package extension = .ok found
    (¬ e.limits.Outlasts now → ∃ answer,
        context.effectiveDeadline e.limits now = .ok answer ∧
          context.IsEarliest e.limits now answer) ∧
      (e.limits.Outlasts now → context.effectiveDeadline e.limits now = .error ⟨⟩ ∧
        context.IsEarliest e.limits now context.deadline) ∧
      (¬ Crashes → ∃ result, invocation.outcome = .returned result ∧
        Counted e.metrics invocation.engine.metrics 1 v.isFailed.toNat
          (if e.config.autoRecover then v.failsInGuest.toNat else 0)) ∧
      (Crashes → invocation = ⟨.crashed ⟨⟩, e.count .countInvocation, client.state⟩) := by
  intro v invocation Crashes
  refine ⟨fun hends => ?_, fun houtlasts => ?_, fun hreturns => ?_, ?_⟩
  · obtain ⟨answer, hanswer⟩ := context.exists_isEarliest hends
    exact ⟨answer, (Context.effectiveDeadline_eq_ok_iff hends).mpr hanswer, hanswer⟩
  · exact ⟨Context.effectiveDeadline_eq_error_iff.mpr houtlasts,
      Context.isEarliest_own (Or.inr houtlasts)⟩
  · obtain ⟨result, hresult⟩ := exists_returned hreturns client.adapter client.state
    exact ⟨result, hresult, he.counted_invoke now package extension context client⟩
  · rintro ⟨houtlasts, ⟨m, function⟩, hresolve⟩
    exact invoke_of_outlasts hresolve houtlasts client.adapter client.state

/-- With a minute to run, an invocation returns, and is counted once. -/
theorem invocations_answer_within_the_clock_sample :
    let e := Sample.engine.setLimits Sample.minute
    let invocation := e.invoke ⟨5⟩ "sample" "greet" .unbounded Sample.client.adapter
      Sample.client.state
    ∃ result, invocation.outcome = .returned result ∧
      invocation.engine.metrics.invocations = e.metrics.invocations + 1 := by
  intro e invocation
  have hends : ¬ Sample.minute.Outlasts ⟨5⟩ := fun houtlasts =>
    absurd houtlasts.2 (by decide +kernel)
  obtain ⟨-, -, hreturns, -⟩ := invocations_answer_within_the_clock
    (Sample.isReachable_setLimits Sample.minute) ⟨5⟩ "sample" "greet" .unbounded Sample.client
  obtain ⟨result, hresult, hcounted⟩ := hreturns fun hcrashes => hends hcrashes.1
  refine ⟨result, hresult, ?_⟩
  rw [hcounted.1, show UInt64.ofNat 1 = 1 from rfl]

/-- **Long limits crash invocations.**  A second from now is a deadline, and `2 ^ 63` seconds from
now is past the end of the clock.  An engine can be given an interval of that length, which can be
read from JSON; and an invocation that is to be over in a second has no answer then, although the
caller's deadline is the earliest bound on it. -/
theorem long_limits_crash_invocations :
    let e := Sample.engine.setLimits Sample.eternity
    let context : Context := ⟨some ⟨1000000000⟩⟩
    let invocation := e.invoke ⟨0⟩ "sample" "greet" context Sample.client.adapter
      Sample.client.state
    ofJson? (.object [("execution_interval",
        .object [("secs", .integer 9223372036854775808), ("nanos", .integer 0)])])
      = some Sample.eternity ∧
    e.IsReachable ∧
    context.IsEarliest e.limits ⟨0⟩ context.deadline ∧
    context.effectiveDeadline e.limits ⟨0⟩ = .error ⟨⟩ ∧
    invocation.outcome = .crashed ⟨⟩ ∧
    invocation.engine.metrics.invocations = 1 ∧
    invocation.engine.metrics.errors = 0 := by
  intro e context invocation
  have houtlasts : e.limits.Outlasts ⟨0⟩ := by
    constructor <;> decide +kernel
  have hinvocation : invocation = _ := invoke_of_outlasts
    (Sample.resolve_setLimits Sample.eternity (by decide +kernel)) houtlasts
    Sample.client.adapter Sample.client.state
  refine ⟨by decide +kernel, Sample.isReachable_setLimits _,
    Context.isEarliest_own (Or.inr houtlasts), Context.effectiveDeadline_eq_error_iff.mpr houtlasts,
    ?_, ?_, ?_⟩
  · rw [hinvocation]
  · rw [hinvocation]
    decide +kernel
  · rw [hinvocation]
    decide +kernel

end Engine

end ExtensionHost
