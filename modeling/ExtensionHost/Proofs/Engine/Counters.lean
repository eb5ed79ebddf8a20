import ExtensionHost.Proofs.Engine.Operation

/-!
# What the counters say

An engine counts in three places: an invocation when it starts, an error when an invocation returns
one, and a roll-back when it has succeeded.  What it is asked in the course of a run is written down
in a log, one `Event` for each operation, and the counters are read off that log.

**Why the log suffices.**  A roll-back counts only if it succeeds, so the counter could fall short
of the failures that ask for one.  It does not: the modules of an engine continue loaded ones, and
rolling such a module back never fails.

Questions to an engine, such as `Engine.packages` or `Engine.hasExtension`, are functions of it and
make no other engine of it.  A run with questions in between is the run without them.

## Main definitions

* `Engine.Event`, an operation and the engine that it is asked of, and `Engine.log`
* `Engine.Event.isFailed`, `Engine.Event.failsInGuest` and `Engine.Event.isRecovery`
* `Engine.Counted`, counters that have moved on

## Main results

* `Engine.Continues.counted_perform`, what one operation counts
* `Engine.counted_performAll`, what a run counts
* `Engine.counters_tell_the_truth`
-/

namespace ExtensionHost

open Guest

namespace Engine

/-- An operation and the engine that it is asked of. -/
structure Event where
  /-- The engine before the operation. -/
  engine : Engine
  /-- The operation. -/
  op : Operation

namespace Event

/-- What the engine answers. -/
def answer (v : Event) : Answer := (v.engine.perform v.op).1

/-- The engine after the operation. -/
def after (v : Event) : Engine := (v.engine.perform v.op).2

/-- Whether the operation is an invocation. -/
def isInvocation (v : Event) : Bool :=
  match v.op with
  | .invoke .. => true
  | _ => false

/-- Whether the operation is an invocation that gets as far as the guest. -/
def entersGuest (v : Event) : Bool :=
  match v.op with
  | .invoke now package extension context _ =>
    match v.engine.resolve package extension, v.engine.ticksAt now context with
    | .ok _, .ok (some _) => true
    | _, _ => false
  | _ => false

/-- Whether the operation is an invocation that returns an error. -/
def isFailed (v : Event) : Bool :=
  match v.answer with
  | .invoked _ (.returned (.error _)) _ => true
  | _ => false

/-- Whether the operation rolls a module back on request, and says that it has done so. -/
def isRecovery (v : Event) : Bool :=
  match v.op, v.answer with
  | .recover _, .done (.ok ()) => true
  | _, _ => false

/-- Whether the operation is an invocation that fails in the guest. -/
def failsInGuest (v : Event) : Bool := v.entersGuest && v.isFailed

theorem isFailed_eq_false {v : Event} (h : v.isInvocation = false) : v.isFailed = false := by
  obtain ⟨e, op⟩ := v
  cases op with
  | invoke => cases h
  | _ => rfl

theorem failsInGuest_eq_false {v : Event} (h : v.isInvocation = false) :
    v.failsInGuest = false := by
  rw [failsInGuest, isFailed_eq_false h, Bool.and_false]

end Event

/-- The events of a run of operations. -/
def log : Engine → List Operation → List Event
  | _, [] => []
  | e, op :: ops => ⟨e, op⟩ :: log (e.perform op).2 ops

/-- An invocation gets as far as the guest if it enters it with some module, function and time. -/
theorem entersGuest_iff {e : Engine} {now : Instant} {package extension : String}
    {context : Context} {client : Client} :
    Event.entersGuest ⟨e, .invoke now package extension context client⟩ = true ↔
      ∃ m function ticks, e.Enters now package extension context m function ticks := by
  constructor
  · intro h
    cases hresolve : e.resolve package extension with
    | error error => simp only [Event.entersGuest, hresolve, Bool.false_eq_true] at h
    | ok found =>
      cases hticks : e.ticksAt now context with
      | error overflow => simp only [Event.entersGuest, hresolve, hticks, Bool.false_eq_true] at h
      | ok ticks =>
        cases ticks with
        | none => simp only [Event.entersGuest, hresolve, hticks, Bool.false_eq_true] at h
        | some ticks => exact ⟨found.1, found.2, ticks, hresolve, hticks⟩
  · rintro ⟨m, function, ticks, henters⟩
    simp only [Event.entersGuest, henters.resolve, henters.ticks]

/-! ### One operation -/

/-- Counters that have moved on, each by a number of its own. -/
def Counted (before after : Metrics) (invocations errors recovers : Nat) : Prop :=
  after.invocations = before.invocations + .ofNat invocations ∧
    after.errors = before.errors + .ofNat errors ∧
      after.recovers = before.recovers + .ofNat recovers

namespace Counted

theorem refl (m : Metrics) : Counted m m 0 0 0 := by
  refine ⟨?_, ?_, ?_⟩ <;> exact (UInt64.add_zero _).symm

theorem trans {before between after : Metrics} {i i' f f' r r' : Nat}
    (first : Counted before between i f r) (second : Counted between after i' f' r') :
    Counted before after (i + i') (f + f') (r + r') := by
  obtain ⟨hi, hf, hr⟩ := first
  obtain ⟨hi', hf', hr'⟩ := second
  refine ⟨?_, ?_, ?_⟩
  · rw [hi', hi, UInt64.ofNat_add, UInt64.add_assoc]
  · rw [hf', hf, UInt64.ofNat_add, UInt64.add_assoc]
  · rw [hr', hr, UInt64.ofNat_add, UInt64.add_assoc]

theorem invocation (m : Metrics) : Counted m m.countInvocation 1 0 0 :=
  ⟨rfl, (UInt64.add_zero _).symm, (UInt64.add_zero _).symm⟩

theorem error (m : Metrics) : Counted m m.countError 0 1 0 :=
  ⟨(UInt64.add_zero _).symm, rfl, (UInt64.add_zero _).symm⟩

theorem recover (m : Metrics) : Counted m m.countRecover 0 0 1 :=
  ⟨(UInt64.add_zero _).symm, (UInt64.add_zero _).symm, rfl⟩

/-- Counters that have not moved on are the same. -/
theorem eq {before after : Metrics} (h : Counted before after 0 0 0) : after = before := by
  obtain ⟨hi, hf, hr⟩ := h
  cases before
  cases after
  simp_all

end Counted

namespace Continues

variable {σ : Type} {e fresh : Engine}

/-- A run of a module that fails is followed by a roll-back if the settings ask for one, and that
roll-back is counted. -/
theorem counted_runModule (h : e.Continues fresh) (hfresh : fresh.IsFresh) {package : String}
    {m : GuestModule} (hm : e.module? package = some m) (function : String) (ticks : Nat)
    (adapter : Adapter σ) (state : σ) :
    let run := e.runModule package m function ticks adapter state
    Counted e.metrics run.2.1.metrics 0 0
      (match run.1 with
        | .ok () => 0
        | .error _ => if fresh.config.autoRecover then 1 else 0) := by
  intro run
  have hrun : run.1 = (m.run adapter state function ticks).1 := fst_runModule ..
  cases hr : (m.run adapter state function ticks).1 with
  | ok u =>
    have hkept : run.2.1 = _ := engine_runModule_of_kept (Or.inl hr)
    rw [hrun, hr, hkept]
    exact .refl _
  | error error =>
    rw [hrun, hr]
    by_cases hauto : e.config.autoRecover = true
    · obtain ⟨loaded, hloaded, hcontinues⟩ := h.modules package m hm
      have hbroken := hcontinues.run adapter state function ticks
      have hrestored : run.2.1 = _ := engine_runModule_of_restored hr hauto
      rw [hrestored, restoreModule_eq hfresh hloaded hbroken, ← h.config]
      simp only [hauto, if_true]
      exact .recover _
    · have hoff : e.config.autoRecover = false := Bool.not_eq_true _ ▸ hauto
      have hkept : run.2.1 = _ := engine_runModule_of_kept (Or.inr hoff)
      rw [hkept, ← h.config]
      simp only [hoff, Bool.false_eq_true, if_false]
      exact .refl _

/-- An invocation counts itself, its error if it returns one, and the roll-back that a failure in
the guest brings about. -/
theorem counted_invoke (h : e.Continues fresh) (hfresh : fresh.IsFresh) (now : Instant)
    (package extension : String) (context : Context) (client : Client) :
    let v : Event := ⟨e, .invoke now package extension context client⟩
    Counted e.metrics v.after.metrics 1 v.isFailed.toNat
      (if fresh.config.autoRecover then v.failsInGuest.toNat else 0) := by
  have hstart : Counted e.metrics (e.count .countInvocation).metrics 1 0 0 := .invocation _
  simp only [Event.after, Event.failsInGuest, Event.entersGuest, Event.isFailed, Event.answer,
    Engine.perform, Engine.invoke]
  simp only [resolve_count, ticksAt_count]
  cases hresolve : e.resolve package extension with
  | error error => simpa using hstart.trans (.error _)
  | ok found =>
    obtain ⟨m, function⟩ := found
    have hm : (e.count .countInvocation).module? package = some m := module?_of_resolve hresolve
    cases hticks : e.ticksAt now context with
    | error overflow => simpa using hstart
    | ok ticks =>
      cases ticks with
      | none => simpa using hstart.trans (.error _)
      | some ticks =>
        have hrun := (h.count .countInvocation).counted_runModule hfresh hm function ticks
          client.adapter client.state
        dsimp only
        cases hr : (e.count .countInvocation).runModule package m function ticks client.adapter
            client.state with
        | mk result rest =>
          simp only [hr] at hrun
          cases result with
          | ok u => simpa using hstart.trans hrun
          | error error => simpa using (hstart.trans hrun).trans (.error _)

/-- A roll-back on request counts if it succeeds. -/
theorem counted_recover (h : e.Continues fresh) (hfresh : fresh.IsFresh) (package : String) :
    let v : Event := ⟨e, .recover package⟩
    Counted e.metrics v.after.metrics 0 0 v.isRecovery.toNat := by
  simp only [Event.after, Event.isRecovery, Event.answer, Engine.perform, Engine.recover]
  cases hm : e.module? package with
  | none => exact .refl _
  | some m =>
    obtain ⟨loaded, hloaded, hcontinues⟩ := h.modules package m hm
    simp only [restoreModule_eq hfresh hloaded hcontinues]
    exact .recover _

theorem metrics_withModule {α : Type} (e : Engine) (package : String)
    (f : GuestModule → Except ExtensionError α × GuestModule) :
    (e.withModule package f).2.metrics = e.metrics := by
  rw [Engine.withModule]
  split <;> rfl

/-- **What one operation counts.**  An invocation counts itself, its error and its roll-back, a
roll-back on request counts itself, and nothing else counts anything. -/
theorem counted_perform {v : Event} (h : v.engine.Continues fresh) (hfresh : fresh.IsFresh) :
    Counted v.engine.metrics v.after.metrics v.isInvocation.toNat v.isFailed.toNat
      ((if fresh.config.autoRecover then v.failsInGuest.toNat else 0) + v.isRecovery.toNat) := by
  obtain ⟨e, op⟩ := v
  let v : Event := ⟨e, op⟩
  by_cases hinvocation : v.isInvocation = true
  · cases op with
    | invoke now package extension context client =>
      exact h.counted_invoke hfresh now package extension context client
    | _ => cases hinvocation
  · have hno : v.isInvocation = false := Bool.not_eq_true _ ▸ hinvocation
    rw [hno, Event.isFailed_eq_false hno, Event.failsInGuest_eq_false hno, Bool.toNat_false,
      ite_self, Nat.zero_add]
    cases op with
    | invoke => cases hno
    | recover package => exact h.counted_recover hfresh package
    | heapStats package =>
      rw [show v.after.metrics = e.metrics from metrics_withModule ..]
      exact .refl _
    | collect package =>
      rw [show v.after.metrics = e.metrics from metrics_withModule ..]
      exact .refl _
    | setLimits limits => exact .refl _
    | close => exact .refl _

end Continues

/-! ### Runs of operations -/

variable {e fresh : Engine}

/-- An engine has counted nothing when it is built. -/
theorem IsFresh.metrics_eq (h : fresh.IsFresh) : fresh.metrics = .zero := by
  obtain ⟨_, hbuild, he⟩ := h
  obtain ⟨-, _, _, -, -, rfl, -⟩ := Factory.newEngines_eq_ok hbuild
  obtain ⟨slot, _, rfl⟩ := List.mem_map.mp he
  rfl

theorem continues_of_mem_log (h : e.Continues fresh) (hfresh : fresh.IsFresh)
    {ops : List Operation} {v : Event} (hv : v ∈ e.log ops) : v.engine.Continues fresh := by
  induction ops generalizing e with
  | nil => cases hv
  | cons op ops ih =>
    rcases List.mem_cons.mp hv with rfl | hv
    · exact h
    · exact ih (h.perform hfresh op) hv

theorem countP_cons_eq_toNat_add {α : Type _} (p : α → Bool) (a : α) (l : List α) :
    (a :: l).countP p = (p a).toNat + l.countP p := by
  rw [List.countP_cons, Nat.add_comm]
  cases p a <;> rfl

/-- What a run of operations counts, by induction on the run. -/
theorem counted_performAll (h : e.Continues fresh) (hfresh : fresh.IsFresh)
    (ops : List Operation) :
    Counted e.metrics (e.performAll ops).metrics
      ((e.log ops).countP Event.isInvocation) ((e.log ops).countP Event.isFailed)
      ((if fresh.config.autoRecover then (e.log ops).countP Event.failsInGuest else 0)
        + (e.log ops).countP Event.isRecovery) := by
  induction ops generalizing e with
  | nil =>
    simp only [log, List.countP_nil, ite_self]
    exact .refl _
  | cons op ops ih =>
    have hfirst := Continues.counted_perform (v := ⟨e, op⟩) h hfresh
    have hrest := ih (h.perform hfresh op)
    have hrecovers (a b c d : Nat) :
        (if fresh.config.autoRecover then a + c else 0) + (b + d)
          = (if fresh.config.autoRecover then a else 0) + b
            + ((if fresh.config.autoRecover then c else 0) + d) := by
      split <;> omega
    rw [log, countP_cons_eq_toNat_add, countP_cons_eq_toNat_add, countP_cons_eq_toNat_add,
      countP_cons_eq_toNat_add, hrecovers]
    exact hfirst.trans hrest

/-- **Counters tell the truth over whole runs.**  Take an engine as a factory builds it, and any
operations in any order.  Modulo `2 ^ 64` it has counted as invocations all invocations there were;
as errors those that returned an error, whatever the error was; and as roll-backs those that failed
in the guest, if its settings ask for a roll-back, together with the roll-backs on request that
succeeded.  Every other operation has left all counters alone. -/
theorem counters_tell_the_truth {fresh : Engine} (hfresh : fresh.IsFresh) (ops : List Operation) :
    let log := fresh.log ops
    let metrics := (fresh.performAll ops).metrics
    metrics.invocations = .ofNat (log.countP Event.isInvocation)
      ∧ metrics.errors = .ofNat (log.countP Event.isFailed)
      ∧ metrics.recovers
          = .ofNat ((if fresh.config.autoRecover then log.countP Event.failsInGuest else 0)
              + log.countP Event.isRecovery)
      ∧ ∀ v ∈ log, v.isInvocation = false → v.isRecovery = false →
          v.after.metrics = v.engine.metrics := by
  intro log metrics
  have hstart := Continues.refl hfresh
  have hzero : fresh.metrics = .zero := hfresh.metrics_eq
  obtain ⟨hinvocations, herrors, hrecovers⟩ := counted_performAll hstart hfresh ops
  rw [hzero] at hinvocations herrors hrecovers
  refine ⟨?_, ?_, ?_, fun v hv hinvocation hrecovery => ?_⟩
  · rw [show metrics.invocations = _ from hinvocations]
    exact UInt64.zero_add _
  · rw [show metrics.errors = _ from herrors]
    exact UInt64.zero_add _
  · rw [show metrics.recovers = _ from hrecovers]
    exact UInt64.zero_add _
  · have hcounted := (continues_of_mem_log hstart hfresh hv).counted_perform hfresh
    rw [hinvocation, Event.isFailed_eq_false hinvocation, Event.failsInGuest_eq_false hinvocation,
      hrecovery] at hcounted
    simp only [Bool.toNat_false, ite_self] at hcounted
    exact hcounted.eq

end Engine

/-- Five invocations: one returns, one fails in the guest, one comes too late, and two name what is
not there, the last of them because the engine was closed.  Of the two requests for a roll-back one
names no package. -/
def Sample.mixed : List Operation :=
  let invoke package extension deadline : Operation :=
    .invoke ⟨7⟩ package extension ⟨deadline⟩ Sample.client
  [invoke "sample" "greet" none, invoke "sample" "overreach" none,
    invoke "sample" "greet" (some ⟨7⟩), invoke "elsewhere" "greet" none,
    .recover "sample", .recover "elsewhere", .heapStats "sample", .collect "sample",
    .setLimits .unlimited, .close, invoke "sample" "greet" none]

namespace Engine

theorem counters_tell_the_truth_sample :
    Sample.engine.IsFresh ∧ Sample.engine.config.autoRecover = true ∧
      (Sample.engine.performAll Sample.mixed).metrics = ⟨5, 4, 2⟩ := by
  have hauto : Sample.engine.config.autoRecover = true := by decide +kernel
  have hcounts : ([Event.isInvocation, Event.isFailed, Event.failsInGuest, Event.isRecovery].map
      fun p => (Sample.engine.log Sample.mixed).countP p) = [5, 4, 1, 1] := by decide +kernel
  simp only [List.map_cons, List.map_nil, List.cons.injEq, and_true] at hcounts
  obtain ⟨hinvocation, hfailed, hguest, hrecovery⟩ := hcounts
  obtain ⟨hinvocations, herrors, hrecovers, -⟩ :=
    counters_tell_the_truth Sample.isFresh_engine Sample.mixed
  rw [hinvocation] at hinvocations
  rw [hfailed] at herrors
  rw [hguest, hrecovery, hauto] at hrecovers
  refine ⟨Sample.isFresh_engine, hauto, ?_⟩
  cases hmetrics : (Sample.engine.performAll Sample.mixed).metrics with
  | mk invocations errors recovers =>
    rw [hmetrics] at hinvocations herrors hrecovers
    rw [show invocations = _ from hinvocations, show errors = _ from herrors,
      show recovers = _ from hrecovers]
    rfl

end Engine

end ExtensionHost
