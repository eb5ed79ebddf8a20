import ExtensionHost.Proofs.Engine.Agreement
import ExtensionHost.Proofs.Engine.Counters
import ExtensionHost.Proofs.Engine.Isolation

/-!
# Tenants of one engine

Two tenants share an engine.  Each works with a package of its own and brings adapters on a world of
its own; they give the engine tasks in turns, in any order.  What a tenant sees of a turn is its
`Report`: the answer, and for an invocation also everything that happened in the guest, which has
all calls of the adapter in it.

**The comparison.**  The turns of both are compared with two runs of the same engine, in each of
which one tenant works alone.  A turn of the one tenant keeps its own engine in agreement with the
shared one (`Engine.Agrees`), and leaves the agreement of the other one's alone
(`Engine.ChangesOnly`).  Engines that agree also count alike, but from different starts, so that the
counters are compared by what they moved by.

No deadline is in force: the length of a turn of the other tenant would be felt otherwise.  The
instants of the turns then do not matter, and may differ between the runs.

## Main definitions

* `Tenant`, `Task` and `Report`
* `Tenant.serve`, one turn, `Tenant.work`, a tenant alone, and `Tenant.takeTurns`, two tenants
* `CountAlike`, counters that have moved by the same
* `Tenant.Separates`, a run of two tenants comes to the same as two runs of one

## Main results

* `Tenant.serve_of_agrees`, a turn on engines that agree
* `Tenant.separates_takeTurns`
* `Tenant.tenants_do_not_interfere`
-/

namespace ExtensionHost

open Guest

/-- What a tenant asks of an engine, about its own package. -/
inductive Task (ι : Type) where
  /-- Run an extension without a deadline, served by an adapter. -/
  | invoke (adapter : ι) (extension : String)
  /-- Read the counters of the guest's heap. -/
  | heapStats
  /-- Have the guest collect garbage. -/
  | collect
  /-- Roll the module back. -/
  | recover

/-- Who works with a package, served by adapters on a world that nobody else has. -/
structure Tenant (ι W : Type) where
  /-- The package. -/
  package : String
  /-- The adapters. -/
  adapters : ι → Adapter W

/-- What a tenant sees of a task. -/
inductive Report (W : Type) where
  /-- The outcome of an invocation, what happened in the guest, and the world after it. -/
  | invoked (outcome : InvokeOutcome) (course : List (Note W)) (world : W)
  /-- The counters of the heap. -/
  | counted (result : Except ExtensionError HeapStats)
  /-- That it is done. -/
  | done (result : Except ExtensionError Unit)

/-! ### Counters -/

/-- What counters have moved by since an earlier moment. -/
def Metrics.since (after before : Metrics) : Metrics :=
  ⟨after.invocations - before.invocations, after.errors - before.errors,
    after.recovers - before.recovers⟩

/-- Counters added up. -/
def Metrics.plus (m m' : Metrics) : Metrics :=
  ⟨m.invocations + m'.invocations, m.errors + m'.errors, m.recovers + m'.recovers⟩

namespace Engine

theorem Counted.since_eq {before after : Metrics} {i f r : Nat} (h : Counted before after i f r) :
    after.since before = ⟨.ofNat i, .ofNat f, .ofNat r⟩ := by
  obtain ⟨hi, hf, hr⟩ := h
  have hsub (a b : UInt64) : a + b - a = b := by rw [UInt64.add_comm, UInt64.add_sub_cancel]
  rw [Metrics.since, hi, hf, hr, hsub, hsub, hsub]

/-- Two pairs of counters have moved by the same. -/
def CountAlike (before after before' after' : Metrics) : Prop :=
  ∃ i f r, Counted before after i f r ∧ Counted before' after' i f r

namespace CountAlike

theorem refl (m m' : Metrics) : CountAlike m m m' m' := ⟨0, 0, 0, .refl m, .refl m'⟩

theorem trans {a b c a' b' c' : Metrics} (first : CountAlike a b a' b')
    (second : CountAlike b c b' c') : CountAlike a c a' c' := by
  obtain ⟨i, f, r, h, h'⟩ := first
  obtain ⟨j, g, q, k, k'⟩ := second
  exact ⟨i + j, f + g, r + q, h.trans k, h'.trans k'⟩

theorem invocation (m m' : Metrics) : CountAlike m m.countInvocation m' m'.countInvocation :=
  ⟨1, 0, 0, .invocation m, .invocation m'⟩

theorem error (m m' : Metrics) : CountAlike m m.countError m' m'.countError :=
  ⟨0, 1, 0, .error m, .error m'⟩

theorem recover (m m' : Metrics) : CountAlike m m.countRecover m' m'.countRecover :=
  ⟨0, 0, 1, .recover m, .recover m'⟩

end CountAlike

/-! ### Engines that agree -/

theorem countAlike_restoreModule (e e' : Engine) (package : String) (m : GuestModule) :
    CountAlike e.metrics (e.restoreModule package m).2.metrics
      e'.metrics (e'.restoreModule package m).2.metrics := by
  rw [Engine.restoreModule, Engine.restoreModule]
  cases m.restore with
  | ok m => exact .recover ..
  | error error => exact .refl ..

namespace Agrees

variable {σ : Type} {package : String} {e e' : Engine}

theorem countAlike_runModule (h : Agrees package e e') (m : GuestModule) (function : String)
    (ticks : Nat) (adapter : Adapter σ) (state : σ) :
    CountAlike e.metrics (e.runModule package m function ticks adapter state).2.1.metrics
      e'.metrics (e'.runModule package m function ticks adapter state).2.1.metrics := by
  cases hr : (m.run adapter state function ticks).1 with
  | ok u =>
    rw [engine_runModule_of_kept (Or.inl hr), engine_runModule_of_kept (Or.inl hr)]
    exact .refl ..
  | error error =>
    by_cases hauto : e.config.autoRecover = true
    · rw [engine_runModule_of_restored hr hauto,
        engine_runModule_of_restored hr (h.config ▸ hauto)]
      exact countAlike_restoreModule (e.putModule package _) (e'.putModule package _) package _
    · have hkept : e.config.autoRecover = false := Bool.not_eq_true _ ▸ hauto
      rw [engine_runModule_of_kept (Or.inr hkept),
        engine_runModule_of_kept (Or.inr (h.config ▸ hkept))]
      exact .refl ..

theorem countAlike_invoke (h : Agrees package e e') (now : Instant) (extension : String)
    (context : Context) (adapter : Adapter σ) (state : σ) :
    CountAlike e.metrics (e.invoke now package extension context adapter state).engine.metrics
      e'.metrics (e'.invoke now package extension context adapter state).engine.metrics := by
  have hstart := CountAlike.invocation e.metrics e'.metrics
  simp only [Engine.invoke, resolve_count, ticksAt_count, h.resolve_eq, h.ticksAt_eq]
  cases e'.resolve package extension with
  | error error => exact hstart.trans (.error ..)
  | ok found =>
    obtain ⟨m, function⟩ := found
    dsimp only
    cases e'.ticksAt now context with
    | error overflow => exact hstart
    | ok ticks =>
      cases ticks with
      | none => exact hstart.trans (.error ..)
      | some ticks =>
        have hcount := h.count .countInvocation .countInvocation
        have hrun := hstart.trans
          (hcount.countAlike_runModule m function ticks adapter state)
        have hfst := (fst_runModule (e.count .countInvocation) package m function ticks adapter
          state).trans (fst_runModule (e'.count .countInvocation) package ..).symm
        rcases hr : (e.count .countInvocation).runModule package m function ticks adapter state
          with ⟨result, after, state₁⟩
        rcases hr' : (e'.count .countInvocation).runModule package m function ticks adapter state
          with ⟨result', after', state₂⟩
        rw [hr, hr'] at hrun hfst
        obtain rfl : result = result' := hfst
        simp only [hr, hr']
        cases result with
        | ok u => exact hrun
        | error error => exact hrun.trans (.error ..)

/-- What happens to another package keeps an agreement. -/
theorem of_changesOnly {other : String} {after : Engine} (h : Agrees package e e')
    (hchange : ChangesOnly other e after) (hne : other ≠ package) : Agrees package after e' :=
  ⟨hchange.config.trans h.config, hchange.limits.trans h.limits,
    (hchange.module? package hne.symm).trans h.module?⟩

end Agrees

/-! ### No deadline -/

variable {W : Type} {e : Engine}

/-- With neither a deadline nor an interval there is all the time there can be. -/
theorem ticksAt_unbounded (h : e.limits.isUnlimited = true) (now : Instant) :
    e.ticksAt now .unbounded = .ok (some unboundedTicks) := by
  rw [ticksAt, Context.effectiveDeadline, if_pos h]
  rfl

/-- What happens in the guest in the course of an invocation without a deadline. -/
def course (e : Engine) (package extension : String) (adapter : Adapter W) (w : W) :
    List (Note W) :=
  match e.resolve package extension with
  | .ok (m, function) => m.history adapter w function unboundedTicks
  | .error _ => []

/-- It does not matter when it takes place. -/
theorem invoke_unbounded_eq (h : e.limits.isUnlimited = true) (now now' : Instant)
    (package extension : String) (adapter : Adapter W) (w : W) :
    e.invoke now package extension .unbounded adapter w
      = e.invoke now' package extension .unbounded adapter w := by
  have h : (e.count .countInvocation).limits.isUnlimited = true := h
  simp only [invoke, ticksAt_unbounded h]

end Engine

namespace Tenant

open Engine

variable {ι κ W V : Type}

/-! ### Turns -/

/-- A turn of a tenant. -/
def serve (a : Tenant ι W) (now : Instant) (s : Scene W) : Task ι → Report W × Scene W
  | .invoke i extension =>
    let invocation := s.engine.invoke now a.package extension .unbounded (a.adapters i) s.world
    (.invoked invocation.outcome (s.engine.course a.package extension (a.adapters i) s.world)
      invocation.state, ⟨invocation.engine, invocation.state⟩)
  | .heapStats => let (result, e) := s.engine.heapStats a.package; (.counted result, ⟨e, s.world⟩)
  | .collect => let (result, e) := s.engine.collect a.package; (.done result, ⟨e, s.world⟩)
  | .recover => let (result, e) := s.engine.recover a.package; (.done result, ⟨e, s.world⟩)

/-- A tenant alone. -/
def work (a : Tenant ι W) : Scene W → List (Instant × Task ι) → List (Report W) × Scene W
  | s, [] => ([], s)
  | s, (now, task) :: tasks =>
    let (report, s) := a.serve now s task
    let (reports, s) := a.work s tasks
    (report :: reports, s)

/-- An engine, and the worlds of two tenants. -/
structure Stage (W V : Type) where
  /-- The engine. -/
  engine : Engine
  /-- The world of the first tenant. -/
  left : W
  /-- The world of the second tenant. -/
  right : V

/-- Two tenants in turns. -/
def takeTurns (a : Tenant ι W) (b : Tenant κ V) :
    Stage W V → List (Instant × (Task ι ⊕ Task κ)) → List (Report W ⊕ Report V) × Stage W V
  | s, [] => ([], s)
  | s, (now, .inl task) :: turns =>
    let (report, after) := a.serve now ⟨s.engine, s.left⟩ task
    let (reports, final) := takeTurns a b ⟨after.engine, after.world, s.right⟩ turns
    (.inl report :: reports, final)
  | s, (now, .inr task) :: turns =>
    let (report, after) := b.serve now ⟨s.engine, s.right⟩ task
    let (reports, final) := takeTurns a b ⟨after.engine, s.left, after.world⟩ turns
    (.inr report :: reports, final)

/-- A turn touches the tenant's own package only. -/
theorem changesOnly_serve (a : Tenant ι W) (now : Instant) (s : Scene W) (task : Task ι) :
    ChangesOnly a.package s.engine (a.serve now s task).2.engine := by
  cases task with
  | invoke i extension =>
    let client : Client := ⟨W, a.adapters i, s.world⟩
    exact changesOnly_perform s.engine
      (rfl : (Operation.invoke now a.package extension .unbounded client).package? = _)
  | heapStats =>
    exact changesOnly_perform s.engine (rfl : (Operation.heapStats a.package).package? = _)
  | collect =>
    exact changesOnly_perform s.engine (rfl : (Operation.collect a.package).package? = _)
  | recover =>
    exact changesOnly_perform s.engine (rfl : (Operation.recover a.package).package? = _)

/-- A turn on engines that agree: the tenant sees the same, the engines go on agreeing, and they
count alike. -/
theorem serve_of_agrees (a : Tenant ι W) {e e' : Engine} (h : Agrees a.package e e')
    (hlimits : e'.limits.isUnlimited = true) (w : W) (now now' : Instant) (task : Task ι) :
    (a.serve now ⟨e, w⟩ task).1 = (a.serve now' ⟨e', w⟩ task).1 ∧
      (a.serve now ⟨e, w⟩ task).2.world = (a.serve now' ⟨e', w⟩ task).2.world ∧
      Agrees a.package (a.serve now ⟨e, w⟩ task).2.engine
        (a.serve now' ⟨e', w⟩ task).2.engine ∧
      CountAlike e.metrics (a.serve now ⟨e, w⟩ task).2.engine.metrics
        e'.metrics (a.serve now' ⟨e', w⟩ task).2.engine.metrics := by
  cases task with
  | invoke i extension =>
    simp only [serve, invoke_unbounded_eq hlimits now' now, course, h.resolve_eq]
    obtain ⟨houtcome, hstate, hengine⟩ := h.invoke now extension .unbounded (a.adapters i) w
    rw [houtcome, hstate]
    exact ⟨rfl, rfl, hengine, h.countAlike_invoke ..⟩
  | heapStats =>
    obtain ⟨hresult, hengine⟩ := h.withModule GuestModule.heapStats
    refine ⟨congrArg Report.counted hresult, rfl, hengine, ?_⟩
    simp only [serve, heapStats, Continues.metrics_withModule]
    exact .refl ..
  | collect =>
    obtain ⟨hresult, hengine⟩ := h.withModule GuestModule.collect
    refine ⟨congrArg Report.done hresult, rfl, hengine, ?_⟩
    simp only [serve, collect, Continues.metrics_withModule]
    exact .refl ..
  | recover =>
    simp only [serve, recover, h.module?]
    cases e'.module? a.package with
    | none => exact ⟨rfl, trivial, h, .refl ..⟩
    | some m =>
      obtain ⟨hresult, hengine⟩ := h.restoreModule m
      exact ⟨congrArg Report.done hresult, trivial, hengine, countAlike_restoreModule ..⟩

/-! ### Runs -/

/-- A run of two tenants comes to the same as two runs of one: what either of them sees, the worlds,
the modules of both packages, and by how much the counters have moved since engines `e`, `e₁` and
`e₂` at the start. -/
structure Separates (a : Tenant ι W) (b : Tenant κ V) (e e₁ e₂ : Engine)
    (both : List (Report W ⊕ Report V) × Stage W V) (left : List (Report W) × Scene W)
    (right : List (Report V) × Scene V) : Prop where
  /-- The first tenant sees the same. -/
  left_reports : both.1.filterMap Sum.getLeft? = left.1
  /-- The second tenant sees the same. -/
  right_reports : both.1.filterMap Sum.getRight? = right.1
  /-- The world of the first tenant is the same. -/
  left_world : both.2.left = left.2.world
  /-- The world of the second tenant is the same. -/
  right_world : both.2.right = right.2.world
  /-- The engines agree in the package of the first tenant. -/
  left_agrees : Agrees a.package both.2.engine left.2.engine
  /-- The engines agree in the package of the second tenant. -/
  right_agrees : Agrees b.package both.2.engine right.2.engine
  /-- What the tenants count adds up. -/
  counted : ∃ i f r i' f' r', Counted e₁.metrics left.2.engine.metrics i f r ∧
    Counted e₂.metrics right.2.engine.metrics i' f' r' ∧
      Counted e.metrics both.2.engine.metrics (i + i') (f + f') (r + r')

/-- The turns of two tenants separate, by induction on the turns.  The engines of the three runs
agree where they have to, and are otherwise different ones. -/
theorem separates_takeTurns {a : Tenant ι W} {b : Tenant κ V} (hne : a.package ≠ b.package)
    {e e₁ e₂ : Engine} (h₁ : Agrees a.package e e₁) (h₂ : Agrees b.package e e₂)
    (hlimits : e.limits.isUnlimited = true) (w : W) (v : V)
    {turns : List (Instant × (Task ι ⊕ Task κ))} {s : List (Instant × Task ι)}
    {t : List (Instant × Task κ)}
    (hs : s.map Prod.snd = turns.filterMap (·.2.getLeft?))
    (ht : t.map Prod.snd = turns.filterMap (·.2.getRight?)) :
    Separates a b e e₁ e₂ (a.takeTurns b ⟨e, w, v⟩ turns) (a.work ⟨e₁, w⟩ s)
      (b.work ⟨e₂, v⟩ t) := by
  induction turns generalizing e e₁ e₂ w v s t with
  | nil =>
    obtain rfl := List.map_eq_nil_iff.mp hs
    obtain rfl := List.map_eq_nil_iff.mp ht
    exact ⟨rfl, rfl, rfl, rfl, h₁, h₂, 0, 0, 0, 0, 0, 0, .refl _, .refl _, .refl _⟩
  | cons turn turns ih =>
    obtain ⟨now, task | task⟩ := turn
    · obtain ⟨⟨now', task'⟩, s, rfl, htask, hs'⟩ := List.map_eq_cons_iff.mp hs
      obtain rfl : task' = task := htask
      have hlimits₁ : e₁.limits.isUnlimited = true := h₁.limits ▸ hlimits
      have hchange := a.changesOnly_serve now ⟨e, w⟩ task'
      obtain ⟨hreport, hworld, hagrees, i, f, r, hcount, hcount₁⟩ :=
        a.serve_of_agrees h₁ hlimits₁ w now now' task'
      have hrest := ih hagrees (h₂.of_changesOnly hchange hne) (hchange.limits ▸ hlimits)
        (a.serve now ⟨e, w⟩ task').2.world v hs' ht
      rw [hworld] at hrest
      simp only [takeTurns, work, hreport, hworld]
      obtain ⟨j, g, q, j', g', q', hleft, hright, hboth⟩ := hrest.counted
      refine ⟨congrArg _ hrest.left_reports, hrest.right_reports, hrest.left_world,
        hrest.right_world, hrest.left_agrees, hrest.right_agrees,
        i + j, f + g, r + q, j', g', q', hcount₁.trans hleft, hright, ?_⟩
      rw [Nat.add_assoc, Nat.add_assoc, Nat.add_assoc]
      exact hcount.trans hboth
    · obtain ⟨⟨now', task'⟩, t, rfl, htask, ht'⟩ := List.map_eq_cons_iff.mp ht
      obtain rfl : task' = task := htask
      have hlimits₂ : e₂.limits.isUnlimited = true := h₂.limits ▸ hlimits
      have hchange := b.changesOnly_serve now ⟨e, v⟩ task'
      obtain ⟨hreport, hworld, hagrees, i, f, r, hcount, hcount₂⟩ :=
        b.serve_of_agrees h₂ hlimits₂ v now now' task'
      have hrest := ih (h₁.of_changesOnly hchange hne.symm) hagrees (hchange.limits ▸ hlimits)
        w (b.serve now ⟨e, v⟩ task').2.world hs ht'
      rw [hworld] at hrest
      simp only [takeTurns, work, hreport, hworld]
      obtain ⟨j, g, q, j', g', q', hleft, hright, hboth⟩ := hrest.counted
      refine ⟨hrest.left_reports, congrArg _ hrest.right_reports, hrest.left_world,
        hrest.right_world, hrest.left_agrees, hrest.right_agrees,
        j, g, q, i + j', f + g', r + q', hleft, hcount₂.trans hright, ?_⟩
      rw [Nat.add_left_comm, Nat.add_left_comm g, Nat.add_left_comm q]
      exact hcount.trans hboth

/-- **Tenants of one engine do not interfere.**  Take any engine without a limit on invocations, two
tenants with different packages, and any turns of the two.  Let each of them give its own tasks to
the same engine, alone and at any instants.  Then every task comes to the same: its answer, all that
happens in the guest, with the calls of the adapter, and the world after it.  The modules of both
packages end up the same, with memory, globals, buffers and all; and the counters of the shared
engine have moved by what those of the two others have moved by together.

Tasks that fail are among these, with the roll-backs that follow them. -/
theorem tenants_do_not_interfere (a : Tenant ι W) (b : Tenant κ V) (hne : a.package ≠ b.package)
    (e : Engine) (hlimits : e.limits.isUnlimited = true) (w : W) (v : V)
    (turns : List (Instant × (Task ι ⊕ Task κ))) (s : List (Instant × Task ι))
    (t : List (Instant × Task κ)) (hs : s.map Prod.snd = turns.filterMap (·.2.getLeft?))
    (ht : t.map Prod.snd = turns.filterMap (·.2.getRight?)) :
    let both := a.takeTurns b ⟨e, w, v⟩ turns
    let left := a.work ⟨e, w⟩ s
    let right := b.work ⟨e, v⟩ t
    both.1.filterMap Sum.getLeft? = left.1 ∧ both.1.filterMap Sum.getRight? = right.1 ∧
      both.2.left = left.2.world ∧ both.2.right = right.2.world ∧
      both.2.engine.module? a.package = left.2.engine.module? a.package ∧
      both.2.engine.module? b.package = right.2.engine.module? b.package ∧
      both.2.engine.metrics.since e.metrics
        = (left.2.engine.metrics.since e.metrics).plus (right.2.engine.metrics.since e.metrics) := by
  intro both left right
  have h : Separates a b e e e both left right :=
    separates_takeTurns hne ⟨rfl, rfl, rfl⟩ ⟨rfl, rfl, rfl⟩ hlimits w v hs ht
  refine ⟨h.left_reports, h.right_reports, h.left_world, h.right_world, h.left_agrees.module?,
    h.right_agrees.module?, ?_⟩
  obtain ⟨i, f, r, i', f', r', hleft, hright, hboth⟩ := h.counted
  rw [hleft.since_eq, hright.since_eq, hboth.since_eq, Metrics.plus, UInt64.ofNat_add,
    UInt64.ofNat_add, UInt64.ofNat_add]

end Tenant

namespace Sample

/-- An engine with two packages. -/
def shared : Engine :=
  let package name : Package := ⟨name, .ofFilePath "/sample", extensions.map Prod.fst⟩
  match Factory.newEngines ⟨"sample", config, ⟨0, 0, 0⟩, 0⟩ ⟨[("/sample", .program program)], []⟩
    [package "first", package "second"] 1 with
  | (.returned (.ok (e :: _)), _) => e
  | _ => .new 0 "" config ∅

/-- The first tenant's guest reads items before and after the second one's asks for too much
memory, which has it rolled back. -/
def turns : List (Instant × (Task Bool ⊕ Task Bool)) := [
  (⟨0⟩, .inl (.invoke true "greet")), (⟨1⟩, .inr (.invoke false "overreach")),
  (⟨2⟩, .inl .heapStats), (⟨3⟩, .inl (.invoke false "greet")), (⟨4⟩, .inr .recover)]

/-- The tenant of a package, whose adapters note every item that they are asked for. -/
def tenant (package : String) : Tenant Bool (List Bool) := ⟨package, noting⟩

end Sample

namespace Tenant

theorem tenants_do_not_interfere_sample :
    let both := (Sample.tenant "first").takeTurns (Sample.tenant "second") ⟨Sample.shared, [], []⟩
      Sample.turns
    Sample.shared.packages = ["first", "second"] ∧ Sample.shared.limits.isUnlimited = true ∧
      both.2.left = [true, true, false, false] ∧ both.2.right = [] ∧
      both.2.engine.metrics.since Sample.shared.metrics = ⟨3, 1, 2⟩ := by
  have hlimits : Sample.shared.limits.isUnlimited = true := by decide +kernel
  obtain ⟨-, -, hw, hv, -, -, hmetrics⟩ := tenants_do_not_interfere (Sample.tenant "first")
    (Sample.tenant "second") (by decide) Sample.shared hlimits [] [] Sample.turns
    [(⟨7⟩, .invoke true "greet"), (⟨7⟩, .heapStats), (⟨7⟩, .invoke false "greet")]
    [(⟨8⟩, .invoke false "overreach"), (⟨9⟩, .recover)] rfl rfl
  refine ⟨by decide +kernel, hlimits, hw.trans (by decide +kernel), hv.trans (by decide +kernel),
    hmetrics.trans (by decide +kernel)⟩

end Tenant

end ExtensionHost
