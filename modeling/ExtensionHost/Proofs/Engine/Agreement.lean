import ExtensionHost.Proofs.Engine.Operation

/-!
# What answers depend on

What an engine answers about a package depends on its settings, its limits and the module of that
package, and on nothing else.  Two engines that agree in these give the same answers to every
sequence of operations, as far as the operations name the package, whatever happens to other
packages in between.

## Main definitions

* `Engine.ChangesOnly`, an operation does not touch other packages
* `Engine.Agrees` and `Engine.answersOn`

## Main results

* `Engine.changesOnly_perform`
* `Engine.Agrees.answersOn_eq`
-/

namespace ExtensionHost

namespace Engine

variable {σ : Type}

/-! ### Other packages -/

/-- All but the module of a package and the counters is the same. -/
structure ChangesOnly (package : String) (e after : Engine) : Prop where
  /-- The settings stay. -/
  config : after.config = e.config
  /-- The limits stay. -/
  limits : after.limits = e.limits
  /-- Other modules stay. -/
  module? : ∀ other, other ≠ package → after.module? other = e.module? other

namespace ChangesOnly

variable {package : String} {e after : Engine}

theorem refl (package : String) (e : Engine) : ChangesOnly package e e :=
  ⟨rfl, rfl, fun _ _ => rfl⟩

theorem count (h : ChangesOnly package e after) (f : Metrics → Metrics) :
    ChangesOnly package e (after.count f) :=
  ⟨h.config, h.limits, h.module?⟩

theorem of_count {f : Metrics → Metrics} (h : ChangesOnly package (e.count f) after) :
    ChangesOnly package e after :=
  ⟨h.config, h.limits, h.module?⟩

theorem putModule (h : ChangesOnly package e after) (m : GuestModule) :
    ChangesOnly package e (after.putModule package m) :=
  ⟨h.config, h.limits, fun other hother => by
    rw [module?_putModule, if_neg hother]
    exact h.module? other hother⟩

theorem restoreModule (h : ChangesOnly package e after) (m : GuestModule) :
    ChangesOnly package e (after.restoreModule package m).2 := by
  rw [Engine.restoreModule]
  cases m.restore with
  | ok m => exact (h.putModule m).count _
  | error error => exact h

end ChangesOnly

theorem changesOnly_runModule (e : Engine) (package : String) (m : GuestModule) (function : String)
    (ticks : Nat) (adapter : Adapter σ) (state : σ) :
    ChangesOnly package e (e.runModule package m function ticks adapter state).2.1 := by
  have hput := (ChangesOnly.refl package e).putModule (m.run adapter state function ticks).2.1
  cases hr : (m.run adapter state function ticks).1 with
  | ok u => rwa [engine_runModule_of_kept (Or.inl hr)]
  | error error =>
    by_cases hauto : e.config.autoRecover = true
    · rw [engine_runModule_of_restored hr hauto]
      exact hput.restoreModule _
    · rwa [engine_runModule_of_kept (Or.inr (Bool.not_eq_true _ ▸ hauto))]

theorem changesOnly_withModule {α : Type} (e : Engine) (package : String)
    (f : GuestModule → Except ExtensionError α × GuestModule) :
    ChangesOnly package e (e.withModule package f).2 := by
  rw [withModule]
  cases e.module? package with
  | none => exact .refl package e
  | some m => exact (ChangesOnly.refl package e).putModule _

/-- An operation that names a package touches no other package. -/
theorem changesOnly_perform (e : Engine) {op : Operation} {package : String}
    (h : op.package? = some package) : ChangesOnly package e (e.perform op).2 := by
  cases op with
  | invoke now p extension context client =>
    cases h
    show ChangesOnly package e
      (e.invoke now package extension context client.adapter client.state).engine
    by_cases henters : ∃ m function ticks, e.Enters now package extension context m function ticks
    · obtain ⟨m, function, ticks, henters⟩ := henters
      obtain ⟨f, hinvoke⟩ := invoke_of_enters henters client.adapter client.state
      rw [hinvoke]
      exact ((changesOnly_runModule _ package m function ticks _ _).count f).of_count
    · obtain ⟨f, hengine⟩ := invoke_of_not_enters
        (fun m function ticks hentered => henters ⟨m, function, ticks, hentered⟩)
        client.adapter client.state
      rw [hengine]
      exact (ChangesOnly.refl package e).count f
  | heapStats p =>
    cases h
    exact changesOnly_withModule e package _
  | collect p =>
    cases h
    exact changesOnly_withModule e package _
  | recover p =>
    cases h
    show ChangesOnly package e (e.recover package).2
    rw [recover]
    cases e.module? package with
    | none => exact .refl package e
    | some m => exact (ChangesOnly.refl package e).restoreModule m
  | setLimits limits => cases h
  | close => cases h

/-! ### One package -/

/-- Two engines agree in all that answers about a package depend on. -/
structure Agrees (package : String) (e e' : Engine) : Prop where
  /-- The settings agree. -/
  config : e.config = e'.config
  /-- The limits agree. -/
  limits : e.limits = e'.limits
  /-- The modules agree. -/
  module? : e.module? package = e'.module? package

namespace Agrees

variable {package : String} {e e' : Engine}

theorem count (h : Agrees package e e') (f f' : Metrics → Metrics) :
    Agrees package (e.count f) (e'.count f') :=
  ⟨h.config, h.limits, h.module?⟩

theorem putModule (h : Agrees package e e') (m : GuestModule) :
    Agrees package (e.putModule package m) (e'.putModule package m) :=
  ⟨h.config, h.limits, by rw [module?_putModule, module?_putModule, if_pos rfl, if_pos rfl]⟩

theorem restoreModule (h : Agrees package e e') (m : GuestModule) :
    (e.restoreModule package m).1 = (e'.restoreModule package m).1 ∧
      Agrees package (e.restoreModule package m).2 (e'.restoreModule package m).2 := by
  rw [Engine.restoreModule, Engine.restoreModule]
  cases m.restore with
  | ok m => exact ⟨rfl, (h.putModule m).count _ _⟩
  | error error => exact ⟨rfl, h⟩

theorem resolve_eq (h : Agrees package e e') (extension : String) :
    e.resolve package extension = e'.resolve package extension := by
  rw [resolve, resolve, h.module?]

theorem ticksAt_eq (h : Agrees package e e') (now : Instant) (context : Context) :
    e.ticksAt now context = e'.ticksAt now context := by
  rw [ticksAt, ticksAt, h.limits, h.config]

theorem runModule (h : Agrees package e e') (m : GuestModule) (function : String) (ticks : Nat)
    (adapter : Adapter σ) (state : σ) :
    Agrees package (e.runModule package m function ticks adapter state).2.1
      (e'.runModule package m function ticks adapter state).2.1 := by
  have hput := h.putModule (m.run adapter state function ticks).2.1
  cases hr : (m.run adapter state function ticks).1 with
  | ok u =>
    rw [engine_runModule_of_kept (Or.inl hr), engine_runModule_of_kept (Or.inl hr)]
    exact hput
  | error error =>
    by_cases hauto : e.config.autoRecover = true
    · rw [engine_runModule_of_restored hr hauto,
        engine_runModule_of_restored hr (h.config ▸ hauto)]
      exact (hput.restoreModule _).2
    · have hkept : e.config.autoRecover = false := Bool.not_eq_true _ ▸ hauto
      rw [engine_runModule_of_kept (Or.inr hkept),
        engine_runModule_of_kept (Or.inr (h.config ▸ hkept))]
      exact hput

theorem invoke (h : Agrees package e e') (now : Instant) (extension : String) (context : Context)
    (adapter : Adapter σ) (state : σ) :
    (e.invoke now package extension context adapter state).outcome
        = (e'.invoke now package extension context adapter state).outcome ∧
      (e.invoke now package extension context adapter state).state
        = (e'.invoke now package extension context adapter state).state ∧
      Agrees package (e.invoke now package extension context adapter state).engine
        (e'.invoke now package extension context adapter state).engine := by
  have hcount := h.count .countInvocation .countInvocation
  simp only [Engine.invoke, hcount.resolve_eq, hcount.ticksAt_eq]
  cases hresolve : (e'.count .countInvocation).resolve package extension with
  | error error => exact ⟨rfl, rfl, hcount.count _ _⟩
  | ok found =>
    obtain ⟨m, function⟩ := found
    dsimp only
    cases (e'.count .countInvocation).ticksAt now context with
    | error overflow => exact ⟨rfl, rfl, hcount⟩
    | ok ticks =>
      cases ticks with
      | none => exact ⟨rfl, rfl, hcount.count _ _⟩
      | some ticks =>
        have hrun := hcount.runModule m function ticks adapter state
        have hfst := (fst_runModule (e.count .countInvocation) package m function ticks adapter
          state).trans (fst_runModule (e'.count .countInvocation) package ..).symm
        have hstate := (state_runModule (e.count .countInvocation) package m function ticks adapter
          state).trans (state_runModule (e'.count .countInvocation) package ..).symm
        rcases hr : (e.count .countInvocation).runModule package m function ticks adapter state
          with ⟨result, after, state₁⟩
        rcases hr' : (e'.count .countInvocation).runModule package m function ticks adapter state
          with ⟨result', after', state₂⟩
        rw [hr, hr'] at hrun hfst hstate
        obtain rfl : result = result' := hfst
        obtain rfl : state₁ = state₂ := hstate
        simp only [hr, hr']
        cases result with
        | ok u => exact ⟨rfl, rfl, hrun⟩
        | error error => exact ⟨rfl, rfl, hrun.count _ _⟩

theorem withModule {α : Type} (h : Agrees package e e')
    (f : GuestModule → Except ExtensionError α × GuestModule) :
    (e.withModule package f).1 = (e'.withModule package f).1 ∧
      Agrees package (e.withModule package f).2 (e'.withModule package f).2 := by
  rw [Engine.withModule, Engine.withModule, h.module?]
  cases e'.module? package with
  | none => exact ⟨rfl, h⟩
  | some m => exact ⟨rfl, h.putModule _⟩

/-- An operation on the package gets the same answer, and engines go on agreeing. -/
theorem perform_of_package? (h : Agrees package e e') {op : Operation}
    (hop : op.package? = some package) :
    (e.perform op).1 = (e'.perform op).1 ∧ Agrees package (e.perform op).2 (e'.perform op).2 := by
  cases op with
  | invoke now p extension context client =>
    cases hop
    obtain ⟨houtcome, hstate, hengine⟩ := h.invoke now extension context client.adapter client.state
    refine ⟨?_, hengine⟩
    show Answer.invoked client.State _ _ = Answer.invoked client.State _ _
    rw [houtcome, hstate]
  | heapStats p =>
    cases hop
    obtain ⟨hresult, hengine⟩ := h.withModule GuestModule.heapStats
    exact ⟨congrArg Answer.counted hresult, hengine⟩
  | collect p =>
    cases hop
    obtain ⟨hresult, hengine⟩ := h.withModule GuestModule.collect
    exact ⟨congrArg Answer.done hresult, hengine⟩
  | recover p =>
    cases hop
    show Answer.done (e.recover package).1 = Answer.done (e'.recover package).1 ∧
      Agrees package (e.recover package).2 (e'.recover package).2
    rw [Engine.recover, Engine.recover, h.module?]
    cases e'.module? package with
    | none => exact ⟨rfl, h⟩
    | some m =>
      obtain ⟨hresult, hengine⟩ := h.restoreModule m
      exact ⟨congrArg Answer.done hresult, hengine⟩
  | setLimits limits => cases hop
  | close => cases hop

/-- Engines go on agreeing, whatever package an operation is about. -/
theorem perform (h : Agrees package e e') (op : Operation) :
    Agrees package (e.perform op).2 (e'.perform op).2 := by
  cases hop : op.package? with
  | some p =>
    by_cases hp : p = package
    · exact (h.perform_of_package? (hp ▸ hop)).2
    · have hleft := changesOnly_perform e hop
      have hright := changesOnly_perform e' hop
      exact ⟨hleft.config.trans (h.config.trans hright.config.symm),
        hleft.limits.trans (h.limits.trans hright.limits.symm),
        (hleft.module? package (Ne.symm hp)).trans
          (h.module?.trans (hright.module? package (Ne.symm hp)).symm)⟩
  | none =>
    cases op with
    | setLimits limits => exact ⟨h.config, rfl, h.module?⟩
    | close => exact ⟨h.config, h.limits, rfl⟩
    | _ => cases hop

end Agrees

/-- The answers to the operations of a sequence that name a package. -/
def answersOn (package : String) : Engine → List Operation → List Answer
  | _, [] => []
  | e, op :: ops =>
    let rest := answersOn package (e.perform op).2 ops
    if op.package? = some package then (e.perform op).1 :: rest else rest

/-- **Agreement.**  Engines that agree in what answers about a package depend on give the same
answers about it. -/
theorem Agrees.answersOn_eq {package : String} {e e' : Engine} (h : Agrees package e e')
    (ops : List Operation) : e.answersOn package ops = e'.answersOn package ops := by
  induction ops generalizing e e' with
  | nil => rfl
  | cons op ops ih =>
    simp only [answersOn, ih (h.perform op)]
    by_cases hop : op.package? = some package
    · rw [if_pos hop, if_pos hop, (h.perform_of_package? hop).1]
    · rw [if_neg hop, if_neg hop]

end Engine

end ExtensionHost
