import ExtensionHost.Proofs.Engine.Operation
import ExtensionHost.Proofs.Guest.Origin

/-!
# How invocations are answered

The answer to an invocation that enters the guest depends on how the run ends and on what happened
during the run, and on nothing that happened before: the memory of a refusal is cleared when a run
starts.  An interruption always shows; a refusal of memory hides every other failure; what is left
is the error of the host function that failed, or a trap.

The answers do not get mixed up, because no host function raises an error that stands for an
interruption or for a refusal.

## Main definitions

* `Engine.Classified`, how an invocation is answered

## Main results

* `Engine.invocations_are_classified`
-/

namespace ExtensionHost

open Guest

/-! ### Failures -/

namespace Guest.Failure

theorem classify_of_refused {f : Failure} (hf : f ≠ .interrupted) :
    f.classify true = .outOfMemory f.chain := by
  cases f with
  | interrupted => exact absurd rfl hf
  | _ => rfl

/-- No host function raises the error that stands for an interruption. -/
theorem classify_eq_deadlineExceeded_iff {f : Failure} (hf : ∀ e, f = .host e → e.isRaised = true)
    (growthRefused : Bool) : f.classify growthRefused = .deadlineExceeded ↔ f = .interrupted := by
  cases f with
  | interrupted => simp [classify]
  | trap cause => cases growthRefused <;> simp [classify]
  | host e =>
    cases growthRefused with
    | true => simp [classify]
    | false =>
      have hraised := hf e rfl
      simp only [classify, Bool.false_eq_true, if_false, reduceCtorEq, iff_false]
      rintro rfl
      cases hraised

/-- Only a refusal shows as one, unless a host function raises the error that stands for it. -/
theorem classify_eq_outOfMemory_iff {f : Failure} (hf : ∀ detail, f ≠ .host (.outOfMemory detail))
    (hint : f ≠ .interrupted) (growthRefused : Bool) :
    (∃ detail, f.classify growthRefused = .outOfMemory detail) ↔ growthRefused = true := by
  cases growthRefused with
  | true => simp [classify_of_refused hint]
  | false =>
    simp only [Bool.false_eq_true, iff_false]
    rintro ⟨detail, h⟩
    cases f with
    | interrupted => exact hint rfl
    | trap cause => cases h
    | host e =>
      obtain rfl : e = .outOfMemory detail := h
      exact hf detail rfl

end Guest.Failure

/-! ### Runs -/

namespace GuestModule

variable {σ : Type} (m : GuestModule) (adapter : Adapter σ) (state : σ) (function : String)
  (ticks : Nat)

/-- A refusal is remembered at the end of a run if there was one in its course. -/
theorem growthRefused_final_iff :
    (m.final adapter state function ticks).guest.growthRefused = true ↔
      ∃ n ∈ m.history adapter state function ticks, n.IsRefusal (m.sandbox adapter).memoryLimit := by
  rw [(m.leads_history adapter state function ticks).growthRefused_iff]
  simp [start, rewind, machine]

variable {m adapter state function ticks} in
/-- Without a refusal there is nothing to remember. -/
theorem growthRefused_final_eq_false
    (h : ∀ n ∈ m.history adapter state function ticks,
      ¬ n.IsRefusal (m.sandbox adapter).memoryLimit) :
    (m.final adapter state function ticks).guest.growthRefused = false := by
  rw [← Bool.not_eq_true, growthRefused_final_iff]
  rintro ⟨n, hn, hrefusal⟩
  exact h n hn hrefusal

variable {m} {loaded : GuestModule} {ticks}

/-- The failure of a run fits the machine that is left behind. -/
theorem Continues.attributed (h : m.Continues loaded) (hloaded : loaded.IsLoaded)
    (hticks : ticks ≠ 0) :
    Attributed (m.failure? adapter state function ticks) (m.final adapter state function ticks) :=
  (Sandbox.ends_call (m.sandbox adapter) function [] (m.start state ticks)
    (h.isServing_start hloaded state hticks)).attributed

/-- A run is interrupted if the guest runs for ever in its course, and only then. -/
theorem Continues.interrupted_iff (h : m.Continues loaded) (hloaded : loaded.IsLoaded)
    (hticks : ticks ≠ 0) :
    m.failure? adapter state function ticks = some .interrupted ↔
      ∃ n ∈ m.history adapter state function ticks, n.IsSpin := by
  rw [(h.attributed adapter state function hloaded hticks).interrupted,
    (m.leads_history adapter state function ticks).budget_eq_zero_iff]
  exact or_iff_right hticks

end GuestModule

/-! ### Answers -/

namespace Engine

variable {σ : Type}

/-- How an invocation is answered, by how its run ends and by what happened in its course. -/
structure Classified (sandbox : Sandbox σ) (history : List (Note σ)) (failure? : Option Failure)
    (result : Except ExtensionError Unit) : Prop where
  /-- It returns if the entry point does, and only then. -/
  returned : result = .ok () ↔ failure? = none
  /-- Its time is over if the run was interrupted, and only then. -/
  deadline : result = .error .deadlineExceeded ↔ failure? = some .interrupted
  /-- The run is interrupted if the guest runs for ever, and only then. -/
  interrupted : failure? = some .interrupted ↔ ∃ n ∈ history, n.IsSpin
  /-- Otherwise, memory is short if some was refused in the course of the run, and only then. -/
  memory : ∀ f, failure? = some f → f ≠ .interrupted →
    ((∃ detail, result = .error (.outOfMemory detail)) ↔
      ∃ n ∈ history, n.IsRefusal sandbox.memoryLimit)
  /-- Otherwise, the error of the host function that failed shows. -/
  host : ∀ e, failure? = some (.host e) → (∀ n ∈ history, ¬ n.IsRefusal sandbox.memoryLimit) →
    result = .error e ∧ ∃ n ∈ history, n.Raises sandbox e
  /-- Otherwise, the trap shows. -/
  trap : ∀ cause, failure? = some (.trap cause) →
    (∀ n ∈ history, ¬ n.IsRefusal sandbox.memoryLimit) →
    result = .error (.trap (Failure.trap cause).chain)

/-- The answer to a run of a module. -/
theorem classified_run {m loaded : GuestModule} (h : m.Continues loaded) (hloaded : loaded.IsLoaded)
    (adapter : Adapter σ) (state : σ) (function : String) {ticks : Nat} (hticks : ticks ≠ 0) :
    Classified (m.sandbox adapter) (m.history adapter state function ticks)
      (m.failure? adapter state function ticks) (m.run adapter state function ticks).1 := by
  have hinterrupted := h.interrupted_iff adapter state function hloaded hticks
  have hraised := (h.attributed adapter state function hloaded hticks).raised
  have hrefused := m.growthRefused_final_iff adapter state function ticks
  have hexplains := (m.sandbox adapter).explains_history function [] (m.start state ticks)
  cases hf : m.failure? adapter state function ticks with
  | none =>
    rw [hf] at hinterrupted
    rw [GuestModule.fst_run_of_none hf]
    exact ⟨⟨fun _ => rfl, fun _ => rfl⟩, ⟨nofun, nofun⟩, hinterrupted, nofun, nofun, nofun⟩
  | some f =>
    rw [hf] at hinterrupted
    have hraised : ∀ e, f = .host e → e.isRaised = true := fun e he => hraised e (he ▸ hf)
    rw [GuestModule.fst_run_of_some hf]
    refine ⟨⟨nofun, nofun⟩, ?_, hinterrupted, ?_, ?_, ?_⟩
    · rw [Except.error.injEq, Option.some.injEq]
      exact Failure.classify_eq_deadlineExceeded_iff hraised _
    · intro g hg hint
      obtain rfl := Option.some.inj hg
      rw [← hrefused, ← Failure.classify_eq_outOfMemory_iff
        (fun _ houtOfMemory => nomatch hraised _ houtOfMemory) hint]
      simp only [Except.error.injEq]
    · intro e he hnone
      obtain rfl := Option.some.inj he
      rw [GuestModule.growthRefused_final_eq_false hnone]
      exact ⟨rfl, hexplains e hf⟩
    · intro cause hcause hnone
      obtain rfl := Option.some.inj hcause
      rw [GuestModule.growthRefused_final_eq_false hnone]
      rfl

/-- **Invocations are classified.**  Take any invocation that enters the guest, on any reachable
engine.  It returns if its entry point does.  Otherwise its time is over if the guest was
interrupted; else memory is short if some was refused at any depth in the course of the run; else
the error shows that a host function raised in its course, unchanged; else the trap shows. -/
theorem invocations_are_classified {e : Engine} (h : e.IsReachable) {now : Instant}
    {package extension : String} {context : Context} {m : GuestModule} {function : String}
    {ticks : Nat} (henters : e.Enters now package extension context m function ticks)
    (adapter : Adapter σ) (state : σ) :
    ∃ result, (e.invoke now package extension context adapter state).outcome = .returned result ∧
      Classified (m.sandbox adapter) (m.history adapter state function ticks)
        (m.failure? adapter state function ticks) result := by
  obtain ⟨loaded, hloaded, hcontinues⟩ := h.module henters.module?
  obtain ⟨f, hinvoke⟩ := invoke_of_enters henters adapter state
  refine ⟨_, by rw [hinvoke], ?_⟩
  rw [fst_runModule]
  exact classified_run hcontinues hloaded adapter state function henters.ticks_ne_zero

/-- A guest that asks for too much is told so, although it traps in the end. -/
theorem invocations_are_classified_sample :
    (∃ detail, (Sample.engine.invoke ⟨0⟩ "sample" "overreach" .unbounded Sample.client.adapter
        Sample.client.state).outcome = .returned (.error (.outOfMemory detail))) ∧
      Sample.module.failure? Sample.client.adapter Sample.client.state "overreach" unboundedTicks
        = some (.trap .unreachable) := by
  have hentry : Sample.module.entry "overreach" = .ok "overreach" := by decide +kernel
  have hfails : Sample.module.failure? Sample.client.adapter Sample.client.state "overreach"
      unboundedTicks = some (.trap .unreachable) := by decide +kernel
  have hrefused : (Sample.module.final Sample.client.adapter Sample.client.state "overreach"
      unboundedTicks).guest.growthRefused = true := by decide +kernel
  obtain ⟨result, houtcome, hclassified⟩ := invocations_are_classified
    Sample.isFresh_engine.isReachable (Sample.enters Sample.module?_engine rfl hentry)
    Sample.client.adapter Sample.client.state
  obtain ⟨detail, hdetail⟩ := (hclassified.memory _ hfails nofun).mpr
    ((GuestModule.growthRefused_final_iff ..).mp hrefused)
  exact ⟨⟨detail, by rw [houtcome, hdetail]⟩, hfails⟩

end Engine

end ExtensionHost
