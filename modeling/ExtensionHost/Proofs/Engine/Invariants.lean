import ExtensionHost.Proofs.Engine.Ceiling

/-!
# Invariants of modules

The modules of an engine change in two ways: a function of the guest is called, in an invocation or
outside of one, or the module is rolled back to what it was when it was loaded.  So a property of
modules that loaded modules have, and that calls of functions keep, is one of all modules of all
reachable engines.

## Main results

* `Engine.IsReachable.invariant`
* `Engine.IsReachable.growthIncrement_eq`, the size of the buffers that a pool requests
-/

namespace ExtensionHost

open Guest

/-- A property of modules that loaded modules have and that calls of functions keep. -/
structure GuestModule.Invariant (P : GuestModule → Prop) : Prop where
  /-- Loaded modules have it. -/
  loaded {m : GuestModule} : m.IsLoaded → P m
  /-- An invocation keeps it. -/
  run {m : GuestModule} {σ : Type} (adapter : Adapter σ) (state : σ) (function : String)
    (ticks : Nat) : P m → P (m.run adapter state function ticks).2.1
  /-- So does a call outside invocations. -/
  callExport {m : GuestModule} (function : String) : P m → P (m.callExport function).2

namespace GuestModule.Invariant

variable {P : GuestModule → Prop} (h : Invariant P) {m : GuestModule}

include h

theorem heapStats (hm : P m) : P m.heapStats.2 :=
  heapStats_invariant (fun _ function => h.callExport function) hm

theorem collect (hm : P m) : P m.collect.2 :=
  m.snd_collect ▸ h.callExport m.exports.heapGc hm

end GuestModule.Invariant

namespace Engine

variable {P : GuestModule → Prop} {e fresh : Engine} {package : String} {m m' loaded : GuestModule}

/-- An operation that rolls a module back leaves a loaded one. -/
theorem Continues.eq_of_restores (h : e.Continues fresh) (hfresh : fresh.IsFresh)
    (hloaded : fresh.module? package = some loaded) {op : Operation} {broken : GuestModule}
    (hop : op.Restores e package broken)
    (hm' : (e.perform op).2.module? package = some m') : m' = loaded := by
  have hcomes := (continues_of_restores h hloaded hop).comesFrom
  have hrestore : broken.restore = .ok loaded := (hfresh.isLoaded hloaded).1.restore_eq hcomes
  exact Option.some.inj (hm'.symm.trans (module?_perform_of_restores hop hrestore))

/-- Every operation keeps an invariant. -/
theorem Continues.invariant_perform (h : e.Continues fresh) (hfresh : fresh.IsFresh)
    (hP : GuestModule.Invariant P) (hloaded : fresh.module? package = some loaded)
    (hm : e.module? package = some m) (hPm : P m) {op : Operation}
    (hm' : (e.perform op).2.module? package = some m') : P m' := by
  by_cases hrestores : ∃ broken, op.Restores e package broken
  · obtain ⟨broken, hbroken⟩ := hrestores
    rw [h.eq_of_restores hfresh hloaded hbroken hm']
    exact hP.loaded (hfresh.isLoaded hloaded).1
  by_cases hop : op.package? = some package
  · cases op with
    | invoke now p extension context client =>
      obtain rfl : p = package := Option.some.inj hop
      by_cases henters : ∃ m function ticks, e.Enters now p extension context m function ticks
      · obtain ⟨m₀, function, ticks, henters⟩ := henters
        obtain rfl : m₀ = m := Option.some.inj (henters.module?.symm.trans hm)
        have hkept := module?_perform_of_kept henters hrestores
        rw [Option.some.inj (hm'.symm.trans hkept)]
        exact hP.run client.adapter client.state function ticks hPm
      · have hnot : ∀ m function ticks, ¬ e.Enters now p extension context m function ticks :=
          fun m function ticks hentered => henters ⟨m, function, ticks, hentered⟩
        obtain ⟨f, hengine⟩ := invoke_of_not_enters hnot client.adapter client.state
        have hsame : (e.count f).module? p = some m' := hengine ▸ hm'
        rwa [Option.some.inj (hsame.symm.trans hm)]
    | heapStats p =>
      obtain rfl : p = package := Option.some.inj hop
      have hafter : (e.perform (.heapStats p)).2.module? p = some m.heapStats.2 :=
        module?_withModule hm GuestModule.heapStats
      rw [Option.some.inj (hm'.symm.trans hafter)]
      exact hP.heapStats hPm
    | collect p =>
      obtain rfl : p = package := Option.some.inj hop
      have hafter : (e.perform (.collect p)).2.module? p = some m.collect.2 :=
        module?_withModule hm GuestModule.collect
      rw [Option.some.inj (hm'.symm.trans hafter)]
      exact hP.collect hPm
    | recover p =>
      obtain rfl : p = package := Option.some.inj hop
      exact absurd ⟨m, .recover hm⟩ hrestores
    | setLimits limits => cases hop
    | close => cases hop
  · rwa [Option.some.inj ((module?_of_perform hop hm').symm.trans hm)]

theorem Continues.invariant_performAll (h : e.Continues fresh) (hfresh : fresh.IsFresh)
    (hP : GuestModule.Invariant P) (hPe : ∀ m, e.module? package = some m → P m)
    (ops : List Operation) (hm : (e.performAll ops).module? package = some m) : P m := by
  induction ops generalizing e with
  | nil => exact hPe m hm
  | cons op ops ih =>
    refine ih (h.perform hfresh op) (fun m' hm' => ?_) hm
    cases hbefore : e.module? package with
    | none =>
      rw [module?_perform_of_none hbefore op] at hm'
      cases hm'
    | some m₀ =>
      obtain ⟨loaded, hloaded, -⟩ := h.modules package m₀ hbefore
      exact h.invariant_perform hfresh hP hloaded hbefore (hPe m₀ hbefore) hm'

/-- **Invariants of modules** hold on all reachable engines. -/
theorem IsReachable.invariant (h : e.IsReachable) (hP : GuestModule.Invariant P)
    (hm : e.module? package = some m) : P m := by
  obtain ⟨fresh, ops, hfresh, rfl⟩ := h
  exact (Continues.refl hfresh).invariant_performAll hfresh hP
    (fun m hm => hP.loaded (hfresh.isLoaded hm).1) ops hm

end Engine

/-! ### The size of fresh buffers -/

namespace GuestModule

/-- The buffers that a pool requests have at least the size that the settings name, and not none. -/
def RequestsAsConfigured (m : GuestModule) : Prop :=
  m.guest.pool.growthIncrement = max m.config.bufferGrowthIncrement 1

theorem growthIncrement_of_preallocate {package : String} {program : Program}
    {config : EngineConfig} {exports : Exports} {guest guest' : GuestState}
    (h : preallocate package program config exports guest = .ok guest') :
    guest'.pool.growthIncrement = guest.pool.growthIncrement := by
  have hpool := pool_callQuietly (quietSandbox package program config) (some exports) guest
    exports.malloc [config.preallocatedBufferSize.toUInt64]
  rw [preallocate] at h
  split at h
  · cases h
  · rename_i results called heq
    rw [heq] at hpool
    dsimp only at h
    split at h
    · cases h
    · cases h
      show called.pool.growthIncrement = guest.pool.growthIncrement
      rw [← hpool]

theorem growthIncrement_of_prepare {package : String} {program : Program} {config : EngineConfig}
    {guest : GuestState} {exports : Exports}
    (h : prepare package program config = .ok (guest, exports)) :
    guest.pool.growthIncrement = max config.bufferGrowthIncrement 1 := by
  simp only [prepare, bind_eq_ok_iff] at h
  obtain ⟨instantiated, hinstantiate, resolved, hresolve, probed, hprobe, ready, hready, h⟩ := h
  cases h
  have hprobed := (isTame_of_probeVersion hprobe (isTame_of_instantiate hinstantiate)).pool_eq
  rw [growthIncrement_of_preallocate hready, hprobed]
  rfl

theorem invariant_requestsAsConfigured : Invariant RequestsAsConfigured where
  loaded h := growthIncrement_of_prepare h.inv.1
  run {m σ} adapter state function ticks hm := by
    rw [RequestsAsConfigured, module_run]
    exact (m.leads_history adapter state function ticks).growthIncrement_eq.trans hm
  callExport {m} function hm := by
    rw [RequestsAsConfigured, snd_callExport]
    exact (m.leads_callHistory function).growthIncrement_eq.trans hm

end GuestModule

/-- On reachable engines pools request buffers as the settings say. -/
theorem Engine.IsReachable.growthIncrement_eq {e : Engine} (h : e.IsReachable) {package : String}
    {m : GuestModule} (hm : e.module? package = some m) :
    m.guest.pool.growthIncrement = max m.config.bufferGrowthIncrement 1 :=
  h.invariant GuestModule.invariant_requestsAsConfigured hm

end ExtensionHost
