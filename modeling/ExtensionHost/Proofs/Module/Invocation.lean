import ExtensionHost.Proofs.Guest.Causes
import ExtensionHost.Proofs.Guest.Payloads
import ExtensionHost.Proofs.Module.Calls
import ExtensionHost.Proofs.Module.Restore

/-!
# Modules in the course of operations

Operations change the guest of a module and nothing else of it, and they keep the guest sound.  This
file says so for each operation on a module, and prepares what is said about single invocations:
their history, and the machine that they end on.

**Adapters come and go.**  An invocation binds its adapter to the module, and releases it however it
ends.  Thus between operations no adapter is bound (`GuestModule.Continues.unbound`), which is what
calls of the guest outside invocations rely on (`GuestModule.callExport_eq`).

## Main definitions

* `GuestModule.Continues`, a loaded module in the course of operations
* `GuestModule.history`, `GuestModule.final` and `GuestModule.failure?` of an invocation

## Main results

* `GuestModule.Continues.run` and its companions, operations continue a module
* `GuestModule.run_eq`, a run as a call on the machine that it starts on
* `GuestModule.leads_history`, the history of an invocation
-/

namespace ExtensionHost

open Guest

namespace GuestModule

variable {σ : Type}

/-- A loaded module in the course of operations: only its guest has changed, it is sound, and no
adapter is bound to it. -/
structure Continues (m loaded : GuestModule) : Prop where
  /-- Only the guest has changed. -/
  comesFrom : m.ComesFrom loaded
  /-- The guest is sound. -/
  sound : m.guest.IsSound loaded.config.memoryLimitBytes.toNat
  /-- No adapter is bound. -/
  unbound : m.bound = none

namespace ComesFrom

variable {m loaded : GuestModule} (h : m.ComesFrom loaded)

include h

theorem package : m.package = loaded.package := by rw [h]

theorem program : m.program = loaded.program := by rw [h]

theorem config : m.config = loaded.config := by rw [h]

theorem exports : m.exports = loaded.exports := by rw [h]

end ComesFrom

theorem IsLoaded.continues {m : GuestModule} (h : m.IsLoaded) : m.Continues m :=
  ⟨comesFrom_refl m, h.prepared.tame.sound, h.bound⟩

theorem Continues.with_guest {m loaded : GuestModule} (h : m.Continues loaded) {guest : GuestState}
    (hsound : guest.IsSound loaded.config.memoryLimitBytes.toNat) :
    Continues { m with guest } loaded :=
  ⟨h.comesFrom.with_guest guest, hsound, h.unbound⟩

/-! ### Invocations -/

/-- The machine that an invocation starts on. -/
def start (m : GuestModule) (state : σ) (ticks : Nat) : Machine σ :=
  m.rewind.machine (some state) ticks

/-- The module after a run that ended on a machine. -/
def endOn (m : GuestModule) (t : Machine σ) : GuestModule :=
  { m with guest := { t.guest with growthRefused := false }, bound := none }

/-- What a run makes of the end of the call of its entry point. -/
def conclude (m : GuestModule) (state : σ) :
    EStateM.Result Failure (Machine σ) (List UInt64) → Except ExtensionError Unit × GuestModule × σ
  | .ok _ t => (.ok (), m.endOn t, t.bound.getD state)
  | .error f t =>
    (.error (f.classify t.guest.growthRefused), m.endOn t, t.bound.getD state)

/-- The history of an invocation. -/
def history (m : GuestModule) (adapter : Adapter σ) (state : σ) (function : String) (ticks : Nat) :
    List (Note σ) :=
  (m.sandbox adapter).history function [] (m.start state ticks)

/-- The machine that an invocation ends on. -/
def final (m : GuestModule) (adapter : Adapter σ) (state : σ) (function : String) (ticks : Nat) :
    Machine σ :=
  Run.after ((m.sandbox adapter).call function []) (m.start state ticks)

section Invocation

variable (m : GuestModule) (adapter : Adapter σ) (state : σ) (function : String) (ticks : Nat)

/-- The history of an invocation is a chain of legal events. -/
theorem leads_history :
    Leads (m.sandbox adapter) (m.start state ticks) (m.history adapter state function ticks)
      (m.final adapter state function ticks) :=
  Sandbox.tells_history (m.sandbox adapter) function [] (m.start state ticks) fun _ => rfl

/-- So is every beginning of it. -/
theorem leads_past {past later : List (Note σ)}
    (h : m.history adapter state function ticks = past ++ later) :
    Leads (m.sandbox adapter) (m.start state ticks) past (reached (m.start state ticks) past) := by
  have hleads := m.leads_history adapter state function ticks
  rw [h] at hleads
  obtain ⟨t, ht, -⟩ := hleads.of_append
  exact ht.eq_reached ▸ ht

/-- How the run of a function ends: how the entry point fails, if it does not return. -/
def failure? : Option Failure :=
  Run.failure? ((m.sandbox adapter).call function []) (m.start state ticks)

variable {m adapter state function ticks}

/-- Once its adapter is bound, an invocation is a call that this adapter serves. -/
theorem call_bind :
    (m.rewind.bind ⟨σ, adapter, state⟩).call function ticks
      = (m.sandbox adapter).call function [] (m.start state ticks) := rfl

/-- A run is the call of its entry point on the machine that it starts on, and what is made of the
end of this call. -/
theorem run_eq :
    m.run adapter state function ticks
      = m.conclude state ((m.sandbox adapter).call function [] (m.start state ticks)) := by
  rw [← call_bind]
  cases hc : (m.rewind.bind ⟨σ, adapter, state⟩).call function ticks with
  | ok results t =>
    simp only [run, hc]
    rfl
  | error f t =>
    simp only [run, hc]
    rfl

theorem run_of_ok {results : List UInt64} {t : Machine σ}
    (h : (m.sandbox adapter).call function [] (m.start state ticks) = .ok results t) :
    m.run adapter state function ticks = (.ok (), m.endOn t, t.bound.getD state) := by
  rw [run_eq, h, conclude]

theorem run_of_error {f : Failure} {t : Machine σ}
    (h : (m.sandbox adapter).call function [] (m.start state ticks) = .error f t) :
    m.run adapter state function ticks
      = (.error (f.classify t.guest.growthRefused), m.endOn t, t.bound.getD state) := by
  rw [run_eq, h, conclude]

theorem fst_run_of_none (h : m.failure? adapter state function ticks = none) :
    (m.run adapter state function ticks).1 = .ok () := by
  rw [failure?, Run.failure?] at h
  cases hc : (m.sandbox adapter).call function [] (m.start state ticks) with
  | ok results t => rw [run_of_ok hc]
  | error f t =>
    rw [hc] at h
    cases h

/-- The failure of an entry point is classified. -/
theorem fst_run_of_some {f : Failure} (h : m.failure? adapter state function ticks = some f) :
    (m.run adapter state function ticks).1
      = .error (f.classify (m.final adapter state function ticks).guest.growthRefused) := by
  rw [failure?, Run.failure?] at h
  cases hc : (m.sandbox adapter).call function [] (m.start state ticks) with
  | ok results t =>
    rw [hc] at h
    cases h
  | error g t =>
    rw [hc] at h
    cases h
    rw [run_of_error hc, final, Run.after_of_error hc]

/-- A run leaves no adapter bound, whatever its outcome is. -/
theorem module_run :
    (m.run adapter state function ticks).2.1 = m.endOn (m.final adapter state function ticks) := by
  cases hc : (m.sandbox adapter).call function [] (m.start state ticks) with
  | ok results t => rw [run_of_ok hc, final, Run.after_of_ok hc]
  | error f t => rw [run_of_error hc, final, Run.after_of_error hc]

theorem guest_run (h : m.bound = none) :
    (m.run adapter state function ticks).2.1
      = { m with guest :=
          { (m.final adapter state function ticks).guest with growthRefused := false } } := by
  rw [module_run, endOn, ← h]

/-- The state that a run leaves the adapter in is the one that is bound at its end. -/
theorem state_run :
    (m.run adapter state function ticks).2.2
      = (m.final adapter state function ticks).bound.getD state := by
  cases hc : (m.sandbox adapter).call function [] (m.start state ticks) with
  | ok results t => rw [run_of_ok hc, final, Run.after_of_ok hc]
  | error f t => rw [run_of_error hc, final, Run.after_of_error hc]

end Invocation

namespace Continues

variable {m loaded : GuestModule}

/-- An invocation starts on a sound guest. -/
theorem isSound_start (h : m.Continues loaded) (adapter : Adapter σ) (state : σ) (ticks : Nat) :
    (m.start state ticks).guest.IsSound (m.sandbox adapter).memoryLimit := by
  rw [sandbox, h.comesFrom.config]
  exact ⟨h.sound.within, StagingPool.fits_reset h.sound.fits⟩

theorem memoryLimit_lt (h : m.Continues loaded) (hloaded : loaded.IsLoaded)
    (adapter : Adapter σ) : (m.sandbox adapter).memoryLimit < UInt32.size := by
  rw [sandbox, h.comesFrom.config]
  exact EngineConfig.memoryLimitBytes_lt hloaded.valid

/-- An invocation with time left is in progress. -/
theorem isServing_start (h : m.Continues loaded) (hloaded : loaded.IsLoaded) (state : σ)
    {ticks : Nat} (hticks : ticks ≠ 0) : (m.start state ticks).IsServing m.program := by
  refine ⟨hticks, rfl, m.exports, rfl, ?_⟩
  rw [h.comesFrom.program, h.comesFrom.exports]
  exact hloaded.prepared.receiver

theorem isSound_final (h : m.Continues loaded) (adapter : Adapter σ) (state : σ)
    (function : String) (ticks : Nat) :
    (m.final adapter state function ticks).guest.IsSound (m.sandbox adapter).memoryLimit :=
  (m.leads_history adapter state function ticks).isSound (h.isSound_start adapter state ticks)

/-- An invocation continues a module. -/
theorem run (h : m.Continues loaded) (adapter : Adapter σ) (state : σ) (function : String)
    (ticks : Nat) : (m.run adapter state function ticks).2.1.Continues loaded := by
  have hsound := h.isSound_final adapter state function ticks
  rw [sandbox, h.comesFrom.config] at hsound
  rw [guest_run h.unbound]
  exact h.with_guest ⟨hsound.within, hsound.fits⟩

/-! ### Other operations -/

theorem callExport (h : m.Continues loaded) (function : String) :
    (m.callExport function).2.Continues loaded := by
  rw [callExport_eq h.unbound]
  refine h.with_guest ?_
  have hlimit : loaded.config.memoryLimitBytes.toNat
      = (quietSandbox m.package m.program m.config).memoryLimit := by
    rw [quietSandbox, h.comesFrom.config]
  rw [callQuietly_snd, hlimit]
  have hleads := Sandbox.tells_history (quietSandbox m.package m.program m.config) function []
    ⟨m.guest, some m.exports, none, unboundedTicks⟩ nofun
  exact hleads.isSound (hlimit ▸ h.sound)

theorem heapStats (h : m.Continues loaded) : m.heapStats.2.Continues loaded :=
  heapStats_invariant (P := (Continues · loaded)) (fun _ function hm => hm.callExport function) h

theorem collect (h : m.Continues loaded) : m.collect.2.Continues loaded :=
  m.snd_collect ▸ h.callExport m.exports.heapGc

end Continues

end GuestModule

end ExtensionHost
