import ExtensionHost.Proofs.Module.Preparation

/-!
# Calls of a guest outside invocations

The counters of a heap are read, and garbage is collected, by functions of the guest that are called
in turn, up to the first one that fails.  Whoever is bound to the module at the time serves these
calls.  If nobody is, they are as quiet as the calls in preparation.

Reading counters and collecting garbage are both brought to the same form here, a list of functions
called in turn (`GuestModule.readCounters`), so that what is kept by one call is kept by them.

## Main definitions

* `GuestModule.callHistory` and `GuestModule.callFinal` of a call outside invocations
* `GuestModule.readCounters` and `GuestModule.quietFailure?`, functions called in turn

## Main results

* `GuestModule.callExport_eq`, a call that nobody serves
* `GuestModule.fst_heapStats` and `GuestModule.snd_heapStats`, `GuestModule.fst_collect` and
  `GuestModule.snd_collect_eq_readCounters`
* `GuestModule.heapStats_invariant`
-/

namespace ExtensionHost

open Guest

namespace GuestModule

/-! ### One call -/

/-- The history of a call outside invocations, which is served by whoever is bound. -/
def callHistory (m : GuestModule) (function : String) : List (Note (Client.StateOf m.bound)) :=
  (m.sandbox (Client.adapterOf m.bound)).history function []
    (m.machine (Client.stateOf m.bound) unboundedTicks)

/-- The machine that such a call ends on. -/
def callFinal (m : GuestModule) (function : String) : Machine (Client.StateOf m.bound) :=
  Run.after ((m.sandbox (Client.adapterOf m.bound)).call function [])
    (m.machine (Client.stateOf m.bound) unboundedTicks)

theorem leads_callHistory (m : GuestModule) (function : String) :
    Leads (m.sandbox (Client.adapterOf m.bound))
      (m.machine (Client.stateOf m.bound) unboundedTicks) (m.callHistory function)
      (m.callFinal function) :=
  Sandbox.tells_history (m.sandbox (Client.adapterOf m.bound)) function []
    (m.machine (Client.stateOf m.bound) unboundedTicks) fun _ => rfl

theorem callExport_of_ok {m : GuestModule} {function : String} {results : List UInt64}
    {t : Machine (Client.StateOf m.bound)} (h : m.call function unboundedTicks = .ok results t) :
    m.callExport function = (.ok results, m.settle t) := by
  rw [callExport, h]

theorem callExport_of_error {m : GuestModule} {function : String} {f : Failure}
    {t : Machine (Client.StateOf m.bound)} (h : m.call function unboundedTicks = .error f t) :
    m.callExport function = (.error f, m.settle t) := by
  rw [callExport, h]

theorem snd_callExport (m : GuestModule) (function : String) :
    (m.callExport function).2 = m.settle (m.callFinal function) := by
  cases hc : m.call function unboundedTicks with
  | ok results t =>
    rw [callExport_of_ok hc]
    exact congrArg m.settle (Run.after_of_ok hc).symm
  | error f t =>
    rw [callExport_of_error hc]
    exact congrArg m.settle (Run.after_of_error hc).symm

/-- Where no adapter is bound, a call outside invocations is as quiet as one in preparation. -/
theorem callExport_eq {m : GuestModule} (h : m.bound = none) (function : String) :
    m.callExport function
      = ((callQuietly (quietSandbox m.package m.program m.config) (some m.exports) m.guest
            function []).1,
        { m with guest := (callQuietly (quietSandbox m.package m.program m.config) (some m.exports)
            m.guest function []).2 }) := by
  obtain ⟨package, program, config, guest, exports, extensions, snapshot, bound⟩ := m
  cases h
  dsimp only
  rw [callQuietly]
  cases hq : (quietSandbox package program config).call function []
      ⟨guest, some exports, none, unboundedTicks⟩ with
  | ok results t => exact callExport_of_ok hq
  | error f t => exact callExport_of_error hq

theorem config_callExport (m : GuestModule) (function : String) :
    (m.callExport function).2.config = m.config := by
  rw [snd_callExport]
  rfl

theorem quietSandbox_callExport (m : GuestModule) (function : String) :
    quietSandbox (m.callExport function).2.package (m.callExport function).2.program
        (m.callExport function).2.config
      = quietSandbox m.package m.program m.config := by
  rw [snd_callExport]
  rfl

theorem unbound_callExport {m : GuestModule} (h : m.bound = none) (function : String) :
    (m.callExport function).2.bound = none := by
  rw [callExport_eq h]
  exact h

/-! ### Functions called in turn -/

/-- The module after reading counters, up to the first one that cannot be read. -/
def readCounters (m : GuestModule) : List (Exports → String) → GuestModule
  | [] => m
  | counter :: rest =>
    match m.callCounter (counter m.exports) with
    | (.ok _, m) => m.readCounters rest
    | (.error _, m) => m

/-- How the first function that fails does so, of some that are called in turn. -/
def quietFailure? (m : GuestModule) : List (Exports → String) → Option Failure
  | [] => none
  | function :: rest =>
    match m.callExport (function m.exports) with
    | (.ok _, m) => m.quietFailure? rest
    | (.error failure, _) => some failure

/-- The counters of a heap. -/
def heapCounters : List (Exports → String) :=
  [(·.heapInUse), (·.heapSys), (·.heapMallocs), (·.heapFrees)]

/-- The functions that a collection calls. -/
def collector : List (Exports → String) := [(·.heapGc)]

variable {m m' : GuestModule} {function : String}

theorem callCounter_of_error {f : Failure} (h : m.callExport function = (.error f, m')) :
    m.callCounter function = (.error (f.classify m'.guest.growthRefused), m') := by
  simp only [callCounter, h]

theorem callCounter_of_ok {results : List UInt64} (h : m.callExport function = (.ok results, m')) :
    m.callCounter function = (.ok (results.headD 0), m') := by
  simp only [callCounter, h]

theorem snd_callCounter (m : GuestModule) (function : String) :
    (m.callCounter function).2 = (m.callExport function).2 := by
  rw [callCounter]
  cases m.callExport function with
  | mk outcome after => cases outcome <;> rfl

theorem readCounters_cons (m : GuestModule) (function : Exports → String)
    (rest : List (Exports → String)) :
    m.readCounters (function :: rest)
      = match m.callExport (function m.exports) with
        | (.ok _, m) => m.readCounters rest
        | (.error _, m) => m := by
  rw [readCounters, callCounter]
  rcases m.callExport (function m.exports) with ⟨_ | _, _⟩ <;> rfl

/-- What is kept by every call is kept by calls in turn. -/
theorem readCounters_invariant {P : GuestModule → Prop}
    (hstep : ∀ m function, P m → P (callExport m function).2) (hm : P m)
    (functions : List (Exports → String)) : P (m.readCounters functions) := by
  induction functions generalizing m with
  | nil => exact hm
  | cons function rest ih =>
    have hnext := hstep m (function m.exports) hm
    rw [readCounters_cons]
    rcases hcall : m.callExport (function m.exports) with ⟨f | results, m'⟩
    · rwa [hcall] at hnext
    · rw [hcall] at hnext
      exact ih hnext

/-! ### Reading the counters of a heap -/

theorem snd_heapStats (m : GuestModule) : m.heapStats.2 = m.readCounters heapCounters := by
  simp only [heapStats, heapCounters, readCounters]
  repeat' split
  all_goals first | rfl | simp_all

/-- Counters that cannot be read show the failure of the first one, classified by what the guest
remembers by then. -/
theorem fst_heapStats (m : GuestModule) :
    m.heapStats.1.map (fun _ => ())
      = match m.quietFailure? heapCounters with
        | none => .ok ()
        | some f => .error (f.classify (m.readCounters heapCounters).guest.growthRefused) := by
  rcases h₁ : m.callExport m.exports.heapInUse with ⟨f | results, m₁⟩
  · simp [heapStats, heapCounters, readCounters_cons, quietFailure?, Except.map, h₁,
      callCounter_of_error h₁]
  rcases h₂ : m₁.callExport m₁.exports.heapSys with ⟨f | results, m₂⟩
  · simp [heapStats, heapCounters, readCounters_cons, quietFailure?, Except.map, h₁,
      callCounter_of_ok h₁, h₂, callCounter_of_error h₂]
  rcases h₃ : m₂.callExport m₂.exports.heapMallocs with ⟨f | results, m₃⟩
  · simp [heapStats, heapCounters, readCounters_cons, quietFailure?, Except.map, h₁,
      callCounter_of_ok h₁, h₂, callCounter_of_ok h₂, h₃, callCounter_of_error h₃]
  rcases h₄ : m₃.callExport m₃.exports.heapFrees with ⟨f | results, m₄⟩
  · simp [heapStats, heapCounters, readCounters_cons, quietFailure?, Except.map, h₁,
      callCounter_of_ok h₁, h₂, callCounter_of_ok h₂, h₃, callCounter_of_ok h₃, h₄,
      callCounter_of_error h₄]
  · simp [heapStats, heapCounters, quietFailure?, Except.map, h₁,
      callCounter_of_ok h₁, h₂, callCounter_of_ok h₂, h₃, callCounter_of_ok h₃, h₄,
      callCounter_of_ok h₄]

/-- What is kept by every call is kept by reading the counters of a heap. -/
theorem heapStats_invariant {P : GuestModule → Prop}
    (hstep : ∀ m function, P m → P (callExport m function).2) (hm : P m) : P m.heapStats.2 :=
  m.snd_heapStats ▸ readCounters_invariant hstep hm heapCounters

/-! ### Collecting garbage -/

theorem snd_collect (m : GuestModule) : m.collect.2 = (m.callExport m.exports.heapGc).2 := by
  rw [collect]
  cases m.callExport m.exports.heapGc with
  | mk outcome after => cases outcome <;> rfl

/-- A collection that fails shows the failure as if memory had never been refused. -/
theorem fst_collect (m : GuestModule) :
    m.collect.1
      = match m.quietFailure? collector with
        | none => .ok ()
        | some f => .error (f.classify false) := by
  rcases h : m.callExport m.exports.heapGc with ⟨f | results, m'⟩ <;>
    simp [collect, collector, quietFailure?, h]

theorem snd_collect_eq_readCounters (m : GuestModule) :
    m.collect.2 = m.readCounters collector := by
  rcases h : m.callExport m.exports.heapGc with ⟨f | results, m'⟩ <;>
    simp [collect, collector, readCounters_cons, readCounters, h]

end GuestModule

end ExtensionHost
