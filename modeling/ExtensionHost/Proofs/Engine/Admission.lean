import ExtensionHost.Proofs.Engine.Counters
import ExtensionHost.Proofs.Engine.Taxonomy
import ExtensionHost.Proofs.Limits

/-!
# Invocations that are turned away

Three things can keep an invocation from its guest: the package is not loaded, it does not declare
the extension, or the deadline has passed.  They are looked at in this order, and `Engine.TurnsAway`
says which one it is.

An invocation that is turned away is answered by a copy of the engine with two counters moved on.
Nothing is rolled back, although a deadline that passes in the course of a run is an error that asks
for a roll-back: here the guest was never entered.  A module that an earlier failure has left
damaged stays damaged.

Of the two bounds on an invocation only the caller's own deadline can have passed at the moment of
the call.  The engine's interval ends after that moment, or lies past the end of the clock; there is
no answer then, and such an invocation is not turned away in the sense of this module.

## Main definitions

* `Engine.TurnsAway`, why an invocation does not reach the guest
* `Operation.IsTurnedAway`

## Main results

* `Engine.TurnsAway.not_enters` and `Engine.enters_or_turnsAway`
* `Context.deadline_eq_of_le`, whose deadline has passed
* `Engine.invocations_turned_away_change_nothing`
* `Engine.performAll_of_isTurnedAway`, any number of them
-/

namespace ExtensionHost

open Guest

/-- Only the caller's own deadline can have passed at the moment of the call. -/
theorem Context.deadline_eq_of_le {context : Context} {limits : Limits} {now deadline : Instant}
    (h : context.effectiveDeadline limits now = .ok (some deadline)) (hpassed : deadline ≤ now) :
    context.deadline = some deadline := by
  rcases context.effectiveDeadline_cases limits now with ⟨-, herror⟩ | ⟨-, answer, hfound, hearliest⟩
  · rw [herror] at h
    cases h
  · rw [hfound, Except.ok.injEq] at h
    subst h
    exact hearliest.1.eq_own_of_le hpassed

namespace GuestModule

theorem hasExtension_eq_false {m : GuestModule} {extension : String}
    (h : extension ∉ m.extensionNames) : m.hasExtension extension = false := by
  rw [← Bool.not_eq_true]
  exact fun hdeclared => h (Assoc.mem_keys_iff.mpr hdeclared)

theorem exists_entry {m : GuestModule} {extension : String} (h : extension ∈ m.extensionNames) :
    ∃ function, m.entry extension = .ok function :=
  entry_of_hasExtension (Assoc.mem_keys_iff.mp h)

end GuestModule

namespace Engine

variable {e : Engine} {now : Instant} {package extension : String} {context : Context}
  {error : ExtensionError}

/-- Why an invocation is turned away before the guest is entered, as an error.  Each reason supposes
that those before it do not apply. -/
inductive TurnsAway (e : Engine) (now : Instant) (package extension : String) (context : Context) :
    ExtensionError → Prop where
  /-- The package is not loaded. -/
  | package (hpackage : e.module? package = none) :
    TurnsAway e now package extension context (.undefinedPackage package)
  /-- The package is loaded, but does not declare the extension. -/
  | extension {m : GuestModule} (hm : e.module? package = some m)
      (hextension : extension ∉ m.extensionNames) :
    TurnsAway e now package extension context (.invalidExtensionName extension)
  /-- The extension is there, but the deadline in force is not after the moment of the call. -/
  | deadline {m : GuestModule} {deadline : Instant} (hm : e.module? package = some m)
      (hextension : extension ∈ m.extensionNames)
      (hdeadline : context.effectiveDeadline e.limits now = .ok (some deadline))
      (hpassed : deadline ≤ now) :
    TurnsAway e now package extension context .deadlineExceeded

/-- The ticks run out at once if and only if there is a deadline that has passed. -/
theorem ticksAt_eq_none_iff :
    e.ticksAt now context = .ok none ↔
      ∃ deadline, context.effectiveDeadline e.limits now = .ok (some deadline) ∧
        deadline ≤ now := by
  rw [ticksAt]
  constructor
  · intro h
    rcases hd : context.effectiveDeadline e.limits now with overflow | _ | deadline
    · simp [hd, Except.map] at h
    · simp [hd, Except.map] at h
    · simp only [hd, Except.map, Except.ok.injEq] at h
      split at h
      · exact ⟨deadline, rfl, ‹_›⟩
      · simp at h
  · rintro ⟨deadline, hdeadline, hpassed⟩
    simp [hdeadline, Except.map, hpassed]

theorem resolve_of_declared {m : GuestModule} (hm : e.module? package = some m)
    (hextension : extension ∈ m.extensionNames) :
    ∃ function, e.resolve package extension = .ok (m, function) := by
  obtain ⟨function, hentry⟩ := GuestModule.exists_entry hextension
  exact ⟨function, by simp only [resolve, hm, hentry, Except.map]⟩

/-- The reasons, as the two checks of an invocation find them. -/
theorem turnsAway_iff :
    e.TurnsAway now package extension context error ↔
      e.resolve package extension = .error error ∨
        (∃ found, e.resolve package extension = .ok found) ∧
          e.ticksAt now context = .ok none ∧ error = .deadlineExceeded := by
  constructor
  · rintro (hpackage | ⟨hm, hextension⟩ | ⟨hm, hextension, hdeadline, hpassed⟩)
    · left
      simp only [resolve, hpackage]
    · left
      simp only [resolve, hm, Except.map, GuestModule.entry_of_not_hasExtension
        (GuestModule.hasExtension_eq_false hextension)]
    · right
      obtain ⟨function, hresolve⟩ := resolve_of_declared hm hextension
      exact ⟨⟨_, hresolve⟩, ticksAt_eq_none_iff.mpr ⟨_, hdeadline, hpassed⟩, rfl⟩
  · rintro (hresolve | ⟨⟨⟨m, function⟩, hresolve⟩, hticks, rfl⟩)
    · rcases hm : e.module? package with _ | m
      · simp only [resolve, hm, Except.error.injEq] at hresolve
        exact hresolve ▸ .package hm
      · by_cases hextension : extension ∈ m.extensionNames
        · obtain ⟨function, hfound⟩ := resolve_of_declared hm hextension
          rw [hfound] at hresolve
          cases hresolve
        · simp only [resolve, hm, Except.map, GuestModule.entry_of_not_hasExtension
            (GuestModule.hasExtension_eq_false hextension), Except.error.injEq] at hresolve
          exact hresolve ▸ .extension hm hextension
    · have hm := module?_of_resolve hresolve
      obtain ⟨deadline, hdeadline, hpassed⟩ := ticksAt_eq_none_iff.mp hticks
      refine .deadline hm (Decidable.byContradiction fun hextension => ?_) hdeadline hpassed
      simp only [resolve, hm, Except.map, GuestModule.entry_of_not_hasExtension
        (GuestModule.hasExtension_eq_false hextension), reduceCtorEq] at hresolve

namespace TurnsAway

/-- The reasons depend on the modules and the limits of an engine only. -/
theorem congr {e' : Engine} (h : e.TurnsAway now package extension context error)
    (hmodules : e'.modules = e.modules) (hlimits : e'.limits = e.limits) :
    e'.TurnsAway now package extension context error := by
  have hmodule (name : String) : e'.module? name = e.module? name := by
    rw [module?, module?, hmodules]
  rcases h with hpackage | ⟨hm, hextension⟩ | ⟨hm, hextension, hdeadline, hpassed⟩
  · exact .package ((hmodule _).trans hpackage)
  · exact .extension ((hmodule _).trans hm) hextension
  · exact .deadline ((hmodule _).trans hm) hextension (hlimits ▸ hdeadline) hpassed

/-- There is one reason only. -/
theorem unique {error' : ExtensionError} (h : e.TurnsAway now package extension context error)
    (h' : e.TurnsAway now package extension context error') : error = error' := by
  rcases turnsAway_iff.mp h with hresolve | ⟨⟨found, hresolve⟩, -, rfl⟩ <;>
    rcases turnsAway_iff.mp h' with hresolve' | ⟨⟨found', hresolve'⟩, -, rfl⟩ <;>
    simp_all

/-- An invocation that is turned away does not enter the guest. -/
theorem not_enters (h : e.TurnsAway now package extension context error) (m : GuestModule)
    (function : String) (ticks : Nat) :
    ¬ e.Enters now package extension context m function ticks := by
  rintro ⟨hresolve, hticks⟩
  rcases turnsAway_iff.mp h with herror | ⟨-, hnone, -⟩
  · simp [hresolve] at herror
  · simp [hticks] at hnone

/-- The answer to an invocation that is turned away, whoever would have served it. -/
theorem invoke_eq (h : e.TurnsAway now package extension context error) {σ : Type}
    (adapter : Adapter σ) (state : σ) :
    e.invoke now package extension context adapter state
      = ⟨.returned (.error error), e.count fun metrics => metrics.countInvocation.countError,
          state⟩ := by
  rcases turnsAway_iff.mp h with hresolve | ⟨⟨found, hresolve⟩, hticks, rfl⟩
  · simp only [invoke, resolve_count, hresolve]
    rfl
  · simp only [invoke, resolve_count, hresolve, ticksAt_count, hticks]
    rfl

end TurnsAway

/-- If the deadline can be told, an invocation either enters the guest or is turned away. -/
theorem enters_or_turnsAway {deadline : Option Instant}
    (h : context.effectiveDeadline e.limits now = .ok deadline) (package extension : String) :
    (∃ m function ticks, e.Enters now package extension context m function ticks) ∨
      ∃ error, e.TurnsAway now package extension context error := by
  rcases hresolve : e.resolve package extension with error | found
  · exact .inr ⟨error, turnsAway_iff.mpr (.inl hresolve)⟩
  · rcases hticks : e.ticksAt now context with overflow | _ | ticks
    · simp [ticksAt, h, Except.map] at hticks
    · exact .inr ⟨.deadlineExceeded, turnsAway_iff.mpr (.inr ⟨⟨found, hresolve⟩, hticks, rfl⟩)⟩
    · exact .inl ⟨found.1, found.2, ticks, hresolve, hticks⟩

/-- **Calls that do not enter the guest change nothing.**  Take any engine, also one with modules
that earlier failures have damaged, and an invocation of a package that is not loaded, of an
extension that is not declared, or past its deadline.  It returns the error that says so; of several
reasons, the first.  Whoever is to serve it, the answer is the same and the adapter is left in the
state that it had.  All modules of the engine are the ones that it had, with their memories,
globals, buffers and extensions, and so are the limits and the settings.  One invocation and one
error are counted, and no roll-back, whatever the settings say. -/
theorem invocations_turned_away_change_nothing
    (h : e.TurnsAway now package extension context error) :
    ∃ after : Engine,
      (∀ client : Client, e.invoke now package extension context client.adapter client.state
        = ⟨.returned (.error error), after, client.state⟩) ∧
      (∀ name, after.module? name = e.module? name) ∧
      after.limits = e.limits ∧ after.config = e.config ∧
      after.metrics.invocations = e.metrics.invocations + 1 ∧
      after.metrics.errors = e.metrics.errors + 1 ∧
      after.metrics.recovers = e.metrics.recovers :=
  ⟨_, fun client => h.invoke_eq client.adapter client.state, fun _ => rfl, rfl, rfl, rfl, rfl, rfl⟩

end Engine

/-- An engine whose settings ask for no roll-back, and whose guest was used and has failed. -/
def Sample.damaged : Engine :=
  { engine with config := { config with autoRecover := false } }.performAll
    (["greet", "overreach"].map fun extension => .invoke ⟨0⟩ "sample" extension .unbounded client)

namespace Engine

/-- Three invocations of an engine with a damaged module, with one defect less each time. -/
theorem invocations_turned_away_change_nothing_sample :
    (Sample.damaged.module? "sample").any (fun m => m.guest != Sample.module.guest) = true ∧
      ∀ request ∈ [("elsewhere", "depart", ExtensionError.undefinedPackage "elsewhere"),
          ("sample", "depart", .invalidExtensionName "depart"),
          ("sample", "greet", .deadlineExceeded)],
        let invocation := Sample.damaged.invoke ⟨7⟩ request.1 request.2.1 ⟨some ⟨7⟩⟩
          Sample.client.adapter Sample.client.state
        invocation.outcome = .returned (.error request.2.2) ∧
          invocation.engine.metrics.recovers = Sample.damaged.metrics.recovers := by
  refine ⟨by decide +kernel, ?_⟩
  have hloaded : ∃ m, Sample.damaged.module? "sample" = some m ∧
      m.extensionNames = ["greet", "linger", "overreach"] := by
    have hnames : (Sample.damaged.module? "sample").map (·.extensionNames)
        = some ["greet", "linger", "overreach"] := by decide +kernel
    simpa using hnames
  obtain ⟨m, hm, hnames⟩ := hloaded
  have hlimits : Sample.damaged.limits = .unlimited := by decide +kernel
  have hdeadline : (Context.mk (some ⟨7⟩)).effectiveDeadline Sample.damaged.limits ⟨7⟩
      = .ok (some ⟨7⟩) := by rw [hlimits]; rfl
  have hreasons : ∀ request ∈ [("elsewhere", "depart", ExtensionError.undefinedPackage "elsewhere"),
      ("sample", "depart", .invalidExtensionName "depart"), ("sample", "greet", .deadlineExceeded)],
      Sample.damaged.TurnsAway ⟨7⟩ request.1 request.2.1 ⟨some ⟨7⟩⟩ request.2.2 := by
    simp only [List.forall_mem_cons, List.not_mem_nil, false_imp_iff, implies_true, and_true]
    exact ⟨.package (Option.isNone_iff_eq_none.mp (by decide +kernel)),
      .extension hm (by simp [hnames]), .deadline hm (by simp [hnames]) hdeadline (Nat.le_refl 7)⟩
  intro request hrequest
  obtain ⟨after, hinvoke, -, -, -, -, -, hrecovers⟩ :=
    invocations_turned_away_change_nothing (hreasons request hrequest)
  rw [hinvoke Sample.client]
  exact ⟨rfl, hrecovers⟩

end Engine

/-! ### Any number of them -/

/-- An operation is an invocation that an engine turns away. -/
def Operation.IsTurnedAway (e : Engine) : Operation → Prop
  | .invoke now package extension context _ =>
    ∃ error, e.TurnsAway now package extension context error
  | _ => False

namespace Engine

variable {e : Engine}

theorem perform_of_isTurnedAway {op : Operation} (h : op.IsTurnedAway e) :
    (e.perform op).2 = e.count fun metrics => metrics.countInvocation.countError := by
  match op, h with
  | .invoke now package extension context client, ⟨error, herror⟩ =>
    simp only [perform, herror.invoke_eq]

/-- Invocations that an engine turns away can be repeated at will. -/
theorem performAll_of_isTurnedAway {ops : List Operation} (h : ∀ op ∈ ops, op.IsTurnedAway e) :
    (e.performAll ops).modules = e.modules ∧ (e.performAll ops).limits = e.limits ∧
      Counted e.metrics (e.performAll ops).metrics ops.length ops.length 0 := by
  induction ops generalizing e with
  | nil => exact ⟨rfl, rfl, .refl _⟩
  | cons op ops ih =>
    have hfirst := perform_of_isTurnedAway (h op List.mem_cons_self)
    have hrest : ∀ op' ∈ ops, op'.IsTurnedAway (e.perform op).2 := by
      intro op' hop'
      have hbefore := h op' (List.mem_cons_of_mem op hop')
      match op', hbefore with
      | .invoke .., ⟨error, herror⟩ =>
        exact ⟨error, herror.congr (by rw [hfirst]; rfl) (by rw [hfirst]; rfl)⟩
    obtain ⟨hmodules, hlimits, hcounted⟩ := ih hrest
    rw [hfirst] at hmodules hlimits hcounted
    have hstart : Counted e.metrics (e.count fun m => m.countInvocation.countError).metrics 1 1 0 :=
      (Counted.invocation _).trans (.error _)
    rw [performAll, List.foldl_cons, hfirst, List.length_cons, Nat.add_comm]
    exact ⟨hmodules, hlimits, hstart.trans hcounted⟩

end Engine

end ExtensionHost
