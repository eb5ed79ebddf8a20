import ExtensionHost.Proofs.Engine.Ceiling
import ExtensionHost.Proofs.Engine.Classification
import ExtensionHost.Proofs.Engine.Counters
import ExtensionHost.Proofs.Engine.Fields
import ExtensionHost.Proofs.Engine.Lifecycle

/-!
# How questions about a heap fail

The counters of a heap are read, and garbage is collected, by functions of the guest, which can fail
as an extension can.  Of invocations it is known that the answer depends on nothing that happened
before.  Here it does.

Such questions are asked between invocations, when no adapter is bound to a module, and so their
course is that of a guest that nobody serves (`GuestModule.callExport_eq`).

**Whose refusal it is.**  A guest remembers that memory was refused, and invocations, loading and
roll-backs clear this memory.  Reading counters does not clear it, neither before nor after, and
shows a failure as a lack of memory if anything is remembered.  A collection does not clear it
either, and takes no notice of it.  So a collection that is refused memory and fails is answered as
if there had been enough, and counters that fail after it are answered as if memory had been short
for them (`Engine.introspection_misplaces_refusals`).

What a guest remembers can be told from the operations so far: the last word has the last of them
that was refused memory or that cleared it (`Engine.Lingers`).

## Main definitions

* `GuestModule.quietCourse`, the history of functions called in turn
* `Engine.Event.IsRefused`, `Engine.Event.Forgets` and `Engine.Lingers`
* `Guest.Failure.Shows`, how a failure is answered

## Main results

* `Engine.Continues.growthRefused_perform_iff`, what one operation leaves behind
* `Engine.Continues.growthRefused_performAll_iff`, what a run leaves behind
* `Engine.introspection_is_classified`
* `Engine.introspection_misplaces_refusals`
-/

namespace ExtensionHost

open Guest

/-! ### Functions called in turn -/

namespace GuestModule

/-- The history of calling functions of a guest in turn, with nobody bound to it, up to the first
one that fails. -/
def quietCourse (m : GuestModule) : List (Exports → String) → List (Note Empty)
  | [] => []
  | function :: rest =>
    quietHistory (quietSandbox m.package m.program m.config) (some m.exports) m.guest
        (function m.exports) [] ++
      match m.callExport (function m.exports) with
      | (.ok _, m) => m.quietCourse rest
      | (.error _, _) => []

variable {m m' : GuestModule} {function : String}

/-- What a call outside invocations leaves remembered: what was, and what was refused in its
course. -/
theorem growthRefused_callExport_iff (h : m.bound = none) (function : String) :
    (m.callExport function).2.guest.growthRefused = true ↔
      m.guest.growthRefused = true ∨
        ∃ n ∈ quietHistory (quietSandbox m.package m.program m.config) (some m.exports) m.guest
          function [], n.IsRefusal m.config.memoryLimitBytes.toNat := by
  rw [callExport_eq h]
  dsimp only
  rw [callQuietly_snd]
  exact (leads_quietHistory ..).growthRefused_iff

/-- The same, for functions called in turn. -/
theorem growthRefused_readCounters_iff (h : m.bound = none)
    (functions : List (Exports → String)) :
    (m.readCounters functions).guest.growthRefused = true ↔
      m.guest.growthRefused = true ∨
        ∃ n ∈ m.quietCourse functions, n.IsRefusal m.config.memoryLimitBytes.toNat := by
  induction functions generalizing m with
  | nil => simp [readCounters, quietCourse]
  | cons function rest ih =>
    have hfirst := growthRefused_callExport_iff h (function m.exports)
    have hconfig := m.config_callExport (function m.exports)
    have hunbound := unbound_callExport h (function m.exports)
    rw [readCounters_cons, quietCourse]
    rcases hcall : m.callExport (function m.exports) with ⟨f | results, m'⟩
    · simpa [hcall] using hfirst
    · rw [hcall] at hfirst hconfig hunbound
      dsimp only at hfirst hconfig hunbound ⊢
      rw [ih hunbound, hconfig, hfirst]
      simp only [List.mem_append, or_and_right, exists_or, or_assoc]

/-- An error of the host in a call outside invocations is raised in the history of the call. -/
theorem raises_of_callExport (hbound : m.bound = none) {e : ExtensionError}
    (h : (m.callExport function).1 = .error (.host e)) :
    ∃ n ∈ quietHistory (quietSandbox m.package m.program m.config) (some m.exports) m.guest
      function [], n.Raises (quietSandbox m.package m.program m.config) e := by
  rw [callExport_eq hbound] at h
  exact Sandbox.explains_history _ function [] _ e (failure?_of_callQuietly h)

/-- The same, for functions called in turn. -/
theorem raises_of_quietFailure? (hbound : m.bound = none) {functions : List (Exports → String)}
    {e : ExtensionError} (h : m.quietFailure? functions = some (.host e)) :
    ∃ n ∈ m.quietCourse functions, n.Raises (quietSandbox m.package m.program m.config) e := by
  induction functions generalizing m with
  | nil => simp [quietFailure?] at h
  | cons function rest ih =>
    have hsandbox := m.quietSandbox_callExport (function m.exports)
    have hunbound := unbound_callExport hbound (function m.exports)
    rw [quietFailure?] at h
    rw [quietCourse]
    rcases hcall : m.callExport (function m.exports) with ⟨f | results, m'⟩
    · simp only [hcall, Option.some.injEq] at h
      have hraises := raises_of_callExport hbound
        ((congrArg Prod.fst hcall).trans (congrArg Except.error h))
      simpa using hraises
    · rw [hcall] at hsandbox hunbound
      simp only [hcall] at h
      obtain ⟨n, hn, hraises⟩ := ih hunbound h
      exact ⟨n, List.mem_append_right _ hn, hsandbox ▸ hraises⟩

end GuestModule

/-! ### How failures are answered -/

/-- How a failure is answered, if memory is thought to be short in some cases: an interruption
always shows, then a lack of memory, then the error of the host function that failed in the course
of the events, and last the trap. -/
structure Guest.Failure.Shows {σ : Type} (sandbox : Sandbox σ) (course : List (Note σ))
    (short : Prop) (f : Failure) (error : ExtensionError) : Prop where
  /-- Time is over. -/
  deadline : f = .interrupted → error = .deadlineExceeded
  /-- Memory is short, if it is thought to be, and only then. -/
  memory : f ≠ .interrupted → ((∃ detail, error = .outOfMemory detail) ↔ short)
  /-- A host function has failed. -/
  host : ∀ e, f = .host e → ¬ short → error = e ∧ ∃ n ∈ course, n.Raises sandbox e
  /-- The guest has trapped. -/
  trap : ∀ cause, f = .trap cause → ¬ short → error = .trap (Failure.trap cause).chain

/-- A failure is answered as `Guest.Failure.classify` has it. -/
theorem Guest.Failure.shows_classify {σ : Type} {sandbox : Sandbox σ} {course : List (Note σ)}
    {f : Failure}
    (hraises : ∀ e, f = .host e → e.isOfHost = true ∧ ∃ n ∈ course, n.Raises sandbox e)
    {growthRefused : Bool} {short : Prop} (hshort : growthRefused = true ↔ short) :
    f.Shows sandbox course short (f.classify growthRefused) where
  deadline h := by rw [h, classify]
  memory h := by
    rw [← hshort]
    refine classify_eq_outOfMemory_iff (fun detail hhost => ?_) h growthRefused
    cases (hraises _ hhost).1
  host e he hnot := by
    obtain rfl : growthRefused = false := by rwa [← hshort, Bool.not_eq_true] at hnot
    exact ⟨by rw [he]; rfl, (hraises e he).2⟩
  trap cause hcause hnot := by
    obtain rfl : growthRefused = false := by rwa [← hshort, Bool.not_eq_true] at hnot
    rw [hcause]
    rfl

/-! ### What a guest remembers -/

/-- The functions of a package's guest that an operation calls outside invocations. -/
def Operation.introspects (package : String) : Operation → List (Exports → String)
  | .heapStats p => if p = package then GuestModule.heapCounters else []
  | .collect p => if p = package then GuestModule.collector else []
  | _ => []

namespace Engine

namespace Event

/-- The guest of a package is refused memory while its counters are read or its garbage is
collected. -/
def IsRefused (package : String) (v : Event) : Prop :=
  ∃ m, v.engine.module? package = some m ∧
    ∃ n ∈ m.quietCourse (v.op.introspects package),
      n.IsRefusal m.config.memoryLimitBytes.toNat

/-- The guest of a package forgets that it was refused memory: it is entered by an invocation, or
rolled back. -/
def Forgets (package : String) (v : Event) : Prop :=
  v.op.package? = some package ∧ (v.entersGuest = true ∨ v.op = .recover package)

end Event

/-- A refusal of memory lingers: after the last introspection of a package that was refused memory,
the guest has not forgotten it. -/
def Lingers (package : String) (log : List Event) : Prop :=
  ∃ past v later, log = past ++ v :: later ∧ v.IsRefused package ∧ ∀ u ∈ later, ¬ u.Forgets package

theorem lingers_nil (package : String) : ¬ Lingers package [] := by
  rintro ⟨past, v, later, h, -⟩
  simp at h

theorem lingers_cons_iff {package : String} {v : Event} {log : List Event} :
    Lingers package (v :: log) ↔
      (v.IsRefused package ∧ ∀ u ∈ log, ¬ u.Forgets package) ∨ Lingers package log := by
  constructor
  · rintro ⟨past, u, later, hlog, hrefused, hkept⟩
    rcases List.cons_eq_append_iff.mp hlog with ⟨-, hfirst⟩ | ⟨past, -, rfl⟩
    · obtain ⟨rfl, rfl⟩ := List.cons.inj hfirst
      exact .inl ⟨hrefused, hkept⟩
    · exact .inr ⟨past, u, later, rfl, hrefused, hkept⟩
  · rintro (⟨hrefused, hkept⟩ | ⟨past, u, later, rfl, hrefused, hkept⟩)
    · exact ⟨[], v, log, rfl, hrefused, hkept⟩
    · exact ⟨v :: past, u, later, rfl, hrefused, hkept⟩

namespace Continues

variable {e fresh : Engine} {package : String} {m m' loaded : GuestModule}

/-- A module that is rolled back remembers nothing. -/
theorem growthRefused_of_restores (h : e.Continues fresh) (hfresh : fresh.IsFresh)
    (hm : e.module? package = some m) {op : Operation} {broken : GuestModule}
    (hop : op.Restores e package broken) (hm' : (e.perform op).2.module? package = some m') :
    m'.guest.growthRefused = false := by
  obtain ⟨loaded, hloaded, -⟩ := h.modules package m hm
  have hisLoaded := (hfresh.isLoaded hloaded).1
  have hrestore := hisLoaded.restore_eq (continues_of_restores h hloaded hop).comesFrom
  rw [module?_perform_of_restores hop hrestore, Option.some.injEq] at hm'
  exact hm' ▸ hisLoaded.prepared.not_refused

/-- Neither does one that an invocation has entered. -/
theorem growthRefused_of_enters (h : e.Continues fresh) (hfresh : fresh.IsFresh) {now : Instant}
    {extension : String} {context : Context} {client : Client} {function : String} {ticks : Nat}
    (henters : e.Enters now package extension context m function ticks)
    (hm' : (e.perform (.invoke now package extension context client)).2.module? package = some m') :
    m'.guest.growthRefused = false := by
  by_cases hrestores : ∃ broken,
      (Operation.invoke now package extension context client).Restores e package broken
  · obtain ⟨broken, hbroken⟩ := hrestores
    exact h.growthRefused_of_restores hfresh henters.module? hbroken hm'
  · rw [module?_perform_of_kept henters hrestores, Option.some.injEq] at hm'
    rw [← hm', GuestModule.module_run]
    rfl

/-- **What one operation leaves behind.**  After it, a guest remembers a refusal if there was one
while its heap was looked at, or if it remembered one before and has not forgotten. -/
theorem growthRefused_perform_iff (h : e.Continues fresh) (hfresh : fresh.IsFresh) {op : Operation}
    (hm : e.module? package = some m) (hm' : (e.perform op).2.module? package = some m') :
    m'.guest.growthRefused = true ↔
      Event.IsRefused package ⟨e, op⟩ ∨
        m.guest.growthRefused = true ∧ ¬ Event.Forgets package ⟨e, op⟩ := by
  have hrefused : Event.IsRefused package ⟨e, op⟩ ↔
      ∃ n ∈ m.quietCourse (op.introspects package),
        n.IsRefusal m.config.memoryLimitBytes.toNat := by
    constructor
    · rintro ⟨m₀, hm₀, hn⟩
      obtain rfl := Option.some.inj (hm₀.symm.trans hm)
      exact hn
    · exact fun hn => ⟨m, hm, hn⟩
  have hunbound : m.bound = none := by
    obtain ⟨loaded, -, hcontinues⟩ := h.modules package m hm
    exact hcontinues.unbound
  -- an operation calls some functions of the guest, if only none, or makes the guest forget
  have hcalls (functions : List (Exports → String)) (hop : op.introspects package = functions)
      (hafter : m' = m.readCounters functions) (hkeeps : ¬ Event.Forgets package ⟨e, op⟩) :
      m'.guest.growthRefused = true ↔ Event.IsRefused package ⟨e, op⟩ ∨
        m.guest.growthRefused = true ∧ ¬ Event.Forgets package ⟨e, op⟩ := by
    rw [hafter, GuestModule.growthRefused_readCounters_iff hunbound, hrefused, hop, or_comm]
    simp only [hkeeps, not_false_eq_true, and_true]
  have hforgets (hop : op.introspects package = []) (hclear : m'.guest.growthRefused = false)
      (hforgets : Event.Forgets package ⟨e, op⟩) :
      m'.guest.growthRefused = true ↔ Event.IsRefused package ⟨e, op⟩ ∨
        m.guest.growthRefused = true ∧ ¬ Event.Forgets package ⟨e, op⟩ := by
    simp [hrefused, hop, GuestModule.quietCourse, hclear, hforgets]
  by_cases hop : op.package? = some package
  · match op, hop with
    | .invoke now _ extension context client, rfl =>
      by_cases henters : Event.entersGuest ⟨e, .invoke now package extension context client⟩ = true
      · obtain ⟨m₀, function, ticks, hentered⟩ := entersGuest_iff.mp henters
        exact hforgets rfl (h.growthRefused_of_enters hfresh hentered hm') ⟨rfl, .inl henters⟩
      · have hnot : ∀ m function ticks,
            ¬ e.Enters now package extension context m function ticks :=
          fun m function ticks hentered =>
            henters (entersGuest_iff.mpr ⟨m, function, ticks, hentered⟩)
        obtain ⟨f, hengine⟩ := invoke_of_not_enters hnot client.adapter client.state
        have hsame : (e.invoke now package extension context client.adapter
            client.state).engine.module? package = some m' := hm'
        rw [hengine] at hsame
        refine hcalls [] rfl (Option.some.inj (hsame.symm.trans hm)) ?_
        rintro ⟨-, hentered | hrecover⟩
        · exact henters hentered
        · simp at hrecover
    | .heapStats _, rfl =>
      have hafter := (module?_withModule hm GuestModule.heapStats).symm.trans hm'
      refine hcalls GuestModule.heapCounters (if_pos rfl) ?_ ?_
      · rw [← GuestModule.snd_heapStats, Option.some.inj hafter]
      · rintro ⟨-, hentered | hrecover⟩
        · cases hentered
        · simp at hrecover
    | .collect _, rfl =>
      have hafter := (module?_withModule hm GuestModule.collect).symm.trans hm'
      refine hcalls GuestModule.collector (if_pos rfl) ?_ ?_
      · rw [← GuestModule.snd_collect_eq_readCounters, Option.some.inj hafter]
      · rintro ⟨-, hentered | hrecover⟩
        · cases hentered
        · simp at hrecover
    | .recover _, rfl =>
      exact hforgets rfl (h.growthRefused_of_restores hfresh hm (.recover hm) hm') ⟨rfl, .inr rfl⟩
  · refine hcalls [] ?_ (Option.some.inj (hm.symm.trans (module?_of_perform hop hm'))).symm
      fun hforgets => hop hforgets.1
    match op, hop with
    | .heapStats p, hop | .collect p, hop => exact if_neg fun heq => hop (congrArg some heq)
    | .invoke .., _ | .recover _, _ | .setLimits _, _ | .close, _ => rfl

/-- An engine without a module of a package has none from then on. -/
theorem module?_performAll_of_none {e : Engine} {package : String} (h : e.module? package = none)
    (ops : List Operation) : (e.performAll ops).module? package = none := by
  induction ops generalizing e with
  | nil => exact h
  | cons op ops ih => exact ih (module?_perform_of_none h op)

/-- **What a run of operations leaves behind**, by induction on the run: a refusal that lingers, or
one that was remembered at the start and never forgotten. -/
theorem growthRefused_performAll_iff (h : e.Continues fresh) (hfresh : fresh.IsFresh)
    {ops : List Operation} (hm : e.module? package = some m)
    (hm' : (e.performAll ops).module? package = some m') :
    m'.guest.growthRefused = true ↔
      Lingers package (e.log ops) ∨
        m.guest.growthRefused = true ∧ ∀ v ∈ e.log ops, ¬ v.Forgets package := by
  induction ops generalizing e m with
  | nil =>
    obtain rfl : m' = m := Option.some.inj (hm'.symm.trans hm)
    simp [log, lingers_nil]
  | cons op ops ih =>
    rcases hnext : (e.perform op).2.module? package with _ | next
    · have hnone : (e.performAll (op :: ops)).module? package = none :=
        module?_performAll_of_none hnext ops
      rw [hnone] at hm'
      cases hm'
    · have hfirst := h.growthRefused_perform_iff hfresh hm hnext
      have hrest := ih (h.perform hfresh op) hnext hm'
      rw [hrest, hfirst, log, lingers_cons_iff, List.forall_mem_cons]
      -- whatever the first operation leaves, the later ones must not forget it
      rw [or_and_right, and_assoc, ← or_assoc, @or_comm (Lingers package _)]

end Continues

/-- The engine after operations on a fresh one: a guest remembers a refusal that lingers. -/
theorem growthRefused_iff_lingers {fresh : Engine} (hfresh : fresh.IsFresh) {ops : List Operation}
    {package : String} {m : GuestModule} (hm : (fresh.performAll ops).module? package = some m) :
    m.guest.growthRefused = true ↔ Lingers package (fresh.log ops) := by
  have hstart := Continues.refl hfresh
  obtain ⟨loaded, hloaded, -⟩ := (hstart.performAll hfresh ops).modules package m hm
  rw [hstart.growthRefused_performAll_iff hfresh hloaded hm,
    (hfresh.isLoaded hloaded).1.prepared.not_refused]
  simp

/-- How functions of a guest that were called in turn are answered for, if memory is thought to be
short in some cases. -/
structure Answered {σ α : Type} (sandbox : Sandbox σ) (course : List (Note σ))
    (failure? : Option Failure) (short : Prop) (result : Except ExtensionError α) : Prop where
  /-- All of them have returned. -/
  returned : failure? = none → ∃ a, result = .ok a
  /-- One of them has failed. -/
  failed : ∀ f, failure? = some f →
    ∃ error, result = .error error ∧ f.Shows sandbox course short error

/-- **Questions about a heap are classified.**  Take an engine as a factory builds it, any
operations, and a package that is loaded after them.

Reading the counters of its heap fails as soon as one of the functions that are called in turn does.
Where an invocation would be answered with an interruption, with the error of a host function or
with a trap, so is this.  Memory is short if some was refused while these counters were read, as in
an invocation; but also if some was refused in an earlier question or collection, and no invocation
has entered the guest, and no roll-back happened, since.  Refusals in the course of invocations do
not matter.  So, if none lingers, counters are classified by what happened while they were read.

A collection is answered in the same way, except that memory is never said to be short.  So, if none
is refused in its course, it is classified as an invocation would be. -/
theorem introspection_is_classified {fresh : Engine} (hfresh : fresh.IsFresh) (ops : List Operation)
    {package : String} {m : GuestModule} (hm : (fresh.performAll ops).module? package = some m) :
    let sandbox := GuestModule.quietSandbox m.package m.program m.config
    let reading := m.quietCourse GuestModule.heapCounters
    let collecting := m.quietCourse GuestModule.collector
    Answered sandbox reading (m.quietFailure? GuestModule.heapCounters)
        (Lingers package (fresh.log ops) ∨ ∃ n ∈ reading, n.IsRefusal sandbox.memoryLimit)
        ((fresh.performAll ops).heapStats package).1 ∧
      Answered sandbox collecting (m.quietFailure? GuestModule.collector) False
        ((fresh.performAll ops).collect package).1 := by
  intro sandbox reading collecting
  have hunbound : m.bound = none := by
    obtain ⟨loaded, -, hcontinues⟩ :=
      ((Continues.refl hfresh).performAll hfresh ops).modules package m hm
    exact hcontinues.unbound
  have hraises {functions : List (Exports → String)} {f : Failure}
      (hf : m.quietFailure? functions = some f) (e : ExtensionError) (he : f = .host e) :
      e.isOfHost = true ∧ ∃ n ∈ m.quietCourse functions, n.Raises sandbox e :=
    ⟨GuestModule.isOfHost_of_quietFailure? hunbound (he ▸ hf),
      GuestModule.raises_of_quietFailure? hunbound (he ▸ hf)⟩
  have hstats : ((fresh.performAll ops).heapStats package).1 = m.heapStats.1 := by
    rw [heapStats, withModule, hm]
  have hcollect : ((fresh.performAll ops).collect package).1 = m.collect.1 := by
    rw [collect, withModule, hm]
  have hread := m.fst_heapStats
  have hcollected := m.fst_collect
  rw [hstats, hcollect]
  constructor
  · have hshort : (m.readCounters GuestModule.heapCounters).guest.growthRefused = true ↔
        Lingers package (fresh.log ops) ∨ ∃ n ∈ reading, n.IsRefusal sandbox.memoryLimit := by
      rw [GuestModule.growthRefused_readCounters_iff hunbound, growthRefused_iff_lingers hfresh hm]
      rfl
    constructor
    · intro hnone
      rw [hnone] at hread
      rcases hresult : m.heapStats.1 with error | stats
      · simp [hresult, Except.map] at hread
      · exact ⟨stats, rfl⟩
    · intro f hf
      rw [hf] at hread
      exact ⟨_, map_eq_error_iff.mp hread, f.shows_classify (hraises hf) hshort⟩
  · constructor
    · intro hnone
      rw [hnone] at hcollected
      exact ⟨(), hcollected⟩
    · intro f hf
      rw [hf] at hcollected
      exact ⟨_, hcollected, f.shows_classify (hraises hf) (by simp)⟩

end Engine

/-- Whether a guest is refused memory can be told from the event. -/
instance Guest.Note.decidableIsRefusal {σ : Type} (limit : Nat) :
    (n : Note σ) → Decidable (n.IsRefusal limit)
  | ⟨.executed s frame, before, _⟩ =>
    haveI : Decidable (s.IsRefused limit frame before.guest) := inferInstanceAs (Decidable (_ ∧ _))
    decidable_of_iff _ isRefusal_executed.symm
  | ⟨.entered .., _, _⟩ | ⟨.asked, _, _⟩ | ⟨.staged .., _, _⟩ | ⟨.unplaced _, _, _⟩ =>
    .isFalse fun ⟨_, _, h, _⟩ => nomatch h

namespace Sample

/-- A guest whose collector asks for too much memory, and traps in the end, as its first counter
does. -/
def hoarder : Program :=
  [Standard.exported "heap_gc" [] [] [.growMemory (.const 5) none, .unreachable],
    Standard.exported "heap_in_use" [] [.i64] [.unreachable]].foldl Program.putFunction
      { standard with data := [⟨0, ⟨#[32, 0, 0, 0]⟩⟩] }

/-- The engine. -/
def hoardingEngine : Engine :=
  (Factory.firstEngine? ⟨"hoarding", config, ⟨0, 0, 0⟩, 0⟩ ⟨[("/hoarding", .program hoarder)], []⟩
    [⟨"sample", .ofFilePath "/hoarding", []⟩] 1).get (by decide +kernel)

theorem isFresh_hoardingEngine : hoardingEngine.IsFresh :=
  Engine.isFresh_of_firstEngine? (by decide +kernel) (Option.some_get _).symm

/-- Its module. -/
def hoarding : GuestModule := (hoardingEngine.module? "sample").get (by decide +kernel)

theorem module?_hoardingEngine : hoardingEngine.module? "sample" = some hoarding :=
  (Option.some_get _).symm

/-- Its module after a collection. -/
def hoarded : GuestModule :=
  ((hoardingEngine.performAll [.collect "sample"]).module? "sample").get (by decide +kernel)

end Sample

namespace Engine

/-- Counters that fail on a fresh engine show the trap. -/
theorem introspection_is_classified_sample :
    (Sample.hoardingEngine.heapStats "sample").1
      = .error (.trap (Failure.trap .unreachable).chain) := by
  have hfails : Sample.hoarding.quietFailure? GuestModule.heapCounters
      = some (.trap .unreachable) := by decide +kernel
  have hnone : ¬ ∃ n ∈ Sample.hoarding.quietCourse GuestModule.heapCounters,
      n.IsRefusal Sample.hoarding.config.memoryLimitBytes.toNat := by decide +kernel
  obtain ⟨error, herror, hshows⟩ := (introspection_is_classified Sample.isFresh_hoardingEngine []
    Sample.module?_hoardingEngine).1.failed _ hfails
  have htrap := hshows.trap .unreachable rfl (not_or.mpr ⟨lingers_nil _, hnone⟩)
  exact herror.trans (congrArg Except.error htrap)

/-- **Refusals are misplaced.**  A collection is refused memory and traps, and is answered with the
trap.  The counters that are read next are not refused any memory, and are answered with a lack of
it. -/
theorem introspection_misplaces_refusals :
    Sample.hoardingEngine.IsReachable ∧
      (∃ n ∈ Sample.hoarding.quietCourse GuestModule.collector,
        n.IsRefusal Sample.hoarding.config.memoryLimitBytes.toNat) ∧
      (Sample.hoardingEngine.collect "sample").1
        = .error (.trap "wasm trap: wasm \x60unreachable\x60 instruction executed") ∧
      (∀ n ∈ Sample.hoarded.quietCourse GuestModule.heapCounters,
        ¬ n.IsRefusal Sample.hoarded.config.memoryLimitBytes.toNat) ∧
      ((Sample.hoardingEngine.performAll [.collect "sample"]).heapStats "sample").1
        = .error (.outOfMemory "wasm trap: wasm \x60unreachable\x60 instruction executed") := by
  refine ⟨Sample.isFresh_hoardingEngine.isReachable, ?_, ?_, ?_, ?_⟩ <;> decide +kernel

end Engine

end ExtensionHost
