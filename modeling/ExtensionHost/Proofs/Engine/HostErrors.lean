import ExtensionHost.Proofs.Bridge.Inquiry
import ExtensionHost.Proofs.Engine.Classification
import ExtensionHost.Proofs.Engine.Fields

/-!
# How errors of the host surface

An invocation may end because the adapter declined what a host function asked for, or because the
guest gave up with a message.  The error comes from the innermost host function that fails with it,
and passes functions of the guest, the adapter's own iteration and the classification of the
failure. Callers get the adapter's error, or the message, as it was.

There is one exception.  Once memory was refused in the course of an invocation, any failure of it
is told as a shortage of memory, also where the guest coped with the refusal and failed for a reason
of its own.  What is left of the error is its wording.

## Main definitions

* `GuestModule.origin?`, the call of a host function that the error of an invocation comes from
* `Engine.Surfaces`, how this error shows in the answer

## Main results

* `Engine.host_errors_surface`
* `Engine.refusals_hide_host_errors`, the exception
-/

namespace ExtensionHost

open Guest

variable {σ : Type}

namespace GuestModule

variable (m : GuestModule) (adapter : Adapter σ) (state : σ) (function : String) (ticks : Nat)

/-- The call of a host function that the error comes from which an invocation fails with. -/
def origin? : Option (HostCall σ) :=
  (m.sandbox adapter).origin function [] (m.start state ticks)

/-- An invocation fails with an error of the host if its origin does. -/
theorem failure?_eq_host_iff {e : ExtensionError} :
    m.failure? adapter state function ticks = some (.host e) ↔
      ∃ call, m.origin? adapter state function ticks = some call ∧
        call.failure? (m.sandbox adapter) = some (.host e) := by
  have htraces := Sandbox.traces_origin (m.sandbox adapter) function []
  constructor
  · intro hfails
    obtain ⟨call, hcall⟩ := Option.isSome_iff_exists.mp (htraces.complete _ e hfails)
    obtain ⟨-, e', he', hraises⟩ := htraces.sound _ call hcall
    rw [failure?, he'] at hfails
    cases hfails
    exact ⟨call, hcall, hraises⟩
  · rintro ⟨call, hcall, hraises⟩
    obtain ⟨-, e', he', hraises'⟩ := htraces.sound _ call hcall
    rw [hraises'] at hraises
    cases hraises
    exact he'

end GuestModule

namespace Engine

/-- How the error of the host that an invocation fails with shows in its answer, by where the error
comes from. -/
structure Surfaces (sandbox : Sandbox σ) (history : List (Note σ)) (origin? : Option (HostCall σ))
    (failure? : Option Failure) (result : Except ExtensionError Unit) : Prop where
  /-- The history tells of the origin. -/
  told : ∀ call, origin? = some call → call.note ∈ history
  /-- The error does not come from further within. -/
  innermost : ∀ call, origin? = some call → call.IsInnermost sandbox
  /-- A run fails with an error of the host if its origin does. -/
  origin : ∀ e, failure? = some (.host e) ↔
    ∃ call, origin? = some call ∧ call.failure? sandbox = some (.host e)
  /-- What the adapter answered shows, unless memory was refused. -/
  declined : ∀ call e, origin? = some call → call.Declined sandbox e →
    (∀ n ∈ history, ¬ n.IsRefusal sandbox.memoryLimit) → result = .error (.state e)
  /-- The message of the guest shows, unless memory was refused. -/
  message : ∀ call message, origin? = some call → call.GivesUp message →
    (∀ n ∈ history, ¬ n.IsRefusal sandbox.memoryLimit) → result = .error (.guestPanic message)
  /-- If memory was refused, an error of the host shows in the wording of the answer only. -/
  hidden : ∀ call e, origin? = some call → call.failure? sandbox = some (.host e) →
    (∃ n ∈ history, n.IsRefusal sandbox.memoryLimit) → result = .error (.outOfMemory e.chain)

/-- How errors of the host surface from a run of a module. -/
theorem surfaces_run (m : GuestModule) (adapter : Adapter σ) (state : σ) (function : String)
    (ticks : Nat) :
    Surfaces (m.sandbox adapter) (m.history adapter state function ticks)
      (m.origin? adapter state function ticks) (m.failure? adapter state function ticks)
      (m.run adapter state function ticks).1 := by
  have hrun : ∀ call e, m.origin? adapter state function ticks = some call →
      call.failure? (m.sandbox adapter) = some (.host e) →
      (m.run adapter state function ticks).1 = .error ((Failure.host e).classify
        (m.final adapter state function ticks).guest.growthRefused) := fun call e hcall hraises =>
    GuestModule.fst_run_of_some
      ((m.failure?_eq_host_iff adapter state function ticks).mpr ⟨call, hcall, hraises⟩)
  have hkept : ∀ call e, m.origin? adapter state function ticks = some call →
      call.failure? (m.sandbox adapter) = some (.host e) →
      (∀ n ∈ m.history adapter state function ticks,
        ¬ n.IsRefusal (m.sandbox adapter).memoryLimit) →
      (m.run adapter state function ticks).1 = .error e := by
    intro call e hcall hraises hnone
    rw [hrun call e hcall hraises, GuestModule.growthRefused_final_eq_false hnone]
    rfl
  refine ⟨fun call hcall => ?_, (m.sandbox adapter).isInnermost_origin function [] _,
    fun e => m.failure?_eq_host_iff adapter state function ticks,
    fun call e hcall hdeclined => hkept call _ hcall hdeclined.failure?,
    fun call message hcall hgives => hkept call _ hcall hgives.failure?, ?_⟩
  · exact ((Sandbox.traces_origin (m.sandbox adapter) function []).sound _ call hcall).1
  · intro call e hcall hraises hsome
    rw [hrun call e hcall hraises, (m.growthRefused_final_iff ..).mpr hsome]
    rfl

/-- **Errors of the host surface unchanged.**  Take any invocation that enters the guest.  If it
ends because the adapter answered a host function with an error, callers get this error; and if it
ends because the guest gave up with a message that can be read, callers get this message.  This is
so at whatever depth the host function was called, provided that no memory was refused in the course
of the invocation.  If some was, memory is short for callers, and the error is left in the
wording. -/
theorem host_errors_surface {e : Engine} {now : Instant} {package extension : String}
    {context : Context} {m : GuestModule} {function : String} {ticks : Nat}
    (henters : e.Enters now package extension context m function ticks) (adapter : Adapter σ)
    (state : σ) :
    ∃ result, (e.invoke now package extension context adapter state).outcome = .returned result ∧
      Surfaces (m.sandbox adapter) (m.history adapter state function ticks)
        (m.origin? adapter state function ticks) (m.failure? adapter state function ticks)
        result := by
  obtain ⟨f, hinvoke⟩ := invoke_of_enters henters adapter state
  refine ⟨_, by rw [hinvoke], ?_⟩
  rw [fst_runModule]
  exact surfaces_run m adapter state function ticks

end Engine

namespace Sample

/-- A guest that looks for a value that does not exist: in every row, or after it asked for too much
memory and was told so. -/
def seeker : Program :=
  let seek : Statement := .call "host_must_exist" [.const 7] []
  [Standard.exported "browse" [] [] [.call "host_read_values" [.const 0] []],
    Standard.exported "stretch" [] [] [.growMemory (.const 5) none, seek],
    Standard.exported "on_read_value" [.i64, .i64] [] [seek]].foldl Program.putFunction
      { standard with data := [⟨0, ⟨#[32, 0, 0, 0]⟩⟩] }

/-- An adapter with a single row and no values, which does not mind if an iteration is
interrupted. -/
def shelf : Adapter Unit :=
  { client.adapter with
    readValues _ s := .row ⟨1⟩ ⟨2⟩ s fun _ s => .done (.ok ()) s
    mustExist key s := (.error (.invalidHandle key.id), s) }

/-- The engine. -/
def seekingEngine : Engine :=
  (Factory.firstEngine? ⟨"seeking", config, ⟨0, 0, 0⟩, 0⟩ ⟨[("/seeking", .program seeker)], []⟩
    [⟨"sample", .ofFilePath "/seeking", ["browse", "stretch"]⟩] 1).get (by decide +kernel)

theorem isFresh_seekingEngine : seekingEngine.IsFresh :=
  Engine.isFresh_of_firstEngine? (by decide +kernel) (Option.some_get _).symm

/-- Its module. -/
def seeking : GuestModule := (seekingEngine.module? "sample").get (by decide +kernel)

theorem module?_seekingEngine : seekingEngine.module? "sample" = some seeking :=
  (Option.some_get _).symm

/-- The adapter declines to look for a value. -/
theorem exists_declined_shelf {sandbox : Sandbox Unit} (hadapter : sandbox.adapter = shelf)
    {origin? : Option (HostCall Unit)}
    (horigin : origin?.any (fun call => call.function = .mustExist ∧ call.args = [7] ∧
      call.machine.bound = some ()) = true) :
    ∃ call, origin? = some call ∧ call.Declined sandbox (.invalidHandle 7) := by
  obtain ⟨program, package, limit, adapter⟩ := sandbox
  cases hadapter
  cases origin? with
  | none => cases horigin
  | some call =>
    obtain ⟨depth, f, args, s⟩ := call
    obtain ⟨rfl, rfl, hbound⟩ := of_decide_eq_true horigin
    exact ⟨_, rfl, .asked hbound rfl rfl⟩

end Sample

namespace Engine

/-- The error of a row arrives, although the adapter ends the iteration as if nothing had
happened. -/
theorem host_errors_surface_sample :
    (Sample.seekingEngine.invoke ⟨0⟩ "sample" "browse" .unbounded Sample.shelf ()).outcome
      = .returned (.error (.state (.invalidHandle 7))) := by
  have hentry : Sample.seeking.entry "browse" = .ok "browse" := by decide +kernel
  obtain ⟨call, hcall, hdeclined⟩ := Sample.exists_declined_shelf
    (rfl : (Sample.seeking.sandbox Sample.shelf).adapter = Sample.shelf)
    (by decide +kernel :
      (Sample.seeking.origin? Sample.shelf () "browse" unboundedTicks).any _ = true)
  have hkept : (Sample.seeking.final Sample.shelf () "browse" unboundedTicks).guest.growthRefused
      = false := by
    decide +kernel
  obtain ⟨result, houtcome, hsurfaces⟩ := host_errors_surface
    (Sample.enters Sample.module?_seekingEngine rfl hentry) Sample.shelf ()
  rw [houtcome, hsurfaces.declined call _ hcall hdeclined]
  intro n hn hrefusal
  have hrefused := (GuestModule.growthRefused_final_iff ..).mpr ⟨n, hn, hrefusal⟩
  rw [hkept] at hrefused
  cases hrefused

/-- **Refusals hide errors of the host.**  A guest that copes with a refusal, and then asks for a
value that does not exist, is told to be short of memory. -/
theorem refusals_hide_host_errors :
    Sample.seekingEngine.IsReachable ∧
      ∃ call, Sample.seeking.origin? Sample.shelf () "stretch" unboundedTicks = some call ∧
        call.Declined (Sample.seeking.sandbox Sample.shelf) (.invalidHandle 7) ∧
        (Sample.seekingEngine.invoke ⟨0⟩ "sample" "stretch" .unbounded Sample.shelf ()).outcome
          = .returned (.error
              (.outOfMemory "state error: invalid handle: 7: invalid handle: 7")) := by
  have hentry : Sample.seeking.entry "stretch" = .ok "stretch" := by decide +kernel
  obtain ⟨call, hcall, hdeclined⟩ := Sample.exists_declined_shelf
    (rfl : (Sample.seeking.sandbox Sample.shelf).adapter = Sample.shelf)
    (by decide +kernel :
      (Sample.seeking.origin? Sample.shelf () "stretch" unboundedTicks).any _ = true)
  have hresult : (Sample.seeking.run Sample.shelf () "stretch" unboundedTicks).1
      = .error (.outOfMemory "state error: invalid handle: 7: invalid handle: 7") := by
    decide +kernel
  obtain ⟨f, hinvoke⟩ := invoke_of_enters
    (Sample.enters Sample.module?_seekingEngine rfl hentry) Sample.shelf ()
  refine ⟨Sample.isFresh_seekingEngine.isReachable, call, hcall, hdeclined, ?_⟩
  rw [hinvoke]
  dsimp only
  rw [fst_runModule, hresult]

end Engine

end ExtensionHost
