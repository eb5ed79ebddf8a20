import ExtensionHost.Proofs.Engine.Isolation
import ExtensionHost.Proofs.Engine.Recovery
import ExtensionHost.Proofs.Factory.Pools
import ExtensionHost.Proofs.Guest.Untouched

/-!
# The ceiling of memory

The memory of a guest grows on request of the guest and in no other way.  It is asked for in start
functions, in allocators, in entry points, in callbacks and in the counters of the heap alike, and
every request goes through the limit of the settings.  This file follows the size of memory through
all of these.

**Where memory could shrink.**  No event of a run makes memory smaller, so sizes only climb for as
long as a guest is in place (`Climbs`).  A roll-back replaces the guest: the new one climbs from
nothing to the size that the loaded one had, as it did when it was loaded, and what is laid over it
does not make it larger, since it is the very guest that was captured.

## Main definitions

* `Climbs`, sizes that never fall, below a ceiling
* `GuestModule.prepareGuests`, the guests on the way to a module, and `Engine.guestsOf`, those in
  the course of an operation

## Main results

* `Guest.Leads.climbs`, the sizes of a history
* `GuestModule.climbs_prepareGuests`, the sizes in the course of loading
* `Engine.Continues.passage_perform`, the sizes in the course of an operation
* `Engine.memory_stays_below_the_ceiling`
-/

namespace ExtensionHost

open Guest

/-! ### Sizes -/

/-- Sizes of a memory, from one on, through some, to another: they never fall, they stay below a
ceiling, and they are sizes of whole pages. -/
structure Climbs (ceiling low : Nat) (sizes : List Nat) (high : Nat) : Prop where
  /-- They never fall. -/
  sorted : (low :: sizes ++ [high]).Pairwise (· ≤ ·)
  /-- They stay below the ceiling. -/
  within : ∀ n ∈ low :: sizes ++ [high], n ≤ ceiling
  /-- They are sizes of whole pages. -/
  whole : ∀ n ∈ low :: sizes ++ [high], pageSize ∣ n

namespace Climbs

variable {ceiling low mid high : Nat} {sizes more : List Nat}

theorem single (h : low ≤ ceiling) (hwhole : pageSize ∣ low) : Climbs ceiling low [] low := by
  constructor <;> simp [h, hwhole]

theorem le (h : Climbs ceiling low sizes high) : low ≤ high :=
  (List.pairwise_cons.mp h.sorted).1 high (List.mem_append_right _ List.mem_cons_self)

theorem low_mem (low high : Nat) (sizes : List Nat) : low ∈ low :: sizes ++ [high] :=
  List.mem_cons_self

/-- Climbs one after the other are a climb. -/
theorem append (first : Climbs ceiling low sizes mid) (second : Climbs ceiling mid more high) :
    Climbs ceiling low (sizes ++ more) high := by
  have hmem {n : Nat} (hn : n ∈ low :: (sizes ++ more) ++ [high]) :
      n ∈ low :: sizes ++ [mid] ∨ n ∈ mid :: more ++ [high] := by
    simp only [List.cons_append, List.append_assoc, List.mem_cons, List.mem_append] at hn ⊢
    grind
  refine ⟨?_, fun n hn => (hmem hn).elim (first.within n) (second.within n),
    fun n hn => (hmem hn).elim (first.whole n) (second.whole n)⟩
  obtain ⟨hfirst, -, hmid⟩ := List.pairwise_append.mp first.sorted
  obtain ⟨hhigh, hsecond⟩ := List.pairwise_cons.mp second.sorted
  rw [← List.cons_append, List.append_assoc, List.pairwise_append]
  exact ⟨hfirst, hsecond, fun a ha b hb =>
    Nat.le_trans (hmid a ha mid List.mem_cons_self) (hhigh b hb)⟩

/-- A climb may begin at a smaller size. -/
theorem cons (h : Climbs ceiling mid sizes high) (hle : low ≤ mid) (hwhole : pageSize ∣ low) :
    Climbs ceiling low (mid :: sizes) high := by
  have hmid := h.within mid (low_mem ..)
  refine append (?_ : Climbs ceiling low [mid] mid) h
  constructor
  · simp [hle]
  · simp [hmid, Nat.le_trans hle hmid]
  · simp [hwhole, h.whole mid (low_mem ..)]

end Climbs

theorem Memory.pageSize_dvd_size (m : Memory) : pageSize ∣ m.size := Nat.dvd_mul_left ..

/-! ### Runs -/

namespace Guest

variable {σ : Type} {sandbox : Sandbox σ} {s t : Machine σ} {notes : List (Note σ)}

/-- Through a history the size of memory climbs. -/
theorem Leads.climbs (h : Leads sandbox s notes t) (hs : s.guest.IsSound sandbox.memoryLimit) :
    Climbs sandbox.memoryLimit s.guest.memory.size
      (notes.map fun n => n.after.guest.memory.size) t.guest.memory.size := by
  induction h with
  | nil s => exact .single hs.within (Memory.pageSize_dvd_size _)
  | cons hn h ih =>
    exact (ih (hn.isSound hs)).cons hn.size_le (Memory.pageSize_dvd_size _)

/-- A request with which memory would pass the limit is answered with the word for failure, and the
memory stays as it is. -/
theorem Statement.run_growMemory_of_refused (call : Enter σ) {frame : Frame} {extra : Expression}
    (answer : Option Register) {w : UInt64} (he : extra.eval frame s.guest = .ok w)
    (hs : s.guest.memory.size ≤ sandbox.memoryLimit)
    (hpast : sandbox.memoryLimit < (s.guest.memory.pageCount + w.toUInt32.toNat) * pageSize) :
    (Statement.growMemory extra answer).run sandbox call frame s
      = .ok (.next (frame.set? answer growthFailure))
          { s with guest := { s.guest with growthRefused := true } } := by
  have hsome : w.toUInt32.toNat ≠ 0 := by
    intro hzero
    rw [hzero, Nat.add_zero] at hpast
    exact Nat.lt_irrefl _ (Nat.lt_of_le_of_lt hs hpast)
  have heval : evaluateShort frame extra s = .ok w.toUInt32.toNat s := by
    rw [evaluateShort, Run.bind_of_ok (a := w) (t := s) (by rw [evaluate_apply, he]; rfl)]
    rfl
  have hgrow := growMemory_apply sandbox w.toUInt32.toNat s
  rw [if_neg hsome, if_pos hpast] at hgrow
  rw [Statement.run, Run.bind_of_ok heval, Run.bind_of_ok hgrow]
  rfl

end Guest

namespace GuestModule

/-! ### Calls outside invocations -/

/-- The guests that a call in preparation goes through. -/
def quietGuests (sandbox : Sandbox Empty) (exports : Option Exports) (guest : GuestState)
    (function : String) (args : List UInt64) : List GuestState :=
  (quietHistory sandbox exports guest function args).map (·.after.guest)

theorem climbs_quietGuests {sandbox : Sandbox Empty} {guest : GuestState}
    (h : guest.IsSound sandbox.memoryLimit) (exports : Option Exports) (function : String)
    (args : List UInt64) :
    Climbs sandbox.memoryLimit guest.memory.size
      ((quietGuests sandbox exports guest function args).map (·.memory.size))
      (callQuietly sandbox exports guest function args).2.memory.size := by
  rw [callQuietly_snd, quietGuests, List.map_map]
  exact (leads_quietHistory sandbox exports guest function args).climbs h

/-- The guests that a call outside invocations goes through. -/
def callGuests (m : GuestModule) (function : String) : List GuestState :=
  (m.callHistory function).map (·.after.guest)

/-- The guests that reading counters goes through. -/
def counterGuests (m : GuestModule) : List (Exports → String) → List GuestState
  | [] => []
  | counter :: rest =>
    m.callGuests (counter m.exports) ++
      match m.callCounter (counter m.exports) with
      | (.ok _, m) => m.counterGuests rest
      | (.error _, _) => []

namespace Continues

variable {m loaded : GuestModule}

/-- In the course of a call outside invocations memory climbs. -/
theorem climbs_callGuests (h : m.Continues loaded) (function : String) :
    Climbs loaded.config.memoryLimitBytes.toNat m.memorySize
      ((m.callGuests function).map (·.memory.size)) (m.callExport function).2.memorySize := by
  have hsound : m.guest.IsSound m.config.memoryLimitBytes.toNat := h.comesFrom.config ▸ h.sound
  have hclimbs := (m.leads_callHistory function).climbs hsound
  rw [snd_callExport, callGuests, List.map_map]
  rwa [sandbox, h.comesFrom.config] at hclimbs

/-- Reading counters, memory climbs from counter to counter. -/
theorem climbs_counterGuests (h : m.Continues loaded) (counters : List (Exports → String)) :
    Climbs loaded.config.memoryLimitBytes.toNat m.memorySize
      ((m.counterGuests counters).map (·.memory.size)) (m.readCounters counters).memorySize := by
  induction counters generalizing m with
  | nil => exact .single h.sound.within (Memory.pageSize_dvd_size _)
  | cons counter rest ih =>
    have hfirst := h.climbs_callGuests (counter m.exports)
    have hnext := h.callExport (counter m.exports)
    rw [← snd_callCounter] at hfirst hnext
    rw [counterGuests, readCounters, List.map_append]
    rcases hc : m.callCounter (counter m.exports) with ⟨result, after⟩
    rw [hc] at hfirst hnext
    cases result with
    | ok w => exact hfirst.append (ih hnext)
    | error error =>
      simp only [List.map_nil, List.append_nil]
      exact hfirst

/-- In the course of an invocation memory climbs. -/
theorem climbs_history {σ : Type} (h : m.Continues loaded) (adapter : Adapter σ) (state : σ)
    (function : String) (ticks : Nat) :
    Climbs loaded.config.memoryLimitBytes.toNat m.memorySize
      (((m.history adapter state function ticks).map (·.after.guest)).map (·.memory.size))
      (m.run adapter state function ticks).2.1.memorySize := by
  have hclimbs := (m.leads_history adapter state function ticks).climbs
    (h.isSound_start adapter state ticks)
  rw [guest_run h.unbound, List.map_map]
  rwa [sandbox, h.comesFrom.config] at hclimbs

end Continues

/-! ### Loading -/

/-- A step on the way to a guest: what memory climbs through, and to what if the step succeeds. -/
def Passes (ceiling low : Nat) (guests : List GuestState)
    (result : Except ExtensionError GuestState) : Prop :=
  ∃ high, Climbs ceiling low (guests.map (·.memory.size)) high ∧
    ∀ guest, result = .ok guest → guest.memory.size = high

/-- The guests of a step that follows if another one succeeds. -/
def guestsAfter {α : Type} (x : Except ExtensionError α) (guests : α → List GuestState) :
    List GuestState :=
  match x with
  | .ok a => guests a
  | .error _ => []

theorem Passes.bind {ceiling low : Nat} {guests : List GuestState}
    {x : Except ExtensionError GuestState} {more : GuestState → List GuestState}
    {f : GuestState → Except ExtensionError GuestState} (hx : Passes ceiling low guests x)
    (hf : ∀ guest, x = .ok guest → Passes ceiling guest.memory.size (more guest) (f guest)) :
    Passes ceiling low (guests ++ guestsAfter x more) (x >>= f) := by
  obtain ⟨mid, hclimbs, hmid⟩ := hx
  cases x with
  | error e =>
    rw [guestsAfter, List.append_nil]
    refine ⟨mid, hclimbs, fun guest heq => ?_⟩
    cases heq
  | ok guest =>
    obtain ⟨high, hmore, hhigh⟩ := hf guest rfl
    refine ⟨high, ?_, hhigh⟩
    rw [List.map_append]
    exact hclimbs.append (hmid guest rfl ▸ hmore)

variable (package : String) (program : Program) (config : EngineConfig)

/-- The guests that the start function goes through. -/
def startGuests (guest : GuestState) : List GuestState :=
  match program.start with
  | none => []
  | some start => quietGuests (quietSandbox package program config) none guest start []

/-- The guests that the probe and the allocator go through. -/
def probeGuests (exports : Exports) (guest : GuestState) : List GuestState :=
  let sandbox := quietSandbox package program config
  quietGuests sandbox (some exports) guest exports.abiVersion [] ++
    guestsAfter (probeVersion package program config exports guest) fun guest =>
      quietGuests sandbox (some exports) guest exports.malloc
        [config.preallocatedBufferSize.toUInt64]

/-- The guests on the way to a module: as it is set up, in its start function, in the probe of the
version and in its allocator. -/
def prepareGuests : List GuestState :=
  guestsAfter (setUp program config) (fun guest =>
    guest :: startGuests package program config guest) ++
  guestsAfter (instantiate package program config) fun guest =>
    guestsAfter (resolveExports program) fun exports =>
      probeGuests package program config exports guest

variable {package program config}

theorem isSound_of_setUp {guest : GuestState} (h : setUp program config = .ok guest) :
    guest.IsSound config.memoryLimitBytes.toNat := by
  simp only [setUp, bind_eq_ok_iff] at h
  obtain ⟨_, -, memory, hmemory, tableSize, -, written, hwritten, h⟩ := h
  cases h
  refine ⟨?_, fun b hb => absurd hb List.not_mem_nil⟩
  show written.size ≤ _
  rw [Memory.size_eq_of_pageCount_eq (pageCount_writeSegments hwritten)]
  exact size_initialMemory hmemory

theorem passes_start {guest : GuestState}
    (h : guest.IsSound (quietSandbox package program config).memoryLimit) :
    Passes config.memoryLimitBytes.toNat guest.memory.size
      (startGuests package program config guest) (runStart package program config guest) := by
  rw [startGuests, runStart]
  cases program.start with
  | none =>
    refine ⟨_, .single h.within (Memory.pageSize_dvd_size _), fun guest heq => ?_⟩
    rw [Except.ok.inj heq]
  | some start =>
    refine ⟨_, climbs_quietGuests h none start [], fun guest heq => ?_⟩
    dsimp only at heq
    split at heq
    · rename_i hcall
      rw [hcall, Except.ok.inj heq]
    · cases heq

theorem passes_probe {guest : GuestState}
    (h : guest.IsSound (quietSandbox package program config).memoryLimit) (exports : Exports) :
    Passes config.memoryLimitBytes.toNat guest.memory.size
      (quietGuests (quietSandbox package program config) (some exports) guest exports.abiVersion [])
      (probeVersion package program config exports guest) := by
  refine ⟨_, climbs_quietGuests h _ _ _, fun guest heq => ?_⟩
  rw [probeVersion] at heq
  split at heq
  · rename_i hcall
    rw [hcall, Except.ok.inj heq]
  · cases heq

theorem passes_preallocate {guest : GuestState}
    (h : guest.IsSound (quietSandbox package program config).memoryLimit) (exports : Exports) :
    Passes config.memoryLimitBytes.toNat guest.memory.size
      (quietGuests (quietSandbox package program config) (some exports) guest exports.malloc
        [config.preallocatedBufferSize.toUInt64])
      (preallocate package program config exports guest) := by
  refine ⟨_, climbs_quietGuests h _ _ _, fun guest heq => ?_⟩
  rw [preallocate] at heq
  split at heq
  · cases heq
  · rename_i hcall
    dsimp only at heq
    split at heq
    · cases heq
    · rw [hcall, ← Except.ok.inj heq]

/-- **Loading.**  On the way to a module memory climbs, below the ceiling, to the size that the
module has when it is loaded. -/
theorem climbs_prepareGuests (package : String) (program : Program) (config : EngineConfig) :
    Passes config.memoryLimitBytes.toNat 0 (prepareGuests package program config)
      ((prepare package program config).map Prod.fst) := by
  have hsetUp : Passes config.memoryLimitBytes.toNat 0
      (guestsAfter (setUp program config) fun guest =>
        guest :: startGuests package program config guest)
      (instantiate package program config) := by
    rw [instantiate_eq]
    cases hguest : setUp program config with
    | error e =>
      refine ⟨0, .single (Nat.zero_le _) (Nat.dvd_zero _), fun guest heq => ?_⟩
      cases heq
    | ok guest =>
      have hsound : guest.IsSound (quietSandbox package program config).memoryLimit :=
        isSound_of_setUp hguest
      obtain ⟨high, hclimbs, hhigh⟩ := passes_start hsound
      exact ⟨high, hclimbs.cons (Nat.zero_le _) (Nat.dvd_zero _), hhigh⟩
  have hprepare : (prepare package program config).map Prod.fst
      = instantiate package program config >>= fun guest =>
        resolveExports program >>= fun exports =>
        probeVersion package program config exports guest >>= fun guest =>
        preallocate package program config exports guest := by
    rw [prepare]
    cases instantiate package program config with
    | error e => rfl
    | ok guest =>
      show Except.map Prod.fst (resolveExports program >>= _) = resolveExports program >>= _
      cases resolveExports program with
      | error e => rfl
      | ok exports =>
        show Except.map Prod.fst (probeVersion package program config exports guest >>= _)
          = probeVersion package program config exports guest >>= _
        cases probeVersion package program config exports guest with
        | error e => rfl
        | ok guest =>
          show Except.map Prod.fst (preallocate package program config exports guest >>= _)
            = preallocate package program config exports guest
          cases preallocate package program config exports guest <;> rfl
  rw [prepareGuests, hprepare]
  refine hsetUp.bind fun guest hguest => ?_
  have htame := isTame_of_instantiate hguest
  cases resolveExports program with
  | error e =>
    refine ⟨_, .single htame.sound.within (Memory.pageSize_dvd_size _), fun guest heq => ?_⟩
    cases heq
  | ok exports =>
    refine (passes_probe htame.sound exports).bind fun probed hprobed => ?_
    exact passes_preallocate (isTame_of_probeVersion hprobed htame).sound exports

/-- A loop over a list fails as one of the members does. -/
theorem error_of_forM {ε α : Type} {f : α → Except ε PUnit} {l : List α} {e : ε}
    (h : l.forM f = .error e) : ∃ a ∈ l, f a = .error e := by
  induction l with
  | nil => cases h
  | cons a l ih =>
    have h : (f a >>= fun _ => l.forM f) = .error e := h
    cases ha : f a with
    | ok u =>
      rw [ha] at h
      obtain ⟨b, hb, hfb⟩ := ih h
      exact ⟨b, List.mem_cons_of_mem _ hb, hfb⟩
    | error e' =>
      rw [ha] at h
      cases h
      exact ⟨a, List.mem_cons_self, ha⟩

/-- A program whose memory starts above the ceiling cannot be loaded. -/
theorem load_of_initialMemory {names : List String}
    (h : config.memoryLimitBytes.toNat < (program.memory.map (·.minimum)).getD 0 * pageSize) :
    ∃ reason, load package names program config = .error (.instantiation reason) := by
  have hmemory : ∃ reason, initialMemory program config = .error (.instantiation reason) := by
    rw [initialMemory, if_neg (Nat.not_le.mpr h)]
    exact ⟨_, rfl⟩
  obtain ⟨reason, hmemory⟩ := hmemory
  have hlink : ∀ e, link program = .error e → ∃ reason, e = .instantiation reason := by
    intro e he
    obtain ⟨decl, -, he⟩ := error_of_forM he
    split at he
    · cases he
    · cases he
      exact ⟨_, rfl⟩
  rw [load, prepare, instantiate]
  cases hl : link program with
  | error e =>
    obtain ⟨reason, rfl⟩ := hlink e hl
    exact ⟨reason, rfl⟩
  | ok _ =>
    rw [hmemory]
    exact ⟨reason, rfl⟩

end GuestModule

/-! ### Operations -/

namespace Engine

/-- The guests that the module of a package goes through in the course of an operation, as long as
it is in place.  A roll-back that follows has guests of its own (`GuestModule.prepareGuests`). -/
def guestsOf (e : Engine) (package : String) : Operation → List GuestState
  | .invoke now p extension context client =>
    match e.resolve p extension, e.ticksAt now context with
    | .ok (m, function), .ok (some ticks) =>
      if p = package then
        (m.history client.adapter client.state function ticks).map (·.after.guest)
      else []
    | _, _ => []
  | .heapStats p =>
    match e.module? p with
    | some m => if p = package then m.counterGuests GuestModule.heapCounters else []
    | none => []
  | .collect p =>
    match e.module? p with
    | some m => if p = package then m.callGuests m.exports.heapGc else []
    | none => []
  | _ => []

/-- What memory climbs through in the course of an operation, and to what: to the size that the
module has afterwards, or else to the size that it had when it was rolled back to the size it was
loaded with. -/
structure Passage (e : Engine) (package : String) (op : Operation) (ceiling : Nat)
    (m loaded m' : GuestModule) : Prop where
  /-- The module stays in place. -/
  kept : (¬ ∃ broken, op.Restores e package broken) →
    Climbs ceiling m.memorySize ((e.guestsOf package op).map (·.memory.size)) m'.memorySize
  /-- The module is rolled back. -/
  restored : ∀ broken, op.Restores e package broken →
    Climbs ceiling m.memorySize ((e.guestsOf package op).map (·.memory.size)) broken.memorySize ∧
      m'.memorySize = loaded.memorySize

variable {e fresh : Engine} {package : String} {m loaded m' : GuestModule}

theorem module?_withModule {α : Type} (hm : e.module? package = some m)
    (f : GuestModule → Except ExtensionError α × GuestModule) :
    (e.withModule package f).2.module? package = some (f m).2 := by
  rw [withModule, hm]
  exact (module?_putModule ..).trans (if_pos rfl)

/-- An operation that does not name a package leaves its module as it is, or releases it. -/
theorem module?_of_perform {op : Operation} (hop : op.package? ≠ some package)
    (h : (e.perform op).2.module? package = some m) : e.module? package = some m := by
  cases hp : op.package? with
  | some p =>
    rw [← h]
    exact ((changesOnly_perform e hp).module? package fun heq => hop (heq ▸ hp)).symm
  | none =>
    cases op with
    | setLimits limits => exact h
    | close => cases h
    | _ => cases hp

/-- No operation makes a module out of nothing. -/
theorem module?_perform_of_none (hnone : e.module? package = none) (op : Operation) :
    (e.perform op).2.module? package = none := by
  by_cases hop : op.package? = some package
  · cases op with
    | invoke now p extension context client =>
      obtain rfl : p = package := Option.some.inj hop
      have hnot : ∀ m function ticks, ¬ e.Enters now p extension context m function ticks :=
        fun m function ticks henters => nomatch henters.module?.symm.trans hnone
      obtain ⟨f, hengine⟩ := invoke_of_not_enters hnot client.adapter client.state
      show (e.invoke now p extension context client.adapter client.state).engine.module? p = none
      rw [hengine]
      exact hnone
    | heapStats p | collect p =>
      obtain rfl : p = package := Option.some.inj hop
      show (e.withModule p _).2.module? p = none
      rw [withModule, hnone]
      exact hnone
    | recover p =>
      obtain rfl : p = package := Option.some.inj hop
      show (e.recover p).2.module? p = none
      rw [recover, hnone]
      exact hnone
    | setLimits | close => cases hop
  · cases hm : (e.perform op).2.module? package with
    | none => rfl
    | some m => cases (module?_of_perform hop hm).symm.trans hnone

theorem package?_of_restores {op : Operation} (h : op.Restores e package m) :
    op.package? = some package := by
  cases h <;> rfl

/-- An operation that does nothing in the guest keeps the size of its memory. -/
theorem Passage.of_eq {op : Operation} {ceiling : Nat} (hguests : e.guestsOf package op = [])
    (hnot : ¬ ∃ broken, op.Restores e package broken) (hsize : m'.memorySize = m.memorySize)
    (hle : m.memorySize ≤ ceiling) : Passage e package op ceiling m loaded m' := by
  refine ⟨fun _ => ?_, fun broken h => absurd ⟨broken, h⟩ hnot⟩
  rw [hguests, hsize]
  exact .single hle (Memory.pageSize_dvd_size _)

/-- Nothing happens to the guest of a package that an operation does not name. -/
theorem guestsOf_of_ne {op : Operation} (h : op.package? ≠ some package) :
    e.guestsOf package op = [] := by
  cases op with
  | invoke now p extension context client =>
    have hne : ¬ p = package := fun heq => h (congrArg some heq)
    simp only [guestsOf, if_neg hne]
    split <;> rfl
  | heapStats p =>
    have hne : ¬ p = package := fun heq => h (congrArg some heq)
    simp only [guestsOf, if_neg hne]
    split <;> rfl
  | collect p =>
    have hne : ¬ p = package := fun heq => h (congrArg some heq)
    simp only [guestsOf, if_neg hne]
    split <;> rfl
  | recover | setLimits | close => rfl

namespace Continues

/-- The size of memory in the course of an invocation that enters the guest. -/
theorem passage_invoke (h : e.Continues fresh) (hfresh : fresh.IsFresh)
    (hloaded : fresh.module? package = some loaded) (hcontinues : m.Continues loaded)
    {now : Instant} {extension : String} {context : Context} {client : Client} {function : String}
    {ticks : Nat} (henters : e.Enters now package extension context m function ticks)
    (hm' : (e.perform (.invoke now package extension context client)).2.module? package = some m') :
    Passage e package (.invoke now package extension context client)
      loaded.config.memoryLimitBytes.toNat m loaded m' := by
  have hclimbs := hcontinues.climbs_history client.adapter client.state function ticks
  have hguests : e.guestsOf package (.invoke now package extension context client)
      = (m.history client.adapter client.state function ticks).map (·.after.guest) := by
    simp only [guestsOf, henters.resolve, henters.ticks, if_true]
  rw [← hguests] at hclimbs
  refine ⟨fun hnot => ?_, fun broken hrestores => ?_⟩
  · rw [module?_perform_of_kept henters hnot] at hm'
    exact Option.some.inj hm' ▸ hclimbs
  · have hrestore := (hfresh.isLoaded hloaded).1.restore_eq
      (continues_of_restores h hloaded hrestores).comesFrom
    have hafter := module?_perform_of_restores hrestores hrestore
    rw [hafter] at hm'
    refine ⟨?_, Option.some.inj hm' ▸ rfl⟩
    cases hrestores with
    | failed henters' hfails hauto =>
      obtain ⟨rfl, rfl⟩ := Prod.mk.inj (Except.ok.inj (henters'.resolve.symm.trans henters.resolve))
      obtain rfl := Option.some.inj (Except.ok.inj (henters'.ticks.symm.trans henters.ticks))
      exact hclimbs

/-- An invocation that does not enter the guest does nothing in it. -/
theorem passage_of_not_enters (hm : e.module? package = some m) {ceiling : Nat}
    (hle : m.memorySize ≤ ceiling) {now : Instant} {extension : String} {context : Context}
    (hnot : ∀ m function ticks, ¬ e.Enters now package extension context m function ticks)
    {client : Client}
    (hm' : (e.perform (.invoke now package extension context client)).2.module? package = some m') :
    Passage e package (.invoke now package extension context client) ceiling m loaded m' := by
  obtain ⟨f, hengine⟩ := invoke_of_not_enters hnot client.adapter client.state
  have hsame : (e.perform (.invoke now package extension context client)).2.module? package
      = some m := by
    show (e.invoke now package extension context client.adapter client.state).engine.module?
      package = _
    rw [hengine]
    exact hm
  refine .of_eq ?_ ?_ ?_ hle
  · rw [guestsOf]
    split
    · rename_i hresolve hticks
      exact absurd ⟨hresolve, hticks⟩ (hnot _ _ _)
    · rfl
  · rintro ⟨broken, hrestores⟩
    cases hrestores with
    | failed henters => exact hnot _ _ _ henters
  · rw [Option.some.inj (hm'.symm.trans hsame)]

/-- A module that is rolled back on request has the size that it was loaded with. -/
theorem passage_recover (h : e.Continues fresh) (hfresh : fresh.IsFresh)
    (hloaded : fresh.module? package = some loaded) (hm : e.module? package = some m)
    {ceiling : Nat} (hle : m.memorySize ≤ ceiling)
    (hm' : (e.perform (.recover package)).2.module? package = some m') :
    Passage e package (.recover package) ceiling m loaded m' := by
  refine ⟨fun hnot => absurd ⟨m, .recover hm⟩ hnot, fun broken hbroken => ?_⟩
  have hrestore := (hfresh.isLoaded hloaded).1.restore_eq
    (continues_of_restores h hloaded hbroken).comesFrom
  rw [module?_perform_of_restores hbroken hrestore] at hm'
  refine ⟨?_, Option.some.inj hm' ▸ rfl⟩
  cases hbroken with
  | recover hm₀ =>
    obtain rfl := Option.some.inj (hm₀.symm.trans hm)
    exact .single hle (Memory.pageSize_dvd_size _)

/-- **The size of memory in the course of an operation.** -/
theorem passage_perform (h : e.Continues fresh) (hfresh : fresh.IsFresh)
    (hloaded : fresh.module? package = some loaded) (hm : e.module? package = some m)
    (hcontinues : m.Continues loaded) {op : Operation}
    (hm' : (e.perform op).2.module? package = some m') :
    Passage e package op loaded.config.memoryLimitBytes.toNat m loaded m' := by
  have hwithin : m.memorySize ≤ loaded.config.memoryLimitBytes.toNat := hcontinues.sound.within
  by_cases hop : op.package? = some package
  · cases op with
    | invoke now p extension context client =>
      obtain rfl : p = package := Option.some.inj hop
      by_cases henters : ∃ m function ticks, e.Enters now p extension context m function ticks
      · obtain ⟨m₀, function, ticks, henters⟩ := henters
        obtain rfl : m₀ = m := Option.some.inj (henters.module?.symm.trans hm)
        exact h.passage_invoke hfresh hloaded hcontinues henters hm'
      · exact passage_of_not_enters hm hwithin
          (fun m function ticks hentered => henters ⟨m, function, ticks, hentered⟩) hm'
    | heapStats p =>
      obtain rfl : p = package := Option.some.inj hop
      have hafter : (e.perform (.heapStats p)).2.module? p = some m.heapStats.2 :=
        module?_withModule hm GuestModule.heapStats
      refine ⟨fun _ => ?_, fun broken hrestores => nomatch hrestores⟩
      rw [Option.some.inj (hm'.symm.trans hafter), GuestModule.snd_heapStats]
      simp only [guestsOf, hm, if_true]
      exact hcontinues.climbs_counterGuests _
    | collect p =>
      obtain rfl : p = package := Option.some.inj hop
      have hafter : (e.perform (.collect p)).2.module? p = some m.collect.2 :=
        module?_withModule hm GuestModule.collect
      refine ⟨fun _ => ?_, fun broken hrestores => nomatch hrestores⟩
      rw [Option.some.inj (hm'.symm.trans hafter)]
      show Climbs _ _ _ m.collect.2.guest.memory.size
      rw [GuestModule.snd_collect]
      simp only [guestsOf, hm, if_true]
      exact hcontinues.climbs_callGuests _
    | recover p =>
      obtain rfl : p = package := Option.some.inj hop
      exact h.passage_recover hfresh hloaded hm hwithin hm'
    | setLimits limits => cases hop
    | close => cases hop
  · have hsame := Option.some.inj ((module?_of_perform hop hm').symm.trans hm)
    exact .of_eq (guestsOf_of_ne hop) (fun ⟨broken, hb⟩ => hop (package?_of_restores hb))
      (hsame ▸ rfl) hwithin

end Continues

/-- An engine in the course of operations whose modules have at least the memory that they were
loaded with. -/
def StaysAbove (e fresh : Engine) : Prop :=
  e.Continues fresh ∧ ∀ package m loaded, e.module? package = some m →
    fresh.module? package = some loaded → loaded.memorySize ≤ m.memorySize

theorem StaysAbove.perform (h : e.StaysAbove fresh) (hfresh : fresh.IsFresh) (op : Operation) :
    (e.perform op).2.StaysAbove fresh := by
  refine ⟨h.1.perform hfresh op, fun package m' loaded hm' hloaded => ?_⟩
  cases hm : e.module? package with
  | none =>
    rw [module?_perform_of_none hm] at hm'
    cases hm'
  | some m =>
    obtain ⟨loaded', hloaded', hcontinues⟩ := h.1.modules package m hm
    obtain rfl := Option.some.inj (hloaded'.symm.trans hloaded)
    have hpassage := h.1.passage_perform hfresh hloaded hm hcontinues hm'
    by_cases hrestores : ∃ broken, op.Restores e package broken
    · obtain ⟨broken, hbroken⟩ := hrestores
      exact Nat.le_of_eq (hpassage.restored broken hbroken).2.symm
    · exact Nat.le_trans (h.2 package m loaded' hm hloaded) (hpassage.kept hrestores).le

theorem StaysAbove.performAll (h : e.StaysAbove fresh) (hfresh : fresh.IsFresh)
    (ops : List Operation) : (e.performAll ops).StaysAbove fresh := by
  induction ops generalizing e with
  | nil => exact h
  | cons op ops ih => exact ih (h.perform hfresh op)

/-- **Memory stays below the ceiling.**  Take an engine as a factory builds it, and any operations.
The ceiling is the memory limit of the settings, which is at most `0xFFFF` pages.

A module has at least the memory that it was loaded with, and at most the ceiling.  Through any
operation that follows, at every moment of what the guest runs, memory climbs in whole pages, and is
left as it has become; unless the operation rolls the module back, and then the module has the very
size that it was loaded with.  A guest that is prepared under the same settings, be it for loading
or for a roll-back, climbs below the ceiling as well, through its start function, the probe and its
allocator.

A request for memory that would pass the ceiling leaves memory as it is and is answered with the
word for failure, wherever it is made.  A program whose memory starts above the ceiling is not
loaded. -/
theorem memory_stays_below_the_ceiling (hfresh : fresh.IsFresh) (ops : List Operation) :
    let e := fresh.performAll ops
    let ceiling := pageSize * fresh.config.effectiveMemoryLimitPages.toNat
    ceiling ≤ pageSize * 0xFFFF ∧
    (∀ package m, e.module? package = some m → ∃ loaded, fresh.module? package = some loaded ∧
      m.config = fresh.config ∧ Climbs ceiling loaded.memorySize [] m.memorySize ∧
      ∀ op m', (e.perform op).2.module? package = some m' →
        Passage e package op ceiling m loaded m') ∧
    (∀ package program,
      GuestModule.Passes ceiling 0 (GuestModule.prepareGuests package program fresh.config)
        ((GuestModule.prepare package program fresh.config).map Prod.fst)) ∧
    (∀ {σ : Type} (sandbox : Sandbox σ) call frame extra answer (s : Machine σ) w,
      sandbox.memoryLimit = ceiling → extra.eval frame s.guest = .ok w →
      s.guest.memory.size ≤ ceiling →
      ceiling < (s.guest.memory.pageCount + w.toUInt32.toNat) * pageSize →
      (Statement.growMemory extra answer).run sandbox call frame s
        = .ok (.next (frame.set? answer growthFailure))
            { s with guest := { s.guest with growthRefused := true } }) ∧
    ∀ package names program, ceiling < (program.memory.map (·.minimum)).getD 0 * pageSize →
      ∃ reason, GuestModule.load package names program fresh.config
        = .error (.instantiation reason) := by
  intro e ceiling
  have hceiling : ceiling = fresh.config.memoryLimitBytes.toNat :=
    fresh.config.toNat_memoryLimitBytes.symm
  have habove : e.StaysAbove fresh := by
    refine StaysAbove.performAll ⟨.refl hfresh, fun package m loaded hm hloaded => ?_⟩ hfresh ops
    exact Nat.le_of_eq (Option.some.inj (hm.symm.trans hloaded) ▸ rfl)
  obtain ⟨hcontinues, hle⟩ := habove
  refine ⟨?_, fun package m hm => ?_, fun package program => ?_,
    fun sandbox call frame extra answer s w hlimit he hs hpast => ?_,
    fun package names program hpast => ?_⟩
  · exact Nat.mul_le_mul_left _ (EngineConfig.effectiveMemoryLimitPages_le hfresh.validate_config)
  · obtain ⟨loaded, hloaded, hm'⟩ := hcontinues.modules package m hm
    have hconfig : loaded.config = fresh.config := (hfresh.isLoaded hloaded).2.2
    rw [hceiling, ← hconfig]
    refine ⟨loaded, hloaded, hm'.comesFrom.config, ?_, fun op after hafter => ?_⟩
    · have hsize := hle package m loaded hm hloaded
      have hwithin : m.memorySize ≤ loaded.config.memoryLimitBytes.toNat := hm'.sound.within
      constructor
      · simp [hsize]
      · simp [hwithin, Nat.le_trans hsize hwithin]
      · simp [GuestModule.memorySize, Memory.pageSize_dvd_size]
    · exact hcontinues.passage_perform hfresh hloaded hm hm' hafter
  · rw [hceiling]
    exact GuestModule.climbs_prepareGuests package program fresh.config
  · rw [← hlimit] at hs hpast
    exact Statement.run_growMemory_of_refused call answer he hs hpast
  · rw [hceiling] at hpast
    exact GuestModule.load_of_initialMemory hpast

/-- The ceiling of the sample engine is two pages, of which its guest has one. -/
theorem memory_stays_below_the_ceiling_sample :
    Sample.module.memorySize = pageSize ∧
      Climbs (2 * pageSize) Sample.module.memorySize [] Sample.greetedModule.memorySize ∧
      ∃ reason, GuestModule.load "large" [] { Program.empty with memory := some ⟨3, none, none⟩ }
        Sample.engine.config = .error (.instantiation reason) := by
  obtain ⟨-, hmodules, -, -, hload⟩ :=
    memory_stays_below_the_ceiling Sample.isFresh_engine Sample.greeting
  have hpages : Sample.engine.config.effectiveMemoryLimitPages.toNat = 2 := by decide +kernel
  rw [hpages] at hmodules hload
  obtain ⟨loaded, hloaded, -, hclimbs, -⟩ := hmodules "sample" _ Sample.module?_greeted
  obtain rfl := Option.some.inj (hloaded.symm.trans Sample.module?_engine)
  exact ⟨by decide +kernel, hclimbs, hload "large" [] _ (by decide)⟩

end Engine

end ExtensionHost
