import ExtensionHost.Module
import ExtensionHost.Proofs.Assoc
import ExtensionHost.Proofs.Config.Validation
import ExtensionHost.Proofs.Guest.Soundness

/-!
# What preparation yields

A program is prepared for invocations by instantiating it, probing it and getting a first staging
buffer from its allocator.  The guest code that runs meanwhile runs without an adapter, so that it
cannot touch the staging buffers: at the end there is the one that was asked for, and nothing of it
was handed out.

## Main definitions

* `GuestState.IsTame`, what quiet calls keep
* `GuestModule.setUp` and `GuestModule.runStart`, the two halves of instantiation
* `GuestModule.Prepared`

## Main results

* `GuestModule.callQuietly_isTame`
* `GuestModule.prepared_of_prepare`
-/

namespace ExtensionHost

open Guest

universe u v

/-- A sequence of steps succeeds if its parts do. -/
theorem bind_eq_ok_iff {ε : Type} {α β : Type u} {x : Except ε α} {f : α → Except ε β} {b : β} :
    (x >>= f) = .ok b ↔ ∃ a, x = .ok a ∧ f a = .ok b := by
  constructor
  · intro h
    cases x with
    | error e => cases h
    | ok a => exact ⟨a, rfl, h⟩
  · rintro ⟨a, rfl, h⟩
    exact h

theorem map_eq_ok_iff {ε : Type} {α : Type u} {β : Type v} {x : Except ε α} {f : α → β} {b : β} :
    x.map f = .ok b ↔ ∃ a, x = .ok a ∧ f a = b := by
  cases x with
  | error e => exact ⟨nofun, nofun⟩
  | ok a => simp [Except.map]

theorem map_eq_error_iff {ε : Type} {α : Type u} {β : Type v} {x : Except ε α} {f : α → β} {e : ε} :
    x.map f = .error e ↔ x = .error e := by
  cases x with
  | error e => simp [Except.map]
  | ok a => exact ⟨nofun, nofun⟩

namespace Guest

/-- What calls outside invocations keep: the guest is sound, its globals are all there and in order,
and the staging buffers are what they were. -/
structure GuestState.IsTame (program : Program) (limit : Nat) (pool : StagingPool)
    (g : GuestState) : Prop where
  /-- Staging buffers stay usable. -/
  sound : g.IsSound limit
  /-- The globals are in order. -/
  sorted : g.globals.Sorted
  /-- All globals are there. -/
  globals : ∀ global ∈ program.globals, (g.globals.find? global.name).isSome = true
  /-- The staging buffers. -/
  pool_eq : g.pool = pool

theorem Note.Legal.isTame {σ : Type} {sandbox : Sandbox σ} {n : Note σ} (h : n.Legal sandbox)
    (hb : n.before.bound = none) {program : Program} {pool : StagingPool}
    (ht : n.before.guest.IsTame program sandbox.memoryLimit pool) :
    n.after.guest.IsTame program sandbox.memoryLimit pool := by
  have hsound := h.isSound ht.sound
  have hpool := (h.pool_eq hb).trans ht.pool_eq
  cases h with
  | executed _ h =>
    cases h with
    | globalSet name w =>
      refine ⟨hsound, ht.sorted.insert name w, fun global hg => ?_, hpool⟩
      exact Assoc.isSome_find?_insert (ht.globals global hg)
    | idle | trapped | stored | grown | refused | tableGrown | spun =>
      exact ⟨hsound, ht.sorted, ht.globals, hpool⟩
  | asked h =>
    have hguest := h.guest_eq
    exact ⟨hsound, hguest ▸ ht.sorted, hguest ▸ ht.globals, hpool⟩
  | entered | rejected | staged | misplaced => exact ⟨hsound, ht.sorted, ht.globals, hpool⟩

end Guest

namespace GuestModule

/-! ### Quiet calls -/

theorem callQuietly_snd (sandbox : Sandbox Empty) (exports : Option Exports) (guest : GuestState)
    (function : String) (args : List UInt64) :
    (callQuietly sandbox exports guest function args).2
      = (Run.after (sandbox.call function args) ⟨guest, exports, none, unboundedTicks⟩).guest := by
  rw [callQuietly, Run.after]
  cases sandbox.call function args ⟨guest, exports, none, unboundedTicks⟩ <;> rfl

/-- Calls outside invocations keep a guest tame. -/
theorem callQuietly_isTame (sandbox : Sandbox Empty) (exports : Option Exports) {guest : GuestState}
    {program : Program} {pool : StagingPool} (h : guest.IsTame program sandbox.memoryLimit pool)
    (function : String) (args : List UInt64) :
    (callQuietly sandbox exports guest function args).2.IsTame program sandbox.memoryLimit pool := by
  rw [callQuietly_snd]
  have hinvariant := sandbox.history_invariant
    (P := fun s => s.bound = none ∧ s.guest.IsTame program sandbox.memoryLimit pool)
    (fun n hn hs => by
      refine ⟨?_, hn.isTame hs.1 hs.2⟩
      have := hn.isSome_bound_eq
      rw [hs.1] at this
      exact Option.isSome_eq_false_iff.mp this |> Option.isNone_iff_eq_none.mp)
    function args (s := ⟨guest, exports, none, unboundedTicks⟩) nofun ⟨rfl, h⟩
  exact hinvariant.2.2

/-! ### Instantiation -/

section

variable (package : String) (program : Program) (config : EngineConfig)

/-- The guest before its start function runs. -/
def setUp : Except ExtensionError GuestState := do
  link program
  let memory ← initialMemory program config
  let tableSize ← initialTable program
  let memory ← program.data.foldlM writeSegment memory
  .ok ⟨memory, initialGlobals program, tableSize, .new config.bufferGrowthIncrement, false⟩

/-- Run the start function, if there is one. -/
def runStart (guest : GuestState) : Except ExtensionError GuestState :=
  match program.start with
  | none => .ok guest
  | some start =>
    match callQuietly (quietSandbox package program config) none guest start [] with
    | (.ok _, guest) => .ok guest
    | (.error failure, _) =>
      .error (.instantiation (.stated s!"{package}: {failure.chain}"))

theorem instantiate_eq :
    instantiate package program config
      = setUp program config >>= runStart package program config := by
  rw [instantiate, setUp]
  simp only [bind_assoc]
  rfl

end

theorem pageCount_writeSegments {data : List DataSegment} {memory memory' : Memory}
    (h : data.foldlM writeSegment memory = .ok memory') :
    memory'.pageCount = memory.pageCount := by
  induction data generalizing memory with
  | nil =>
    cases h
    rfl
  | cons segment data ih =>
    rw [List.foldlM_cons, bind_eq_ok_iff] at h
    obtain ⟨written, hsegment, hrest⟩ := h
    rw [ih hrest]
    rw [writeSegment] at hsegment
    split at hsegment
    · cases hsegment
      exact Memory.pageCount_write ..
    · cases hsegment

theorem size_initialMemory {program : Program} {config : EngineConfig} {memory : Memory}
    (h : initialMemory program config = .ok memory) :
    memory.size ≤ config.memoryLimitBytes.toNat := by
  rw [initialMemory] at h
  split at h
  · rename_i hle
    cases h
    rwa [Memory.size, Memory.pageCount_zeroed]
  · cases h

theorem sorted_foldl_insert {entries : List (String × UInt64)} {m : Assoc String UInt64}
    (h : m.Sorted) : (entries.foldl (fun m (k, v) => m.insert k v) m).Sorted := by
  induction entries generalizing m with
  | nil => exact h
  | cons entry entries ih => exact ih (h.insert entry.1 entry.2)

theorem isSome_find?_foldl_insert {entries : List (String × UInt64)} {m : Assoc String UInt64}
    {key : String} (h : (m.find? key).isSome = true ∨ ∃ entry ∈ entries, entry.1 = key) :
    ((entries.foldl (fun m (k, v) => m.insert k v) m).find? key).isSome = true := by
  induction entries generalizing m with
  | nil => simpa using h
  | cons entry entries ih =>
    refine ih ?_
    rcases h with h | ⟨other, hother, rfl⟩
    · exact Or.inl (Assoc.isSome_find?_insert h)
    · rcases List.mem_cons.mp hother with rfl | hother
      · exact Or.inl (by rw [Assoc.find?_insert_self]; rfl)
      · exact Or.inr ⟨other, hother, rfl⟩

theorem sorted_initialGlobals (program : Program) : (initialGlobals program).Sorted :=
  sorted_foldl_insert Assoc.sorted_empty

theorem isSome_find?_initialGlobals {program : Program} {global : Global}
    (h : global ∈ program.globals) :
    ((initialGlobals program).find? global.name).isSome = true :=
  isSome_find?_foldl_insert (Or.inr ⟨_, List.mem_map_of_mem h, rfl⟩)

/-- An instantiated guest has no staging buffer. -/
theorem isTame_of_instantiate {package : String} {program : Program} {config : EngineConfig}
    {guest : GuestState} (h : instantiate package program config = .ok guest) :
    guest.IsTame program config.memoryLimitBytes.toNat (.new config.bufferGrowthIncrement) := by
  simp only [instantiate, bind_eq_ok_iff] at h
  obtain ⟨_, _, memory, hmemory, tableSize, _, written, hwritten, hstart⟩ := h
  have htame : GuestState.IsTame program config.memoryLimitBytes.toNat
      (.new config.bufferGrowthIncrement)
      ⟨written, initialGlobals program, tableSize, .new config.bufferGrowthIncrement, false⟩ := by
    refine ⟨⟨?_, fun b hb => absurd hb List.not_mem_nil⟩, sorted_initialGlobals program,
      fun global hg => isSome_find?_initialGlobals hg, rfl⟩
    show written.size ≤ _
    rw [Memory.size_eq_of_pageCount_eq (pageCount_writeSegments hwritten)]
    exact size_initialMemory hmemory
  split at hstart
  · cases hstart
    exact htame
  · rename_i start _
    have hcall := callQuietly_isTame (quietSandbox package program config) none htame start []
    split at hstart
    · rename_i heq
      cases hstart
      rwa [heq] at hcall
    · cases hstart

/-! ### Exports -/

/-- An export that is called stands for a function of the program. -/
theorem isSome_function?_of_typedExport {program : Program} {name function : String}
    {signature : Signature} (h : typedExport program name signature = .ok function) :
    (program.function? function).isSome = true := by
  rw [typedExport] at h
  split at h
  · cases h
  · rename_i f hf
    split at h
    · cases h
      have hmem : f ∈ program.functions := List.mem_of_find?_eq_some hf
      rw [Program.function?, List.find?_isSome]
      exact ⟨f, hmem, beq_self_eq_true f.name⟩
    · cases h

theorem isSome_receiver_of_resolveExports {program : Program} {exports : Exports}
    (h : resolveExports program = .ok exports) :
    (program.function? exports.onReadValue).isSome = true := by
  rw [resolveExports] at h
  split at h
  · cases h
  · simp only [bind_eq_ok_iff] at h
    obtain ⟨_, _, _, _, _, _, _, _, _, _, _, _, _, _, _, _, receiver, hreceiver, h⟩ := h
    cases h
    exact isSome_function?_of_typedExport hreceiver

/-! ### Preparation -/

/-- What preparation yields: a tame guest with one staging buffer, of which nothing was handed out,
and no refusal remembered. -/
structure Prepared (program : Program) (config : EngineConfig) (guest : GuestState)
    (exports : Exports) : Prop where
  /-- The guest is tame. -/
  tame : guest.IsTame program config.memoryLimitBytes.toNat guest.pool
  /-- There is one staging buffer. -/
  buffers : ∃ base, guest.pool.buffers = [⟨base, config.preallocatedBufferSize, 0⟩]
  /-- No refusal is remembered. -/
  not_refused : guest.growthRefused = false
  /-- Rows are received by a function of the program. -/
  receiver : (program.function? exports.onReadValue).isSome = true

theorem isTame_of_probeVersion {package : String} {program : Program} {config : EngineConfig}
    {exports : Exports} {guest guest' : GuestState} {pool : StagingPool}
    (h : probeVersion package program config exports guest = .ok guest')
    (ht : guest.IsTame program config.memoryLimitBytes.toNat pool) :
    guest'.IsTame program config.memoryLimitBytes.toNat pool := by
  have hcall := callQuietly_isTame (quietSandbox package program config) (some exports) ht
    exports.abiVersion []
  rw [probeVersion] at h
  split at h
  · rename_i heq
    cases h
    rwa [heq] at hcall
  · cases h

theorem prepared_of_preallocate {package : String} {program : Program} {config : EngineConfig}
    {exports : Exports} {guest guest' : GuestState} {increment : UInt32}
    (h : preallocate package program config exports guest = .ok guest')
    (ht : guest.IsTame program config.memoryLimitBytes.toNat (.new increment))
    (hreceiver : (program.function? exports.onReadValue).isSome = true) :
    Prepared program config guest' exports := by
  have hcall := callQuietly_isTame (quietSandbox package program config) (some exports) ht
    exports.malloc [config.preallocatedBufferSize.toUInt64]
  rw [preallocate] at h
  split at h
  · cases h
  · rename_i results called heq
    rw [heq] at hcall
    dsimp only at h
    split at h
    · cases h
    · rename_i base hbase
      cases h
      have hgrant : StagingPool.Grants called.memory.size called.pool 0 base
          (called.pool.adopt base config.preallocatedBufferSize 0) := by
        obtain ⟨rfl, -⟩ := checkedAllocation?_eq_some_iff.mp hbase
        exact .adopted (UInt32.le_iff_toNat_le.mpr (Nat.zero_le _)) hbase
      have hsound := hcall.sound.of_grants hgrant
      refine ⟨⟨⟨hsound.within, hsound.fits⟩, hcall.sorted, hcall.globals, rfl⟩, ⟨base, ?_⟩, rfl,
        hreceiver⟩
      have hzero : min 0 config.preallocatedBufferSize = 0 :=
        if_pos (UInt32.le_iff_toNat_le.mpr (Nat.zero_le _))
      show called.pool.buffers ++ [⟨base, _, min 0 config.preallocatedBufferSize⟩] = _
      rw [hcall.pool_eq, hzero]
      rfl

/-- **Preparation.** -/
theorem prepared_of_prepare {package : String} {program : Program} {config : EngineConfig}
    {guest : GuestState} {exports : Exports}
    (h : prepare package program config = .ok (guest, exports)) :
    Prepared program config guest exports := by
  simp only [prepare, bind_eq_ok_iff] at h
  obtain ⟨instantiated, hinstantiate, resolved, hresolve, probed, hprobe, ready, hready, h⟩ := h
  cases h
  exact prepared_of_preallocate hready
    (isTame_of_probeVersion hprobe (isTame_of_instantiate hinstantiate))
    (isSome_receiver_of_resolveExports hresolve)

/-- What loading consists of: preparation, and a look at the declared extensions. -/
theorem load_eq_ok_iff {package : String} {names : List String} {program : Program}
    {config : EngineConfig} {m : GuestModule} :
    load package names program config = .ok m ↔ ∃ guest exports extensions,
      prepare package program config = .ok (guest, exports) ∧
      resolveExtensions program names = .ok extensions ∧
      m = ⟨package, program, config, guest, exports, extensions, .capture program guest, none⟩ := by
  simp only [load, map_eq_ok_iff, bind_eq_ok_iff, Prod.exists]
  constructor
  · rintro ⟨guest, exports, extensions, ⟨_, _, hprepare, _, hextensions, heq⟩, rfl⟩
    cases heq
    exact ⟨guest, exports, extensions, hprepare, hextensions, rfl⟩
  · rintro ⟨guest, exports, extensions, hprepare, hextensions, rfl⟩
    exact ⟨guest, exports, extensions,
      ⟨guest, exports, hprepare, extensions, hextensions, rfl⟩, rfl⟩

/-- Nobody is bound to a module that was loaded. -/
theorem unbound_of_load {package : String} {names : List String} {program : Program}
    {config : EngineConfig} {m : GuestModule} (h : load package names program config = .ok m) :
    m.bound = none := by
  obtain ⟨_, _, _, _, _, rfl⟩ := load_eq_ok_iff.mp h
  rfl

end GuestModule

end ExtensionHost
