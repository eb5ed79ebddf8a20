import ExtensionHost.Package.Basic
import ExtensionHost.Proofs.Module.Preparation

/-!
# Restoring is loading again

Rolling a module back takes another path than loading it: the program is prepared once more, and the
snapshot is laid over the result.  The two paths meet because preparation depends on nothing but the
program and the settings, so that the snapshot is laid over the very guest that it was captured
from.

**What could go wrong.**  A global is put back through the name of its export, and the extensions
are resolved from the names in the table that is there.  The first needs names of exports to be
distinct, which is checked when a program is compiled.

## Main definitions

* `GuestModule.IsLoaded`, a module as `GuestModule.load` returns it
* `GuestModule.ComesFrom`, a module of which only the guest has changed

## Main results

* `Snapshot.apply_capture`, a snapshot laid over the guest it was captured from
* `GuestModule.IsLoaded.restore_eq`
-/

namespace ExtensionHost

open Guest

/-! ### Names of exports -/

/-- In a list whose names differ, a name stands for one member. -/
theorem eq_of_filterMap_nodup {α β : Type} {f : α → Option β} {l : List α}
    (h : (l.filterMap f).Nodup) {a b : α} {x : β} (ha : a ∈ l) (hb : b ∈ l) (hfa : f a = some x)
    (hfb : f b = some x) : a = b := by
  induction l with
  | nil => cases ha
  | cons c l ih =>
    rw [List.filterMap_cons] at h
    cases hfc : f c with
    | none =>
      rw [hfc] at h
      rcases List.mem_cons.mp ha with rfl | ha
      · rw [hfc] at hfa
        cases hfa
      · rcases List.mem_cons.mp hb with rfl | hb
        · rw [hfc] at hfb
          cases hfb
        · exact ih h ha hb
    | some y =>
      rw [hfc] at h
      obtain ⟨hy, hl⟩ := List.nodup_cons.mp h
      -- a name that comes again in the rest is not the first one
      have hne : ∀ d ∈ l, f d = some x → y ≠ x := by
        rintro d hd hfd rfl
        exact hy (List.mem_filterMap.mpr ⟨d, hd, hfd⟩)
      rcases List.mem_cons.mp ha with rfl | ha'
      · rcases List.mem_cons.mp hb with rfl | hb'
        · rfl
        · exact absurd (Option.some.inj (hfc.symm.trans hfa)) (hne b hb' hfb)
      · rcases List.mem_cons.mp hb with rfl | hb'
        · exact absurd (Option.some.inj (hfc.symm.trans hfb)) (hne a ha' hfa)
        · exact ih hl ha' hb'

namespace Guest

theorem nodup_of_checkDistinct {defect : String → Defect} {names : List String}
    (h : Program.checkDistinct defect names = .ok ()) : names.Nodup := by
  induction names with
  | nil => exact List.nodup_nil
  | cons name names ih =>
    rw [Program.checkDistinct] at h
    split at h
    · cases h
    · rename_i hnew
      exact List.nodup_cons.mpr ⟨fun hmem => hnew (List.contains_iff_mem.mpr hmem), ih h⟩

/-- The exports of a program that was checked have different names. -/
theorem nodup_exportNames_of_check {p : Program} (h : p.check = .ok ()) : p.exportNames.Nodup := by
  rw [Program.check, bind_eq_ok_iff] at h
  obtain ⟨_, hdistinct, _⟩ := h
  exact nodup_of_checkDistinct hdistinct

/-- A global is found under the name of its export. -/
theorem exportedGlobal?_eq_some {p : Program} (h : p.exportNames.Nodup) {g : Global}
    (hg : g ∈ p.globals) {name : String} (hname : g.exportName = some name) :
    p.exportedGlobal? name = some g := by
  have hnodup : (p.globals.filterMap (·.exportName)).Nodup := (List.nodup_append.mp h).2.1
  have hsome : (p.exportedGlobal? name).isSome = true :=
    List.find?_isSome.mpr ⟨g, hg, by rw [hname]; exact beq_self_eq_true _⟩
  obtain ⟨found, hfound⟩ := Option.isSome_iff_exists.mp hsome
  rw [Program.exportedGlobal?] at hfound ⊢
  have hexport := List.find?_some hfound
  simp only [beq_iff_eq] at hexport
  have hmem : found ∈ p.globals := List.mem_of_find?_eq_some hfound
  rw [hfound, eq_of_filterMap_nodup hnodup hmem hg hexport hname]

end Guest

/-- The exports of a compiled program have different names. -/
theorem ModuleImage.nodup_exportNames {name : String} {image : ModuleImage} {p : Program}
    (h : image.compile name = .ok p) : p.exportNames.Nodup := by
  cases image with
  | bytes content =>
    rw [compile] at h
    split at h
    · cases h
      exact List.nodup_nil
    · cases h
  | program q =>
    rw [compile] at h
    split at h
    · rename_i hcheck
      cases h
      exact nodup_exportNames_of_check hcheck
    · cases h

/-! ### Snapshots -/

namespace Snapshot

variable {program : Program} {guest : GuestState}

/-- Putting a global back where it was captured changes nothing. -/
theorem putBack_kept (hnodup : program.exportNames.Nodup) (hsorted : guest.globals.Sorted)
    (hglobals : ∀ g ∈ program.globals, (guest.globals.find? g.name).isSome = true)
    {entry : String × NumberType × UInt64}
    (h : entry ∈ program.globals.filterMap (kept guest)) :
    putBack program guest.globals entry = .ok guest.globals := by
  obtain ⟨g, hg, hkept⟩ := List.mem_filterMap.mp h
  rw [kept] at hkept
  split at hkept
  · rename_i exportName type hmutable hexport htype
    cases hkept
    obtain ⟨w, hw⟩ := Option.isSome_iff_exists.mp (hglobals g hg)
    rw [putBack, exportedGlobal?_eq_some hnodup hg hexport, hw]
    simp only [hmutable, htype, and_self, if_true]
    rw [Option.getD_some, Assoc.insert_eq_self hsorted hw]
  · cases hkept

theorem foldlM_eq_self {ε α β : Type} {f : α → β → Except ε α} {a : α} {l : List β}
    (h : ∀ b ∈ l, f a b = .ok a) : l.foldlM f a = .ok a := by
  induction l with
  | nil => rfl
  | cons b l ih =>
    rw [List.foldlM_cons, h b List.mem_cons_self]
    exact ih fun c hc => h c (List.mem_cons_of_mem _ hc)

/-- A snapshot laid over the very guest that it was captured from changes nothing, if no staging
buffer was used. -/
theorem apply_capture (hnodup : program.exportNames.Nodup) (hsorted : guest.globals.Sorted)
    (hglobals : ∀ g ∈ program.globals, (guest.globals.find? g.name).isSome = true)
    (hpool : guest.pool.reset = guest.pool) (limit : Nat) :
    (capture program guest).apply program limit guest = .ok guest := by
  have hgrowth : (capture program guest).checkGrowth program limit guest.memory.pageCount
      = .ok () := by
    rw [checkGrowth]
    exact if_neg fun h => Nat.lt_irrefl _ h.1
  have hput : (capture program guest).globals.foldlM (putBack program) guest.globals
      = .ok guest.globals :=
    foldlM_eq_self fun entry hentry => putBack_kept hnodup hsorted hglobals hentry
  have hoverlay : guest.memory.overlay (capture program guest).memory = guest.memory :=
    Memory.overlay_of_pageCount_eq rfl
  have hreset : (capture program guest).pool.reset = guest.pool := hpool
  simp only [apply, hgrowth, hput, hoverlay, hreset, bind, Except.bind]

end Snapshot

/-! ### Modules -/

namespace GuestModule

/-- A module as it is loaded: under valid settings, from a program whose exports have different
names. -/
structure IsLoaded (m : GuestModule) : Prop where
  /-- The settings are valid. -/
  valid : m.config.validate = .ok ()
  /-- The exports have different names. -/
  nodup : m.program.exportNames.Nodup
  /-- The module is what loading returns. -/
  load : ∃ names, load m.package names m.program m.config = .ok m

/-- A module is another one of which only the guest has changed. -/
def ComesFrom (m loaded : GuestModule) : Prop := m = { loaded with guest := m.guest }

theorem comesFrom_refl (m : GuestModule) : m.ComesFrom m := rfl

theorem ComesFrom.with_guest {m loaded : GuestModule} (h : m.ComesFrom loaded)
    (guest : GuestState) : ComesFrom { m with guest } loaded := by
  rw [h]
  rfl

/-- The function of a declared extension. -/
def extensionFunction (program : Program) (name : String) : Except ExtensionError String := do
  if name.isEmpty || Abi.isReserved name then .error (.incorrectExtensionName name)
  typedExport program name ⟨[], []⟩

theorem resolveExtensions_eq_collect (program : Program) (names : List String) :
    resolveExtensions program names = Assoc.collect (extensionFunction program) names ∅ := by
  rw [resolveExtensions, Assoc.collect]
  congr 1
  funext extensions name
  rw [extensionFunction]
  split <;> rfl

namespace IsLoaded

variable {m : GuestModule}

/-- What loading consists of. -/
theorem inv (h : m.IsLoaded) :
    prepare m.package m.program m.config = .ok (m.guest, m.exports) ∧
      m.snapshot = .capture m.program m.guest ∧
      ∃ names, resolveExtensions m.program names = .ok m.extensions := by
  obtain ⟨names, hload⟩ := h.load
  obtain ⟨guest, exports, extensions, hprepare, hextensions, heq⟩ := load_eq_ok_iff.mp hload
  obtain rfl : m.guest = guest := congrArg GuestModule.guest heq
  obtain rfl : m.exports = exports := congrArg GuestModule.exports heq
  obtain rfl : m.extensions = extensions := congrArg GuestModule.extensions heq
  exact ⟨hprepare, congrArg GuestModule.snapshot heq, names, hextensions⟩

theorem bound (h : m.IsLoaded) : m.bound = none := by
  obtain ⟨names, hload⟩ := h.load
  exact unbound_of_load hload

theorem prepared (h : m.IsLoaded) : Prepared m.program m.config m.guest m.exports :=
  prepared_of_prepare h.inv.1

theorem reset_pool (h : m.IsLoaded) : m.guest.pool.reset = m.guest.pool := by
  obtain ⟨base, hbuffers⟩ := h.prepared.buffers
  rw [StagingPool.reset, hbuffers]
  simp only [List.map_cons, List.map_nil]
  rw [← hbuffers]

/-- **Restoring is loading again.**  Whatever became of the guest of a loaded module, restoring the
module succeeds and yields the module as it was loaded. -/
theorem restore_eq (h : m.IsLoaded) {later : GuestModule} (hlater : later.ComesFrom m) :
    later.restore = .ok m := by
  obtain ⟨hprepare, hsnapshot, names, hextensions⟩ := h.inv
  have htame := h.prepared.tame
  have happly : m.snapshot.apply m.program m.config.memoryLimitBytes.toNat m.guest
      = .ok m.guest := by
    rw [hsnapshot]
    exact Snapshot.apply_capture h.nodup htame.sorted htame.globals h.reset_pool _
  have hresolve : resolveExtensions m.program m.extensionNames = .ok m.extensions := by
    rw [resolveExtensions_eq_collect] at hextensions ⊢
    exact Assoc.collect_keys hextensions
  have hbound : { m with bound := none } = m := by rw [← h.bound]
  rw [hlater]
  show Except.map _ (prepare m.package m.program m.config >>= _) = _
  rw [hprepare]
  show Except.map _ (m.snapshot.apply m.program m.config.memoryLimitBytes.toNat m.guest >>= _) = _
  rw [happly]
  show Except.map _ (resolveExtensions m.program m.extensionNames >>= _) = _
  rw [hresolve]
  exact congrArg Except.ok hbound

end IsLoaded

end GuestModule

end ExtensionHost
