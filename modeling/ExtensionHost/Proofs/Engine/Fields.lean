import ExtensionHost.Proofs.Engine.Staging
import ExtensionHost.Proofs.Guest.Passage

/-!
# Fields on reachable engines

What was shown for a guest that hands a value on holds at every moment of every invocation on every
reachable engine, whatever the staging buffers are like by then.

## Main results

* `Engine.fields_cross_unchanged`
-/

namespace ExtensionHost

open Guest

/-- The first engine of a pool. -/
def Factory.firstEngine? (f : Factory) (tree : FileTree ModuleImage) (packages : List Package)
    (poolSize : UInt64) : Option Engine :=
  match f.newEngines tree packages poolSize with
  | (.returned (.ok engines), _) => engines.head?
  | _ => none

namespace Engine

theorem isFresh_of_firstEngine? {f : Factory} {tree : FileTree ModuleImage}
    {packages : List Package} {poolSize : UInt64} {e : Engine} (hvalid : f.config.validate = .ok ())
    (h : f.firstEngine? tree packages poolSize = some e) : e.IsFresh := by
  rw [Factory.firstEngine?] at h
  split at h
  · rename_i hbuild
    exact .built hvalid hbuild (List.mem_of_head? h)
  · cases h

variable {σ : Type} {e : Engine} {package : String} {m : GuestModule}

/-- **Fields cross the boundary unchanged.**  Take any moment of an invocation on a reachable engine
and a value that fields hold: a text, bytes, a number, a truth value or a qualified name.

A guest that reads a field with a reader of the value's own kind, where the adapter answers with the
value, gets a word for it unless staging fails; this is so for keys and values, by name and by
position.  From then on let the guest do anything, but not store into what it was handed: it passes
on what it got as it got it.  (Nothing is asked here of a guest that reads one payload and puts it
at once; with a qualified name, the allocator that makes room for one half must spare the other
one.)  When it has a word from each of the value's readers, which it may use in any order, and puts
these words into a field, then the adapter puts this very value, with the row writer that the
identifier and the tag stand for and the name that is in the guest's memory.  All else that is asked
of the guest's allocator is that staging buffers do not overlap; and if they are apart from the
name, which the guest spares, then this is the name from before the readings. -/
theorem fields_cross_unchanged (h : e.IsReachable) (hm : e.module? package = some m)
    (adapter : Adapter σ) (state : σ) (function : String) (ticks : Nat) {past later : List (Note σ)}
    (hsplit : m.history adapter state function ticks = past ++ later) {v : FieldValue}
    {payload : Payload} (hv : v.payload? = some payload) :
    let sandbox := m.sandbox adapter
    let s := reached (m.start state ticks) past
    (∀ reader ∈ payload.readers, ∀ (depth : Nat) (source : FieldSource) (args : List UInt64)
        (before asked : Machine σ),
      Bridge.readField sandbox (HostFunction.fieldOf (narrowAll source.params args) source)
          (Bridge.kindOf reader) before = .ok v asked →
      (∀ bytes, v.part? reader = some (.payload bytes) →
        ∃ w t, Bridge.stage (sandbox.callNested depth) bytes asked = .ok w t) →
      ∃ w t, sandbox.callHost depth (.read source reader) args before = .ok [w] t) ∧
    ∀ notes got t, Gathers sandbox v s notes got t →
      t.guest.pool.Separate → SparesHandouts [] notes →
      (∀ (name : Slice) (text : String), Bridge.readText name.ptr name.len s = .ok text s →
        t.guest.pool.IsApart name → (∀ n ∈ notes, n.Spares name) →
        Bridge.readText name.ptr name.len t = .ok text t) ∧
      ∀ words, List.Forall₂ (fun reader w => (reader, w) ∈ got) payload.readers words →
        ∀ (depth : Nat) (id : UInt64) (tag : UInt32) (writer : RowWriter) (name : Slice)
          (text : String), RowWriter.ofTag? id tag = some writer →
          Bridge.readText name.ptr name.len t = .ok text t →
          ∃ state', t.bound = some state' ∧
            sandbox.callHost depth (.put payload) (payload.arguments id tag name words) t
              = Bridge.settle t (adapter.putField writer text v state') := by
  intro sandbox s
  obtain ⟨loaded, hloaded, hcontinues⟩ := h.module hm
  have hlimit : sandbox.memoryLimit < UInt32.size := hcontinues.memoryLimit_lt hloaded adapter
  have hsound : s.guest.IsSound sandbox.memoryLimit := hcontinues.isSound_reached hsplit
  have hexports : s.exports.isSome = true := by
    rw [GuestModule.Continues.exports_reached hsplit]
    rfl
  refine ⟨fun reader hreader depth source args before asked hanswer hstage => ?_,
    fun notes got t hgathers hsep hspares => ⟨?_, ?_⟩⟩
  · exact Sandbox.exists_word hanswer (FieldValue.isSome_part? hv reader hreader) hstage
  · intro name text hname hapart hspared
    exact (hgathers.leads fun _ => hexports).readText_eq hlimit hsound hexports hspared hapart hname
  · intro words hwords depth id tag writer name text hwriter hname
    have hbound : t.bound.isSome = true := by
      rw [(hgathers.leads fun _ => hexports).isSome_bound_eq,
        (m.leads_past adapter state function ticks hsplit).isSome_bound_eq]
      rfl
    obtain ⟨state', hstate⟩ := Option.isSome_iff_exists.mp hbound
    exact ⟨state', hstate, hgathers.callHost_put hv hwords hlimit hsound hexports hsep hspares
      hwriter hname hstate depth⟩

end Engine

/-! ### A guest that copies a field

Its memory holds the name of a field, and its first staging buffer has room for one half of the name
that the adapter knows. -/

instance decidableEqResult {ε σ α : Type} [DecidableEq ε] [DecidableEq σ] [DecidableEq α] :
    DecidableEq (EStateM.Result ε σ α)
  | .ok a s, .ok b t => decidable_of_iff (a = b ∧ s = t) (by rw [EStateM.Result.ok.injEq])
  | .error e s, .error f t => decidable_of_iff (e = f ∧ s = t) (by rw [EStateM.Result.error.injEq])
  | .ok _ _, .error _ _ => .isFalse nofun
  | .error _ _, .ok _ _ => .isFalse nofun

deriving instance DecidableEq for Machine

namespace StagingPool

/-- Two buffers are separate if one ends before the other one begins. -/
theorem separate_of_places {p : StagingPool} {a b : Address × UInt32} (h : p.places = [a, b])
    (hle : a.1.toNat + a.2.toNat ≤ b.1.toNat) : p.Separate := by
  rw [separate_iff_places, h, List.pairwise_pair]
  omega

/-- They are apart from what lies before both of them. -/
theorem isApart_of_places {p : StagingPool} {slice : Slice} {a b : Address × UInt32}
    (h : p.places = [a, b]) (ha : slice.ptr.toNat + slice.len.toNat ≤ a.1.toNat)
    (hb : slice.ptr.toNat + slice.len.toNat ≤ b.1.toNat) : p.IsApart slice := by
  intro c hc i hi hcovers
  have hplace : (c.base, c.capacity) ∈ p.places := List.mem_map_of_mem hc
  have hle : slice.ptr.toNat + slice.len.toNat ≤ c.base.toNat := by
    rw [h, List.mem_pair] at hplace
    rcases hplace with rfl | rfl
    · exact ha
    · exact hb
  exact absurd (Nat.lt_of_lt_of_le hi.2 hle) (Nat.not_lt.mpr hcovers.1)

end StagingPool

namespace Sample

/-- The guest, with the name of a field right behind the top of its heap. -/
def copyist : Program := { program with data := program.data ++ [⟨4, "to".toUTF8⟩] }

/-- Where the name is. -/
def fieldName : Slice := ⟨4, 2⟩

/-- What was put into fields. -/
abbrev Puts := List (RowWriter × String × FieldValue)

/-- An adapter that knows a qualified name, and keeps what is put into fields. -/
def ledger : Adapter Puts where
  keyBuilder _ _ s := (.error (.other "fields only"), s)
  mustExist _ s := (.error (.other "fields only"), s)
  canExist _ s := (.ok none, s)
  readValues _ s := .done (.ok ()) s
  newValue _ s := (.error (.other "fields only"), s)
  updateValue _ _ s := (.error (.other "fields only"), s)
  putField writer name value s := (.ok (), s ++ [(writer, name, value)])
  keyField _ _ _ s := (.ok (.qname ⟨"sales", "orders"⟩), s)
  valueField _ _ _ s := (.ok (.qname ⟨"sales", "orders"⟩), s)
  valueItem _ _ _ s := (.ok (.qname ⟨"sales", "orders"⟩), s)
  valueLength _ s := (.ok 1, s)

/-- The engine. -/
def copyingEngine : Engine :=
  (Factory.firstEngine? ⟨"copying", config, ⟨0, 0, 0⟩, 0⟩ ⟨[("/copying", .program copyist)], []⟩
    [⟨"copying", .ofFilePath "/copying", extensions.map Prod.fst⟩] 1).get (by decide +kernel)

theorem isFresh_copyingEngine : copyingEngine.IsFresh :=
  Engine.isFresh_of_firstEngine? (by decide +kernel) (Option.some_get _).symm

/-- Its module. -/
def copying : GuestModule := (copyingEngine.module? "copying").get (by decide +kernel)

theorem module?_copyingEngine : copyingEngine.module? "copying" = some copying :=
  (Option.some_get _).symm

/-- What the guest runs in. -/
abbrev copyingSandbox : Sandbox Puts := copying.sandbox ledger

/-- The machine on which an invocation starts. -/
def copyingStart : Machine Puts := copying.start [] unboundedTicks

/-- The guest reads one half of an item. -/
def readHalf (reader : Reader) : Run Puts (List UInt64) :=
  copyingSandbox.callHost 1 (.read .item reader) [0, 0]

/-- The machine after the first half. -/
def halfway : Machine Puts := Run.after (readHalf .qnamePackage) copyingStart

/-- The machine after both halves. -/
def gathered : Machine Puts := Run.after (readHalf .qnameEntity) halfway

/-- What happens in the course of the readings. -/
def copyingNotes : List (Note Puts) :=
  copyingSandbox.hostStory 1 (.read .item .qnamePackage) [0, 0] copyingStart ++
    (copyingSandbox.hostStory 1 (.read .item .qnameEntity) [0, 0] halfway ++ [])

/-- The adapter knows every item. -/
theorem readField_item {s : Machine Puts} (h : s.bound = some []) :
    Bridge.readField copyingSandbox (.item 0 0) .qname s
      = .ok (.qname ⟨"sales", "orders"⟩) s := by
  obtain ⟨guest, exports, bound, budget⟩ := s
  cases h
  rfl

theorem gathers_gathered :
    Gathers copyingSandbox (.qname ⟨"sales", "orders"⟩) copyingStart copyingNotes
      [(.qnamePackage, 0x2000000005), (.qnameEntity, 0x2800000006)] gathered := by
  have hpackage : readHalf .qnamePackage copyingStart = .ok [0x2000000005] halfway ∧
      halfway.bound = some [] := by decide +kernel
  have hentity : readHalf .qnameEntity halfway = .ok [0x2800000006] gathered := by decide +kernel
  exact .read rfl (readField_item rfl) hpackage.1
    (.read rfl (readField_item hpackage.2) hentity (.done gathered))

end Sample

namespace Engine

/-- The second half takes a buffer of its own, and the qualified name arrives as it was. -/
theorem fields_cross_unchanged_sample :
    Sample.gathered.guest.pool.places = [(32, 8), (40, 8)] ∧
      Sample.copyingSandbox.callNested 1 "host_row_writer_put_qname"
          (Payload.qname.arguments 7 1 Sample.fieldName [0x2000000005, 0x2800000006])
          Sample.gathered
        = .ok [] { Sample.gathered with
            bound := some [(.intent ⟨7⟩, "to", .qname ⟨"sales", "orders"⟩)] } := by
  have hgathered : Sample.gathered.guest.pool.places = [(32, 8), (40, 8)] ∧
      Sample.gathered.bound = some [] := by decide +kernel
  have hspares : SparesHandouts [] Sample.copyingNotes ∧
      ∀ n ∈ Sample.copyingNotes, n.Spares Sample.fieldName := by decide +kernel
  have htext : Bridge.readText Sample.fieldName.ptr Sample.fieldName.len Sample.copyingStart
      = .ok "to" Sample.copyingStart := by decide +kernel
  have hhost : (Sample.copying.program.function? "host_row_writer_put_qname").isNone = true := by
    decide +kernel
  have hnamed : HostFunction.named? "host_row_writer_put_qname" = some (.put .qname) := by
    decide +kernel
  have hcross := (fields_cross_unchanged Sample.isFresh_copyingEngine.isReachable
    Sample.module?_copyingEngine Sample.ledger [] "greet" unboundedTicks (List.nil_append _).symm
    rfl).2 _ _ _ Sample.gathers_gathered (StagingPool.separate_of_places hgathered.1 (by decide))
    hspares.1
  have hname := hcross.1 Sample.fieldName "to" htext
    (StagingPool.isApart_of_places hgathered.1 (by decide) (by decide)) hspares.2
  have hwords : List.Forall₂ (fun reader w => (reader, w) ∈
      [(Reader.qnamePackage, (0x2000000005 : UInt64)), (.qnameEntity, 0x2800000006)])
      Payload.qname.readers [0x2000000005, 0x2800000006] :=
    .cons (by decide) (.cons (by decide) .nil)
  obtain ⟨state, hbound, hput⟩ :=
    hcross.2 _ hwords 0 7 1 (.intent ⟨7⟩) Sample.fieldName "to" rfl hname
  cases hgathered.2.symm.trans hbound
  refine ⟨hgathered.1, ?_⟩
  rw [Sandbox.callNested_eq_callHost (Option.isNone_iff_eq_none.mp hhost) hnamed]
  exact hput

end Engine

end ExtensionHost
