import ExtensionHost.Proofs.Guest.Soundness
import ExtensionHost.Proofs.Memory.Slice

/-!
# No payload is lost

During an invocation the host hands payloads to the guest as words that say where they are.  If the
buffers that the guest's allocator returns do not overlap and the guest does not store into them,
every payload stays where it was put: the ranges handed out are disjoint, and each is read back as
it was staged, at every later moment.

**The invariant.**  `GuestState.Keeps` lists the payloads handed out so far.  Each lies in the part
of one buffer that the pool has handed out.  A new payload gets room that was not handed out before,
which is all that keeps it off the others.

## Main definitions

* `Handout.Disjoint` and `GuestState.Keeps`
* `Note.SparesBuffers`, the guest does not store into staging buffers
* `handouts`, what was handed out in the course of a history
* `SparesHandouts`, the guest does not store into what it was handed

## Main results

* `Leads.keeps_append`, payloads are kept throughout a history in which the guest spares them
* `Leads.keeps`, the same where the guest spares staging buffers
* `GuestState.Holds.readBytes`, they are read back as they were staged
-/

namespace ExtensionHost

namespace Guest

variable {σ : Type}

/-- A payload that was staged, and the word that the guest got for it. -/
abbrev Handout := ByteArray × UInt64

namespace Handout

/-- Where a payload is. -/
def slice (p : Handout) : Slice := Slice.unpack p.2

/-- The positions of a payload. -/
def Covers (p : Handout) (i : Nat) : Prop :=
  p.slice.ptr.toNat ≤ i ∧ i < p.slice.ptr.toNat + p.slice.len.toNat

/-- Two payloads have no position in common. -/
def Disjoint (p q : Handout) : Prop := ∀ i, p.Covers i → ¬ q.Covers i

end Handout

/-- A payload is where its word says, in the part of one buffer that was handed out. -/
structure GuestState.Holds (g : GuestState) (p : Handout) : Prop where
  /-- The word gives the length. -/
  length : p.slice.len.toNat = p.1.size
  /-- The payload lies in one buffer. -/
  holds : g.pool.Holds p.slice.ptr.toNat p.1.size
  /-- The bytes are there. -/
  bytes : ∀ k, (h : k < p.1.size) → g.memory.byteAt (p.slice.ptr.toNat + k) = p.1[k]

/-- All payloads are where their words say, and they do not overlap. -/
structure GuestState.Keeps (g : GuestState) (ps : List Handout) : Prop where
  /-- Every payload is there. -/
  each : ∀ p ∈ ps, g.Holds p
  /-- No two overlap. -/
  disjoint : ps.Pairwise Handout.Disjoint

namespace GuestState

variable {g : GuestState} {p : Handout} {ps : List Handout}

theorem Holds.handed (h : g.Holds p) {i : Nat} (hi : p.Covers i) : g.pool.Handed i := by
  refine h.holds.handed ⟨hi.1, ?_⟩
  have := hi.2
  rwa [h.length] at this

/-- A payload stays where it is when none of its bytes changes. -/
theorem Holds.of_bytes (h : g.Holds p) {g' : GuestState}
    (hholds : ∀ {start count : Nat}, g.pool.Holds start count → g'.pool.Holds start count)
    (hbytes : ∀ i, p.Covers i → g'.memory.byteAt i = g.memory.byteAt i) : g'.Holds p := by
  refine ⟨h.length, hholds h.holds, fun k hk => ?_⟩
  rw [hbytes _ ⟨Nat.le_add_right .., Nat.add_lt_add_left (h.length ▸ hk) _⟩]
  exact h.bytes k hk

theorem Keeps.of_bytes (h : g.Keeps ps) {g' : GuestState}
    (hholds : ∀ {start count : Nat}, g.pool.Holds start count → g'.pool.Holds start count)
    (hbytes : ∀ p ∈ ps, ∀ i, p.Covers i → g'.memory.byteAt i = g.memory.byteAt i) : g'.Keeps ps :=
  ⟨fun p hp => (h.each p hp).of_bytes hholds (hbytes p hp), h.disjoint⟩

theorem keeps_nil (g : GuestState) : g.Keeps [] :=
  ⟨fun _ hp => absurd hp List.not_mem_nil, List.Pairwise.nil⟩

/-- A payload that lies outside all others may join them. -/
theorem Keeps.append (h : g.Keeps ps) (hp : g.Holds p) (hnew : ∀ q ∈ ps, q.Disjoint p) :
    g.Keeps (ps ++ [p]) := by
  constructor
  · intro q hq
    rcases List.mem_append.mp hq with hq | hq
    · exact h.each q hq
    · exact List.mem_singleton.mp hq ▸ hp
  · rw [List.pairwise_append]
    refine ⟨h.disjoint, List.pairwise_singleton _ _, fun q hq r hr => ?_⟩
    exact List.mem_singleton.mp hr ▸ hnew q hq

/-- A payload that is kept lies in one buffer. -/
theorem Holds.within (h : g.Holds p) {memorySize : Nat} (hfits : g.pool.Fits memorySize) :
    ∃ b ∈ g.pool.buffers, b.base.toNat ≤ p.slice.ptr.toNat ∧
      p.slice.ptr.toNat + p.slice.len.toNat ≤ b.base.toNat + b.capacity.toNat := by
  obtain ⟨b, hb, hbase, hend⟩ := h.holds
  have hcursor := UInt32.le_iff_toNat_le.mp (hfits b hb).cursor_le
  refine ⟨b, hb, hbase, ?_⟩
  rw [h.length]
  omega

/-- A payload that is kept is read back through its word as it was staged. -/
theorem Holds.readBytes {s : Machine σ} (h : s.guest.Holds p) {limit : Nat}
    (hs : s.guest.IsSound limit) (hexports : s.exports.isSome = true) :
    Bridge.readBytes p.slice.ptr p.slice.len s = .ok p.1 s := by
  obtain ⟨b, hb, _, hend⟩ := h.within hs.fits
  have hwithin := Nat.le_trans hend (hs.fits b hb).end_le
  rw [Bridge.readBytes, Run.bind_of_ok (Bridge.guestMemory_of_isSome hexports), Slice.rangeIn?,
    if_pos hwithin]
  simp only [Nat.add_sub_cancel_left]
  rw [h.length, Memory.read_eq_iff.mpr h.bytes]
  rfl

end GuestState

/-! ### Through a history -/

namespace Note

/-- The payload that an event hands out. -/
def handout? (n : Note σ) : Option Handout :=
  match n.deed with
  | .staged bytes word => some (bytes, word)
  | _ => none

/-- The range that the guest stores to, if that changes memory. -/
def stored? (n : Note σ) : Option (Nat × Nat) :=
  match n.deed with
  | .executed s frame =>
    if n.after.guest.memory = n.before.guest.memory then none else s.target? frame n.before.guest
  | _ => none

/-- The guest does not store into a range of memory. -/
def Spares (n : Note σ) (slice : Slice) : Prop :=
  ∀ range ∈ n.stored?, ∀ k < range.2, ¬ slice.Covers (range.1 + k)

instance (n : Note σ) (slice : Slice) : Decidable (n.Spares slice) :=
  inferInstanceAs (Decidable (∀ range ∈ n.stored?, ∀ k < range.2, ¬ slice.Covers (range.1 + k)))

/-- The guest stores into no staging buffer. -/
def SparesBuffers (n : Note σ) : Prop :=
  ∀ range ∈ n.stored?, ∀ b ∈ n.before.guest.pool.buffers, ∀ k < range.2, ¬ b.Covers (range.1 + k)

instance (n : Note σ) : Decidable n.SparesBuffers :=
  inferInstanceAs (Decidable (∀ range ∈ n.stored?, ∀ b ∈ n.before.guest.pool.buffers,
    ∀ k < range.2, ¬ b.Covers (range.1 + k)))

/-- A guest that spares all staging buffers spares every payload. -/
theorem SparesBuffers.spares {n : Note σ} (h : n.SparesBuffers) {limit : Nat}
    (hs : n.before.guest.IsSound limit) {p : Handout} (hp : n.before.guest.Holds p) :
    n.Spares p.slice := by
  intro range hrange k hk hcovers
  obtain ⟨b, hb, hbi⟩ := hp.handed hcovers
  exact h range hrange b hb k hk ((hs.fits b hb).covers_of_handed hbi)

end Note

/-- What was handed out in the course of a history, in order. -/
def handouts (notes : List (Note σ)) : List Handout := notes.filterMap Note.handout?

theorem handouts_append (notes more : List (Note σ)) :
    handouts (notes ++ more) = handouts notes ++ handouts more :=
  List.filterMap_append

/-- In the course of some events the guest does not store into what it was handed: neither into the
payloads that it has at the start, nor into those that it gets. -/
def SparesHandouts : List Handout → List (Note σ) → Prop
  | _, [] => True
  | ps, n :: rest => (∀ p ∈ ps, n.Spares p.slice) ∧ SparesHandouts (ps ++ n.handout?.toList) rest

instance decidableSparesHandouts : (ps : List Handout) → (notes : List (Note σ)) →
    Decidable (SparesHandouts ps notes)
  | _, [] => .isTrue trivial
  | ps, n :: rest =>
    have := decidableSparesHandouts (ps ++ n.handout?.toList) rest
    inferInstanceAs (Decidable ((∀ p ∈ ps, n.Spares p.slice) ∧ SparesHandouts _ rest))

/-- Simple statements leave alone what they do not store into. -/
theorem Effect.byteAt_of_spares {sandbox : Sandbox σ} {s : Statement} {frame : Frame}
    {before after : Machine σ} {o : Option Failure} (h : Effect sandbox frame s before o after)
    {slice : Slice} (hspares : (⟨.executed s frame, before, after⟩ : Note σ).Spares slice) {i : Nat}
    (hi : slice.Covers i) : after.guest.memory.byteAt i = before.guest.memory.byteAt i := by
  cases h with
  | @stored memory start count _ htarget _ hbytes =>
    by_cases hm : memory = before.guest.memory
    · exact hm ▸ rfl
    refine hbytes i ?_
    by_cases hin : start ≤ i ∧ i < start + count
    · have hnot := hspares (start, count) ((if_neg hm).trans htarget) (i - start) (by omega)
      exact absurd hi (Nat.add_sub_cancel' hin.1 ▸ hnot)
    · omega
  | grown => exact Memory.byteAt_grow ..
  | idle | trapped | globalSet | refused | tableGrown | spun => rfl

namespace Note.Legal

variable {sandbox : Sandbox σ} {n : Note σ} {ps : List Handout}

/-- A payload is handed out where nothing was handed out before, and no other payload changes. -/
theorem keeps_staged {bytes : ByteArray} {g : GuestState} {address : Address} {pool : StagingPool}
    {limit : Nat} (hlimit : limit < UInt32.size) (hs : g.IsSound limit) (hsep : pool.Separate)
    (hsize : bytes.size < UInt32.size)
    (hgrant : StagingPool.Grants g.memory.size g.pool (.ofNat bytes.size) address pool)
    (hfit : address.toNat + bytes.size ≤ g.memory.size) (h : g.Keeps ps) :
    GuestState.Keeps { g with pool, memory := g.memory.write address.toNat bytes }
      (ps ++ [(bytes, (Slice.mk address (.ofNat bytes.size)).pack)]) := by
  have hm : g.memory.size < UInt32.size := Nat.lt_of_le_of_lt hs.within hlimit
  have hlen : (UInt32.ofNat bytes.size).toNat = bytes.size := UInt32.toNat_ofNat_of_lt' hsize
  have hnot : ∀ {i : Nat}, address.toNat ≤ i ∧ i < address.toNat + bytes.size →
      ¬ g.pool.Handed i := by
    intro i hi
    exact hgrant.not_handed hs.fits hm hsep (by rwa [hlen])
  have hslice : Handout.slice (bytes, (Slice.mk address (.ofNat bytes.size)).pack)
      = ⟨address, .ofNat bytes.size⟩ := Slice.unpack_pack _
  refine (h.of_bytes (hgrant.holds_of_holds hs.fits) fun p hp i hi => ?_).append ?_ ?_
  · refine Memory.byteAt_write_of_outside hfit ?_
    by_cases hin : address.toNat ≤ i ∧ i < address.toNat + bytes.size
    · exact absurd ((h.each p hp).handed hi) (hnot hin)
    · omega
  · refine ⟨?_, ?_, ?_⟩
    · rw [hslice]
      exact hlen
    · rw [hslice]
      exact hlen ▸ hgrant.holds hs.fits hm
    · rw [hslice]
      exact Memory.read_eq_iff.mp (Memory.read_write hfit)
  · intro q hq i hi hnew
    refine hnot ?_ ((h.each q hq).handed hi)
    rw [Handout.Covers, hslice] at hnew
    exact ⟨hnew.1, hlen ▸ hnew.2⟩

theorem keeps_of_handout?_eq_none (hn : n.handout? = none) {g : GuestState} (h : g.Keeps ps) :
    g.Keeps (ps ++ n.handout?.toList) := by
  rwa [hn, Option.toList_none, List.append_nil]

/-- Every legal event keeps the payloads that the guest spares, with the one that it hands out. -/
theorem keeps (h : n.Legal sandbox) (hlimit : sandbox.memoryLimit < UInt32.size)
    (hs : n.before.guest.IsSound sandbox.memoryLimit) (hsep : n.after.guest.pool.Separate)
    (hspares : ∀ p ∈ ps, n.Spares p.slice) (hkeeps : n.before.guest.Keeps ps) :
    n.after.guest.Keeps (ps ++ n.handout?.toList) := by
  cases h with
  | @executed s frame before after o _ h =>
    refine keeps_of_handout?_eq_none rfl ?_
    have hpool : after.guest.pool = before.guest.pool := by cases h <;> rfl
    exact hkeeps.of_bytes (fun hholds => hpool ▸ hholds) fun p hp _ hi =>
      h.byteAt_of_spares (hspares p hp) hi
  | entered | rejected => exact keeps_of_handout?_eq_none rfl hkeeps
  | asked h => exact keeps_of_handout?_eq_none rfl (h.guest_eq ▸ hkeeps)
  | staged _ hsize hgrant hfit => exact keeps_staged hlimit hs hsep hsize hgrant hfit hkeeps
  | misplaced _ _ hgrant _ =>
    refine keeps_of_handout?_eq_none rfl ?_
    exact hkeeps.of_bytes (hgrant.holds_of_holds hs.fits) fun _ _ _ _ => rfl

end Note.Legal

namespace Leads

variable {sandbox : Sandbox σ} {s t : Machine σ} {notes : List (Note σ)} {ps : List Handout}

/-- **Payloads are kept** throughout a history in which buffers are separate and the guest does not
store into what it was handed. -/
theorem keeps_append (h : Leads sandbox s notes t) (hlimit : sandbox.memoryLimit < UInt32.size)
    (hs : s.guest.IsSound sandbox.memoryLimit) (hsep : t.guest.pool.Separate)
    (hspares : SparesHandouts ps notes) (hkeeps : s.guest.Keeps ps) :
    t.guest.Keeps (ps ++ handouts notes) := by
  induction h generalizing ps with
  | nil s => rwa [handouts, List.filterMap_nil, List.append_nil]
  | @cons n rest t hn h ih =>
    have hafter : n.after.guest.pool.Separate := hsep.of_prefix h.places_prefix
    have := ih (hn.isSound hs) hsep hspares.2 (hn.keeps hlimit hs hafter hspares.1 hkeeps)
    have hcons : handouts (n :: rest) = n.handout?.toList ++ handouts rest := by
      rw [handouts, List.filterMap_cons]
      cases n.handout? <;> rfl
    rwa [hcons, ← List.append_assoc]

/-- A guest that spares all staging buffers does not store into what it was handed. -/
theorem sparesHandouts (h : Leads sandbox s notes t) (hlimit : sandbox.memoryLimit < UInt32.size)
    (hs : s.guest.IsSound sandbox.memoryLimit) (hsep : t.guest.pool.Separate)
    (hspares : ∀ n ∈ notes, n.SparesBuffers) (hkeeps : s.guest.Keeps ps) :
    SparesHandouts ps notes := by
  induction h generalizing ps with
  | nil s => trivial
  | @cons n rest t hn h ih =>
    have hafter : n.after.guest.pool.Separate := hsep.of_prefix h.places_prefix
    have hnow : ∀ p ∈ ps, n.Spares p.slice := fun p hp =>
      (hspares n List.mem_cons_self).spares hs (hkeeps.each p hp)
    exact ⟨hnow, ih (hn.isSound hs) hsep (fun m hm => hspares m (List.mem_cons_of_mem _ hm))
      (hn.keeps hlimit hs hafter hnow hkeeps)⟩

/-- At the end of a history in which buffers are separate and the guest spares them, all that was
handed out in its course is there. -/
theorem keeps (h : Leads sandbox s notes t) (hlimit : sandbox.memoryLimit < UInt32.size)
    (hs : s.guest.IsSound sandbox.memoryLimit) (hsep : t.guest.pool.Separate)
    (hspares : ∀ n ∈ notes, n.SparesBuffers) : t.guest.Keeps (handouts notes) :=
  h.keeps_append hlimit hs hsep
    (h.sparesHandouts hlimit hs hsep hspares (GuestState.keeps_nil _)) (GuestState.keeps_nil _)

end Leads

end Guest

end ExtensionHost
