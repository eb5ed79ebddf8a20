import ExtensionHost.Proofs.Guest.Law
import ExtensionHost.Proofs.Guest.Payloads
import ExtensionHost.Proofs.Memory.Replay

/-!
# Fresh buffers for want of room

A payload that is staged gets a fresh buffer only if no buffer at hand has room.  That is decided
before the guest's allocator runs, and the payload is staged after it has; in between the guest may
do anything, and stage other payloads too.  So the moment at which there was no room lies further
back in the history than the event that hands out the payload, by as much as the allocator does.

**What this is good for.**  In a run of which the payloads are known to fit into the buffers at
hand, one after the other, no buffer is added (`Leads.served`).  An allocator that stages
payloads of its own does no harm: the room that is lacking when it is called is lacking when it
returns.

## Main definitions

* `Note.IsThrifty` and `Thrifty`
* `stagedSizes`, the sizes of the payloads that were handed out

## Main results

* `law_thrifty`, histories are thrifty
* `Leads.served`, where the buffers at hand suffice, they are all that is used
-/

namespace ExtensionHost

namespace Guest

open Bridge

variable {σ : Type} {sandbox : Sandbox σ}

/-- A payload is handed out at the start of a fresh buffer, of the size that is requested for it. -/
def Note.Adopts (n : Note σ) (bytes : ByteArray) (word : UInt64) : Prop :=
  ∃ base, word = (Slice.mk base (.ofNat bytes.size)).pack ∧
    n.after.guest.pool = n.before.guest.pool.adopt base
      (n.before.guest.pool.growthFor (.ofNat bytes.size)) (.ofNat bytes.size)

/-- An event that hands out a payload adds no buffer, or a fresh one for this payload; and then, at
the event itself or at one before it, there was no room for the payload at hand. -/
def Note.IsThrifty (past : List (Note σ)) (n : Note σ) : Prop :=
  ∀ bytes word, n.handout? = some (bytes, word) →
    n.after.guest.pool.places ≠ n.before.guest.pool.places →
    n.Adopts bytes word ∧
      ∃ k ∈ past ++ [n], k.before.guest.pool.reserve? (.ofNat bytes.size) = none

/-- After some events, events hand out payloads in fresh buffers for want of room only. -/
def Thrifty : List (Note σ) → List (Note σ) → Prop
  | _, [] => True
  | past, n :: rest => n.IsThrifty past ∧ Thrifty (past ++ [n]) rest

section Thrift

variable {past earlier notes more : List (Note σ)} {n : Note σ}

theorem Note.IsThrifty.mono (h : n.IsThrifty past) (hpast : past ⊆ earlier) :
    n.IsThrifty earlier := by
  intro bytes word hstaged hplaces
  obtain ⟨hadopts, k, hk, hroom⟩ := h bytes word hstaged hplaces
  refine ⟨hadopts, k, List.mem_append.mpr ?_, hroom⟩
  exact (List.mem_append.mp hk).imp_left fun hk => hpast hk

theorem Thrifty.mono (h : Thrifty past notes) (hpast : past ⊆ earlier) :
    Thrifty earlier notes := by
  induction notes generalizing past earlier with
  | nil => trivial
  | cons n rest ih =>
    have hnext : past ++ [n] ⊆ earlier ++ [n] :=
      List.append_subset.mpr
        ⟨List.subset_append_of_subset_left [n] hpast, List.subset_append_right earlier [n]⟩
    exact ⟨h.1.mono hpast, ih h.2 hnext⟩

theorem thrifty_append :
    Thrifty past (notes ++ more) ↔ Thrifty past notes ∧ Thrifty (past ++ notes) more := by
  induction notes generalizing past with
  | nil => rw [List.nil_append, List.append_nil]; exact ⟨fun h => ⟨trivial, h⟩, And.right⟩
  | cons n rest ih =>
    rw [List.cons_append, Thrifty, ih, Thrifty, and_assoc, List.append_assoc, List.singleton_append]

theorem thrifty_single (h : n.handout? = none) : Thrifty past [n] := by
  refine ⟨fun bytes word hstaged => ?_, trivial⟩
  rw [h] at hstaged
  cases hstaged

end Thrift

/-- A chain of events starts on the machine before its first event. -/
theorem Leads.exists_before {s t : Machine σ} {notes : List (Note σ)} {n : Note σ}
    (h : Leads sandbox s notes t) (hn : n.before = t) : ∃ k ∈ notes ++ [n], k.before = s := by
  cases h with
  | nil => exact ⟨n, List.mem_singleton_self n, hn⟩
  | @cons first rest => exact ⟨first, List.mem_cons_self, rfl⟩

/-- Without a memory to write to, nothing is staged. -/
theorem exists_error_of_unresolved (enter : Enter σ) {bytes : ByteArray} {s : Machine σ}
    {room : Address × StagingPool} (hsize : bytes.size < UInt32.size)
    (hs : ¬ s.exports.isSome = true)
    (hroom : s.guest.pool.reserve? (.ofNat bytes.size) = some room) :
    ∃ f t, stage enter bytes s = .error f t := by
  have hallocate : allocate enter (.ofNat bytes.size) s
      = .ok room.1 { s with guest := { s.guest with pool := room.2 } } := by
    rw [allocate, Run.get_bind, hroom]
    rfl
  have hmemory (t : Machine σ) (ht : t.exports = s.exports) :
      guestMemory t = .error (.host (.internal "guest memory not resolved")) t := by
    rw [guestMemory, Run.get_bind, ht, if_neg hs]
    rfl
  refine ⟨.host (.internal "guest memory not resolved"),
    { s with guest := { s.guest with pool := room.2 } }, ?_⟩
  rw [stage, if_neg (Nat.not_le.mpr hsize)]
  show (allocate enter (.ofNat bytes.size) >>= _) s = _
  rw [Run.bind_of_ok hallocate]
  exact Run.bind_of_error (hmemory _ rfl)

/-- Room at hand is in one of the buffers that there are. -/
theorem places_of_stage {enter : Enter σ} {bytes : ByteArray} {s t : Machine σ} {word : UInt64}
    {room : Address × StagingPool} (hsize : bytes.size < UInt32.size)
    (hroom : s.guest.pool.reserve? (.ofNat bytes.size) = some room)
    (hstage : stage enter bytes s = .ok word t) : t.guest.pool.places = s.guest.pool.places := by
  by_cases hs : s.exports.isSome = true
  · rw [stage_of_reserve? hsize hs hroom, place] at hstage
    split at hstage
    · cases hstage
      exact StagingPool.places_of_reserve? hroom
    · cases hstage
  · obtain ⟨f, u, herror⟩ := exists_error_of_unresolved enter hsize hs hroom
    rw [herror] at hstage
    cases hstage

/-- When the allocator has returned, the payload gets a buffer of the size that was requested. -/
theorem adopts_settled {enter : Enter σ} {bytes : ByteArray} {s t : Machine σ} {exports : Exports}
    {results : List UInt64} {notes : List (Note σ)} (hsize : bytes.size < UInt32.size)
    (hs : s.exports = some exports) (hroom : s.guest.pool.reserve? (.ofNat bytes.size) = none)
    (hmalloc : enter exports.malloc [(request bytes s).toUInt64] s = .ok results t)
    (hleads : Leads sandbox s notes t) {payload : ByteArray} {word : UInt64}
    (hstaged : (settled bytes t (stage enter bytes s)).handout? = some (payload, word)) :
    payload = bytes ∧ (settled bytes t (stage enter bytes s)).Adopts bytes word := by
  have ht : t.exports.isSome = true := by rw [hleads.exports_eq, hs]; rfl
  have hrequest : t.guest.pool.growthFor (.ofNat bytes.size) = request bytes s := by
    rw [request, StagingPool.growthFor, hleads.growthIncrement_eq]
    rfl
  cases hcheck : checkedAllocation? (results.headD 0).toUInt32 (request bytes s)
      t.guest.memory.size with
  | none =>
    rw [stage_of_rejected hsize hs hroom hmalloc ht hcheck] at hstaged
    cases hstaged
  | some base =>
    rw [stage_of_adopted hsize hs hroom hmalloc ht hcheck, place] at hstaged ⊢
    split at hstaged
    · rename_i hfit
      rw [if_pos hfit]
      cases hstaged
      refine ⟨rfl, base, rfl, ?_⟩
      rw [← hrequest]
      rfl
    · cases hstaged

/-- The allocator is called where there is no room, and this moment is the first one of its run. -/
theorem thrifty_stageStory {enter : Enter σ} {tell : Tell σ}
    (htells : ∀ name args, (tell name args).Tells sandbox (enter name args))
    (htell : ∀ name args s, Thrifty [] (tell name args s)) (bytes : ByteArray) (s : Machine σ) :
    Thrifty [] (stageStory enter tell bytes s) := by
  rw [stageStory]
  by_cases hlarge : UInt32.size ≤ bytes.size
  · rw [if_pos hlarge]
    trivial
  have hsize := Nat.not_le.mp hlarge
  rw [if_neg hlarge]
  cases hroom : s.guest.pool.reserve? (.ofNat bytes.size) with
  | some room =>
    cases hstage : stage enter bytes s with
    | ok word t =>
      refine ⟨fun _ _ hstaged hplaces => ?_, trivial⟩
      exact absurd (places_of_stage hsize hroom hstage) hplaces
    | error f t => exact thrifty_single rfl
  | none =>
    cases hexports : s.exports with
    | none => trivial
    | some exports =>
      refine thrifty_append.mpr ⟨htell _ _ s, ?_⟩
      cases hmalloc : enter exports.malloc [(request bytes s).toUInt64] s with
      | error f t => trivial
      | ok results t =>
        have hleads := htells exports.malloc [(request bytes s).toUInt64] s
          fun _ => by rw [hexports]; rfl
        rw [Run.after_of_ok hmalloc] at hleads
        have hbefore : (settled bytes t (stage enter bytes s)).before = t := by
          cases stage enter bytes s <;> rfl
        obtain ⟨k, hk, hfirst⟩ := hleads.exists_before hbefore
        refine ⟨fun payload word hstaged _ => ?_, trivial⟩
        obtain ⟨rfl, hadopts⟩ := adopts_settled hsize hexports hroom hmalloc hleads hstaged
        exact ⟨hadopts, k, hk, by rw [hfirst, hroom]⟩

/-- **Histories are thrifty.** -/
theorem law_thrifty (sandbox : Sandbox σ) : Story.Law sandbox (Thrifty []) where
  nil := trivial
  append h hmore := thrifty_append.mpr ⟨h, hmore.mono (List.nil_subset _)⟩
  executed _ _ _ _ := thrifty_single rfl
  entered _ _ _ := thrifty_single rfl
  asked _ := thrifty_single rfl
  stage := thrifty_stageStory

/-! ### Where the buffers at hand suffice -/

/-- The sizes of the payloads that were handed out, in order. -/
def stagedSizes (notes : List (Note σ)) : List UInt32 :=
  (handouts notes).map fun p => .ofNat p.1.size

/-- Where they were put. -/
def stagedAddresses (notes : List (Note σ)) : List Address := (handouts notes).map (·.slice.ptr)

theorem stagedSizes_append (notes more : List (Note σ)) :
    stagedSizes (notes ++ more) = stagedSizes notes ++ stagedSizes more := by
  rw [stagedSizes, handouts_append, List.map_append]
  rfl

theorem stagedAddresses_append (notes more : List (Note σ)) :
    stagedAddresses (notes ++ more) = stagedAddresses notes ++ stagedAddresses more := by
  rw [stagedAddresses, handouts_append, List.map_append]
  rfl

section Handouts

variable {n : Note σ} {bytes : ByteArray} {address : Address} {rest : List (Note σ)}

theorem handouts_cons (n : Note σ) (rest : List (Note σ)) :
    handouts (n :: rest) = n.handout?.toList ++ handouts rest := by
  rw [handouts, List.filterMap_cons]
  cases n.handout? <;> rfl

theorem stagedSizes_cons_of_none (h : n.handout? = none) :
    stagedSizes (n :: rest) = stagedSizes rest := by
  rw [stagedSizes, handouts_cons, h]
  rfl

theorem stagedAddresses_cons_of_none (h : n.handout? = none) :
    stagedAddresses (n :: rest) = stagedAddresses rest := by
  rw [stagedAddresses, handouts_cons, h]
  rfl

theorem stagedSizes_cons_of_some
    (h : n.handout? = some (bytes, (Slice.mk address (.ofNat bytes.size)).pack)) :
    stagedSizes (n :: rest) = .ofNat bytes.size :: stagedSizes rest := by
  rw [stagedSizes, handouts_cons, h]
  rfl

theorem stagedAddresses_cons_of_some
    (h : n.handout? = some (bytes, (Slice.mk address (.ofNat bytes.size)).pack)) :
    stagedAddresses (n :: rest) = address :: stagedAddresses rest := by
  have hslice : Handout.slice (bytes, (Slice.mk address (.ofNat bytes.size)).pack)
      = ⟨address, .ofNat bytes.size⟩ := Slice.unpack_pack _
  rw [stagedAddresses, handouts_cons, h, Option.toList_some, List.singleton_append, List.map_cons,
    hslice]
  rfl

/-- An event that hands out a payload is granted room for it, and no other one changes the pool. -/
theorem Note.Legal.handout_cases (h : n.Legal sandbox) (hlimit : sandbox.memoryLimit < UInt32.size)
    (hs : n.before.guest.IsSound sandbox.memoryLimit) :
    (n.handout? = none ∧ n.after.guest.pool = n.before.guest.pool) ∨
      ∃ bytes address,
        n.handout? = some (bytes, (Slice.mk address (.ofNat bytes.size)).pack) ∧
        StagingPool.Grants n.before.guest.memory.size n.before.guest.pool (.ofNat bytes.size)
          address n.after.guest.pool := by
  cases h with
  | executed _ he =>
    refine Or.inl ⟨rfl, ?_⟩
    cases he <;> rfl
  | entered | rejected => exact Or.inl ⟨rfl, rfl⟩
  | asked ha => exact Or.inl ⟨rfl, by rw [ha.guest_eq]⟩
  | staged _ _ hgrant _ => exact Or.inr ⟨_, _, rfl, hgrant⟩
  | misplaced _ hsize hgrant hfit =>
    have hwithin := hgrant.within hs.fits (Nat.lt_of_le_of_lt hs.within hlimit)
    rw [UInt32.toNat_ofNat_of_lt' hsize] at hwithin
    exact absurd hwithin (Nat.not_le.mpr hfit)

theorem places_ne_of_adopt {p q : StagingPool} {base : Address} {capacity size : UInt32}
    (h : q = p.adopt base capacity size) : q.places ≠ p.places := by
  rw [h, StagingPool.places_adopt]
  simp

end Handouts

/-- All payloads of some events have been served from the buffers of a pool, which leaves the pool
of a machine; and so it is from each of the events on. -/
structure Served (p : StagingPool) (past : List (Note σ)) (t : Machine σ) : Prop where
  /-- From the beginning on. -/
  served : p.reserveAll? (stagedSizes past) = some (stagedAddresses past, t.guest.pool)
  /-- From each of the events on. -/
  since : ∀ k ∈ past, ∃ sizes addresses,
    k.before.guest.pool.reserveAll? sizes = some (addresses, t.guest.pool)

namespace Served

variable {p : StagingPool} {past : List (Note σ)} {n : Note σ}

theorem nil (t : Machine σ) : Served t.guest.pool [] t :=
  ⟨rfl, fun _ hk => absurd hk List.not_mem_nil⟩

/-- Another event follows. -/
theorem snoc (h : Served p past n.before)
    (hn : n.before.guest.pool.reserveAll? (stagedSizes [n])
      = some (stagedAddresses [n], n.after.guest.pool)) : Served p (past ++ [n]) n.after := by
  constructor
  · rw [stagedSizes_append, stagedAddresses_append]
    exact StagingPool.reserveAll?_append_eq_some_iff.mpr ⟨_, _, _, h.served, hn, rfl⟩
  · intro k hk
    rcases List.mem_append.mp hk with hk | hk
    · obtain ⟨sizes, addresses, hsince⟩ := h.since k hk
      exact ⟨_, _, StagingPool.reserveAll?_append_eq_some_iff.mpr ⟨_, _, _, hsince, hn, rfl⟩⟩
    · obtain rfl := List.mem_singleton.mp hk
      exact ⟨_, _, hn⟩

/-- Where there is no room at the moment, a payload does not fit. -/
theorem reserveAll?_eq_none (h : Served p past n.before) {size : UInt32}
    (hroom : ∃ k ∈ past ++ [n], k.before.guest.pool.reserve? size = none) :
    p.reserveAll? (stagedSizes past ++ [size]) = none := by
  have hnow : n.before.guest.pool.reserve? size = none := by
    obtain ⟨k, hk, hnone⟩ := hroom
    rcases List.mem_append.mp hk with hk | hk
    · obtain ⟨sizes, addresses, hsince⟩ := h.since k hk
      exact StagingPool.reserve?_eq_none_of_reserveAll? hsince hnone
    · exact List.mem_singleton.mp hk ▸ hnone
  rw [Option.eq_none_iff_forall_ne_some]
  rintro ⟨addresses, q⟩ hall
  obtain ⟨before, q', after, hbefore, hafter, -⟩ :=
    StagingPool.reserveAll?_append_eq_some_iff.mp hall
  obtain ⟨rfl, rfl⟩ := Prod.mk.inj (Option.some.inj (h.served.symm.trans hbefore))
  obtain ⟨address, r, rest, hsize, -⟩ := StagingPool.reserveAll?_cons_eq_some_iff.mp hafter
  rw [hnow] at hsize
  cases hsize

/-- Every legal event that is thrifty takes room at hand, if there is room for its payload. -/
theorem step (h : Served p past n.before) (hn : n.Legal sandbox)
    (hlimit : sandbox.memoryLimit < UInt32.size)
    (hs : n.before.guest.IsSound sandbox.memoryLimit) (hthrifty : n.IsThrifty past)
    (hfits : (p.reserveAll? (stagedSizes (past ++ [n]))).isSome = true) :
    Served p (past ++ [n]) n.after := by
  rcases hn.handout_cases hlimit hs with ⟨hnone, hpool⟩ | ⟨bytes, address, hsome, hgrant⟩
  · refine h.snoc ?_
    rw [stagedSizes_cons_of_none hnone, stagedAddresses_cons_of_none hnone, hpool]
    rfl
  have hsizes : stagedSizes [n] = [.ofNat bytes.size] := stagedSizes_cons_of_some hsome
  have haddresses : stagedAddresses [n] = [address] := stagedAddresses_cons_of_some hsome
  generalize hpool : n.after.guest.pool = pool at hgrant
  cases hgrant with
  | reserved hroom =>
    refine h.snoc ?_
    rw [hsizes, haddresses, hpool]
    exact StagingPool.reserveAll?_singleton hroom
  | adopted hle hcheck =>
    obtain ⟨-, hroom⟩ := hthrifty bytes _ hsome (places_ne_of_adopt hpool)
    have hnone := h.reserveAll?_eq_none hroom
    rw [stagedSizes_append, hsizes, hnone] at hfits
    cases hfits

end Served

/-- **Where the buffers at hand suffice, they are all that is used.** -/
theorem Leads.served {s t : Machine σ} {past notes : List (Note σ)} (h : Leads sandbox s notes t)
    (hlimit : sandbox.memoryLimit < UInt32.size) (hs : s.guest.IsSound sandbox.memoryLimit)
    (hthrifty : Thrifty past notes) {p : StagingPool}
    (hfits : (p.reserveAll? (stagedSizes (past ++ notes))).isSome = true)
    (hserved : Served p past s) : Served p (past ++ notes) t := by
  induction h generalizing past with
  | nil s => rwa [List.append_nil]
  | @cons n rest t hn _ ih =>
    have hassoc : past ++ n :: rest = past ++ [n] ++ rest := by
      rw [List.append_assoc, List.singleton_append]
    rw [hassoc] at hfits ⊢
    have hfirst : (p.reserveAll? (stagedSizes (past ++ [n]))).isSome = true := by
      obtain ⟨⟨addresses, r⟩, hall⟩ := Option.isSome_iff_exists.mp hfits
      rw [stagedSizes_append] at hall
      obtain ⟨_, _, _, hbefore, -⟩ := StagingPool.reserveAll?_append_eq_some_iff.mp hall
      rw [hbefore]
      rfl
    exact ih (hn.isSound hs) hthrifty.2 hfits (hserved.step hn hlimit hs hthrifty.1 hfirst)

/-- At an event that hands out a payload in a fresh buffer, there is no room for it at hand.  This
is so unless the allocator that provides the buffer stages payloads, too. -/
def Note.LacksRoom (n : Note σ) : Prop :=
  ∀ p ∈ n.handout?, n.after.guest.pool.places ≠ n.before.guest.pool.places →
    n.before.guest.pool.reserve? (.ofNat p.1.size) = none

instance (n : Note σ) : Decidable n.LacksRoom :=
  inferInstanceAs (Decidable (∀ p ∈ n.handout?, n.after.guest.pool.places
    ≠ n.before.guest.pool.places → n.before.guest.pool.reserve? (.ofNat p.1.size) = none))

/-- **A run that serves requests.**  What is staged in the course of a run is served one after the
other, with fresh buffers where there is no room. -/
theorem Leads.serves {s t : Machine σ} {past notes : List (Note σ)} (h : Leads sandbox s notes t)
    (hlimit : sandbox.memoryLimit < UInt32.size) (hs : s.guest.IsSound sandbox.memoryLimit)
    (hthrifty : Thrifty past notes) (hlacks : ∀ n ∈ notes, n.LacksRoom) :
    s.guest.pool.Serves (stagedSizes notes) (stagedAddresses notes) t.guest.pool := by
  induction h generalizing past with
  | nil s => exact .nil _
  | @cons n rest t hn _ ih =>
    have hrest := ih (hn.isSound hs) hthrifty.2 fun k hk => hlacks k (List.mem_cons_of_mem n hk)
    rcases hn.handout_cases hlimit hs with ⟨hnone, hpool⟩ | ⟨bytes, address, hsome, hgrant⟩
    · rw [stagedSizes_cons_of_none hnone, stagedAddresses_cons_of_none hnone, ← hpool]
      exact hrest
    rw [stagedSizes_cons_of_some hsome, stagedAddresses_cons_of_some hsome]
    generalize hpool : n.after.guest.pool = pool at hgrant
    rw [hpool] at hrest
    cases hgrant with
    | reserved hroom => exact .reserved hroom hrest
    | adopted hle hcheck =>
      have hne := places_ne_of_adopt hpool
      obtain ⟨⟨base, hword, hadopts⟩, -⟩ := hthrifty.1 bytes _ hsome hne
      have hnone := hlacks n List.mem_cons_self _ hsome hne
      obtain ⟨rfl, -⟩ := Slice.mk.inj (Slice.pack_inj hword)
      refine .adopted hnone ?_
      rwa [← hadopts, hpool]

end Guest

end ExtensionHost
