import ExtensionHost.Proofs.Memory.Staging

/-!
# Serving the same requests again

A pool that has served some requests, with fresh buffers where no buffer at hand had room, serves
the same requests again without a fresh one once it is rewound.

**Why.**  The second time all buffers are there from the start, and the first time they appeared
one by one.  At every moment the buffers of the first run are a beginning of those of the second,
with the same cursors, and the others are still full (`Serves.reserveAll?_append`).  Where the first
run found room, first fit finds the same room before it comes to the others.  Where it did not, the
first of the others is the buffer that was adopted then.

## Main definitions

* `StagingPool.Serves`, requests are served, with fresh buffers where there is no room
* `StagingPool.reserveAll?`, requests are served from the buffers at hand

## Main results

* `StagingPool.Serves.reserveAll?_reset`, replaying needs no fresh buffer
* `StagingPool.reserve?_eq_none_of_reserveAll?`, serving requests does not make room
-/

namespace ExtensionHost

namespace StagingPool

/-! ### Want of room -/

theorem reserveIn?_eq_none_iff {size : UInt32} {buffers : List StagingBuffer} :
    reserveIn? size buffers = none ↔ ∀ b ∈ buffers, b.remaining < size := by
  induction buffers with
  | nil => exact iff_of_true rfl fun b hb => absurd hb List.not_mem_nil
  | cons b rest ih =>
    rw [List.forall_mem_cons, ← ih, reserveIn?]
    by_cases hb : size ≤ b.remaining
    · rw [if_pos hb]
      exact iff_of_false (Option.some_ne_none _) fun h => absurd hb (UInt32.not_le.mpr h.1)
    · rw [if_neg hb, Option.map_eq_none_iff]
      exact ⟨fun h => ⟨UInt32.not_le.mp hb, h⟩, And.right⟩

/-- There is no room at hand if every buffer has too little of it. -/
theorem reserve?_eq_none_iff {p : StagingPool} {size : UInt32} :
    p.reserve? size = none ↔ ∀ b ∈ p.buffers, b.remaining < size := by
  rw [reserve?, Option.map_eq_none_iff, reserveIn?_eq_none_iff]

/-! ### Buffers behind others -/

/-- A pool with some more buffers behind its own. -/
def append (p : StagingPool) (more : List StagingBuffer) : StagingPool :=
  { p with buffers := p.buffers ++ more }

theorem append_nil (p : StagingPool) : p.append [] = p := by
  rw [append, List.append_nil]

/-- Room that is found at hand is found whatever buffers stand behind. -/
theorem reserve?_append {p q : StagingPool} {size : UInt32} {address : Address}
    (h : p.reserve? size = some (address, q)) (more : List StagingBuffer) :
    (p.append more).reserve? size = some (address, q.append more) := by
  obtain ⟨full, b, rest, hp, hfull, hb, rfl, rfl⟩ := reserve?_eq_some_iff.mp h
  refine reserve?_eq_some_iff.mpr ⟨full, b, rest ++ more, ?_, hfull, hb, rfl, ?_⟩
  · rw [append, hp, List.append_assoc, List.cons_append]
  · rw [append, List.append_assoc, List.cons_append]
    rfl

/-- A buffer in a place, of which nothing was handed out. -/
def rewound (place : Address × UInt32) : StagingBuffer := ⟨place.1, place.2, 0⟩

theorem remaining_rewound (place : Address × UInt32) : (rewound place).remaining = place.2 :=
  UInt32.sub_zero place.2

theorem front_rewound (place : Address × UInt32) : (rewound place).front = place.1 := by
  refine UInt32.toNat_inj.mp (Address.toNat_offset ?_)
  exact place.1.toNat_lt

/-- Where there is no room at hand, it is found in the first buffer behind. -/
theorem reserve?_append_rewound {p : StagingPool} {size capacity : UInt32} {base : Address}
    (h : p.reserve? size = none) (hle : size ≤ capacity) (more : List StagingBuffer) :
    (p.append (rewound (base, capacity) :: more)).reserve? size
      = some (base, (p.adopt base capacity size).append more) := by
  have hmin : min size capacity = size := if_pos hle
  have htake : (rewound (base, capacity)).take size = ⟨base, capacity, min size capacity⟩ := by
    rw [StagingBuffer.take, rewound, hmin, UInt32.zero_add]
  refine reserve?_eq_some_iff.mpr ⟨p.buffers, rewound (base, capacity), more, rfl,
    reserve?_eq_none_iff.mp h, ?_, (front_rewound (base, capacity)).symm, ?_⟩
  · rwa [remaining_rewound]
  · rw [append, adopt, htake, List.append_assoc]
    rfl

/-! ### Rewinding -/

/-- What a rewound pool is like depends on the places of the buffers alone. -/
theorem buffers_reset (p : StagingPool) : p.reset.buffers = p.places.map rewound := by
  rw [reset, places, List.map_map]
  rfl

theorem reset_eq_of_places {p q : StagingPool} (h : p.places = q.places)
    (hincrement : p.growthIncrement = q.growthIncrement) : p.reset = q.reset := by
  have hbuffers : p.reset.buffers = q.reset.buffers := by
    rw [buffers_reset, buffers_reset, h]
  calc p.reset = ⟨p.reset.buffers, p.growthIncrement⟩ := rfl
    _ = ⟨q.reset.buffers, q.growthIncrement⟩ := by rw [hbuffers, hincrement]
    _ = q.reset := rfl

theorem places_adopt (p : StagingPool) (base : Address) (capacity size : UInt32) :
    (p.adopt base capacity size).places = p.places ++ [(base, capacity)] :=
  List.map_append

@[simp] theorem places_reset (p : StagingPool) : p.reset.places = p.places := by
  rw [places, places, reset, List.map_map]
  rfl

/-- A pool that is rewound already stays as it is. -/
theorem reset_eq_self {p : StagingPool} (h : ∀ b ∈ p.buffers, b.cursor = 0) : p.reset = p := by
  have hbuffers : p.buffers.map ({ · with cursor := 0 }) = p.buffers := by
    refine (List.map_congr_left fun b hb => ?_).trans (List.map_id _)
    rw [← h b hb]
    rfl
  rw [reset, hbuffers]

@[simp] theorem reset_reset (p : StagingPool) : p.reset.reset = p.reset :=
  reset_eq_self fun _ hb => cursor_of_mem_reset hb

/-! ### Requests one after the other -/

/-- A pool serves requests one after the other.  Where no buffer at hand has room, it gets a fresh
one at some address. -/
inductive Serves : StagingPool → List UInt32 → List Address → StagingPool → Prop where
  /-- There is nothing left to serve. -/
  | nil (p : StagingPool) : Serves p [] [] p
  /-- There is room at hand. -/
  | reserved {p q r : StagingPool} {size : UInt32} {sizes : List UInt32} {address : Address}
    {addresses : List Address} (h : p.reserve? size = some (address, q))
    (hrest : Serves q sizes addresses r) : Serves p (size :: sizes) (address :: addresses) r
  /-- There is none, and a fresh buffer is adopted. -/
  | adopted {p r : StagingPool} {size : UInt32} {sizes : List UInt32} {base : Address}
    {addresses : List Address} (h : p.reserve? size = none)
    (hrest : Serves (p.adopt base (p.growthFor size) size) sizes addresses r) :
    Serves p (size :: sizes) (base :: addresses) r

/-- Serve requests one after the other from the buffers at hand. -/
def reserveAll? (p : StagingPool) : List UInt32 → Option (List Address × StagingPool)
  | [] => some ([], p)
  | size :: sizes => do
    let (address, p) ← p.reserve? size
    let (addresses, p) ← p.reserveAll? sizes
    return (address :: addresses, p)

section Requests

variable {p q r : StagingPool} {size : UInt32} {sizes more : List UInt32} {address : Address}
  {addresses others : List Address}

theorem reserveAll?_cons_eq_some_iff :
    p.reserveAll? (size :: sizes) = some (addresses, r) ↔
      ∃ address q rest, p.reserve? size = some (address, q) ∧
        q.reserveAll? sizes = some (rest, r) ∧ addresses = address :: rest := by
  simp only [reserveAll?, Option.bind_eq_bind, Option.bind_eq_some_iff, Option.pure_def,
    Option.some.injEq, Prod.mk.injEq, Prod.exists]
  constructor
  · rintro ⟨address, q, h, rest, _, hrest, rfl, rfl⟩
    exact ⟨address, q, rest, h, hrest, rfl⟩
  · rintro ⟨address, q, rest, h, hrest, rfl⟩
    exact ⟨address, q, h, rest, r, hrest, rfl, rfl⟩

/-- Requests are served in two goes as in one. -/
theorem reserveAll?_append_eq_some_iff :
    p.reserveAll? (sizes ++ more) = some (addresses, r) ↔
      ∃ before q after, p.reserveAll? sizes = some (before, q) ∧
        q.reserveAll? more = some (after, r) ∧ addresses = before ++ after := by
  induction sizes generalizing p addresses with
  | nil =>
    constructor
    · intro h
      exact ⟨[], p, addresses, rfl, h, rfl⟩
    · rintro ⟨before, q, after, h, hmore, rfl⟩
      cases h
      exact hmore
  | cons size sizes ih =>
    rw [List.cons_append, reserveAll?_cons_eq_some_iff]
    constructor
    · rintro ⟨address, q, rest, hsize, hrest, rfl⟩
      obtain ⟨before, q', after, hbefore, hafter, rfl⟩ := ih.mp hrest
      exact ⟨address :: before, q', after,
        reserveAll?_cons_eq_some_iff.mpr ⟨address, q, before, hsize, hbefore, rfl⟩, hafter, rfl⟩
    · rintro ⟨_, q', after, hfirst, hafter, rfl⟩
      obtain ⟨address, q, before, hsize, hbefore, rfl⟩ := reserveAll?_cons_eq_some_iff.mp hfirst
      exact ⟨address, q, before ++ after, hsize, ih.mpr ⟨before, q', after, hbefore, hafter, rfl⟩,
        rfl⟩

theorem reserveAll?_singleton (h : p.reserve? size = some (address, q)) :
    p.reserveAll? [size] = some ([address], q) :=
  reserveAll?_cons_eq_some_iff.mpr ⟨address, q, [], h, rfl, rfl⟩

/-- Serving requests makes no room. -/
theorem remaining_take_le {b : StagingBuffer} (h : size ≤ b.remaining) :
    (b.take size).remaining ≤ b.remaining := by
  have htake : (b.take size).remaining = b.remaining - size := by
    show b.capacity - (b.cursor + size) = b.capacity - b.cursor - size
    grind
  rw [htake, UInt32.le_iff_toNat_le, UInt32.toNat_sub_of_le _ _ h]
  exact Nat.sub_le ..

theorem reserve?_eq_none_of_reserve? {wanted : UInt32} (h : p.reserve? size = some (address, q))
    (hnone : p.reserve? wanted = none) : q.reserve? wanted = none := by
  obtain ⟨full, b, rest, hp, _, hb, _, rfl⟩ := reserve?_eq_some_iff.mp h
  rw [reserve?_eq_none_iff] at hnone ⊢
  simp only [hp, List.mem_append, List.mem_cons] at hnone
  intro c hc
  rcases List.mem_append.mp hc with hc | hc
  · exact hnone c (Or.inl hc)
  · rcases List.mem_cons.mp hc with rfl | hc
    · exact UInt32.lt_of_le_of_lt (remaining_take_le hb) (hnone b (Or.inr (Or.inl rfl)))
    · exact hnone c (Or.inr (Or.inr hc))

/-- Where there was no room for a payload, there is none after other requests. -/
theorem reserve?_eq_none_of_reserveAll? {wanted : UInt32}
    (h : p.reserveAll? sizes = some (addresses, q)) (hnone : p.reserve? wanted = none) :
    q.reserve? wanted = none := by
  induction sizes generalizing p addresses with
  | nil =>
    cases h
    exact hnone
  | cons size sizes ih =>
    obtain ⟨address, p', rest, hsize, hrest, -⟩ := reserveAll?_cons_eq_some_iff.mp h
    exact ih hrest (reserve?_eq_none_of_reserve? hsize hnone)

theorem places_of_reserve? (h : p.reserve? size = some (address, q)) : q.places = p.places := by
  obtain ⟨full, b, rest, hp, _, _, _, rfl⟩ := reserve?_eq_some_iff.mp h
  rw [places, places, hp, List.map_append, List.map_append]
  rfl

theorem growthIncrement_of_reserve? (h : p.reserve? size = some (address, q)) :
    q.growthIncrement = p.growthIncrement := by
  obtain ⟨full, b, rest, _, _, _, _, rfl⟩ := reserve?_eq_some_iff.mp h
  rfl

/-- Serving requests from the buffers at hand moves no buffer and adds none. -/
theorem reset_of_reserveAll? (h : p.reserveAll? sizes = some (addresses, q)) :
    q.reset = p.reset := by
  induction sizes generalizing p addresses with
  | nil =>
    cases h
    rfl
  | cons size sizes ih =>
    obtain ⟨address, p', rest, hsize, hrest, -⟩ := reserveAll?_cons_eq_some_iff.mp h
    exact (ih hrest).trans
      (reset_eq_of_places (places_of_reserve? hsize) (growthIncrement_of_reserve? hsize))

theorem length_of_reserveAll? (h : p.reserveAll? sizes = some (addresses, q)) :
    addresses.length = sizes.length := by
  induction sizes generalizing p addresses with
  | nil =>
    cases h
    rfl
  | cons size sizes ih =>
    obtain ⟨address, p', rest, _, hrest, rfl⟩ := reserveAll?_cons_eq_some_iff.mp h
    rw [List.length_cons, List.length_cons, ih hrest]

end Requests

/-! ### Replaying -/

namespace Serves

variable {p q : StagingPool} {sizes : List UInt32} {addresses : List Address}

theorem places_prefix (h : Serves p sizes addresses q) : p.places <+: q.places := by
  induction h with
  | nil p => exact List.prefix_refl _
  | reserved h _ ih => exact places_of_reserve? h ▸ ih
  | adopted _ _ ih => exact (places_adopt .. ▸ List.prefix_append ..).trans ih

theorem growthIncrement_eq (h : Serves p sizes addresses q) :
    q.growthIncrement = p.growthIncrement := by
  induction h with
  | nil p => rfl
  | reserved h _ ih => exact ih.trans (growthIncrement_of_reserve? h)
  | adopted _ _ ih => exact ih

/-- **Two runs side by side.**  If the buffers that a run is going to adopt stand behind those at
hand, full, the same requests are served without adopting any, and lead to the same pool. -/
theorem reserveAll?_append (h : Serves p sizes addresses q) {later : List (Address × UInt32)}
    (hlater : q.places = p.places ++ later) :
    (p.append (later.map rewound)).reserveAll? sizes = some (addresses, q) := by
  induction h generalizing later with
  | nil p =>
    rw [List.self_eq_append_right] at hlater
    subst hlater
    rw [List.map_nil, append_nil]
    rfl
  | reserved h _ ih =>
    rw [← places_of_reserve? h] at hlater
    exact reserveAll?_cons_eq_some_iff.mpr ⟨_, _, _, reserve?_append h _, ih hlater, rfl⟩
  | @adopted p r size sizes base addresses h hrest ih =>
    -- the buffer that is adopted here is the first one behind those at hand
    obtain ⟨rest, hplaces⟩ := hrest.places_prefix
    rw [places_adopt, List.append_assoc, List.singleton_append] at hplaces
    obtain rfl : (base, p.growthFor size) :: rest = later :=
      List.append_cancel_left (hplaces.trans hlater)
    refine reserveAll?_cons_eq_some_iff.mpr ⟨_, _, _,
      reserve?_append_rewound h (le_growthFor p size) _, ih ?_, rfl⟩
    rw [places_adopt, List.append_assoc, List.singleton_append]
    exact hlater

/-- **Replaying.**  A pool that has served requests from the start serves them again, once it is
rewound, from the buffers at hand: at the same addresses, and with the same pool at the end. -/
theorem reserveAll?_reset (h : Serves p sizes addresses q) (hp : ∀ b ∈ p.buffers, b.cursor = 0) :
    q.reset.reserveAll? sizes = some (addresses, q) := by
  obtain ⟨later, hlater⟩ := h.places_prefix
  have hreset : q.reset = p.append (later.map rewound) := by
    have hbuffers : q.reset.buffers = p.buffers ++ later.map rewound := by
      rw [buffers_reset, ← hlater, List.map_append, ← buffers_reset, reset_eq_self hp]
    calc q.reset = ⟨q.reset.buffers, q.growthIncrement⟩ := rfl
      _ = ⟨p.buffers ++ later.map rewound, p.growthIncrement⟩ := by
        rw [hbuffers, h.growthIncrement_eq]
      _ = p.append (later.map rewound) := rfl
  rw [hreset]
  exact h.reserveAll?_append hlater.symm

end Serves

end StagingPool

end ExtensionHost
