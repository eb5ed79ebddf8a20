import ExtensionHost.Proofs.Bridge.Allocation
import ExtensionHost.Proofs.Engine.Recovery
import ExtensionHost.Proofs.Engine.Staging
import ExtensionHost.Proofs.Guest.Thrift

/-!
# Invocations that stage the same payloads

A pool that has served the payloads of one invocation serves those of the next one from the buffers
that it has got by then, if they have the same sizes; and so on for any number of invocations.

**Two descriptions of a run.**  Requests to a pool come one after the other, and this is how
replaying is stated (`StagingPool.Serves.reserveAll?_reset`).  A run of a guest is more: an allocator
that is called for one payload may stage another one before it returns.  A first run is a sequence
of requests where this does not happen (`GuestModule.serves_final`).  Of later ones nothing of the
kind is asked, since their payloads find room and the allocator is not called.

## Main definitions

* `GuestModule.Replays`, invocations that stage no more than some payloads

## Main results

* `Engine.replays_need_no_allocation`
-/

namespace ExtensionHost

open Guest

namespace GuestModule

/-- Invocations of a module one after the other, each on what the one before has left.  The payloads
that an invocation stages have the sizes of a list; it may end before all of them are staged. -/
inductive Replays (sizes : List UInt32) (m : GuestModule) : GuestModule → Prop where
  /-- There is no invocation. -/
  | refl : Replays sizes m m
  /-- There is one more. -/
  | run {m' : GuestModule} {σ : Type} {adapter : Adapter σ} {state : σ} {function : String}
    {ticks : Nat} (h : Replays sizes m m')
    (hsizes : stagedSizes (m'.history adapter state function ticks) <+: sizes) :
    Replays sizes m (m'.run adapter state function ticks).2.1

section Invocation

variable {σ : Type} {m loaded : GuestModule} {adapter : Adapter σ} {state : σ} {function : String}
  {ticks : Nat} {past later : List (Note σ)}

theorem thrifty_history (m : GuestModule) (adapter : Adapter σ) (state : σ) (function : String)
    (ticks : Nat) : Thrifty [] (m.history adapter state function ticks) :=
  (law_thrifty (m.sandbox adapter)).historyNested _ function [] (m.start state ticks)

/-- An invocation is a sequence of requests, if a payload for which the allocator is called has no
room by the time it is staged. -/
theorem serves_final (h : m.Continues loaded) (hloaded : loaded.IsLoaded) (adapter : Adapter σ)
    (state : σ) (function : String) (ticks : Nat)
    (hlacks : ∀ n ∈ m.history adapter state function ticks, n.LacksRoom) :
    m.guest.pool.reset.Serves (stagedSizes (m.history adapter state function ticks))
      (stagedAddresses (m.history adapter state function ticks))
      (m.final adapter state function ticks).guest.pool :=
  (m.leads_history adapter state function ticks).serves (h.memoryLimit_lt hloaded adapter)
    (h.isSound_start adapter state ticks) (m.thrifty_history adapter state function ticks) hlacks

/-- As long as the payloads of an invocation find room in the buffers that are there when it starts,
nothing else is used. -/
theorem Continues.reserveAll?_past (h : m.Continues loaded) (hloaded : loaded.IsLoaded)
    (hsplit : m.history adapter state function ticks = past ++ later) {sizes : List UInt32}
    {addresses : List Address} {q : StagingPool}
    (hserves : m.guest.pool.reset.reserveAll? sizes = some (addresses, q))
    (hsizes : stagedSizes past <+: sizes) :
    m.guest.pool.reset.reserveAll? (stagedSizes past)
      = some (stagedAddresses past, (reached (m.start state ticks) past).guest.pool) := by
  obtain ⟨more, rfl⟩ := hsizes
  obtain ⟨_, _, _, hfirst, -⟩ := StagingPool.reserveAll?_append_eq_some_iff.mp hserves
  have hthrifty := m.thrifty_history adapter state function ticks
  rw [hsplit] at hthrifty
  have hserved := (m.leads_past adapter state function ticks hsplit).served
    (h.memoryLimit_lt hloaded adapter) (h.isSound_start adapter state ticks)
    (thrifty_append.mp hthrifty).1 (p := m.guest.pool.reset) (by rw [List.nil_append, hfirst]; rfl)
    (.nil (m.start state ticks))
  exact hserved.served

/-- So the pool is rewound to the same one before and after the invocation. -/
theorem Continues.reset_run (h : m.Continues loaded) (hloaded : loaded.IsLoaded)
    {sizes : List UInt32} {addresses : List Address} {q : StagingPool}
    (hserves : m.guest.pool.reset.reserveAll? sizes = some (addresses, q))
    (hsizes : stagedSizes (m.history adapter state function ticks) <+: sizes) :
    (m.run adapter state function ticks).2.1.guest.pool.reset = m.guest.pool.reset := by
  have hall := h.reserveAll?_past hloaded (List.append_nil _).symm hserves hsizes
  rw [← (m.leads_history adapter state function ticks).eq_reached] at hall
  rw [guest_run h.unbound]
  exact (StagingPool.reset_of_reserveAll? hall).trans (StagingPool.reset_reset _)

/-- Invocations that stage no more than some payloads keep the pool, up to its cursors. -/
theorem Replays.continues_and_reset {m m' : GuestModule} {sizes : List UInt32}
    (h : Replays sizes m m') (hm : m.Continues loaded) (hloaded : loaded.IsLoaded)
    {addresses : List Address} {q : StagingPool}
    (hserves : m.guest.pool.reset.reserveAll? sizes = some (addresses, q)) :
    m'.Continues loaded ∧ m'.guest.pool.reset = m.guest.pool.reset := by
  induction h with
  | refl => exact ⟨hm, rfl⟩
  | run _ hsizes ih =>
    obtain ⟨hcontinues, hreset⟩ := ih
    have hrun := hcontinues.reset_run hloaded (hreset ▸ hserves) hsizes
    exact ⟨hcontinues.run _ _ _ _, hrun.trans hreset⟩

end Invocation

end GuestModule

namespace Engine

/-- **Replaying needs no allocation.**  Let a pool that has handed out nothing serve requests one
after the other, from a buffer at hand where there is room, and else from a fresh one at any
address, of the size that is requested for it.  When it is rewound, it serves the same requests from
the buffers at hand, at the same addresses, and ends up as it was.

So take a module of a reachable engine with this pool, and any number of invocations that stage
payloads of these sizes.  At every moment of a further one, as long as it does so too, there are the
same buffers, and the payloads stand at the addresses of the first run.  The next payload finds room
at the next address without the guest being entered, and when all of them are staged, the pool is
the one from the end of the first run. -/
theorem replays_need_no_allocation {p q : StagingPool} {sizes : List UInt32}
    {addresses : List Address} (hp : ∀ b ∈ p.buffers, b.cursor = 0)
    (h : p.Serves sizes addresses q) :
    q.reset.reserveAll? sizes = some (addresses, q) ∧
      ∀ (e : Engine) (package : String) (m m' : GuestModule), e.IsReachable →
        e.module? package = some m → m.guest.pool = q → m.Replays sizes m' →
        ∀ (σ : Type) (adapter : Adapter σ) (state : σ) (function : String) (ticks : Nat)
          (past later : List (Note σ)), m'.history adapter state function ticks = past ++ later →
          stagedSizes past <+: sizes →
          let s := reached (m'.start state ticks) past
          let count := (stagedSizes past).length
          s.guest.pool.places = q.places ∧
            stagedAddresses past = addresses.take count ∧
            (count = sizes.length → s.guest.pool = q) ∧
            ∀ bytes : ByteArray, bytes.size < UInt32.size →
              sizes[count]? = some (.ofNat bytes.size) →
              ∃ address pool t, addresses[count]? = some address ∧
                Bridge.Arrives bytes address pool s t ∧ pool.places = q.places ∧
                ∀ enter : Enter σ, Bridge.stage enter bytes s
                  = .ok (Slice.mk address (.ofNat bytes.size)).pack t := by
  have hreplay := h.reserveAll?_reset hp
  refine ⟨hreplay, ?_⟩
  rintro e package m m' he hm rfl hreplays σ adapter state function ticks past later hsplit hsizes
    s count
  obtain ⟨loaded, hloaded, hcontinues⟩ := he.module hm
  obtain ⟨hcontinues', hreset⟩ := hreplays.continues_and_reset hcontinues hloaded hreplay
  have hpast : m.guest.pool.reset.reserveAll? (stagedSizes past)
      = some (stagedAddresses past, s.guest.pool) := by
    rw [← hreset] at hreplay ⊢
    exact hcontinues'.reserveAll?_past hloaded hsplit hreplay hsizes
  -- what is left to stage is served on from where the invocation has got to
  obtain ⟨more, hmore⟩ := hsizes
  rw [← hmore] at hreplay
  obtain ⟨before, r, after, hbefore, hafter, hsplitted⟩ :=
    StagingPool.reserveAll?_append_eq_some_iff.mp hreplay
  obtain ⟨rfl, rfl⟩ := Prod.mk.inj (Option.some.inj (hpast.symm.trans hbefore))
  have hlength : (stagedAddresses past).length = count := StagingPool.length_of_reserveAll? hpast
  have hplaces : s.guest.pool.places = m.guest.pool.places := by
    rw [← StagingPool.places_reset, StagingPool.reset_of_reserveAll? hpast,
      StagingPool.places_reset, StagingPool.places_reset]
  refine ⟨hplaces, ?_, fun hcount => ?_, fun bytes hsize hnext => ?_⟩
  · rw [hsplitted, ← hlength, List.take_left]
  · rw [← hmore, List.length_append, Nat.left_eq_add, List.length_eq_zero_iff] at hcount
    subst hcount
    exact (Prod.mk.inj (Option.some.inj hafter)).2
  · rw [← hmore, List.getElem?_append_right (Nat.le_refl _), Nat.sub_self] at hnext
    obtain ⟨rest, rfl⟩ : ∃ rest, more = .ofNat bytes.size :: rest := by
      cases more with
      | nil => cases hnext
      | cons size rest =>
        cases hnext
        exact ⟨rest, rfl⟩
    obtain ⟨address, pool, others, hroom, -, rfl⟩ :=
      StagingPool.reserveAll?_cons_eq_some_iff.mp hafter
    have hsome : s.exports.isSome = true := by
      rw [GuestModule.Continues.exports_reached hsplit]
      rfl
    obtain ⟨t, harrives, hstage⟩ := Bridge.exists_stage_of_reserve?
      (hcontinues'.memoryLimit_lt hloaded adapter) (hcontinues'.isSound_reached hsplit) hsome hsize
      hroom
    refine ⟨address, pool, t, ?_, harrives,
      (StagingPool.places_of_reserve? hroom).trans hplaces, hstage⟩
    rw [hsplitted, ← hlength, List.getElem?_append_right (Nat.le_refl _), Nat.sub_self]
    rfl

/-- A text and some bytes are staged, the second time where they were the first time. -/
theorem replays_need_no_allocation_sample :
    let again := Sample.greetedModule.history Sample.client.adapter Sample.client.state "greet"
      unboundedTicks
    stagedAddresses again = [32, 40] ∧
      (reached (Sample.greetedModule.start Sample.client.state unboundedTicks) again).guest.pool
        = Sample.greetedModule.guest.pool := by
  intro again
  have hcontinues := (Sample.isFresh_engine.isLoaded Sample.module?_engine).1.continues
  have hloaded := (Sample.isFresh_engine.isLoaded Sample.module?_engine).1
  have hserves := GuestModule.serves_final hcontinues hloaded Sample.client.adapter
    Sample.client.state "greet" unboundedTicks (by decide +kernel)
  have hfirst : stagedSizes (Sample.module.history Sample.client.adapter Sample.client.state "greet"
        unboundedTicks) = stagedSizes again ∧
      stagedAddresses (Sample.module.history Sample.client.adapter Sample.client.state "greet"
        unboundedTicks) = [32, 40] ∧
      (Sample.module.final Sample.client.adapter Sample.client.state "greet" unboundedTicks).guest.pool
        = Sample.greetedModule.guest.pool := by decide +kernel
  rw [hfirst.1, hfirst.2.1, hfirst.2.2] at hserves
  have hreachable : (Sample.engine.performAll Sample.greeting).IsReachable :=
    ⟨Sample.engine, Sample.greeting, Sample.isFresh_engine, rfl⟩
  obtain ⟨-, haddresses, hpool, -⟩ :=
    (replays_need_no_allocation (fun _ hb => StagingPool.cursor_of_mem_reset hb) hserves).2 _ _ _ _
      hreachable Sample.module?_greeted rfl .refl _ Sample.client.adapter Sample.client.state "greet"
      unboundedTicks again [] (List.append_nil _).symm (List.prefix_refl _)
  refine ⟨?_, hpool rfl⟩
  rw [haddresses]
  decide +kernel

end Engine

end ExtensionHost
