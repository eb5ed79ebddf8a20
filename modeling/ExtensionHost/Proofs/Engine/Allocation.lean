import ExtensionHost.Proofs.Bridge.Allocation
import ExtensionHost.Proofs.Engine.Invariants
import ExtensionHost.Proofs.Engine.Staging

/-!
# Staging on reachable engines is atomic

What was shown for staging a payload on a machine whose guest is sound holds at every moment of
every invocation on every reachable engine.  There the size of the buffer that is requested is given
by the settings as well, whatever has happened to the pool.

## Main results

* `Engine.staging_is_atomic`
-/

namespace ExtensionHost

open Guest

namespace GuestModule.Continues

variable {σ : Type} {m loaded : GuestModule} {adapter : Adapter σ} {state : σ} {function : String}
  {ticks : Nat} {past later : List (Note σ)}

/-- The pool requests buffers of the same size at every moment of an invocation. -/
theorem growthIncrement_reached
    (hsplit : m.history adapter state function ticks = past ++ later) :
    (reached (m.start state ticks) past).guest.pool.growthIncrement
      = m.guest.pool.growthIncrement :=
  (m.leads_past adapter state function ticks hsplit).growthIncrement_eq

end GuestModule.Continues

namespace Engine

variable {σ : Type} {e : Engine} {package : String} {m : GuestModule}

/-- **Staging is atomic.**  Take any moment of an invocation on a reachable engine and a payload
whose length is a 32-bit number.

If some buffer has room for the payload, the guest is not entered: staging comes to the same however
it would be.  The payload arrives at the front of the first such buffer, whose cursor moves by its
length; no other cursor moves, and nothing else changes.

Otherwise the guest's allocator is called for as many bytes as the payload has, or the settings
name, or one, whichever is most.  This call is all that the guest does, since what staging comes to
is said by what the call leaves: it fails with the failure of the allocator, or it rejects a buffer
that is null or reaches past the end of the memory that there is by then, and leaves everything as
the allocator did; or it adopts the buffer behind all others, and the payload arrives at its
start. -/
theorem staging_is_atomic (h : e.IsReachable) (hm : e.module? package = some m)
    (adapter : Adapter σ) (state : σ) (function : String) (ticks : Nat) {past later : List (Note σ)}
    (hsplit : m.history adapter state function ticks = past ++ later) {bytes : ByteArray}
    (hsize : bytes.size < UInt32.size) :
    let s := reached (m.start state ticks) past
    let size := UInt32.ofNat bytes.size
    ((∃ b ∈ s.guest.pool.buffers, b.HasRoom bytes.size) →
      ∃ full b rest, s.guest.pool.buffers = full ++ b :: rest ∧
        (∀ c ∈ full, ¬ c.HasRoom bytes.size) ∧ b.HasRoom bytes.size ∧
        ∃ address cursor t, address.toNat = b.base.toNat + b.cursor.toNat ∧
          cursor.toNat = b.cursor.toNat + bytes.size ∧
          Bridge.Arrives bytes address
            { s.guest.pool with buffers := full ++ { b with cursor } :: rest } s t ∧
          ∀ enter : Enter σ, Bridge.stage enter bytes s = .ok (Slice.mk address size).pack t) ∧
    ((∀ b ∈ s.guest.pool.buffers, ¬ b.HasRoom bytes.size) →
      ∀ depth, let enter := (m.sandbox adapter).callNested depth
        let capacity := max size (max m.config.bufferGrowthIncrement 1)
        Bridge.Procures bytes capacity (enter m.exports.malloc [capacity.toUInt64] s)
          (Bridge.stage enter bytes s)) := by
  intro s size
  obtain ⟨loaded, hloaded, hcontinues⟩ := h.module hm
  have hlimit := hcontinues.memoryLimit_lt hloaded adapter
  have hsound : s.guest.IsSound (m.sandbox adapter).memoryLimit := hcontinues.isSound_reached hsplit
  have hexports : s.exports = some m.exports := GuestModule.Continues.exports_reached hsplit
  refine ⟨fun hroom => ?_, fun hroom depth => ?_⟩
  · have hsome : s.exports.isSome = true := by rw [hexports]; rfl
    exact Bridge.exists_stage_of_hasRoom hlimit hsound hsome hsize hroom
  · have hrequest : Bridge.request bytes s = max size (max m.config.bufferGrowthIncrement 1) := by
      rw [Bridge.request, StagingPool.growthFor,
        GuestModule.Continues.growthIncrement_reached hsplit, h.growthIncrement_eq hm]
    have hprocures := Bridge.stage_procures
      ((m.sandbox adapter).tells_historyNested depth) hlimit hsound hexports hsize hroom
    rw [hrequest] at hprocures
    exact hprocures

/-- Ten bytes do not fit into the first buffer, and get one of their own. -/
theorem staging_is_atomic_sample :
    let s := Sample.module.start Sample.client.state unboundedTicks
    let enter := (Sample.module.sandbox Sample.client.adapter).callNested 1
    let bytes : ByteArray := ⟨#[1, 2, 3, 4, 5, 6, 7, 8, 9, 10]⟩
    ∃ t u, enter "malloc" [10] s = .ok [40] t ∧
      Bridge.stage enter bytes s = .ok (Slice.mk 40 10).pack u ∧
      Bridge.Arrives bytes 40 { t.guest.pool with
        buffers := t.guest.pool.buffers ++ [⟨40, 10, 10⟩] } t u := by
  intro s enter bytes
  have hprocures : Bridge.Procures bytes 10 (enter "malloc" [10] s) (Bridge.stage enter bytes s) :=
    (staging_is_atomic Sample.isFresh_engine.isReachable Sample.module?_engine
      Sample.client.adapter Sample.client.state "greet" unboundedTicks (List.nil_append _).symm
      (show bytes.size < UInt32.size by decide)).2 (by decide +kernel) 1
  have hmalloc : (match enter "malloc" [10] s with
      | .ok results t => decide (results = [40] ∧ 40 + 10 ≤ t.guest.memory.size)
      | .error _ _ => false) = true := by decide +kernel
  generalize hstage : Bridge.stage enter bytes s = outcome at hprocures
  cases hm : enter "malloc" [10] s with
  | error f t =>
    rw [hm] at hmalloc
    cases hmalloc
  | ok results t =>
    rw [hm] at hmalloc hprocures
    obtain ⟨rfl, hsize⟩ := of_decide_eq_true hmalloc
    cases hprocures with
    | rejected hbase hrejected =>
      subst hbase
      exact absurd hsize (Nat.not_le.mpr (hrejected.resolve_left (by decide)))
    | adopted hbase _ _ harrives =>
      subst hbase
      exact ⟨_, _, rfl, rfl, harrives⟩

end Engine

end ExtensionHost
