import ExtensionHost.Proofs.Engine.Operation

/-!
# Staging on reachable engines

What was shown for histories of sound guests holds of every invocation on every reachable engine:
the guest is sound when an invocation starts, whatever operations came before, and every beginning
of the history is a history.

A moment of an invocation is given by what has happened so far, a beginning of the history.  Since
the history tells what happens at any depth, a moment may lie within an allocator or a receiver of
rows that some host function has entered.

## Main results

* `Engine.buffers_stay_usable`
* `Engine.payloads_are_kept`
-/

namespace ExtensionHost

open Guest

namespace GuestModule.Continues

variable {σ : Type} {m loaded : GuestModule} {adapter : Adapter σ} {state : σ} {function : String}
  {ticks : Nat} {past later : List (Note σ)}

/-- The guest is sound at every moment of an invocation. -/
theorem isSound_reached (h : m.Continues loaded)
    (hsplit : m.history adapter state function ticks = past ++ later) :
    (reached (m.start state ticks) past).guest.IsSound (m.sandbox adapter).memoryLimit :=
  (m.leads_past adapter state function ticks hsplit).isSound (h.isSound_start adapter state ticks)

theorem exports_reached (hsplit : m.history adapter state function ticks = past ++ later) :
    (reached (m.start state ticks) past).exports = some m.exports :=
  (m.leads_past adapter state function ticks hsplit).exports_eq

/-- Staging at any moment of an invocation, at any depth, fails for want of a buffer only. -/
theorem unprovided_of_stage_error (h : m.Continues loaded) (hloaded : loaded.IsLoaded)
    (hsplit : m.history adapter state function ticks = past ++ later) {depth : Nat}
    {bytes : ByteArray} {f : Failure} {t : Machine σ} (hsize : bytes.size < UInt32.size)
    (hstage : Bridge.stage ((m.sandbox adapter).callNested depth) bytes
      (reached (m.start state ticks) past) = .error f t) :
    (reached (m.start state ticks) past).guest.pool.reserve? (.ofNat bytes.size) = none ∧
      Bridge.Unprovided ((m.sandbox adapter).callNested depth) m.exports
        (Bridge.request bytes (reached (m.start state ticks) past))
        (reached (m.start state ticks) past) f t := by
  have hexports := exports_reached hsplit
  refine Bridge.unprovided_of_stage_error
    ((m.sandbox adapter).tells_historyNested depth) (h.memoryLimit_lt hloaded adapter) ?_ hexports
    (h.isSound_reached hsplit) hsize hstage
  intro _
  rw [hexports]
  rfl

end GuestModule.Continues

namespace Engine

variable {σ : Type} {e : Engine} {package : String} {m : GuestModule}

/-- **Buffers stay usable.**  On a reachable engine every staging buffer of every module fits into
memory, between operations as well as at every moment of an invocation.  An invocation that enters
the guest runs a function of the module, and that is to call this function with all cursors at zero.
The front of a buffer is a sum that does not saturate, and staging a payload whose length is a
32-bit number fails only if no buffer at hand has room and the guest's allocator fails or provides a
buffer that is rejected. -/
theorem buffers_stay_usable (h : e.IsReachable) (hm : e.module? package = some m) :
    m.guest.pool.Fits m.guest.memory.size ∧
      (∀ now extension context function ticks,
        e.Enters now package extension context m function ticks →
          e.Runs now package extension context m function ticks) ∧
      ∀ (adapter : Adapter σ) (state : σ) (function : String) (ticks : Nat),
        m.run adapter state function ticks
          = m.conclude state ((m.sandbox adapter).call function [] (m.start state ticks)) ∧
        (∀ b ∈ (m.start state ticks).guest.pool.buffers, b.cursor = 0) ∧
          ∀ past later, m.history adapter state function ticks = past ++ later →
            let t := reached (m.start state ticks) past
            t.guest.pool.Fits t.guest.memory.size ∧
              (∀ b ∈ t.guest.pool.buffers, b.front.toNat = b.base.toNat + b.cursor.toNat) ∧
              ∀ (depth : Nat) (bytes : ByteArray) (f : Failure) (u : Machine σ),
                bytes.size < UInt32.size →
                Bridge.stage ((m.sandbox adapter).callNested depth) bytes t = .error f u →
                t.guest.pool.reserve? (.ofNat bytes.size) = none ∧
                  Bridge.Unprovided ((m.sandbox adapter).callNested depth) m.exports
                    (Bridge.request bytes t) t f u := by
  obtain ⟨loaded, hloaded, hcontinues⟩ := h.module hm
  refine ⟨hcontinues.sound.fits, fun _ _ _ _ _ henters => henters.runs,
    fun adapter state function ticks => ⟨GuestModule.run_eq, ?_, ?_⟩⟩
  · intro b hb
    exact StagingPool.cursor_of_mem_reset hb
  · intro past later hsplit t
    have hsound : t.guest.IsSound (m.sandbox adapter).memoryLimit :=
      hcontinues.isSound_reached hsplit
    have hsize : t.guest.memory.size < UInt32.size :=
      Nat.lt_of_le_of_lt hsound.within (hcontinues.memoryLimit_lt hloaded adapter)
    refine ⟨hsound.fits, fun b hb => (hsound.fits b hb).toNat_front hsize, ?_⟩
    intro depth bytes f u hbytes hstage
    exact hcontinues.unprovided_of_stage_error hloaded hsplit hbytes hstage

/-- The buffers that one invocation has filled are empty when the next one starts.  At its end they
fit into memory, as they always do, with what is written next right behind the payloads. -/
theorem buffers_stay_usable_sample :
    let start := Sample.greetedModule.start Sample.client.state unboundedTicks
    let t := reached start (Sample.greetedModule.history Sample.client.adapter Sample.client.state
      "greet" unboundedTicks)
    Sample.greetedModule.buffers = [⟨32, 8, 5⟩, ⟨40, 8, 6⟩] ∧
      (Sample.engine.performAll Sample.greeting).Runs ⟨0⟩ "sample" "greet" .unbounded
        Sample.greetedModule "greet" unboundedTicks ∧
      (∀ b ∈ start.guest.pool.buffers, b.cursor = 0) ∧
      t.guest.pool.buffers = [⟨32, 8, 5⟩, ⟨40, 8, 6⟩] ∧
      t.guest.pool.Fits t.guest.memory.size ∧
      ∀ b ∈ t.guest.pool.buffers, b.front.toNat = b.base.toNat + b.cursor.toNat := by
  have hreachable : (Sample.engine.performAll Sample.greeting).IsReachable :=
    ⟨Sample.engine, Sample.greeting, Sample.isFresh_engine, rfl⟩
  have henters : (Sample.engine.performAll Sample.greeting).Enters ⟨0⟩ "sample" "greet" .unbounded
      Sample.greetedModule "greet" unboundedTicks :=
    Sample.enters Sample.module?_greeted (by decide +kernel) (by decide +kernel)
  obtain ⟨-, hruns, hinvocation⟩ := buffers_stay_usable (σ := Sample.client.State) hreachable
    Sample.module?_greeted
  obtain ⟨-, hstart, hmoment⟩ := hinvocation Sample.client.adapter Sample.client.state "greet"
    unboundedTicks
  obtain ⟨hfits, hfront, -⟩ := hmoment _ [] (List.append_nil _).symm
  exact ⟨by decide +kernel, hruns _ _ _ _ _ henters, hstart, by decide +kernel, hfits, hfront⟩

/-- **Payloads are kept.**  Take any moment of an invocation on a reachable engine.  If the buffers
that the guest has provided do not overlap and the guest has not stored into them since the start,
then the payloads that were handed out so far do not overlap, each lies in one buffer, and each is
read back through its word as it was staged. -/
theorem payloads_are_kept (h : e.IsReachable) (hm : e.module? package = some m)
    (adapter : Adapter σ) (state : σ) (function : String) (ticks : Nat) {past later : List (Note σ)}
    (hsplit : m.history adapter state function ticks = past ++ later)
    (hseparate : (reached (m.start state ticks) past).guest.pool.Separate)
    (hspares : ∀ n ∈ past, n.SparesBuffers) :
    (handouts past).Pairwise Handout.Disjoint ∧
      ∀ bytes word, (bytes, word) ∈ handouts past →
        (∃ b ∈ (reached (m.start state ticks) past).guest.pool.buffers,
          b.base.toNat ≤ (Slice.unpack word).ptr.toNat ∧
            (Slice.unpack word).ptr.toNat + (Slice.unpack word).len.toNat
              ≤ b.base.toNat + b.capacity.toNat) ∧
          Bridge.readBytes (Slice.unpack word).ptr (Slice.unpack word).len
              (reached (m.start state ticks) past)
            = .ok bytes (reached (m.start state ticks) past) := by
  obtain ⟨loaded, hloaded, hcontinues⟩ := h.module hm
  have hsound := hcontinues.isSound_reached hsplit
  have hkeeps := (m.leads_past adapter state function ticks hsplit).keeps
    (hcontinues.memoryLimit_lt hloaded adapter) (hcontinues.isSound_start adapter state ticks)
    hseparate hspares
  refine ⟨hkeeps.disjoint, fun bytes word hp => ?_⟩
  have hholds := hkeeps.each _ hp
  constructor
  · obtain ⟨b, hb, hbase, hend⟩ := hholds.within hsound.fits
    exact ⟨b, hb, hbase, hend⟩
  · refine hholds.readBytes hsound ?_
    rw [GuestModule.Continues.exports_reached hsplit]
    rfl

/-- A text and some bytes are handed out, and the buffer is too small for both. -/
theorem payloads_are_kept_sample :
    let past := Sample.module.history Sample.client.adapter Sample.client.state "greet"
      unboundedTicks
    (handouts past).map Prod.fst = ["hello".toUTF8, ⟨#[1, 2, 3, 4, 5, 6]⟩] ∧
      (handouts past).Pairwise Handout.Disjoint := by
  have hplaces : (reached (Sample.module.start Sample.client.state unboundedTicks)
      (Sample.module.history Sample.client.adapter Sample.client.state "greet"
        unboundedTicks)).guest.pool.places = [(32, 8), (40, 8)] := by decide +kernel
  have hseparate : (reached (Sample.module.start Sample.client.state unboundedTicks)
      (Sample.module.history Sample.client.adapter Sample.client.state "greet"
        unboundedTicks)).guest.pool.Separate := by
    rw [StagingPool.separate_iff_places, hplaces]
    simp only [List.pairwise_cons, List.mem_singleton, forall_eq, List.not_mem_nil]
    exact ⟨fun i hleft hright => absurd hleft.2 (Nat.not_lt.mpr hright.1), nofun, .nil⟩
  refine ⟨by decide +kernel, ?_⟩
  exact (payloads_are_kept Sample.isFresh_engine.isReachable Sample.module?_engine
    Sample.client.adapter Sample.client.state "greet" unboundedTicks (List.append_nil _).symm
    hseparate (by decide +kernel)).1

end Engine

end ExtensionHost
