import ExtensionHost.Guest.Standard
import ExtensionHost.Proofs.Guest.Calls
import ExtensionHost.Proofs.Guest.Passage
import ExtensionHost.Proofs.State.Contract

/-!
# Rows on their way to the guest

An iteration goes back and forth between the adapter and the guest.  The adapter offers a row, the
guest receives it and may do anything in the course of it, and the adapter goes on from the state
that is left by then; of a guest that failed it learns no more than that it is interrupted.  The
failure itself is kept aside, and is what the call fails with in the end.

**Transcripts.**  `Delivers` follows an iteration from row to row and lists the visits that the
guest gets.  Each visit keeps the machine that the guest is entered on, which is the one that the
visit before has left, with the adapter's state put in.  So a transcript says which rows the guest
gets and in which order, whatever it does in between; that it gets no other ones is what
`Delivers.rowsStory_eq` adds.

## Main definitions

* `Visit`, a row that the guest receives
* `Delivers`, the visits of an iteration

## Main results

* `Delivers.deliverRows_eq` and `Delivers.rowsStory_eq`, what an iteration comes to and what happens
  in its course
* `Delivers.first_failure_is_last` and `Delivers.handles_of_lists`, iterations that keep the contract
* `Sandbox.rows_are_delivered_in_order`
-/

namespace ExtensionHost

namespace Guest

open Bridge

variable {σ : Type}

/-- A row that the guest receives. -/
structure Visit (σ : Type) where
  /-- The key. -/
  key : KeyHandle
  /-- The value. -/
  value : ValueHandle
  /-- The machine that the guest is entered on. -/
  machine : Machine σ

namespace Visit

/-- The row. -/
def handles (v : Visit σ) : KeyHandle × ValueHandle := (v.key, v.value)

/-- The guest receives the row. -/
def receive (enter : Enter σ) (callback : String) (v : Visit σ) : Run σ (List UInt64) :=
  enter callback [v.key.id, v.value.id]

/-- How the guest fails, if it does. -/
def failure? (enter : Enter σ) (callback : String) (v : Visit σ) : Option Failure :=
  Run.failure? (v.receive enter callback) v.machine

/-- The machine that the guest leaves. -/
def after (enter : Enter σ) (callback : String) (v : Visit σ) : Machine σ :=
  Run.after (v.receive enter callback) v.machine

/-- What the adapter learns of it. -/
def reply (enter : Enter σ) (callback : String) (v : Visit σ) : Except StateError Unit :=
  match v.failure? enter callback with
  | none => .ok ()
  | some _ => .error .interrupted

end Visit

/-- An iteration hands rows to the guest, up to the outcome that the adapter ends it with. -/
inductive Delivers (enter : Enter σ) (callback : String) :
    Rows σ → Machine σ → List (Visit σ) → Except StateError Unit → Machine σ → Prop where
  /-- The iteration is over. -/
  | done (outcome : Except StateError Unit) (state : σ) (s : Machine σ) :
    Delivers enter callback (.done outcome state) s [] outcome { s with bound := some state }
  /-- The guest receives a row, and the adapter goes on. -/
  | row {key : KeyHandle} {value : ValueHandle} {state next : σ}
    {resume : Except StateError Unit → σ → Rows σ} {s t : Machine σ} {v : Visit σ}
    {visits : List (Visit σ)} {outcome : Except StateError Unit}
    (hv : v = ⟨key, value, { s with bound := some state }⟩)
    (hnext : (v.after enter callback).bound = some next)
    (hrest : Delivers enter callback (resume (v.reply enter callback) next)
      (v.after enter callback) visits outcome t) :
    Delivers enter callback (.row key value state resume) s (v :: visits) outcome t

/-- The last failure of the guest. -/
def lastFailure? (enter : Enter σ) (callback : String) (visits : List (Visit σ)) : Option Failure :=
  (visits.filterMap (Visit.failure? enter callback)).getLast?

/-- What happens in the course of an iteration: before every visit and at the end the adapter is
asked, and at every visit the guest runs. -/
def visitsStory (enter : Enter σ) (tell : Tell σ) (callback : String) :
    Machine σ → List (Visit σ) → Machine σ → List (Note σ)
  | s, [], t => [⟨.asked, s, t⟩]
  | s, v :: visits, t =>
    ⟨.asked, s, v.machine⟩ :: (tell callback [v.key.id, v.value.id] v.machine ++
      visitsStory enter tell callback (v.after enter callback) visits t)

/-- How a call that iterates ends: with the last failure of the guest if there is one, and else with
the outcome of the adapter. -/
def iterationResult (last : Option Failure) (outcome : Except StateError Unit) (t : Machine σ) :
    EStateM.Result Failure (Machine σ) (List UInt64) :=
  match last, outcome with
  | some f, _ => .error f t
  | none, .ok () => .ok [] t
  | none, .error e => .error (.host (.state e)) t

section Failures

variable {enter : Enter σ} {callback : String} {v : Visit σ} {visits : List (Visit σ)} {f : Failure}

theorem lastFailure?_cons (v : Visit σ) (visits : List (Visit σ)) :
    lastFailure? enter callback (v :: visits)
      = (lastFailure? enter callback visits).or (v.failure? enter callback) := by
  rw [lastFailure?, lastFailure?, List.filterMap_cons]
  cases v.failure? enter callback with
  | none => rw [Option.or_none]
  | some f =>
    dsimp only
    rw [List.getLast?_cons]
    cases (visits.filterMap (Visit.failure? enter callback)).getLast? <;> rfl

theorem lastFailure?_eq_none_iff :
    lastFailure? enter callback visits = none ↔ ∀ v ∈ visits, v.failure? enter callback = none := by
  rw [lastFailure?, List.getLast?_eq_none_iff, List.filterMap_eq_nil_iff]

theorem exists_of_lastFailure? (h : lastFailure? enter callback visits = some f) :
    ∃ v ∈ visits, v.failure? enter callback = some f :=
  List.mem_filterMap.mp (List.mem_of_getLast? h)

theorem lastFailure?_concat (hv : v.failure? enter callback = some f) :
    lastFailure? enter callback (visits ++ [v]) = some f := by
  rw [lastFailure?, List.filterMap_append, List.filterMap_cons_some hv, List.filterMap_nil,
    List.getLast?_concat]

end Failures

namespace Delivers

variable {sandbox : Sandbox σ} {enter : Enter σ} {tell : Tell σ} {callback : String}
  {rows : Rows σ} {s t : Machine σ} {visits : List (Visit σ)} {outcome : Except StateError Unit}

/-- Every iteration is over at some point. -/
theorem exists_delivers (htell : ∀ name args, (tell name args).Tells sandbox (enter name args))
    (callback : String) (rows : Rows σ) (hexports : s.exports.isSome = true) :
    ∃ visits outcome t, Delivers enter callback rows s visits outcome t := by
  induction rows generalizing s with
  | done outcome state => exact ⟨[], outcome, _, .done outcome state s⟩
  | row key value state resume ih =>
    let v : Visit σ := ⟨key, value, { s with bound := some state }⟩
    have hleads := htell callback [key.id, value.id] v.machine fun _ => hexports
    obtain ⟨next, hnext⟩ : ∃ next, (v.after enter callback).bound = some next :=
      Option.isSome_iff_exists.mp (hleads.isSome_bound_eq.trans rfl)
    have hafter : (v.after enter callback).exports.isSome = true := hleads.exports_eq ▸ hexports
    obtain ⟨visits, outcome, t, hrest⟩ := ih (v.reply enter callback) next hafter
    exact ⟨v :: visits, outcome, t, .row rfl hnext hrest⟩

section Rows

variable {key : KeyHandle} {value : ValueHandle} {state next : σ}
  {resume : Except StateError Unit → σ → Rows σ} {v : Visit σ}

/-- An iteration goes on behind the first visit. -/
theorem deliverRows_row (last : Option Failure)
    (hv : v = ⟨key, value, { s with bound := some state }⟩)
    (hnext : (v.after enter callback).bound = some next) :
    deliverRows enter callback last (.row key value state resume) s
      = deliverRows enter callback ((v.failure? enter callback).or last)
          (resume (v.reply enter callback) next) (v.after enter callback) := by
  subst hv
  cases hc : enter callback [key.id, value.id] { s with bound := some state } <;>
    simp only [Visit.reply, Visit.failure?, Visit.after, Visit.receive, Run.failure?, Run.after, hc]
      at hnext ⊢
  · exact deliverRows_of_ok hc hnext
  · exact deliverRows_of_error hc hnext

/-- So does what happens in the course of it. -/
theorem rowsStory_row (hv : v = ⟨key, value, { s with bound := some state }⟩)
    (hnext : (v.after enter callback).bound = some next) :
    rowsStory enter tell callback (.row key value state resume) s
      = ⟨.asked, s, v.machine⟩ :: (tell callback [v.key.id, v.value.id] v.machine ++
          rowsStory enter tell callback (resume (v.reply enter callback) next)
            (v.after enter callback)) := by
  subst hv
  rw [rowsStory]
  cases hc : enter callback [key.id, value.id] { s with bound := some state } <;>
    simp only [Visit.reply, Visit.failure?, Visit.after, Visit.receive, Run.failure?, Run.after, hc]
      at hnext ⊢ <;>
    simp only [hnext]

end Rows

/-- **Iterations.**  The guest is entered for the visits, one after the other, and the last failure
is kept. -/
theorem deliverRows_eq (h : Delivers enter callback rows s visits outcome t)
    (last : Option Failure) :
    deliverRows enter callback last rows s
      = .ok ((lastFailure? enter callback visits).or last, outcome) t := by
  induction h generalizing last with
  | done outcome state s => rfl
  | row hv hnext _ ih => rw [deliverRows_row last hv hnext, ih, lastFailure?_cons, Option.or_assoc]

/-- What happens in the course of an iteration is what happens at the visits. -/
theorem rowsStory_eq (h : Delivers enter callback rows s visits outcome t) :
    rowsStory enter tell callback rows s = visitsStory enter tell callback s visits t := by
  induction h with
  | done outcome state s => rfl
  | row hv hnext _ ih => rw [rowsStory_row hv hnext, ih, visitsStory]

/-! ### Adapters that keep the contract -/

section Contract

variable {key : KeyHandle} {value : ValueHandle} {state next w : σ} {v : Visit σ}
  {resume : Except StateError Unit → σ → Rows σ}

/-- In the course of a visit, the adapter's state moves by calls of the adapter only. -/
theorem reaches_next (htell : ∀ name args, (tell name args).Tells sandbox (enter name args))
    (hturns : ∀ name args, (tell name args).Turns sandbox.adapter)
    (hexports : s.exports.isSome = true) (hv : v = ⟨key, value, { s with bound := some state }⟩)
    (hnext : (v.after enter callback).bound = some next)
    (hreaches : sandbox.adapter.Reaches w state) :
    (v.after enter callback).exports.isSome = true ∧ sandbox.adapter.Reaches w next := by
  subst hv
  have hleads := htell callback [key.id, value.id] { s with bound := some state } fun _ => hexports
  obtain ⟨next', hnext', hmoved⟩ :=
    hleads.turns (hturns callback [key.id, value.id] { s with bound := some state }) state rfl
  obtain rfl : next = next' := Option.some.inj (hnext.symm.trans hnext')
  exact ⟨(congrArg Option.isSome hleads.exports_eq).trans hexports, hreaches.trans hmoved⟩

/-- A visit that fails is the last one. -/
theorem eq_nil_of_stops {P : σ → Prop} (hstops : (Rows.row key value state resume).Stops P)
    (hnext : P next) (hfails : v.failure? enter callback ≠ none)
    (hrest : Delivers enter callback (resume (v.reply enter callback) next) s visits outcome t) :
    visits = [] := by
  rcases hstops with _ | ⟨hstop, -⟩
  obtain ⟨f, hf⟩ := Option.ne_none_iff_exists'.mp hfails
  obtain ⟨state', hdone⟩ := hstop .interrupted next hnext
  simp only [Visit.reply, hf, hdone] at hrest
  cases hrest
  rfl

/-- **The contract.**  Where an adapter stops when it learns of a failure, no visit but the last one
fails. -/
theorem first_failure_is_last (h : Delivers enter callback rows s visits outcome t)
    (htell : ∀ name args, (tell name args).Tells sandbox (enter name args))
    (hturns : ∀ name args, (tell name args).Turns sandbox.adapter)
    (hstops : rows.Stops (sandbox.adapter.Reaches w)) (hoffers : sandbox.adapter.Offers rows)
    (hreaches : sandbox.adapter.Reaches w rows.state) (hexports : s.exports.isSome = true)
    {before after : List (Visit σ)} {u : Visit σ} (hsplit : visits = before ++ u :: after)
    (hu : u.failure? enter callback ≠ none) :
    after = [] ∧ ∀ v ∈ before, v.failure? enter callback = none := by
  induction h generalizing before with
  | done outcome state s => cases before <;> cases hsplit
  | @row key value state next resume s t v visits outcome hv hnext hrest ih =>
    obtain ⟨hafter, hreached⟩ := reaches_next htell hturns hexports hv hnext hreaches
    have hlast := fun hfails => eq_nil_of_stops hstops hreached hfails hrest
    cases before with
    | nil =>
      cases hsplit
      exact ⟨hlast hu, nofun⟩
    | cons first rest =>
      obtain ⟨rfl, rfl⟩ := List.cons.inj hsplit
      have hf : v.failure? enter callback = none :=
        Classical.not_not.mp fun hfails =>
          List.append_ne_nil_of_right_ne_nil _ (List.cons_ne_nil _ _) (hlast hfails)
      rcases hstops with _ | ⟨-, hgo⟩
      rw [Visit.reply, hf] at ih
      obtain ⟨rfl, hall⟩ := ih (hgo next hreached) (.resumed hoffers (.ok ()) next)
        (hreached.tail (.resume hoffers (.ok ()) next)) hafter rfl
      exact ⟨rfl, List.forall_mem_cons.mpr ⟨hf, hall⟩⟩

/-- **Lists of rows.**  Then the guest gets the rows that the adapter goes through from the first one
on, and all of them if it fails at none. -/
theorem handles_of_lists (h : Delivers enter callback rows s visits outcome t)
    (htell : ∀ name args, (tell name args).Tells sandbox (enter name args))
    (hturns : ∀ name args, (tell name args).Turns sandbox.adapter)
    (hstops : rows.Stops (sandbox.adapter.Reaches w)) (hoffers : sandbox.adapter.Offers rows)
    (hreaches : sandbox.adapter.Reaches w rows.state) (hexports : s.exports.isSome = true)
    {handles : List (KeyHandle × ValueHandle)}
    (hlists : rows.Lists (sandbox.adapter.Reaches w) handles) :
    visits.map Visit.handles <+: handles ∧
      ((∀ v ∈ visits, v.failure? enter callback = none) → visits.map Visit.handles = handles) := by
  induction h generalizing handles with
  | done outcome state s =>
    cases hlists
    exact ⟨List.prefix_refl _, fun _ => rfl⟩
  | @row key value state next resume s t v visits outcome hv hnext hrest ih =>
    obtain ⟨hafter, hreached⟩ := reaches_next htell hturns hexports hv hnext hreaches
    have hhandles : v.handles = (key, value) := by rw [hv]; rfl
    have hlast := fun hfails => eq_nil_of_stops hstops hreached hfails hrest
    rcases hlists with _ | hmore
    rw [List.map_cons, hhandles]
    cases hf : v.failure? enter callback with
    | some f =>
      rw [hlast (by rw [hf]; exact Option.some_ne_none f)]
      refine ⟨List.prefix_append [(key, value)] _, fun hall => ?_⟩
      rw [hall v List.mem_cons_self] at hf
      cases hf
    | none =>
      rcases hstops with _ | ⟨-, hgo⟩
      rw [Visit.reply, hf] at ih
      obtain ⟨hfront, hall⟩ := ih (hgo next hreached) (.resumed hoffers (.ok ()) next)
        (hreached.tail (.resume hoffers (.ok ()) next)) hafter (hmore next hreached)
      refine ⟨List.cons_prefix_cons.mpr ⟨rfl, hfront⟩, fun hsuccess => ?_⟩
      rw [hall (List.forall_mem_cons.mp hsuccess).2]

end Contract

/-- What a call that iterates comes to. -/
theorem callHost_eq {depth : Nat} {key : UInt64} {w : σ} {exports : Exports}
    (h : Delivers (sandbox.callNested depth) exports.onReadValue
      (sandbox.adapter.readValues ⟨key⟩ w) s visits outcome t)
    (hbound : s.bound = some w) (hexports : s.exports = some exports) :
    sandbox.callHost depth .readValues [key] s
      = iterationResult (lastFailure? (sandbox.callNested depth) exports.onReadValue visits)
          outcome t := by
  have hdeliver := h.deliverRows_eq none
  rw [Option.or_none] at hdeliver
  have hcall : sandbox.callHost depth .readValues [key]
      = iterateRows sandbox (sandbox.callNested depth) key >>= fun _ => pure [] := by
    show (iterateRows sandbox (sandbox.callNested depth) key >>= fun _ => pure []) >>= _ = _
    rw [bind_assoc]
    rfl
  rw [hcall, iterateRows, bind_assoc, Run.bind_of_ok (boundState_of_eq_some hbound), bind_assoc,
    Run.bind_of_ok (guestExports_of_eq_some hexports), bind_assoc, Run.bind_of_ok hdeliver]
  generalize lastFailure? (sandbox.callNested depth) exports.onReadValue visits = last
  cases last with
  | some f => rfl
  | none => cases outcome <;> rfl

end Delivers

/-- **Rows are delivered in order.**  A guest that asks for the rows of a key is entered for the
rows that the adapter offers, one after the other, with the key and the value of each, and nothing
else happens meanwhile.  Each row is offered for what has become of the ones before it.

If the guest fails at none of them, the call ends with the outcome of the adapter.  If it does, the
call fails with such a failure, whatever the adapter makes of it.  Where the adapter stops when it
learns of a failure, as its contract asks, the first visit that fails is the last one, and the call
fails with the failure of this visit; and if the adapter has a list of rows to go through, the guest
gets the rows of this list up to there, or all of them if it fails at none. -/
theorem Sandbox.rows_are_delivered_in_order (sandbox : Sandbox σ) (depth : Nat) (key : UInt64)
    {s : Machine σ} {w : σ} {exports : Exports} (hbound : s.bound = some w)
    (hexports : s.exports = some exports) :
    let enter := sandbox.callNested depth
    let receiver := exports.onReadValue
    let rows := sandbox.adapter.readValues ⟨key⟩ w
    let served := sandbox.callHost depth .readValues [key] s
    ∃ visits outcome t, Delivers enter receiver rows s visits outcome t ∧
      sandbox.hostStory depth .readValues [key] s
        = ⟨.entered .readValues [key], s, s⟩ ::
            visitsStory enter (sandbox.historyNested depth) receiver s visits t ∧
      ((∀ v ∈ visits, v.failure? enter receiver = none) →
        served = iterationResult none outcome t) ∧
      (∀ v ∈ visits, v.failure? enter receiver ≠ none →
        ∃ u ∈ visits, ∃ f, u.failure? enter receiver = some f ∧ served = .error f t) ∧
      (rows.Stops (sandbox.adapter.Reaches w) →
        (∀ before v after f, visits = before ++ v :: after → v.failure? enter receiver = some f →
          after = [] ∧ (∀ u ∈ before, u.failure? enter receiver = none) ∧ served = .error f t) ∧
        ∀ handles, rows.Lists (sandbox.adapter.Reaches w) handles →
          visits.map Visit.handles <+: handles ∧
            ((∀ v ∈ visits, v.failure? enter receiver = none) →
              visits.map Visit.handles = handles)) := by
  intro enter receiver rows served
  have hsome : s.exports.isSome = true := by rw [hexports]; rfl
  have htell := sandbox.tells_historyNested depth
  obtain ⟨visits, outcome, t, hdelivers⟩ := Delivers.exists_delivers htell receiver rows hsome
  have hserved : served = iterationResult (lastFailure? enter receiver visits) outcome t :=
    hdelivers.callHost_eq hbound hexports
  refine ⟨visits, outcome, t, hdelivers, ?_, ?_, ?_, ?_⟩
  · rw [← hdelivers.rowsStory_eq]
    show ⟨.entered .readValues [key], s, s⟩ :: iterateStory sandbox enter _ key s = _
    rw [iterateStory, hbound, hexports]
  · intro hall
    rw [hserved, lastFailure?_eq_none_iff.mpr hall]
  · intro v hv hfails
    cases hlast : lastFailure? enter receiver visits with
    | none => exact absurd (lastFailure?_eq_none_iff.mp hlast v hv) hfails
    | some f =>
      obtain ⟨u, hu, hf⟩ := exists_of_lastFailure? hlast
      exact ⟨u, hu, f, hf, by rw [hserved, hlast, iterationResult]⟩
  · intro hstops
    have hturns := sandbox.turns_historyNested depth
    have hbegun : sandbox.adapter.Reaches w rows.state := .single (.readValues ⟨key⟩ w)
    refine ⟨fun before v after f hvisits hf => ?_, fun handles hlists => ?_⟩
    · have hfails : v.failure? enter receiver ≠ none := by
        rw [hf]
        exact Option.some_ne_none f
      obtain ⟨rfl, hbefore⟩ := hdelivers.first_failure_is_last htell hturns hstops (.begun ⟨key⟩ w)
        hbegun hsome hvisits hfails
      refine ⟨rfl, hbefore, ?_⟩
      rw [hserved, hvisits, lastFailure?_concat hf, iterationResult]
    · exact hdelivers.handles_of_lists htell hturns hstops (.begun ⟨key⟩ w) hbegun hsome hlists

/-- A guest that runs into a place it takes for unreachable when it receives the value 4. -/
def Sample.picky : Program :=
  standard.putFunction (Standard.exported "on_read_value" [.i64, .i64] []
    [.branch (.binary .equal (.param 1) (.const 4)) [.unreachable] []])

/-- Three records, and a key that matches all of them. -/
def Sample.orders : Tables :=
  let tables := Tables.new 0 [] (List.replicate 3 ⟨"shop", "order", ∅⟩) [] false
  { tables with builders := tables.builders.insert 9 ⟨"shop", "order", ∅⟩ }

/-- The guest in the course of an invocation that they serve. -/
def Sample.browsing : Machine Tables where
  guest := ⟨Memory.zeroed 1, ∅, 0, .new 8, false⟩
  exports := some ⟨"malloc", "free", "abi_version_0_1", "heap_in_use", "heap_sys", "heap_mallocs",
    "heap_frees", "heap_gc", "on_read_value"⟩
  bound := some Sample.orders
  budget := 100

/-- There are three rows.  The guest gets some of them, and fails at the last one that it gets. -/
theorem Sandbox.rows_are_delivered_in_order_sample :
    let sandbox : Sandbox Tables := ⟨Sample.picky, "sample", pageSize, Tables.adapter⟩
    let enter := sandbox.callNested 1
    ∃ before v outcome t,
      Delivers enter "on_read_value" (Tables.adapter.readValues ⟨9⟩ Sample.orders) Sample.browsing
          (before ++ [v]) outcome t ∧
        (before ++ [v]).map Visit.handles <+: [(⟨1⟩, ⟨2⟩), (⟨3⟩, ⟨4⟩), (⟨5⟩, ⟨6⟩)] ∧
        (∀ u ∈ before, u.failure? enter "on_read_value" = none) ∧
        v.failure? enter "on_read_value" = some (.trap .unreachable) ∧
        sandbox.callHost 1 .readValues [9] Sample.browsing = .error (.trap .unreachable) t := by
  intro sandbox enter
  obtain ⟨visits, outcome, t, hdelivers, -, hpeaceful, -, hcontract⟩ :=
    sandbox.rows_are_delivered_in_order 1 9 (s := Sample.browsing) (w := Sample.orders) rfl rfl
  have hfails : Run.failure? (sandbox.callHost 1 .readValues [9]) Sample.browsing
      = some (.trap .unreachable) := by decide +kernel
  rw [Run.failure?] at hfails
  have hsome : ∃ v ∈ visits, v.failure? enter "on_read_value" ≠ none := by
    by_contra hnone
    push Not at hnone
    rw [hpeaceful hnone] at hfails
    cases outcome <;> cases hfails
  obtain ⟨v, hv, hfailure⟩ := hsome
  obtain ⟨f, hf⟩ := Option.ne_none_iff_exists'.mp hfailure
  obtain ⟨before, after, rfl⟩ := List.append_of_mem hv
  obtain ⟨hlast, hlists⟩ := hcontract (Tables.stops_readValues ⟨9⟩ rfl)
  obtain ⟨rfl, hbefore, hserved⟩ := hlast before v after f rfl hf
  have hrows := hlists _ (Tables.lists_offer _ [(⟨1⟩, ⟨2⟩), (⟨3⟩, ⟨4⟩), (⟨5⟩, ⟨6⟩)]
    (Tables.adapter.readValues ⟨9⟩ Sample.orders).state)
  rw [hserved] at hfails
  obtain rfl := Option.some.inj hfails
  exact ⟨before, v, outcome, t, hdelivers, hrows.1, hbefore, hf, hserved⟩

end Guest

end ExtensionHost
