import ExtensionHost.Proofs.Bridge.Serving

/-!
# The stories of host functions

What happens while a host function serves its call, given the stories of the functions of the guest
that it enters.

Staging a payload is taken apart once, in `Bridge.stage_of_reserve?` and the equations next to it:
there is room at hand, or the guest's allocator is called and its answer is checked.

## Main definitions

* `Bridge.place`, staging once there is room
* `Bridge.stageStory`, `Bridge.rowsStory` and `HostFunction.story`

## Main results

* `Bridge.stage_of_adopted` and the other equations of `Bridge.stage`
* `Bridge.getLast?_stageStory`, every word that is returned is told
* `HostFunction.tells_story`
-/

namespace ExtensionHost

open Guest

/-- How functions of the guest are told: the function and its arguments. -/
abbrev Tell (σ : Type) := String → List UInt64 → Story σ

namespace Bridge

variable {σ : Type}

/-! ### Staging -/

/-- Staging once there is room: the payload is written if the room lies in memory. -/
def place (bytes : ByteArray) (address : Address) (pool : StagingPool) (s : Machine σ) :
    EStateM.Result Failure (Machine σ) UInt64 :=
  if address.toNat + bytes.size ≤ s.guest.memory.size then
    .ok (Slice.mk address (.ofNat bytes.size)).pack
      { s with guest :=
        { s.guest with pool, memory := s.guest.memory.write address.toNat bytes } }
  else
    .error (.host (.unableToWriteMemory address (.ofNat bytes.size)))
      { s with guest := { s.guest with pool } }

section Staging

variable {enter : Enter σ} {bytes : ByteArray} {s t : Machine σ} {exports : Exports}

theorem stage_of_size_le (hsize : UInt32.size ≤ bytes.size) :
    stage enter bytes s = .error (.host (.unableToWriteMemory 0 0xFFFFFFFF)) s := by
  rw [stage, if_pos hsize]
  rfl

/-- Staging goes on with what `allocate` answers. -/
theorem stage_of_allocate {address : Address} (hsize : bytes.size < UInt32.size)
    (ha : allocate enter (.ofNat bytes.size) s = .ok address t) (ht : t.exports.isSome = true) :
    stage enter bytes s = place bytes address t.guest.pool t := by
  rw [stage, if_neg (Nat.not_le.mpr hsize)]
  show (allocate enter (.ofNat bytes.size) >>= _) s = _
  rw [Run.bind_of_ok ha, Run.bind_of_ok (guestMemory_of_isSome ht), place]
  split <;> rfl

theorem stage_of_allocate_error {f : Failure} (hsize : bytes.size < UInt32.size)
    (ha : allocate enter (.ofNat bytes.size) s = .error f t) :
    stage enter bytes s = .error f t := by
  rw [stage, if_neg (Nat.not_le.mpr hsize)]
  show (allocate enter (.ofNat bytes.size) >>= _) s = _
  rw [Run.bind_of_error ha]

/-- The request that staging makes to the guest's allocator when it has no room at hand. -/
abbrev request (bytes : ByteArray) (s : Machine σ) : UInt32 :=
  s.guest.pool.growthFor (.ofNat bytes.size)

theorem stage_of_reserve? {address : Address} {pool : StagingPool}
    (hsize : bytes.size < UInt32.size) (hs : s.exports.isSome = true)
    (hr : s.guest.pool.reserve? (.ofNat bytes.size) = some (address, pool)) :
    stage enter bytes s = place bytes address pool s := by
  have ha : allocate enter (.ofNat bytes.size) s
      = .ok address { s with guest := { s.guest with pool } } := by
    rw [allocate, Run.get_bind, hr]
    rfl
  rw [stage_of_allocate hsize ha hs]
  rfl

theorem allocate_of_reserve?_eq_none (hs : s.exports = some exports)
    (hr : s.guest.pool.reserve? (.ofNat bytes.size) = none) :
    allocate enter (.ofNat bytes.size) s
      = (do
          let results ← enter exports.malloc [(request bytes s).toUInt64]
          let memory ← guestMemory
          match checkedAllocation? (results.headD 0).toUInt32 (request bytes s) memory.size with
          | none => fail (.unableToWriteMemory (results.headD 0).toUInt32 (request bytes s))
          | some base => do
            Run.modifyGuest fun guest => { guest with
              pool := guest.pool.adopt base (request bytes s) (.ofNat bytes.size) }
            pure base : Run σ Address) s := by
  rw [allocate, Run.get_bind, hr]
  dsimp only
  rw [Run.bind_of_ok (guestExports_of_eq_some hs)]
  exact Run.get_bind ..

theorem stage_of_malloc_error {f : Failure} (hsize : bytes.size < UInt32.size)
    (hs : s.exports = some exports) (hr : s.guest.pool.reserve? (.ofNat bytes.size) = none)
    (hm : enter exports.malloc [(request bytes s).toUInt64] s = .error f t) :
    stage enter bytes s = .error f t := by
  refine stage_of_allocate_error hsize ?_
  rw [allocate_of_reserve?_eq_none hs hr, Run.bind_of_error hm]

theorem stage_of_rejected {results : List UInt64} (hsize : bytes.size < UInt32.size)
    (hs : s.exports = some exports) (hr : s.guest.pool.reserve? (.ofNat bytes.size) = none)
    (hm : enter exports.malloc [(request bytes s).toUInt64] s = .ok results t)
    (ht : t.exports.isSome = true)
    (hc : checkedAllocation? (results.headD 0).toUInt32 (request bytes s) t.guest.memory.size
      = none) :
    stage enter bytes s = .error (.host (.unableToWriteMemory (results.headD 0).toUInt32
      (request bytes s))) t := by
  refine stage_of_allocate_error hsize ?_
  rw [allocate_of_reserve?_eq_none hs hr, Run.bind_of_ok hm,
    Run.bind_of_ok (guestMemory_of_isSome ht), hc]
  rfl

theorem stage_of_adopted {results : List UInt64} {base : Address}
    (hsize : bytes.size < UInt32.size) (hs : s.exports = some exports)
    (hr : s.guest.pool.reserve? (.ofNat bytes.size) = none)
    (hm : enter exports.malloc [(request bytes s).toUInt64] s = .ok results t)
    (ht : t.exports.isSome = true)
    (hc : checkedAllocation? (results.headD 0).toUInt32 (request bytes s) t.guest.memory.size
      = some base) :
    stage enter bytes s
      = place bytes base (t.guest.pool.adopt base (request bytes s) (.ofNat bytes.size)) t := by
  have ha : allocate enter (.ofNat bytes.size) s
      = .ok base { t with guest := { t.guest with
          pool := t.guest.pool.adopt base (request bytes s) (.ofNat bytes.size) } } := by
    rw [allocate_of_reserve?_eq_none hs hr, Run.bind_of_ok hm,
      Run.bind_of_ok (guestMemory_of_isSome ht), hc]
    rfl
  rw [stage_of_allocate hsize ha ht]
  rfl

end Staging

/-- The note of a payload, by what staging it comes to. -/
def settled (bytes : ByteArray) (s : Machine σ) : EStateM.Result Failure (Machine σ) UInt64 → Note σ
  | .ok word t => ⟨.staged bytes word, s, t⟩
  | .error _ t => ⟨.unplaced bytes, s, t⟩

/-- The story of staging.  The guest's allocator is called only if no buffer at hand has room. -/
def stageStory (enter : Enter σ) (tell : Tell σ) (bytes : ByteArray) : Story σ := fun s =>
  if UInt32.size ≤ bytes.size then []
  else
    match s.guest.pool.reserve? (.ofNat bytes.size), s.exports with
    | some _, _ => [settled bytes s (stage enter bytes s)]
    | none, none => []
    | none, some exports =>
      tell exports.malloc [(request bytes s).toUInt64] s ++
        match enter exports.malloc [(request bytes s).toUInt64] s with
        | .ok _ t => [settled bytes t (stage enter bytes s)]
        | .error _ _ => []

section Staging

variable {sandbox : Sandbox σ} {enter : Enter σ} {tell : Tell σ} {bytes : ByteArray}

/-- Placing a payload where the pool grants room for it is one legal event. -/
theorem leads_place {address : Address} {pool : StagingPool} {s t : Machine σ}
    (hbound : t.bound.isSome = true) (hsize : bytes.size < UInt32.size)
    (hgrant : StagingPool.Grants t.guest.memory.size t.guest.pool (.ofNat bytes.size) address pool)
    (hs : stage enter bytes s = place bytes address pool t) :
    Leads sandbox t [settled bytes t (stage enter bytes s)] (Run.after (stage enter bytes) s) := by
  rw [Run.after, hs, place]
  by_cases hfit : address.toNat + bytes.size ≤ t.guest.memory.size
  · rw [if_pos hfit]
    exact .single (.staged hbound hsize hgrant hfit)
  · rw [if_neg hfit]
    exact .single (.misplaced hbound hsize hgrant (Nat.not_le.mp hfit))

/-- During an invocation, all of staging is told. -/
theorem leads_stageStory (htell : ∀ name args, (tell name args).Tells sandbox (enter name args))
    {s : Machine σ} (hs : s.IsReady) (hbound : s.bound.isSome = true) :
    Leads sandbox s (stageStory enter tell bytes s) (Run.after (stage enter bytes) s) := by
  rw [stageStory]
  by_cases hlarge : UInt32.size ≤ bytes.size
  · rw [if_pos hlarge, Run.after_of_error (stage_of_size_le hlarge)]
    exact .nil s
  have hsize := Nat.not_le.mp hlarge
  rw [if_neg hlarge]
  obtain ⟨exports, hexports⟩ := Option.isSome_iff_exists.mp (hs hbound)
  cases hr : s.guest.pool.reserve? (.ofNat bytes.size) with
  | some room =>
    exact leads_place hbound hsize (.reserved hr) (stage_of_reserve? hsize (hs hbound) hr)
  | none =>
    have hmalloc := htell exports.malloc [(request bytes s).toUInt64] s hs
    simp only [hexports]
    cases hm : enter exports.malloc [(request bytes s).toUInt64] s with
    | error f t =>
      rw [Run.after_of_error hm] at hmalloc
      rw [Run.after_of_error (stage_of_malloc_error hsize hexports hr hm), List.append_nil]
      exact hmalloc
    | ok results t =>
      rw [Run.after_of_ok hm] at hmalloc
      refine hmalloc.append ?_
      have ht : t.exports.isSome = true := by rw [hmalloc.exports_eq, hexports]; rfl
      have htbound : t.bound.isSome = true := hmalloc.isSome_bound_eq.trans hbound
      cases hc : checkedAllocation? (results.headD 0).toUInt32 (request bytes s)
          t.guest.memory.size with
      | none =>
        have hstage := stage_of_rejected hsize hexports hr hm ht hc
        rw [Run.after_of_error hstage, hstage]
        exact .single (.rejected bytes t)
      | some base =>
        obtain ⟨rfl, -⟩ := checkedAllocation?_eq_some_iff.mp hc
        exact leads_place htbound hsize (.adopted (StagingPool.le_growthFor ..) hc)
          (stage_of_adopted hsize hexports hr hm ht hc)

/-- A word that staging returns is the last thing that its story tells. -/
theorem getLast?_stageStory {s t : Machine σ} {word : UInt64} (hs : s.exports.isSome = true)
    (h : stage enter bytes s = .ok word t) :
    ∃ u, (stageStory enter tell bytes s).getLast? = some ⟨.staged bytes word, u, t⟩ := by
  rw [stageStory]
  by_cases hlarge : UInt32.size ≤ bytes.size
  · rw [stage_of_size_le hlarge] at h
    cases h
  have hsize := Nat.not_le.mp hlarge
  rw [if_neg hlarge]
  obtain ⟨exports, hexports⟩ := Option.isSome_iff_exists.mp hs
  cases hr : s.guest.pool.reserve? (.ofNat bytes.size) with
  | some room =>
    refine ⟨s, ?_⟩
    dsimp only
    rw [h]
    rfl
  | none =>
    simp only [hexports]
    cases hm : enter exports.malloc [(request bytes s).toUInt64] s with
    | error f u =>
      rw [stage_of_malloc_error hsize hexports hr hm] at h
      cases h
    | ok results u =>
      refine ⟨u, ?_⟩
      dsimp only
      rw [h, List.getLast?_append]
      rfl

end Staging

/-! ### Fields -/

/-- The story of handing a field to the guest. -/
def presentStory (enter : Enter σ) (tell : Tell σ) (value : FieldValue) : Reader → Story σ
  | .string =>
    Story.silent.bind (ofReply value.toString?) fun text => stageStory enter tell text.toUTF8
  | .bytes => Story.silent.bind (ofReply value.toBytes?) (stageStory enter tell)
  | .qnamePackage =>
    Story.silent.bind (ofReply value.toQName?) fun name => stageStory enter tell name.package.toUTF8
  | .qnameEntity =>
    Story.silent.bind (ofReply value.toQName?) fun name => stageStory enter tell name.entity.toUTF8
  | _ => .silent

section Fields

variable {sandbox : Sandbox σ} {enter : Enter σ} {tell : Tell σ}

theorem after_ofReply {α : Type} (r : Except StateError α) (s : Machine σ) :
    Run.after (ofReply r) s = s := by
  cases r <;> rfl

/-- An invocation that hands a payload to the guest tells all of it. -/
theorem leads_reply {α : Type} (htell : ∀ name args, (tell name args).Tells sandbox (enter name args))
    (r : Except StateError α) (payload : α → ByteArray) {s : Machine σ} (hs : s.IsReady)
    (hbound : s.bound.isSome = true) :
    Leads sandbox s (Story.silent.bind (ofReply r) (fun a => stageStory enter tell (payload a)) s)
      (Run.after (ofReply r >>= fun a => stage enter (payload a)) s) := by
  cases r with
  | ok a => exact leads_stageStory htell hs hbound
  | error e => exact .nil s

theorem leads_presentStory (htell : ∀ name args, (tell name args).Tells sandbox (enter name args))
    (value : FieldValue) (reader : Reader) {s : Machine σ} (hs : s.IsReady)
    (hbound : s.bound.isSome = true) :
    Leads sandbox s (presentStory enter tell value reader s)
      (Run.after (present enter value reader) s) := by
  cases reader with
  | string => exact leads_reply htell value.toString? String.toUTF8 hs hbound
  | bytes => exact leads_reply htell value.toBytes? id hs hbound
  | qnamePackage => exact leads_reply htell value.toQName? (·.package.toUTF8) hs hbound
  | qnameEntity => exact leads_reply htell value.toQName? (·.entity.toUTF8) hs hbound
  | int32 => exact (Story.Tells.silent (after_ofReply _)).bind_pure _ s hs
  | int64 => exact (Story.Tells.silent (after_ofReply _)).bind_pure _ s hs
  | float32 => exact (Story.Tells.silent (after_ofReply _)).bind_pure _ s hs
  | float64 => exact Story.Tells.silent (after_ofReply _) s hs
  | bool => exact (Story.Tells.silent (after_ofReply _)).bind_pure _ s hs

end Fields

/-! ### Iterations -/

/-- The story of handing rows to the guest. -/
def rowsStory (enter : Enter σ) (tell : Tell σ) (callback : String) : Rows σ → Story σ
  | .done _ state => fun s => [⟨.asked, s, { s with bound := some state }⟩]
  | .row key value state resume => fun s =>
    let offered : Machine σ := { s with bound := some state }
    ⟨.asked, s, offered⟩ :: (tell callback [key.id, value.id] offered ++
      match enter callback [key.id, value.id] offered with
      | .ok _ t =>
        match t.bound with
        | some state => rowsStory enter tell callback (resume (.ok ()) state) t
        | none => []
      | .error _ t =>
        match t.bound with
        | some state => rowsStory enter tell callback (resume (.error .interrupted) state) t
        | none => [])

/-- The story of an iteration. -/
def iterateStory (sandbox : Sandbox σ) (enter : Enter σ) (tell : Tell σ) (key : UInt64) :
    Story σ := fun s =>
  match s.bound, s.exports with
  | some state, some exports =>
    rowsStory enter tell exports.onReadValue (sandbox.adapter.readValues ⟨key⟩ state) s
  | _, _ => []

section Iterations

variable {sandbox : Sandbox σ} {enter : Enter σ} {tell : Tell σ}

/-- The adapter's state moves, where there is one. -/
theorem legal_asked {s : Machine σ} (hbound : s.bound.isSome = true) (state : σ) :
    Note.Legal sandbox ⟨.asked, s, { s with bound := some state }⟩ :=
  .asked ⟨rfl, hbound.symm⟩

theorem deliverRows_of_ok {callback : String} {last : Option Failure} {key : KeyHandle}
    {value : ValueHandle} {state next : σ} {resume : Except StateError Unit → σ → Rows σ}
    {s t : Machine σ} {results : List UInt64}
    (hc : enter callback [key.id, value.id] { s with bound := some state } = .ok results t)
    (ht : t.bound = some next) :
    deliverRows enter callback last (.row key value state resume) s
      = deliverRows enter callback last (resume (.ok ()) next) t := by
  simp only [deliverRows, hc, ht]

theorem deliverRows_of_error {callback : String} {last : Option Failure} {key : KeyHandle}
    {value : ValueHandle} {state next : σ} {resume : Except StateError Unit → σ → Rows σ}
    {s t : Machine σ} {f : Failure}
    (hc : enter callback [key.id, value.id] { s with bound := some state } = .error f t)
    (ht : t.bound = some next) :
    deliverRows enter callback last (.row key value state resume) s
      = deliverRows enter callback (some f) (resume (.error .interrupted) next) t := by
  simp only [deliverRows, hc, ht]

theorem leads_rowsStory (htell : ∀ name args, (tell name args).Tells sandbox (enter name args))
    (callback : String) (rows : Rows σ) (last : Option Failure) {s : Machine σ} (hs : s.IsReady)
    (hbound : s.bound.isSome = true) :
    Leads sandbox s (rowsStory enter tell callback rows s)
      (Run.after (deliverRows enter callback last rows) s) := by
  induction rows generalizing last s with
  | done outcome state => exact .single (legal_asked hbound state)
  | row key value state resume ih =>
    have hasked : Note.Legal sandbox ⟨.asked, s, { s with bound := some state }⟩ :=
      legal_asked hbound state
    have hoffered := hasked.isReady hs
    have hrow := htell callback [key.id, value.id] { s with bound := some state } hoffered
    rw [rowsStory]
    refine .cons hasked ?_
    cases hc : enter callback [key.id, value.id] { s with bound := some state } with
    | ok results t =>
      rw [Run.after_of_ok hc] at hrow
      refine hrow.append ?_
      have ht : t.bound.isSome = true := hrow.isSome_bound_eq
      obtain ⟨next, hnext⟩ := Option.isSome_iff_exists.mp ht
      rw [Run.after, deliverRows_of_ok hc hnext]
      simp only [hnext]
      exact ih (.ok ()) next last (hrow.isReady hoffered) ht
    | error f t =>
      rw [Run.after_of_error hc] at hrow
      refine hrow.append ?_
      have ht : t.bound.isSome = true := hrow.isSome_bound_eq
      obtain ⟨next, hnext⟩ := Option.isSome_iff_exists.mp ht
      rw [Run.after, deliverRows_of_error hc hnext]
      simp only [hnext]
      exact ih (.error .interrupted) next (some f) (hrow.isReady hoffered) ht

/-- What is made of an iteration's outcome changes nothing. -/
theorem after_iterateRows {s : Machine σ} {state : σ} {exports : Exports} (key : UInt64)
    (hbound : s.bound = some state) (hexports : s.exports = some exports) :
    Run.after (iterateRows sandbox enter key) s
      = Run.after (deliverRows enter exports.onReadValue none
          (sandbox.adapter.readValues ⟨key⟩ state)) s := by
  rw [Run.after, iterateRows, Run.bind_of_ok (boundState_of_eq_some hbound),
    Run.bind_of_ok (guestExports_of_eq_some hexports)]
  cases hd : deliverRows enter exports.onReadValue none
      (sandbox.adapter.readValues ⟨key⟩ state) s with
  | error f t => rw [Run.bind_of_error hd, Run.after_of_error hd]
  | ok answer t =>
    obtain ⟨failure, outcome⟩ := answer
    rw [Run.bind_of_ok hd, Run.after_of_ok hd]
    cases failure with
    | some f => rfl
    | none => exact after_ofReply outcome t

theorem tells_iterateStory (htell : ∀ name args, (tell name args).Tells sandbox (enter name args))
    (key : UInt64) :
    (iterateStory sandbox enter tell key).Tells sandbox (iterateRows sandbox enter key) := by
  intro s hs
  cases hbound : s.bound with
  | none =>
    rw [iterateStory, Run.after, iterateRows, Run.bind_of_error (boundState_of_eq_none hbound)]
    simp only [hbound]
    exact .nil s
  | some state =>
    have hsome : s.bound.isSome = true := by rw [hbound]; rfl
    obtain ⟨exports, hexports⟩ := Option.isSome_iff_exists.mp (hs hsome)
    rw [iterateStory, after_iterateRows key hbound hexports]
    simp only [hbound, hexports]
    exact leads_rowsStory htell exports.onReadValue _ none hs hsome

end Iterations

end Bridge

/-! ### Host functions -/

namespace HostFunction

open Bridge

variable {σ : Type}

/-- The field that a guest reads with the first arguments of a call. -/
def fieldOf (args : List UInt64) : FieldSource → FieldRef
  | .key => .key (args.getD 0 0) (args.getD 1 0).toUInt32 (args.getD 2 0).toUInt32
  | .value => .value (args.getD 0 0) (args.getD 1 0).toUInt32 (args.getD 2 0).toUInt32
  | .item => .item (args.getD 0 0) (args.getD 1 0).toUInt32

theorem call_read (sandbox : Sandbox σ) (enter : Enter σ) (source : FieldSource) (reader : Reader)
    (args : List UInt64) :
    (HostFunction.read source reader).call sandbox enter args
      = readField sandbox (fieldOf args source) (kindOf reader) >>= fun value =>
          present enter value reader >>= fun w => pure [w] := by
  cases source <;> rfl

/-- The story of a call of a host function. -/
def story (sandbox : Sandbox σ) (enter : Enter σ) (tell : Tell σ) (f : HostFunction)
    (args : List UInt64) : Story σ := fun s =>
  ⟨.entered f args, s, s⟩ ::
    match f with
    | .readValues => iterateStory sandbox enter tell (args.getD 0 0) s
    | .read source reader =>
      let c := readField sandbox (fieldOf args source) (kindOf reader)
      (Story.once .asked c).bind c (fun value => presentStory enter tell value reader) s
    | f => Story.once .asked (f.call sandbox enter args) s

theorem tells_once_asked {α : Type} (sandbox : Sandbox σ) {c : Run σ α}
    (hc : Run.Meets Serves c) : (Story.once .asked c).Tells sandbox c :=
  .once fun s _ => .asked (hc s).asks

theorem story_of_not_entersGuest (sandbox : Sandbox σ) (enter : Enter σ) (tell : Tell σ)
    {f : HostFunction} (hf : f.entersGuest = false) (args : List UInt64) (s : Machine σ) :
    f.story sandbox enter tell args s
      = ⟨.entered f args, s, s⟩ :: Story.once .asked (f.call sandbox enter args) s := by
  cases f <;> first | rfl | cases hf

/-- A field is read and handed to the guest during invocations only. -/
theorem leads_read {sandbox : Sandbox σ} {enter : Enter σ} {tell : Tell σ}
    (htell : ∀ name args, (tell name args).Tells sandbox (enter name args)) (source : FieldSource)
    (reader : Reader) (args : List UInt64) {s : Machine σ} (hs : s.IsReady) :
    Leads sandbox s
      ((Story.once .asked (readField sandbox (fieldOf args source) (kindOf reader))).bind
        (readField sandbox (fieldOf args source) (kindOf reader))
        (fun value => presentStory enter tell value reader) s)
      (Run.after ((HostFunction.read source reader).call sandbox enter args) s) := by
  have hserves := serves_readField sandbox (fieldOf args source) (kindOf reader)
  have hleads := tells_once_asked sandbox hserves s hs
  rw [call_read, Run.after, Story.bind]
  cases hr : readField sandbox (fieldOf args source) (kindOf reader) s with
  | error f t =>
    rw [Run.after_of_error hr] at hleads
    rw [Run.bind_of_error hr, List.append_nil]
    exact hleads
  | ok value t =>
    rw [Run.after_of_ok hr] at hleads
    rw [Run.bind_of_ok hr]
    refine hleads.append ?_
    have hbound : t.bound.isSome = true := by
      rw [hleads.isSome_bound_eq]
      cases hb : s.bound with
      | some state => rfl
      | none =>
        rw [readField_of_eq_none _ _ hb] at hr
        cases hr
    show Leads sandbox t _ (Run.after (present enter value reader >>= fun w => pure [w]) t)
    rw [Run.after_bind_pure]
    exact leads_presentStory htell value reader (hleads.isReady hs) hbound

/-- **Host functions.**  All of a call of a host function is told, if all of the calls of the guest
that it makes is. -/
theorem tells_story (sandbox : Sandbox σ) (enter : Enter σ) (tell : Tell σ)
    (htell : ∀ name args, (tell name args).Tells sandbox (enter name args)) (f : HostFunction)
    (args : List UInt64) :
    (f.story sandbox enter tell args).Tells sandbox (f.call sandbox enter args) := by
  intro s hs
  by_cases hf : f.entersGuest = false
  · rw [story_of_not_entersGuest sandbox enter tell hf]
    exact .cons (.entered f args s) (tells_once_asked sandbox (serves_call sandbox enter hf args) s hs)
  · refine .cons (.entered f args s) ?_
    cases f with
    | readValues => exact (tells_iterateStory htell (args.getD 0 0)).bind_pure _ s hs
    | read source reader => exact leads_read htell source reader args hs
    | _ => exact absurd rfl hf

end HostFunction

end ExtensionHost
