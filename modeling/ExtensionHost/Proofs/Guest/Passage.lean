import ExtensionHost.Proofs.Bridge.Fields

/-!
# Values on their way through a guest

A guest reads a value from the host, a qualified name in two halves, and puts it into another field.
Between these calls of the host it may do whatever a guest can do (`Leads`), as long as it does not
store into what it was handed.  The adapter then gets the very value that it gave.

**Why any pool will do.**  Each half of a value is staged wherever the pool has room for it then,
and maybe in a fresh buffer, for which the guest's allocator runs.  All of this is part of the
history from the first reading to the putting; in its course payloads are kept
(`Leads.keeps_append`).

## Main definitions

* `Sandbox.callHost`, a call of a host function by the guest
* `Gathers`, how a guest gets the words of a value

## Main results

* `Sandbox.callNested_eq_callHost` and `Sandbox.callHost_read`
* `Gathers.exists_part`, the words that a guest gets stand for parts of the value
* `Gathers.callHost_put`, the adapter gets the value
-/

namespace ExtensionHost

namespace Guest

open Bridge

variable {σ : Type}

namespace Sandbox

/-- A call of a host function by the guest, in which functions of the guest may be entered with at
most a number of calls nested. -/
def callHost (sandbox : Sandbox σ) (depth : Nat) (f : HostFunction) (args : List UInt64) :
    Run σ (List UInt64) := do
  let results ← f.call sandbox (callNested sandbox depth) (narrowAll f.signature.params args)
  return narrowAll f.signature.results results

/-- The story of a call of a host function. -/
def hostStory (sandbox : Sandbox σ) (depth : Nat) (f : HostFunction) (args : List UInt64) : Story σ :=
  f.story sandbox (callNested sandbox depth) (historyNested sandbox depth)
    (narrowAll f.signature.params args)

section Calls

variable {sandbox : Sandbox σ} {depth : Nat}

/-- A name that the program leaves to the host calls the host function of this name. -/
theorem callNested_eq_callHost {name : String} {f : HostFunction}
    (hprogram : sandbox.program.function? name = none) (hf : HostFunction.named? name = some f)
    (args : List UInt64) :
    sandbox.callNested (depth + 1) name args = sandbox.callHost depth f args := by
  rw [callNested, hprogram, hf]
  rfl

theorem tells_hostStory (sandbox : Sandbox σ) (depth : Nat) (f : HostFunction)
    (args : List UInt64) :
    (sandbox.hostStory depth f args).Tells sandbox (sandbox.callHost depth f args) :=
  (HostFunction.tells_story sandbox _ _ (tells_historyNested sandbox depth) f _).bind_pure _

/-- What happens in the course of a call of a host function that returns. -/
theorem leads_callHost {f : HostFunction} {args results : List UInt64} {s t : Machine σ}
    (hs : s.IsReady) (hcall : sandbox.callHost depth f args s = .ok results t) :
    Leads sandbox s (sandbox.hostStory depth f args s) t := by
  have hleads := tells_hostStory sandbox depth f args s hs
  rwa [Run.after_of_ok hcall] at hleads

/-- A guest that reads a field with a reader of the value's own kind gets the part of the value that
the reader hands over. -/
theorem callHost_read {source : FieldSource} {reader : Reader} {args : List UInt64} {v : FieldValue}
    {part : Part} {s asked : Machine σ}
    (hanswer : readField sandbox (HostFunction.fieldOf (narrowAll source.params args) source)
      (kindOf reader) s = .ok v asked) (hpart : v.part? reader = some part) :
    sandbox.callHost depth (.read source reader) args s
      = (part.hand (sandbox.callNested depth) >>= fun w => pure [w]) asked := by
  have hcall : (HostFunction.read source reader).call sandbox (sandbox.callNested depth)
      (narrowAll source.params args) s
        = (part.hand (sandbox.callNested depth) >>= fun w => pure [w]) asked := by
    rw [HostFunction.call_read, Run.bind_of_ok hanswer, present_eq_hand hpart]
  show ((HostFunction.read source reader).call sandbox (sandbox.callNested depth)
    (narrowAll source.params args) >>= fun results => pure (narrowAll [reader.result] results)) s = _
  cases hhand : part.hand (sandbox.callNested depth) asked with
  | ok w t =>
    rw [Run.bind_of_ok hhand] at hcall ⊢
    rw [Run.bind_of_ok hcall]
    show EStateM.Result.ok [reader.result.narrow w] t = .ok [w] t
    rw [narrow_of_hand hpart hhand]
  | error f t =>
    rw [Run.bind_of_error hhand] at hcall ⊢
    rw [Run.bind_of_error hcall]

/-- The word that a guest gets is the one that the part was handed over by. -/
theorem hand_of_callHost_read {source : FieldSource} {reader : Reader} {args : List UInt64}
    {v : FieldValue} {part : Part} {s asked t : Machine σ} {w : UInt64}
    (hanswer : readField sandbox (HostFunction.fieldOf (narrowAll source.params args) source)
      (kindOf reader) s = .ok v asked) (hpart : v.part? reader = some part)
    (hcall : sandbox.callHost depth (.read source reader) args s = .ok [w] t) :
    part.hand (sandbox.callNested depth) asked = .ok w t := by
  rw [callHost_read hanswer hpart] at hcall
  cases hhand : part.hand (sandbox.callNested depth) asked with
  | ok w' t' =>
    rw [Run.bind_of_ok hhand] at hcall
    cases hcall
    rfl
  | error f t' =>
    rw [Run.bind_of_error hhand] at hcall
    cases hcall

/-- A guest that reads a field gets a word, unless a payload cannot be staged. -/
theorem exists_word {source : FieldSource} {reader : Reader} {args : List UInt64} {v : FieldValue}
    {s asked : Machine σ}
    (hanswer : readField sandbox (HostFunction.fieldOf (narrowAll source.params args) source)
      (kindOf reader) s = .ok v asked) (hpart : (v.part? reader).isSome = true)
    (hstage : ∀ bytes, v.part? reader = some (.payload bytes) →
      ∃ w t, stage (sandbox.callNested depth) bytes asked = .ok w t) :
    ∃ w t, sandbox.callHost depth (.read source reader) args s = .ok [w] t := by
  obtain ⟨part, hpart⟩ := Option.isSome_iff_exists.mp hpart
  rw [callHost_read hanswer hpart]
  cases part with
  | number n => exact ⟨n, asked, rfl⟩
  | payload bytes =>
    obtain ⟨w, t, hok⟩ := hstage bytes hpart
    exact ⟨w, t, Run.bind_of_ok hok⟩

/-- The story of a reading ends with handing over the part. -/
theorem handouts_hostStory_read {source : FieldSource} {reader : Reader} {args : List UInt64}
    {v : FieldValue} {part : Part} {s asked : Machine σ}
    (hanswer : readField sandbox (HostFunction.fieldOf (narrowAll source.params args) source)
      (kindOf reader) s = .ok v asked) (hpart : v.part? reader = some part) :
    handouts (sandbox.hostStory depth (.read source reader) args s)
      = handouts (part.story (sandbox.callNested depth) (sandbox.historyNested depth) asked) := by
  have hstory : sandbox.hostStory depth (.read source reader) args s
      = ⟨.entered (.read source reader) (narrowAll source.params args), s, s⟩ ::
        ⟨.asked, s, asked⟩ ::
          part.story (sandbox.callNested depth) (sandbox.historyNested depth) asked := by
    simp only [hostStory, HostFunction.story, HostFunction.signature, Story.bind, Story.once, hanswer,
      Run.after, presentStory_eq_story hpart]
    rfl
  rw [hstory]
  rfl

end Calls

end Sandbox

/-! ### Gathering the words of a value -/

/-- A guest gets words for a value.  The adapter answers with the value every time, whatever field
of whatever source is read, with readers of the value's own kind in any order, and before and after
a reading the guest may do anything.  What happens in the course of it is listed, with all that
happens while the guest's allocator provides buffers; so is what the guest gets. -/
inductive Gathers (sandbox : Sandbox σ) (v : FieldValue) :
    Machine σ → List (Note σ) → List (Reader × UInt64) → Machine σ → Prop where
  /-- Nothing is left to read. -/
  | done (s : Machine σ) : Gathers sandbox v s [] [] s
  /-- The guest goes on. -/
  | goOn {s t u : Machine σ} {notes more : List (Note σ)} {got : List (Reader × UInt64)}
    (hleads : Leads sandbox s notes t) (hrest : Gathers sandbox v t more got u) :
    Gathers sandbox v s (notes ++ more) got u
  /-- The guest reads a field. -/
  | read {source : FieldSource} {reader : Reader} {part : Part} {depth : Nat} {args : List UInt64}
    {s asked t u : Machine σ} {more : List (Note σ)} {w : UInt64} {got : List (Reader × UInt64)}
    (hpart : v.part? reader = some part)
    (hanswer : readField sandbox (HostFunction.fieldOf (narrowAll source.params args) source)
      (kindOf reader) s = .ok v asked)
    (hcall : sandbox.callHost depth (.read source reader) args s = .ok [w] t)
    (hrest : Gathers sandbox v t more got u) :
    Gathers sandbox v s (sandbox.hostStory depth (.read source reader) args s ++ more)
      ((reader, w) :: got) u

namespace Gathers

variable {sandbox : Sandbox σ} {v : FieldValue} {s t : Machine σ} {notes : List (Note σ)}
  {got : List (Reader × UInt64)}

theorem leads (h : Gathers sandbox v s notes got t) (hs : s.IsReady) :
    Leads sandbox s notes t := by
  induction h with
  | done s => exact .nil s
  | goOn hleads _ ih => exact hleads.append (ih (hleads.isReady hs))
  | read _ _ hcall _ ih =>
    have hleads := Sandbox.leads_callHost hs hcall
    exact hleads.append (ih (hleads.isReady hs))

/-- **Reading.**  A word that a guest gets stands for what the reader hands over of the value, given
the payloads that were handed out. -/
theorem exists_part (h : Gathers sandbox v s notes got t) (hs : s.IsReady)
    (hexports : s.exports.isSome = true) {reader : Reader} {w : UInt64}
    (hgot : (reader, w) ∈ got) :
    ∃ part, v.part? reader = some part ∧ part.IsWord (handouts notes) w := by
  induction h with
  | done s => cases hgot
  | goOn hleads _ ih =>
    obtain ⟨part, hpart, hword⟩ := ih (hleads.isReady hs) (hleads.exports_eq ▸ hexports) hgot
    rw [handouts_append]
    exact ⟨part, hpart, hword.mono (List.subset_append_right _ _)⟩
  | read hpart hanswer hcall _ ih =>
    rw [handouts_append]
    rcases List.mem_cons.mp hgot with heq | hgot
    · cases heq
      have hasked := ((serves_readField sandbox _ (kindOf _)).ok hanswer).asks.1
      refine ⟨_, hpart, .mono ?_ (List.subset_append_left _ _)⟩
      rw [Sandbox.handouts_hostStory_read hanswer hpart]
      refine Part.isWord_of_hand ?_ (Sandbox.hand_of_callHost_read hanswer hpart hcall)
      rw [hasked]
      exact hexports
    · have hleads := Sandbox.leads_callHost hs hcall
      obtain ⟨part, hpart, hword⟩ := ih (hleads.isReady hs) (hleads.exports_eq ▸ hexports) hgot
      exact ⟨part, hpart, hword.mono (List.subset_append_right _ _)⟩

/-- **Putting.**  When a guest has got a word from each of the value's readers, and has not stored
into what it was handed, the adapter that it puts these words to gets the value. -/
theorem callHost_put (h : Gathers sandbox v s notes got t) {payload : Payload}
    (hv : v.payload? = some payload) {words : List UInt64}
    (hwords : List.Forall₂ (fun reader w => (reader, w) ∈ got) payload.readers words)
    (hlimit : sandbox.memoryLimit < UInt32.size) (hs : s.guest.IsSound sandbox.memoryLimit)
    (hexports : s.exports.isSome = true) (hsep : t.guest.pool.Separate)
    (hspares : SparesHandouts [] notes) {id : UInt64} {tag : UInt32} {writer : RowWriter}
    (hwriter : RowWriter.ofTag? id tag = some writer) {name : Slice} {text : String}
    (hname : readText name.ptr name.len t = .ok text t) {state : σ} (hbound : t.bound = some state)
    (depth : Nat) :
    sandbox.callHost depth (.put payload) (payload.arguments id tag name words) t
      = settle t (sandbox.adapter.putField writer text v state) := by
  have hready : s.IsReady := fun _ => hexports
  have hleads := h.leads hready
  have hkeeps : t.guest.Keeps (handouts notes) :=
    hleads.keeps_append hlimit hs hsep hspares (GuestState.keeps_nil _)
  have hencodes : Encodes (handouts notes) v payload.readers words :=
    hwords.imp fun _ _ hgot => h.exists_part hready hexports hgot
  have hcall := hencodes.call_put sandbox (sandbox.callNested depth) hv (hleads.isSound hs)
    (hleads.exports_eq ▸ hexports) hkeeps.each hwriter hname hbound
  show ((HostFunction.put payload).call sandbox (sandbox.callNested depth)
    (narrowAll (HostFunction.put payload).signature.params (payload.arguments id tag name words))
      >>= fun results => pure (narrowAll [] results)) t = _
  cases hreply : sandbox.adapter.putField writer text v state with
  | mk reply next =>
    rw [hreply] at hcall
    cases reply with
    | ok u => exact Run.bind_of_ok hcall
    | error e => exact Run.bind_of_error hcall

end Gathers

end Guest

end ExtensionHost
