import ExtensionHost.Assoc

/-!
# The theory of ordered association lists

An `Assoc` that was built by insertions is `Sorted`.  That is why setting a key to the value that it
already has changes nothing at all, and why a map can be rebuilt from its keys.

Lookups after an insertion need no order: `insertEntry` puts a key in front of the first greater
one, so that a lookup meets it in any case.

## Main definitions

* `Assoc.Sorted`
* `Assoc.collect`, the map of the keys for which a value is found

## Main results

* `Assoc.find?_insert` and `Assoc.Sorted.insert`, what an insertion does
* `Assoc.mem_keys_iff` and `Assoc.keys_insert_perm`, which keys there are
* `Assoc.insert_eq_self`, setting a key to the value it has
* `Assoc.keys_insert_of_contains`, setting a key that is there
* `Assoc.collect_keys`, collecting the keys of a map gives the map back
-/

namespace ExtensionHost

universe u

namespace Assoc

variable {κ : Type} {α : Type u} [DecidableEq κ] [LT κ] [DecidableLT κ]

/-! ### Lookups -/

omit [LT κ] [DecidableLT κ] in
theorem lookup_cons_eq (key k : κ) (v : α) (rest : List (κ × α)) :
    ((k, v) :: rest).lookup key = if key = k then some v else rest.lookup key := by
  rw [List.lookup_cons]
  by_cases h : key = k
  · simp [h]
  · rw [beq_eq_false_iff_ne.mpr h, if_neg h]

omit [LT κ] [DecidableLT κ] in
theorem lookup_filter (p : κ → Bool) (entries : List (κ × α)) (key : κ) :
    (entries.filter fun entry => p entry.1).lookup key
      = if p key = true then entries.lookup key else none := by
  induction entries with
  | nil => simp
  | cons entry entries ih =>
    obtain ⟨k, v⟩ := entry
    rw [lookup_cons_eq, List.filter_cons]
    by_cases hk : p k = true
    · rw [if_pos hk, lookup_cons_eq, ih]
      by_cases hkey : key = k
      · rw [if_pos hkey, if_pos (hkey ▸ hk), if_pos hkey]
      · rw [if_neg hkey, if_neg hkey]
    · rw [if_neg hk, ih]
      by_cases hkey : key = k
      · rw [if_neg (hkey ▸ hk), if_neg (hkey ▸ hk)]
      · rw [if_neg hkey]

theorem lookup_insertEntry (key other : κ) (value : α) (entries : List (κ × α)) :
    (insertEntry key value entries).lookup other
      = if other = key then some value else entries.lookup other := by
  induction entries with
  | nil => rw [insertEntry, lookup_cons_eq]
  | cons entry rest ih =>
    obtain ⟨k, v⟩ := entry
    simp only [insertEntry]
    by_cases hk : key = k
    · rw [if_pos hk, lookup_cons_eq, lookup_cons_eq]
      split <;> simp_all
    · rw [if_neg hk]
      by_cases hlt : key < k
      · rw [if_pos hlt, lookup_cons_eq]
      · rw [if_neg hlt, lookup_cons_eq, lookup_cons_eq, ih]
        by_cases h : other = key
        · rw [if_pos h, if_neg fun hc => hk (h ▸ hc), if_pos h]
        · rw [if_neg h, if_neg h]

theorem find?_insert (m : Assoc κ α) (key other : κ) (value : α) :
    (m.insert key value).find? other = if other = key then some value else m.find? other :=
  lookup_insertEntry key other value m.entries

@[simp] theorem find?_insert_self (m : Assoc κ α) (key : κ) (value : α) :
    (m.insert key value).find? key = some value := by
  simp [find?_insert]

/-- A key that is present stays present, whatever else is set. -/
theorem isSome_find?_insert {m : Assoc κ α} {key other : κ} {value : α}
    (h : (m.find? other).isSome) : ((m.insert key value).find? other).isSome := by
  rw [find?_insert]
  split
  · rfl
  · exact h

theorem contains_insert (m : Assoc κ α) (key other : κ) (value : α) :
    (m.insert key value).contains other = (decide (other = key) || m.contains other) := by
  rw [contains, find?_insert]
  split <;> simp_all [contains]

/-! ### Keys -/

omit [LT κ] [DecidableLT κ] in
theorem mem_keys_iff {m : Assoc κ α} {key : κ} : key ∈ m.keys ↔ m.contains key = true := by
  obtain ⟨entries⟩ := m
  show key ∈ entries.map Prod.fst ↔ (entries.lookup key).isSome = true
  induction entries with
  | nil => simp
  | cons entry rest ih =>
    obtain ⟨k, v⟩ := entry
    rw [lookup_cons_eq, List.map_cons, List.mem_cons]
    split <;> simp_all

/-- An entry under a new key is one entry more. -/
theorem insertEntry_perm {key : κ} {value : α} {entries : List (κ × α)}
    (h : entries.lookup key = none) :
    (insertEntry key value entries).Perm ((key, value) :: entries) := by
  induction entries with
  | nil => exact .refl _
  | cons entry rest ih =>
    obtain ⟨k, v⟩ := entry
    rw [lookup_cons_eq] at h
    split at h
    · cases h
    · rename_i hk
      simp only [insertEntry, if_neg hk]
      split
      · exact .refl _
      · exact ((ih h).cons (k, v)).trans (.swap ..)

theorem keys_insert_perm {m : Assoc κ α} {key : κ} (h : m.contains key = false) (value : α) :
    (m.insert key value).keys.Perm (key :: m.keys) := by
  rw [contains, Option.isSome_eq_false_iff, Option.isNone_iff_eq_none] at h
  exact (insertEntry_perm h).map Prod.fst

/-! ### Order -/

omit [DecidableEq κ] [DecidableLT κ] in
/-- The keys come in strictly ascending order. -/
def Sorted (m : Assoc κ α) : Prop := m.entries.Pairwise fun a b => a.1 < b.1

omit [DecidableEq κ] [DecidableLT κ] in
@[simp] theorem sorted_empty : (∅ : Assoc κ α).Sorted := List.Pairwise.nil

theorem mem_insertEntry {key : κ} {value : α} {entries : List (κ × α)} {entry : κ × α}
    (h : entry ∈ insertEntry key value entries) : entry = (key, value) ∨ entry ∈ entries := by
  induction entries with
  | nil => simpa [insertEntry] using h
  | cons first rest ih =>
    obtain ⟨k, v⟩ := first
    simp only [insertEntry] at h
    split at h
    · rcases List.mem_cons.mp h with rfl | h
      · exact Or.inl rfl
      · exact Or.inr (List.mem_cons_of_mem _ h)
    · split at h
      · rcases List.mem_cons.mp h with rfl | h
        · exact Or.inl rfl
        · exact Or.inr h
      · rcases List.mem_cons.mp h with rfl | h
        · exact Or.inr List.mem_cons_self
        · exact (ih h).imp_right (List.mem_cons_of_mem _)

variable [LE κ] [Std.IsLinearOrder κ] [Std.LawfulOrderLT κ]

theorem pairwise_insertEntry {key : κ} {value : α} {entries : List (κ × α)}
    (h : entries.Pairwise fun a b => a.1 < b.1) :
    (insertEntry key value entries).Pairwise fun a b => a.1 < b.1 := by
  induction entries with
  | nil => simp [insertEntry]
  | cons first rest ih =>
    obtain ⟨k, v⟩ := first
    obtain ⟨hfirst, hrest⟩ := List.pairwise_cons.mp h
    simp only [insertEntry]
    split
    · rename_i hk
      subst hk
      exact List.pairwise_cons.mpr ⟨hfirst, hrest⟩
    · rename_i hk
      split
      · rename_i hlt
        refine List.pairwise_cons.mpr ⟨fun entry hmem => ?_, h⟩
        rcases List.mem_cons.mp hmem with rfl | hmem
        · exact hlt
        · exact Std.lt_trans hlt (hfirst entry hmem)
      · rename_i hlt
        refine List.pairwise_cons.mpr ⟨fun entry hmem => ?_, ih hrest⟩
        rcases mem_insertEntry hmem with rfl | hmem
        · grind
        · exact hfirst entry hmem

theorem Sorted.insert {m : Assoc κ α} (h : m.Sorted) (key : κ) (value : α) :
    (m.insert key value).Sorted :=
  pairwise_insertEntry h

omit [DecidableLT κ] in
/-- In a sorted list no entry past the first one has the first one's key or a smaller one. -/
theorem lookup_eq_none_of_le {key : κ} {entries : List (κ × α)}
    (h : ∀ entry ∈ entries, key < entry.1) : entries.lookup key = none := by
  rw [List.lookup_eq_none_iff]
  intro entry hmem
  have := h entry hmem
  grind

theorem insertEntry_eq_self {key : κ} {value : α} {entries : List (κ × α)}
    (hs : entries.Pairwise fun a b => a.1 < b.1) (h : entries.lookup key = some value) :
    insertEntry key value entries = entries := by
  induction entries with
  | nil => simp at h
  | cons first rest ih =>
    obtain ⟨k, v⟩ := first
    obtain ⟨hfirst, hrest⟩ := List.pairwise_cons.mp hs
    by_cases hk : key = k
    · subst hk
      rw [lookup_cons_eq, if_pos rfl, Option.some.injEq] at h
      simp [insertEntry, h]
    · rw [lookup_cons_eq, if_neg hk] at h
      -- the key is found further on, hence greater than the first one
      have hlt : ¬ key < k := by
        intro hlt
        rw [lookup_eq_none_of_le fun entry hmem => Std.lt_trans hlt (hfirst entry hmem)] at h
        cases h
      simp [insertEntry, hk, hlt, ih hrest h]

/-- Setting a key to the value that it has changes nothing. -/
theorem insert_eq_self {m : Assoc κ α} (hs : m.Sorted) {key : κ} {value : α}
    (h : m.find? key = some value) : m.insert key value = m :=
  congrArg Assoc.mk (insertEntry_eq_self hs h)

theorem keys_insertEntry_of_lookup {key : κ} {value : α} {entries : List (κ × α)}
    (hs : entries.Pairwise fun a b => a.1 < b.1) (h : (entries.lookup key).isSome = true) :
    (insertEntry key value entries).map Prod.fst = entries.map Prod.fst := by
  induction entries with
  | nil => cases h
  | cons first rest ih =>
    obtain ⟨k, v⟩ := first
    obtain ⟨hfirst, hrest⟩ := List.pairwise_cons.mp hs
    by_cases hk : key = k
    · subst hk
      simp only [insertEntry, if_true, List.map_cons]
    · rw [lookup_cons_eq, if_neg hk] at h
      -- the key is found further on, hence greater than the first one
      have hlt : ¬ key < k := by
        intro hlt
        rw [lookup_eq_none_of_le fun entry hmem => Std.lt_trans hlt (hfirst entry hmem)] at h
        cases h
      simp only [insertEntry, if_neg hk, if_neg hlt, List.map_cons, ih hrest h]

/-- Setting a key that is present leaves the keys as they are. -/
theorem keys_insert_of_contains {m : Assoc κ α} (hs : m.Sorted) {key : κ}
    (h : m.contains key = true) (value : α) : (m.insert key value).keys = m.keys :=
  keys_insertEntry_of_lookup hs h

/-- A key past all others goes to the end. -/
theorem insertEntry_eq_append {key : κ} {value : α} {entries : List (κ × α)}
    (h : ∀ entry ∈ entries, entry.1 < key) :
    insertEntry key value entries = entries ++ [(key, value)] := by
  induction entries with
  | nil => rfl
  | cons first rest ih =>
    obtain ⟨k, v⟩ := first
    have hk : k < key := h (k, v) List.mem_cons_self
    have hne : ¬ key = k := by grind
    have hnlt : ¬ key < k := by grind
    simp only [insertEntry, if_neg hne, if_neg hnlt, List.cons_append]
    rw [ih fun entry hmem => h entry (List.mem_cons_of_mem _ hmem)]

/-! ### Collecting values -/

variable {ε : Type}

/-- Put the values of keys into a map, one after the other, up to the first key without a value. -/
def collect (value : κ → Except ε α) (keys : List κ) (m : Assoc κ α) : Except ε (Assoc κ α) :=
  keys.foldlM (fun m key => value key >>= fun v => .ok (m.insert key v)) m

omit [LE κ] [Std.IsLinearOrder κ] [Std.LawfulOrderLT κ] in
theorem collect_cons_of_ok {value : κ → Except ε α} {key : κ} {v : α} (h : value key = .ok v)
    (keys : List κ) (m : Assoc κ α) :
    collect value (key :: keys) m = collect value keys (m.insert key v) := by
  simp only [collect, List.foldlM_cons, h]
  rfl

omit [LE κ] [Std.IsLinearOrder κ] [Std.LawfulOrderLT κ] in
/-- Every key is collected, and no other. -/
theorem contains_of_collect {value : κ → Except ε α} {keys : List κ} {m m' : Assoc κ α}
    (h : collect value keys m = .ok m') (key : κ) :
    m'.contains key = true ↔ key ∈ keys ∨ m.contains key = true := by
  induction keys generalizing m with
  | nil =>
    cases h
    simp
  | cons first keys ih =>
    cases hfirst : value first with
    | error e =>
      simp only [collect, List.foldlM_cons, hfirst] at h
      cases h
    | ok v =>
      rw [collect_cons_of_ok hfirst] at h
      rw [ih h, contains_insert, Bool.or_eq_true, decide_eq_true_iff, List.mem_cons]
      exact or_left_comm.trans or_assoc.symm

/-- What is collected is sorted, and every entry is a key with its value. -/
theorem sorted_of_collect {value : κ → Except ε α} {keys : List κ} {m m' : Assoc κ α}
    (h : collect value keys m = .ok m') (hs : m.Sorted)
    (hvalue : ∀ entry ∈ m.entries, value entry.1 = .ok entry.2) :
    m'.Sorted ∧ ∀ entry ∈ m'.entries, value entry.1 = .ok entry.2 := by
  induction keys generalizing m with
  | nil =>
    cases h
    exact ⟨hs, hvalue⟩
  | cons key keys ih =>
    cases hk : value key with
    | error e =>
      simp only [collect, List.foldlM_cons, hk] at h
      cases h
    | ok v =>
      rw [collect_cons_of_ok hk] at h
      refine ih h (hs.insert key v) fun entry hmem => ?_
      rcases mem_insertEntry hmem with rfl | hmem
      · exact hk
      · exact hvalue entry hmem

/-- Keys in ascending order are collected one behind the other. -/
theorem collect_of_sorted {value : κ → Except ε α} {entries : List (κ × α)} (done : List (κ × α))
    (hs : (done ++ entries).Pairwise fun a b => a.1 < b.1)
    (hvalue : ∀ entry ∈ entries, value entry.1 = .ok entry.2) :
    collect value (entries.map Prod.fst) ⟨done⟩ = .ok ⟨done ++ entries⟩ := by
  induction entries generalizing done with
  | nil => simp [collect, pure, Except.pure]
  | cons entry entries ih =>
    have hlast : ∀ other ∈ done, other.1 < entry.1 := fun other hother =>
      (List.pairwise_append.mp hs).2.2 other hother entry List.mem_cons_self
    rw [List.map_cons, collect_cons_of_ok (hvalue entry List.mem_cons_self), insert,
      insertEntry_eq_append hlast, ih _ (by simpa using hs) fun other hother =>
        hvalue other (List.mem_cons_of_mem _ hother)]
    simp

/-- Collecting the keys of what was collected gives it back. -/
theorem collect_keys {value : κ → Except ε α} {keys : List κ} {m : Assoc κ α}
    (h : collect value keys ∅ = .ok m) : collect value m.keys ∅ = .ok m := by
  obtain ⟨hs, hvalue⟩ := sorted_of_collect h sorted_empty fun entry hmem =>
    absurd hmem List.not_mem_nil
  exact collect_of_sorted [] hs hvalue

end Assoc

end ExtensionHost
