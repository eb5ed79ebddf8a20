import ExtensionHost.Document.Format
import ExtensionHost.Document.Path
import ExtensionHost.Proofs.Assoc
import ExtensionHost.Proofs.Json.Text
import Mathlib.Data.List.TakeDrop

/-!
# Fields of documents

What a table holds after a value was put into it.  A value that is put under a name replaces what is
there, except that tables are merged, the names in them in lower case.  So a value that lands in a
free place is `Document.folded`: a scalar or an array as it is, a table with its names folded.

## Main definitions

* `Document.placed` and `Document.folded`
* `Step.IsPlain`, keys that are no paths

## Main results

* `Document.field?_merge`
* `Step.path_of_isPlain`
* `Document.ofText_of_isKept`, tables that are read from the text of an object
-/

namespace ExtensionHost

namespace Document

theorem lookup_setEntry (name other : String) (value : Document)
    (entries : List (String × Document)) :
    (setEntry name value entries).lookup other
      = if other = name then some value else entries.lookup other := by
  induction entries with
  | nil => rw [setEntry, Assoc.lookup_cons_eq]
  | cons entry rest ih =>
    obtain ⟨key, old⟩ := entry
    simp only [setEntry]
    by_cases hkey : key = name
    · subst hkey
      rw [if_pos rfl, Assoc.lookup_cons_eq, Assoc.lookup_cons_eq]
      split <;> rfl
    · rw [if_neg hkey, Assoc.lookup_cons_eq, Assoc.lookup_cons_eq, ih]
      by_cases hother : other = key
      · rw [if_pos hother, if_neg (hother ▸ hkey), if_pos hother]
      · rw [if_neg hother, if_neg hother]

@[simp] theorem field?_withField (d : Document) (name other : String) (value : Document) :
    (d.withField name value).field? other = if other = name then some value else d.field? other :=
  lookup_setEntry name other value d.entries

/-- What a value becomes when it is put over an old one, if there is one. -/
def placed (old : Option Document) : Document → Document
  | .table entries => mergeAll entries (old.getD (.table []))
  | value => value

/-- What a value becomes in a free place. -/
def folded (value : Document) : Document := value.placed none

/-- What is not a table replaces whatever was there. -/
theorem placed_of_not_isTable {value : Document} (h : value.isTable = false)
    (old : Option Document) : value.placed old = value := by
  cases value <;> first | rfl | cases h

theorem merge_eq_withField (name : String) (value target : Document) :
    merge name value target = target.withField name (value.placed (target.field? name)) := by
  cases value <;> simp only [merge, placed]

/-- Merging a value under a name touches no other name. -/
@[simp] theorem field?_merge (name other : String) (value target : Document) :
    (merge name value target).field? other
      = if other = name then some (value.placed (target.field? name)) else target.field? other := by
  rw [merge_eq_withField, field?_withField]

/-- The text of an object is read as the table of the object. -/
theorem ofText_of_isKept {j : Json} (h : j.IsKept JsonText.maxDepth)
    (htable : (ofJson j).isTable = true) :
    ∃ text, j.render? = some text ∧ ofText .json text = .ok (ofJson j) := by
  obtain ⟨text, hrender, hparse⟩ := Json.parse?_render? h
  refine ⟨text, hrender, ?_⟩
  rw [ofText, ofAnyText, hparse]
  exact if_pos htable

end Document

namespace Step

/-- A key that is no path: no character in it starts a further step. -/
def IsPlain (key : String) : Prop := '.' ∉ key.toList ∧ '[' ∉ key.toList

instance (key : String) : Decidable (IsPlain key) := inferInstanceAs (Decidable (_ ∧ _))

theorem name?_of_takeWhile {text name : List Char} (h : text.takeWhile isNameChar = name)
    (hname : name ≠ []) :
    name? text = some (.field (Lower.text (String.ofList name)), text.dropWhile isNameChar) := by
  rw [name?, List.span_eq_takeWhile_dropWhile, h]
  exact if_neg (by simpa using hname)

/-- A plain key is the name of a field as a whole, be it read as a path or not. -/
theorem path_of_isPlain {key : String} (h : IsPlain key) : path key = [.field (Lower.text key)] := by
  by_cases hname : key.toList.takeWhile isNameChar = []
  · have hnone : name? key.toList = none := by
      rw [name?, List.span_eq_takeWhile_dropWhile, hname]
      rfl
    rw [path, parse?, hnone]
    rfl
  rw [path, parse?, name?_of_takeWhile rfl hname]
  have hsplit := List.takeWhile_append_dropWhile (p := isNameChar) (l := key.toList)
  cases hrest : key.toList.dropWhile isNameChar with
  | nil =>
    rw [hrest, List.append_nil] at hsplit
    rw [hsplit, String.ofList_toList]
    rfl
  | cons c rest =>
    -- the name ends before the key does, at a character that starts no step
    have hmem : c ∈ key.toList := List.dropWhile_subset _ (hrest ▸ List.mem_cons_self)
    have hnext : next? (c :: rest) = none := by
      unfold next?
      split
      · rename_i heq
        cases heq
        exact absurd hmem h.1
      · rename_i heq
        cases heq
        exact absurd hmem h.2
      · rfl
    have hmore : more? (c :: rest).length (c :: rest) = none := by
      rw [List.length_cons, more?, hnext]
      · rfl
      · exact List.cons_ne_nil _ _
    show ((more? (c :: rest).length (c :: rest)).bind _).getD _ = _
    rw [hmore]
    rfl

end Step

end ExtensionHost
