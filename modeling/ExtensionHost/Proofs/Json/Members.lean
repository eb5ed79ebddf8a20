import ExtensionHost.Json.Form
import ExtensionHost.Proofs.Assoc
import Mathlib.Data.List.Basic

/-!
# Records in JSON

Every record is read in the same way: first its members are picked out of an object or an array,
then they are read one by one.  What is picked depends on the values of the record's own names only,
so that the order of an object's fields and fields with other names make no difference.

A type that is read like this gets all its laws at once (`JsonForm.IsRecord.reads`): a value is read
from its form and from the array of its members, other fields of an object make no difference, and
an object that lacks a name is not read at all.

## Main definitions

* `JsonForm.IsRecord`, types that are read by their members
* `JsonForm.ReadsFields` and `JsonForm.ReadsRecord`, the laws of a value of such a type

## Main results

* `Json.members?_eq_some_iff`
* `JsonForm.IsRecord.reads`
-/

namespace ExtensionHost

namespace Json

/-- The fields of an object; other values have none. -/
def fields : Json → List (String × Json)
  | .object fields => fields
  | _ => []

/-! ### Members -/

variable {names : List String} {values : List Json} {fields : List (String × Json)}

theorem mapM_id_eq_some_iff {options : List (Option Json)} :
    options.mapM id = some values ↔ options = values.map some := by
  induction options generalizing values with
  | nil => cases values <;> simp
  | cons o options ih =>
    cases o with
    | none => cases values <;> simp
    | some j =>
      simp only [List.mapM_cons, id_eq, Option.bind_eq_bind, Option.bind_some,
        Option.bind_eq_some_iff, ih, Option.pure_def, Option.some.injEq]
      constructor
      · rintro ⟨rest, hrest, rfl⟩
        rw [List.map_cons, hrest]
      · intro h
        cases values with
        | nil => cases h
        | cons j' values =>
          obtain ⟨hj, hrest⟩ := List.cons.inj h
          obtain rfl := Option.some.inj hj
          exact ⟨values, hrest, rfl⟩

theorem map_some_append_eq_iff {items : List Json} {k : Nat} :
    items.map some ++ List.replicate k none = values.map some ↔ items = values ∧ k = 0 := by
  constructor
  · intro h
    have hk : k = 0 := by
      by_contra hk
      have hnone : (none : Option Json) ∈ values.map some :=
        h ▸ List.mem_append_right _ (List.mem_replicate.mpr ⟨hk, rfl⟩)
      simp at hnone
    subst hk
    rw [List.replicate_zero, List.append_nil] at h
    exact ⟨List.map_injective_iff.mpr (fun _ _ => Option.some.inj) h, rfl⟩
  · rintro ⟨rfl, rfl⟩
    exact List.append_nil _

/-- Members come by name from an object, or in order from an array. -/
theorem members?_eq_some_iff {j : Json} : j.members? names = some values ↔
    (∃ fields, j = .object fields ∧ (names.map fun name => fields.lookup name) = values.map some) ∨
      (j = .array values ∧ values.length = names.length) := by
  rw [members?]
  cases j with
  | object fields =>
    simp only [optionalMembers?, Option.bind_some, mapM_id_eq_some_iff, Json.object.injEq,
      exists_eq_left', reduceCtorEq, false_and, or_false]
  | array items =>
    simp only [optionalMembers?, reduceCtorEq, false_and, exists_false, false_or,
      Json.array.injEq]
    split
    · rename_i hle
      rw [Option.bind_some, mapM_id_eq_some_iff, map_some_append_eq_iff]
      constructor
      · rintro ⟨rfl, hk⟩
        exact ⟨rfl, by omega⟩
      · rintro ⟨rfl, hlength⟩
        exact ⟨rfl, by omega⟩
    · rename_i hgt
      simp only [Option.bind_none, reduceCtorEq, false_iff]
      rintro ⟨rfl, hlength⟩
      omega
  | _ => simp [optionalMembers?]

theorem members?_object (h : (names.map fun name => fields.lookup name) = values.map some) :
    (Json.object fields).members? names = some values :=
  members?_eq_some_iff.mpr (Or.inl ⟨fields, rfl, h⟩)

theorem members?_array (h : values.length = names.length) :
    (Json.array values).members? names = some values :=
  members?_eq_some_iff.mpr (Or.inr ⟨rfl, h⟩)

/-- An object that lacks a name has no members. -/
theorem members?_eq_none {name : String} (hname : name ∈ names)
    (h : fields.lookup name = none) : (Json.object fields).members? names = none := by
  rw [Option.eq_none_iff_forall_ne_some]
  intro values hvalues
  rcases members?_eq_some_iff.mp hvalues with ⟨_, heq, hall⟩ | ⟨heq, -⟩
  · cases heq
    have hmem : fields.lookup name ∈ values.map some :=
      hall ▸ List.mem_map_of_mem (f := fun name => fields.lookup name) hname
    rw [h] at hmem
    simp at hmem
  · cases heq

/-- Every name has its own value among fields with different names. -/
theorem map_lookup_zip (hnodup : names.Nodup) (hlength : values.length = names.length) :
    (names.map fun name => (names.zip values).lookup name) = values.map some := by
  induction names generalizing values with
  | nil =>
    obtain rfl := List.eq_nil_of_length_eq_zero hlength
    rfl
  | cons name names ih =>
    cases values with
    | nil => cases hlength
    | cons j values =>
      obtain ⟨hnew, hnodup⟩ := List.nodup_cons.mp hnodup
      have hrest : (names.map fun other => ((name, j) :: names.zip values).lookup other)
          = names.map fun other => (names.zip values).lookup other := by
        refine List.map_congr_left fun other hother => ?_
        have hne : other ≠ name := fun heq => hnew (heq ▸ hother)
        rw [Assoc.lookup_cons_eq, if_neg hne]
      rw [List.map_cons, List.zip_cons_cons, List.lookup_cons_self, hrest, List.map_cons,
        ih hnodup (Nat.succ.inj hlength)]

end Json

namespace JsonForm

/-- A type is read as a record with fields of given names: its values are written as objects with
these fields, and read from the members of these names. -/
structure IsRecord (α : Type) [JsonForm α] (names : List String) where
  /-- The names differ. -/
  nodup : names.Nodup
  /-- The values of the fields. -/
  values : α → List Json
  /-- What is made of the members. -/
  build : List Json → Option α
  /-- Every field has a value. -/
  length_values : ∀ a, (values a).length = names.length
  /-- A value is written as an object with its fields. -/
  toJson_eq : ∀ a : α, toJson a = .object (names.zip (values a))
  /-- A value is read from its members. -/
  ofJson?_eq : ∀ j, (ofJson? j : Option α) = (j.members? names).bind build

/-- How a value is read from its fields: from the object in which it is written, from the array of
what stands there, and from objects without regard to their order and to other fields in them. -/
structure ReadsFields {α : Type} [JsonForm α] (names : List String) (a : α) : Prop where
  /-- The names of the fields, in the order in which they are written. -/
  names_eq : (toJson a).fields.map Prod.fst = names
  /-- The value is read from its object. -/
  object : ofJson? (toJson a) = some a
  /-- The value is read from the array of its fields. -/
  array : ofJson? (.array ((toJson a).fields.map Prod.snd)) = some a
  /-- Objects with the same fields of these names are read alike, whatever else is in them. -/
  more : ∀ fields fields' : List (String × Json),
    (∀ name ∈ names, fields'.lookup name = fields.lookup name) →
      (ofJson? (.object fields') : Option α) = ofJson? (.object fields)

/-- How a value is read from its fields, none of which may be missing. -/
structure ReadsRecord {α : Type} [JsonForm α] (names : List String) (a : α) : Prop
    extends ReadsFields names a where
  /-- Objects in which a field is missing are not read. -/
  less : ∀ fields : List (String × Json), (∃ name ∈ names, fields.lookup name = none) →
    (ofJson? (.object fields) : Option α) = none

namespace IsRecord

variable {α : Type} [JsonForm α] {names : List String}

/-- A value that is made of its members has all the laws of a record. -/
theorem reads (r : IsRecord α names) {a : α} (ha : r.build (r.values a) = some a) :
    ReadsRecord names a := by
  have hlength := r.length_values a
  have hfields : (toJson a).fields = names.zip (r.values a) := by
    rw [r.toJson_eq]
    rfl
  refine { names_eq := ?_, object := ?_, array := ?_, more := ?_, less := ?_ }
  · rw [hfields]
    exact List.map_fst_zip (Nat.le_of_eq hlength.symm)
  · rw [r.toJson_eq, r.ofJson?_eq, Json.members?_object (Json.map_lookup_zip r.nodup hlength)]
    exact ha
  · rw [hfields, List.map_snd_zip (Nat.le_of_eq hlength), r.ofJson?_eq,
      Json.members?_array hlength]
    exact ha
  · intro fields fields' hsame
    have hmembers : (Json.object fields').members? names = (Json.object fields).members? names := by
      rw [Json.members?, Json.members?, Json.optionalMembers?, Json.optionalMembers?,
        List.map_congr_left hsame]
    rw [r.ofJson?_eq, r.ofJson?_eq, hmembers]
  · rintro fields ⟨name, hname, hmissing⟩
    rw [r.ofJson?_eq, Json.members?_eq_none hname hmissing]
    rfl

end IsRecord

end JsonForm

end ExtensionHost
