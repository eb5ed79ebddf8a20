import ExtensionHost.Proofs.Clock
import ExtensionHost.Proofs.Json.Members
import Mathlib.Algebra.GroupWithZero.Nat

/-!
# Round trips in JSON

A value that is written in JSON is read back as it was.  For records this is one argument for all of
them (`JsonForm.IsRecord.reads`), so that what is left here is that each is a record, and that its
fields are read back.

Two formats are not records in this sense.  A setting may be missing, and has its default then
(`EngineConfig.ofJson?_filter`).  And an interval, which is a record with two fields and no others,
is written in more than one way: its nanoseconds may be more than a second, which is carried over
(`Interval.ofJson?_of_isWritten`).

A location is read back if its text reads as this location.  This is what is expected of a location
that comes from reading a text; it is a hypothesis here.

## Main definitions

* `JsonForm.ReadsName`, the laws of a value that is written as its name
* `Interval.IsWritten`, the JSON that stands for seconds and nanoseconds
* `Limits.HasInterval`, where limits have their interval
* `EngineConfig.reset`, settings of which some are put back to their defaults

## Main results

* `EngineConfig.ofJson?_filter`
* `Interval.ofJson?_eq_some_iff` and `Interval.ofJson?_eq_none`
* `JsonForm.forms_are_decoded`
-/

namespace ExtensionHost

namespace JsonForm

/-! ### Single values -/

theorem natOfJson?_natCast {n size : Nat} (h : n < size) :
    natOfJson? size (.integer n) = some n := by
  rw [natOfJson?, if_pos ⟨Int.natCast_nonneg n, by exact_mod_cast h⟩, Int.toNat_natCast]

theorem eq_of_natOfJson?_eq_some {size n : Nat} {j : Json} (h : natOfJson? size j = some n) :
    j = .integer n ∧ n < size := by
  cases j with
  | integer i =>
    rw [natOfJson?] at h
    split at h
    · rename_i hbounds
      obtain rfl := Option.some.inj h
      exact ⟨by rw [Int.toNat_of_nonneg hbounds.1], by omega⟩
    · cases h
  | _ => cases h

@[simp] theorem ofJson?_toJson_uint32 (n : UInt32) : ofJson? (toJson n) = some n := by
  show (natOfJson? UInt32.size (.integer n.toNat)).map UInt32.ofNat = some n
  rw [natOfJson?_natCast n.toNat_lt, Option.map_some, UInt32.ofNat_toNat]

@[simp] theorem ofJson?_toJson_uint64 (n : UInt64) : ofJson? (toJson n) = some n := by
  show (natOfJson? UInt64.size (.integer n.toNat)).map UInt64.ofNat = some n
  rw [natOfJson?_natCast n.toNat_lt, Option.map_some, UInt64.ofNat_toNat]

theorem eq_of_ofJson?_uint32 {j : Json} {n : UInt32} (h : ofJson? j = some n) :
    j = .integer n.toNat := by
  obtain ⟨k, hk, rfl⟩ := Option.map_eq_some_iff.mp h
  obtain ⟨rfl, hlt⟩ := eq_of_natOfJson?_eq_some hk
  rw [UInt32.toNat_ofNat_of_lt' hlt]

theorem eq_of_ofJson?_uint64 {j : Json} {n : UInt64} (h : ofJson? j = some n) :
    j = .integer n.toNat := by
  obtain ⟨k, hk, rfl⟩ := Option.map_eq_some_iff.mp h
  obtain ⟨rfl, hlt⟩ := eq_of_natOfJson?_eq_some hk
  rw [UInt64.toNat_ofNat_of_lt' hlt]

@[simp] theorem ofJson?_toJson_bool (b : Bool) : ofJson? (toJson b) = some b := rfl

@[simp] theorem ofJson?_toJson_string (s : String) : ofJson? (toJson s) = some s := rfl

@[simp] theorem ofJson?_toJson_strings (names : List String) :
    ofJson? (toJson names) = some names := by
  show (names.map toJson).mapM ofJson? = some names
  induction names with
  | nil => rfl
  | cons name names ih =>
    rw [List.map_cons, List.mapM_cons, ih]
    rfl

/-! ### Names -/

/-- How a value is read from its name: from the name alone, which is how it is written, and from an
object in which nothing is under the name. -/
structure ReadsName {α : Type} [JsonForm α] (a : α) (name : String) : Prop where
  /-- The value is written as its name. -/
  toJson_eq : toJson a = .string name
  /-- The value is read from its name. -/
  text : ofJson? (.string name) = some a
  /-- The value is read from an object of its name. -/
  object : ofJson? (.object [(name, .null)]) = some a

theorem readsName_level (level : OptimizationLevel) : ReadsName level level.text := by
  cases level <;> exact ⟨rfl, by decide +kernel, by decide +kernel⟩

theorem readsName_kind (kind : FieldKind) : ReadsName kind kind.formName := by
  cases kind <;> exact ⟨rfl, by decide +kernel, by decide +kernel⟩

@[simp] theorem ofJson?_toJson_level (level : OptimizationLevel) :
    ofJson? (toJson level) = some level :=
  (readsName_level level).text

end JsonForm

/-! ### Intervals -/

namespace Interval

/-- The JSON that stands for seconds and nanoseconds: an object with these two fields and no others,
or an array of the two. -/
inductive IsWritten (secs : UInt64) (nanos : UInt32) : Json → Prop
  /-- An object. -/
  | object {fields : List (String × Json)}
    (hsecs : fields.lookup "secs" = some (.integer secs.toNat))
    (hnanos : fields.lookup "nanos" = some (.integer nanos.toNat))
    (hknown : ∀ field ∈ fields, field.1 = "secs" ∨ field.1 = "nanos") :
    IsWritten secs nanos (.object fields)
  /-- An array. -/
  | array : IsWritten secs nanos (.array [.integer secs.toNat, .integer nanos.toNat])

variable {secs : UInt64} {nanos : UInt32} {j : Json}

theorem isWritten_iff : IsWritten secs nanos j ↔ isKnown j = true ∧
    j.members? fieldNames = some [.integer secs.toNat, .integer nanos.toNat] := by
  rw [Json.members?_eq_some_iff]
  constructor
  · rintro (⟨hsecs, hnanos, hknown⟩ | _)
    · refine ⟨?_, Or.inl ⟨_, rfl, congrArg₂ (fun a b => [a, b]) hsecs hnanos⟩⟩
      simpa [isKnown, fieldNames] using hknown
    · exact ⟨rfl, Or.inr ⟨rfl, rfl⟩⟩
  · rintro ⟨hknown, ⟨fields, rfl, hmembers⟩ | ⟨rfl, -⟩⟩
    · simp only [fieldNames, List.map_cons, List.map_nil, List.cons.injEq, and_true] at hmembers
      refine .object hmembers.1 hmembers.2 ?_
      simpa [isKnown, fieldNames] using hknown
    · exact .array

/-- The interval of two members. -/
def build : List Json → Option Interval
  | [secs, nanos] => (ofJson? secs).bind fun secs => (ofJson? nanos).bind (ofParts? secs)
  | _ => none

theorem ofJson?_eq (j : Json) : (ofJson? j : Option Interval)
    = if isKnown j = true then (j.members? fieldNames).bind build else none := by
  show (j.members? fieldNames).bind _ = _
  cases j.members? fieldNames with
  | none => rw [Option.bind_none, Option.bind_none, ite_self]
  | some members =>
    rw [Option.bind_some, Option.bind_some]
    match members with
    | [] | [_] | _ :: _ :: _ :: _ => exact (ite_self none).symm
    | [_, _] => rfl

/-- What stands for seconds and nanoseconds is read as the sum of the two, if there is such an
interval. -/
theorem ofJson?_of_isWritten (h : IsWritten secs nanos j) : ofJson? j = ofParts? secs nanos := by
  obtain ⟨hknown, hmembers⟩ := isWritten_iff.mp h
  have hsecs : ofJson? (.integer secs.toNat) = some secs := JsonForm.ofJson?_toJson_uint64 secs
  have hnanos : ofJson? (.integer nanos.toNat) = some nanos := JsonForm.ofJson?_toJson_uint32 nanos
  rw [ofJson?_eq, if_pos hknown, hmembers, Option.bind_some, build, hsecs, hnanos,
    Option.bind_some, Option.bind_some]

/-- Nothing else is read as an interval. -/
theorem exists_isWritten {d : Interval} (h : ofJson? j = some d) :
    ∃ secs nanos, IsWritten secs nanos j := by
  rw [ofJson?_eq] at h
  split at h
  · rename_i hknown
    obtain ⟨members, hmembers, hbuild⟩ := Option.bind_eq_some_iff.mp h
    match members, hbuild with
    | [_, _], hbuild =>
      obtain ⟨secs, hsecs, hbuild⟩ := Option.bind_eq_some_iff.mp hbuild
      obtain ⟨nanos, hnanos, -⟩ := Option.bind_eq_some_iff.mp hbuild
      obtain rfl := JsonForm.eq_of_ofJson?_uint64 hsecs
      obtain rfl := JsonForm.eq_of_ofJson?_uint32 hnanos
      exact ⟨secs, nanos, isWritten_iff.mpr ⟨hknown, hmembers⟩⟩
  · cases h

/-- **An interval is read as the sum of its seconds and its nanoseconds.** -/
theorem ofJson?_eq_some_iff {d : Interval} : ofJson? j = some d ↔
    ∃ secs nanos, IsWritten secs nanos j ∧
      d.totalNanos = secs.toNat * nanosPerSecond + nanos.toNat := by
  constructor
  · intro h
    obtain ⟨secs, nanos, hwritten⟩ := exists_isWritten h
    rw [ofJson?_of_isWritten hwritten] at h
    exact ⟨secs, nanos, hwritten, ofNanos?_eq_some_iff.mp h⟩
  · rintro ⟨secs, nanos, hwritten, htotal⟩
    rw [ofJson?_of_isWritten hwritten]
    exact ofNanos?_eq_some_iff.mpr htotal

/-- An interval is not read when its seconds do not fit after the carry. -/
theorem ofJson?_eq_none (h : IsWritten secs nanos j)
    (hcarry : 2 ^ 64 ≤ secs.toNat + nanos.toNat / nanosPerSecond) :
    (ofJson? j : Option Interval) = none := by
  have hdiv : (secs.toNat * nanosPerSecond + nanos.toNat) / nanosPerSecond
      = secs.toNat + nanos.toNat / nanosPerSecond := by
    rw [Nat.add_comm, Nat.add_mul_div_right _ _ (by decide), Nat.add_comm]
  rw [ofJson?_of_isWritten h, ofParts?, ofNanos?, if_neg]
  rw [hdiv]
  exact Nat.not_lt.mpr hcarry

@[simp] theorem ofJson?_toJson (d : Interval) : ofJson? (toJson d) = some d :=
  ofJson?_eq_some_iff.mpr ⟨d.seconds, d.nanos, .object rfl rfl (by simp), rfl⟩

end Interval

/-! ### Records -/

open JsonForm

/-- Limits are read by their members. -/
def Limits.isRecord : IsRecord Limits ["execution_interval"] where
  nodup := by decide
  values l := [toJson l.executionInterval]
  build
    | [interval] => do return ⟨← ofJson? interval⟩
    | _ => none
  length_values _ := rfl
  toJson_eq _ := rfl
  ofJson?_eq _ := rfl

namespace Limits

/-- The JSON of limits that has an interval in its place. -/
inductive HasInterval (j : Json) : Json → Prop
  /-- An object. -/
  | object {fields : List (String × Json)}
    (hinterval : fields.lookup "execution_interval" = some j) : HasInterval j (.object fields)
  /-- An array. -/
  | array : HasInterval j (.array [j])

variable {j form : Json}

theorem hasInterval_iff :
    HasInterval j form ↔ form.members? ["execution_interval"] = some [j] := by
  rw [Json.members?_eq_some_iff]
  constructor
  · rintro (hinterval | _)
    · exact Or.inl ⟨_, rfl, congrArg (fun a => [a]) hinterval⟩
    · exact Or.inr ⟨rfl, rfl⟩
  · rintro (⟨fields, rfl, hmembers⟩ | ⟨rfl, -⟩)
    · exact .object (List.cons.inj hmembers).1
    · exact .array

theorem ofJson?_of_hasInterval (h : HasInterval j form) :
    (ofJson? form : Option Limits) = (ofJson? j).map Limits.mk := by
  rw [isRecord.ofJson?_eq, hasInterval_iff.mp h, Option.bind_some, Option.map_eq_bind]
  rfl

theorem exists_hasInterval {l : Limits} (h : ofJson? form = some l) :
    ∃ j, HasInterval j form := by
  rw [isRecord.ofJson?_eq] at h
  obtain ⟨members, hmembers, hbuild⟩ := Option.bind_eq_some_iff.mp h
  match members, hbuild with
  | [j], _ => exact ⟨j, hasInterval_iff.mpr hmembers⟩

/-- Limits are read as the interval that they have. -/
theorem ofJson?_eq_some_iff {l : Limits} : ofJson? form = some l ↔
    ∃ j, HasInterval j form ∧ ofJson? j = some l.executionInterval := by
  obtain ⟨d⟩ := l
  constructor
  · intro h
    obtain ⟨j, hj⟩ := exists_hasInterval h
    rw [ofJson?_of_hasInterval hj, Option.map_eq_some_iff] at h
    obtain ⟨_, hd, heq⟩ := h
    cases heq
    exact ⟨j, hj, hd⟩
  · rintro ⟨j, hj, hd⟩
    rw [ofJson?_of_hasInterval hj, hd, Option.map_some]

end Limits

/-- Names in packages are read by their members. -/
def QName.isRecord : IsRecord QName ["package", "entity"] where
  nodup := by decide
  values q := [toJson q.package, toJson q.entity]
  build
    | [package, entity] => do return ⟨← ofJson? package, ← ofJson? entity⟩
    | _ => none
  length_values _ := rfl
  toJson_eq _ := rfl
  ofJson?_eq _ := rfl

/-- Counts of invocations are read by their members. -/
def Metrics.isRecord :
    IsRecord Metrics ["invocations_total", "errors_total", "recovers_total"] where
  nodup := by decide
  values m := [toJson m.invocations, toJson m.errors, toJson m.recovers]
  build
    | [invocations, errors, recovers] => do
      return ⟨← ofJson? invocations, ← ofJson? errors, ← ofJson? recovers⟩
    | _ => none
  length_values _ := rfl
  toJson_eq _ := rfl
  ofJson?_eq _ := rfl

/-- Counts of a guest's memory are read by their members. -/
def HeapStats.isRecord : IsRecord HeapStats ["in_use", "sys", "mallocs", "frees"] where
  nodup := by decide
  values h := [toJson h.inUse, toJson h.sys, toJson h.mallocs, toJson h.frees]
  build
    | [inUse, sys, mallocs, frees] => do
      return ⟨← ofJson? inUse, ← ofJson? sys, ← ofJson? mallocs, ← ofJson? frees⟩
    | _ => none
  length_values _ := rfl
  toJson_eq _ := rfl
  ofJson?_eq _ := rfl

/-- Counts of a factory are read by their members. -/
def FactoryStats.isRecord :
    IsRecord FactoryStats ["pools_created", "engines_created", "packages_compiled"] where
  nodup := by decide
  values s := [toJson s.poolsCreated, toJson s.enginesCreated, toJson s.packagesCompiled]
  build
    | [pools, engines, packages] => do
      return ⟨← ofJson? pools, ← ofJson? engines, ← ofJson? packages⟩
    | _ => none
  length_values _ := rfl
  toJson_eq _ := rfl
  ofJson?_eq _ := rfl

/-- Packages are read by their members. -/
def Package.isRecord :
    IsRecord Package ["qualified_name", "module_url", "extension_names"] where
  nodup := by decide
  values p := [toJson p.qualifiedName, toJson p.moduleUrl, toJson p.extensionNames]
  build
    | [name, url, extensions] => do
      return ⟨← ofJson? name, ← ofJson? url, ← ofJson? extensions⟩
    | _ => none
  length_values _ := rfl
  toJson_eq _ := rfl
  ofJson?_eq _ := rfl

theorem Package.reads {p : Package} (hurl : Url.parse? p.moduleUrl.text = some p.moduleUrl) :
    ReadsRecord ["qualified_name", "module_url", "extension_names"] p := by
  have hread : ofJson? (toJson p.moduleUrl) = some p.moduleUrl := hurl
  exact isRecord.reads (by simp [isRecord, hread])

/-! ### Settings -/

namespace EngineConfig

/-- The settings of members, any of which may be missing. -/
def build : List (Option Json) → Option EngineConfig
  | [pages, buffer, increment, recover, tick, level] => do
    return {
      memoryLimitPages := ← settingOfJson? default.memoryLimitPages pages
      preallocatedBufferSize := ← settingOfJson? default.preallocatedBufferSize buffer
      bufferGrowthIncrement := ← settingOfJson? default.bufferGrowthIncrement increment
      autoRecover := ← settingOfJson? default.autoRecover recover
      epochTickMillis := ← settingOfJson? default.epochTickMillis tick
      optimizationLevel := ← settingOfJson? default.optimizationLevel level }
  | _ => none

theorem ofJson?_eq (j : Json) :
    (ofJson? j : Option EngineConfig) = (j.optionalMembers? fieldNames).bind build := rfl

/-- The values of settings, in the order of their names. -/
def values (c : EngineConfig) : List Json :=
  [toJson c.memoryLimitPages, toJson c.preallocatedBufferSize, toJson c.bufferGrowthIncrement,
    toJson c.autoRecover, toJson c.epochTickMillis, toJson c.optimizationLevel]

theorem settingOfJson?_toJson {α : Type} [JsonForm α] {a : α} (fallback : α)
    (h : ofJson? (toJson a) = some a) : settingOfJson? fallback (some (toJson a)) = some a := by
  rw [settingOfJson?, h]

theorem build_values (c : EngineConfig) : build (c.values.map some) = some c := by
  simp only [values, List.map_cons, List.map_nil, build, settingOfJson?_toJson,
    ofJson?_toJson_uint32, ofJson?_toJson_uint64, ofJson?_toJson_bool, ofJson?_toJson_level, bind,
    Option.bind_some, pure]

theorem reads (c : EngineConfig) : ReadsFields fieldNames c where
  names_eq := rfl
  object := by
    have hlookup : (fieldNames.map fun name => (fieldNames.zip c.values).lookup name)
        = c.values.map some := Json.map_lookup_zip (by decide) rfl
    have hmembers : (toJson c).optionalMembers? fieldNames = some (c.values.map some) :=
      congrArg some hlookup
    rw [ofJson?_eq, hmembers, Option.bind_some, build_values]
  array := by
    have hmembers : (Json.array c.values).optionalMembers? fieldNames
        = some (c.values.map some) := rfl
    show ofJson? (.array c.values) = some c
    rw [ofJson?_eq, hmembers, Option.bind_some, build_values]
  more fields fields' hsame := by
    rw [ofJson?_eq, ofJson?_eq, Json.optionalMembers?, Json.optionalMembers?,
      List.map_congr_left hsame]

/-- Settings of which some are put back to their defaults. -/
def reset (removed : List String) (c : EngineConfig) : EngineConfig where
  memoryLimitPages :=
    if "memory_limit_pages" ∈ removed then default.memoryLimitPages else c.memoryLimitPages
  preallocatedBufferSize :=
    if "preallocated_buffer_size" ∈ removed then default.preallocatedBufferSize
    else c.preallocatedBufferSize
  bufferGrowthIncrement :=
    if "buffer_growth_increment" ∈ removed then default.bufferGrowthIncrement
    else c.bufferGrowthIncrement
  autoRecover := if "auto_recover" ∈ removed then default.autoRecover else c.autoRecover
  epochTickMillis := if "epoch_tick_ms" ∈ removed then default.epochTickMillis else c.epochTickMillis
  optimizationLevel :=
    if "optimization_level" ∈ removed then default.optimizationLevel else c.optimizationLevel

theorem settingOfJson?_removed {α : Type} [JsonForm α] {fallback a : α} {member : Option Json}
    (h : settingOfJson? fallback member = some a) (p : Prop) [Decidable p] :
    settingOfJson? fallback (if p then none else member) = some (if p then fallback else a) := by
  split
  · rfl
  · exact h

/-- **Settings that are removed from an object have their defaults, and the others are as
before.** -/
theorem ofJson?_filter {fields : List (String × Json)} {c : EngineConfig}
    (h : ofJson? (.object fields) = some c) (removed : List String) :
    ofJson? (.object (fields.filter fun field => field.1 ∉ removed)) = some (c.reset removed) := by
  have hlookup (name : String) : (fields.filter fun field => field.1 ∉ removed).lookup name
      = if name ∈ removed then none else fields.lookup name := by
    rw [Assoc.lookup_filter (fun name => decide (name ∉ removed))]
    by_cases hname : name ∈ removed <;> simp [hname]
  rw [ofJson?_eq, Json.optionalMembers?, Option.bind_some] at h ⊢
  simp only [fieldNames, List.map_cons, List.map_nil, build, hlookup, bind, pure,
    Option.bind_eq_some_iff, Option.some.injEq] at h ⊢
  obtain ⟨pages, hpages, buffer, hbuffer, increment, hincrement, recover, hrecover, tick, htick,
    level, hlevel, rfl⟩ := h
  exact ⟨_, settingOfJson?_removed hpages _, _, settingOfJson?_removed hbuffer _, _,
    settingOfJson?_removed hincrement _, _, settingOfJson?_removed hrecover _, _,
    settingOfJson?_removed htick _, _, settingOfJson?_removed hlevel _, rfl⟩

end EngineConfig

/-! ### All forms -/

namespace JsonForm

/-- **What is written is read back.**  Settings, packages, limits, counts and names are read from
their objects and from the arrays of their fields, and other fields of an object make no difference;
levels and kinds are read from their names.  A missing field is an error, but a missing setting has
its default. Limits are read as the sum of the seconds and the nanoseconds of their interval, and
are not read when this is too long. -/
theorem forms_are_decoded :
    (∀ c : EngineConfig, ReadsFields ["memory_limit_pages", "preallocated_buffer_size",
      "buffer_growth_increment", "auto_recover", "epoch_tick_ms", "optimization_level"] c) ∧
    (∀ (c : EngineConfig) (fields : List (String × Json)) (removed : List String),
      ofJson? (.object fields) = some c →
        ofJson? (.object (fields.filter fun field => field.1 ∉ removed))
          = some (c.reset removed)) ∧
    (∀ level : OptimizationLevel, ReadsName level level.text) ∧
    (∀ kind : FieldKind, ReadsName kind kind.formName) ∧
    (∀ p : Package, Url.parse? p.moduleUrl.text = some p.moduleUrl →
      ReadsRecord ["qualified_name", "module_url", "extension_names"] p) ∧
    (∀ l : Limits, ReadsRecord ["execution_interval"] l) ∧
    (∀ m : Metrics, ReadsRecord ["invocations_total", "errors_total", "recovers_total"] m) ∧
    (∀ s : FactoryStats,
      ReadsRecord ["pools_created", "engines_created", "packages_compiled"] s) ∧
    (∀ h : HeapStats, ReadsRecord ["in_use", "sys", "mallocs", "frees"] h) ∧
    (∀ q : QName, ReadsRecord ["package", "entity"] q) ∧
    (∀ (form : Json) (l : Limits), ofJson? form = some l ↔
      ∃ j secs nanos, Limits.HasInterval j form ∧ Interval.IsWritten secs nanos j ∧
        l.executionInterval.totalNanos = secs.toNat * 1000000000 + nanos.toNat) ∧
    (∀ form j secs nanos, Limits.HasInterval j form → Interval.IsWritten secs nanos j →
      2 ^ 64 ≤ secs.toNat + nanos.toNat / 1000000000 →
        (ofJson? form : Option Limits) = none) := by
  refine ⟨EngineConfig.reads, fun _ _ removed h => EngineConfig.ofJson?_filter h removed,
    readsName_level, readsName_kind, fun _ => Package.reads,
    fun _ => Limits.isRecord.reads (by simp [Limits.isRecord]),
    fun _ => Metrics.isRecord.reads (by simp [Metrics.isRecord]),
    fun _ => FactoryStats.isRecord.reads (by simp [FactoryStats.isRecord]),
    fun _ => HeapStats.isRecord.reads (by simp [HeapStats.isRecord]),
    fun _ => QName.isRecord.reads (by simp [QName.isRecord]), ?_, ?_⟩
  · intro form l
    simp only [Limits.ofJson?_eq_some_iff, Interval.ofJson?_eq_some_iff, exists_and_left]
  · intro form j secs nanos hinterval hwritten hcarry
    rw [Limits.ofJson?_of_hasInterval hinterval, Interval.ofJson?_eq_none hwritten hcarry,
      Option.map_none]

/-- A package at a local file is read from its form, but not without its location; settings of which
one is removed have its default; and the nanoseconds of an interval are carried over, which the
longest intervals do not allow. -/
theorem forms_are_decoded_sample :
    let p : Package := ⟨"orders", ⟨"file", some "", "/modules/orders.wasm", ""⟩, ["create"]⟩
    let fields : List (String × Json) :=
      [("epoch_tick_ms", .integer 25), ("note", .null), ("auto_recover", .bool false)]
    let c : EngineConfig := { EngineConfig.default with autoRecover := false, epochTickMillis := 25 }
    let longest : Json := .array [.integer 0xFFFFFFFFFFFFFFFF, .integer 1000000000]
    Url.parse? p.moduleUrl.text = some p.moduleUrl ∧
      ofJson? (toJson p) = some p ∧
      (ofJson? (.object [("qualified_name", .string "orders"), ("extension_names", .array [])])
        : Option Package) = none ∧
      ofJson? (.object fields) = some c ∧
      ofJson? (.object (fields.filter fun field => field.1 ∉ ["epoch_tick_ms"]))
        = some { EngineConfig.default with autoRecover := false } ∧
      (∃ l : Limits, ofJson? (.array [.array [.integer 1, .integer 2500000000]]) = some l ∧
        l.executionInterval.totalNanos = 3500000000) ∧
      (ofJson? (.object [("execution_interval", longest)]) : Option Limits) = none := by
  intro p fields c longest
  obtain ⟨-, hsettings, -, -, hpackage, -, -, -, -, -, hinterval, htoolong⟩ := forms_are_decoded
  have hurl : Url.parse? p.moduleUrl.text = some p.moduleUrl := by decide +kernel
  have hc : ofJson? (.object fields) = some c := by decide +kernel
  obtain ⟨d, hd⟩ : ∃ d : Interval, d.totalNanos = 3500000000 :=
    ⟨⟨3, 500000000, by decide⟩, by decide⟩
  refine ⟨hurl, (hpackage p hurl).object, (hpackage p hurl).less _ ⟨"module_url", by simp, rfl⟩, hc,
    hsettings c fields ["epoch_tick_ms"] hc, ⟨⟨d⟩, (hinterval _ _).mpr ?_, hd⟩,
    htoolong _ longest 0xFFFFFFFFFFFFFFFF 1000000000 (.object rfl) .array (by decide)⟩
  exact ⟨_, 1, 2500000000, .array, .array, hd⟩

end JsonForm

end ExtensionHost
