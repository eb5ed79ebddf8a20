import ExtensionHost.Config.Layer
import ExtensionHost.Json.Form
import ExtensionHost.Proofs.Document.Fields

/-!
# Layers of settings

Where no key is a path, and no two keys are the same but for their case, putting one layer over
another comes to a choice for each name: the environment's value if there is one, else the
document's.  What is not given has its default; and settings are read unless a value that was chosen
cannot be.

The two layers meet in this choice only.  A layer that is put over a table gives every name the
value that it has for it, and leaves all other names alone (`Layer.exists_apply`); and what is read
depends on the values of the six names (`EngineConfig.ofDocument?_eq_some_iff`).

## Main definitions

* `Layer.IsPlain` and `Layer.given?`
* `Environment.IsPlain` and `Environment.text?`
* `EngineConfig.selected?`, the value that is chosen for a name
* `EngineConfig.ReadFrom` and `Setting.isReadable`

## Main results

* `EngineConfig.ofTextIn_filter` and `EngineConfig.ofTextIn_eq_ofText`, other variables do not
  matter
* `EngineConfig.settings_are_layered`
-/

namespace ExtensionHost

/-! ### Layers -/

namespace Layer

/-- The value that a layer has for a name, in whatever case its keys are. -/
def given? (layer : Layer) (name : String) : Option Document :=
  (layer.find? fun entry => Lower.text entry.1 = name).map (·.2)

/-- A layer in which no key is a path, and no two keys are the same but for their case. -/
structure IsPlain (layer : Layer) : Prop where
  /-- No key is a path. -/
  plain : ∀ entry ∈ layer, Step.IsPlain entry.1
  /-- No two keys are the same but for their case. -/
  nodup : (layer.map fun entry => Lower.text entry.1).Nodup

theorem given?_cons (entry : String × Document) (layer : Layer) (name : String) :
    Layer.given? (entry :: layer) name
      = if Lower.text entry.1 = name then some entry.2 else Layer.given? layer name := by
  rw [given?, List.find?_cons]
  by_cases h : Lower.text entry.1 = name
  · simp only [h, decide_true, Option.map_some, if_true]
  · simp only [h, decide_false, if_false]
    rfl

theorem given?_eq_none {layer : Layer} {name : String}
    (h : name ∉ layer.map fun entry => Lower.text entry.1) : layer.given? name = none := by
  rw [given?, Option.map_eq_none_iff, List.find?_eq_none]
  rintro entry hentry hname
  exact h (of_decide_eq_true hname ▸ List.mem_map_of_mem hentry)

/-- Where all keys are in lower case, the case does not matter. -/
theorem given?_eq_lookup {layer : Layer} (h : ∀ entry ∈ layer, Lower.text entry.1 = entry.1)
    (name : String) : layer.given? name = layer.lookup name := by
  induction layer with
  | nil => rfl
  | cons entry layer ih =>
    obtain ⟨key, value⟩ := entry
    have hkey : Lower.text key = key := h (key, value) List.mem_cons_self
    rw [given?_cons, Assoc.lookup_cons_eq, hkey,
      ih fun entry hentry => h entry (List.mem_cons_of_mem _ hentry)]
    by_cases hname : key = name
    · rw [if_pos hname, if_pos hname.symm]
    · rw [if_neg hname, if_neg (Ne.symm hname)]

/-- **A plain layer over a table.**  Every name of the layer gets the value that the layer has for
it, and all others are left alone. -/
theorem exists_apply {layer : Layer} (h : layer.IsPlain) (d : Document) :
    ∃ d', layer.apply d = .ok d' ∧ ∀ name,
      d'.field? name = ((layer.given? name).map (·.placed (d.field? name))).or (d.field? name) := by
  induction layer generalizing d with
  | nil => exact ⟨d, rfl, fun name => rfl⟩
  | cons entry layer ih =>
    obtain ⟨key, value⟩ := entry
    have hnodup := List.nodup_cons.mp h.nodup
    have hrest : IsPlain layer :=
      ⟨fun entry hentry => h.plain entry (List.mem_cons_of_mem _ hentry), hnodup.2⟩
    obtain ⟨d', hd', hfield⟩ := ih hrest (Document.merge (Lower.text key) value d)
    refine ⟨d', ?_, fun name => ?_⟩
    · have hpath : Step.path key = [.field (Lower.text key)] :=
        Step.path_of_isPlain (h.plain (key, value) List.mem_cons_self)
      rw [Layer.apply, List.foldlM_cons]
      simp only [hpath]
      exact hd'
    · rw [hfield, given?_cons, Document.field?_merge]
      by_cases hname : Lower.text key = name
      · subst hname
        rw [given?_eq_none hnodup.1, if_pos rfl, if_pos rfl]
        rfl
      · rw [if_neg (Ne.symm hname), if_neg hname]

end Layer

/-! ### Environments -/

namespace Environment

/-- The text that an environment has for a setting, in whatever case its variables are. -/
def text? (environment : Environment) (name : String) : Option String :=
  (environment.find? fun v => Lower.text v.1 = marker ++ name).map (·.2)

/-- Whether the name of a variable is marked as that of a setting. -/
def IsMarked (name : String) : Prop := marker.toList.isPrefixOf (Lower.text name).toList = true

instance (name : String) : Decidable (IsMarked name) := inferInstanceAs (Decidable (_ = true))

/-- An environment in which no two variables are the same but for their case, and marked ones name
settings. -/
structure IsPlain (environment : Environment) : Prop where
  /-- No two variables are the same but for their case. -/
  nodup : (environment.map fun v => Lower.text v.1).Nodup
  /-- Marked variables name settings. -/
  named : ∀ v ∈ environment, IsMarked v.1 →
    ∃ name ∈ EngineConfig.fieldNames, Lower.text v.1 = marker ++ name

theorem key?_eq_none {name : String} (h : ¬ IsMarked name) : key? name = none := by
  rw [key?]
  exact if_neg h

/-- A setting in the name of a variable is the key that the variable overrides. -/
theorem key?_of_named {v name : String} (hname : name ∈ EngineConfig.fieldNames)
    (h : Lower.text v = marker ++ name) : key? v = some name := by
  have hkeys : ∀ name ∈ EngineConfig.fieldNames,
      marker.toList.isPrefixOf (marker ++ name).toList = true ∧
        String.ofList (pointed ((marker ++ name).toList.drop marker.length)) = name := by
    decide +kernel
  obtain ⟨hmarked, hpointed⟩ := hkeys name hname
  simp only [key?, h, hmarked, if_true, hpointed]

theorem isMarked_of_named {v name : String} (hname : name ∈ EngineConfig.fieldNames)
    (h : Lower.text v = marker ++ name) : IsMarked v := by
  by_contra hmarked
  have hkey := key?_of_named hname h
  rw [key?_eq_none hmarked] at hkey
  cases hkey

/-- Names of settings are in lower case and no paths. -/
theorem plain_fieldNames : ∀ name ∈ EngineConfig.fieldNames,
    Lower.text name = name ∧ Step.IsPlain name := by
  decide +kernel

/-- A text stands for a scalar. -/
theorem isTable_value (text : String) : (value text).isTable = false := by
  rw [value]
  split
  · rfl
  · split
    · rfl
    · cases Numeral.int64? 10 text.toList with
      | some n => rfl
      | none => cases Numeral.decimal? text <;> rfl

variable {environment : Environment}

theorem isPlain_nil : IsPlain [] :=
  ⟨List.nodup_nil, fun _ hv => absurd hv List.not_mem_nil⟩

theorem IsPlain.of_cons {v : String × String} (h : IsPlain (v :: environment)) :
    environment.IsPlain :=
  ⟨(List.nodup_cons.mp h.nodup).2, fun v hv => h.named v (List.mem_cons_of_mem _ hv)⟩

theorem exists_of_mem_overrides (h : environment.IsPlain) {entry : String × Document}
    (hentry : entry ∈ environment.overrides) : entry.1 ∈ EngineConfig.fieldNames ∧
      ∃ v ∈ environment, Lower.text v.1 = marker ++ entry.1 := by
  obtain ⟨v, hv, hoverride⟩ := List.mem_filterMap.mp hentry
  obtain ⟨key, hkey, rfl⟩ := Option.map_eq_some_iff.mp hoverride
  by_cases hmarked : IsMarked v.1
  · obtain ⟨name, hname, hlower⟩ := h.named _ hv hmarked
    rw [key?_of_named hname hlower] at hkey
    cases hkey
    exact ⟨hname, _, hv, hlower⟩
  · rw [key?_eq_none hmarked] at hkey
    cases hkey

/-- A variable is either marked with the name of a setting, or overrides nothing. -/
theorem overrides_cons {v : String × String} (h : IsPlain (v :: environment)) :
    (∃ name ∈ EngineConfig.fieldNames, Lower.text v.1 = marker ++ name ∧
      overrides (v :: environment) = (name, value v.2) :: overrides environment) ∨
    ¬ IsMarked v.1 ∧ overrides (v :: environment) = overrides environment := by
  by_cases hmarked : IsMarked v.1
  · obtain ⟨name, hname, hlower⟩ := h.named v List.mem_cons_self hmarked
    refine Or.inl ⟨name, hname, hlower, ?_⟩
    simp only [overrides, List.filterMap_cons, key?_of_named hname hlower, Option.map_some]
  · refine Or.inr ⟨hmarked, ?_⟩
    simp only [overrides, List.filterMap_cons, key?_eq_none hmarked, Option.map_none]

theorem isPlain_overrides (h : environment.IsPlain) : Layer.IsPlain environment.overrides := by
  refine ⟨fun entry hentry => (plain_fieldNames _ (exists_of_mem_overrides h hentry).1).2, ?_⟩
  induction environment with
  | nil => exact List.nodup_nil
  | cons v environment ih =>
    rcases overrides_cons h with ⟨name, hname, hlower, heq⟩ | ⟨-, heq⟩
    · rw [heq, List.map_cons, List.nodup_cons]
      refine ⟨fun hmem => ?_, ih h.of_cons⟩
      obtain ⟨entry, hentry, hsame⟩ := List.mem_map.mp hmem
      obtain ⟨hfield, v', hv', hlower'⟩ := exists_of_mem_overrides h.of_cons hentry
      rw [(plain_fieldNames _ hfield).1, (plain_fieldNames _ hname).1] at hsame
      have hrepeated : Lower.text v.1 ∈ environment.map fun v => Lower.text v.1 :=
        List.mem_map.mpr ⟨v', hv', by rw [hlower', hsame, hlower]⟩
      exact (List.nodup_cons.mp h.nodup).1 hrepeated
    · rw [heq]
      exact ih h.of_cons

/-- What an environment overrides is what it has a text for. -/
theorem given?_overrides (h : environment.IsPlain) {name : String}
    (hname : name ∈ EngineConfig.fieldNames) :
    Layer.given? environment.overrides name = (environment.text? name).map value := by
  induction environment with
  | nil => rfl
  | cons v environment ih =>
    rw [text?, List.find?_cons]
    rcases overrides_cons h with ⟨other, hother, hlower, heq⟩ | ⟨hmarked, heq⟩
    · rw [heq, Layer.given?_cons, (plain_fieldNames _ hother).1, hlower]
      by_cases hsame : other = name
      · simp only [hsame, decide_true, if_true, Option.map_some]
      · have hne : ¬ marker ++ other = marker ++ name := fun h =>
          hsame ((String.append_right_inj _).mp h)
        simp only [hsame, hne, decide_false, if_false]
        exact ih h.of_cons
    · have hne : ¬ Lower.text v.1 = marker ++ name := fun hlower =>
        hmarked (isMarked_of_named hname hlower)
      simp only [heq, hne, decide_false]
      exact ih h.of_cons

/-- Variables that are not marked override nothing. -/
theorem overrides_filter (environment : Environment) :
    overrides (environment.filter fun v => IsMarked v.1) = overrides environment := by
  rw [overrides, overrides, List.filterMap_filter]
  refine congrArg (fun override? => environment.filterMap override?) (funext fun v => ?_)
  by_cases hmarked : IsMarked v.1
  · simp only [hmarked, decide_true, if_true]
  · simp only [hmarked, decide_false, key?_eq_none hmarked, Option.map_none]
    rfl

theorem overrides_eq_nil (h : ∀ v ∈ environment, ¬ IsMarked v.1) : overrides environment = [] := by
  rw [overrides, List.filterMap_eq_nil_iff]
  intro v hv
  simp only [key?_eq_none (h v hv), Option.map_none]

end Environment

/-! ### Settings -/

namespace Setting

/-- The value of a setting, which has its default when it is not given. -/
def of? {α : Type} (value? : Document → Option α) (default : α) : Option Document → Option α
  | some value => value? value
  | none => some default

theorem read?_eq {α : Type} (value? : Document → Option α) (default : α) (name : String)
    (d : Document) : read? value? default name d = of? value? default (d.field? name) := by
  rw [read?]
  cases d.field? name <;> rfl

/-- Whether a value can be read as the setting of a name. -/
def isReadable (name : String) (value : Document) : Bool :=
  if name = "auto_recover" then (switch? value).isSome
  else if name = "epoch_tick_ms" then (word64? value).isSome
  else if name = "optimization_level" then (level? value).isSome
  else (word32? value).isSome

theorem exists_of?_eq_some {α : Type} {value? : Document → Option α} (default : α)
    {given : Option Document} (h : ∀ value, given = some value → (value? value).isSome = true) :
    ∃ a, of? value? default given = some a := by
  cases given with
  | none => exact ⟨default, rfl⟩
  | some value => exact Option.isSome_iff_exists.mp (h value rfl)

theorem isSome_of_of?_eq_some {α : Type} {value? : Document → Option α} {default a : α}
    {given : Option Document} (h : of? value? default given = some a) {value : Document}
    (hvalue : given = some value) : (value? value).isSome = true := by
  subst hvalue
  exact Option.isSome_of_eq_some h

end Setting

namespace EngineConfig

/-- Settings are read from values: each is read from the value given for it, and has its default
where none is given. -/
structure ReadFrom (given : String → Option Document) (c : EngineConfig) : Prop where
  memoryLimitPages : Setting.of? Setting.word32? default.memoryLimitPages
    (given "memory_limit_pages") = some c.memoryLimitPages
  preallocatedBufferSize : Setting.of? Setting.word32? default.preallocatedBufferSize
    (given "preallocated_buffer_size") = some c.preallocatedBufferSize
  bufferGrowthIncrement : Setting.of? Setting.word32? default.bufferGrowthIncrement
    (given "buffer_growth_increment") = some c.bufferGrowthIncrement
  autoRecover : Setting.of? Setting.switch? default.autoRecover (given "auto_recover")
    = some c.autoRecover
  epochTickMillis : Setting.of? Setting.word64? default.epochTickMillis (given "epoch_tick_ms")
    = some c.epochTickMillis
  optimizationLevel : Setting.of? Setting.level? default.optimizationLevel
    (given "optimization_level") = some c.optimizationLevel

variable {d : Document} {given : String → Option Document}

theorem ofDocument?_eq_some_iff {c : EngineConfig} :
    ofDocument? d = some c ↔ c.ReadFrom d.field? := by
  simp only [ofDocument?, Setting.read?_eq, bind, pure, Option.bind_eq_some_iff, Option.some.injEq]
  constructor
  · rintro ⟨pages, hpages, buffer, hbuffer, increment, hincrement, recover, hrecover, tick, htick,
      level, hlevel, rfl⟩
    exact ⟨hpages, hbuffer, hincrement, hrecover, htick, hlevel⟩
  · intro h
    exact ⟨_, h.memoryLimitPages, _, h.preallocatedBufferSize, _, h.bufferGrowthIncrement, _,
      h.autoRecover, _, h.epochTickMillis, _, h.optimizationLevel, rfl⟩

theorem ReadFrom.congr {c : EngineConfig} {given' : String → Option Document}
    (h : c.ReadFrom given) (hgiven : ∀ name ∈ fieldNames, given' name = given name) :
    c.ReadFrom given' := by
  simp only [fieldNames, List.forall_mem_cons, List.not_mem_nil, false_implies, implies_true,
    and_true] at hgiven
  obtain ⟨hpages, hbuffer, hincrement, hrecover, htick, hlevel⟩ := hgiven
  exact ⟨hpages ▸ h.memoryLimitPages, hbuffer ▸ h.preallocatedBufferSize,
    hincrement ▸ h.bufferGrowthIncrement, hrecover ▸ h.autoRecover, htick ▸ h.epochTickMillis,
    hlevel ▸ h.optimizationLevel⟩

/-- Settings can be read if and only if every value that is given for one can be. -/
theorem exists_readFrom_iff : (∃ c, ReadFrom given c) ↔
    ∀ name ∈ fieldNames, ∀ value, given name = some value →
      Setting.isReadable name value = true := by
  simp only [fieldNames, List.forall_mem_cons, List.not_mem_nil, false_implies, implies_true,
    and_true]
  constructor
  · rintro ⟨c, h⟩
    exact ⟨fun _ => Setting.isSome_of_of?_eq_some h.memoryLimitPages,
      fun _ => Setting.isSome_of_of?_eq_some h.preallocatedBufferSize,
      fun _ => Setting.isSome_of_of?_eq_some h.bufferGrowthIncrement,
      fun _ => Setting.isSome_of_of?_eq_some h.autoRecover,
      fun _ => Setting.isSome_of_of?_eq_some h.epochTickMillis,
      fun _ => Setting.isSome_of_of?_eq_some h.optimizationLevel⟩
  · rintro ⟨hpages, hbuffer, hincrement, hrecover, htick, hlevel⟩
    obtain ⟨pages, hpages⟩ := Setting.exists_of?_eq_some default.memoryLimitPages hpages
    obtain ⟨buffer, hbuffer⟩ := Setting.exists_of?_eq_some default.preallocatedBufferSize hbuffer
    obtain ⟨increment, hincrement⟩ :=
      Setting.exists_of?_eq_some default.bufferGrowthIncrement hincrement
    obtain ⟨recover, hrecover⟩ := Setting.exists_of?_eq_some default.autoRecover hrecover
    obtain ⟨tick, htick⟩ := Setting.exists_of?_eq_some default.epochTickMillis htick
    obtain ⟨level, hlevel⟩ := Setting.exists_of?_eq_some default.optimizationLevel hlevel
    exact ⟨⟨pages, buffer, increment, recover, tick, level⟩, hpages, hbuffer, hincrement, hrecover,
      htick, hlevel⟩

/-! ### Two layers -/

/-- The value that is chosen for a name: the environment's, else the document's. -/
def selected? (environment : Environment) (d : Document) (name : String) : Option Document :=
  ((environment.text? name).map Environment.value).or
    ((Layer.given? d.entries name).map Document.folded)

variable {environment : Environment} {format : DocumentFormat} {text : String}

/-- Two plain layers put over each other hold the values that are chosen. -/
theorem exists_layers (hd : Layer.IsPlain d.entries) (henvironment : environment.IsPlain) :
    ∃ m, [d.entries, environment.overrides].foldlM (fun d layer => Layer.apply layer d) (.table [])
        = .ok m ∧
      ∀ name ∈ fieldNames, m.field? name = selected? environment d name := by
  obtain ⟨base, hbase, hgiven⟩ := Layer.exists_apply hd (.table [])
  obtain ⟨m, hm, hoverridden⟩ :=
    Layer.exists_apply (Environment.isPlain_overrides henvironment) base
  refine ⟨m, ?_, fun name hname => ?_⟩
  · rw [List.foldlM_cons, hbase]
    show (Layer.apply environment.overrides base >>= fun d => pure d) = _
    rw [hm]
    rfl
  · have hempty : (Document.table []).field? name = none := rfl
    rw [hoverridden, hgiven, Environment.given?_overrides henvironment hname, hempty, Option.or_none,
      selected?]
    cases environment.text? name with
    | none => rfl
    | some text =>
      simp only [Option.map_some, Option.some_or]
      rw [Document.placed_of_not_isTable (Environment.isTable_value text)]

/-- What a text in an environment is read as. -/
theorem ofTextIn_eq_ok_iff (hd : Document.ofText format text = .ok d)
    (hplain : Layer.IsPlain d.entries) (henvironment : environment.IsPlain) {c : EngineConfig} :
    ofTextIn environment format text = .ok c ↔ c.ReadFrom (selected? environment d) := by
  obtain ⟨m, hm, hfield⟩ := exists_layers hplain henvironment
  rw [ofTextIn, hd]
  simp only [ofLayers, hm]
  have hread : ofDocument? m = some c ↔ c.ReadFrom (selected? environment d) :=
    ofDocument?_eq_some_iff.trans
      ⟨fun h => h.congr fun name hname => (hfield name hname).symm, fun h => h.congr hfield⟩
  rw [← hread]
  cases ofDocument? m <;> simp only [Except.ok.injEq, Option.some.injEq, reduceCtorEq]

/-- Variables that are not marked do not matter. -/
theorem ofTextIn_filter (environment : Environment) (format : DocumentFormat) (text : String) :
    ofTextIn (environment.filter fun v => Environment.IsMarked v.1) format text
      = ofTextIn environment format text := by
  rw [ofTextIn, ofTextIn, Environment.overrides_filter]

/-- Without marked variables only the text matters. -/
theorem ofTextIn_eq_ofText (h : ∀ v ∈ environment, ¬ Environment.IsMarked v.1)
    (format : DocumentFormat) (text : String) :
    ofTextIn environment format text = ofText format text := by
  rw [ofTextIn, ofText, Environment.overrides_eq_nil h]
  cases Document.ofText format text with
  | error fault => rfl
  | ok d =>
    simp only [ofLayers, List.foldlM_cons, List.foldlM_nil]
    cases Layer.apply d.entries (.table []) <;> rfl

/-- Settings that are read from the same value are the same. -/
theorem ReadFrom.field?_eq {c c' : EngineConfig} {given' : String → Option Document}
    (h : c.ReadFrom given) (h' : c'.ReadFrom given') {name : String} (hname : name ∈ fieldNames)
    (hsame : given name = given' name) : (toJson c).field? name = (toJson c').field? name := by
  have hread {α : Type} {value? : Document → Option α} {default a b : α} {name : String}
      (hsame : given name = given' name) (ha : Setting.of? value? default (given name) = some a)
      (hb : Setting.of? value? default (given' name) = some b) : a = b :=
    Option.some.inj (ha.symm.trans (hsame ▸ hb))
  simp only [fieldNames, List.mem_cons, List.not_mem_nil, or_false] at hname
  rcases hname with rfl | rfl | rfl | rfl | rfl | rfl
  · exact congrArg (fun n => some (toJson n)) (hread hsame h.memoryLimitPages h'.memoryLimitPages)
  · exact congrArg (fun n => some (toJson n))
      (hread hsame h.preallocatedBufferSize h'.preallocatedBufferSize)
  · exact congrArg (fun n => some (toJson n))
      (hread hsame h.bufferGrowthIncrement h'.bufferGrowthIncrement)
  · exact congrArg (fun n => some (toJson n)) (hread hsame h.autoRecover h'.autoRecover)
  · exact congrArg (fun n => some (toJson n)) (hread hsame h.epochTickMillis h'.epochTickMillis)
  · exact congrArg (fun n => some (toJson n)) (hread hsame h.optimizationLevel h'.optimizationLevel)

/-- **Settings are layered.**  Take a text, in any format, that is read as a table, where no key of
the table is a path and no two keys are the same but for their case; and an environment in which no
two variables are the same but for their case, and the marked ones name settings.

Each setting is read from the value that the environment has for it, else from the value that the
document has for it, and else has its default; and loading fails if and only if some value that is
chosen so cannot be read.  Therefore it does not matter what the document has where the environment
has something, and an environment that differs in one setting makes no difference to the others.
Variables that are not marked have no effect, and where none is marked the text is read as if there
were no environment. -/
theorem settings_are_layered (hd : Document.ofText format text = .ok d)
    (hplain : Layer.IsPlain d.entries) (henvironment : environment.IsPlain) :
    (∀ c, ofTextIn environment format text = .ok c ↔ c.ReadFrom (selected? environment d)) ∧
    ((∃ fault, ofTextIn environment format text = .error fault) ↔
      ∃ name ∈ fieldNames, ∃ value, selected? environment d name = some value ∧
        Setting.isReadable name value = false) ∧
    (∀ format' text' d', Document.ofText format' text' = .ok d' → Layer.IsPlain d'.entries →
      (∀ name ∈ fieldNames, environment.text? name = none →
        Layer.given? d'.entries name = Layer.given? d.entries name) →
      ∀ c, ofTextIn environment format' text' = .ok c ↔ ofTextIn environment format text = .ok c) ∧
    (∀ environment' : Environment, environment'.IsPlain → ∀ c c',
      ofTextIn environment format text = .ok c → ofTextIn environment' format text = .ok c' →
      ∀ name ∈ fieldNames, environment.text? name = environment'.text? name →
        (toJson c).field? name = (toJson c').field? name) ∧
    ofTextIn environment format text
      = ofTextIn (environment.filter fun v => Environment.IsMarked v.1) format text ∧
    ((∀ v ∈ environment, ¬ Environment.IsMarked v.1) →
      ofTextIn environment format text = ofText format text) := by
  have hread {c : EngineConfig} := ofTextIn_eq_ok_iff hd hplain henvironment (c := c)
  refine ⟨fun c => hread, ?_, fun format' text' d' hd' hplain' hsame c => ?_,
    fun environment' henvironment' c c' hc hc' name hname hsame => ?_,
    (ofTextIn_filter environment format text).symm, fun h => ofTextIn_eq_ofText h format text⟩
  · have hexists : (∃ c, ofTextIn environment format text = .ok c) ↔ _ :=
      (exists_congr fun c => hread).trans exists_readFrom_iff
    have hfails : (∃ fault, ofTextIn environment format text = .error fault) ↔
        ¬ ∃ c, ofTextIn environment format text = .ok c := by
      cases ofTextIn environment format text <;> simp
    rw [hfails, hexists]
    simp only [not_forall, Bool.not_eq_true, exists_prop]
  · rw [hread, ofTextIn_eq_ok_iff hd' hplain' henvironment]
    have hselected : ∀ name ∈ fieldNames,
        selected? environment d' name = selected? environment d name := by
      intro name hname
      rw [selected?, selected?]
      cases htext : environment.text? name with
      | none => rw [hsame name hname htext]
      | some text => rfl
    exact ⟨fun h => h.congr fun name hname => (hselected name hname).symm,
      fun h => h.congr hselected⟩
  · refine (hread.mp hc).field?_eq ((ofTextIn_eq_ok_iff hd hplain henvironment').mp hc') hname ?_
    rw [selected?, selected?, hsame]

end EngineConfig

namespace Sample

/-- A variable that overrides a setting, in mixed case, and one that does not count. -/
def environment : Environment :=
  [("Mofa_Extensions__Epoch_Tick_MS", "0250"), ("HOME", "/root")]

/-- Settings with a value that cannot be read, an object for a level, and something else. -/
def settings : Json :=
  .object [("epoch_tick_ms", .array []), ("Optimization_Level", .object [("NONE", .null)]),
    ("comment", .integer 1)]

end Sample

namespace EngineConfig

/-- The value that cannot be read is overridden; in an empty environment nothing is read. -/
theorem settings_are_layered_sample :
    ∃ text, Sample.settings.render? = some text ∧
      ofTextIn Sample.environment .json text
        = .ok { default with epochTickMillis := 250, optimizationLevel := .none } ∧
      ∃ fault, ofTextIn [] .json text = .error fault := by
  have hkept : Sample.settings.IsKept JsonText.maxDepth := by
    refine ⟨by decide, ?_⟩
    simp only [List.forall_mem_cons]
    exact ⟨fun _ hitem => absurd hitem List.not_mem_nil, ⟨by decide, by simp [Json.IsKept]⟩,
      (Json.isKept_integer _ 1).mpr (by decide), fun _ hitem => absurd hitem List.not_mem_nil⟩
  obtain ⟨text, hrender, hread⟩ := Document.ofText_of_isKept hkept rfl
  have hplain : Layer.IsPlain (Document.ofJson Sample.settings).entries :=
    ⟨by decide +kernel, by decide +kernel⟩
  have henvironment : Sample.environment.IsPlain := ⟨by decide +kernel, by decide +kernel⟩
  refine ⟨text, hrender, ((settings_are_layered hread hplain henvironment).1 _).mpr ?_,
    (settings_are_layered hread hplain Environment.isPlain_nil).2.1.mpr ?_⟩
  · constructor <;> decide +kernel
  · exact ⟨"epoch_tick_ms", by decide +kernel, .array [], rfl, by decide +kernel⟩

end EngineConfig

end ExtensionHost
