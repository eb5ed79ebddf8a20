import ExtensionHost.Proofs.Binary.Rounding
import ExtensionHost.Proofs.Config.Layering

/-!
# Settings that are saved and loaded

Settings are saved as the text of their JSON form and loaded as a document.  Both agree on every
setting but one.  A document keeps integers of 64 bits with a sign; a greater one becomes a
floating-point number, and the length of a tick, which has 64 bits without a sign, is then read from
this number. So the length of a tick comes back rounded if it is `2 ^ 63` or more, without any
complaint.

## Main definitions

* `Setting.rounded` and `EngineConfig.rounded`, what is loaded of what was saved

## Main results

* `EngineConfig.saved_settings_are_loaded`
* `EngineConfig.large_ticks_are_rounded`, an example of what is lost
-/

namespace ExtensionHost

namespace Setting

/-- What a word of 64 bits comes back as from a document: itself below `2 ^ 63`; from there on the
multiple of `2048` nearest to it, of two the even one, but no more than the greatest word. -/
def rounded (n : UInt64) : UInt64 :=
  if n.toNat < 2 ^ 63 then n
  else .ofNat (min (Binary64.significand n.toNat * 2048) (2 ^ 64 - 1))

theorem rounded_eq_iff (n : UInt64) :
    rounded n = n ↔ n.toNat < 2 ^ 63 ∨ 2048 ∣ n.toNat ∨ n.toNat = 2 ^ 64 - 1 := by
  have hmax : n.toNat < 2 ^ 64 := n.toNat_lt
  rw [rounded]
  split
  · rename_i hsmall
    simp only [hsmall, true_or]
  · rename_i hlarge
    rw [← UInt64.toNat_inj, UInt64.toNat_ofNat_of_lt' (by show min _ (2 ^ 64 - 1) < 2 ^ 64; omega),
      Binary64.rounded_eq_iff (by omega) hmax]
    simp only [hlarge, false_or]

theorem ofInt_natCast_of_lt {n : Nat} (h : n < 2 ^ 63) : Document.ofInt n = .integer n := by
  rw [Document.ofInt, if_pos (by omega)]

theorem word32?_ofInt (n : UInt32) : word32? (.ofInt n.toNat) = some n := by
  have hn : n.toNat < UInt32.size := n.toNat_lt
  rw [ofInt_natCast_of_lt (Nat.lt_trans hn (by decide)), word32?, natural?,
    if_pos (Int.natCast_nonneg _), Int.toNat_natCast]
  simp only [Option.filter_some, hn, decide_true, if_true, Option.map_some, UInt32.ofNat_toNat]

/-- A word of 64 bits comes back rounded. -/
theorem word64?_ofInt (n : UInt64) : word64? (.ofInt n.toNat) = some (rounded n) := by
  have hmax : n.toNat < UInt64.size := n.toNat_lt
  rw [rounded]
  split
  · rename_i hsmall
    rw [ofInt_natCast_of_lt hsmall, word64?, natural?, if_pos (Int.natCast_nonneg _),
      Int.toNat_natCast]
    simp only [Option.filter_some, hmax, decide_true, if_true, Option.map_some, UInt64.ofNat_toNat]
  · rename_i hlarge
    have hdecimal : Document.ofInt n.toNat = .decimal (UInt64.ofNat n.toNat).toFloat := by
      rw [Document.ofInt, if_neg (by omega), if_pos (Int.natCast_nonneg _), Int.toNat_natCast]
    have hword := Binary64.toNat_roundToWord_toFloat (n := n.toNat) (by omega) hmax
    have hfits : (Binary64.roundToWord (UInt64.ofNat n.toNat).toFloat.toBits).toNat < UInt64.size :=
      UInt64.toNat_lt _
    rw [hdecimal, word64?, natural?]
    simp only [Option.filter_some, hfits, decide_true, if_true, Option.map_some]
    rw [hword]

theorem level?_text (level : OptimizationLevel) : level? (.string level.text) = some level := by
  cases level <;> decide +kernel

end Setting

namespace EngineConfig

/-- What is loaded of settings that were saved. -/
def rounded (c : EngineConfig) : EngineConfig :=
  { c with epochTickMillis := Setting.rounded c.epochTickMillis }

theorem rounded_eq_iff (c : EngineConfig) : c.rounded = c ↔
    c.epochTickMillis.toNat < 2 ^ 63 ∨ 2048 ∣ c.epochTickMillis.toNat ∨
      c.epochTickMillis.toNat = 2 ^ 64 - 1 := by
  rw [← Setting.rounded_eq_iff]
  obtain ⟨pages, buffer, increment, recover, tick, level⟩ := c
  simp only [rounded, EngineConfig.mk.injEq, true_and, and_true]

/-- The form of settings is kept by writing and reading. -/
theorem isKept_toJson (c : EngineConfig) : (toJson c).IsKept JsonText.maxDepth := by
  have hsize : UInt64.size = 2 ^ 64 := rfl
  have h32 (n : UInt32) : Json.IsKept 126 (toJson n) := by
    have hn : n.toNat < 2 ^ 32 := n.toNat_lt
    exact (Json.isKept_integer 126 _).mpr ⟨by omega, by omega⟩
  have h64 (n : UInt64) : Json.IsKept 126 (toJson n) := by
    have hn : n.toNat < 2 ^ 64 := n.toNat_lt
    exact (Json.isKept_integer 126 _).mpr ⟨by omega, by omega⟩
  have hnodup : fieldNames.Nodup := by decide
  refine ⟨hnodup, ?_⟩
  simp only [List.forall_mem_cons]
  exact ⟨h32 _, h32 _, h32 _, Json.isKept_bool _ _, h64 _, Json.isKept_string _ _,
    fun _ hfield => absurd hfield List.not_mem_nil⟩

/-- The form of settings as a document. -/
def saved (c : EngineConfig) : Document := .ofJson (toJson c)

theorem keys_saved (c : EngineConfig) : c.saved.entries.map Prod.fst = fieldNames := rfl

theorem lower_saved (c : EngineConfig) :
    ∀ entry ∈ c.saved.entries, Lower.text entry.1 = entry.1 ∧ Step.IsPlain entry.1 :=
  fun _ hentry => Environment.plain_fieldNames _ (c.keys_saved ▸ List.mem_map_of_mem hentry)

theorem isPlain_saved (c : EngineConfig) : Layer.IsPlain c.saved.entries := by
  refine ⟨fun entry hentry => (c.lower_saved entry hentry).2, ?_⟩
  rw [List.map_congr_left fun entry hentry => (c.lower_saved entry hentry).1, c.keys_saved]
  decide

theorem selected?_saved (c : EngineConfig) (name : String) :
    selected? [] c.saved name = (c.saved.field? name).map Document.folded := by
  rw [selected?, Layer.given?_eq_lookup fun entry hentry => (c.lower_saved entry hentry).1]
  rfl

theorem folded_ofInt (n : Int) : (Document.ofInt n).folded = .ofInt n := by
  refine Document.placed_of_not_isTable ?_ none
  rw [Document.ofInt]
  split
  · rfl
  · split <;> rfl

/-- Settings are read from their form, with the length of a tick rounded. -/
theorem readFrom_saved (c : EngineConfig) : c.rounded.ReadFrom (selected? [] c.saved) := by
  have hpages : c.saved.field? "memory_limit_pages" = some (.ofInt c.memoryLimitPages.toNat) := rfl
  have hbuffer : c.saved.field? "preallocated_buffer_size"
      = some (.ofInt c.preallocatedBufferSize.toNat) := rfl
  have hincrement : c.saved.field? "buffer_growth_increment"
      = some (.ofInt c.bufferGrowthIncrement.toNat) := rfl
  have hrecover : c.saved.field? "auto_recover" = some (.bool c.autoRecover) := rfl
  have htick : c.saved.field? "epoch_tick_ms" = some (.ofInt c.epochTickMillis.toNat) := rfl
  have hlevel : c.saved.field? "optimization_level"
      = some (.string c.optimizationLevel.text) := rfl
  constructor <;> rw [selected?_saved]
  · rw [hpages, Option.map_some, folded_ofInt, Setting.of?, Setting.word32?_ofInt]
    rfl
  · rw [hbuffer, Option.map_some, folded_ofInt, Setting.of?, Setting.word32?_ofInt]
    rfl
  · rw [hincrement, Option.map_some, folded_ofInt, Setting.of?, Setting.word32?_ofInt]
    rfl
  · rw [hrecover]
    rfl
  · rw [htick, Option.map_some, folded_ofInt, Setting.of?, Setting.word64?_ofInt]
    rfl
  · rw [hlevel]
    exact Setting.level?_text c.optimizationLevel

/-- The text of settings is read as the settings, rounded. -/
theorem exists_loaded (c : EngineConfig) :
    ∃ text, (toJson c).render? = some text ∧ ofText .json text = .ok c.rounded := by
  obtain ⟨text, hrender, hread⟩ := Document.ofText_of_isKept c.isKept_toJson rfl
  have hloaded : ofTextIn [] .json text = .ok c.rounded :=
    (ofTextIn_eq_ok_iff hread c.isPlain_saved Environment.isPlain_nil).mpr c.readFrom_saved
  rw [ofTextIn_eq_ofText fun v hv => absurd hv List.not_mem_nil] at hloaded
  exact ⟨text, hrender, hloaded⟩

/-- **Settings that were saved are loaded.**  The text of any settings is read, by itself or in an
environment without marked variables, and yields the settings with the length of a tick rounded.
These are the settings that were saved if and only if the length of a tick is less than `2 ^ 63`, or
a multiple of `2048`, or the greatest word. -/
theorem saved_settings_are_loaded (c : EngineConfig) :
    ∃ text, (toJson c).render? = some text ∧
      ofText .json text = .ok c.rounded ∧
      (∀ environment : Environment, (∀ v ∈ environment, ¬ Environment.IsMarked v.1) →
        ofTextIn environment .json text = .ok c.rounded) ∧
      (c.rounded = c ↔ c.epochTickMillis.toNat < 2 ^ 63 ∨ 2048 ∣ c.epochTickMillis.toNat ∨
        c.epochTickMillis.toNat = 2 ^ 64 - 1) := by
  obtain ⟨text, hrender, hloaded⟩ := c.exists_loaded
  refine ⟨text, hrender, hloaded, fun environment hunmarked => ?_, c.rounded_eq_iff⟩
  rw [ofTextIn_eq_ofText hunmarked, hloaded]

/-- The default settings are loaded as they were saved, whatever the home directory is. -/
theorem saved_settings_are_loaded_sample :
    ∃ text, (toJson default).render? = some text ∧
      ofTextIn [("HOME", "/root")] .json text = .ok default := by
  obtain ⟨text, hrender, -, hloaded, hrounded⟩ := saved_settings_are_loaded default
  have hsame : default.rounded = default := hrounded.mpr (Or.inl (by decide))
  have hunmarked : ∀ v ∈ [("HOME", "/root")], ¬ Environment.IsMarked v.1 := by decide +kernel
  exact ⟨text, hrender, hsame ▸ hloaded _ hunmarked⟩

/-- **Large ticks are rounded.**  A length of a tick that is one more than a floating-point number
can be is saved, and loaded as one less. -/
theorem large_ticks_are_rounded :
    let c : EngineConfig := { default with epochTickMillis := 9223372036854775809 }
    ∃ text, (toJson c).render? = some text ∧
      ofText .json text = .ok { c with epochTickMillis := 9223372036854775808 } ∧
      ofText .json text ≠ .ok c := by
  intro c
  obtain ⟨text, hrender, hloaded⟩ := c.exists_loaded
  have hrounded : c.rounded = { c with epochTickMillis := 9223372036854775808 } := by decide +kernel
  refine ⟨text, hrender, hrounded ▸ hloaded, fun h => ?_⟩
  rw [hloaded, Except.ok.injEq, hrounded] at h
  exact absurd h (by decide +kernel)

end EngineConfig

end ExtensionHost
