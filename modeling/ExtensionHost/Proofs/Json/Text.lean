import ExtensionHost.Json.Reader
import ExtensionHost.Json.Writer
import Mathlib.Data.List.Basic
import Mathlib.Data.List.Forall2

/-!
# Reading what was written

The reader gives back what the writer has written, for values that are written at all and are not
nested too deeply: integers within the range that the reader keeps, and objects without repeated
names.

Values are read from the front of a text, so that every statement here is about a text with
something after it.  What comes after must not go on a number (`JsonText.endsNumber`); a comma, a
closing bracket and the end of the text do not.

## Main definitions

* `JsonText.ReadsFrom`, a text that a reader takes for a value
* `Json.IsKept`, values that are kept by writing and reading

## Main results

* `JsonText.number?_digits` and `JsonText.string?_escaped`
* `JsonText.list?_of_forall₂`
* `Json.parse?_render?`
-/

namespace ExtensionHost

namespace JsonText

/-! ### Digits -/

theorem le_ofDigitChars (n : Nat) (digits : List Char) : n ≤ Nat.ofDigitChars 10 digits n := by
  induction digits generalizing n with
  | nil => exact Nat.le_of_eq Nat.ofDigitChars_nil.symm
  | cons c digits ih =>
    rw [Nat.ofDigitChars_cons]
    exact Nat.le_trans (by omega) (ih _)

/-- Digits of a number that fits a word are taken up to the end. -/
theorem takeDigits_append {digits rest : List Char} (hdigits : ∀ c ∈ digits, c.isDigit = true)
    (hrest : ∀ c ∈ rest.head?, c.isDigit = false) {n taken : Nat}
    (hfits : Nat.ofDigitChars 10 digits n < UInt64.size) :
    takeDigits n taken (digits ++ rest)
      = (Nat.ofDigitChars 10 digits n, taken + digits.length, rest) := by
  induction digits generalizing n taken with
  | nil =>
    cases rest with
    | nil => rfl
    | cons c rest =>
      have hc : Numeral.isDigit c = false := hrest c rfl
      rw [List.nil_append, takeDigits, hc, Bool.false_and]
      rfl
  | cons c digits ih =>
    have hc : Numeral.isDigit c = true := hdigits c List.mem_cons_self
    rw [Nat.ofDigitChars_cons] at hfits
    have hnext : n * 10 + (c.toNat - 48) = 10 * n + (c.toNat - '0'.toNat) := by
      rw [Nat.mul_comm]
      rfl
    have hsmall := Nat.lt_of_le_of_lt (le_ofDigitChars _ digits) hfits
    rw [List.cons_append, takeDigits, hnext, hc, decide_eq_true hsmall]
    show takeDigits _ _ (digits ++ rest) = _
    rw [ih (fun d hd => hdigits d (List.mem_cons_of_mem c hd)) hfits, Nat.ofDigitChars_cons,
      List.length_cons]
    congr 2
    omega

theorem head?_toDigits_append (n : Nat) (rest : List Char) :
    (Nat.toDigits 10 n ++ rest).head? = (Nat.toDigits 10 n).head? := by
  obtain ⟨c, digits, h⟩ := List.exists_cons_of_ne_nil (Nat.toDigits_ne_nil (b := 10) (n := n))
  rw [h]
  rfl

theorem eq_zero_of_head?_toDigits {n : Nat} (h : (Nat.toDigits 10 n).head? = some '0') : n = 0 := by
  induction n using Nat.strongRecOn with
  | _ n ih =>
    by_cases hn : n < 10
    · rw [Nat.toDigits_of_lt_base hn] at h
      have hall : ∀ d < 10, Nat.digitChar d = '0' → d = 0 := by decide
      exact hall n hn (Option.some.inj h)
    · rw [Nat.toDigits_of_base_le (by decide) (by omega), head?_toDigits_append] at h
      have := ih (n / 10) (by omega) h
      omega

/-- A number has no zero in front, unless it is zero. -/
theorem length_toDigits_of_head? {n : Nat} (h : (Nat.toDigits 10 n).head? = some '0') :
    (Nat.toDigits 10 n).length = 1 := by
  rw [eq_zero_of_head?_toDigits h]
  rfl

/-! ### Numbers -/

/-- Whether a text cannot go on a number in front of it. -/
def endsNumber : List Char → Bool
  | [] => true
  | c :: _ => !c.isDigit && c != '.' && c != 'e' && c != 'E'

/-- The value of digits after a sign. -/
def integer (negative : Bool) (n : Nat) : Json := .integer (if negative then -(n : Int) else n)

/-- The digits of a number that fits a word, and a negative number in range, are read as the
number. -/
theorem number?_digits {negative : Bool} {n : Nat} {rest : List Char}
    (hfits : n < UInt64.size) (hnegative : negative = true → 0 < n ∧ n ≤ 0x8000000000000000)
    (hrest : endsNumber rest = true) :
    number? negative (Nat.toDigits 10 n ++ rest) = some (integer negative n, rest) := by
  have hdigits : ∀ c ∈ Nat.toDigits 10 n, c.isDigit = true := fun c =>
    Nat.isDigit_of_mem_toDigits (by decide) (by decide)
  have hends : ∀ c ∈ rest.head?, c.isDigit = false ∧ c ≠ '.' ∧ c ≠ 'e' ∧ c ≠ 'E' := by
    cases rest with
    | nil => nofun
    | cons c rest =>
      rintro _ ⟨⟩
      simpa only [endsNumber, Bool.and_eq_true, Bool.not_eq_true', bne_iff_ne, and_assoc]
        using hrest
  have htaken : takeDigits 0 0 (Nat.toDigits 10 n ++ rest) = _ :=
    takeDigits_append hdigits (fun c hc => (hends c hc).1)
      (by rwa [Nat.ofDigitChars_ten_toDigits])
  have hkept : rest.dropWhile Numeral.isDigit = rest := by
    cases rest with
    | nil => rfl
    | cons c rest =>
      have hc : Numeral.isDigit c = false := (hends c rfl).1
      rw [List.dropWhile_cons, hc]
      rfl
  have hlength : 0 + (Nat.toDigits 10 n).length ≠ 0 := by
    have := Nat.length_toDigits_pos (b := 10) (n := n)
    omega
  have hzero : ¬ ((Nat.toDigits 10 n ++ rest).head? = some '0' ∧
      1 < 0 + (Nat.toDigits 10 n).length) := by
    rintro ⟨hhead, hlong⟩
    rw [head?_toDigits_append] at hhead
    have := length_toDigits_of_head? hhead
    omega
  have hexponent : ¬ (0 ≠ 0 ∨ rest.head? = some 'e' ∨ rest.head? = some 'E') := by
    rintro (h | h | h)
    · exact h rfl
    · exact (hends 'e' h).2.2.1 rfl
    · exact (hends 'E' h).2.2.2 rfl
  rw [number?, htaken, Nat.ofDigitChars_ten_toDigits]
  simp only [hkept, Nat.sub_self, hlength, hzero, false_or, if_false]
  split
  · exact absurd rfl (hends '.' rfl).2.1
  · rw [if_neg hexponent]
    cases negative with
    | false => rfl
    | true =>
      have hrange : ¬ (n = 0 ∨ 0x8000000000000000 < n) := by
        have := hnegative rfl
        omega
      simp only [Bool.not_true, Bool.false_eq_true, if_false, if_neg hrange, integer, if_true]

/-! ### Strings -/

theorem unicode?_hexPair {n : Nat} (h : n < 0x20) (rest : List Char) :
    unicode? (['0', '0'] ++ hexPair n ++ rest) = some (Char.ofNat n, rest) := by
  have hall : ∀ n < 0x20, Numeral.natural? 16 (['0', '0'] ++ hexPair n) = some n := by decide
  have hfour : hex4? (['0', '0'] ++ hexPair n ++ rest) = some (n, rest) := by
    show (Numeral.natural? 16 (['0', '0'] ++ hexPair n)).map (·, rest) = _
    rw [hall n h]
    rfl
  have hlow : ¬ (0xD800 ≤ n ∧ n < 0xDC00) := by omega
  have hhigh : ¬ (0xDC00 ≤ n ∧ n < 0xE000) := by omega
  simp only [unicode?, hfour, bind, Option.bind_some, if_neg hlow, if_neg hhigh]

/-- The form of a character is read as the character. -/
theorem stringFrom?_escaped (c : Char) (fuel : Nat) (taken rest : List Char) :
    stringFrom? (fuel + 1) taken (escaped c ++ rest) = stringFrom? fuel (c :: taken) rest := by
  unfold escaped
  split
  · rfl
  · rfl
  · rfl
  · rfl
  · rfl
  · rfl
  · rfl
  · rename_i hquote hbackslash _ _ _ _ _
    split
    · rename_i hcontrol
      show (unicode? (['0', '0'] ++ hexPair c.toNat ++ rest) >>= _) = _
      rw [unicode?_hexPair hcontrol, Char.ofNat_toNat]
      rfl
    · rename_i hcontrol
      exact (if_neg hquote).trans ((if_neg hcontrol).trans (if_pos hbackslash))

theorem stringFrom?_flatMap (s taken rest : List Char) {fuel : Nat} (h : s.length < fuel) :
    stringFrom? fuel taken (s.flatMap escaped ++ '"' :: rest)
      = some (String.ofList (taken.reverse ++ s), rest) := by
  induction s generalizing taken fuel with
  | nil =>
    obtain ⟨fuel, rfl⟩ := Nat.exists_eq_add_of_lt h
    rw [List.append_nil]
    rfl
  | cons c s ih =>
    cases fuel with
    | zero => omega
    | succ fuel =>
      rw [List.flatMap_cons, List.append_assoc, stringFrom?_escaped,
        ih (c :: taken) (by simpa using h)]
      simp

theorem length_le_length_flatMap (s : List Char) : s.length ≤ (s.flatMap escaped).length := by
  induction s with
  | nil => exact Nat.le_refl 0
  | cons c s ih =>
    have hc : 0 < (escaped c).length := by
      unfold escaped
      split <;> first | exact Nat.zero_lt_succ _ | split <;> exact Nat.zero_lt_succ _
    rw [List.flatMap_cons, List.length_append, List.length_cons]
    omega

/-- A string between quotes is read as the string. -/
theorem string?_quoted (s : String) (rest : List Char) :
    string? (s.toList.flatMap escaped ++ '"' :: rest) = some (s, rest) := by
  have hlength := length_le_length_flatMap s.toList
  rw [string?, stringFrom?_flatMap _ _ _ (by rw [List.length_append]; omega), List.reverse_nil,
    List.nil_append, String.ofList_toList]

/-! ### Lists -/

section Lists

variable {α : Type} {item : List Char → Option (α × List Char)} {close : Char}

/-- A reader takes a text for a value, whatever comes after it, as long as a number would end
there.  The text does not start as a blank or the end of a list does. -/
structure ReadsFrom (item : List Char → Option (α × List Char)) (a : α) (text : List Char) :
    Prop where
  /-- The start of the text. -/
  starts : ∃ c rest, text = c :: rest ∧ isBlank c = false ∧ c ≠ ']' ∧ c ≠ '\x7d'
  /-- What is read from it. -/
  reads : ∀ rest, endsNumber rest = true → item (text ++ rest) = some (a, rest)

theorem ReadsFrom.skipBlanks {a : α} {text : List Char} (h : ReadsFrom item a text)
    (rest : List Char) : skipBlanks (text ++ rest) = text ++ rest := by
  obtain ⟨c, tail, rfl, hblank, -⟩ := h.starts
  rw [List.cons_append, JsonText.skipBlanks, List.dropWhile_cons, hblank]
  rfl

/-- Items with commas between them are read one after the other. -/
theorem items?_of_forall₂ (hclose : close = ']' ∨ close = '\x7d') {as : List α}
    {texts : List (List Char)} (h : List.Forall₂ (ReadsFrom item) as texts) (hne : texts ≠ [])
    {fuel : Nat} (hfuel : texts.length ≤ fuel) (rest : List Char) :
    items? item close fuel ([','].intercalate texts ++ close :: rest) = some (as, rest) := by
  induction h generalizing fuel with
  | nil => exact absurd rfl hne
  | @cons a text as texts ha htexts ih =>
    obtain ⟨fuel, rfl⟩ : ∃ n, fuel = n + 1 := Nat.exists_eq_succ_of_ne_zero (by simp at hfuel; omega)
    cases htexts with
    | nil =>
      have hread := ha.reads (close :: rest) (by rcases hclose with rfl | rfl <;> rfl)
      rw [List.intercalate_singleton, items?, ha.skipBlanks, hread]
      rcases hclose with rfl | rfl <;> rfl
    | @cons a' text' as texts ha' htexts =>
      have hread := ha.reads
        (',' :: ([','].intercalate (text' :: texts) ++ close :: rest)) rfl
      have hrest := ih (by simp) (Nat.le_of_succ_le_succ hfuel)
      rw [List.intercalate_cons_cons, List.append_assoc, List.append_assoc,
        List.singleton_append, items?, ha.skipBlanks, hread]
      show (items? item close fuel _ >>= _) = _
      rw [hrest]
      rfl

theorem length_le_length_intercalate (texts : List (List Char)) :
    texts.length ≤ ([','].intercalate texts).length + 1 := by
  induction texts with
  | nil => exact Nat.zero_le _
  | cons text texts ih =>
    cases texts with
    | nil => exact Nat.le_add_left 1 _
    | cons text' texts =>
      rw [List.intercalate_cons_cons, List.length_append, List.length_append, List.length_cons,
        List.length_singleton]
      omega

/-- A list is read between its brackets. -/
theorem list?_of_forall₂ (hclose : close = ']' ∨ close = '\x7d') {as : List α}
    {texts : List (List Char)} (h : List.Forall₂ (ReadsFrom item) as texts) (rest : List Char) :
    list? item close ([','].intercalate texts ++ close :: rest) = some (as, rest) := by
  have hlength := length_le_length_intercalate texts
  cases h with
  | nil => rcases hclose with rfl | rfl <;> rfl
  | @cons a text as texts ha htexts =>
    have hfuel : (text :: texts).length
        ≤ ([','].intercalate (text :: texts) ++ close :: rest).length := by
      rw [List.length_append, List.length_cons (a := close)]
      omega
    have hitems := items?_of_forall₂ hclose (.cons ha htexts) (by simp) hfuel rest
    obtain ⟨tail, htail⟩ : ∃ tail,
        [','].intercalate (text :: texts) ++ close :: rest = text ++ tail := by
      cases texts with
      | nil => exact ⟨_, by rw [List.intercalate_singleton]⟩
      | cons text' texts =>
        exact ⟨_, by rw [List.intercalate_cons_cons, List.append_assoc, List.append_assoc]⟩
    rw [htail] at hitems ⊢
    obtain ⟨c, text', rfl, -, hbracket, hbrace⟩ := ha.starts
    have hopen : c ≠ close := by rcases hclose with rfl | rfl <;> assumption
    rw [list?, ha.skipBlanks]
    exact (if_neg hopen).trans hitems

end Lists

/-! ### Fields -/

/-- A field is read as its name and its value. -/
theorem readsFrom_field {value : List Char → Option (Json × List Char)} {name : String} {j : Json}
    {text : List Char} (h : ReadsFrom value j text) :
    ReadsFrom (field? value) (name, j) (quoted name ++ [':'] ++ text) := by
  refine ⟨⟨'"', name.toList.flatMap escaped ++ ['"'] ++ [':'] ++ text, by simp [quoted], rfl,
    by decide, by decide⟩, fun rest hrest => ?_⟩
  have hshape : quoted name ++ [':'] ++ text ++ rest
      = '"' :: (name.toList.flatMap escaped ++ '"' :: ':' :: (text ++ rest)) := by
    simp [quoted]
  rw [hshape, field?, string?_quoted]
  show (value (skipBlanks (text ++ rest)) >>= _) = _
  rw [h.skipBlanks, h.reads rest hrest]
  rfl

/-- Fields with different names are kept as they are. -/
theorem keepLast_of_nodup {fields : List (String × Json)} (h : (fields.map Prod.fst).Nodup) :
    keepLast fields = fields := by
  have hfold : ∀ (kept rest : List (String × Json)), ((kept ++ rest).map Prod.fst).Nodup →
      rest.foldl (fun kept field => kept.filter (·.1 != field.1) ++ [field]) kept
        = kept ++ rest := by
    intro kept rest
    induction rest generalizing kept with
    | nil => simp
    | cons field rest ih =>
      intro hnodup
      obtain ⟨name, j⟩ := field
      have hnew : kept.filter (·.1 != name) = kept := by
        rw [List.filter_eq_self]
        intro other hother
        rw [bne_iff_ne]
        rintro rfl
        rw [List.map_append, List.nodup_append] at hnodup
        exact hnodup.2.2 _ (List.mem_map_of_mem hother) _ List.mem_cons_self rfl
      have hnext := ih (kept ++ [(name, j)]) (by simpa using hnodup)
      rw [List.append_assoc] at hnext
      rw [List.foldl_cons]
      show List.foldl _ (kept.filter (·.1 != name) ++ [(name, j)]) rest = _
      rw [hnew]
      exact hnext
  exact hfold [] fields h

/-! ### Values -/

theorem value?_of_isDigit {depth : Nat} {c : Char} {rest : List Char} (h : c.isDigit = true) :
    value? depth (c :: rest) = number? false (c :: rest) := by
  cases depth <;>
  · unfold value?
    split <;> first | rfl | cases h

end JsonText

namespace Json

/-- Values that are kept by writing and reading, nested to at most a depth: they hold no decimal
numbers and only integers that the reader keeps, and no object has two fields of one name. -/
def IsKept : Nat → Json → Prop
  | _, .null | _, .bool _ | _, .string _ => True
  | _, .integer n => -0x8000000000000000 ≤ n ∧ n < UInt64.size
  | _, .decimal _ => False
  | 0, .array _ | 0, .object _ => False
  | depth + 1, .array items => ∀ j ∈ items, IsKept depth j
  | depth + 1, .object fields =>
    (fields.map Prod.fst).Nodup ∧ ∀ field ∈ fields, IsKept depth field.2

@[simp] theorem isKept_bool (depth : Nat) (b : Bool) : IsKept depth (.bool b) := by
  cases depth <;> exact trivial

@[simp] theorem isKept_string (depth : Nat) (s : String) : IsKept depth (.string s) := by
  cases depth <;> exact trivial

@[simp] theorem isKept_integer (depth : Nat) (n : Int) :
    IsKept depth (.integer n) ↔ -0x8000000000000000 ≤ n ∧ n < UInt64.size := by
  cases depth <;> exact Iff.rfl

end Json

namespace JsonText

theorem exists_digits (n : Nat) :
    ∃ c digits, Nat.toDigits 10 n = c :: digits ∧ c.isDigit = true := by
  obtain ⟨c, digits, h⟩ := List.exists_cons_of_ne_nil (Nat.toDigits_ne_nil (b := 10) (n := n))
  have hc : c ∈ Nat.toDigits 10 n := h ▸ List.mem_cons_self
  exact ⟨c, digits, h, Nat.isDigit_of_mem_toDigits (by decide) (by decide) hc⟩

theorem starts_of_isDigit {c : Char} (h : c.isDigit = true) :
    isBlank c = false ∧ c ≠ ']' ∧ c ≠ '\x7d' := by
  refine ⟨?_, ?_, ?_⟩
  · rw [← Bool.not_eq_true, isBlank]
    simp only [Bool.or_eq_true, beq_iff_eq, or_assoc]
    rintro (rfl | rfl | rfl | rfl) <;> cases h
  · rintro rfl
    cases h
  · rintro rfl
    cases h

theorem readsFrom_integer {depth : Nat} {n : Int} (hmin : -0x8000000000000000 ≤ n)
    (hmax : n < UInt64.size) :
    ReadsFrom (value? depth) (.integer n) (toString n).toList := by
  have hsize : (UInt64.size : Int) = 0x10000000000000000 := rfl
  rw [Int.toString_eq_repr, Int.repr_eq_if]
  split
  · rename_i hn
    obtain ⟨c, digits, hdigits, hc⟩ := exists_digits n.toNat
    rw [Nat.toList_repr]
    refine ⟨⟨c, digits, hdigits, starts_of_isDigit hc⟩, fun rest hrest => ?_⟩
    have hread : number? false (Nat.toDigits 10 n.toNat ++ rest) = _ :=
      number?_digits (by omega) nofun hrest
    rw [hdigits, List.cons_append] at hread ⊢
    rw [value?_of_isDigit hc, hread, integer, Int.toNat_of_nonneg hn]
    rfl
  · rename_i hn
    rw [String.toList_append, Nat.toList_repr]
    refine ⟨⟨'-', _, rfl, by decide⟩, fun rest hrest => ?_⟩
    have hread : number? true (Nat.toDigits 10 (-n).toNat ++ rest) = _ :=
      number?_digits (by omega) (fun _ => by omega) hrest
    have hvalue : value? depth ('-' :: (Nat.toDigits 10 (-n).toNat ++ rest))
        = number? true (Nat.toDigits 10 (-n).toNat ++ rest) := by
      cases depth <;> rfl
    show value? depth ('-' :: (Nat.toDigits 10 (-n).toNat ++ rest)) = _
    rw [hvalue, hread, integer, if_pos rfl, Int.toNat_of_nonneg (by omega), Int.neg_neg]

theorem readsFrom_string {depth : Nat} (s : String) :
    ReadsFrom (value? depth) (.string s) (quoted s) := by
  refine ⟨⟨'"', s.toList.flatMap escaped ++ ['"'], by simp [quoted], by decide⟩, fun rest _ => ?_⟩
  have hshape : quoted s ++ rest = '"' :: (s.toList.flatMap escaped ++ '"' :: rest) := by
    simp [quoted]
  have hvalue (text : List Char) :
      value? depth ('"' :: text) = (string? text).map fun read => (.string read.1, read.2) := by
    cases depth <;> rfl
  rw [hshape, hvalue, string?_quoted]
  rfl

/-- A word is read as what it stands for. -/
theorem readsFrom_word {depth : Nat} {j : Json} (word : String) {c : Char} {cs : List Char}
    (hword : word.toList = c :: cs) (hstarts : isBlank c = false ∧ c ≠ ']' ∧ c ≠ '\x7d')
    (hvalue : ∀ text, value? depth (c :: text) = word? word j (c :: text)) :
    ReadsFrom (value? depth) j word.toList := by
  refine ⟨⟨c, cs, hword, hstarts⟩, fun rest _ => ?_⟩
  have hfound : word.toList.isPrefixOf (word.toList ++ rest) = true :=
    List.isPrefixOf_iff_prefix.mpr (List.prefix_append _ _)
  have hread := hvalue (cs ++ rest)
  rw [← List.cons_append, ← hword] at hread
  rw [hread, word?, if_pos hfound, List.drop_left]

theorem exists_readsFrom_scalar {depth : Nat} {j : Json} (h : j.IsKept depth)
    (harray : ∀ items, j ≠ .array items) (hobject : ∀ fields, j ≠ .object fields) :
    ∃ text, text? j = some text ∧ ReadsFrom (value? depth) j text := by
  cases j with
  | null =>
    exact ⟨_, rfl, readsFrom_word "null" rfl (by decide) fun text => by cases depth <;> rfl⟩
  | bool b =>
    cases b with
    | true =>
      exact ⟨_, rfl, readsFrom_word "true" rfl (by decide) fun text => by cases depth <;> rfl⟩
    | false =>
      exact ⟨_, rfl, readsFrom_word "false" rfl (by decide) fun text => by cases depth <;> rfl⟩
  | integer n =>
    obtain ⟨hmin, hmax⟩ := (Json.isKept_integer depth n).mp h
    exact ⟨_, rfl, readsFrom_integer hmin hmax⟩
  | decimal x => cases depth <;> exact h.elim
  | string s => exact ⟨_, rfl, readsFrom_string s⟩
  | array items => exact absurd rfl (harray items)
  | object fields => exact absurd rfl (hobject fields)

theorem exists_itemTexts {depth : Nat} {items : List Json}
    (h : ∀ j ∈ items, ∃ text, text? j = some text ∧ ReadsFrom (value? depth) j text) :
    ∃ texts, itemTexts? items = some texts ∧
      List.Forall₂ (ReadsFrom (value? depth)) items texts := by
  induction items with
  | nil => exact ⟨[], rfl, .nil⟩
  | cons j items ih =>
    obtain ⟨text, htext, hreads⟩ := h j List.mem_cons_self
    obtain ⟨texts, htexts, hall⟩ := ih fun j hj => h j (List.mem_cons_of_mem _ hj)
    exact ⟨text :: texts, by rw [itemTexts?, htext, htexts]; rfl, .cons hreads hall⟩

theorem exists_fieldTexts {depth : Nat} {fields : List (String × Json)}
    (h : ∀ field ∈ fields, ∃ text, text? field.2 = some text ∧
      ReadsFrom (value? depth) field.2 text) :
    ∃ texts, fieldTexts? fields = some texts ∧
      List.Forall₂ (ReadsFrom (field? (value? depth))) fields texts := by
  induction fields with
  | nil => exact ⟨[], rfl, .nil⟩
  | cons field fields ih =>
    obtain ⟨text, htext, hreads⟩ := h field List.mem_cons_self
    obtain ⟨texts, htexts, hall⟩ := ih fun field hfield => h field (List.mem_cons_of_mem _ hfield)
    exact ⟨(quoted field.1 ++ [':'] ++ text) :: texts,
      by rw [fieldTexts?, fieldText?, htext, htexts]; rfl, .cons (readsFrom_field hreads) hall⟩

theorem readsFrom_array {depth : Nat} {items : List Json} {texts : List (List Char)}
    (h : List.Forall₂ (ReadsFrom (value? depth)) items texts) :
    ReadsFrom (value? (depth + 1)) (.array items) (['['] ++ [','].intercalate texts ++ [']']) := by
  refine ⟨⟨'[', _, rfl, by decide⟩, fun rest _ => ?_⟩
  have hshape : ['['] ++ [','].intercalate texts ++ [']'] ++ rest
      = '[' :: ([','].intercalate texts ++ ']' :: rest) := by simp
  rw [hshape]
  show (list? (value? depth) ']' _).map _ = _
  rw [list?_of_forall₂ (Or.inl rfl) h]
  rfl

theorem readsFrom_object {depth : Nat} {fields : List (String × Json)} {texts : List (List Char)}
    (hnodup : (fields.map Prod.fst).Nodup)
    (h : List.Forall₂ (ReadsFrom (field? (value? depth))) fields texts) :
    ReadsFrom (value? (depth + 1)) (.object fields)
      (['\x7b'] ++ [','].intercalate texts ++ ['\x7d']) := by
  refine ⟨⟨'\x7b', _, rfl, by decide⟩, fun rest _ => ?_⟩
  have hshape : ['\x7b'] ++ [','].intercalate texts ++ ['\x7d'] ++ rest
      = '\x7b' :: ([','].intercalate texts ++ '\x7d' :: rest) := by simp
  rw [hshape]
  show (list? (field? (value? depth)) '\x7d' _).map _ = _
  rw [list?_of_forall₂ (Or.inr rfl) h]
  show some (Json.object (keepLast fields), rest) = _
  rw [keepLast_of_nodup hnodup]

/-- A value that is kept has a text, and is read from it. -/
theorem exists_readsFrom {depth : Nat} {j : Json} (h : j.IsKept depth) :
    ∃ text, text? j = some text ∧ ReadsFrom (value? depth) j text := by
  induction depth generalizing j with
  | zero =>
    cases j with
    | array items => exact h.elim
    | object fields => exact h.elim
    | _ => exact exists_readsFrom_scalar h nofun nofun
  | succ depth ih =>
    cases j with
    | array items =>
      obtain ⟨texts, htexts, hall⟩ := exists_itemTexts fun j hj => ih (h j hj)
      exact ⟨_, by rw [text?, htexts]; rfl, readsFrom_array hall⟩
    | object fields =>
      obtain ⟨texts, htexts, hall⟩ := exists_fieldTexts fun field hfield => ih (h.2 field hfield)
      exact ⟨_, by rw [text?, htexts]; rfl, readsFrom_object h.1 hall⟩
    | _ => exact exists_readsFrom_scalar h nofun nofun

end JsonText

/-- **What is written is read back.**  Every value that is kept has a text, and is read from it. -/
theorem Json.parse?_render? {j : Json} (h : j.IsKept JsonText.maxDepth) :
    ∃ text, j.render? = some text ∧ Json.parse? text = some j := by
  obtain ⟨text, htext, hreads⟩ := JsonText.exists_readsFrom h
  refine ⟨String.ofList text, by rw [render?, htext]; rfl, ?_⟩
  have hskip := hreads.skipBlanks []
  have hread := hreads.reads [] rfl
  rw [List.append_nil] at hskip hread
  rw [Json.parse?, String.toList_ofList, hskip, hread]
  rfl

end ExtensionHost
