import ExtensionHost.Document.Value
import ExtensionHost.Text.Numeral

/-!
# Scalars of TOML

Numbers, dates and texts.  Every function reads from the start of a text and gives what it read with
the rest of the text.

## Main definitions

* `Toml.number?`, integers of several bases and floating-point numbers;
* `Toml.date?`, dates and times of day, which are kept as they are written;
* `Toml.string?`, texts between quotes on one line or on several.
-/

namespace ExtensionHost

namespace Toml

/-- Whether a character may stand in a text or a comment: all but control characters, of which the
tabulator is allowed. -/
def isText (c : Char) : Bool := c == '\t' || (0x20 ≤ c.toNat && c.toNat != 0x7F)

/-- Whether a character is a blank. -/
def isBlank (c : Char) : Bool := c == ' ' || c == '\t'

/-- The text without blanks in front. -/
def skipBlanks (text : List Char) : List Char := text.dropWhile isBlank

/-- The rest of a text after a line break. -/
def lineBreak? : List Char → Option (List Char)
  | '\n' :: rest => some rest
  | '\r' :: '\n' :: rest => some rest
  | _ => none

/-! ### Numbers -/

/-- Digits after a first one.  A single underscore may stand before each of them. -/
def moreDigits? (isDigit : Char → Bool) : List Char → Option (List Char × List Char)
  | [] => some ([], [])
  | ['_'] => none
  | '_' :: c :: rest =>
    if isDigit c then (moreDigits? isDigit rest).map fun (ds, rest) => (c :: ds, rest) else none
  | c :: rest =>
    if isDigit c then (moreDigits? isDigit rest).map fun (ds, rest) => (c :: ds, rest)
    else some ([], c :: rest)

/-- Digits, at least one. -/
def digits? (isDigit : Char → Bool) : List Char → Option (List Char × List Char)
  | c :: rest =>
    if isDigit c then (moreDigits? isDigit rest).map fun (ds, rest) => (c :: ds, rest) else none
  | [] => none

/-- The integer of a number, if it has 64 bits. -/
def integer? (n : Int) : Option Document :=
  if -0x8000000000000000 ≤ n ∧ n < 0x8000000000000000 then some (.integer n) else none

/-- An integer of a base other than ten, after the letter that announces the base. -/
def based? (base : Nat) (text : List Char) : Option (Document × List Char) := do
  let (ds, rest) ← digits? (fun c => (Numeral.digitValue? base c).isSome) text
  let d ← integer? (← Numeral.natural? base ds)
  return (d, rest)

/-- The fraction of a decimal number, without digits when there is none. -/
def fraction? : List Char → Option (List Char × List Char)
  | '.' :: rest => digits? Numeral.isDigit rest
  | rest => some ([], rest)

/-- The exponent of a decimal number, absent when there is none. -/
def exponent? : List Char → Option (Option Int × List Char)
  | c :: rest =>
    if c = 'e' ∨ c = 'E' then do
      let (negative, rest) := Numeral.splitSign rest
      let (ds, rest) ← digits? Numeral.isDigit rest
      let e : Int := Numeral.ofDigits ds
      return (some (if negative then -e else e), rest)
    else some (none, c :: rest)
  | [] => some (none, [])

/-- A floating-point number with its sign.  Numbers may not be larger than all others. -/
def float? (negative : Bool) (x : Float) : Option Document :=
  if negative then some (.decimal (-x))
  else if x.isInf then none
  else some (.decimal x)

/-- A decimal number after its sign: an integer when it has neither fraction nor exponent. -/
def decimal? (negative : Bool) (text : List Char) : Option (Document × List Char) := do
  let (whole, rest) ← digits? Numeral.isDigit text
  if whole.head? = some '0' ∧ 1 < whole.length then none
  let (fraction, rest) ← fraction? rest
  let (exponent, rest) ← exponent? rest
  if fraction.isEmpty && exponent.isNone then
    let n : Int := Numeral.ofDigits whole
    let d ← integer? (if negative then -n else n)
    return (d, rest)
  else
    let x := Numeral.scientific (Numeral.ofDigits (whole ++ fraction))
      (exponent.getD 0 - fraction.length)
    let d ← float? negative x
    return (d, rest)

/-- The decimal number of a word with its sign. -/
def wordNumber (negative : Bool) (x : Float) : Document := .decimal (if negative then -x else x)

/-- A number. -/
def number? (text : List Char) : Option (Document × List Char) :=
  match text with
  | '0' :: 'x' :: rest => based? 16 rest
  | '0' :: 'o' :: rest => based? 8 rest
  | '0' :: 'b' :: rest => based? 2 rest
  | text =>
    let (negative, body) := Numeral.splitSign text
    match body with
    | 'i' :: 'n' :: 'f' :: rest => some (wordNumber negative (1.0 / 0.0), rest)
    | 'n' :: 'a' :: 'n' :: rest => some (wordNumber negative (0.0 / 0.0), rest)
    | body => decimal? negative body

/-! ### Dates and times -/

/-- A number of a fixed count of digits. -/
def fixed? (count : Nat) (text : List Char) : Option (Nat × List Char) :=
  let ds := text.take count
  if ds.length = count ∧ ds.all Numeral.isDigit then some (Numeral.ofDigits ds, text.drop count)
  else none

/-- A number of a fixed count of digits within bounds. -/
def within? (count low high : Nat) (text : List Char) : Option (Nat × List Char) :=
  (fixed? count text).filter fun (n, _) => low ≤ n && n ≤ high

/-- The rest of a text after a character. -/
def after? (c : Char) : List Char → Option (List Char)
  | d :: rest => if d = c then some rest else none
  | [] => none

/-- The number of days of a month. -/
def daysIn (year month : Nat) : Nat :=
  if month = 2 then
    if year % 4 = 0 ∧ (year % 100 ≠ 0 ∨ year % 400 = 0) then 29 else 28
  else if [4, 6, 9, 11].contains month then 30
  else 31

/-- The rest of a text after a day of the calendar. -/
def day? (text : List Char) : Option (List Char) := do
  let (year, rest) ← fixed? 4 text
  let (month, rest) ← within? 2 1 12 (← after? '-' rest)
  let (_, rest) ← within? 2 1 (daysIn year month) (← after? '-' rest)
  return rest

/-- The rest of a text after a time of day.  A minute may have an additional second. -/
def time? (text : List Char) : Option (List Char) := do
  let (_, rest) ← within? 2 0 23 text
  let (_, rest) ← within? 2 0 59 (← after? ':' rest)
  let (_, rest) ← within? 2 0 60 (← after? ':' rest)
  match rest with
  | '.' :: c :: more =>
    return if Numeral.isDigit c then more.dropWhile Numeral.isDigit else rest
  | rest => return rest

/-- The rest of a text after the difference of a time zone, if there is one. -/
def zone? : List Char → Option (List Char)
  | 'Z' :: rest => some rest
  | 'z' :: rest => some rest
  | c :: rest =>
    if c = '+' ∨ c = '-' then do
      let (_, rest) ← within? 2 0 23 rest
      let (_, rest) ← within? 2 0 59 (← after? ':' rest)
      return rest
    else some (c :: rest)
  | [] => some []

/-- The rest of a text after a date, a time of day, or both. -/
def moment? (text : List Char) : Option (List Char) :=
  match day? text with
  | none => time? text
  | some rest =>
    match rest with
    | c :: more =>
      if c = 'T' ∨ c = 't' ∨ c = ' ' then
        match time? more with
        | some rest => zone? rest
        | none => some rest
      else some rest
    | [] => some []

/-- Whether a text starts like a date or a time of day. -/
def startsMoment (text : List Char) : Bool :=
  ((fixed? 4 text).bind fun (_, rest) => after? '-' rest).isSome ||
    ((fixed? 2 text).bind fun (_, rest) => after? ':' rest).isSome

/-- A date or a time of day, as it is written. -/
def date? (text : List Char) : Option (Document × List Char) :=
  (moment? text).map fun rest =>
    (.string (String.ofList (text.take (text.length - rest.length))), rest)

/-! ### Texts -/

/-- A character given by a fixed count of hexadecimal digits. -/
def unicode? (count : Nat) (text : List Char) : Option (Char × List Char) := do
  let ds := text.take count
  if ds.length ≠ count then none
  let n ← Numeral.natural? 16 ds
  if n.isValidChar then some (Char.ofNat n, text.drop count) else none

/-- The character of an escape, after its backslash. -/
def escape? : List Char → Option (Char × List Char)
  | 'b' :: rest => some ('\x08', rest)
  | 't' :: rest => some ('\t', rest)
  | 'n' :: rest => some ('\n', rest)
  | 'f' :: rest => some ('\x0C', rest)
  | 'r' :: rest => some ('\r', rest)
  | '"' :: rest => some ('"', rest)
  | '\\' :: rest => some ('\\', rest)
  | 'u' :: rest => unicode? 4 rest
  | 'U' :: rest => unicode? 8 rest
  | _ => none

/-- A text on one line after its opening quote.  Between double quotes there may be escapes.  Every
step takes a character, and `fuel` counts them; `taken` holds those of the text, the last first. -/
def line? (quote : Char) : Nat → List Char → List Char → Option (String × List Char)
  | 0, _, _ => none
  | _ + 1, _, [] => none
  | fuel + 1, taken, c :: rest =>
    if c = quote then some (String.ofList taken.reverse, rest)
    else if c = '\\' ∧ quote = '"' then do
      let (c, rest) ← escape? rest
      line? quote fuel (c :: taken) rest
    else if isText c then line? quote fuel (c :: taken) rest
    else none

/-- The text without blanks and line breaks in front. -/
def skipLines : List Char → List Char
  | '\r' :: '\n' :: rest => skipLines rest
  | c :: rest => if isBlank c || c == '\n' then skipLines rest else c :: rest
  | [] => []

/-- A text on several lines after its opening quotes.  Up to two quotes may stand before the closing
ones.  A backslash at the end of a line joins it with the next text. -/
def block? (quote : Char) : Nat → List Char → List Char → Option (String × List Char)
  | 0, _, _ => none
  | _ + 1, _, [] => none
  | fuel + 1, taken, c :: rest =>
    if c = quote then
      let quotes := ((c :: rest).takeWhile (· == quote)).length
      if quotes < 3 then block? quote fuel (c :: taken) rest
      else
        let extra := min (quotes - 3) 2
        some (String.ofList (List.replicate extra quote ++ taken).reverse, rest.drop (extra + 2))
    else if c = '\\' ∧ quote = '"' then
      if (lineBreak? (skipBlanks rest)).isSome then block? quote fuel taken (skipLines rest)
      else do
        let (c, rest) ← escape? rest
        block? quote fuel (c :: taken) rest
    else
      match lineBreak? (c :: rest) with
      | some rest => block? quote fuel ('\n' :: taken) rest
      | none => if isText c then block? quote fuel (c :: taken) rest else none

/-- A text on one line, from its opening quote. -/
def quotedLine? : List Char → Option (String × List Char)
  | c :: rest => if c = '"' ∨ c = '\'' then line? c (rest.length + 1) [] rest else none
  | [] => none

/-- A text, from its opening quote.  A line break right after three opening quotes does not
count. -/
def string? (text : List Char) : Option (String × List Char) :=
  match text with
  | c :: c' :: c'' :: rest =>
    if (c = '"' ∨ c = '\'') ∧ c' = c ∧ c'' = c then
      let body := (lineBreak? rest).getD rest
      block? c (body.length + 1) [] body
    else quotedLine? text
  | text => quotedLine? text

end Toml

end ExtensionHost
