import ExtensionHost.Document.Yaml.Scalar
import ExtensionHost.Document.Yaml.Token

/-!
# The layout of a YAML text

Collections of a YAML text are shown by indentation or by brackets.  Here a text is cut into tokens
in which both kinds are explicit.

Whether something is a key shows only at the colon after it.  So the place of everything that may be
a key is kept as a candidate, and the tokens that open a key and its mapping are put there
afterwards. Outside of brackets, a key and its colon stand on one line.

## Main definitions

* `Yaml.Layout`, the tokens so far together with the open collections;
* `Yaml.Layout.next?`, one step;
* `Yaml.Token.ofText?`.
-/

namespace ExtensionHost

namespace Yaml

/-- A place at which a key may start. -/
structure Candidate where
  /-- Whether there must be a key, because a mapping goes on in this column. -/
  isRequired : Bool
  /-- The number of tokens before. -/
  position : Nat
  /-- The place. -/
  place : Cursor

/-- A column of indentation around the current one. -/
structure Indent where
  /-- The column. -/
  column : Int
  /-- Whether a collection ends with the column inside. -/
  isBlock : Bool

/-- An open pair of brackets. -/
structure Bracket where
  /-- Whether the brackets hold a sequence. -/
  isSequence : Bool
  /-- The candidate outside of the brackets. -/
  outside : Option Candidate

/-- The tokens so far together with the open collections. -/
structure Layout where
  /-- The place up to which the text is cut. -/
  cursor : Cursor
  /-- The tokens so far. -/
  tokens : Array Token
  /-- Whether a key may start here. -/
  keyAllowed : Bool
  /-- The candidate for a key in the innermost collection. -/
  candidate : Option Candidate
  /-- The open brackets, the innermost first. -/
  brackets : List Bracket
  /-- The column of the innermost collection that is shown by indentation. -/
  indent : Int
  /-- The columns around it, the innermost first. -/
  indents : List Indent
  /-- A place at which a colon ends a key without a blank after it. -/
  adjacent : Option Nat

namespace Layout

/-- The layout at the start of a text. -/
def start (text : List Char) : Layout := ⟨.start text, #[], true, none, [], -1, [], none⟩

/-- Whether the current place is within brackets. -/
def inFlow (l : Layout) : Bool := !l.brackets.isEmpty

/-- The layout with a token at the end. -/
def push (l : Layout) (t : Token) : Layout := { l with tokens := l.tokens.push t }

/-- The layout with a token at a position. -/
def insert (l : Layout) (position : Nat) (t : Token) : Layout :=
  { l with tokens := l.tokens.insertIdxIfInBounds position t }

/-- The layout at a later place. -/
def goTo (l : Layout) (c : Cursor) : Layout := { l with cursor := c }

/-! ### Indentation -/

/-- Leave collections as long as they are in columns to the right of a column; the columns around
them are given. -/
def leave (column : Int) : List Indent → Layout → Layout
  | [], l => l
  | i :: outer, l =>
    if l.inFlow || l.indent ≤ column then l
    else
      let l := { l with indent := i.column, indents := outer }
      leave column outer (if i.isBlock then l.push .blockEnd else l)

/-- Leave all collections in columns to the right of a column. -/
def unroll (l : Layout) (column : Int) : Layout := leave column l.indents l

/-- Forget columns up to one in which a collection has started; the columns around are given. -/
def forget : List Indent → Layout → Layout
  | [], l => l
  | i :: outer, l =>
    if i.isBlock then l else forget outer { l with indent := i.column, indents := outer }

/-- Forget the innermost columns if no collection has started in them. -/
def dropUnused (l : Layout) : Layout := forget l.indents l

/-- Enter a collection in a column, whose first token stands at a position. -/
def enter (l : Layout) (column : Int) (position : Nat) (t : Token) : Layout :=
  if l.inFlow then l
  else
    let l := match l.indents with
      | i :: outer =>
        if l.indent ≤ column && !i.isBlock then { l with indent := i.column, indents := outer }
        else l
      | [] => l
    if l.indent < column then
      { l with indents := ⟨l.indent, true⟩ :: l.indents, indent := column }.insert position t
    else l

/-- Demand that what follows is indented by at least one column more. -/
def deepen (l : Layout) : Layout :=
  match l.indents with
  | i :: _ =>
    if !l.inFlow && i.isBlock then
      { l with indents := ⟨l.indent, false⟩ :: l.indents, indent := l.indent + 1 }
    else l
  | [] => l

/-! ### Keys -/

/-- Keep the current place as a candidate, if a key may start here. -/
def keepCandidate (l : Layout) : Layout :=
  if l.keyAllowed then
    let isRequired := !l.inFlow && l.indent == l.cursor.column && l.indents.head?.any (·.isBlock)
    { l with candidate := some ⟨isRequired, l.tokens.size, l.cursor⟩ }
  else l

/-- Give up the candidate of the innermost collection. -/
def dropCandidate? (l : Layout) : Option Layout :=
  if l.candidate.any (·.isRequired) then none else some { l with candidate := none }

/-- The greatest number of characters between the start of a key and its colon. -/
def maxKeyLength : Nat := 1024

/-- Give up a candidate that is too far away. -/
def dropStale? (l : Layout) : Option Layout :=
  match l.candidate with
  | some k =>
    if !l.inFlow && (k.place.line < l.cursor.line || k.place.index + maxKeyLength < l.cursor.index)
    then l.dropCandidate?
    else some l
  | none => some l

/-- The layout in which a key may or may not start. -/
def allowKey (l : Layout) (allowed : Bool) : Layout := { l with keyAllowed := allowed }

/-! ### Space -/

/-- Move to the next token over blanks, breaks and comments.  A tabulator may not indent a
collection. Every step takes a character, and `fuel` counts them. -/
def skipSpace? : Nat → Layout → Option Layout
  | 0, l => some l
  | fuel + 1, l =>
    match l.cursor.peek with
    | some d =>
      if d = '\t' ∧ !l.indents.isEmpty ∧ l.cursor.isFresh ∧ l.cursor.column < l.indent then do
        let c ← l.cursor.restOfLine?
        if endsLine c.peek then skipSpace? fuel (l.goTo c) else none
      else if isBlank d then skipSpace? fuel (l.goTo (l.cursor.skipBlank 1))
      else if isBreak d then
        skipSpace? fuel ((l.goTo l.cursor.skipBreak).allowKey (!l.inFlow || l.keyAllowed))
      else if d = '#' then skipSpace? fuel (l.goTo l.cursor.skipLine)
      else some l
    | none => some l

/-- Move over spaces, breaks and comments after the mark of a key, of which there is at least one.
Every step takes a character, and `fuel` counts them. -/
def skipAfterKey : Nat → Layout → Layout
  | 0, l => l
  | fuel + 1, l =>
    match l.cursor.peek with
    | some d =>
      if d = ' ' then skipAfterKey fuel (l.goTo (l.cursor.skipBlank 1))
      else if isBreak d then
        skipAfterKey fuel ((l.goTo l.cursor.skipBreak).allowKey (!l.inFlow || l.keyAllowed))
      else if d = '#' then skipAfterKey fuel (l.goTo l.cursor.skipLine)
      else l
    | none => l

/-- Move over the rest of the line. -/
def skipRest? (l : Layout) : Option Layout := l.cursor.restOfLine?.map l.goTo

/-! ### Marks of documents -/

/-- Leave all collections. -/
def leaveAll? (l : Layout) : Option Layout := do
  return (← (l.unroll (-1)).dropCandidate?).allowKey false

/-- A mark between documents.  Nothing follows the mark at the end of one. -/
def marker? (t : Token) (l : Layout) : Option Layout := do
  let l := ((← l.leaveAll?).push t).goTo (l.cursor.skip 3)
  if t = .documentEnd then
    let l ← l.skipRest?
    if endsLine l.cursor.peek then some l else none
  else some l

/-- A number of a version. -/
def versionNumber? (c : Cursor) : Option Cursor :=
  let digits := c.rest.takeWhile Char.isDigit
  if digits.isEmpty || 9 < digits.length then none else some (c.skip digits.length)

/-- The handle of a tag: a name between exclamation marks, the second of which may be missing. -/
def handle? (c : Cursor) : Option (String × Cursor) :=
  match c.rest with
  | '!' :: rest =>
    let name := rest.takeWhile isWord
    let closing := if (rest.drop name.length).head? = some '!' then ['!'] else []
    some (String.ofList ('!' :: name ++ closing), c.skip (1 + name.length + closing.length))
  | _ => none

/-- Whether a character may stand in an address. -/
def isAddressChar (c : Char) : Bool := isWord c || "#;/?:@&=+$,_.!~*'()[]%".toList.contains c

/-- Whether a character may stand in the rest of a tag. -/
def isTagChar (c : Char) : Bool := isAddressChar c && !isFlow c && c != '!'

/-- What a directive says, after its name. -/
def directiveBody? (name : String) (c : Cursor) : Option (Token × Cursor) :=
  match name with
  | "YAML" => do
    let c ← versionNumber? c.skipBlanks
    if c.peek ≠ some '.' then none
    return (.version, ← versionNumber? (c.skip 1))
  | "TAG" => do
    let (handle, c) ← handle? c.skipBlanks
    if handle ≠ "!" ∧ !handle.endsWith "!" then none
    let c := c.skipBlanks
    let lead := c.rest.takeWhile isAddressChar
    if !(c.peek == some '!' || c.peek.any isTagChar) then none
    let c := c.skip lead.length
    if endsWord c.peek then return (.handle handle (String.ofList lead), c) else none
  | _ => some (.handle "" "", c.skipLine)

/-- A directive, which stands on a line of its own. -/
def directive? (l : Layout) : Option Layout := do
  let l ← l.leaveAll?
  let c := l.cursor.skip 1
  let name := c.rest.takeWhile isWord
  let c := c.skip name.length
  if name.isEmpty || !endsWord c.peek then none
  let (t, c) ← directiveBody? (String.ofList name) c
  let c ← c.restOfLine?
  if !endsLine c.peek then none
  return (l.push t).goTo (if c.atEnd then c else c.skipBreak)

/-! ### Marks of collections -/

/-- How deep brackets may be nested. -/
def maxBrackets : Nat := 255

/-- An opening bracket. -/
def open? (isSequence : Bool) (l : Layout) : Option Layout := do
  let l := l.keepCandidate.deepen
  if maxBrackets ≤ l.brackets.length then none
  let l := { l with
    brackets := ⟨isSequence, l.candidate⟩ :: l.brackets
    candidate := none
    keyAllowed := true }
  let l ← (l.goTo (l.cursor.skip 1)).skipRest?
  return l.push (if isSequence then .flowSequenceStart else .flowMappingStart)

/-- A closing bracket. -/
def close? (isSequence : Bool) (l : Layout) : Option Layout := do
  let l ← l.dropCandidate?
  let l := match l.brackets with
    | b :: outer => { l with brackets := outer, candidate := b.outside }
    | [] => l
  let l ← ((l.allowKey false).goTo (l.cursor.skip 1)).skipRest?
  let l := if l.inFlow then { l with adjacent := some l.cursor.index } else l
  return l.push (if isSequence then .flowSequenceEnd else .flowMappingEnd)

/-- A comma. -/
def comma? (l : Layout) : Option Layout := do
  let l ← l.dropCandidate?
  let l ← ((l.allowKey true).goTo (l.cursor.skip 1)).skipRest?
  return l.push .flowEntry

/-- A dash before an item, which stands where a key could start. -/
def dash? (l : Layout) : Option Layout := do
  if l.inFlow || !l.keyAllowed then none
  let column := l.cursor.column
  let c := l.cursor.skip 1
  let l := (l.enter column l.tokens.size .blockSequenceStart).goTo c
  let l ← l.skipRest?
  let blanks := c.rest.takeWhile isBlank
  if blanks.contains '\t' && l.cursor.peek == some '-' && endsWord l.cursor.second then none
  let l := if l.cursor.peek.any isBreak || startsFlow l.cursor.peek then l.deepen else l
  return ((← l.dropCandidate?).allowKey true).push .blockEntry

/-- The mark of a key. -/
def key? (l : Layout) : Option Layout := do
  if !l.inFlow && !l.keyAllowed then none
  let l := if l.inFlow then l
    else l.enter l.cursor.column l.tokens.size .blockMappingStart
  let l := (← l.dropCandidate?).allowKey (!l.inFlow)
  let after := l.goTo (l.cursor.skip 1)
  let l := skipAfterKey after.cursor.rest.length after
  if l.cursor.index = after.cursor.index ∨ l.cursor.peek = some '\t' then none
  return l.push .key

/-- Whether a colon is followed by tabulators only, and then by what would be indented by them. -/
def isTabbed (c : Cursor) : Bool :=
  let blanks := c.rest.takeWhile isBlank
  let next := (c.rest.drop blanks.length).head?
  c.peek == some '\t' && !blanks.contains ' ' && next.any fun d => d == '-' || isWord d

/-- The colon before a value.  If there is a candidate it was a key; in a sequence in brackets it
stands on the same line. -/
def colon? (l : Layout) : Option Layout := do
  let c := l.cursor
  let after := c.skip 1
  if isTabbed after then none
  let next ← if after.peek = some '\t' then after.restOfLine? else some after
  let l := l.goTo next
  match l.candidate with
  | some k =>
    if l.brackets.head?.any (·.isSequence) && k.place.line < c.line then none
    let l := l.insert k.position .key
    let l := (l.enter k.place.column k.position .blockMappingStart).deepen
    return ({ l with candidate := none }.allowKey false).push .value
  | none =>
    if !l.inFlow && !l.keyAllowed then none
    let l := (l.enter c.column l.tokens.size .blockMappingStart).deepen
    return (l.allowKey (!l.inFlow)).push .value

/-! ### Nodes -/

/-- Whether a character may stand in the name of a node. -/
def isAnchorChar (c : Char) : Bool :=
  let n := c.toNat
  let isShown := (0x20 < n && n < 0x7F) || n == 0x85 || (0xA0 ≤ n && n != 0xFFFE && n != 0xFFFF)
  isShown && !isFlow c

/-- A name for a node, or a reference to one. -/
def name? (token : String → Token) (l : Layout) : Option Layout :=
  let l := l.keepCandidate.allowKey false
  let c := l.cursor.skip 1
  let name := c.rest.takeWhile isAnchorChar
  if name.isEmpty then none
  else some ((l.goTo (c.skip name.length)).push (token (String.ofList name)))

/-- The handle and the rest of a tag. -/
def tagParts? (c : Cursor) : Option (String × String × Cursor) :=
  if c.second = some '<' then do
    let c := c.skip 2
    let address := c.rest.takeWhile isAddressChar
    let c := c.skip address.length
    if c.peek = some '>' then return ("", String.ofList address, c.skip 1) else none
  else do
    let (handle, c) ← handle? c
    let more := c.rest.takeWhile isTagChar
    let c := c.skip more.length
    if 2 ≤ handle.length ∧ handle.endsWith "!" then
      if more.isEmpty then none else return (handle, String.ofList more, c)
    else
      let suffix := String.ofList (handle.toList.drop 1 ++ more)
      return if suffix.isEmpty then ("", "!", c) else ("!", suffix, c)

/-- A tag, which is a word for itself. -/
def tag? (l : Layout) : Option Layout := do
  let l := l.keepCandidate.allowKey false
  let (handle, suffix, c) ← tagParts? l.cursor
  if endsWord c.peek || (l.inFlow && startsFlow c.peek) then
    return (l.goTo c).push (.tag handle suffix)
  else none

/-- A block of lines. -/
def block? (isLiteral : Bool) (l : Layout) : Option Layout := do
  let l := (l.keepCandidate.allowKey true).dropUnused
  let (text, c) ← Block.read? isLiteral l.indent l.cursor
  return (l.goTo c).push (.scalar false text)

/-- A quoted scalar.  Right after it a colon ends a key in brackets. -/
def quoted? (quote : Char) (l : Layout) : Option Layout := do
  let l := l.keepCandidate.allowKey false
  let (text, c) ← Quoted.read? quote l.inFlow l.indent l.cursor
  let l ← skipSpace? c.rest.length (l.goTo c)
  return { l with adjacent := some l.cursor.index }.push (.scalar false text)

/-- A plain scalar. -/
def plain? (l : Layout) : Option Layout := do
  let l := (l.keepCandidate.allowKey false).dropUnused
  let (text, c) ← Plain.read? l.inFlow (l.indent + 1) l.cursor
  return ((l.goTo c).allowKey c.isFresh).push (.scalar true text)

/-! ### Steps -/

/-- The next token, by the character with which it starts. -/
def token? (d : Char) (l : Layout) : Option Layout :=
  let next := l.cursor.second
  match d with
  | '[' => l.open? true
  | '\x7b' => l.open? false
  | ']' => l.close? true
  | '\x7d' => l.close? false
  | ',' => l.comma?
  | '*' => l.name? .alias
  | '&' => l.name? .anchor
  | '!' => l.tag?
  | '\'' => l.quoted? '\''
  | '"' => l.quoted? '"'
  | '%' => none
  | '@' => none
  | '\x60' => none
  | d =>
    if d = '-' ∧ endsWord next then l.dash?
    else if d = '?' ∧ endsWord next then l.key?
    else if d = ':' ∧ (endsWord next ∨
        (l.inFlow ∧ (startsFlow next ∨ l.adjacent = some l.cursor.index))) then l.colon?
    else if d = '|' ∧ !l.inFlow then l.block? true
    else if d = '>' ∧ !l.inFlow then l.block? false
    else l.plain?

/-- What stands at the start of a line, by its first character. -/
def lineStart? (d : Char) (l : Layout) : Option Layout :=
  if l.cursor.column == 0 && d == '%' then l.directive?
  else if l.cursor.startsThree '-' then l.marker? .documentStart
  else if l.cursor.startsThree '.' then l.marker? .documentEnd
  else if l.cursor.column < l.indent then none
  else l.token? d

/-- One step: the next token, if there is one, and whether there was one. -/
def next? (l : Layout) : Option (Layout × Bool) := do
  let l ← skipSpace? l.cursor.rest.length l
  let l ← l.dropStale?
  let l := l.unroll l.cursor.column
  match l.cursor.peek with
  | some d => return (← l.lineStart? d, true)
  | none =>
    if l.brackets.any (·.outside.any (·.isRequired)) then none
    return (← (l.unroll (-1)).dropCandidate?, false)

/-- All steps; every step but the last takes a character, and `fuel` counts them. -/
def all? : Nat → Layout → Option Layout
  | 0, l => some l
  | fuel + 1, l => do
    let (l, goesOn) ← l.next?
    if goesOn then all? fuel l else some l

end Layout

/-- The tokens of a text.  A text ends at the first character whose number is zero. -/
def Token.ofText? (text : List Char) : Option (List Token) :=
  let text := text.takeWhile (· != '\x00')
  (Layout.all? (text.length + 1) (.start text)).map (·.tokens.toList)

end Yaml

end ExtensionHost
