import ExtensionHost.Document.Yaml.Cursor
import ExtensionHost.Text.Numeral

/-!
# The texts of YAML scalars

A scalar is written plainly, between quotes, or as a block of lines.  Plain and quoted scalars may
span lines: a single line break becomes a space, and of several breaks all but the first are kept.
Every function gives the text of the scalar and the place after it.

## Main definitions

* `Yaml.Plain.read?`, `Yaml.Quoted.read?` and `Yaml.Block.read?`.
-/

namespace ExtensionHost

namespace Yaml

/-! ### Gaps -/

/-- The space between two pieces of a scalar. -/
structure Gap where
  /-- Blanks before the first break, the last one first. -/
  blanks : List Char
  /-- The number of breaks. -/
  breaks : Nat
  /-- Whether the breaks count from a break that was escaped. -/
  isEscaped : Bool

namespace Gap

/-- The gap in which nothing stands. -/
def empty : Gap := ⟨[], 0, false⟩

/-- The text that a gap stands for. -/
def text (g : Gap) : List Char :=
  if g.isEscaped then List.replicate g.breaks '\n'
  else
    match g.breaks with
    | 0 => g.blanks.reverse
    | 1 => [' ']
    | n + 1 => List.replicate n '\n'

/-- What a tabulator does that stands before the column of a scalar. -/
inductive TabRule where
  /-- It is refused. -/
  | refuse
  /-- It may stand on a line that is otherwise empty. -/
  | emptyLine
  deriving DecidableEq

/-- Move over blanks and breaks.  Every step takes a character, and `fuel` counts the steps. -/
def read? (rule : TabRule) (indent : Int) : Nat → Gap → Cursor → Option (Gap × Cursor)
  | 0, g, c => some (g, c)
  | fuel + 1, g, c =>
    match c.peek with
    | none => some (g, c)
    | some d =>
      if isBreak d then read? rule indent fuel { g with breaks := g.breaks + 1 } c.skipBreak
      else if !isBlank d then some (g, c)
      else if !g.isEscaped && g.breaks == 0 then
        read? rule indent fuel { g with blanks := d :: g.blanks } (c.skipBlank 1)
      else if d = '\t' ∧ c.column < indent then
        match rule with
        | .refuse => none
        | .emptyLine => do
          let c ← c.restOfLine?
          if endsLine c.peek then read? rule indent fuel g c else none
      else read? rule indent fuel g (c.skipBlank 1)

end Gap

/-! ### Plain scalars -/

namespace Plain

/-- The longest piece of a plain scalar at the start of a text.  A colon that ends a key and, in
brackets, a separator end the piece. -/
def piece (inFlow : Bool) : List Char → List Char
  | [] => []
  | c :: rest =>
    if isBlank c || isBreak c then []
    else if c == ':' && (endsWord rest.head? || (inFlow && startsFlow rest.head?)) then []
    else if inFlow && isFlow c then []
    else c :: piece inFlow rest

/-- Pieces of a plain scalar.  Every step takes a character, and `fuel` counts the steps; `taken`
holds the characters so far, the last one first, and `gap` the text between them and here. -/
def pieces? (inFlow : Bool) (indent : Int) :
    Nat → List Char → List Char → Cursor → Option (List Char × Cursor)
  | 0, taken, _, c => some (taken, c)
  | fuel + 1, taken, gap, c =>
    if c.atMarker || c.peek == some '#' then some (taken, c)
    else if inFlow && c.peek == some '-' && startsFlow c.second then none
    else
      let p := piece inFlow c.rest
      let taken := if p.isEmpty then taken else p.reverse ++ gap.reverse ++ taken
      let c := c.skip p.length
      if !endsWord c.peek || c.atEnd then some (taken, c)
      else do
        let (g, c) ← Gap.read? .emptyLine indent c.rest.length .empty c
        if !inFlow && c.column < indent then some (taken, c)
        else pieces? inFlow indent fuel taken g.text c

/-- Read a plain scalar, which has at least one character.  Its further lines stand in the column
`indent` or to the right of it. -/
def read? (inFlow : Bool) (indent : Int) (c : Cursor) : Option (String × Cursor) := do
  if inFlow && c.column < indent then none
  let (taken, c) ← pieces? inFlow indent (c.rest.length + 1) [] [] c
  if taken.isEmpty then none else return (String.ofList taken.reverse, c)

end Plain

/-! ### Quoted scalars -/

namespace Quoted

/-- A character given by a fixed count of hexadecimal digits. -/
def unicode? (count : Nat) (text : List Char) : Option Char := do
  let digits := text.take count
  if digits.length ≠ count then none
  let n ← Numeral.natural? 16 digits
  if n.isValidChar then some (Char.ofNat n) else none

/-- The character of an escape after its backslash, and how many characters the escape has. -/
def escape? : List Char → Option (Char × Nat)
  | [] => none
  | c :: rest =>
    match c with
    | '0' => some ('\x00', 1)
    | 'a' => some ('\x07', 1)
    | 'b' => some ('\x08', 1)
    | 't' => some ('\t', 1)
    | '\t' => some ('\t', 1)
    | 'n' => some ('\n', 1)
    | 'v' => some ('\x0B', 1)
    | 'f' => some ('\x0C', 1)
    | 'r' => some ('\r', 1)
    | 'e' => some ('\x1B', 1)
    | ' ' => some (' ', 1)
    | '"' => some ('"', 1)
    | '/' => some ('/', 1)
    | '\\' => some ('\\', 1)
    | 'N' => some ('\u0085', 1)
    | '_' => some ('\u00A0', 1)
    | 'L' => some ('\u2028', 1)
    | 'P' => some ('\u2029', 1)
    | 'x' => (unicode? 2 rest).map (·, 3)
    | 'u' => (unicode? 4 rest).map (·, 5)
    | 'U' => (unicode? 8 rest).map (·, 9)
    | _ => none

/-- How a piece of a quoted scalar ends. -/
inductive End where
  /-- At a blank, at a break, or at the end of the text. -/
  | gap
  /-- After a break that is escaped. -/
  | escapedBreak
  /-- At the closing quote. -/
  | quote
  deriving DecidableEq

/-- A piece of a quoted scalar; every step takes a character, and `fuel` counts the steps. -/
def piece? (quote : Char) : Nat → List Char → Cursor → Option (List Char × End × Cursor)
  | 0, taken, c => some (taken, .gap, c)
  | fuel + 1, taken, c =>
    match c.rest with
    | [] => some (taken, .gap, c)
    | d :: rest =>
      if isBlank d || isBreak d then some (taken, .gap, c)
      else if d = quote then
        if quote = '\'' ∧ rest.head? = some '\'' then
          piece? quote fuel ('\'' :: taken) (c.skip 2)
        else some (taken, .quote, c)
      else if d = '\\' ∧ quote = '"' then
        if rest.head?.any isBreak then some (taken, .escapedBreak, (c.skip 1).skipBreak)
        else do
          let (e, n) ← escape? rest
          piece? quote fuel (e :: taken) (c.skip (n + 1))
      else piece? quote fuel (d :: taken) (c.skip 1)

/-- The pieces of a quoted scalar up to its closing quote. -/
def pieces? (quote : Char) (indent : Int) : Nat → List Char → Cursor → Option (List Char × Cursor)
  | 0, _, _ => none
  | fuel + 1, taken, c =>
    if c.atMarker || c.atEnd || c.column < indent then none
    else do
      let (taken, how, c) ← piece? quote (c.rest.length + 1) taken c
      if c.peek = some quote then return (taken, c)
      let (g, c) ← Gap.read? .refuse indent c.rest.length ⟨[], 0, how == .escapedBreak⟩ c
      pieces? quote indent fuel (g.text.reverse ++ taken) c

/-- What may follow a quoted scalar: a comment or the end of the line, the colon of a key on one
line, and in brackets any colon and what separates items. -/
def mayFollow (inFlow isOneLine : Bool) : Option Char → Bool
  | some ',' | some ']' | some '\x7d' => inFlow
  | some ':' => inFlow || isOneLine
  | d => endsLine d

/-- Read a quoted scalar from its opening quote. -/
def read? (quote : Char) (inFlow : Bool) (indent : Int) (c : Cursor) :
    Option (String × Cursor) := do
  let (taken, after) ← pieces? quote indent (c.rest.length + 1) [] (c.skip 1)
  let next ← (after.skip 1).restOfLine?
  if mayFollow inFlow (c.line == next.line) next.peek then
    return (String.ofList taken.reverse, next)
  else none

end Quoted

/-! ### Block scalars -/

namespace Block

/-- What becomes of the breaks at the end of a block. -/
inductive Chomp where
  | strip
  | clip
  | keep
  deriving DecidableEq

/-- The sign of a way to treat the last breaks. -/
def chomp? : Char → Option Chomp
  | '+' => some .keep
  | '-' => some .strip
  | _ => none

/-- A sign for the last breaks, if there is one. -/
def sign (c : Cursor) : Option Chomp × Cursor :=
  match c.peek.bind chomp? with
  | some how => (some how, c.skip 1)
  | none => (none, c)

/-- A number of columns, if there is one; it may not be zero. -/
def columns? (c : Cursor) : Option (Option Nat × Cursor) :=
  match c.peek with
  | some d =>
    if d = '0' then none
    else if d.isDigit then some (some (d.toNat - 48), c.skip 1)
    else some (none, c)
  | none => some (none, c)

/-- The header of a block after its indicator: what becomes of the last breaks, and how far the
block is indented if that is said, in either order. -/
def header? (c : Cursor) : Option (Chomp × Option Nat × Cursor) := do
  let (before, c) := sign c
  let (n, c) ← columns? c
  let (after, c) := if before.isNone && n.isSome then sign c else (none, c)
  return ((before.or after).getD .clip, n, c)

/-- Move over indentation up to a column and over empty lines, and count these; `fuel` counts
them. -/
def skipIndent (column : Nat) : Nat → Nat → Cursor → Nat × Cursor
  | 0, n, c => (n, c)
  | fuel + 1, n, c =>
    let c := c.skipBlank (min (c.rest.takeWhile (· == ' ')).length (column - c.column))
    if c.peek.any isBreak then skipIndent column fuel (n + 1) c.skipBreak else (n, c)

/-- Move over empty lines and the indentation of the first other line, and count the empty lines;
the greatest column of them is found.  `fuel` counts the lines. -/
def firstIndent : Nat → Nat → Nat → Cursor → Nat × Nat × Cursor
  | 0, column, n, c => (column, n, c)
  | fuel + 1, column, n, c =>
    let c := c.skipSpaces
    let column := max column c.column
    if c.peek.any isBreak then firstIndent fuel column (n + 1) c.skipBreak else (column, n, c)

/-- What has been read of a block. -/
structure Body where
  /-- The characters of the block, the last one first. -/
  taken : List Char
  /-- Whether a break follows the last line. -/
  hasBreak : Bool
  /-- The number of empty lines after the last line. -/
  breaks : Nat
  /-- Whether the last line starts with a blank. -/
  isIndented : Bool

/-- The breaks before a line.  In a folded block a single break between lines that are not indented
is a space. -/
def Body.separator (b : Body) (isLiteral isIndented : Bool) : List Char :=
  if !isLiteral && b.hasBreak && !b.isIndented && !isIndented then
    if b.breaks = 0 then [' '] else List.replicate b.breaks '\n'
  else List.replicate ((if b.hasBreak then 1 else 0) + b.breaks) '\n'

/-- The lines of a block in a column; `fuel` counts them. -/
def lines (isLiteral : Bool) (column : Nat) : Nat → Body → Cursor → Body × Cursor
  | 0, b, c => (b, c)
  | fuel + 1, b, c =>
    if c.column ≠ column ∨ c.atEnd ∨ c.atMarker then (b, c)
    else
      let isIndented := c.peek.any isBlank
      let taken := c.lineText.reverse ++ b.separator isLiteral isIndented ++ b.taken
      let c := c.skipLine
      if c.atEnd then (⟨taken, false, 0, isIndented⟩, c)
      else
        let (n, c) := skipIndent column c.rest.length 0 c.skipBreak
        lines isLiteral column fuel ⟨taken, true, n, isIndented⟩ c

/-- The text of a block that ends at a place. -/
def Body.text (b : Body) (how : Chomp) (column : Nat) (c : Cursor) : String :=
  let last := if b.hasBreak then ['\n'] else []
  let missing := if c.atEnd && max column 1 ≤ c.column then ['\n'] else []
  let tail := match how with
    | .strip => []
    | .clip => last ++ missing
    | .keep => last ++ missing ++ List.replicate b.breaks '\n'
  String.ofList (b.taken.reverse ++ tail)

/-- Read a block from its indicator.  The block stands to the right of the column `indent`. -/
def read? (isLiteral : Bool) (indent : Int) (c : Cursor) : Option (String × Cursor) := do
  let (how, extra, c) ← header? (c.skip 1)
  let c ← c.restOfLine?
  if !endsLine c.peek then none
  let hasBreak := !c.atEnd
  let c := if hasBreak then c.skipBreak else c
  if c.peek = some '\t' then none
  let (column, n, c) := match extra with
    | some extra =>
      let column := (max indent 0).toNat + extra
      let (n, c) := skipIndent column (c.rest.length + 1) 0 c
      (column, n, c)
    | none =>
      let (column, n, c) := firstIndent (c.rest.length + 1) 0 0 c
      (max column (max (indent + 1) (if 0 < indent then 1 else 0)).toNat, n, c)
  if c.atEnd then
    let breaks := match how with
      | .strip => 0
      | .clip => if hasBreak then 1 else 0
      | .keep => if n = 0 then (if hasBreak then 1 else 0) else n
    return (String.ofList (List.replicate breaks '\n'), c)
  if c.column < column ∧ indent < c.column then none
  let (b, c) := lines isLiteral column (c.rest.length + 1) ⟨[], false, n, false⟩ c
  return (b.text how column c, c)

end Block

end Yaml

end ExtensionHost
