/-!
# A place in a YAML text

In YAML it matters in which column something stands, whether it is the first thing on its line, and
whether two things stand on one line.  A cursor is the rest of a text together with these facts.

## Main definitions

* `Yaml.Cursor` and its movements;
* `Yaml.Cursor.atMarker`, the marks between documents;
* `Yaml.Cursor.restOfLine?`, blanks and a comment.
-/

namespace ExtensionHost

namespace Yaml

/-- Whether a character ends a line. -/
def isBreak (c : Char) : Bool := c == '\n' || c == '\r'

/-- Whether a character is a blank. -/
def isBlank (c : Char) : Bool := c == ' ' || c == '\t'

/-- Whether a character separates the parts of a collection in brackets. -/
def isFlow (c : Char) : Bool := [',', '[', ']', '\x7b', '\x7d'].contains c

/-- Whether a character may stand in the names of tags. -/
def isWord (c : Char) : Bool := c.isAlphanum || c == '_' || c == '-'

/-- Whether a line ends here. -/
def endsLine : Option Char → Bool
  | some c => isBreak c
  | none => true

/-- Whether a word ends here. -/
def endsWord : Option Char → Bool
  | some c => isBlank c || isBreak c
  | none => true

/-- Whether there is a separator here. -/
def startsFlow : Option Char → Bool
  | some c => isFlow c
  | none => false

/-- A place in a text. -/
structure Cursor where
  /-- The text from here on. -/
  rest : List Char
  /-- The number of characters before. -/
  index : Nat
  /-- The number of lines before. -/
  line : Nat
  /-- The number of characters before on the line. -/
  column : Nat
  /-- Whether only blanks stand before on the line. -/
  isFresh : Bool

namespace Cursor

/-- The start of a text. -/
def start (text : List Char) : Cursor := ⟨text, 0, 0, 0, true⟩

/-- The character here. -/
def peek (c : Cursor) : Option Char := c.rest.head?

/-- The character after the one here. -/
def second (c : Cursor) : Option Char := c.rest.tail.head?

/-- Whether the text is at its end. -/
def atEnd (c : Cursor) : Bool := c.rest.isEmpty

/-- Move over characters that are not blanks. -/
def skip (c : Cursor) (n : Nat) : Cursor :=
  ⟨c.rest.drop n, c.index + n, c.line, c.column + n, c.isFresh && n == 0⟩

/-- Move over blanks. -/
def skipBlank (c : Cursor) (n : Nat) : Cursor :=
  ⟨c.rest.drop n, c.index + n, c.line, c.column + n, c.isFresh⟩

/-- Move over the break at the end of a line. -/
def skipBreak (c : Cursor) : Cursor :=
  let n := match c.rest with
    | '\r' :: '\n' :: _ => 2
    | _ => 1
  ⟨c.rest.drop n, c.index + n, c.line + 1, 0, true⟩

/-- Move over all blanks. -/
def skipBlanks (c : Cursor) : Cursor := c.skipBlank (c.rest.takeWhile isBlank).length

/-- Move over all spaces. -/
def skipSpaces (c : Cursor) : Cursor := c.skipBlank (c.rest.takeWhile (· == ' ')).length

/-- The text to the end of the line. -/
def lineText (c : Cursor) : List Char := c.rest.takeWhile fun d => !isBreak d

/-- Move to the end of the line. -/
def skipLine (c : Cursor) : Cursor := c.skip c.lineText.length

/-- Whether the first three characters of a line are three of a kind and a word for themselves. -/
def startsThree (c : Cursor) (d : Char) : Bool :=
  c.column == 0 && c.rest.take 3 == [d, d, d] && endsWord (c.rest.drop 3).head?

/-- Whether a document starts or ends here. -/
def atMarker (c : Cursor) : Bool := c.startsThree '-' || c.startsThree '.'

/-- Move over blanks and a comment, which must be set off by a blank. -/
def restOfLine? (c : Cursor) : Option Cursor :=
  let next := c.skipBlanks
  if next.peek = some '#' then
    if next.index = c.index then none else some next.skipLine
  else some next

end Cursor

end Yaml

end ExtensionHost
