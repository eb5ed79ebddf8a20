import ExtensionHost.Document.Toml.Scalar
import ExtensionHost.Document.Toml.Table
import ExtensionHost.Text.ByteOrderMark

/-!
# Reading TOML

A document is a sequence of lines: headers, assignments, comments and empty lines.  Arrays and
tables within values, and names within keys, are nested to a bounded depth.

## Main definitions

* `Toml.key?` and `Toml.value?`;
* `Document.ofToml?`.
-/

namespace ExtensionHost

namespace Toml

/-- How deep values may be nested, and how many names a key may have. -/
def maxDepth : Nat := 79

/-! ### Keys -/

/-- Whether a character may stand in a name without quotes. -/
def isNameChar (c : Char) : Bool := c.isAlphanum || c == '_' || c == '-'

/-- A name of a key, with or without quotes. -/
def name? (text : List Char) : Option (String × List Char) :=
  match text with
  | '"' :: _ => quotedLine? text
  | '\'' :: _ => quotedLine? text
  | text =>
    let (name, rest) := text.span isNameChar
    if name.isEmpty then none else some (String.ofList name, rest)

/-- The names of a key, separated by points, with blanks around them; `fuel` counts the names. -/
def names? : Nat → List Char → Option (List String × List Char)
  | 0, _ => none
  | fuel + 1, text => do
    let (name, rest) ← name? (skipBlanks text)
    match skipBlanks rest with
    | '.' :: rest =>
      let (names, rest) ← names? fuel rest
      return (name :: names, rest)
    | rest => return ([name], rest)

/-- A key: the names on the way and the last name. -/
def key? (text : List Char) : Option ((List String × String) × List Char) := do
  let (names, rest) ← names? maxDepth text
  let last ← names.getLast?
  return ((names.dropLast, last), rest)

/-! ### Values -/

/-- The text without blanks, line breaks and comments in front.  A comment ends before a character
that may not stand in it. -/
def skipSpace (inComment : Bool) : List Char → List Char
  | '\r' :: '\n' :: rest => skipSpace false rest
  | '\n' :: rest => skipSpace false rest
  | c :: rest =>
    if inComment then if isText c then skipSpace true rest else c :: rest
    else if isBlank c then skipSpace false rest
    else if c = '#' then skipSpace true rest
    else c :: rest
  | [] => []

/-- Items of an array after its opening bracket or after a comma; `fuel` counts the items. -/
def items? (item? : List Char → Option (Document × List Char)) :
    Nat → List Char → Option (List Document × List Char)
  | 0, _ => none
  | fuel + 1, text =>
    match skipSpace false text with
    | ']' :: rest => some ([], rest)
    | text => do
      let (d, rest) ← item? text
      match skipSpace false rest with
      | ',' :: rest =>
        let (ds, rest) ← items? item? fuel rest
        return (d :: ds, rest)
      | ']' :: rest => return ([d], rest)
      | _ => none

/-- An assignment: a key, an equals sign and a value. -/
def assignment? (value? : List Char → Option (Document × List Char)) (text : List Char) :
    Option ((List String × String × Document) × List Char) := do
  let ((path, name), rest) ← key? text
  match rest with
  | '=' :: rest =>
    let (d, rest) ← value? (skipBlanks rest)
    return ((path, name, d), skipBlanks rest)
  | _ => none

/-- Assignments of a table within a value, separated by commas; `fuel` counts them. -/
def assignments? (value? : List Char → Option (Document × List Char)) :
    Nat → List Char → Table → Option (Table × List Char)
  | 0, _, _ => none
  | fuel + 1, text, t => do
    let ((path, name, d), rest) ← assignment? value? text
    let t ← t.assign? path name d
    match rest with
    | ',' :: rest => assignments? value? fuel rest t
    | '\x7d' :: rest => return (t, rest)
    | _ => none

/-- A table within a value, after its opening brace. -/
def inlineTable? (value? : List Char → Option (Document × List Char)) (text : List Char) :
    Option (Document × List Char) :=
  match skipBlanks text with
  | '\x7d' :: rest => some (.table [], rest)
  | text =>
    (assignments? value? (text.length + 1) text .empty).map fun (t, rest) => (t.document, rest)

/-- A word at the start of a text. -/
def word? (word : String) (d : Document) (text : List Char) : Option (Document × List Char) :=
  if word.toList.isPrefixOf text then some (d, text.drop word.toList.length) else none

/-- A value, with arrays and tables nested to at most a depth. -/
def value? : Nat → List Char → Option (Document × List Char)
  | _, [] => none
  | depth, c :: rest =>
    match c with
    | '"' => (string? (c :: rest)).map fun (s, rest) => (.string s, rest)
    | '\'' => (string? (c :: rest)).map fun (s, rest) => (.string s, rest)
    | 't' => word? "true" (.bool true) (c :: rest)
    | 'f' => word? "false" (.bool false) (c :: rest)
    | '[' =>
      match depth with
      | 0 => none
      | depth + 1 =>
        (items? (value? depth) (rest.length + 1) rest).map fun (ds, rest) => (.array ds, rest)
    | '\x7b' =>
      match depth with
      | 0 => none
      | depth + 1 => inlineTable? (value? depth) rest
    | _ => if startsMoment (c :: rest) then date? (c :: rest) else number? (c :: rest)

/-! ### Lines -/

/-- The rest of a text after the end of a line, which may be a comment. -/
def lineEnd? (text : List Char) : Option (List Char) :=
  let rest := match skipBlanks text with
    | '#' :: rest => rest.dropWhile isText
    | rest => rest
  match rest with
  | [] => some []
  | rest => lineBreak? rest

/-- The part of a document that has been read: its table and the path of the table that was opened
last. -/
structure Section where
  /-- The table of the document. -/
  root : Table
  /-- The path of the table to which assignments belong. -/
  current : List String

/-- The section that a header opens, after its brackets. -/
def header? (root : Table) (text : List Char) : Option (Section × List Char) :=
  match text with
  | '[' :: text => do
    let ((path, name), rest) ← key? text
    match rest with
    | ']' :: ']' :: rest => return (⟨← root.append? path name, path ++ [name]⟩, ← lineEnd? rest)
    | _ => none
  | text => do
    let ((path, name), rest) ← key? text
    match rest with
    | ']' :: rest => return (⟨← root.open? path name, path ++ [name]⟩, ← lineEnd? rest)
    | _ => none

/-- The lines of a document; every line takes a character, and `fuel` counts the lines. -/
def lines? : Nat → Section → List Char → Option Section
  | 0, _, _ => none
  | fuel + 1, s, text =>
    match skipBlanks text with
    | [] => some s
    | '[' :: rest => do
      let (s, rest) ← header? s.root rest
      lines? fuel s rest
    | c :: rest =>
      if c = '#' ∨ c = '\n' ∨ c = '\r' then do
        lines? fuel s (← lineEnd? (c :: rest))
      else do
        let ((path, name, d), rest) ← assignment? (value? maxDepth) (c :: rest)
        let root ← s.root.descend? false (·.assign? path name d) s.current
        lines? fuel ⟨root, s.current⟩ (← lineEnd? rest)

end Toml

/-- The document of a text in TOML. -/
def Document.ofToml? (text : String) : Option Document :=
  let text := ByteOrderMark.drop text.toList
  (Toml.lines? (text.length + 1) ⟨.empty, []⟩ text).map (·.root.document)

end ExtensionHost
