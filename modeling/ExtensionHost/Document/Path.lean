import ExtensionHost.Document.Value
import ExtensionHost.Text.Numeral

/-!
# Key paths

A key at the top of a document names a place inside the settings: a name, followed by names after
points and by indexes in brackets.  A key that is not of this form is a name as a whole.

Putting a value at a path turns whatever lies on the way into a table or an array, as the path
demands.  An index before the start of an array cannot be reached.

## Main definitions

* `Step` and `Step.path`, the path of a key;
* `Document.put?`.
-/

namespace ExtensionHost

/-- A step of a path. -/
inductive Step where
  /-- To the value of a name in a table. -/
  | field (name : String)
  /-- To an item of an array; negative indexes count from its end. -/
  | item (index : Int)
  deriving DecidableEq, Repr

namespace Step

/-- Whether a character may stand in a name of a path. -/
def isNameChar (c : Char) : Bool := c.isAlphanum || c == ' ' || c == '_' || c == '-'

/-- Whether a character may stand around an index. -/
def isPadding (c : Char) : Bool := c == ' ' || c == '\t'

/-- A name at the start of a text. -/
def name? (text : List Char) : Option (Step × List Char) :=
  let (name, rest) := text.span isNameChar
  if name.isEmpty then none else some (.field (Lower.text (String.ofList name)), rest)

/-- An index after its opening bracket. -/
def index? (text : List Char) : Option (Step × List Char) :=
  let (negative, text) := match text.dropWhile isPadding with
    | '-' :: rest => (true, rest)
    | text => (false, text)
  let (digits, rest) := text.span Numeral.isDigit
  let n : Int := Numeral.ofDigits digits
  let index := if negative then -n else n
  match rest.dropWhile isPadding with
  | ']' :: rest =>
    if digits.isEmpty || index < -0x8000000000000000 || 0x8000000000000000 ≤ index then none
    else some (.item index, rest)
  | _ => none

/-- A step after the first one. -/
def next? : List Char → Option (Step × List Char)
  | '.' :: rest => name? rest
  | '[' :: rest => index? rest
  | _ => none

/-- The steps after the first one; every step takes a character, and `fuel` counts them. -/
def more? : Nat → List Char → Option (List Step)
  | _, [] => some []
  | 0, _ => none
  | fuel + 1, text => do
    let (step, rest) ← next? text
    return step :: (← more? fuel rest)

/-- The steps of a text that is a path. -/
def parse? (text : List Char) : Option (List Step) := do
  let (step, rest) ← name? text
  return step :: (← more? rest.length rest)

/-- The path of a key. -/
def path (key : String) : List Step :=
  (parse? key.toList).getD [.field (Lower.text key)]

end Step

namespace Document

/-- The greatest number of items to which an array can be extended. -/
def maxItems : Nat := 0x1000000

/-- The position of an index in an array of a length. -/
def position? (length : Nat) (index : Int) : Option Nat :=
  if 0 ≤ index then if index < maxItems then some index.toNat else none
  else if index.natAbs ≤ length then some (length - index.natAbs)
  else none

/-- The items of an array, with as many as are missing up to a position. -/
def padded (items : List Document) (position : Nat) : List Document :=
  items ++ List.replicate (position + 1 - items.length) .null

/-- Put a value at a path.  At a name it is merged into the table there; at an index it replaces the
item. -/
def put? : List Step → Document → Document → Option Document
  | [], value, _ => some value
  | [.field name], value, target => some (merge name value target)
  | .field name :: step :: rest, value, target =>
    (put? (step :: rest) value ((target.field? name).getD .null)).map (target.withField name)
  | .item index :: rest, value, target => do
    let position ← position? target.items.length index
    let items := padded target.items position
    let item ← put? rest value (items.getD position .null)
    return .array (items.set position item)

end Document

end ExtensionHost
