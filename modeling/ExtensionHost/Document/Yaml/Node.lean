import ExtensionHost.Document.Yaml.Token
import ExtensionHost.Text.Numeral

/-!
# Nodes of YAML

Tokens form nodes: scalars, sequences and mappings.  A plain scalar has the type that its text looks
like, unless a tag names one; a quoted scalar is a text.  A name stands for the node it was given
to, and for nothing inside of that node.

## Main definitions

* `Yaml.Scalar.ofPlain`, `Yaml.Scalar.ofTagged` and `Yaml.Node`;
* `Yaml.Reading`, reading from the front of the tokens that are left;
* `Yaml.Node.ofTokens?`, the nodes of all documents.
-/

namespace ExtensionHost

namespace Yaml

/-! ### Scalars -/

/-- The value of a scalar. -/
inductive Scalar where
  | null
  | bool (b : Bool)
  | integer (n : Int)
  /-- A decimal number, as it is written. -/
  | decimal (text : String)
  | string (text : String)
  /-- A scalar that is not of the type that its tag names. -/
  | bad
  deriving DecidableEq, Repr

namespace Scalar

/-- Words for infinity and for no number. -/
def infinite : List String :=
  [".inf", ".Inf", ".INF", "+.inf", "+.Inf", "+.INF", "-.inf", "-.Inf", "-.INF", ".nan", ".NaN",
    ".NAN"]

/-- Whether a text looks like a decimal number. -/
def isDecimal (text : String) : Bool :=
  infinite.contains text || (text.toList.any Char.isDigit && (Numeral.decimal? text).isSome)

/-- The integer of a text that starts with a mark of its base or with a plus sign. -/
def marked? (text : List Char) : Option Int :=
  match text with
  | '0' :: 'x' :: rest => Numeral.int64? 16 rest
  | '0' :: 'o' :: rest => Numeral.int64? 8 rest
  | '+' :: rest => Numeral.int64? 10 rest
  | _ => none

/-- The value of a plain scalar. -/
def ofPlain (text : String) : Scalar :=
  match marked? text.toList with
  | some n => .integer n
  | none =>
    if ["", "~", "null"].contains text then .null
    else if ["true", "True", "TRUE"].contains text then .bool true
    else if ["false", "False", "FALSE"].contains text then .bool false
    else
      match Numeral.int64? 10 text.toList with
      | some n => .integer n
      | none => if isDecimal text then .decimal text else .string text

/-- The value of a plain scalar whose tag names a type of the core schema. -/
def ofTyped (type text : String) : Scalar :=
  match type with
  | "bool" => if text = "true" then .bool true else if text = "false" then .bool false else .bad
  | "int" => ((Numeral.int64? 10 text.toList).map .integer).getD .bad
  | "float" => if isDecimal text then .decimal text else .bad
  | "null" => if text = "~" ∨ text = "null" then .null else .bad
  | _ => .string text

/-- The start of the tags of the core schema. -/
def coreSchema : String := "tag:yaml.org,2002:"

/-- The value of a plain scalar with a tag, the start of which is resolved. -/
def ofTagged (lead type text : String) : Scalar :=
  if lead = coreSchema then ofTyped type text else .string text

end Scalar

/-! ### Nodes -/

/-- A node. -/
inductive Node where
  | scalar (s : Scalar)
  | sequence (items : List Node)
  | mapping (entries : List (Node × Node))
  deriving Inhabited

namespace Node

/-- The node of an empty place. -/
def null : Node := .scalar .null

/-- The node that a name stands for inside the node that it is given to. -/
def bad : Node := .scalar .bad

/-- Whether a node is without a value. -/
def isBad : Node → Bool
  | .scalar .bad => true
  | _ => false

mutual

/-- Whether two nodes are equal. -/
def same : Node → Node → Bool
  | .scalar s, .scalar t => s == t
  | .sequence items, .sequence others => sameItems items others
  | .mapping entries, .mapping others => sameEntries entries others
  | _, _ => false

/-- Whether the items of two sequences are equal. -/
def sameItems : List Node → List Node → Bool
  | [], [] => true
  | item :: items, other :: others => same item other && sameItems items others
  | _, _ => false

/-- Whether the entries of two mappings are equal. -/
def sameEntries : List (Node × Node) → List (Node × Node) → Bool
  | [], [] => true
  | entry :: entries, other :: others => sameEntry entry other && sameEntries entries others
  | _, _ => false

/-- Whether two entries are equal. -/
def sameEntry : Node × Node → Node × Node → Bool
  | (key, value), (key', value') => same key key' && same value value'

end

/-- The entries of a mapping from its nodes in order, keys and values in turn.  No two keys are
equal. A key without a value of its own is passed over, and the next node takes its place. -/
def pairUp? : Option Node → List Node → List (Node × Node) → Option (List (Node × Node))
  | _, [], entries => some entries
  | none, key :: rest, entries => pairUp? (if key.isBad then none else some key) rest entries
  | some key, value :: rest, entries =>
    if entries.any fun (other, _) => same key other then none
    else pairUp? none rest (entries ++ [(key, value)])

/-- The mapping of keys and values in turn. -/
def ofParts? (parts : List Node) : Option Node := (pairUp? none parts []).map .mapping

end Node

/-! ### Reading -/

/-- What is left to read and what is known from before. -/
structure Source where
  /-- The tokens that are left. -/
  tokens : List Token
  /-- The names that were given, with the number of the node they were given to. -/
  names : List (String × Nat)
  /-- The nodes with names that are complete. -/
  nodes : List (Nat × Node)
  /-- The handles of tags that were declared. -/
  handles : List (String × String)

/-- Reading from the front of the tokens. -/
abbrev Reading := StateT Source Option

namespace Reading

/-- The next token. -/
def peek : Reading (Option Token) := return (← get).tokens.head?

/-- Move over the next token. -/
def skip : Reading Unit := modify fun s => { s with tokens := s.tokens.tail }

/-- Whether the next token is one of several. -/
def isAt (tokens : List Token) : Reading Bool := return (← peek).any tokens.contains

/-- Move over the next token if it is the given one. -/
def accept (t : Token) : Reading Bool := do
  if (← peek) = some t then
    skip
    return true
  else return false

/-- Move over the next token, which is the given one. -/
def expect (t : Token) : Reading Unit := do
  if ← accept t then return () else failure

/-- The start that the handle of a tag stands for. -/
def lead (handle suffix : String) : Reading String := do
  let declared := (← get).handles.lookup handle
  if handle = "!!" then return declared.getD Scalar.coreSchema
  else if handle.isEmpty && suffix == "!" then return declared.getD ""
  else
    match declared with
    | some lead => return lead
    | none =>
      if 2 ≤ handle.length ∧ handle.startsWith "!" ∧ handle.endsWith "!" then failure
      else return handle

/-- What stands before a node: a name given to it, and a tag. -/
structure Properties where
  /-- The number under which the node is kept. -/
  number : Option Nat
  /-- The tag. -/
  tag : Option (String × String)

/-- Whether anything stands before a node. -/
def Properties.isGiven (p : Properties) : Bool := p.number.isSome || p.tag.isSome

/-- Read a name that is given to a node. -/
def number? : Reading (Option Nat) := do
  match ← peek with
  | some (.anchor name) =>
    skip
    let n := (← get).names.length
    modify fun s => { s with names := (name, n) :: s.names }
    return some n
  | _ => return none

/-- Read a tag. -/
def tag? : Reading (Option (String × String)) := do
  match ← peek with
  | some (.tag handle suffix) =>
    skip
    return some (← lead handle suffix, suffix)
  | _ => return none

/-- Read what stands before a node: at most one name and one tag, in either order. -/
def properties : Reading Properties := do
  let tag ← tag?
  let number ← number?
  match tag, number with
  | none, some _ => return ⟨number, ← tag?⟩
  | _, _ => return ⟨number, tag⟩

/-- The value of a scalar after its properties. -/
def scalar (p : Properties) (isPlain : Bool) (text : String) : Node :=
  if !isPlain then .scalar (.string text)
  else
    match p.tag with
    | some (lead, type) => .scalar (.ofTagged lead type text)
    | none => .scalar (.ofPlain text)

/-- The node that a name stands for. -/
def named (name : String) : Reading Node := do
  match (← get).names.lookup name with
  | some n => return ((← get).nodes.lookup n).getD .bad
  | none => failure

/-- Keep a node under its number. -/
def keep (p : Properties) (node : Node) : Reading Unit :=
  match p.number with
  | some n => modify fun s => { s with nodes := (n, node) :: s.nodes }
  | none => pure ()

mutual

/-- Read a node.  In brackets there are no collections shown by indentation; the items of a sequence
that is the value of a key may stand in the column of the key.  `fuel` bounds the length of a chain
of calls. -/
def node : Nat → Bool → Bool → Reading Node
  | 0, _, _ => failure
  | fuel + 1, inBlock, mayBeLevel => do
    match ← peek with
    | some (.alias name) =>
      skip
      named name
    | _ =>
      let p ← properties
      let result ← content fuel inBlock mayBeLevel p
      keep p result
      return result

/-- Read a node after its properties. -/
def content : Nat → Bool → Bool → Properties → Reading Node
  | 0, _, _, _ => failure
  | fuel + 1, inBlock, mayBeLevel, p => do
    match ← peek with
    | some (.scalar isPlain text) =>
      skip
      return scalar p isPlain text
    | some .flowSequenceStart =>
      skip
      return .sequence (← flowItems fuel true)
    | some .flowMappingStart =>
      skip
      Node.ofParts? (← flowParts fuel true)
    | some .blockSequenceStart =>
      if inBlock then
        skip
        return .sequence (← blockItems fuel)
      else if p.isGiven then return scalar p true "" else failure
    | some .blockMappingStart =>
      if inBlock then
        skip
        Node.ofParts? (← blockParts fuel)
      else if p.isGiven then return scalar p true "" else failure
    | some .blockEntry =>
      if mayBeLevel then return .sequence (← levelItems fuel)
      else if p.isGiven then return scalar p true "" else failure
    | _ => if p.isGiven then return scalar p true "" else failure

/-- Read the items of a sequence shown by indentation. -/
def blockItems : Nat → Reading (List Node)
  | 0 => failure
  | fuel + 1 => do
    if ← accept .blockEnd then return []
    expect .blockEntry
    let item ← if ← isAt [.blockEntry, .blockEnd] then pure .null else node fuel true false
    return item :: (← blockItems fuel)

/-- Read the items of a sequence that stands in the column of its key. -/
def levelItems : Nat → Reading (List Node)
  | 0 => failure
  | fuel + 1 => do
    if !(← accept .blockEntry) then return []
    let item ← if ← isAt [.blockEntry, .key, .value, .blockEnd] then pure .null
      else node fuel true false
    return item :: (← levelItems fuel)

/-- Read the keys and values of a mapping shown by indentation. -/
def blockParts : Nat → Reading (List Node)
  | 0 => failure
  | fuel + 1 => do
    if ← accept .blockEnd then return []
    let key ← if ← accept .key then blockPart fuel
      else if ← isAt [.value] then pure .null
      else failure
    let value ← if ← accept .value then blockPart fuel else pure .null
    return key :: value :: (← blockParts fuel)

/-- Read a key or a value of a mapping shown by indentation. -/
def blockPart : Nat → Reading Node
  | 0 => failure
  | fuel + 1 => do
    if ← isAt [.key, .value, .blockEnd] then return .null else node fuel true true

/-- Read the items of a sequence in brackets.  A key makes a mapping of its own. -/
def flowItems : Nat → Bool → Reading (List Node)
  | 0, _ => failure
  | fuel + 1, isFirst => do
    if ← accept .flowSequenceEnd then return []
    if !isFirst then expect .flowEntry
    if ← accept .flowSequenceEnd then return []
    let item ← if ← accept .key then flowPair fuel
      else if ← isAt [.value] then flowPair fuel
      else node fuel false false
    return item :: (← flowItems fuel false)

/-- Read a mapping with a single entry. -/
def flowPair : Nat → Reading Node
  | 0 => failure
  | fuel + 1 => do
    let key ← flowPart fuel .flowSequenceEnd
    let value ← if ← accept .value then flowPart fuel .flowSequenceEnd else pure .null
    Node.ofParts? [key, value]

/-- Read the keys and values of a mapping in brackets. -/
def flowParts : Nat → Bool → Reading (List Node)
  | 0, _ => failure
  | fuel + 1, isFirst => do
    if ← accept .flowMappingEnd then return []
    if !isFirst then expect .flowEntry
    if ← accept .flowMappingEnd then return []
    if (← accept .key) || (← isAt [.value]) then
      let key ← flowPart fuel .flowMappingEnd
      let value ← if ← accept .value then flowPart fuel .flowMappingEnd else pure .null
      return key :: value :: (← flowParts fuel false)
    else
      let key ← node fuel false false
      return key :: .null :: (← flowParts fuel false)

/-- Read a key or a value in brackets. -/
def flowPart : Nat → Token → Reading Node
  | 0, _ => failure
  | fuel + 1, closing => do
    if ← isAt [.value, .flowEntry, closing] then return .null else node fuel false false

end

/-! ### Documents -/

/-- Read the directives before a document.  The last handle counts, and the version is given
once. -/
def directives : Nat → Bool → Reading Unit
  | 0, _ => failure
  | fuel + 1, hasVersion => do
    match ← peek with
    | some .version =>
      if hasVersion then failure
      skip
      modify fun s => { s with handles := [] }
      directives fuel true
    | some (.handle name lead) =>
      skip
      modify fun s => { s with handles := [(name, lead)] }
      directives fuel hasVersion
    | _ => return ()

/-- Move over the marks at the end of a document. -/
def skipEnds : Nat → Reading Unit
  | 0 => return ()
  | fuel + 1 => do if ← accept .documentEnd then skipEnds fuel

/-- Read a document.  The first one, and one after the end of another, need no mark at its start. -/
def document (fuel : Nat) (isImplicit : Bool) : Reading Node := do
  modify fun s => { s with names := [], nodes := [] }
  let next ← peek
  if isImplicit && !next.any fun t => t.isDirective || t == .documentStart then
    node fuel true false
  else
    directives fuel false
    expect .documentStart
    match ← peek with
    | none => return .null
    | some t =>
      if t.isDirective || t == .documentStart || t == .documentEnd then return .null
      else node fuel true false

/-- Read all documents.  Directives come after the mark at the end of the document before. -/
def documents : Nat → Bool → Reading (List Node)
  | 0, _ => failure
  | fuel + 1, isImplicit => do
    skipEnds fuel
    if (← peek).isNone then return []
    let first ← document fuel isImplicit
    let isEnded ← accept .documentEnd
    modify fun s => { s with handles := [] }
    if !isEnded && (← peek).any (·.isDirective) then failure
    return first :: (← documents fuel isEnded)

end Reading

/-- The nodes of all documents.  A chain of calls takes a token in every four calls. -/
def Node.ofTokens? (tokens : List Token) : Option (List Node) :=
  (Reading.documents (4 * tokens.length + 8) true ⟨tokens, [], [], []⟩).map Prod.fst

end Yaml

end ExtensionHost
