/-!
# The parts of a YAML text

A YAML text is a sequence of scalars, of marks around and inside collections, of names for nodes,
and of marks between documents.  The marks of collections that are shown by indentation only are
explicit here.

## Main definitions

* `Yaml.Token`.
-/

namespace ExtensionHost

namespace Yaml

/-- A part of a YAML text. -/
inductive Token where
  /-- A line that says for which version of the format a document is written. -/
  | version
  /-- A line that gives a handle for tags. -/
  | handle (name lead : String)
  | documentStart
  | documentEnd
  | blockSequenceStart
  | blockMappingStart
  /-- The end of a sequence or a mapping shown by indentation. -/
  | blockEnd
  | flowSequenceStart
  | flowSequenceEnd
  | flowMappingStart
  | flowMappingEnd
  /-- The dash before an item. -/
  | blockEntry
  /-- The comma between items. -/
  | flowEntry
  /-- The start of a key. -/
  | key
  /-- The colon before a value. -/
  | value
  | alias (name : String)
  | anchor (name : String)
  | tag (handle suffix : String)
  | scalar (isPlain : Bool) (text : String)
  deriving DecidableEq, Repr

namespace Token

/-- Whether a token stands before a document. -/
def isDirective : Token → Bool
  | .version | .handle _ _ => true
  | _ => false

end Token

end Yaml

end ExtensionHost
