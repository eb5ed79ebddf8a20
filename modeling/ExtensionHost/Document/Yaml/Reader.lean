import ExtensionHost.Document.Fault
import ExtensionHost.Document.Value
import ExtensionHost.Document.Yaml.Layout
import ExtensionHost.Document.Yaml.Node

/-!
# Reading YAML

A text holds at most one document; without one it is an empty table.  The keys of tables are texts;
an integer as a key is written out.

## Main definitions

* `Document.ofYaml`.
-/

namespace ExtensionHost

namespace Yaml

/-- The value of a scalar.  There are no numbers for the words for infinity and for no number. -/
def Scalar.document : Scalar → Except DocumentFault Document
  | .null => .ok .null
  | .bool b => .ok (.bool b)
  | .integer n => .ok (.integer n)
  | .decimal text =>
    match Numeral.decimal? text with
    | some x => .ok (.decimal x)
    | none => .error .malformed
  | .string s => .ok (.string s)
  | .bad => .ok .null

namespace Node

/-- The name that a node is as a key. -/
def keyName : Node → Except DocumentFault String
  | .scalar (.string s) => .ok s
  | .scalar (.integer n) => .ok (toString n)
  | _ => .error .unkeyable

mutual

/-- The value of a node.  Of keys with one name, the last one counts. -/
def document : Node → Except DocumentFault Document
  | .scalar s => s.document
  | .sequence items => return .array (← documents items)
  | .mapping entries => documentOf entries (.table [])

/-- The values of the items of a sequence. -/
def documents : List Node → Except DocumentFault (List Document)
  | [] => return []
  | item :: rest => do
    let d ← document item
    return d :: (← documents rest)

/-- The entries of a mapping, added to a table. -/
def documentOf : List (Node × Node) → Document → Except DocumentFault Document
  | [], table => return table
  | entry :: rest, table => do documentOf rest (← entryOf entry table)

/-- An entry of a mapping, added to a table. -/
def entryOf : Node × Node → Document → Except DocumentFault Document
  | (key, value), table => do
    let name ← keyName key
    return table.withField name (← document value)

end

end Node

end Yaml

/-- The document of a text in YAML. -/
def Document.ofYaml (text : String) : Except DocumentFault Document :=
  match (Yaml.Token.ofText? text.toList).bind Yaml.Node.ofTokens? with
  | some [] => .ok (.table [])
  | some [node] => node.document
  | some (_ :: _ :: _) => .error .malformed
  | none => .error .malformed

end ExtensionHost
