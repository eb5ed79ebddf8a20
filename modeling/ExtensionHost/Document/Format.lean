import ExtensionHost.Document.Toml.Reader
import ExtensionHost.Document.Yaml.Reader
import ExtensionHost.Json.Reader

/-!
# Formats of documents

The formats in which settings are written, and how a format is told by the name of a file.

## Main definitions

* `DocumentFormat`, with `DocumentFormat.ofExtension?` and `DocumentFormat.extensions`;
* `Document.ofText`, which reads a table in a format.
-/

namespace ExtensionHost

/-- A format of documents. -/
inductive DocumentFormat where
  | json
  | toml
  | yaml
  deriving DecidableEq, Repr

namespace DocumentFormat

/-- All formats. -/
def all : List DocumentFormat := [.json, .toml, .yaml]

/-- The extensions of the names of files in a format. -/
def extensions : DocumentFormat → List String
  | .json => ["json"]
  | .toml => ["toml"]
  | .yaml => ["yaml", "yml"]

/-- The format of an extension in lower case. -/
def ofExtension? (extension : String) : Option DocumentFormat :=
  all.find? (·.extensions.contains extension)

end DocumentFormat

namespace Document

/-- The value of a text in a format. -/
def ofAnyText (format : DocumentFormat) (text : String) : Except DocumentFault Document :=
  match format with
  | .json =>
    match Json.parse? text with
    | some j => .ok (ofJson j)
    | none => .error .malformed
  | .toml =>
    match ofToml? text with
    | some d => .ok d
    | none => .error .malformed
  | .yaml => ofYaml text

/-- The table of a text in a format. -/
def ofText (format : DocumentFormat) (text : String) : Except DocumentFault Document :=
  match ofAnyText format text with
  | .ok d => if d.isTable then .ok d else .error .malformed
  | .error fault => .error fault

end Document

end ExtensionHost
