import ExtensionHost.Config.Environment
import ExtensionHost.Config.Setting
import ExtensionHost.Document.Format
import ExtensionHost.Files

/-!
# Layered settings

Settings are read from a document and then from the environment.  What is read later is put over
what was read before, key by key, and what neither gives has its default.

## Main definitions

* `Layer` and `Layer.apply`;
* `EngineConfig.ofTextIn`, settings of a text in an environment, and `EngineConfig.ofText`, settings
  of a text alone;
* `EngineConfig.ofFile`, settings of a file in an environment.
-/

namespace ExtensionHost

/-- Keys with their values, in the order in which they are put over what was read before. -/
abbrev Layer := List (String × Document)

/-- Put a layer over a document. -/
def Layer.apply (layer : Layer) (d : Document) : Except DocumentFault Document :=
  layer.foldlM (fun d (key, value) =>
    match Document.put? (Step.path key) value d with
    | some d => .ok d
    | none => .error .unreachable) d

/-- Why no settings are loaded. -/
inductive LoadFault where
  /-- An error for the caller. -/
  | error (e : ExtensionError)
  /-- A fault that stops the program. -/
  | crash (cause : DocumentFault)
  deriving DecidableEq, Repr

namespace LoadFault

/-- The report of a fault of a document. -/
def ofDocument (fault : DocumentFault) : LoadFault :=
  if fault.isCrash then .crash fault else .error (.config (.reported "malformed document"))

/-- The report of a setting that has an impossible value. -/
def badSetting : LoadFault := .error (.config (.reported "malformed setting"))

end LoadFault

namespace FilePath

/-- The last step of a path, unless it leads up. -/
def fileName? (path : String) : Option (List Char) :=
  let steps := (path.toList.splitOn '/').filter fun step => step != [] && step != ['.']
  steps.getLast?.filter (· != ['.', '.'])

/-- What stands after the last point of a file's name, if something stands before that point. -/
def extension? (path : String) : Option String := do
  let name ← fileName? path
  let extension := (name.reverse.takeWhile (· != '.')).reverse
  if extension.length + 1 < name.length then some (String.ofList extension) else none

end FilePath

namespace DocumentFormat

/-- The format of a file, told by its name. -/
def ofPath (path : String) : Except ExtensionError DocumentFormat :=
  match FilePath.extension? path with
  | none => .error (.config (.stated "no file extension found"))
  | some extension =>
    match ofExtension? (Lower.text extension) with
    | some format => .ok format
    | none => .error (.config (.stated s!"unsupported config format: {Lower.text extension}"))

/-- The text of a file in a format.  If there is no file of this name, it may have one of the
format's extensions besides. -/
def text? (format : DocumentFormat) (tree : FileTree String) (path : String) : Option String :=
  let paths := path :: format.extensions.map fun extension => s!"{path}.{extension}"
  (paths.findSome? tree.file?).map fun content => String.ofList (ByteOrderMark.drop content.toList)

end DocumentFormat

namespace EngineConfig

/-- The settings that layers give when they are put over each other. -/
def ofLayers (layers : List Layer) : Except LoadFault EngineConfig :=
  match layers.foldlM (fun d layer => layer.apply d) (.table []) with
  | .error fault => .error (.ofDocument fault)
  | .ok d =>
    match ofDocument? d with
    | some c => .ok c
    | none => .error .badSetting

/-- The settings of a text over which those of an environment are put. -/
def ofTextIn (environment : Environment) (format : DocumentFormat) (text : String) :
    Except LoadFault EngineConfig :=
  match Document.ofText format text with
  | .ok d => ofLayers [d.entries, environment.overrides]
  | .error fault => .error (.ofDocument fault)

/-- The settings of a text. -/
def ofText (format : DocumentFormat) (text : String) : Except LoadFault EngineConfig :=
  match Document.ofText format text with
  | .ok d => ofLayers [d.entries]
  | .error fault => .error (.ofDocument fault)

/-- The settings of a file over which those of an environment are put. -/
def ofFile (environment : Environment) (tree : FileTree String) (path : String) :
    Except LoadFault EngineConfig :=
  match DocumentFormat.ofPath path with
  | .error e => .error (.error e)
  | .ok format =>
    match format.text? tree path with
    | some text => ofTextIn environment format text
    | none => .error (.error (.config (.reported "no such file")))

end EngineConfig

end ExtensionHost
