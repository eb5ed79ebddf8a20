import ExtensionHost.Bytes
import ExtensionHost.Files
import ExtensionHost.Guest.WellFormed
import ExtensionHost.Package.Url

/-!
# Packages

A package has a name, the location of its module, and the names of the extensions that it declares.
What lies at the location is a `ModuleImage`: bytes, or a program of the guest language.

## Main definitions

* `Package`, `Package.withExtension` and `Package.withExtensions`;
* `Package.read`, which reads what lies at a package's location;
* `ModuleImage` and `ModuleImage.compile`.
-/

namespace ExtensionHost

open Guest

/-- A package. -/
structure Package where
  /-- The name that its extensions are invoked under. -/
  qualifiedName : String
  /-- The location of its module. -/
  moduleUrl : Url
  /-- The extensions that it declares. -/
  extensionNames : List String
  deriving DecidableEq, Repr

namespace Package

/-- A package that declares no extension yet. -/
def new (qualifiedName : String) (moduleUrl : Url) : Package := ⟨qualifiedName, moduleUrl, []⟩

/-- Declare an extension, unless it is declared already. -/
def withExtension (p : Package) (name : String) : Package :=
  if p.extensionNames.contains name then p
  else { p with extensionNames := p.extensionNames ++ [name] }

/-- Declare extensions one after the other. -/
def withExtensions (p : Package) (names : List String) : Package := names.foldl withExtension p

/-- Read what lies at the location of a package, which must be a local file. -/
def read {α : Type} (p : Package) (tree : FileTree α) : Except ExtensionError α :=
  match p.moduleUrl.filePath? with
  | none => .error (.unsupportedUrl p.moduleUrl.text)
  | some path =>
    match String.fromUTF8? path with
    | none => .error (.io .notFound)
    | some path => (tree.read path).mapError .io

end Package

/-- The content of a module's file. -/
inductive ModuleImage where
  /-- Bytes in the format of binary modules. -/
  | bytes (content : ByteArray)
  /-- A program. -/
  | program (p : Program)

namespace ModuleImage

/-- The binary form of the module that consists of nothing: a magic number and a version. -/
def emptyModule : ByteArray := ⟨#[0x00, 0x61, 0x73, 0x6D, 0x01, 0x00, 0x00, 0x00]⟩

/-- The program of a module of a given name, checked.  Of modules in binary form only the empty one
is known. -/
def compile (name : String) : ModuleImage → Except ExtensionError Program
  | .bytes content =>
    if content = emptyModule then .ok .empty
    else .error (.compilation s!"{name}: not a module")
  | .program p =>
    match p.check with
    | .ok () => .ok p
    | .error defect => .error (.compilation s!"{name}: {defect.message}")

end ModuleImage

end ExtensionHost
