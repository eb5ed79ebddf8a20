import ExtensionHost.Error

/-!
# Files

A file system as far as it is read from: files with their contents, and directories.

## Main definitions

* `FileTree` and `FileTree.read`.
-/

namespace ExtensionHost

/-- Files and directories, by absolute path. -/
structure FileTree (α : Type) where
  /-- The files with their contents. -/
  files : List (String × α)
  /-- Directories beyond those that hold the files. -/
  directories : List String

namespace FileTree

variable {α : Type}

/-- The steps of a path; empty steps and steps to the same place do not count, and a step up undoes
the one before. -/
def steps (path : String) : List String :=
  let walk := fun (done : List String) (step : List Char) =>
    match step with
    | [] | ['.'] => done
    | ['.', '.'] => done.tail
    | step => String.ofList step :: done
  ((path.toList.splitOn '/').foldl walk []).reverse

/-- The content of the file of a path, if there is one. -/
def file? (tree : FileTree α) (path : String) : Option α :=
  (tree.files.find? fun (name, _) => steps name == steps path).map Prod.snd

/-- Whether a path names a directory: one that is listed, or one on the way to a file. -/
def isDirectory (tree : FileTree α) (path : String) : Bool :=
  tree.directories.any (fun name => steps name == steps path) ||
    tree.files.any fun (name, _) => (steps path).isPrefixOf (steps name) && steps path != steps name

/-- Read the file of a path. -/
def read (tree : FileTree α) (path : String) : Except FileError α :=
  match tree.file? path with
  | some content => .ok content
  | none => .error (if tree.isDirectory path then .isDirectory else .notFound)

end FileTree

end ExtensionHost
