import ExtensionHost.State.Error

/-!
# Errors of the extension host

One type for everything that can go wrong.  Its causes fall into three groups: those that abort the
loading of a package (`ExtensionError.isLoadError`), those raised while a guest ran, after which its
memory is rolled back (`ExtensionError.isRecoverable`), and those of a caller that asks for
something that does not exist.

## Main definitions

* `Reason`, an explanation in this library's words or in the words of a checker of modules or
  documents;
* `ExtensionError`, its wording `ExtensionError.message` and its groups.
-/

namespace ExtensionHost

/-- An explanation.  The wording of a stated one is part of this library; a reported one repeats a
finding about a module or a document, whose wording is free. -/
inductive Reason where
  | stated (text : String)
  | reported (text : String)
  deriving DecidableEq, Repr

/-- The text of an explanation. -/
def Reason.text : Reason → String
  | .stated text => text
  | .reported text => text

/-- Why a file cannot be read. -/
inductive FileError where
  /-- There is no such file. -/
  | notFound
  /-- The name is that of a directory. -/
  | isDirectory
  /-- Any other cause, in the words of whoever reads the file. -/
  | other (text : String)
  deriving DecidableEq, Repr

/-- The wording of a file error. -/
def FileError.message : FileError → String
  | .notFound => "No such file or directory (os error 2)"
  | .isDirectory => "Is a directory (os error 21)"
  | .other text => text

/-- Everything that can go wrong. -/
inductive ExtensionError where
  /-- A required export is absent. -/
  | missingExport (name : String)
  /-- An export has another type than the one required. -/
  | exportSignature (name reason : String)
  /-- The probe of the boundary's version failed. -/
  | unsupportedAbiVersion (detail : String)
  /-- An extension has an empty or a reserved name. -/
  | incorrectExtensionName (name : String)
  /-- The memory limit leaves too little room beside the first staging buffer. -/
  | memoryLimitTooLow (pages minPages bufferSize : UInt32)
  /-- The memory limit is above the highest one. -/
  | memoryLimitTooHigh (pages maxPages : UInt32)
  /-- A package is requested twice. -/
  | packageAlreadyLoaded (name : String)
  /-- A package does not lie in a local file. -/
  | unsupportedUrl (url : String)
  /-- A module is malformed. -/
  | compilation (detail : String)
  /-- A module cannot be instantiated. -/
  | instantiation (reason : Reason)
  /-- A file cannot be read. -/
  | io (cause : FileError)
  /-- A configuration is unusable. -/
  | config (reason : Reason)
  /-- The guest trapped. -/
  | trap (detail : String)
  /-- The guest gave up with a message. -/
  | guestPanic (message : String)
  /-- The deadline passed. -/
  | deadlineExceeded
  /-- The guest failed after it was refused memory. -/
  | outOfMemory (detail : String)
  /-- The guest passed a slice that is not within its memory. -/
  | unableToReadMemory (offset size : UInt32)
  /-- A payload cannot be placed into the guest's memory. -/
  | unableToWriteMemory (offset size : UInt32)
  /-- The guest passed a tag that marks no row writer. -/
  | invalidRowWriter (kind : UInt32)
  /-- The adapter refused a request. -/
  | state (cause : StateError)
  /-- No such package is loaded. -/
  | undefinedPackage (name : String)
  /-- The package declares no such extension. -/
  | invalidExtensionName (name : String)
  /-- A host function was called at a time at which it cannot work. -/
  | internal (detail : String)
  deriving DecidableEq, Repr

namespace ExtensionError

/-- The wording of an error. -/
def message : ExtensionError → String
  | .missingExport name => s!"missing exported function: {name}"
  | .exportSignature name reason => s!"invalid export signature for {name}: {reason}"
  | .unsupportedAbiVersion detail => s!"unsupported ABI version: {detail}"
  | .incorrectExtensionName name => s!"incorrect extension name: {name}"
  | .memoryLimitTooLow pages minPages bufferSize =>
    s!"minimum memory limit is {minPages.toNat} pages for a {bufferSize.toNat} byte " ++
      s!"preallocated buffer, got {pages.toNat}"
  | .memoryLimitTooHigh pages maxPages =>
    s!"memory limit {pages.toNat} exceeds maximum of {maxPages.toNat} pages"
  | .packageAlreadyLoaded name => s!"package already loaded: {name}"
  | .unsupportedUrl url => s!"unsupported URL: {url}"
  | .compilation detail => s!"failed to compile extension module: {detail}"
  | .instantiation reason => s!"failed to instantiate extension module: {reason.text}"
  | .io cause => s!"IO error: {cause.message}"
  | .config reason => s!"configuration error: {reason.text}"
  | .trap detail => s!"guest trap: {detail}"
  | .guestPanic text => s!"guest panic: {text}"
  | .deadlineExceeded => "deadline exceeded"
  | .outOfMemory detail => s!"out of memory: {detail}"
  | .unableToReadMemory offset size =>
    s!"unable to read memory: offset={offset.toNat}, size={size.toNat}"
  | .unableToWriteMemory offset size =>
    s!"unable to write memory: offset={offset.toNat}, size={size.toNat}"
  | .invalidRowWriter kind => s!"invalid row writer kind {kind.toNat}"
  | .state cause => s!"state error: {cause.message}"
  | .undefinedPackage name => s!"undefined package: {name}"
  | .invalidExtensionName name => s!"invalid extension name: {name}"
  | .internal detail => s!"internal error: {detail}"

/-- Whether the error was raised while a guest ran, which leaves the guest's memory in an unknown
state. -/
def isRecoverable : ExtensionError → Bool
  | .trap _ | .guestPanic _ | .deadlineExceeded | .outOfMemory _ | .unableToReadMemory _ _
  | .unableToWriteMemory _ _ | .invalidRowWriter _ | .state _ => true
  | _ => false

/-- Whether the error aborts the loading of a package. -/
def isLoadError : ExtensionError → Bool
  | .missingExport _ | .exportSignature _ _ | .unsupportedAbiVersion _
  | .incorrectExtensionName _ | .memoryLimitTooLow _ _ _ | .memoryLimitTooHigh _ _
  | .packageAlreadyLoaded _ | .unsupportedUrl _ | .compilation _ | .instantiation _ | .io _
  | .config _ => true
  | _ => false

/-- The wording of an error together with the wording of its cause. -/
def chain (e : ExtensionError) : String :=
  match e with
  | .state cause => s!"{e.message}: {cause.message}"
  | _ => e.message

end ExtensionError

end ExtensionHost
