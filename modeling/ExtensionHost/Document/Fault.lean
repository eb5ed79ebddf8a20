/-!
# Faults of documents

Why settings are not read from a document.  Malformed documents are reported to the caller; the
other faults stop the program.

## Main definitions

* `DocumentFault` and `DocumentFault.isCrash`.
-/

namespace ExtensionHost

/-- Why settings are not read from a document. -/
inductive DocumentFault where
  /-- The text does not have its format, or holds something other than settings. -/
  | malformed
  /-- A table has a key that is neither a text nor an integer. -/
  | unkeyable
  /-- A key leads to an item that no array can have. -/
  | unreachable
  deriving DecidableEq, Repr

/-- Whether a fault stops the program. -/
def DocumentFault.isCrash : DocumentFault → Bool
  | .malformed => false
  | .unkeyable | .unreachable => true

end ExtensionHost
