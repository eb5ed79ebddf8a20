/-!
# Names of the boundary

The exports that every guest must provide, the module that the host functions are imported from,
and the names that no extension may have.

## Main definitions

* `Abi.hostModule`, `Abi.infrastructureExports` and `Abi.memoryPrimitives`;
* `Abi.isReserved`.
-/

namespace ExtensionHost

namespace Abi

/-- The module that guests import the host functions from. -/
def hostModule : String := "env"

/-- The export of the linear memory. -/
def memoryExport : String := "memory"

/-- The export that allocates guest memory. -/
def mallocExport : String := "malloc"

/-- The export that frees guest memory. -/
def freeExport : String := "free"

/-- The probe of the boundary's version; a guest made for another version fails in it. -/
def versionExport : String := "abi_version_0_1"

/-- The export that counts the bytes allocated. -/
def heapInUseExport : String := "heap_in_use"

/-- The export that counts the bytes obtained from the host. -/
def heapSysExport : String := "heap_sys"

/-- The export that counts allocations. -/
def heapMallocsExport : String := "heap_mallocs"

/-- The export that counts frees. -/
def heapFreesExport : String := "heap_frees"

/-- The export that collects garbage. -/
def heapGcExport : String := "heap_gc"

/-- The export that receives the rows of an iteration. -/
def onReadValueExport : String := "on_read_value"

/-- The exports that every guest must provide, in the order in which they are resolved. -/
def infrastructureExports : List String :=
  [memoryExport, mallocExport, freeExport, versionExport, heapInUseExport, heapSysExport,
    heapMallocsExport, heapFreesExport, heapGcExport, onReadValueExport]

/-- Exports of memory management that guests commonly bring along. -/
def memoryPrimitives : List String := ["calloc", "realloc", "_start", "_initialize"]

/-- Whether a name may not be the name of an extension. -/
def isReserved (name : String) : Bool :=
  infrastructureExports.contains name || memoryPrimitives.contains name

end Abi

end ExtensionHost
