/-!
# Byte arrays

Equality of byte arrays, decided by their bytes.
-/

namespace ExtensionHost

instance decidableEqByteArray : DecidableEq ByteArray := fun a b =>
  decidable_of_iff (a.data = b.data) ⟨ByteArray.ext, congrArg ByteArray.data⟩

end ExtensionHost
