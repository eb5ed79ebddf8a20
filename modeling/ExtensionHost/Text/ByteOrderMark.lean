/-!
# Byte order marks

A file may start with a mark that shows the order of its bytes.  It is not part of the text.

## Main definitions

* `ByteOrderMark.drop`.
-/

namespace ExtensionHost

namespace ByteOrderMark

/-- A text without the mark at its start. -/
def drop : List Char → List Char
  | '\uFEFF' :: rest => rest
  | text => text

end ByteOrderMark

end ExtensionHost
