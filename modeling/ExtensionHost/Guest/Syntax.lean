/-!
# Guest programs

A guest is a small program in a structured language over 64-bit words.  Every function has twelve
registers, which start at zero, and parameters; the program has one linear memory, globals, and at
most one table.  At its boundary the language is typed: a parameter, a result or a global has one of
four number types, and a word is narrowed to the type wherever it crosses.

What is deliberately absent: the elements of a table.  A program says how large its table is, and no
statement reads an element, writes one or calls through one; so there are no segments of elements.

## Main definitions

* `NumberType`, `NumberType.narrow` and `Signature`;
* `Expression` and `Statement`, the language of function bodies;
* `Function`, `MemoryLimits`, `DataSegment`, `Global`, `TableLimits`, `ImportDecl` and `Program`.
-/

namespace ExtensionHost

namespace Guest

/-- The types of numbers at the boundary of a function. -/
inductive NumberType where
  | i32
  | i64
  | f32
  | f64
  deriving DecidableEq, Repr

namespace NumberType

/-- Whether values of the type have 32 bits. -/
def isShort : NumberType → Bool
  | .i32 | .f32 => true
  | .i64 | .f64 => false

/-- Cut a word to the bits of a type. -/
def narrow (t : NumberType) (w : UInt64) : UInt64 :=
  if t.isShort then w &&& 0xFFFFFFFF else w

/-- The name of a type. -/
def text : NumberType → String
  | .i32 => "i32"
  | .i64 => "i64"
  | .f32 => "f32"
  | .f64 => "f64"

end NumberType

/-- The type of a function. -/
structure Signature where
  /-- The types of the parameters. -/
  params : List NumberType
  /-- The types of the results. -/
  results : List NumberType
  deriving DecidableEq, Repr

/-- The text of a signature. -/
def Signature.text (s : Signature) : String :=
  let list := fun types => ", ".intercalate (types.map NumberType.text)
  s!"({list s.params}) -> ({list s.results})"

/-- Cut words to the types they cross a boundary with.  Missing words are zero. -/
def narrowAll : List NumberType → List UInt64 → List UInt64
  | [], _ => []
  | t :: types, words => t.narrow (words.headD 0) :: narrowAll types words.tail

/-- The number of registers of a function. -/
abbrev registerCount : Nat := 12

/-- A register. -/
abbrev Register := Fin registerCount

/-- The number of bytes that a load or a store touches. -/
inductive Width where
  | byte
  | word
  | double
  deriving DecidableEq, Repr

/-- The number of bytes of a width. -/
def Width.bytes : Width → Nat
  | .byte => 1
  | .word => 4
  | .double => 8

/-- Operators on two words. -/
inductive BinaryOp where
  | add
  | sub
  | mul
  | bitAnd
  | bitOr
  | bitXor
  | shiftLeft
  | shiftRight
  | divide
  | divideSigned
  | equal
  | unequal
  | less
  | greater
  deriving DecidableEq, Repr

/-- An expression yields a word. -/
inductive Expression where
  /-- A constant. -/
  | const (w : UInt64)
  /-- The content of a register. -/
  | register (r : Register)
  /-- A parameter, by position. -/
  | param (index : Nat)
  /-- The content of a global. -/
  | global (name : String)
  /-- The bytes at an address, the lowest one first. -/
  | load (width : Width) (address : Expression)
  /-- The size of the memory in pages. -/
  | pages
  /-- The upper half of a word. -/
  | high (e : Expression)
  /-- The lower half of a word. -/
  | low (e : Expression)
  /-- An operator applied to two words, the first of which is computed first. -/
  | binary (op : BinaryOp) (left right : Expression)
  deriving DecidableEq, Repr

/-- A statement changes the state of a running function. -/
inductive Statement where
  /-- Set a register. -/
  | assign (target : Register) (value : Expression)
  /-- Set a global. -/
  | assignGlobal (name : String) (value : Expression)
  /-- Write the lowest bytes of a word at an address, which is computed first. -/
  | store (width : Width) (address value : Expression)
  /-- Copy a range of memory. -/
  | copyMemory (target source length : Expression)
  /-- Write one byte throughout a range of memory. -/
  | fillMemory (target value length : Expression)
  /-- Ask for more pages of memory; the answer is the old size, or a failure value. -/
  | growMemory (extra : Expression) (answer : Option Register)
  /-- Ask for more elements of the table; the answer is the old size, or a failure value. -/
  | growTable (extra : Expression) (answer : Option Register)
  /-- Trap. -/
  | unreachable
  /-- Run for ever. -/
  | spin
  /-- Run one of two blocks, the first one if the condition is not zero. -/
  | branch (condition : Expression) (onTrue onFalse : List Statement)
  /-- Run a block a number of times, which is computed once. -/
  | iterate (count : Expression) (body : List Statement)
  /-- Leave the function with results. -/
  | leave (results : List Expression)
  /-- Call a function of the program or of the host; results go to registers or are dropped. -/
  | call (callee : String) (args : List Expression) (answers : List (Option Register))

/-- A function of a program. -/
structure Function where
  /-- The name that calls use. -/
  name : String
  /-- The type. -/
  signature : Signature
  /-- The name of its export, if it is exported. -/
  exportName : Option String
  /-- The body; a body that runs to its end yields zeros. -/
  body : List Statement

/-- The memory of a program. -/
structure MemoryLimits where
  /-- The number of pages at the start. -/
  minimum : Nat
  /-- The greatest number of pages. -/
  maximum : Option Nat
  /-- The name of its export, if it is exported. -/
  exportName : Option String
  deriving DecidableEq, Repr

/-- Bytes that are written to memory at instantiation. -/
structure DataSegment where
  /-- The position of the first byte. -/
  offset : Nat
  /-- The bytes. -/
  bytes : ByteArray

/-- The types of globals: a number, or a reference to a function, which programs cannot use. -/
inductive GlobalType where
  | number (type : NumberType)
  | reference
  deriving DecidableEq, Repr

/-- A global of a program. -/
structure Global where
  /-- The name that the program uses. -/
  name : String
  /-- The type. -/
  type : GlobalType
  /-- The content at the start. -/
  initial : UInt64
  /-- Whether the program may set it. -/
  isMutable : Bool
  /-- The name of its export, if it is exported. -/
  exportName : Option String
  deriving DecidableEq, Repr

/-- The table of a program. -/
structure TableLimits where
  /-- The number of elements at the start. -/
  minimum : Nat
  /-- The greatest number of elements. -/
  maximum : Option Nat
  deriving DecidableEq, Repr

/-- A function that a program imports. -/
structure ImportDecl where
  /-- The module it is imported from. -/
  module : String
  /-- Its name there. -/
  name : String
  /-- The type it is imported with. -/
  signature : Signature
  deriving DecidableEq, Repr

/-- A guest program. -/
structure Program where
  /-- Its functions. -/
  functions : List Function
  /-- Its data, in the order in which it is written. -/
  data : List DataSegment
  /-- Its memory, if it has one. -/
  memory : Option MemoryLimits
  /-- Its globals. -/
  globals : List Global
  /-- Its table, if it has one. -/
  table : Option TableLimits
  /-- Imports beyond the host functions that it calls. -/
  imports : List ImportDecl
  /-- The function that runs at the end of instantiation. -/
  start : Option String

namespace Program

/-- The program that consists of nothing. -/
def empty : Program := ⟨[], [], none, [], none, [], none⟩

instance : Inhabited Program := ⟨empty⟩

/-- The function of a name. -/
def function? (p : Program) (name : String) : Option Function :=
  p.functions.find? (·.name == name)

/-- The function that is exported under a name. -/
def exportedFunction? (p : Program) (name : String) : Option Function :=
  p.functions.find? (·.exportName == some name)

/-- The global of a name. -/
def global? (p : Program) (name : String) : Option Global :=
  p.globals.find? (·.name == name)

/-- The global that is exported under a name. -/
def exportedGlobal? (p : Program) (name : String) : Option Global :=
  p.globals.find? (·.exportName == some name)

/-- Whether the memory is exported under a name. -/
def exportsMemory (p : Program) (name : String) : Bool :=
  p.memory.any (·.exportName == some name)

/-- The names of all exports. -/
def exportNames (p : Program) : List String :=
  p.functions.filterMap (·.exportName) ++ p.memory.toList.filterMap (·.exportName) ++
    p.globals.filterMap (·.exportName)

/-- The exports, by ascending name. -/
def sortedExportNames (p : Program) : List String :=
  p.exportNames.mergeSort (fun a b => decide (a ≤ b))

end Program

end Guest

end ExtensionHost
