import ExtensionHost.Guest.Syntax

/-!
# The standard guest

A program that provides every export the host requires, on which other guests build.  Its allocator
hands out memory from a top that only rises, in multiples of eight bytes.  It keeps its state in the
first bytes of memory: the top at address 0, and from address 8 on, eight bytes each, the number of
bytes in use, of allocations and of frees.

## Main definitions

* `standard`, the program;
* `Program.putFunction` and `Program.removeFunction`, the ways to build on it.
-/

namespace ExtensionHost

namespace Guest

namespace Standard

/-- The address of the top of the heap. -/
def topAddress : Expression := .const 0

/-- The address of the number of bytes in use. -/
def inUseAddress : Expression := .const 8

/-- The address of the number of allocations. -/
def mallocsAddress : Expression := .const 16

/-- The address of the number of frees. -/
def freesAddress : Expression := .const 24

/-- The size of memory in bytes. -/
def memoryBytes : Expression := .binary .mul .pages (.const 65536)

/-- Add to the counter at an address. -/
def count (address amount : Expression) : Statement :=
  .store .double address (.binary .add (.load .double address) amount)

/-- A function exported under its own name. -/
def exported (name : String) (params results : List NumberType) (body : List Statement) :
    Function :=
  ⟨name, ⟨params, results⟩, some name, body⟩

/-- The allocator.  Register 0 holds the address to hand out, register 1 the new top, register 2 the
size of memory and register 3 the answer to a request for more pages. -/
def malloc : Function :=
  exported "malloc" [.i32] [.i32] [
    .assign 0 (.load .word topAddress),
    .assign 1 (.binary .bitAnd (.binary .add (.binary .add (.register 0) (.param 0)) (.const 7))
      (.const 0xFFFFFFFFFFFFFFF8)),
    .assign 2 memoryBytes,
    .branch (.binary .greater (.register 1) (.register 2)) [
      .growMemory (.binary .shiftRight
        (.binary .add (.binary .sub (.register 1) (.register 2)) (.const 65535))
        (.const 16)) (some 3),
      .branch (.binary .equal (.register 3) (.const 0xFFFFFFFF)) [.unreachable] []] [],
    .store .word topAddress (.register 1),
    count inUseAddress (.param 0),
    count mallocsAddress (.const 1),
    .leave [.register 0]]

/-- The functions. -/
def functions : List Function := [
  malloc,
  exported "free" [.i32] [] [count freesAddress (.const 1)],
  exported "abi_version_0_1" [] [] [],
  exported "heap_in_use" [] [.i64] [.leave [.load .double inUseAddress]],
  exported "heap_sys" [] [.i64] [.leave [memoryBytes]],
  exported "heap_mallocs" [] [.i64] [.leave [.load .double mallocsAddress]],
  exported "heap_frees" [] [.i64] [.leave [.load .double freesAddress]],
  exported "heap_gc" [] [] [],
  exported "on_read_value" [.i64, .i64] [] []]

end Standard

/-- The standard guest: a page of memory, in which the heap starts at address 1024. -/
def standard : Program where
  functions := Standard.functions
  data := [⟨0, ⟨#[0, 4, 0, 0]⟩⟩]
  memory := some ⟨1, none, some "memory"⟩
  globals := []
  table := none
  imports := []
  start := none

namespace Program

/-- Remove the function of a name. -/
def removeFunction (p : Program) (name : String) : Program :=
  { p with functions := p.functions.filter (·.name != name) }

/-- Add a function in place of any one of the same name. -/
def putFunction (p : Program) (f : Function) : Program :=
  { p with functions := (p.removeFunction f.name).functions ++ [f] }

end Program

end Guest

end ExtensionHost
