import ExtensionHost.Guest.Machine

/-!
# Evaluation of expressions

An expression yields a word or traps.  It reads the registers and parameters of its function and the
memory and globals of the guest, and changes nothing.  All arithmetic is modulo `2 ^ 64`.

## Main definitions

* `Frame`, the registers and parameters of a running function;
* `BinaryOp.apply` and `Expression.eval`.
-/

namespace ExtensionHost

namespace Guest

/-- What belongs to one call of a function. -/
structure Frame where
  /-- The registers. -/
  registers : Vector UInt64 registerCount
  /-- The parameters. -/
  params : List UInt64

namespace Frame

/-- The frame at the entry of a function. -/
def enter (params : List UInt64) : Frame := ⟨.replicate registerCount 0, params⟩

/-- Set a register. -/
def set (f : Frame) (r : Register) (w : UInt64) : Frame :=
  { f with registers := f.registers.set r w }

/-- Set a register if one is named. -/
def set? (f : Frame) (r : Option Register) (w : UInt64) : Frame :=
  match r with
  | some r => f.set r w
  | none => f

/-- Put the results of a call into registers. -/
def setAll (f : Frame) : List (Option Register) → List UInt64 → Frame
  | r :: rest, w :: words => (f.set? r w).setAll rest words
  | _, _ => f

end Frame

/-- The word that stands for a truth value. -/
def wordOfBool (b : Bool) : UInt64 := if b then 1 else 0

/-- The value of an operator.  Shifts take their amount modulo 64; a quotient of words taken as
signed numbers can overflow in one case. -/
def BinaryOp.apply (op : BinaryOp) (v w : UInt64) : Except TrapCause UInt64 :=
  match op with
  | .add => .ok (v + w)
  | .sub => .ok (v - w)
  | .mul => .ok (v * w)
  | .bitAnd => .ok (v &&& w)
  | .bitOr => .ok (v ||| w)
  | .bitXor => .ok (v ^^^ w)
  | .shiftLeft => .ok (v <<< w)
  | .shiftRight => .ok (v >>> w)
  | .divide => if w = 0 then .error .divideByZero else .ok (v / w)
  | .divideSigned =>
    if w = 0 then .error .divideByZero
    else if v = 0x8000000000000000 ∧ w = 0xFFFFFFFFFFFFFFFF then .error .integerOverflow
    else .ok (v.toInt64 / w.toInt64).toUInt64
  | .equal => .ok (wordOfBool (v == w))
  | .unequal => .ok (wordOfBool (v != w))
  | .less => .ok (wordOfBool (v < w))
  | .greater => .ok (wordOfBool (w < v))

/-- The value of an expression.  A global or parameter that does not exist reads as zero; in a
well-formed program there is none. -/
def Expression.eval (frame : Frame) (guest : GuestState) : Expression → Except TrapCause UInt64
  | .const w => .ok w
  | .register r => .ok (frame.registers.get r)
  | .param index => .ok (frame.params.getD index 0)
  | .global name => .ok ((guest.globals.find? name).getD 0)
  | .load width address => do
    let address := (← address.eval frame guest).toUInt32.toNat
    if address + width.bytes ≤ guest.memory.size then
      .ok (guest.memory.load address width.bytes)
    else .error .outOfBounds
  | .pages => .ok (UInt64.ofNat guest.memory.pageCount)
  | .high e => return (← e.eval frame guest) >>> 32
  | .low e => return (← e.eval frame guest) &&& 0xFFFFFFFF
  | .binary op left right => do
    let v ← left.eval frame guest
    let w ← right.eval frame guest
    op.apply v w

end Guest

end ExtensionHost
