import ExtensionHost.Bridge.Call
import ExtensionHost.Guest.Evaluation

/-!
# Execution of programs

Statements run by recursion on their structure; a loop runs its block a number of times that is
known when it starts.  Only calls could go on for ever, and they are bounded by the depth to which
they are nested, past which the guest traps.

The one statement that takes time is the endless loop: it uses up all that is left of the run's
budget of ticks, and the run is interrupted.  With no tick left, no function of the guest can be
entered either.

## Main definitions

* `Statement.run` and `Block.run`;
* `Sandbox.call`, a call of a function by its name.
-/

namespace ExtensionHost

namespace Guest

/-- How a statement ends: the next one follows, or the function is left with results. -/
inductive Outcome where
  | next (frame : Frame)
  | left (results : List UInt64)

variable {σ : Type}

/-- Run a block up to a number of times, and stop when the function is left. -/
def repeatBlock (block : Frame → Run σ Outcome) : Nat → Frame → Run σ Outcome
  | 0, frame => pure (.next frame)
  | n + 1, frame => do
    match ← block frame with
    | .next frame => repeatBlock block n frame
    | .left results => pure (.left results)

/-- The value of an expression in a run. -/
def evaluate (frame : Frame) (e : Expression) : Run σ UInt64 := do
  Run.ofExcept (e.eval frame (← Run.guest))

/-- The values of expressions, from left to right. -/
def evaluateAll (frame : Frame) (es : List Expression) : Run σ (List UInt64) :=
  es.mapM (evaluate frame)

/-- The value of an expression, taken as an address or a number of bytes. -/
def evaluateShort (frame : Frame) (e : Expression) : Run σ Nat := do
  return (← evaluate frame e).toUInt32.toNat

/-- Trap unless a range lies within memory. -/
def requireRange (start count : Nat) : Run σ Unit := do
  if start + count > (← Run.guest).memory.size then Run.trap .outOfBounds

/-- Use up the time that is left. -/
def spin : Run σ Unit := do
  modify fun machine => { machine with budget := 0 }
  throw .interrupted

mutual

/-- Run a statement. -/
def Statement.run (sandbox : Sandbox σ) (call : Enter σ) (frame : Frame) :
    Statement → Run σ Outcome
  | .assign target value => do
    return .next (frame.set target (← evaluate frame value))
  | .assignGlobal name value => do
    let w ← evaluate frame value
    let w := match sandbox.program.global? name with
      | some ⟨_, .number type, _, _, _⟩ => type.narrow w
      | _ => w
    Run.modifyGuest fun guest => { guest with globals := guest.globals.insert name w }
    return .next frame
  | .store width address value => do
    let address ← evaluateShort frame address
    let w ← evaluate frame value
    requireRange address width.bytes
    Run.modifyMemory (·.store address width.bytes w)
    return .next frame
  | .copyMemory target source length => do
    let target ← evaluateShort frame target
    let source ← evaluateShort frame source
    let length ← evaluateShort frame length
    requireRange source length
    requireRange target length
    Run.modifyMemory fun memory => memory.write target (memory.read source length)
    return .next frame
  | .fillMemory target value length => do
    let target ← evaluateShort frame target
    let value ← evaluate frame value
    let length ← evaluateShort frame length
    requireRange target length
    Run.modifyMemory (·.fill target value.toUInt8 length)
    return .next frame
  | .growMemory extra answer => do
    let extra ← evaluateShort frame extra
    return .next (frame.set? answer (← Run.growMemory sandbox extra))
  | .growTable extra answer => do
    let extra ← evaluateShort frame extra
    return .next (frame.set? answer (← Run.growTable sandbox extra))
  | .unreachable => Run.trap .unreachable
  | .spin => do
    spin
    return .next frame
  | .branch condition onTrue onFalse => do
    if (← evaluate frame condition) != 0 then Block.run sandbox call onTrue frame
    else Block.run sandbox call onFalse frame
  | .iterate count body => do
    repeatBlock (Block.run sandbox call body) (← evaluate frame count).toNat frame
  | .leave results => do
    return .left (← evaluateAll frame results)
  | .call callee args answers => do
    let results ← call callee (← evaluateAll frame args)
    return .next (frame.setAll answers results)

/-- Run the statements of a block. -/
def Block.run (sandbox : Sandbox σ) (call : Enter σ) : List Statement → Frame → Run σ Outcome
  | [], frame => pure (.next frame)
  | s :: rest, frame => do
    match ← s.run sandbox call frame with
    | .next frame => Block.run sandbox call rest frame
    | .left results => pure (.left results)

end

namespace Sandbox

/-- The number of calls that may be nested. -/
abbrev maxDepth : Nat := 2000

/-- Run the body of a function.  A body that runs to its end yields zeros. -/
def runFunction (sandbox : Sandbox σ) (call : Enter σ) (f : Function) (args : List UInt64) :
    Run σ (List UInt64) := do
  if (← get).budget = 0 then throw .interrupted
  match ← Block.run sandbox call f.body (.enter (narrowAll f.signature.params args)) with
  | .next _ => return narrowAll f.signature.results []
  | .left results => return narrowAll f.signature.results results

/-- Call a function of the program, or else of the host, with at most a number of calls nested. -/
def callNested (sandbox : Sandbox σ) : Nat → Enter σ
  | 0, _, _ => Run.trap .stackExhausted
  | depth + 1, name, args =>
    match sandbox.program.function? name with
    | some f => runFunction sandbox (callNested sandbox depth) f args
    | none =>
      match HostFunction.named? name with
      | some f => do
        let results ←
          f.call sandbox (callNested sandbox depth) (narrowAll f.signature.params args)
        return narrowAll f.signature.results results
      | none => Run.trap .unreachable

/-- Call a function of the program, or else of the host. -/
def call (sandbox : Sandbox σ) : Enter σ := callNested sandbox maxDepth

end Sandbox

end Guest

end ExtensionHost
