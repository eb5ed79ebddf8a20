import ExtensionHost.Bridge.HostFunction

/-!
# Well-formed programs

A program is checked before it is instantiated: names are resolved, numbers of arguments and
results agree, exports have different names, and nothing touches a memory or a table that is not
there.  The check stops at the first `Defect`.

## Main definitions

* `Defect` and its wording `Defect.message`;
* `Program.check`, the whole check.
-/

namespace ExtensionHost

namespace Guest

/-- What makes a program malformed. -/
inductive Defect where
  /-- Two exports have one name. -/
  | duplicateExport (name : String)
  /-- Two globals have one name. -/
  | duplicateGlobal (name : String)
  /-- A call names no function. -/
  | unknownFunction (name : String)
  /-- A call has the wrong number of arguments. -/
  | argumentCount (name : String)
  /-- A call keeps more results than there are. -/
  | answerCount (name : String)
  /-- A function is left with the wrong number of results. -/
  | resultCount (function : String)
  /-- A function has no such parameter. -/
  | unknownParameter (index : Nat)
  /-- A global is unknown or not a number. -/
  | unknownGlobal (name : String)
  /-- A global that cannot be set is set. -/
  | immutableGlobal (name : String)
  /-- Memory is used where there is none. -/
  | noMemory
  /-- The table is used where there is none. -/
  | noTable
  /-- The limits of the memory contradict each other. -/
  | memoryLimits
  /-- The limits of the table contradict each other. -/
  | tableLimits
  /-- The start function takes parameters or has results. -/
  | startSignature (name : String)
  deriving DecidableEq, Repr

/-- The wording of a defect. -/
def Defect.message : Defect → String
  | .duplicateExport name => s!"two exports are named {name}"
  | .duplicateGlobal name => s!"two globals are named {name}"
  | .unknownFunction name => s!"unknown function {name}"
  | .argumentCount name => s!"wrong number of arguments for {name}"
  | .answerCount name => s!"too many results wanted of {name}"
  | .resultCount name => s!"wrong number of results of {name}"
  | .unknownParameter index => s!"unknown parameter {index}"
  | .unknownGlobal name => s!"unknown global {name}"
  | .immutableGlobal name => s!"immutable global {name}"
  | .noMemory => "no memory"
  | .noTable => "no table"
  | .memoryLimits => "contradictory limits of memory"
  | .tableLimits => "contradictory limits of table"
  | .startSignature name => s!"start function {name} has parameters or results"

/-- The greatest number of pages that 32-bit addresses reach. -/
abbrev addressablePages : Nat := 65536

namespace Program

/-- The type of what a call names: a function of the program, else a host function. -/
def signature? (p : Program) (name : String) : Option Signature :=
  match p.function? name with
  | some f => some f.signature
  | none => (HostFunction.named? name).map HostFunction.signature

/-- The program has a memory. -/
def needMemory (p : Program) : Except Defect Unit :=
  if p.memory.isSome then .ok () else .error .noMemory

/-- A global can be read. -/
def checkGlobal (p : Program) (name : String) : Except Defect Unit :=
  match p.global? name with
  | some ⟨_, .number _, _, _, _⟩ => .ok ()
  | _ => .error (.unknownGlobal name)

/-- An expression of a function with a given number of parameters makes sense. -/
def checkExpression (p : Program) (params : Nat) : Expression → Except Defect Unit
  | .const _ | .register _ => .ok ()
  | .param index => if index < params then .ok () else .error (.unknownParameter index)
  | .global name => p.checkGlobal name
  | .load _ address => do
    p.needMemory
    p.checkExpression params address
  | .pages => p.needMemory
  | .high e | .low e => p.checkExpression params e
  | .binary _ left right => do
    p.checkExpression params left
    p.checkExpression params right

mutual

/-- A statement of a function makes sense. -/
def checkStatement (p : Program) (f : Function) : Statement → Except Defect Unit
  | .assign _ value => p.checkExpression f.signature.params.length value
  | .assignGlobal name value => do
    p.checkGlobal name
    if (p.global? name).any (·.isMutable) then
      p.checkExpression f.signature.params.length value
    else .error (.immutableGlobal name)
  | .store _ address value => do
    p.needMemory
    p.checkExpression f.signature.params.length address
    p.checkExpression f.signature.params.length value
  | .copyMemory target source length => do
    p.needMemory
    p.checkExpression f.signature.params.length target
    p.checkExpression f.signature.params.length source
    p.checkExpression f.signature.params.length length
  | .fillMemory target value length => do
    p.needMemory
    p.checkExpression f.signature.params.length target
    p.checkExpression f.signature.params.length value
    p.checkExpression f.signature.params.length length
  | .growMemory extra _ => do
    p.needMemory
    p.checkExpression f.signature.params.length extra
  | .growTable extra _ =>
    if p.table.isSome then p.checkExpression f.signature.params.length extra
    else .error .noTable
  | .unreachable | .spin => .ok ()
  | .branch condition onTrue onFalse => do
    p.checkExpression f.signature.params.length condition
    p.checkBlock f onTrue
    p.checkBlock f onFalse
  | .iterate count body => do
    p.checkExpression f.signature.params.length count
    p.checkBlock f body
  | .leave results => do
    results.forM (p.checkExpression f.signature.params.length)
    if results.length = f.signature.results.length then .ok ()
    else .error (.resultCount f.name)
  | .call callee args answers => do
    args.forM (p.checkExpression f.signature.params.length)
    match p.signature? callee with
    | none => .error (.unknownFunction callee)
    | some signature =>
      if args.length ≠ signature.params.length then .error (.argumentCount callee)
      else if answers.length > signature.results.length then .error (.answerCount callee)
      else .ok ()

/-- Every statement of a block makes sense. -/
def checkBlock (p : Program) (f : Function) : List Statement → Except Defect Unit
  | [] => .ok ()
  | s :: rest => do
    p.checkStatement f s
    p.checkBlock f rest

end

/-- The names of a list are all different; otherwise the first one that comes twice is named. -/
def checkDistinct (defect : String → Defect) : List String → Except Defect Unit
  | [] => .ok ()
  | name :: rest =>
    if rest.contains name then .error (defect name) else checkDistinct defect rest

/-- The limits of the memory agree, and the memory is addressable. -/
def checkMemory (p : Program) : Except Defect Unit :=
  match p.memory with
  | none => if p.data.isEmpty then .ok () else .error .noMemory
  | some m =>
    if m.minimum ≤ m.maximum.getD addressablePages
        ∧ m.maximum.getD addressablePages ≤ addressablePages then .ok ()
    else .error .memoryLimits

/-- The limits of the table agree. -/
def checkTable (p : Program) : Except Defect Unit :=
  match p.table with
  | none => .ok ()
  | some t => if t.minimum ≤ t.maximum.getD t.minimum then .ok () else .error .tableLimits

/-- The start function exists, takes nothing and yields nothing. -/
def checkStart (p : Program) : Except Defect Unit :=
  match p.start with
  | none => .ok ()
  | some name =>
    match p.signature? name with
    | none => .error (.unknownFunction name)
    | some signature =>
      if signature = ⟨[], []⟩ then .ok () else .error (.startSignature name)

/-- The whole check of a program. -/
def check (p : Program) : Except Defect Unit := do
  checkDistinct .duplicateExport p.exportNames
  checkDistinct .duplicateGlobal (p.globals.map (·.name))
  p.checkMemory
  p.checkTable
  p.checkStart
  p.functions.forM fun f => p.checkBlock f f.body

end Program

end Guest

end ExtensionHost
