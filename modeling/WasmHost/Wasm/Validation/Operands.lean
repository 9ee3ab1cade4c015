import WasmHost.Wasm.Validation.Subtyping
import WasmHost.Wasm.Module

/-! The operand stack as types: what an instruction may take from it and leave on it. -/

namespace WasmHost.Wasm

/-- What is known about an operand. -/
inductive Operand where
  /-- It has a type. -/
  | known (type : ValType)
  /-- It is a reference that cannot exist, of every reference type. -/
  | noRef
  /-- It stands in code that is never reached, and has every type. -/
  | unknown
deriving DecidableEq, Repr, Inhabited

/-- What is known at a point of a block. -/
structure Operands where
  /-- The operands of the block, top first. -/
  stack : List Operand
  /-- Whether the point is never reached. -/
  unreachable : Bool
  /-- The locals without a default that hold a value. -/
  initialized : List Nat
deriving Inhabited

/-- What surrounds an instruction. -/
structure Scope where
  /-- The accepted extensions. -/
  features : Features
  /-- The defined types. -/
  types : TypeTable
  /-- The type indices of the functions. -/
  functions : Array Nat
  /-- The tables. -/
  tables : Array TableType
  /-- The memories. -/
  memories : Array MemoryType
  /-- The globals that may be named. -/
  globals : Array GlobalType
  /-- How many of the globals are imported. -/
  importedGlobals : Nat
  /-- The type indices of the tags. -/
  tags : Array Nat
  /-- The types of the element segments. -/
  elements : Array RefType
  /-- The number of data segments, if it is given ahead of the code. -/
  dataCount : Option Nat
  /-- Which functions code may refer to. -/
  declared : Array Bool
  /-- Whether only constant instructions are allowed. -/
  constant : Bool
  /-- The types of the locals. -/
  locals : Array ValType
  /-- The results of the function. -/
  results : List ValType
  /-- What a branch to each enclosing block takes, innermost first. -/
  labels : List (List ValType)
deriving Inhabited

/-- A check that takes and leaves operands. -/
abbrev Check := StateT Operands (Except Invalid)

namespace Scope

/-- Gives up for a reason. -/
def fail {α : Type} (why : Invalid) : Check α := throw why

/-- An index must name something. -/
def find {α : Type} (what : String) (index : Nat) (found : Option α) : Check α :=
  match found with
  | some value => pure value
  | none => fail (.unknownIndex what index)

/-- An extension must be accepted when it is used. -/
def require (accepted : Bool) (what : String) : Check Unit := Features.require accepted what

/-- A condition on types must hold. -/
def ensure (holds : Bool) : Check Unit := if holds then pure () else fail .typeMismatch

/-- Leaves an operand. -/
def pushOperand (operand : Operand) : Check Unit :=
  modify fun s => { s with stack := operand :: s.stack }

/-- Leaves a value of a type. -/
def push (c : Scope) (type : ValType) : Check Unit := pushOperand (.known (c.types.normal type))

/-- Leaves values of types, first one first. -/
def pushAll (c : Scope) (types : List ValType) : Check Unit := types.forM c.push

/-- Takes the top operand, which code that is never reached always has. -/
def popAny : Check Operand := do
  let s ← get
  match s.stack with
  | operand :: rest => do
    set { s with stack := rest }
    return operand
  | [] => if s.unreachable then return .unknown else fail .typeMismatch

/-- Takes an operand of a type. -/
def pop (c : Scope) (type : ValType) : Check Operand := do
  let operand ← popAny
  match operand with
  | .known actual => ensure (c.types.below actual (c.types.normal type))
  | .noRef => ensure type.isRef
  | .unknown => pure ()
  return operand

/-- Takes an operand of a type and forgets it. -/
def take (c : Scope) (type : ValType) : Check Unit := discard (c.pop type)

/-- Takes operands of types, last one first. -/
def popAll (c : Scope) (types : List ValType) : Check Unit := types.reverse.forM c.take

/-- Takes operands of types and leaves them as they were. -/
def matchAll (c : Scope) (types : List ValType) : Check Unit := do
  let taken ← types.reverse.mapM c.pop
  taken.reverse.forM pushOperand

/-- Takes a number of operands of one type; in code that is never reached there are always more. -/
def popMany (c : Scope) (type : ValType) : Nat → Check Unit
  | 0 => pure ()
  | count + 1 => do
    let s ← get
    if s.unreachable ∧ s.stack.isEmpty then return
    c.take type
    popMany c type count

/-- Takes a reference of any type; nothing is known of one that cannot exist. -/
def popRef : Check (Option RefType) := do
  match ← popAny with
  | .known (.ref type) => return some type
  | .known _ => fail .typeMismatch
  | .noRef | .unknown => return none

/-- Takes a reference below an abstract heap type and tells whether it may be null. -/
def popAbstract (c : Scope) (heap : AbstractHeap) : Check (Option Bool) := do
  match ← popRef with
  | some type => do
    ensure (c.types.heapBelow type.heap (.abstract heap))
    return some type.nullable
  | none => return none

/-- What follows is never reached. -/
def stop : Check Unit := modify fun s => { s with stack := [], unreachable := true }

/-- Takes arguments of a function type and leaves its results. -/
def apply (c : Scope) (params results : List ValType) : Check Unit := do
  c.popAll params
  c.pushAll results

/-- A value type must be accepted. -/
def checkVal (c : Scope) (type : ValType) : Check Unit := c.features.checkVal c.types.types.size type

/-- A reference type must be accepted. -/
def checkRef (c : Scope) (type : RefType) : Check Unit := c.features.checkRef c.types.types.size type

/-- The parameters and results of a block. -/
def blockType (c : Scope) : BlockType → Check FuncType
  | .empty => return ⟨[], []⟩
  | .value type => do
    c.checkVal type
    return ⟨[], [type]⟩
  | .defined index => find "type" index (c.types.func? index)

/-- What a branch to an enclosing block takes; the outermost is the function. -/
def label (c : Scope) (depth : Nat) : Check (List ValType) := find "label" depth c.labels[depth]?

/-- The scope inside a block whose branches take the given types. -/
def enter (c : Scope) (branch : List ValType) : Scope := { c with labels := branch :: c.labels }

/-- Checks a block on a stack of its own: it starts with its parameters and must end with exactly
its results. What it gives locals is forgotten afterwards. -/
def enclosed (c : Scope) (type : FuncType) (body : Check Unit) : Check Unit := do
  let outer ← get
  set { outer with stack := [], unreachable := false }
  c.pushAll type.params
  body
  c.popAll type.results
  let s ← get
  ensure s.stack.isEmpty
  set outer

/-- The type of a function. -/
def function (c : Scope) (index : Nat) : Check FuncType := do
  let type ← find "function" index c.functions[index]?
  find "type" type (c.types.func? type)

/-- A table. -/
def table (c : Scope) (index : Nat) : Check TableType := find "table" index c.tables[index]?

/-- A memory. -/
def memory (c : Scope) (index : Nat) : Check MemoryType := find "memory" index c.memories[index]?

/-- A global. -/
def global (c : Scope) (index : Nat) : Check GlobalType := find "global" index c.globals[index]?

/-- A local. -/
def local_ (c : Scope) (index : Nat) : Check ValType := find "local" index c.locals[index]?

/-- The type of an element segment. -/
def element (c : Scope) (index : Nat) : Check RefType := find "element segment" index c.elements[index]?

/-- A data segment may be named only when their number is known ahead. -/
def dataSegment (c : Scope) (index : Nat) : Check Unit :=
  match c.dataCount with
  | none => fail (.inconsistent "data count and code")
  | some count => if index < count then pure () else fail (.unknownIndex "data segment" index)

/-- The parameters of a tag. -/
def tag (c : Scope) (index : Nat) : Check (List ValType) := do
  let type ← find "tag" index c.tags[index]?
  return (← find "type" type (c.types.func? type)).params

/-- The access of a number of bytes: the alignment hint must not be over them, and with `exact` not under. -/
def access (c : Scope) (bytes : Nat) (exact : Bool) (arg : MemArg) : Check Unit := do
  let _ ← c.memory arg.memory
  if bytes.log2 < arg.align ∨ (exact ∧ arg.align ≠ bytes.log2) then fail (.outOfRange "alignment")

end Scope

end WasmHost.Wasm
