import WasmHost.Wasm.Machine
import WasmHost.Wasm.Validation.Subtyping

/-! Instances: linking a module to the host, giving it a fresh store, and calling its functions. -/

namespace WasmHost.Wasm

/-- A function that the host offers to guests. -/
structure HostFunction (ε : Type) where
  /-- The module name under which guests import it. -/
  moduleName : String
  /-- The name under which guests import it. -/
  name : String
  /-- Its type. -/
  type : FuncType
  /-- What it reports, given the memory that the guest offers and the arguments. -/
  respond : Option Memory → List Nat → ε

/-- The bounds that an engine sets for the instances it runs. -/
structure Capacity where
  /-- The most pages that a memory may grow to. -/
  memoryPages : Nat
  /-- The most elements that a table may grow to. -/
  tableElements : Nat
  /-- The number of calls that may be open at once. -/
  callDepth : Nat
deriving DecidableEq, Repr, Inhabited

/-- An import that the host does not offer with the wanted type. -/
structure LinkError where
  /-- The module name of the import. -/
  moduleName : String
  /-- The name of the import. -/
  name : String
deriving DecidableEq, Repr, Inhabited

/-- A sentence about a missing import. -/
def LinkError.message (e : LinkError) : String :=
  "unknown import: \x60" ++ e.moduleName ++ "::" ++ e.name ++ "\x60 has not been defined"

/-- A module that is linked to the host and ready for any number of instances. -/
structure Linked (ε : Type) where
  /-- The module. -/
  module : Module
  /-- Its functions and types. -/
  program : Program ε
  /-- The bounds of its instances. -/
  capacity : Capacity

namespace Linked

variable {ε : Type}

/-- The function type of a defined type; other types stand for a function of nothing. -/
def funcType (type : SubType) : FuncType :=
  match type.composite with
  | .func type => type
  | _ => ⟨[], []⟩

/-- The host function that an import asks for. -/
def resolve (host : List (HostFunction ε)) (types : TypeTable) (i : Import) : Except LinkError (Function ε) :=
  let wanted := match i.type with
    | .func typeIndex => (types.func? typeIndex).map fun type => (typeIndex, type)
    | _ => none
  match wanted with
  | none => .error ⟨i.moduleName, i.name⟩
  | some (typeIndex, type) =>
    match host.find? fun f => f.moduleName = i.moduleName ∧ f.name = i.name ∧ f.type = type with
    | some f => .ok (.host type (types.representative typeIndex) f.respond)
    | none => .error ⟨i.moduleName, i.name⟩

/-- Links a valid module to the host. -/
def link (host : List (HostFunction ε)) (capacity : Capacity) (m : Module) : Except LinkError (Linked ε) := do
  let types := (TypeTable.ofGroups .all m.types).toOption.getD .empty
  let imported ← m.imports.mapM (resolve host types)
  let defined := (m.functions.zip m.code).map fun (typeIndex, body) =>
    let type := (types.func? typeIndex).getD ⟨[], []⟩
    let locals := body.locals.foldl (fun sum run => sum + run.1) 0
    .guest type (types.representative typeIndex) locals body.code
  let hostMemory := (m.exports.find? fun e => e.name = "memory" ∧ e.kind = .memory).map (·.index)
  let program : Program ε := {
    types := types.types.map funcType
    representatives := types.representatives
    functions := (imported ++ defined).toArray
    hostMemory := hostMemory
    maxDepth := capacity.callDepth }
  return ⟨m, program, capacity⟩

/-- The value of a constant expression that reads the given globals. -/
def constant (globals : Array Nat) (code : List Instr) : Nat :=
  (code.foldl eval []).headD 0
where
  /-- Every constant instruction works on the operands alone. -/
  eval (stack : List Nat) : Instr → List Nat
    | .const value => value.bits :: stack
    | .globalGet index => globals.getD index 0 :: stack
    | .refNull _ => 0 :: stack
    | .refFunc index => (index + 1) :: stack
    | .numeric op => (op.apply stack).toOption.getD stack
    | _ => stack

/-- Why a store could not be filled from the segments. -/
inductive SegmentFault where
  /-- An element segment does not fit its table. -/
  | elements
  /-- A data segment does not fit its memory. -/
  | data
deriving DecidableEq, Repr, Inhabited

/-- The elements of a segment. -/
def segmentItems (globals : Array Nat) (segment : ElementSegment) : Array Nat :=
  match segment.items with
  | .functions indices => (indices.map (· + 1)).toArray
  | .expressions items => (items.map (constant globals)).toArray

/-- Copies an active element segment into its table; afterwards only a passive one is left. -/
def placeElements (store : Store) (segment : ElementSegment) (place : Nat) : Except SegmentFault Store :=
  match segment.mode with
  | .passive => .ok store
  | .declared => .ok { store with elements := store.elements.setIfInBounds place #[] }
  | .active target offset =>
    let start := constant store.globals offset
    let items := store.elements.getD place #[]
    if (store.tables[target]?).any (·.holds start items.size) then
      .ok { store with
        tables := store.tables.modify target (·.write start items)
        elements := store.elements.setIfInBounds place #[] }
    else .error .elements

/-- Copies an active data segment into its memory; afterwards only a passive one is left. -/
def placeData (store : Store) (segment : DataSegment) (place : Nat) : Except SegmentFault Store :=
  match segment.mode with
  | .passive | .declared => .ok store
  | .active target offset =>
    let start := constant store.globals offset
    if (store.memories[target]?).any (·.holds start segment.bytes.size) then
      .ok { store with
        memories := store.memories.modify target (·.write start segment.bytes)
        data := store.data.setIfInBounds place .empty }
    else .error .data

/-- The store that an instance starts with, before any segment is copied. -/
def emptyStore (l : Linked ε) : Store :=
  let globals := l.module.globals.foldl (fun globals g => globals.push (constant globals g.init)) #[]
  { memories := (l.module.memories.map fun type =>
      .zeroed type.limits.initial (min (type.limits.maximum.getD 65536) l.capacity.memoryPages)).toArray
    tables := (l.module.tables.map fun table =>
      let item := (table.init.map (constant #[])).getD 0
      { elements := Array.replicate table.type.limits.initial item
        limit := min (table.type.limits.maximum.getD (Integer.modulus 32 - 1)) l.capacity.tableElements }).toArray
    globals := globals
    elements := (l.module.elements.map (segmentItems globals)).toArray
    data := (l.module.data.map (·.bytes)).toArray }

/-- The store that an instance starts with: tables are filled first, then memories. -/
def freshStore (l : Linked ε) : Except SegmentFault Store := do
  let store ← l.module.elements.zipIdx.foldlM (fun store (segment, place) => placeElements store segment place)
    l.emptyStore
  l.module.data.zipIdx.foldlM (fun store (segment, place) => placeData store segment place) store

/-- The most steps of one run, far beyond what any run can take. -/
def maxSteps : Nat := Integer.modulus 62

/-- What a run leaves behind: the store, the charged fuel and the reports so far. -/
structure Progress (ε : Type) where
  /-- The store. -/
  store : Store
  /-- The fuel charged so far. -/
  charged : Nat
  /-- What host functions reported, the latest first. -/
  events : List ε

/-- Runs a function on arguments, given first one first. A function of the host that is called from
outside sees no memory, for no guest called it. -/
def invoke (l : Linked ε) (budget : Option Nat) (from_ : Progress ε) (f : Function ε) (arguments : List Nat) :
    Ending × Progress ε :=
  match f with
  | .host _ _ respond => (.returned [], { from_ with events := respond none arguments :: from_.events })
  | .guest type .. =>
    -- The outside waits with no code of its own for the results.
    let outside : Machine ε := {
      code := []
      stack := arguments.reverse
      labels := []
      locals := #[]
      arity := type.results.length
      callers := []
      depth := 0
      store := from_.store
      charged := from_.charged
      events := from_.events }
    let (ending, m) :=
      match Machine.call l.program budget outside f with
      | .next m => Machine.run l.program budget maxSteps m
      | .done ending m => (ending, m)
    (ending, ⟨m.store, m.charged, m.events⟩)

/-- The exported function of a name. -/
def exported? (l : Linked ε) (name : String) : Option (Function ε) :=
  (l.module.exports.find? fun e => e.name = name ∧ e.kind = .func).bind fun e => l.program.functions[e.index]?

end Linked

end WasmHost.Wasm
