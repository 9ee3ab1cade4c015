import WasmHost.Wasm.Validation.Code

/-! When a module is valid for a choice of accepted extensions. -/

namespace WasmHost.Wasm

namespace Validation

/-- The most pages of a memory. -/
def maxPages : Nat := 65536

/-- The most elements that a table may start with. -/
def maxTableEntries : Nat := 10000000

/-- The most locals of a function, parameters included. -/
def maxLocals : Nat := 50000

/-- A condition must hold. -/
def demand (holds : Bool) (why : Invalid) : Except Invalid Unit := if holds then .ok () else .error why

/-- The start of some bounds must not be over their maximum. -/
def checkLimits (l : Limits) : Except Invalid Unit :=
  demand (l.maximum.all (l.initial ≤ ·)) (.outOfRange "initial size")

/-- A table holds references and starts with a limited number of them. -/
def checkTable (f : Features) (types : TypeTable) (t : TableType) : Except Invalid Unit := do
  f.checkRef types.types.size t.element
  checkLimits t.limits
  demand (t.limits.initial ≤ maxTableEntries) (.outOfRange "table size")

/-- A memory has a limited number of pages, and a shared one a maximum. -/
def checkMemory (f : Features) (m : MemoryType) : Except Invalid Unit := do
  checkLimits m.limits
  demand (m.limits.initial ≤ maxPages && m.limits.maximum.all (· ≤ maxPages)) (.outOfRange "memory size")
  if m.shared then
    Features.require f.threads "threads"
    demand m.limits.maximum.isSome (.outOfRange "shared memory size")

/-- The type of a function is a function type. -/
def checkFunction (types : TypeTable) (typeIndex : Nat) : Except Invalid Unit :=
  demand (types.func? typeIndex).isSome (.unknownIndex "type" typeIndex)

/-- The type of a tag is a function type without results. -/
def checkTag (f : Features) (types : TypeTable) (typeIndex : Nat) : Except Invalid Unit := do
  Features.require f.exceptions "exceptions"
  match types.func? typeIndex with
  | some type => demand type.results.isEmpty .typeMismatch
  | none => throw (.unknownIndex "type" typeIndex)

/-- What an import asks for is valid. -/
def checkImport (f : Features) (types : TypeTable) : ImportType → Except Invalid Unit
  | .func typeIndex => checkFunction types typeIndex
  | .table type => checkTable f types type
  | .memory type => checkMemory f type
  | .global type => f.checkVal types.types.size type.type
  | .tag typeIndex => checkTag f types typeIndex

/-- The functions that constant code refers to. -/
def referredFunctions (code : List Instr) : List Nat :=
  code.filterMap fun
    | .refFunc index => some index
    | _ => none

/-- The functions that an element segment refers to. -/
def segmentFunctions (segment : ElementSegment) : List Nat :=
  match segment.items with
  | .functions indices => indices
  | .expressions items => items.flatMap referredFunctions

/-- The functions that code may refer to: those named outside of all function bodies. -/
def declaredFunctions (m : Module) : Array Bool :=
  let named :=
    (m.exports.filterMap fun e => if e.kind = .func then some e.index else none) ++
    m.elements.flatMap segmentFunctions ++
    m.globals.flatMap (fun g => referredFunctions g.init) ++
    m.tables.flatMap (fun t => (t.init.map referredFunctions).getD [])
  named.foldl (fun marks index => marks.setIfInBounds index true)
    (Array.replicate m.functionTypes.length false)

/-- The elements that a segment holds; references to functions are never null. -/
def segmentType (segment : ElementSegment) : RefType :=
  match segment.items with
  | .functions _ => ⟨false, .abstract .func⟩
  | .expressions _ => segment.type

/-- What surrounds the code of a module. -/
def scope (f : Features) (types : TypeTable) (m : Module) : Scope where
  features := f
  types := types
  functions := m.functionTypes.toArray
  tables := m.tableTypes.toArray
  memories := m.memoryTypes.toArray
  globals := m.globalTypes.toArray
  importedGlobals := m.importedGlobals.length
  tags := m.tagTypes.toArray
  elements := (m.elements.map segmentType).toArray
  dataCount := m.dataCount
  declared := declaredFunctions m
  constant := false
  locals := #[]
  results := []
  labels := []

/-- Checks a constant expression of a type, which may read a number of globals. -/
def checkConstant (s : Scope) (globals : Nat) (type : ValType) (code : List Instr) : Except Invalid Unit :=
  { s with constant := true, globals := s.globals.extract 0 globals, results := [type], labels := [[type]] }.checkBody
    code

/-- A table without an expression starts with null, which must belong to its type. -/
def checkTableDef (s : Scope) (t : TableDef) : Except Invalid Unit := do
  checkTable s.features s.types t.type
  match t.init with
  | none => demand t.type.element.nullable .typeMismatch
  | some code => do
    Features.require s.features.typedReferences "typed references"
    checkConstant s s.importedGlobals (.ref t.type.element) code

/-- A global may read the globals before it. -/
def checkGlobalDef (s : Scope) (g : GlobalDef) (place : Nat) : Except Invalid Unit := do
  s.features.checkVal s.types.types.size g.type.type
  checkConstant s (s.importedGlobals + place) g.type.type g.init

/-- The number of things of a kind. -/
def countOf (s : Scope) : ExternKind → Nat
  | .func => s.functions.size
  | .table => s.tables.size
  | .memory => s.memories.size
  | .global => s.globals.size
  | .tag => s.tags.size

/-- An export names what exists. -/
def checkExport (s : Scope) (e : Export) : Except Invalid Unit := do
  if e.kind = .tag then Features.require s.features.exceptions "exceptions"
  demand (e.index < countOf s e.kind) (.unknownIndex e.kind.name e.index)

/-- Exports name what exists, each by a name of its own. -/
def checkExports (s : Scope) (exports : List Export) : Except Invalid Unit := do
  exports.forM (checkExport s)
  -- Equal names stand side by side once sorted.
  let sorted := (exports.map (·.name)).mergeSort (fun a b => a ≤ b)
  (sorted.zip (sorted.drop 1)).forM fun (a, b) => demand (a ≠ b) (.duplicateExport a)

/-- The start function takes and gives nothing. -/
def checkStart (s : Scope) (index : Nat) : Except Invalid Unit :=
  match s.functions[index]?.bind s.types.func? with
  | some type => demand (type = ⟨[], []⟩) .typeMismatch
  | none => throw (.unknownIndex "function" index)

/-- An element segment holds references of its type and fits its table. -/
def checkElements (s : Scope) (segment : ElementSegment) : Except Invalid Unit := do
  let type := segmentType segment
  s.features.checkRef s.types.types.size segment.type
  match segment.mode with
  | .passive | .declared => pure ()
  | .active target offset =>
    match s.tables[target]? with
    | none => throw (.unknownIndex "table" target)
    | some table => do
      demand (s.types.refBelow type table.element) .typeMismatch
      checkConstant s s.globals.size .i32 offset
  match segment.items with
  | .functions indices =>
    indices.forM fun index => demand (index < s.functions.size) (.unknownIndex "function" index)
  | .expressions items => items.forM (checkConstant s s.globals.size (.ref type))

/-- A data segment fits a memory. -/
def checkData (s : Scope) (segment : DataSegment) : Except Invalid Unit :=
  match segment.mode with
  | .passive | .declared => pure ()
  | .active target offset => do
    demand (target < s.memories.size) (.unknownIndex "memory" target)
    checkConstant s s.globals.size .i32 offset

/-- A function body has a limited number of locals and the type of its function. -/
def checkBody (s : Scope) (typeIndex : Nat) (body : FunctionBody) : Except Invalid Unit := do
  match s.types.func? typeIndex with
  | none => throw (.unknownIndex "type" typeIndex)
  | some type => do
    let count := body.locals.foldl (fun sum run => sum + run.1) type.params.length
    demand (count ≤ maxLocals) (.outOfRange "number of locals")
    body.locals.forM fun run => s.features.checkVal s.types.types.size run.2
    let declared := body.locals.flatMap fun run => List.replicate run.1 run.2
    let inner := { s with
      locals := (type.params ++ declared).toArray
      results := type.results
      labels := [type.results] }
    -- Parameters hold a value from the start.
    let _ ← (inner.enclosed ⟨[], type.results⟩ (inner.instrs body.code)).run
      ⟨[], false, List.range type.params.length⟩

end Validation

open Validation in
/-- Whether a module is valid for the accepted extensions. -/
def Module.check (f : Features) (m : Module) : Except Invalid Unit := do
  let types ← TypeTable.ofGroups f m.types
  m.imports.forM fun i => checkImport f types i.type
  m.functions.forM (checkFunction types)
  m.memories.forM (checkMemory f)
  m.tags.forM (checkTag f types)
  let s := scope f types m
  m.tables.forM (checkTableDef s)
  m.globals.zipIdx.forM fun (g, place) => checkGlobalDef s g place
  checkExports s m.exports
  m.start.forM (checkStart s)
  m.elements.forM (checkElements s)
  -- Every function has a body, and a count given ahead is right.
  demand (m.functions.length = m.code.length) (.inconsistent "function and code section")
  demand (m.dataCount.all (· = m.data.length)) (.inconsistent "data count and data section")
  (m.functions.zip m.code).forM fun (typeIndex, body) => checkBody s typeIndex body
  m.data.forM (checkData s)

end WasmHost.Wasm
