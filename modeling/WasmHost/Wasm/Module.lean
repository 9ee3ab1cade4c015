import WasmHost.Wasm.Instr

/-! A WebAssembly module as its binary form lays it out, section by section. -/

namespace WasmHost.Wasm

/-- Something that the module needs from outside. -/
structure Import where
  /-- The name of the module that provides it. -/
  moduleName : String
  /-- Its name there. -/
  name : String
  /-- What it must be. -/
  type : ImportType
deriving DecidableEq, Repr, Inhabited

/-- Something that the module offers under a name. -/
structure Export where
  /-- The name. -/
  name : String
  /-- The kind of thing. -/
  kind : ExternKind
  /-- Its index among the things of its kind. -/
  index : Nat
deriving DecidableEq, Repr, Inhabited

/-- A table, and what its elements start as. -/
structure TableDef where
  /-- Its type. -/
  type : TableType
  /-- The constant expression for the elements; without one they are null. -/
  init : Option (List Instr)
deriving Repr, Inhabited

/-- A global, and what it starts as. -/
structure GlobalDef where
  /-- Its type. -/
  type : GlobalType
  /-- The constant expression for its value. -/
  init : List Instr
deriving Repr, Inhabited

/-- When a segment is copied. -/
inductive SegmentMode where
  /-- On demand. -/
  | passive
  /-- At the start, to a place in a table or memory. -/
  | active (target : Nat) (offset : List Instr)
  /-- Never; its functions may only be referred to. -/
  | declared
deriving Repr, Inhabited

/-- The elements of a segment. -/
inductive SegmentItems where
  /-- References to functions. -/
  | functions (indices : List Nat)
  /-- Values of constant expressions. -/
  | expressions (items : List (List Instr))
deriving Repr, Inhabited

/-- Elements for tables. -/
structure ElementSegment where
  /-- When it is copied. -/
  mode : SegmentMode
  /-- The type of its elements. -/
  type : RefType
  /-- Its elements. -/
  items : SegmentItems
deriving Repr, Inhabited

/-- Bytes for memories. -/
structure DataSegment where
  /-- When it is copied. -/
  mode : SegmentMode
  /-- Its bytes. -/
  bytes : ByteArray
deriving Inhabited

/-- The body of a function. -/
structure FunctionBody where
  /-- Its locals after the parameters, as runs of one type. -/
  locals : List (Nat × ValType)
  /-- Its instructions. -/
  code : List Instr
deriving Repr, Inhabited

/-- A module, before anything about it is checked. -/
structure Module where
  /-- The defined types. -/
  types : List RecGroup
  /-- The imports. -/
  imports : List Import
  /-- The types of the defined functions. -/
  functions : List Nat
  /-- The defined tables. -/
  tables : List TableDef
  /-- The defined memories. -/
  memories : List MemoryType
  /-- The types of the defined exception tags. -/
  tags : List Nat
  /-- The defined globals. -/
  globals : List GlobalDef
  /-- The exports. -/
  exports : List Export
  /-- The function that runs when an instance starts. -/
  start : Option Nat
  /-- The element segments. -/
  elements : List ElementSegment
  /-- The number of data segments, if it is given ahead of the code. -/
  dataCount : Option Nat
  /-- The bodies of the defined functions. -/
  code : List FunctionBody
  /-- The data segments. -/
  data : List DataSegment
deriving Inhabited

namespace Module

/-- A module without any content. -/
def empty : Module where
  types := []
  imports := []
  functions := []
  tables := []
  memories := []
  tags := []
  globals := []
  exports := []
  start := none
  elements := []
  dataCount := none
  code := []
  data := []

/-- The type indices of the imported functions. -/
def importedFunctions (m : Module) : List Nat :=
  m.imports.filterMap fun i => match i.type with
    | .func typeIndex => some typeIndex
    | _ => none

/-- The imported tables. -/
def importedTables (m : Module) : List TableType :=
  m.imports.filterMap fun i => match i.type with
    | .table type => some type
    | _ => none

/-- The imported memories. -/
def importedMemories (m : Module) : List MemoryType :=
  m.imports.filterMap fun i => match i.type with
    | .memory type => some type
    | _ => none

/-- The imported globals. -/
def importedGlobals (m : Module) : List GlobalType :=
  m.imports.filterMap fun i => match i.type with
    | .global type => some type
    | _ => none

/-- The type indices of the imported tags. -/
def importedTags (m : Module) : List Nat :=
  m.imports.filterMap fun i => match i.type with
    | .tag typeIndex => some typeIndex
    | _ => none

/-- The type indices of all functions, imported ones first. -/
def functionTypes (m : Module) : List Nat := m.importedFunctions ++ m.functions

/-- All tables, imported ones first. -/
def tableTypes (m : Module) : List TableType := m.importedTables ++ m.tables.map (·.type)

/-- All memories, imported ones first. -/
def memoryTypes (m : Module) : List MemoryType := m.importedMemories ++ m.memories

/-- All globals, imported ones first. -/
def globalTypes (m : Module) : List GlobalType := m.importedGlobals ++ m.globals.map (·.type)

/-- The type indices of all tags, imported ones first. -/
def tagTypes (m : Module) : List Nat := m.importedTags ++ m.tags

end Module

end WasmHost.Wasm
