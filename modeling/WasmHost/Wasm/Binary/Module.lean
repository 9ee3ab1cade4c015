import WasmHost.Wasm.Binary.Code
import WasmHost.Wasm.Module

/-! The binary form of modules: a header and then sections in a fixed order. -/

namespace WasmHost.Wasm.Reader

/-- The most functions, globals, imports or exports of a module. -/
def maxItems : Nat := 1000000

/-- The most segments of a kind. -/
def maxSegments : Nat := 100000

/-- The most memories, and the most tables. -/
def maxStores : Nat := 100

/-- The most bytes of a function body. -/
def maxBody : Nat := 7654321

/-- The kinds of imports and exports. -/
def externKind : Reader ExternKind := do
  match ← byte with
  | 0 => return .func
  | 1 => return .table
  | 2 => return .memory
  | 3 => return .global
  | 4 => return .tag
  | other => reject (.unknownCode "external kind" other)

/-- What an import asks for. -/
def importType : Reader ImportType := do
  match ← externKind with
  | .func => return .func (← u32)
  | .table => return .table (← tableType)
  | .memory => return .memory (← memoryType)
  | .global => return .global (← globalType)
  | .tag => return .tag (← tagType)

/-- An import: two names and a type. -/
def importEntry : Reader Import := do
  let moduleName ← name
  let fieldName ← name
  return ⟨moduleName, fieldName, ← importType⟩

/-- An export: a name, a kind and an index. -/
def exportEntry : Reader Export := do
  let exportName ← name
  let kind ← externKind
  return ⟨exportName, kind, ← u32⟩

/-- A table, with a prefix if it has an expression for its elements. -/
def tableDef : Reader TableDef := do
  if (← peek) = 0x40 then
    let _ ← byte
    let reserved ← byte
    if reserved ≠ 0 then reject (.unknownCode "table prefix" reserved)
    let type ← tableType
    return ⟨type, some (← instrs)⟩
  else return ⟨← tableType, none⟩

/-- A global: its type and the expression for its value. -/
def globalDef : Reader GlobalDef := do
  let type ← globalType
  return ⟨type, ← instrs⟩

/-- An element segment; three flags say how it is written. -/
def elementSegment : Reader ElementSegment := do
  let flags ← u32
  if 7 < flags then reject (.unknownCode "element segment flags" flags)
  let inactive := flags % 2 = 1
  let second := flags / 2 % 2 = 1
  -- An inactive segment is declared or passive; an active one may name its table.
  let mode ←
    if inactive then pure (if second then SegmentMode.declared else .passive)
    else do
      let table ← if second then u32 else pure 0
      pure (.active table (← instrs))
  let typed := inactive ∨ second
  if 4 ≤ flags then
    let type ← if typed then refType else pure ⟨true, .abstract .func⟩
    return ⟨mode, type, .expressions (← sequence "elements" maxElements instrs)⟩
  else
    if typed then
      let kind ← byte
      if kind ≠ 0 then reject (.unknownCode "element kind" kind)
    return ⟨mode, ⟨true, .abstract .func⟩, .functions (← sequence "elements" maxElements u32)⟩
where
  /-- The most elements of a segment. -/
  maxElements : Nat := 10000000

/-- A data segment; its flag says when it is copied, and may name a memory. -/
def dataSegment : Reader DataSegment := do
  let mode ← match ← u32 with
    | 0 => do pure (SegmentMode.active 0 (← instrs))
    | 1 => pure .passive
    | 2 => do
      let memory ← u32
      pure (.active memory (← instrs))
    | other => reject (.unknownCode "data segment flags" other)
  let length ← u32
  return ⟨mode, ← take length⟩

/-- A function body: runs of locals and then instructions. -/
def functionBody : Reader FunctionBody := do
  let size ← u32
  if maxBody < size then reject (.tooMany "bytes in a function")
  within "function body" size do
    let locals ← sequence "runs of locals" maxBody do
      let count ← u32
      return (count, ← valType)
    return ⟨locals, ← instrs⟩

/-- The places of sections in the order that modules must keep; custom sections may stand anywhere. -/
def sectionPlace? : Nat → Option Nat
  | 1 => some 1
  | 2 => some 2
  | 3 => some 3
  | 4 => some 4
  | 5 => some 5
  | 13 => some 6
  | 6 => some 7
  | 7 => some 8
  | 8 => some 9
  | 9 => some 10
  | 12 => some 11
  | 10 => some 12
  | 11 => some 13
  | _ => none

/-- The content of a section, added to a module. -/
def sectionContent (id : Nat) (m : Module) : Reader Module := do
  match id with
  | 1 => return { m with types := ← sequence "types" maxTypes recGroup }
  | 2 => return { m with imports := ← sequence "imports" maxItems importEntry }
  | 3 => return { m with functions := ← sequence "functions" maxItems u32 }
  | 4 => return { m with tables := ← sequence "tables" maxStores tableDef }
  | 5 => return { m with memories := ← sequence "memories" maxStores memoryType }
  | 13 => return { m with tags := ← sequence "tags" maxItems tagType }
  | 6 => return { m with globals := ← sequence "globals" maxItems globalDef }
  | 7 => return { m with exports := ← sequence "exports" maxItems exportEntry }
  | 8 => return { m with start := some (← u32) }
  | 9 => return { m with elements := ← sequence "element segments" maxSegments elementSegment }
  | 12 => return { m with dataCount := some (← u32) }
  | 10 => return { m with code := ← sequence "functions" maxItems functionBody }
  | 11 => return { m with data := ← sequence "data segments" maxSegments dataSegment }
  | other => reject (.unknownCode "section" other)

/-- A custom section has a name, and the rest of it says nothing about the module. -/
def customContent : Reader Unit := do
  let _ ← name
  let _ ← take (← remaining)

/-- Sections up to the end of the bytes.
Every section takes at least two bytes, so the number of bytes bounds the steps. -/
def sections : Nat → Nat → Module → Reader Module
  | 0, _, _ => reject .unexpectedEnd
  | fuel + 1, last, m => do
    if (← remaining) = 0 then return m
    let id ← byte
    let size ← u32
    if id = 0 then
      within "section" size customContent
      sections fuel last m
    else
      match sectionPlace? id with
      | none => reject (.unknownCode "section" id)
      | some place =>
        if place ≤ last then reject .sectionOrder
        sections fuel place (← within "section" size (sectionContent id m))

end Reader

/-- The four bytes that every module starts with. -/
def magic : List UInt8 := [0x00, 0x61, 0x73, 0x6D]

/-- The length of the header: the magic number, a version and a layer. -/
def headerSize : Nat := 8

/-- The module that bytes after a header stand for. -/
def Module.ofSections (bytes : ByteArray) : Except Malformed Module :=
  let content := bytes.extract headerSize bytes.size
  Reader.whole "module" content (Reader.sections (content.size + 1) 0 .empty)

end WasmHost.Wasm
