import WasmHost.Wasm.Binary.Reader
import WasmHost.Wasm.Instr

/-! The binary form of types. -/

namespace WasmHost.Wasm.Reader

/-- The heap types that are written as one byte. -/
def abstractHeap? : Nat → Option AbstractHeap
  | 0x70 => some .func
  | 0x73 => some .noFunc
  | 0x6F => some .external
  | 0x72 => some .noExternal
  | 0x6E => some .any
  | 0x6D => some .eq
  | 0x6C => some .i31
  | 0x6B => some .struct
  | 0x6A => some .array
  | 0x71 => some .none
  | 0x69 => some .exn
  | 0x74 => some .noExn
  | _ => none

/-- A type index, written as a signed integer that must not be negative. -/
def typeIndex (what : String) : Reader Nat := do
  match ← signed 33 with
  | .ofNat index => return index
  | .negSucc n => reject (.unknownCode what n)

/-- A heap type: one byte, or the index of a defined type. -/
def heapType : Reader HeapType := do
  match abstractHeap? (← peek) with
  | some heap =>
    let _ ← byte
    return .abstract heap
  | none => return .defined (← typeIndex "heap type")

/-- A reference type if the byte starts one, with the short forms of the nullable types. -/
def refType? (first : Nat) : Option (Reader RefType) :=
  match first with
  | 0x63 => some do return ⟨true, ← heapType⟩
  | 0x64 => some do return ⟨false, ← heapType⟩
  | other => (abstractHeap? other).map fun heap => pure ⟨true, .abstract heap⟩

/-- A reference type. -/
def refType : Reader RefType := do
  let first ← byte
  match refType? first with
  | some reader => reader
  | none => reject (.unknownCode "reference type" first)

/-- A value type if the byte starts one. -/
def valType? (first : Nat) : Option (Reader ValType) :=
  match first with
  | 0x7F => some (pure .i32)
  | 0x7E => some (pure .i64)
  | 0x7D => some (pure .f32)
  | 0x7C => some (pure .f64)
  | 0x7B => some (pure .v128)
  | other => (refType? other).map fun reader => do return .ref (← reader)

/-- A value type. -/
def valType : Reader ValType := do
  let first ← byte
  match valType? first with
  | some reader => reader
  | none => reject (.unknownCode "value type" first)

/-- A flag that is written as zero or one. -/
def flag (what : String) : Reader Bool := do
  match ← byte with
  | 0 => return false
  | 1 => return true
  | other => reject (.unknownCode what other)

/-- A field of a structure or the element of an array. -/
def fieldType : Reader FieldType := do
  let storage ← match ← peek with
    | 0x78 => do
      let _ ← byte
      pure StorageType.i8
    | 0x77 => do
      let _ ← byte
      pure StorageType.i16
    | _ => do pure (.value (← valType))
  return ⟨storage, ← flag "mutability"⟩

/-- The most parameters and the most results of a function. -/
def maxArity : Nat := 1000

/-- The most fields of a structure. -/
def maxFields : Nat := 10000

/-- The most types of a module. -/
def maxTypes : Nat := 1000000

/-- The shape of a defined type, after the byte that tells which. -/
def compositeType (first : Nat) : Reader CompositeType := do
  match first with
  | 0x60 => do
    let params ← sequence "parameters" maxArity valType
    return .func ⟨params, ← sequence "results" maxArity valType⟩
  | 0x5F => return .struct (← sequence "fields" maxFields fieldType)
  | 0x5E => return .array (← fieldType)
  | other => reject (.unknownCode "type" other)

/-- A defined type; without a prefix it is final and extends nothing. -/
def subType : Reader SubType := do
  let first ← byte
  match first with
  | 0x50 | 0x4F => do
    let supers ← sequence "supertypes" 1 u32
    return ⟨first = 0x4F, supers.head?, ← compositeType (← byte)⟩
  | other => return ⟨true, none, ← compositeType other⟩

/-- A group of types, or one type on its own. -/
def recGroup : Reader RecGroup := do
  match ← peek with
  | 0x4E => do
    let _ ← byte
    return ⟨true, ← sequence "types" maxTypes subType⟩
  | _ => return ⟨false, [← subType]⟩

/-- Bounds; the lowest flag says that a maximum follows. -/
def limits (flags : Nat) : Reader Limits := do
  let initial ← u32
  if flags % 2 = 1 then return ⟨initial, some (← u32)⟩ else return ⟨initial, none⟩

/-- The type of a table. -/
def tableType : Reader TableType := do
  let element ← refType
  let flags ← byte
  if 1 < flags then reject (.unknownCode "table flags" flags)
  return ⟨element, ← limits flags⟩

/-- The type of a memory; the second lowest flag says that it is shared. -/
def memoryType : Reader MemoryType := do
  let flags ← byte
  if 3 < flags then reject (.unknownCode "memory flags" flags)
  return ⟨← limits flags, 2 ≤ flags⟩

/-- The type of a global. -/
def globalType : Reader GlobalType := do
  let type ← valType
  return ⟨type, ← flag "mutability"⟩

/-- The type index of a tag, after an attribute that must be zero. -/
def tagType : Reader Nat := do
  let purpose ← byte
  if purpose ≠ 0 then reject (.unknownCode "tag attribute" purpose)
  u32

/-- The types that a block takes and gives. -/
def blockType : Reader BlockType := do
  let first ← peek
  match first, valType? first with
  | 0x40, _ => do
    let _ ← byte
    return .empty
  | _, some reader => do
    let _ ← byte
    return .value (← reader)
  | _, none => return .defined (← typeIndex "block type")

end WasmHost.Wasm.Reader
