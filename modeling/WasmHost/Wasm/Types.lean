/-! The types of WebAssembly: values, references, functions and the composite types that modules define. -/

namespace WasmHost.Wasm

/-- The heap types that need no definition. -/
inductive AbstractHeap where
  /-- Any function. -/
  | func
  /-- The bottom of the functions. -/
  | noFunc
  /-- Any value of the embedder. -/
  | external
  /-- The bottom of the embedder's values. -/
  | noExternal
  /-- Any value of the guest's own heap. -/
  | any
  /-- Any heap value that compares by identity. -/
  | eq
  /-- Any unboxed 31-bit integer. -/
  | i31
  /-- Any structure. -/
  | struct
  /-- Any array. -/
  | array
  /-- The bottom of the guest's own heap. -/
  | none
  /-- Any exception. -/
  | exn
  /-- The bottom of the exceptions. -/
  | noExn
deriving DecidableEq, Repr, Inhabited

/-- What a reference points to. -/
inductive HeapType where
  /-- One of the types that need no definition. -/
  | abstract (heap : AbstractHeap)
  /-- A type that the module defines. -/
  | defined (index : Nat)
deriving DecidableEq, Repr, Inhabited

/-- A reference to a heap type, null or not. -/
structure RefType where
  /-- Whether the null reference belongs to the type. -/
  nullable : Bool
  /-- What the reference points to. -/
  heap : HeapType
deriving DecidableEq, Repr, Inhabited

/-- The types of values. -/
inductive ValType where
  /-- 32-bit integers. -/
  | i32
  /-- 64-bit integers. -/
  | i64
  /-- 32-bit floating-point numbers. -/
  | f32
  /-- 64-bit floating-point numbers. -/
  | f64
  /-- 128-bit vectors. -/
  | v128
  /-- References. -/
  | ref (type : RefType)
deriving DecidableEq, Repr, Inhabited

namespace ValType

/-- Every type but the non-null references has a value to start from. -/
def isDefaultable : ValType → Bool
  | .ref r => r.nullable
  | _ => true

/-- The number of bits of a number or a vector; references have none. -/
def width : ValType → Nat
  | .i32 | .f32 => 32
  | .i64 | .f64 => 64
  | .v128 => 128
  | .ref _ => 0

/-- Whether values of the type are references. -/
def isRef : ValType → Bool
  | .ref _ => true
  | _ => false

end ValType

/-- A function takes values of its parameter types and gives values of its result types. -/
structure FuncType where
  /-- The types of the parameters, first one first. -/
  params : List ValType
  /-- The types of the results, first one first. -/
  results : List ValType
deriving DecidableEq, Repr, Inhabited

/-- What a field of a structure or an array stores. -/
inductive StorageType where
  /-- A value of a type. -/
  | value (type : ValType)
  /-- The low byte of an integer. -/
  | i8
  /-- The low two bytes of an integer. -/
  | i16
deriving DecidableEq, Repr, Inhabited

/-- The type that a stored field has on the operand stack. -/
def StorageType.unpacked : StorageType → ValType
  | .value type => type
  | .i8 | .i16 => .i32

/-- Whether a field is stored narrower than it is read. -/
def StorageType.isPacked : StorageType → Bool
  | .value _ => false
  | .i8 | .i16 => true

/-- A field of a structure or the element of an array. -/
structure FieldType where
  /-- What is stored. -/
  storage : StorageType
  /-- Whether it may change. -/
  writable : Bool
deriving DecidableEq, Repr, Inhabited

/-- The shapes of defined types. -/
inductive CompositeType where
  /-- Functions of a type. -/
  | func (type : FuncType)
  /-- Structures with the given fields. -/
  | struct (fields : List FieldType)
  /-- Arrays of one element type. -/
  | array (element : FieldType)
deriving DecidableEq, Repr, Inhabited

/-- A defined type with its place in the declared hierarchy. -/
structure SubType where
  /-- Whether no other type may extend it. -/
  final : Bool
  /-- The type that it extends. -/
  super : Option Nat
  /-- Its shape. -/
  composite : CompositeType
deriving DecidableEq, Repr, Inhabited

/-- Types that are defined together and may refer to one another. -/
structure RecGroup where
  /-- Whether the group was written as one, even of a single type. -/
  written : Bool
  /-- The members, in order. -/
  types : List SubType
deriving DecidableEq, Repr, Inhabited

/-- The bounds of a table or a memory, in elements or pages. -/
structure Limits where
  /-- The size at the start. -/
  initial : Nat
  /-- The largest size, if one is set. -/
  maximum : Option Nat
deriving DecidableEq, Repr, Inhabited

/-- The type of a table. -/
structure TableType where
  /-- The references that the table holds. -/
  element : RefType
  /-- The bounds of its size. -/
  limits : Limits
deriving DecidableEq, Repr, Inhabited

/-- The type of a memory, whose size counts pages of 65536 bytes. -/
structure MemoryType where
  /-- The bounds of its size. -/
  limits : Limits
  /-- Whether several threads may use it. -/
  shared : Bool
deriving DecidableEq, Repr, Inhabited

/-- The type of a global. -/
structure GlobalType where
  /-- The type of its value. -/
  type : ValType
  /-- Whether it may change. -/
  writable : Bool
deriving DecidableEq, Repr, Inhabited

/-- The kinds of things that modules export. -/
inductive ExternKind where
  /-- A function. -/
  | func
  /-- A table. -/
  | table
  /-- A memory. -/
  | memory
  /-- A global. -/
  | global
  /-- An exception tag. -/
  | tag
deriving DecidableEq, Repr, Inhabited

/-- The word for a kind of export. -/
def ExternKind.name : ExternKind → String
  | .func => "func"
  | .table => "table"
  | .memory => "memory"
  | .global => "global"
  | .tag => "tag"

/-- What an import asks for. -/
inductive ImportType where
  /-- A function of the type with this index. -/
  | func (typeIndex : Nat)
  /-- A table. -/
  | table (type : TableType)
  /-- A memory. -/
  | memory (type : MemoryType)
  /-- A global. -/
  | global (type : GlobalType)
  /-- An exception tag, whose parameters are those of the type with this index. -/
  | tag (typeIndex : Nat)
deriving DecidableEq, Repr, Inhabited

end WasmHost.Wasm
