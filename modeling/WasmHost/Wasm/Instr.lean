import WasmHost.Wasm.Types
import WasmHost.Wasm.Vector
import WasmHost.Number.Float

/-! The instructions of WebAssembly, with nested blocks as nested lists. -/

namespace WasmHost.Wasm

/-- The two widths of integers. -/
inductive IntType where
  /-- 32 bits. -/
  | i32
  /-- 64 bits. -/
  | i64
deriving DecidableEq, Repr, Inhabited

/-- The two formats of floating-point numbers. -/
inductive FloatType where
  /-- 32 bits. -/
  | f32
  /-- 64 bits. -/
  | f64
deriving DecidableEq, Repr, Inhabited

/-- The number of bits of an integer type. -/
@[inline] def IntType.width : IntType → Nat
  | .i32 => 32
  | .i64 => 64

/-- The type of values that an integer type stands for. -/
def IntType.valType : IntType → ValType
  | .i32 => .i32
  | .i64 => .i64

/-- The format of a floating-point type. -/
def FloatType.format : FloatType → FloatFormat
  | .f32 => .single
  | .f64 => .double

/-- The type of values that a floating-point type stands for. -/
def FloatType.valType : FloatType → ValType
  | .f32 => .f32
  | .f64 => .f64

/-- Operations on one integer. -/
inductive IntUnary where
  /-- Leading zero bits. -/
  | clz
  /-- Trailing zero bits. -/
  | ctz
  /-- One bits. -/
  | popcnt
  /-- Sign extension from the low bits. -/
  | extend (bits : Nat)
deriving DecidableEq, Repr, Inhabited

/-- Operations on two integers. -/
inductive IntBinary where
  /-- The wrapping sum. -/
  | add
  /-- The wrapping difference. -/
  | sub
  /-- The wrapping product. -/
  | mul
  /-- The signed quotient toward zero. -/
  | divS
  /-- The unsigned quotient. -/
  | divU
  /-- The signed remainder. -/
  | remS
  /-- The unsigned remainder. -/
  | remU
  /-- Conjunction of bits. -/
  | and
  /-- Disjunction of bits. -/
  | or
  /-- Exclusive disjunction of bits. -/
  | xor
  /-- Left shift. -/
  | shl
  /-- Right shift with the sign. -/
  | shrS
  /-- Right shift with zeros. -/
  | shrU
  /-- Left rotation. -/
  | rotl
  /-- Right rotation. -/
  | rotr
deriving DecidableEq, Repr, Inhabited

/-- Comparisons of two integers. -/
inductive IntCompare where
  /-- Equal. -/
  | eq
  /-- Different. -/
  | ne
  /-- Signed less. -/
  | ltS
  /-- Unsigned less. -/
  | ltU
  /-- Signed greater. -/
  | gtS
  /-- Unsigned greater. -/
  | gtU
  /-- Signed less or equal. -/
  | leS
  /-- Unsigned less or equal. -/
  | leU
  /-- Signed greater or equal. -/
  | geS
  /-- Unsigned greater or equal. -/
  | geU
deriving DecidableEq, Repr, Inhabited

/-- Operations on one floating-point number. -/
inductive FloatUnary where
  /-- The absolute value. -/
  | abs
  /-- The negation. -/
  | neg
  /-- Rounding up. -/
  | ceil
  /-- Rounding down. -/
  | floor
  /-- Rounding toward zero. -/
  | trunc
  /-- Rounding to nearest. -/
  | nearest
  /-- The square root. -/
  | sqrt
deriving DecidableEq, Repr, Inhabited

/-- Operations on two floating-point numbers. -/
inductive FloatBinary where
  /-- The sum. -/
  | add
  /-- The difference. -/
  | sub
  /-- The product. -/
  | mul
  /-- The quotient. -/
  | div
  /-- The smaller number. -/
  | min
  /-- The larger number. -/
  | max
  /-- The first magnitude with the second sign. -/
  | copysign
deriving DecidableEq, Repr, Inhabited

/-- Comparisons of two floating-point numbers. -/
inductive FloatCompare where
  /-- Equal. -/
  | eq
  /-- Different. -/
  | ne
  /-- Less. -/
  | lt
  /-- Greater. -/
  | gt
  /-- Less or equal. -/
  | le
  /-- Greater or equal. -/
  | ge
deriving DecidableEq, Repr, Inhabited

/-- Conversions between number types. -/
inductive Conversion where
  /-- The low 32 bits of a 64-bit integer. -/
  | wrap
  /-- A 32-bit integer at 64 bits. -/
  | extend (signed : Bool)
  /-- A number truncated to an integer, which must fit. -/
  | trunc (target : IntType) (source : FloatType) (signed : Bool)
  /-- A number truncated to an integer, clamped to its range. -/
  | truncSat (target : IntType) (source : FloatType) (signed : Bool)
  /-- An integer as the nearest number. -/
  | convert (target : FloatType) (source : IntType) (signed : Bool)
  /-- A 64-bit number as the nearest 32-bit number. -/
  | demote
  /-- A 32-bit number at 64 bits. -/
  | promote
  /-- The bits of a number as an integer. -/
  | toBits (type : FloatType)
  /-- The bits of an integer as a number. -/
  | ofBits (type : FloatType)
deriving DecidableEq, Repr, Inhabited

/-- Instructions that compute numbers from numbers. -/
inductive NumericOp where
  /-- One integer. -/
  | intUnary (type : IntType) (op : IntUnary)
  /-- Two integers. -/
  | intBinary (type : IntType) (op : IntBinary)
  /-- Whether an integer is zero. -/
  | intEqz (type : IntType)
  /-- Two integers, compared. -/
  | intCompare (type : IntType) (op : IntCompare)
  /-- One floating-point number. -/
  | floatUnary (type : FloatType) (op : FloatUnary)
  /-- Two floating-point numbers. -/
  | floatBinary (type : FloatType) (op : FloatBinary)
  /-- Two floating-point numbers, compared. -/
  | floatCompare (type : FloatType) (op : FloatCompare)
  /-- A number of another type. -/
  | convert (op : Conversion)
deriving DecidableEq, Repr, Inhabited

/-- The types that a block takes and gives. -/
inductive BlockType where
  /-- Nothing. -/
  | empty
  /-- One result. -/
  | value (type : ValType)
  /-- Those of a defined function type. -/
  | defined (index : Nat)
deriving DecidableEq, Repr, Inhabited

/-- Where in a memory an instruction reads or writes. -/
structure MemArg where
  /-- The alignment hint, as a power of two. -/
  align : Nat
  /-- The offset added to the address. -/
  offset : Nat
  /-- The memory. -/
  memory : Nat
deriving DecidableEq, Repr, Inhabited

/-- A number or a vector that code names. -/
inductive Constant where
  /-- A 32-bit integer. -/
  | i32 (bits : BitVec 32)
  /-- A 64-bit integer. -/
  | i64 (bits : BitVec 64)
  /-- The pattern of a 32-bit floating-point number. -/
  | f32 (bits : BitVec 32)
  /-- The pattern of a 64-bit floating-point number. -/
  | f64 (bits : BitVec 64)
  /-- A vector. -/
  | v128 (bits : BitVec 128)
deriving DecidableEq, Repr, Inhabited

namespace Constant

/-- The type of a constant. -/
def type : Constant → ValType
  | .i32 _ => .i32
  | .i64 _ => .i64
  | .f32 _ => .f32
  | .f64 _ => .f64
  | .v128 _ => .v128

/-- The pattern of a constant. -/
def bits : Constant → Nat
  | .i32 bits | .f32 bits => bits.toNat
  | .i64 bits | .f64 bits => bits.toNat
  | .v128 bits => bits.toNat

end Constant

/-- A load of a number from memory. -/
structure LoadOp where
  /-- The type of the loaded value. -/
  type : ValType
  /-- The bytes read. -/
  bytes : Nat
  /-- Whether a narrow value keeps its sign. -/
  signed : Bool
  /-- No more is read than the type holds. -/
  fits : 8 * bytes ≤ type.width := by decide
deriving DecidableEq, Repr

/-- A store of a number to memory. -/
structure StoreOp where
  /-- The type of the stored value. -/
  type : ValType
  /-- The bytes written. -/
  bytes : Nat
deriving DecidableEq, Repr, Inhabited

/-- The kinds of atomic memory access. -/
inductive AtomicOp where
  /-- Wakes waiting threads. -/
  | notify
  /-- Waits for a change of an integer. -/
  | wait (type : IntType)
  /-- Reads. -/
  | load (type : IntType)
  /-- Writes. -/
  | store (type : IntType)
  /-- Reads, combines and writes. -/
  | update (type : IntType)
  /-- Writes if the memory holds an expected value. -/
  | exchange (type : IntType)
deriving DecidableEq, Repr, Inhabited

/-- A handler of a block that catches exceptions. -/
structure CatchClause where
  /-- The tag to catch, or every tag. -/
  tag : Option Nat
  /-- Whether the exception itself is passed on as a reference. -/
  withRef : Bool
  /-- The block that is left on a catch. -/
  label : Nat
deriving DecidableEq, Repr, Inhabited

/-- Instructions on structures, arrays and 31-bit integers. -/
inductive HeapOp where
  /-- A structure from values of its fields. -/
  | structNew (type : Nat)
  /-- A structure of default values. -/
  | structNewDefault (type : Nat)
  /-- A field of a structure; a packed one is read with or without its sign. -/
  | structGet (type field : Nat) (packed : Bool)
  /-- Changes a field of a structure. -/
  | structSet (type field : Nat)
  /-- An array of copies of a value. -/
  | arrayNew (type : Nat)
  /-- An array of default values. -/
  | arrayNewDefault (type : Nat)
  /-- An array from values of its elements. -/
  | arrayNewFixed (type count : Nat)
  /-- An array from a data segment. -/
  | arrayNewData (type segment : Nat)
  /-- An array from an element segment. -/
  | arrayNewElem (type segment : Nat)
  /-- An element of an array; a packed one is read with or without its sign. -/
  | arrayGet (type : Nat) (packed : Bool)
  /-- Changes an element of an array. -/
  | arraySet (type : Nat)
  /-- The length of an array. -/
  | arrayLen
  /-- Changes a run of elements to one value. -/
  | arrayFill (type : Nat)
  /-- Copies a run of elements. -/
  | arrayCopy (target source : Nat)
  /-- Copies from a data segment. -/
  | arrayInitData (type segment : Nat)
  /-- Copies from an element segment. -/
  | arrayInitElem (type segment : Nat)
  /-- An unboxed integer. -/
  | refI31
  /-- The integer of an unboxed one. -/
  | i31Get
  /-- A value of the embedder as a heap value. -/
  | anyConvertExtern
  /-- A heap value as a value of the embedder. -/
  | externConvertAny
  /-- Whether a reference has a type. -/
  | refTest (target : RefType)
  /-- A reference at a type that it must have. -/
  | refCast (target : RefType)
deriving DecidableEq, Repr, Inhabited

/-- An instruction. -/
inductive Instr where
  /-- Traps. -/
  | unreachable
  /-- Does nothing. -/
  | nop
  /-- A block, which a branch leaves at its end. -/
  | block (type : BlockType) (body : List Instr)
  /-- A loop, which a branch starts again. -/
  | loop (type : BlockType) (body : List Instr)
  /-- Two alternatives. -/
  | cond (type : BlockType) (onTrue onFalse : List Instr)
  /-- A block that catches exceptions. -/
  | tryTable (type : BlockType) (clauses : List CatchClause) (body : List Instr)
  /-- Raises an exception. -/
  | throwTag (tag : Nat)
  /-- Raises an exception again. -/
  | throwRef
  /-- Leaves a number of blocks. -/
  | br (label : Nat)
  /-- Leaves a number of blocks if a condition holds. -/
  | brIf (label : Nat)
  /-- Leaves as many blocks as a table says. -/
  | brTable (labels : List Nat) (otherwise : Nat)
  /-- Branches if a reference is null. -/
  | brOnNull (label : Nat)
  /-- Branches unless a reference is null. -/
  | brOnNonNull (label : Nat)
  /-- Branches if a reference has, or with `failing` has not, a type. -/
  | brOnCast (failing : Bool) (label : Nat) (source target : RefType)
  /-- Leaves the function. -/
  | ret
  /-- Calls a function. -/
  | call (function : Nat)
  /-- Calls a function from a table. -/
  | callIndirect (type table : Nat)
  /-- Calls a function in place of the running one. -/
  | returnCall (function : Nat)
  /-- Calls a function from a table in place of the running one. -/
  | returnCallIndirect (type table : Nat)
  /-- Calls a function by reference. -/
  | callRef (type : Nat)
  /-- Calls a function by reference in place of the running one. -/
  | returnCallRef (type : Nat)
  /-- Discards a value. -/
  | drop
  /-- One of two values, of a number type or of the written types. -/
  | select (types : Option (List ValType))
  /-- Reads a local. -/
  | localGet (index : Nat)
  /-- Writes a local. -/
  | localSet (index : Nat)
  /-- Writes a local and keeps the value. -/
  | localTee (index : Nat)
  /-- Reads a global. -/
  | globalGet (index : Nat)
  /-- Writes a global. -/
  | globalSet (index : Nat)
  /-- Reads a table element. -/
  | tableGet (table : Nat)
  /-- Writes a table element. -/
  | tableSet (table : Nat)
  /-- The size of a table. -/
  | tableSize (table : Nat)
  /-- Makes a table longer. -/
  | tableGrow (table : Nat)
  /-- Writes a run of table elements. -/
  | tableFill (table : Nat)
  /-- Copies between tables. -/
  | tableCopy (target source : Nat)
  /-- Copies from an element segment to a table. -/
  | tableInit (segment table : Nat)
  /-- Empties an element segment. -/
  | elemDrop (segment : Nat)
  /-- Reads a number. -/
  | load (op : LoadOp) (arg : MemArg)
  /-- Writes a number. -/
  | store (op : StoreOp) (arg : MemArg)
  /-- The size of a memory in pages. -/
  | memorySize (memory : Nat)
  /-- Makes a memory longer. -/
  | memoryGrow (memory : Nat)
  /-- Writes a run of bytes. -/
  | memoryFill (memory : Nat)
  /-- Copies between memories. -/
  | memoryCopy (target source : Nat)
  /-- Copies from a data segment to a memory. -/
  | memoryInit (segment memory : Nat)
  /-- Empties a data segment. -/
  | dataDrop (segment : Nat)
  /-- A constant. -/
  | const (value : Constant)
  /-- A computation on numbers. -/
  | numeric (op : NumericOp)
  /-- The null reference. -/
  | refNull (heap : HeapType)
  /-- Whether a reference is null. -/
  | refIsNull
  /-- A reference to a function. -/
  | refFunc (function : Nat)
  /-- A reference that must not be null. -/
  | refAsNonNull
  /-- Whether two references are one. -/
  | refEq
  /-- Structures, arrays and 31-bit integers. -/
  | heap (op : HeapOp)
  /-- An atomic access to memory; `relaxedFence` alone has no operand. -/
  | atomic (op : AtomicOp) (bytes : Nat) (arg : MemArg)
  /-- Orders atomic accesses. -/
  | atomicFence
  /-- A computation on vectors. -/
  | vector (op : VectorOp) (relaxed : Bool)
  /-- Bytes of two vectors at fixed places. -/
  | vectorShuffle (lanes : List Nat)
  /-- A lane as a scalar. -/
  | vectorExtract (shape : Shape) (signed : Bool) (lane : Nat)
  /-- A vector with one lane changed. -/
  | vectorReplace (shape : Shape) (lane : Nat)
  /-- Reads a vector. -/
  | vectorLoad (op : VectorLoad) (arg : MemArg)
  /-- Writes a vector. -/
  | vectorStore (arg : MemArg)
  /-- Reads one lane of a vector. -/
  | vectorLoadLane (shape : IntShape) (arg : MemArg) (lane : Nat)
  /-- Writes one lane of a vector. -/
  | vectorStoreLane (shape : IntShape) (arg : MemArg) (lane : Nat)
deriving Repr, Inhabited

end WasmHost.Wasm
