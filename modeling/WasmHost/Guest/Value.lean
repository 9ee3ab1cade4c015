import WasmHost.Document.Schema
import WasmHost.Wasm.Types

/-! The numbers that go into a guest's functions and come out of them. -/

namespace WasmHost

/-- The types of numbers. -/
inductive NumberType where
  /-- 32-bit integers. -/
  | i32
  /-- 64-bit integers. -/
  | i64
  /-- 32-bit floating-point numbers. -/
  | f32
  /-- 64-bit floating-point numbers. -/
  | f64
deriving DecidableEq, Repr, Inhabited

namespace NumberType

/-- The name of a type. -/
def name : NumberType → String
  | .i32 => "i32"
  | .i64 => "i64"
  | .f32 => "f32"
  | .f64 => "f64"

/-- The type of numbers that a value type stands for, if it stands for numbers. -/
def ofValType? : Wasm.ValType → Option NumberType
  | .i32 => some .i32
  | .i64 => some .i64
  | .f32 => some .f32
  | .f64 => some .f64
  | .v128 | .ref _ => none

end NumberType

/-- A number. -/
inductive Value where
  /-- A 32-bit integer. -/
  | i32 (value : Int32)
  /-- A 64-bit integer. -/
  | i64 (value : Int64)
  /-- The pattern of a 32-bit floating-point number. -/
  | f32 (bits : UInt32)
  /-- The pattern of a 64-bit floating-point number. -/
  | f64 (bits : UInt64)
deriving DecidableEq, Inhabited

namespace Value

/-- The type of a number. -/
def type : Value → NumberType
  | .i32 _ => .i32
  | .i64 _ => .i64
  | .f32 _ => .f32
  | .f64 _ => .f64

/-- The pattern of a number. -/
def bits : Value → Nat
  | .i32 value => value.toUInt32.toNat
  | .i64 value => value.toUInt64.toNat
  | .f32 bits => bits.toNat
  | .f64 bits => bits.toNat

/-- The number of a type that has a pattern. -/
def ofBits (type : NumberType) (bits : Nat) : Value :=
  match type with
  | .i32 => .i32 (Int32.ofBitVec (BitVec.ofNat 32 bits))
  | .i64 => .i64 (Int64.ofBitVec (BitVec.ofNat 64 bits))
  | .f32 => .f32 bits.toUInt32
  | .f64 => .f64 bits.toUInt64

/-- The number of a type that a cell holds, if the cell is one of its patterns. -/
def ofCell? (type : NumberType) (cell : Nat) : Option Value :=
  let value := ofBits type cell
  if value.bits = cell then some value else none

/-- The numbers of some types that cells hold, one cell for each type. -/
def ofCells? : List NumberType → List Nat → Option (List Value)
  | [], [] => some []
  | type :: types, cell :: cells => do
    let value ← ofCell? type cell
    let values ← ofCells? types cells
    return value :: values
  | _, _ => none

/-- A number and its type as text. -/
def text : Value → String
  | .i32 value => toString value.toInt ++ "i32"
  | .i64 value => toString value.toInt ++ "i64"
  | .f32 bits => FloatFormat.single.plainText bits.toNat ++ "f32"
  | .f64 bits => FloatFormat.double.plainText bits.toNat ++ "f64"

end Value

namespace Document

/-- The document of a number, under the name of its type. -/
def ofValue : Value → Document
  | .i32 value => .record [("i32", .integer value.toInt)]
  | .i64 value => .record [("i64", .integer value.toInt)]
  | .f32 bits => .record [("f32", .single bits.toNat)]
  | .f64 bits => .record [("f64", .double bits.toNat)]

/-- A number, which stands alone in a record under the name of its type. -/
def toValue : Typed Value
  | .record [("i32", d)] => (toInt32 d).map .i32
  | .record [("i64", d)] => (toInt64 d).map .i64
  | .record [("f32", d)] => (toSingle d).map .f32
  | .record [("f64", d)] => (toDouble d).map .f64
  | _ => .error (.expected "a number with its type")

/-- The arguments of a call, which may be left out. -/
def toArguments (dialect : Dialect) : Typed (List Value) := fun d => do
  let f ← fields dialect ["args"] d
  f.withDefault "args" (toList toValue) []

end Document

end WasmHost
