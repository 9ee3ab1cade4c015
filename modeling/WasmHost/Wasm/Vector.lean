/-! The instructions on 128-bit vectors, grouped by the shape of their operands. -/

namespace WasmHost.Wasm

/-- A vector seen as lanes of integers. -/
inductive IntShape where
  /-- Sixteen bytes. -/
  | i8x16
  /-- Eight 16-bit lanes. -/
  | i16x8
  /-- Four 32-bit lanes. -/
  | i32x4
  /-- Two 64-bit lanes. -/
  | i64x2
deriving DecidableEq, Repr, Inhabited

/-- A vector seen as lanes of floating-point numbers. -/
inductive FloatShape where
  /-- Four 32-bit numbers. -/
  | f32x4
  /-- Two 64-bit numbers. -/
  | f64x2
deriving DecidableEq, Repr, Inhabited

/-- A vector seen as lanes. -/
inductive Shape where
  /-- Integer lanes. -/
  | int (shape : IntShape)
  /-- Floating-point lanes. -/
  | float (shape : FloatShape)
deriving DecidableEq, Repr, Inhabited

namespace IntShape

/-- The width of a lane in bits. -/
def width : IntShape → Nat
  | .i8x16 => 8
  | .i16x8 => 16
  | .i32x4 => 32
  | .i64x2 => 64

/-- The number of lanes. -/
def lanes (shape : IntShape) : Nat := 128 / shape.width

end IntShape

namespace Shape

/-- The width of a lane in bits. -/
def width : Shape → Nat
  | .int shape => shape.width
  | .float .f32x4 => 32
  | .float .f64x2 => 64

/-- The number of lanes. -/
def lanes (shape : Shape) : Nat := 128 / shape.width

end Shape

/-- Operations on each integer lane of one vector. -/
inductive VectorIntUnary where
  /-- The absolute value. -/
  | abs
  /-- The negation. -/
  | neg
  /-- The number of one bits. -/
  | popcnt
deriving DecidableEq, Repr, Inhabited

/-- Operations on the matching integer lanes of two vectors. -/
inductive VectorIntBinary where
  /-- The wrapping sum. -/
  | add
  /-- The wrapping difference. -/
  | sub
  /-- The wrapping product. -/
  | mul
  /-- The sum, clamped to the signed range. -/
  | addSatS
  /-- The sum, clamped to the unsigned range. -/
  | addSatU
  /-- The difference, clamped to the signed range. -/
  | subSatS
  /-- The difference, clamped to the unsigned range. -/
  | subSatU
  /-- The smaller signed lane. -/
  | minS
  /-- The smaller unsigned lane. -/
  | minU
  /-- The larger signed lane. -/
  | maxS
  /-- The larger unsigned lane. -/
  | maxU
  /-- The unsigned average, rounded up. -/
  | avgrU
  /-- The product of two fractions of fifteen bits, rounded and clamped. -/
  | q15MulrSatS
  /-- The product of two fractions of fifteen bits, rounded and wrapped. -/
  | q15MulrWrapS
deriving DecidableEq, Repr, Inhabited

/-- Comparisons of matching integer lanes, which give lanes of all ones or all zeros. -/
inductive VectorIntCompare where
  /-- Equal. -/
  | eq
  /-- Different. -/
  | ne
  /-- Signed less. -/
  | ltS
  /-- Unsigned less. -/
  | ltU
  /-- Signed greater. -/
  | gtS
  /-- Unsigned greater. -/
  | gtU
  /-- Signed less or equal. -/
  | leS
  /-- Unsigned less or equal. -/
  | leU
  /-- Signed greater or equal. -/
  | geS
  /-- Unsigned greater or equal. -/
  | geU
deriving DecidableEq, Repr, Inhabited

/-- Shifts of every lane by one amount. -/
inductive VectorShift where
  /-- To the left. -/
  | shl
  /-- To the right with the sign. -/
  | shrS
  /-- To the right with zeros. -/
  | shrU
deriving DecidableEq, Repr, Inhabited

/-- Operations on each floating-point lane of one vector. -/
inductive VectorFloatUnary where
  /-- The absolute value. -/
  | abs
  /-- The negation. -/
  | neg
  /-- The square root. -/
  | sqrt
  /-- Rounding up. -/
  | ceil
  /-- Rounding down. -/
  | floor
  /-- Rounding toward zero. -/
  | trunc
  /-- Rounding to nearest. -/
  | nearest
deriving DecidableEq, Repr, Inhabited

/-- Operations on the matching floating-point lanes of two vectors. -/
inductive VectorFloatBinary where
  /-- The sum. -/
  | add
  /-- The difference. -/
  | sub
  /-- The product. -/
  | mul
  /-- The quotient. -/
  | div
  /-- The smaller number. -/
  | min
  /-- The larger number. -/
  | max
  /-- The first number unless the second is below it. -/
  | pmin
  /-- The first number unless the second is above it. -/
  | pmax
deriving DecidableEq, Repr, Inhabited

/-- Comparisons of matching floating-point lanes. -/
inductive VectorFloatCompare where
  /-- Equal. -/
  | eq
  /-- Different. -/
  | ne
  /-- Less. -/
  | lt
  /-- Greater. -/
  | gt
  /-- Less or equal. -/
  | le
  /-- Greater or equal. -/
  | ge
deriving DecidableEq, Repr, Inhabited

/-- Bitwise operations on whole vectors. -/
inductive VectorBitwise where
  /-- Conjunction. -/
  | and
  /-- Conjunction with the complement of the second operand. -/
  | andNot
  /-- Disjunction. -/
  | or
  /-- Exclusive disjunction. -/
  | xor
deriving DecidableEq, Repr, Inhabited

/-- Conversions of lanes from one shape to another. -/
inductive VectorConvert where
  /-- Single lanes truncated to 32-bit integers; those that do not fit become the least one. -/
  | i32x4TruncF32x4
  /-- Single lanes truncated to 32-bit integers, clamped. -/
  | i32x4TruncSatF32x4 (signed : Bool)
  /-- Double lanes truncated to the low 32-bit integers, clamped, and zeros above. -/
  | i32x4TruncSatF64x2Zero (signed : Bool)
  /-- 32-bit integers as single numbers. -/
  | f32x4ConvertI32x4 (signed : Bool)
  /-- The low 32-bit integers as double numbers. -/
  | f64x2ConvertLowI32x4 (signed : Bool)
  /-- Double numbers as the low single numbers, and zeros above. -/
  | f32x4DemoteF64x2Zero
  /-- The low single numbers as double numbers. -/
  | f64x2PromoteLowF32x4
deriving DecidableEq, Repr, Inhabited

/-- Vector instructions without immediates, by the number and type of their operands. -/
inductive VectorOp where
  /-- The complement of every bit. -/
  | not
  /-- A bitwise operation on two vectors. -/
  | bitwise (op : VectorBitwise)
  /-- The bits of the first vector where the third has ones, and of the second elsewhere. -/
  | bitSelect
  /-- Whether any bit is set. -/
  | anyTrue
  /-- Whether every lane has a bit set. -/
  | allTrue (shape : IntShape)
  /-- The top bits of all lanes. -/
  | bitMask (shape : IntShape)
  /-- A scalar copied to every lane. -/
  | splat (shape : Shape)
  /-- Bytes of the first vector picked by the second; places past the end give zero. -/
  | swizzle
  /-- Bytes of the first vector picked by the low bits of the second; a top bit gives zero. -/
  | swizzleLow
  /-- Integer lanes, one operand. -/
  | intUnary (shape : IntShape) (op : VectorIntUnary)
  /-- Integer lanes, two operands. -/
  | intBinary (shape : IntShape) (op : VectorIntBinary)
  /-- Integer lanes, compared. -/
  | intCompare (shape : IntShape) (op : VectorIntCompare)
  /-- Integer lanes, shifted. -/
  | shift (shape : IntShape) (op : VectorShift)
  /-- Lanes of two vectors narrowed with clamping; the shape is the result's. -/
  | narrow (shape : IntShape) (signed : Bool)
  /-- The lanes of one half widened; the shape is the result's. -/
  | extend (shape : IntShape) (high signed : Bool)
  /-- The products of the widened lanes of one half; the shape is the result's. -/
  | extMul (shape : IntShape) (high signed : Bool)
  /-- The sums of neighbouring widened lanes; the shape is the result's. -/
  | extAddPairwise (shape : IntShape) (signed : Bool)
  /-- The sums of neighbouring products of 16-bit lanes. -/
  | dot
  /-- Floating-point lanes, one operand. -/
  | floatUnary (shape : FloatShape) (op : VectorFloatUnary)
  /-- Floating-point lanes, two operands. -/
  | floatBinary (shape : FloatShape) (op : VectorFloatBinary)
  /-- Floating-point lanes, compared. -/
  | floatCompare (shape : FloatShape) (op : VectorFloatCompare)
  /-- Lanes of another shape. -/
  | convert (op : VectorConvert)
  /-- A product and a sum, or with `negated` a difference, of three vectors. -/
  | mulAdd (shape : FloatShape) (negated : Bool)
  /-- Lanes of the first vector where the third has its top bit set, and of the second elsewhere. -/
  | laneSelect (shape : IntShape)
  /-- The clamped sums of neighbouring products of signed and unsigned bytes. -/
  | dotBytes
  /-- The sums of two neighbouring such sums, added to a third vector. -/
  | dotBytesAdd
deriving DecidableEq, Repr, Inhabited

/-- How a vector load fills a vector. -/
inductive VectorLoad where
  /-- All sixteen bytes. -/
  | full
  /-- Eight bytes, widened to the given shape. -/
  | widen (shape : IntShape) (signed : Bool)
  /-- One lane, copied to all. -/
  | splat (shape : IntShape)
  /-- One lane, with zeros above. -/
  | zero (shape : IntShape)
deriving DecidableEq, Repr, Inhabited

/-- The number of bytes that a vector load reads. -/
def VectorLoad.bytes : VectorLoad → Nat
  | .full => 16
  | .widen .. => 8
  | .splat shape | .zero shape => shape.width / 8

end WasmHost.Wasm
