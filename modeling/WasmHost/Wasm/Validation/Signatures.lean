import WasmHost.Wasm.Instr

/-! The types of the instructions that compute on numbers and vectors. -/

namespace WasmHost.Wasm

/-- The operands and the result of a conversion. -/
def Conversion.signature : Conversion → List ValType × List ValType
  | .wrap => ([.i64], [.i32])
  | .extend _ => ([.i32], [.i64])
  | .trunc target source _ | .truncSat target source _ => ([source.valType], [target.valType])
  | .convert target source _ => ([source.valType], [target.valType])
  | .demote => ([.f64], [.f32])
  | .promote => ([.f32], [.f64])
  | .toBits .f32 => ([.f32], [.i32])
  | .toBits .f64 => ([.f64], [.i64])
  | .ofBits .f32 => ([.i32], [.f32])
  | .ofBits .f64 => ([.i64], [.f64])

/-- The operands and the result of a computation on numbers. -/
def NumericOp.signature : NumericOp → List ValType × List ValType
  | .intUnary type _ => ([type.valType], [type.valType])
  | .intBinary type _ => ([type.valType, type.valType], [type.valType])
  | .intEqz type => ([type.valType], [.i32])
  | .intCompare type _ => ([type.valType, type.valType], [.i32])
  | .floatUnary type _ => ([type.valType], [type.valType])
  | .floatBinary type _ => ([type.valType, type.valType], [type.valType])
  | .floatCompare type _ => ([type.valType, type.valType], [.i32])
  | .convert op => op.signature

/-- Whether a computation is allowed in constant expressions: sums, differences and products of integers. -/
def NumericOp.isConstant : NumericOp → Bool
  | .intBinary _ .add | .intBinary _ .sub | .intBinary _ .mul => true
  | _ => false

/-- The scalar type that a lane is read as. -/
def Shape.scalar : Shape → ValType
  | .int .i64x2 => .i64
  | .int _ => .i32
  | .float .f32x4 => .f32
  | .float .f64x2 => .f64

/-- The operands and the result of a computation on vectors. -/
def VectorOp.signature : VectorOp → List ValType × List ValType
  | .not | .intUnary .. | .floatUnary .. | .extend .. | .extAddPairwise .. | .convert .. =>
    ([.v128], [.v128])
  | .bitwise .. | .swizzle | .swizzleLow | .intBinary .. | .intCompare .. | .narrow .. | .extMul .. | .dot
  | .floatBinary .. | .floatCompare .. | .dotBytes => ([.v128, .v128], [.v128])
  | .bitSelect | .mulAdd .. | .laneSelect .. | .dotBytesAdd => ([.v128, .v128, .v128], [.v128])
  | .anyTrue | .allTrue .. | .bitMask .. => ([.v128], [.i32])
  | .splat shape => ([shape.scalar], [.v128])
  | .shift .. => ([.v128, .i32], [.v128])

/-- The operands and the result of an atomic access, after the address. -/
def AtomicOp.signature : AtomicOp → List ValType × List ValType
  | .notify => ([.i32], [.i32])
  | .wait type => ([type.valType, .i64], [.i32])
  | .load type => ([], [type.valType])
  | .store type => ([type.valType], [])
  | .update type => ([type.valType], [type.valType])
  | .exchange type => ([type.valType, type.valType], [type.valType])

end WasmHost.Wasm
