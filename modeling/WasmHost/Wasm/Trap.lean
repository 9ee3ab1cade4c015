/-! The ways in which a running guest can fail. -/

namespace WasmHost.Wasm

/-- A trap ends a guest's execution. -/
inductive Trap where
  /-- The guest declared a point unreachable and came to it. -/
  | unreachable
  /-- An access touched bytes outside a memory. -/
  | memoryOutOfBounds
  /-- An access touched elements outside a table. -/
  | tableOutOfBounds
  /-- An indirect call found no function in its table slot. -/
  | uninitializedElement
  /-- An indirect call found a function of another type. -/
  | callTypeMismatch
  /-- An integer was divided by zero. -/
  | divideByZero
  /-- A quotient or a converted number does not fit its integer type. -/
  | integerOverflow
  /-- What is no number was converted to an integer. -/
  | invalidConversion
  /-- Too many calls were open at once. -/
  | stackExhausted
deriving DecidableEq, Repr, Inhabited

/-- The sentence that names a trap. -/
def Trap.message : Trap → String
  | .unreachable => "wasm \x60unreachable\x60 instruction executed"
  | .memoryOutOfBounds => "out of bounds memory access"
  | .tableOutOfBounds => "undefined element: out of bounds table access"
  | .uninitializedElement => "uninitialized element"
  | .callTypeMismatch => "indirect call type mismatch"
  | .divideByZero => "integer divide by zero"
  | .integerOverflow => "integer overflow"
  | .invalidConversion => "invalid conversion to integer"
  | .stackExhausted => "call stack exhausted"

end WasmHost.Wasm
