/-! The parts of WebAssembly that an engine may or may not accept. -/

namespace WasmHost.Wasm

/-- Extensions beyond the core that every engine here accepts. -/
structure Features where
  /-- 128-bit vectors. -/
  vectors : Bool
  /-- Vector instructions whose results may differ between machines. -/
  relaxedVectors : Bool
  /-- Shared memories and atomic instructions. -/
  threads : Bool
  /-- Exceptions and their tags. -/
  exceptions : Bool
  /-- References to functions of one type. -/
  typedReferences : Bool
  /-- Structures, arrays and 31-bit integers. -/
  heapTypes : Bool
  /-- References to values of the embedder. -/
  foreignReferences : Bool
deriving DecidableEq, Repr, Inhabited

/-- Every extension. -/
def Features.all : Features := ⟨true, true, true, true, true, true, true⟩

/-- Why a module is not valid. -/
inductive Invalid where
  /-- An operand has another type than the one that is needed. -/
  | typeMismatch
  /-- An index names nothing. -/
  | unknownIndex (what : String) (index : Nat)
  /-- Something belongs to an extension that is not accepted. -/
  | notAccepted (what : String)
  /-- A size or a count is over its limit. -/
  | outOfRange (what : String)
  /-- An instruction stands in a constant expression but is not constant. -/
  | notConstant
  /-- Something that cannot change is written. -/
  | notWritable (what : String)
  /-- A local is read before it holds a value. -/
  | uninitializedLocal (index : Nat)
  /-- A function is referred to in code but nowhere else. -/
  | undeclaredReference (index : Nat)
  /-- Two exports have one name. -/
  | duplicateExport (name : String)
  /-- Two parts of a module that must agree do not. -/
  | inconsistent (what : String)
deriving DecidableEq, Repr, Inhabited

/-- A sentence about an invalid module. -/
def Invalid.message : Invalid → String
  | .typeMismatch => "type mismatch"
  | .unknownIndex what index => "unknown " ++ what ++ " " ++ toString index
  | .notAccepted what => what ++ " support is not enabled"
  | .outOfRange what => what ++ " out of range"
  | .notConstant => "constant expression required"
  | .notWritable what => what ++ " is immutable"
  | .uninitializedLocal index => "uninitialized local " ++ toString index
  | .undeclaredReference index => "undeclared function reference " ++ toString index
  | .duplicateExport name => "duplicate export name " ++ name
  | .inconsistent what => what ++ " have inconsistent lengths"

end WasmHost.Wasm
