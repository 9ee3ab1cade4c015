import WasmHost.Wasm.Binary.Module
import WasmHost.Wasm.Validation.Module

/-! Bytes as a valid module: the header first, then every section, then the rules between them. -/

namespace WasmHost.Wasm

/-- Why bytes are no valid module. -/
inductive ParseError where
  /-- There is no room for a header. -/
  | tooSmall
  /-- The bytes start like something else. -/
  | badMagic
  /-- The bytes are a component, which combines modules. -/
  | component
  /-- The version is unknown. -/
  | badVersion
  /-- The sections cannot be read. -/
  | malformed (why : Malformed)
  /-- The module breaks a rule. -/
  | invalid (why : Invalid)
deriving DecidableEq, Repr, Inhabited

/-- The reason that is reported for bytes that are no valid module. -/
def ParseError.message : ParseError → String
  | .tooSmall => "file too small"
  | .badMagic => "bad magic number"
  | .component => "components are not supported, expected a core module"
  | .badVersion => "unknown binary version"
  | .malformed why => why.message
  | .invalid why => why.message

/-- The header: enough bytes, the magic number, the layer of core modules and their version. -/
def checkHeader (bytes : ByteArray) : Except ParseError Unit := do
  if bytes.size < headerSize then throw .tooSmall
  if (bytes.extract 0 4).toList ≠ magic then throw .badMagic
  let version := (bytes.extract 4 6).toList
  let layer := (bytes.extract 6 8).toList
  if layer = [1, 0] then throw .component
  if layer ≠ [0, 0] ∨ version ≠ [1, 0] then throw .badVersion

/-- The valid module that bytes stand for. -/
def Module.parse (f : Features) (bytes : ByteArray) : Except ParseError Module := do
  checkHeader bytes
  let m ← (Module.ofSections bytes).mapError .malformed
  (m.check f).mapError .invalid
  return m

end WasmHost.Wasm
