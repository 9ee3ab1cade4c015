import WasmHost.Error
import WasmHost.Hash.Sip
import WasmHost.Text.Hex
import WasmHost.Wasm.Binary.Scan

/-! Payloads: bytes that are known to be a valid module, with what can be said about them. -/

namespace WasmHost

/-- The digits by which equal contents are recognised. -/
def contentHash (bytes : ByteArray) : String := Hex.ofNat 16 (sipHash bytes).toNat

/-- The bytes of a valid module. -/
structure Payload where
  /-- The bytes. -/
  bytes : ByteArray
  /-- The module that they stand for. -/
  code : Wasm.Module
  /-- The bytes do stand for the module. -/
  parsed : Wasm.Module.parse .all bytes = .ok code

namespace Payload

/-- The payload in some bytes; the name of the module is only for reports. The sections are scanned before they are
known to be those of a valid module. -/
def parse (name : String) (bytes : ByteArray) : Except HostError Payload := do
  let _ ← (Wasm.Scan.ofBytes bytes).mapError fun why => .parseFailed name (.invalid why)
  match parsed : Wasm.Module.parse .all bytes with
  | .ok code => .ok ⟨bytes, code, parsed⟩
  | .error why => .error (.parseFailed name (.invalid why))

/-- The digits by which the payload is recognised. -/
def hash (p : Payload) : String := contentHash p.bytes

/-- What the sections told. -/
def scan (p : Payload) : Wasm.Scan := (Wasm.Scan.ofBytes p.bytes).toOption.getD .empty

/-- What the module offers, in the order of its bytes. -/
def exports (p : Payload) : List Wasm.Export := p.scan.exports

/-- The names of the functions that the module offers. -/
def exportedFunctions (p : Payload) : List String :=
  (p.exports.filter (·.kind = .func)).map (·.name)

/-- The number of functions, imported and defined. -/
def functionCount (p : Payload) : Nat := p.scan.functionCount

/-- A payload in diagnostics. -/
def describe (p : Payload) : String :=
  "ParsedModule \x7b content_hash: \"" ++ p.hash ++ "\", bytes_len: " ++ toString p.bytes.size
    ++ ", functions: " ++ toString p.functionCount ++ ", .. \x7d"

end Payload

/-- Payloads have at most a certain size. -/
def checkSize (name : String) (size : Nat) : Except HostError Unit :=
  if maxPayload < size then .error (.parseFailed name (.tooLarge size)) else .ok ()

end WasmHost
