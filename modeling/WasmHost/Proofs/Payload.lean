import WasmHost.Payload
import WasmHost.Proofs.Wasm.Scan

/-! Payloads: which bytes are accepted, and what is known of them then. -/

namespace WasmHost.Payload

/-- The bytes of the smallest module: the mark of the format and its version. -/
def smallest : ByteArray := ⟨#[0x00, 0x61, 0x73, 0x6D, 1, 0, 0, 0]⟩

/-- What the parser accepts stands for a module. -/
theorem exists_code {bytes : ByteArray} (valid : (Wasm.Module.parse .all bytes).isOk) :
    ∃ code, Wasm.Module.parse .all bytes = .ok code := by
  cases parsed : Wasm.Module.parse .all bytes with
  | error why => simp [parsed, Except.isOk, Except.toBool] at valid
  | ok code => exact ⟨code, rfl⟩

/-- The smallest module is valid. -/
theorem exists_code_of_smallest : ∃ code, Wasm.Module.parse .all smallest = .ok code :=
  -- Eight bytes are few enough to run the parser on them.
  exists_code (by decide +kernel)

/-- Valid bytes are accepted, whatever the name. -/
theorem parse_of_code {bytes : ByteArray} {code : Wasm.Module} (parsed : Wasm.Module.parse .all bytes = .ok code)
    (name : String) : parse name bytes = .ok ⟨bytes, code, parsed⟩ := by
  obtain ⟨s, _, scanned, _⟩ := Wasm.Scan.exists_of_parse parsed
  unfold parse
  rw [scanned, mapError_ok]
  refine bind_eq_ok_iff.2 ⟨s, rfl, ?_⟩
  -- The parser is asked once, and its answer is known.
  split
  · rename_i other parsed'
    cases parsed.symm.trans parsed'
    rfl
  · rename_i why failed
    cases parsed.symm.trans failed

/-- A payload stands for the very bytes that it was read from. -/
theorem bytes_of_parse {name : String} {bytes : ByteArray} {p : Payload} (parsed : parse name bytes = .ok p) :
    p.bytes = bytes := by
  obtain ⟨_, _, rest⟩ := bind_eq_ok parsed
  split at rest
  · cases rest
    rfl
  · cases rest

/-- The scan of a payload tells what its module has. -/
theorem exists_describes (p : Payload) : ∃ last, Wasm.Reader.Describes last p.code p.scan := by
  obtain ⟨s, last, scanned, describes⟩ := Wasm.Scan.exists_of_parse p.parsed
  have told : p.scan = s := by rw [scan, scanned]; rfl
  exact ⟨last, told ▸ describes⟩

/-- What a payload offers is what its module exports. -/
theorem exports_eq (p : Payload) : p.exports = p.code.exports := by
  obtain ⟨_, describes⟩ := p.exists_describes
  exact describes.exports

/-- The functions are counted without an overflow. -/
theorem functionCount_eq (p : Payload) : p.functionCount = p.code.importedFunctions.length + p.code.functions.length ∧
    p.functionCount < 2 ^ 32 := by
  obtain ⟨_, describes⟩ := p.exists_describes
  -- Both sections are limited, so their sum is far below the modulus.
  have imported : p.code.importedFunctions.length ≤ 1000000 := (List.length_filterMap_le _ _).trans describes.few
  have defined : p.code.functions.length ≤ 1000000 := describes.limited
  have total : p.functionCount = p.code.importedFunctions.length + p.code.functions.length := by
    rw [functionCount, Wasm.Scan.functionCount, describes.imported, describes.defined, UInt32.toNat_add]
    simp only [Nat.toUInt32, UInt32.toNat_ofNat']
    omega
  omega

end WasmHost.Payload
