import WasmHost.Text.Hex
import WasmHost.Text.Utf8

/-! Segments of addresses, in which a percent sign and two digits stand for a byte. -/

namespace WasmHost.Http

namespace Percent

/-- The byte that two bytes stand for if they are digits of either case. -/
def byte? (high low : UInt8) : Option UInt8 := do
  let h ← Hex.value? (Char.ofNat high.toNat)
  let l ← Hex.value? (Char.ofNat low.toNat)
  return (16 * h + l).toUInt8

/-- Bytes with their escapes undone. A percent sign without two digits stands for itself. -/
def decode : List UInt8 → List UInt8
  | 0x25 :: high :: low :: rest =>
    match byte? high low with
    | some byte => byte :: decode rest
    | none => 0x25 :: decode (high :: low :: rest)
  | byte :: rest => byte :: decode rest
  | [] => []

/-- The text that a segment stands for, if it stands for text. -/
def text? (segment : String) : Option String :=
  Utf8.text? ⟨(decode segment.toUTF8.toList).toArray⟩

end Percent

end WasmHost.Http
