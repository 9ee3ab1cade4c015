import WasmHost.Text.Utf8

/-! Text that may begin with a mark of its encoding. -/

namespace WasmHost

namespace Marked

/-- Pairs of bytes as numbers; a single byte at the end counts as half a pair. -/
def units (highFirst : Bool) : List UInt8 → List (Option Nat)
  | first :: second :: rest =>
    let (high, low) := if highFirst then (first, second) else (second, first)
    some (256 * high.toNat + low.toNat) :: units highFirst rest
  | [_] => [none]
  | [] => []

/-- Whether a number is the first half of a pair that stands for one character. -/
def isHigh (unit : Nat) : Bool := 0xD800 ≤ unit && unit < 0xDC00

/-- Whether a number is the second half of a pair that stands for one character. -/
def isLow (unit : Nat) : Bool := 0xDC00 ≤ unit && unit < 0xE000

/-- The characters that numbers stand for, with a mark for what is broken. -/
def ofUnits : List (Option Nat) → List Char
  | some high :: some low :: rest =>
    if isHigh high && isLow low then
      Char.ofNat (0x10000 + 1024 * (high - 0xD800) + (low - 0xDC00)) :: ofUnits rest
    else character high :: ofUnits (some low :: rest)
  | some high :: rest =>
    -- Half a pair at the end spoils the half character before it, and both get one mark.
    if isHigh high && !rest.isEmpty then [Utf8.replacement] else character high :: ofUnits rest
  | none :: rest => Utf8.replacement :: ofUnits rest
  | [] => []
where
  /-- The character of a number that stands alone. -/
  character (unit : Nat) : Char :=
    if isHigh unit || isLow unit then Utf8.replacement else Char.ofNat unit

/-- The lenient reading of bytes whose first bytes may tell the encoding. -/
def text (bytes : ByteArray) : String :=
  match bytes.toList with
  | 0xEF :: 0xBB :: 0xBF :: rest => String.ofList (Utf8.lossy rest)
  | 0xFF :: 0xFE :: rest => String.ofList (ofUnits (units false rest))
  | 0xFE :: 0xFF :: rest => String.ofList (ofUnits (units true rest))
  | all => String.ofList (Utf8.lossy all)

end Marked

end WasmHost
