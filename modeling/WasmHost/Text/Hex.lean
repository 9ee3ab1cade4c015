import WasmHost.Number.Integer

/-! Lowercase hexadecimal digits. -/

namespace WasmHost

namespace Hex

/-- The digit of a number below sixteen. -/
def digit (n : Nat) : Char := if n < 10 then Char.ofNat (48 + n) else Char.ofNat (87 + n)

/-- A number as a given count of digits, highest first. -/
def ofNat (count n : Nat) : String :=
  String.ofList ((List.range count).map fun place => digit (n / Integer.power 16 (count - 1 - place) % 16))

/-- Bytes as two digits each. -/
def ofBytes (bytes : ByteArray) : String :=
  bytes.foldl (fun text byte => (text.push (digit (byte.toNat / 16))).push (digit (byte.toNat % 16))) ""

/-- The value of a digit of either case. -/
def value? (c : Char) : Option Nat :=
  if '0' ≤ c ∧ c ≤ '9' then some (c.toNat - 48)
  else if 'a' ≤ c ∧ c ≤ 'f' then some (c.toNat - 87)
  else if 'A' ≤ c ∧ c ≤ 'F' then some (c.toNat - 55)
  else none

/-- The bytes that pairs of digits stand for. -/
def toBytes? (text : String) : Option ByteArray :=
  go text.toList .empty
where
  /-- Two digits at a time. -/
  go : List Char → ByteArray → Option ByteArray
    | [], bytes => some bytes
    | [_], _ => none
    | high :: low :: rest, bytes =>
      match value? high, value? low with
      | some h, some l => go rest (bytes.push (16 * h + l).toUInt8)
      | _, _ => none

/-- The number that digits stand for. -/
def toNat? (text : String) : Option Nat :=
  if text.isEmpty then none
  else text.toList.foldlM (fun n c => (value? c).map (16 * n + ·)) 0

end Hex

end WasmHost
