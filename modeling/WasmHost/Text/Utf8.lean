/-! Text from bytes: the strict reading, and the lenient one that puts a mark for what is broken. -/

namespace WasmHost

namespace Utf8

/-- The mark for bytes that are no text. -/
def replacement : Char := '\uFFFD'

/-- What a first byte announces: the number of bytes that follow it, and the range of the first of them. -/
def lead? (b : UInt8) : Option (Nat × UInt8 × UInt8) :=
  if 0xC2 ≤ b && b ≤ 0xDF then some (1, 0x80, 0xBF)
  else if b = 0xE0 then some (2, 0xA0, 0xBF)
  else if b = 0xED then some (2, 0x80, 0x9F)
  else if 0xE1 ≤ b && b ≤ 0xEF then some (2, 0x80, 0xBF)
  else if b = 0xF0 then some (3, 0x90, 0xBF)
  else if 0xF1 ≤ b && b ≤ 0xF3 then some (3, 0x80, 0xBF)
  else if b = 0xF4 then some (3, 0x80, 0x8F)
  else none

/-- The longest start of some bytes that continues a character, up to a number of bytes. -/
def continuation (count : Nat) (low high : UInt8) (bytes : List UInt8) : List UInt8 :=
  match count, bytes with
  | count + 1, b :: rest =>
    if low ≤ b && b ≤ high then b :: continuation count 0x80 0xBF rest else []
  | _, _ => []

/-- The character of a first byte and the bytes that continue it. -/
def assemble (first : UInt8) (more : List UInt8) : Char :=
  let kept := match more.length with
    | 1 => first.toNat % 32
    | 2 => first.toNat % 16
    | _ => first.toNat % 8
  Char.ofNat (more.foldl (fun n b => 64 * n + b.toNat % 64) kept)

/-- The lenient reading: every longest broken start of a character becomes one mark. -/
def lossy (bytes : List UInt8) : List Char :=
  go bytes.length bytes
where
  /-- Every step uses up a byte. -/
  go : Nat → List UInt8 → List Char
    | 0, _ => []
    | _ + 1, [] => []
    | fuel + 1, b :: rest =>
      if b < 0x80 then Char.ofNat b.toNat :: go fuel rest
      else
        match lead? b with
        | none => replacement :: go fuel rest
        | some (count, low, high) =>
          let more := continuation count low high rest
          let rest := rest.drop more.length
          (if more.length = count then assemble b more else replacement) :: go fuel rest

/-- The lenient reading as a string. -/
def lossyText (bytes : ByteArray) : String := String.ofList (lossy bytes.toList)

/-- The strict reading. -/
def text? (bytes : ByteArray) : Option String := String.fromUTF8? bytes

end Utf8

end WasmHost
