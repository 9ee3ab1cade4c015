import WasmHost.Number.Integer

/-! Reading the binary format: bytes, variable-length integers, names and sequences. -/

namespace WasmHost.Wasm

/-- Why bytes are no module. -/
inductive Malformed where
  /-- The bytes ended too early. -/
  | unexpectedEnd
  /-- An integer took more bytes than its width allows. -/
  | integerTooLong
  /-- An integer does not fit its width. -/
  | integerTooLarge
  /-- A name is not valid text. -/
  | badName
  /-- A byte or code has no meaning where it stands. -/
  | unknownCode (what : String) (code : Nat)
  /-- Bytes are left after the end of what they belong to. -/
  | leftover (what : String)
  /-- A count is over the limit for its kind. -/
  | tooMany (what : String)
  /-- The block structure of a function body is broken. -/
  | unbalanced
  /-- A section comes twice or too late. -/
  | sectionOrder
deriving DecidableEq, Repr, Inhabited

/-- A sentence about malformed bytes. -/
def Malformed.message : Malformed → String
  | .unexpectedEnd => "unexpected end of input"
  | .integerTooLong => "integer representation too long"
  | .integerTooLarge => "integer too large"
  | .badName => "malformed name"
  | .unknownCode what code => "unknown " ++ what ++ " " ++ toString code
  | .leftover what => "unexpected content at end of " ++ what
  | .tooMany what => "too many " ++ what
  | .unbalanced => "unbalanced blocks"
  | .sectionOrder => "section out of order"

/-- A reading step takes the bytes and a position, and answers a value with the next position. -/
abbrev Reader := ReaderT ByteArray (StateT Nat (Except Malformed))

namespace Reader

/-- The number of bytes from the position to the end. -/
def remaining : Reader Nat := do return (← read).size - (← get)

/-- Gives up for a reason. -/
def reject {α : Type} (why : Malformed) : Reader α := throw why

/-- The next byte, which stays unread. -/
def peek : Reader Nat := do
  let bytes ← read
  let pos ← get
  if within : pos < bytes.size then return bytes[pos].toNat else reject .unexpectedEnd

/-- The next byte. -/
def byte : Reader Nat := do
  let value ← peek
  modify (· + 1)
  return value

/-- Moves over a number of bytes, which must be there. -/
def take (count : Nat) : Reader ByteArray := do
  let bytes ← read
  let pos ← get
  if bytes.size < pos + count then reject .unexpectedEnd
  set (pos + count)
  return bytes.extract pos (pos + count)

/-- Reads the whole of some bytes with a reader of their own. -/
def whole {α : Type} (what : String) (bytes : ByteArray) (reader : Reader α) : Except Malformed α := do
  let (value, pos) ← (reader.run bytes).run 0
  if pos = bytes.size then return value else throw (.leftover what)

/-- Reads the whole of the next `count` bytes with a reader of their own. -/
def within {α : Type} (what : String) (count : Nat) (reader : Reader α) : Reader α := do
  let bytes ← take count
  match whole what bytes reader with
  | .ok value => return value
  | .error why => reject why

/-- An unsigned integer of a width, seven bits a byte, lowest bits first. -/
def unsigned (width : Nat) : Reader Nat := go (width / 7 + 1) width 0 0
where
  /-- The bits that are still missing bound the value of the last byte. -/
  go : Nat → Nat → Nat → Nat → Reader Nat
    | 0, _, _, _ => reject .integerTooLong
    | more + 1, missing, shift, value => do
      let next ← byte
      let value := value ||| (next % 128) <<< shift
      if missing ≤ 7 then
        if 128 ≤ next then reject .integerTooLong
        else if Integer.modulus missing ≤ next then reject .integerTooLarge
        else return value
      else if next < 128 then return value
      else go more (missing - 7) (shift + 7) value

/-- A signed integer of a width, seven bits a byte, whose last byte carries the sign. -/
def signed (width : Nat) : Reader Int := go (width / 7 + 1) width 0 0
where
  /-- The last byte is read as signed and must repeat the sign in its unused bits. -/
  go : Nat → Nat → Nat → Nat → Reader Int
    | 0, _, _, _ => reject .integerTooLong
    | more + 1, missing, shift, value => do
      let next ← byte
      let last : Int := if next % 128 < 64 then (next % 128 : Nat) else (next % 128 : Nat) - (128 : Int)
      let signedValue : Int := value + last * (Integer.modulus shift : Int)
      if missing ≤ 7 then
        if 128 ≤ next then reject .integerTooLong
        else if last < -(Integer.modulus (missing - 1) : Int) ∨ (Integer.modulus (missing - 1) : Int) ≤ last then
          reject .integerTooLarge
        else return signedValue
      else if next < 128 then return signedValue
      else go more (missing - 7) (shift + 7) (value + (next % 128) * Integer.modulus shift)

/-- An index or a count. -/
def u32 : Reader Nat := unsigned 32

/-- Little-endian bytes as a number. -/
def littleEndian (bytes : ByteArray) : Nat :=
  bytes.toList.foldr (fun next rest => next.toNat + 256 * rest) 0

/-- A fixed number of bytes as a number. -/
def fixed (count : Nat) : Reader Nat := do return littleEndian (← take count)

/-- A number of items, in order. -/
def times {α : Type} (item : Reader α) (count : Nat) : Reader (List α) := go count []
where
  /-- Items gather in reverse. -/
  go : Nat → List α → Reader (List α)
    | 0, items => return items.reverse
    | count + 1, items => do
      let next ← item
      go count (next :: items)

/-- A count, which has a limit, and then as many items. -/
def sequence {α : Type} (what : String) (limit : Nat) (item : Reader α) : Reader (List α) := do
  let count ← u32
  if limit < count then reject (.tooMany what)
  times item count

/-- The longest name, in bytes. -/
def maxName : Nat := 100000

/-- A name: its length in bytes, and then valid text. -/
def name : Reader String := do
  let length ← u32
  if maxName < length then reject (.tooMany "bytes in a name")
  match String.fromUTF8? (← take length) with
  | some text => return text
  | none => reject .badName

end Reader

end WasmHost.Wasm
