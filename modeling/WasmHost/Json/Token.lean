import WasmHost.Document.Basic
import WasmHost.Text.Hex
import WasmHost.Text.Utf8

/-! The tokens of JSON: marks, words, texts and numbers. -/

namespace WasmHost.Json

/-- A token. -/
inductive Token where
  /-- `[` -/
  | openList
  /-- `]` -/
  | closeList
  /-- `{` -/
  | openRecord
  /-- `}` -/
  | closeRecord
  /-- `,` -/
  | comma
  /-- `:` -/
  | colon
  /-- A text; without a value it has the right form but denotes none. -/
  | text (value : Option String)
  /-- Any other value: a word or a number. -/
  | value (document : Document)
deriving Repr, Inhabited

/-- Why bytes are no JSON. -/
inductive Fault where
  /-- The text ended too early. -/
  | unexpectedEnd
  /-- A character stands where none of its kind may. -/
  | unexpected (byte : UInt8)
  /-- A number has not the right form. -/
  | badNumber
  /-- A text has not the right form. -/
  | badText
  /-- Something follows the value. -/
  | trailing
deriving DecidableEq, Repr, Inhabited

/-- A sentence about what is no JSON. -/
def Fault.message : Fault → String
  | .unexpectedEnd => "EOF while parsing a value"
  | .unexpected _ => "expected value"
  | .badNumber => "invalid number"
  | .badText => "invalid string"
  | .trailing => "trailing characters"

/-- The code of an ASCII character. -/
def code (c : Char) : UInt8 := c.toNat.toUInt8

/-- Whether a byte is a decimal digit. -/
def isDigit (b : UInt8) : Bool := code '0' ≤ b && b ≤ code '9'

/-- The value of a decimal digit. -/
def digitValue (b : UInt8) : Nat := b.toNat - 48

/-- The digits that bytes start with, and the rest. -/
def spanDigits (bytes : List UInt8) : List UInt8 × List UInt8 := bytes.span isDigit

/-- A number as it is written. -/
structure Numeral where
  /-- Whether it starts with a minus sign. -/
  negative : Bool
  /-- The digits before the point. -/
  whole : List UInt8
  /-- The digits after the point, if there is one. -/
  fraction : List UInt8
  /-- The sign and the digits of the exponent, if there is one. -/
  exponent : Option (Bool × List UInt8)
deriving DecidableEq, Repr

/-- The largest significand that is gathered digit by digit. -/
def significandLimit : Nat := Integer.modulus 64 - 1

/-- Gathers digits into a significand while it fits; gives it with the digits that are left. -/
def gather (significand : Nat) : List UInt8 → Nat × List UInt8
  | [] => (significand, [])
  | d :: rest =>
    let next := significand * 10 + digitValue d
    if significandLimit < next then (significand, d :: rest) else gather next rest

/-- Powers of ten as 64-bit patterns, up to the largest finite one. -/
def powerOfTen (exponent : Nat) : Nat := FloatFormat.double.ofDecimal false ⟨1, exponent⟩

/-- The largest power of ten that is finite. -/
def maxPower : Nat := 308

/-- A significand times a power of ten, by one rounded multiplication or division for every step of at
most 308 powers. The result may differ from the nearest number in the last place. -/
def scale (significand : Nat) (exponent : Int) : Option Nat :=
  let f := FloatFormat.double
  go (exponent.natAbs / maxPower + 1) (f.ofInt significand) exponent
where
  /-- Only tiny numbers take more than one step. -/
  go : Nat → Nat → Int → Option Nat
    | 0, value, _ => some value
    | fuel + 1, value, exponent =>
      let f := FloatFormat.double
      if exponent.natAbs ≤ maxPower then
        if 0 ≤ exponent then
          let product := f.mul value (powerOfTen exponent.toNat)
          if product = f.infinity false then none else some product
        else some (f.div value (powerOfTen exponent.natAbs))
      else if value = 0 then some value
      else if 0 ≤ exponent then none
      else go fuel (f.div value (powerOfTen maxPower)) (exponent + maxPower)

/-- The largest exponent that is gathered digit by digit. -/
def exponentLimit : Nat := Integer.modulus 31 - 1

/-- The number that a numeral denotes: an integer of 64 bits if it is written as one, else a
floating-point number; too large ones denote nothing. -/
def Numeral.value (n : Numeral) : Document :=
  let double (magnitude : Option Nat) : Document :=
    match magnitude with
    | some bits => .double (FloatFormat.double.withSign n.negative bits)
    | none => .unreadable
  let (significand, skipped) := gather 0 n.whole
  if skipped.isEmpty ∧ n.fraction.isEmpty ∧ n.exponent.isNone then
    -- Negative zero and what is below the least integer are floating-point numbers.
    if !n.negative then .integer significand
    else if significand = 0 ∨ Integer.modulus 63 < significand then double (some (FloatFormat.double.ofInt significand))
    else .integer (-(significand : Int))
  else
    let (significand, rest) := gather significand n.fraction
    -- Digits that do not fit count as powers of ten before the point, and not at all after it.
    let place : Int := (skipped.length : Int) - ((n.fraction.length - rest.length : Nat) : Int)
    match n.exponent with
    | none => double (scale significand place)
    | some (down, digits) =>
      let amount := digits.foldl (fun sum d => 10 * sum + digitValue d) 0
      if exponentLimit < amount then
        if significand ≠ 0 ∧ !down then .unreadable else double (some 0)
      else double (scale significand (if down then place - amount else place + amount))

/-- The digits after a point, if there is one. -/
def fractionOf (bytes : List UInt8) : Except Fault (List UInt8 × List UInt8) :=
  match bytes with
  | b :: more =>
    if b = code '.' then
      let (digits, rest) := spanDigits more
      if digits.isEmpty then .error .badNumber else .ok (digits, rest)
    else .ok ([], b :: more)
  | [] => .ok ([], [])

/-- The sign and the digits of an exponent, if there is one. -/
def exponentOf (bytes : List UInt8) : Except Fault (Option (Bool × List UInt8) × List UInt8) :=
  match bytes with
  | b :: more =>
    if b = code 'e' ∨ b = code 'E' then
      let (down, more) := match more with
        | s :: after => if s = code '-' then (true, after) else if s = code '+' then (false, after) else (false, more)
        | [] => (false, more)
      let (digits, rest) := spanDigits more
      if digits.isEmpty then .error .badNumber else .ok (some (down, digits), rest)
    else .ok (none, b :: more)
  | [] => .ok (none, [])

/-- A numeral, after a minus sign if there is one. -/
def numeral (negative : Bool) (bytes : List UInt8) : Except Fault (Numeral × List UInt8) := do
  let (whole, rest) := spanDigits bytes
  -- A leading zero stands alone.
  if whole.isEmpty ∨ (1 < whole.length ∧ whole.head? = some (code '0')) then throw .badNumber
  let (fraction, rest) ← fractionOf rest
  let (exponent, rest) ← exponentOf rest
  return (⟨negative, whole, fraction, exponent⟩, rest)

/-- A piece of a text: bytes that stand for themselves, or half of a surrogate pair, or none. -/
inductive Piece where
  /-- Bytes of text. -/
  | bytes (value : List UInt8)
  /-- A number that is half of a character. -/
  | surrogate (unit : Nat)
deriving Repr

/-- The bytes of a character. -/
def charBytes (c : Char) : List UInt8 := (String.singleton c).toUTF8.toList

/-- The characters of the short escapes. -/
def shortEscape? (b : UInt8) : Option UInt8 :=
  if b = code '"' then some (code '"')
  else if b = code '\\' then some (code '\\')
  else if b = code '/' then some (code '/')
  else if b = code 'b' then some 0x08
  else if b = code 'f' then some 0x0C
  else if b = code 'n' then some 0x0A
  else if b = code 'r' then some 0x0D
  else if b = code 't' then some 0x09
  else none

/-- The value of four hexadecimal digits. -/
def hex4? : List UInt8 → Option Nat
  | [a, b, c, d] =>
    [a, b, c, d].foldlM (fun n x => (Hex.value? (Char.ofNat x.toNat)).map (16 * n + ·)) 0
  | _ => none

/-- The pieces of a text up to its closing quote, in reverse, and the rest.
Every step uses up a byte. -/
def pieces : Nat → List UInt8 → List Piece → Except Fault (List Piece × List UInt8)
  | 0, _, _ => .error .badText
  | _ + 1, [], _ => .error .badText
  | fuel + 1, b :: rest, done =>
    if b = code '"' then .ok (done, rest)
    else if b < 0x20 then .error .badText
    else if b ≠ code '\\' then pieces fuel rest (.bytes [b] :: done)
    else
      match rest with
      | [] => .error .badText
      | e :: rest =>
        if e = code 'u' then
          match hex4? (rest.take 4) with
          | none => .error .badText
          | some unit =>
            let piece := if 0xD800 ≤ unit ∧ unit < 0xE000 then .surrogate unit else .bytes (charBytes (Char.ofNat unit))
            pieces fuel (rest.drop 4) (piece :: done)
        else
          match shortEscape? e with
          | some value => pieces fuel rest (.bytes [value] :: done)
          | none => .error .badText

/-- The bytes of a text, whose halves of characters must stand in pairs; pieces come in order. -/
def joinPieces : List Piece → ByteArray → Option ByteArray
  | [], bytes => some bytes
  | .bytes value :: rest, bytes => joinPieces rest (value.foldl ByteArray.push bytes)
  | .surrogate high :: .surrogate low :: rest, bytes =>
    if high < 0xDC00 ∧ 0xDC00 ≤ low then
      let c := Char.ofNat (0x10000 + (high - 0xD800) * 0x400 + (low - 0xDC00))
      joinPieces rest ((charBytes c).foldl ByteArray.push bytes)
    else none
  | .surrogate _ :: _, _ => none

/-- A text after its opening quote. -/
def text (bytes : List UInt8) : Except Fault (Option String × List UInt8) := do
  let (found, rest) ← pieces (bytes.length + 1) bytes []
  return ((joinPieces found.reverse .empty).bind Utf8.text?, rest)

/-- Removes a word from the start. -/
def word (name : String) (document : Document) (bytes : List UInt8) : Except Fault (Token × List UInt8) :=
  let wanted := name.toUTF8.toList
  if bytes.take wanted.length = wanted then .ok (.value document, bytes.drop wanted.length)
  else .error .unexpectedEnd

/-- Whether a byte is blank. -/
def isBlank (b : UInt8) : Bool := b = 0x20 || b = 0x09 || b = 0x0A || b = 0x0D

/-- The token that bytes start with, and the rest. -/
def token (b : UInt8) (rest : List UInt8) : Except Fault (Token × List UInt8) :=
  if b = code '[' then .ok (.openList, rest)
  else if b = code ']' then .ok (.closeList, rest)
  else if b = code '\x7b' then .ok (.openRecord, rest)
  else if b = code '\x7d' then .ok (.closeRecord, rest)
  else if b = code ',' then .ok (.comma, rest)
  else if b = code ':' then .ok (.colon, rest)
  else if b = code '"' then (text rest).map fun (value, rest) => (.text value, rest)
  else if b = code 'n' then word "null" .null (b :: rest)
  else if b = code 't' then word "true" (.bool true) (b :: rest)
  else if b = code 'f' then word "false" (.bool false) (b :: rest)
  else if b = code '-' then (numeral true rest).map fun (n, rest) => (.value n.value, rest)
  else if isDigit b then (numeral false (b :: rest)).map fun (n, rest) => (.value n.value, rest)
  else .error (.unexpected b)

/-- All tokens of some bytes. Every step uses up a byte. -/
def tokens (bytes : List UInt8) : Except Fault (List Token) :=
  go (bytes.length + 1) bytes []
where
  /-- Tokens gather in reverse. -/
  go : Nat → List UInt8 → List Token → Except Fault (List Token)
    | 0, _, _ => .error .unexpectedEnd
    | _ + 1, [], done => .ok done.reverse
    | fuel + 1, b :: rest, done =>
      if isBlank b then go fuel rest done
      else
        match token b rest with
        | .ok (next, rest) => go fuel rest (next :: done)
        | .error fault => .error fault

end WasmHost.Json
