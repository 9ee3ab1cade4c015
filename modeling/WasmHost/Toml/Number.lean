import WasmHost.Document.Basic
import WasmHost.Toml.Scan

/-! Numbers and moments in TOML. -/

namespace WasmHost.Toml

/-- The value of a digit in a base. -/
def digit? (base : Nat) (c : Char) : Option Nat := (Hex.value? c).filter (· < base)

/-- Digits in a base, of which two may have an underscore between them. At least one must be there, and
an underscore must be followed by one. -/
def digits (base : Nat) (text : List Char) : Option (List Nat × List Char) := do
  match text with
  | first :: rest =>
    let value ← digit? base first
    let (more, rest) ← go rest.length rest
    return (value :: more, rest)
  | [] => none
where
  /-- The digits after the first one. -/
  go : Nat → List Char → Option (List Nat × List Char)
    | fuel + 1, '_' :: c :: rest => do
      let value ← digit? base c
      let (more, rest) ← go fuel rest
      return (value :: more, rest)
    | fuel + 1, c :: rest =>
      if c = '_' then none
      else
        match digit? base c with
        | some value => do
          let (more, rest) ← go fuel rest
          return (value :: more, rest)
        | none => some ([], c :: rest)
    | _, text => some ([], text)

/-- The number of some digits in a base. -/
def valueOf (base : Nat) (digits : List Nat) : Nat := digits.foldl (fun n d => base * n + d) 0

/-- A sign, which may be missing; tells whether it is a minus. -/
def sign : List Char → Bool × List Char
  | '-' :: rest => (true, rest)
  | '+' :: rest => (false, rest)
  | text => (false, text)

/-- The digits before a point. A zero at the start stands alone. -/
def wholeDigits (text : List Char) : Option (List Nat × List Char) :=
  match text with
  | '0' :: rest => some ([0], rest)
  | _ => digits 10 text

/-- An integer of 64 bits, if a number is one. -/
def integer64 (value : Int) : Option Document :=
  if -(Integer.modulus 63 : Int) ≤ value ∧ value < Integer.modulus 63 then some (.integer value) else none

/-- An integer in another base than ten. -/
def based (base : Nat) (text : List Char) : Option (Document × List Char) := do
  let (found, rest) ← digits base text
  let value ← integer64 (valueOf base found : Nat)
  return (value, rest)

/-- An integer. -/
def integer : Scan Document
  | '0' :: 'x' :: rest => based 16 rest
  | '0' :: 'o' :: rest => based 8 rest
  | '0' :: 'b' :: rest => based 2 rest
  | text => do
    let (negative, rest) := sign text
    let (found, rest) ← wholeDigits rest
    let magnitude : Int := (valueOf 10 found : Nat)
    let value ← integer64 (if negative then -magnitude else magnitude)
    return (value, rest)

/-- The places beyond which a number is infinite or zero in any case. -/
def extremePlace : Int := 400

/-- The pattern nearest to a decimal number. -/
def nearest (negative : Bool) (digits : List Nat) (exponent : Int) : Nat :=
  let f := FloatFormat.double
  let significand := valueOf 10 digits
  let top := exponent + (digits.dropWhile (· = 0)).length
  if significand = 0 ∨ top < -extremePlace then f.withSign negative 0
  else if extremePlace < top then f.infinity negative
  else f.ofDecimal negative ⟨significand, exponent⟩

/-- What follows the digits before the point of a number that is no integer: its fraction and its exponent. -/
def tail (text : List Char) : Option (List Nat × Int × List Char) := do
  let (fraction, rest) ← match text with
    | '.' :: rest => digits 10 rest
    | _ => some ([], text)
  match rest with
  | c :: more =>
    if c = 'e' ∨ c = 'E' then
      let (down, more) := sign more
      let (found, rest) ← digits 10 more
      let amount : Int := (valueOf 10 found : Nat)
      return (fraction, if down then -amount else amount, rest)
    else if fraction.isEmpty then none
    else return (fraction, 0, rest)
  | [] => if fraction.isEmpty then none else return (fraction, 0, rest)

/-- A number with a fraction or an exponent, or a word for what is not finite. No number may become
infinite by being too large. -/
def float (text : List Char) : Option (Document × List Char) :=
  let f := FloatFormat.double
  let (negative, rest) := sign text
  match rest with
  | 'i' :: 'n' :: 'f' :: rest => some (.double (f.infinity negative), rest)
  | 'n' :: 'a' :: 'n' :: rest => some (.double (f.withSign negative (f.infinity false + f.quietBit)), rest)
  | _ => do
    let (whole, rest) ← wholeDigits rest
    let (fraction, exponent, rest) ← tail rest
    let bits := nearest negative (whole ++ fraction) (exponent - fraction.length)
    if bits = f.infinity false then none else return (.double bits, rest)

/-! ### Moments -/

/-- A number of exactly some decimal digits within bounds. -/
def fixed (count low high : Nat) (text : List Char) : Option (Nat × List Char) := do
  let found ← (text.take count).mapM (digit? 10)
  if found.length ≠ count then none
  let value := valueOf 10 found
  if low ≤ value ∧ value ≤ high then some (value, text.drop count) else none

/-- The number of days in a month. -/
def monthDays (year month : Nat) : Nat :=
  if month = 2 then
    if year % 4 = 0 ∧ (year % 100 ≠ 0 ∨ year % 400 = 0) then 29 else 28
  else if month = 4 ∨ month = 6 ∨ month = 9 ∨ month = 11 then 30 else 31

/-- A day. -/
def date (text : List Char) : Option (List Char) := do
  let (year, rest) ← fixed 4 0 9999 text
  let rest ← mark '-' rest
  let (month, rest) ← fixed 2 1 12 rest
  let rest ← mark '-' rest
  let (_, rest) ← fixed 2 1 (monthDays year month) rest
  return rest

/-- A time of day. -/
def time (text : List Char) : Option (List Char) := do
  let (_, rest) ← fixed 2 0 23 text
  let rest ← mark ':' rest
  let (_, rest) ← fixed 2 0 59 rest
  let rest ← mark ':' rest
  let (_, rest) ← fixed 2 0 60 rest
  match rest with
  | '.' :: more =>
    let found := more.takeWhile Char.isDigit
    if found.isEmpty then return rest else return more.drop found.length
  | _ => return rest

/-- The distance from universal time, which may be missing. -/
def offset (text : List Char) : Option (List Char) :=
  match text with
  | 'Z' :: rest | 'z' :: rest => some rest
  | '+' :: rest | '-' :: rest => do
    let (_, rest) ← fixed 2 0 23 rest
    let rest ← mark ':' rest
    let (_, rest) ← fixed 2 0 59 rest
    return rest
  | _ => some text

/-- A day and a time of day, or one of them. -/
def moment (text : List Char) : Option (List Char) :=
  match date text with
  | none => time text
  | some rest =>
    match rest with
    | c :: more =>
      if c = 'T' ∨ c = 't' ∨ c = ' ' then
        match time more with
        | some rest => offset rest
        | none => some rest
      else some rest
    | [] => some []

/-- The name under which a moment stands alone in a record. -/
def momentName : String := "$__toml_private_datetime"

/-- A number or a moment. -/
def number (text : List Char) : Option (Document × List Char) :=
  match moment text with
  | some rest =>
    let written := String.ofList (text.take (text.length - rest.length))
    some (.record [(momentName, .text written)], rest)
  | none => (float text).or (integer text)

end WasmHost.Toml
