import WasmHost.Number.FloatArith

/-! Decimal text of floating-point patterns: the fewest digits that read back, and two ways to write them. -/

namespace WasmHost

/-- A positive decimal number: its digits, read as an integer, times ten to the `exponent`. -/
structure Decimal where
  /-- The digits, as one number. -/
  digits : Nat
  /-- The power of ten that the last digit counts. -/
  exponent : Int
deriving DecidableEq, Repr, Inhabited

namespace Decimal

/-- A number as a quotient of two natural numbers. -/
structure Ratio where
  /-- What is divided. -/
  numerator : Nat
  /-- What it is divided by. -/
  denominator : Nat

/-- A natural number times a power of a base, as a quotient. -/
def Ratio.scaled (n base : Nat) (exponent : Int) : Ratio :=
  if 0 ≤ exponent then ⟨n * Integer.power base exponent.toNat, 1⟩ else ⟨n, Integer.power base (-exponent).toNat⟩

/-- Quotients compare by cross multiplication. -/
def Ratio.lt (a b : Ratio) : Bool := a.numerator * b.denominator < b.numerator * a.denominator

/-- Quotients compare by cross multiplication. -/
def Ratio.le (a b : Ratio) : Bool := !b.lt a

/-- The exact value of a significand and the bounds of what rounds to it. -/
structure Interval where
  /-- The least number that reads back, if the ends count. -/
  low : Ratio
  /-- The exact value. -/
  value : Ratio
  /-- The greatest number that reads back, if the ends count. -/
  high : Ratio
  /-- Ties go to even significands, so their intervals hold their ends. -/
  closed : Bool

/-- The numbers that round to `significand` times two to the `exponent`. -/
def Interval.of (f : FloatFormat) (significand : Nat) (exponent : Int) : Interval :=
  -- Below a power of two the neighbours are half as far apart, except at the lowest exponent.
  let narrow := significand = Integer.modulus f.fraction ∧ f.lowest < exponent
  { low := .scaled (4 * significand - if narrow then 1 else 2) 2 (exponent - 2)
    value := .scaled (4 * significand) 2 (exponent - 2)
    high := .scaled (4 * significand + 2) 2 (exponent - 2)
    closed := significand % 2 = 0 }

/-- Whether a number reads back as the value of the interval. -/
def Interval.holds (i : Interval) (r : Ratio) : Bool :=
  if i.closed then i.low.le r && r.le i.high else i.low.lt r && r.lt i.high

/-- The better of the two grid points next to the value, if one of them reads back.
The grid has steps of ten to the `place`. -/
def Interval.onGrid (i : Interval) (place : Int) : Option Nat :=
  -- The value divided by the step, with what the division leaves.
  let scaled : Ratio :=
    if 0 ≤ place then ⟨i.value.numerator, i.value.denominator * Integer.power 10 place.toNat⟩
    else ⟨i.value.numerator * Integer.power 10 (-place).toNat, i.value.denominator⟩
  let down := scaled.numerator / scaled.denominator
  let rest := scaled.numerator % scaled.denominator
  let fitsDown := i.holds (.scaled down 10 place)
  let fitsUp := i.holds (.scaled (down + 1) 10 place)
  -- Of two points that read back the nearer wins, and the even one a tie.
  let preferUp := scaled.denominator < 2 * rest ∨ (scaled.denominator = 2 * rest ∧ down % 2 = 1)
  if fitsDown && fitsUp then some (if preferUp then down + 1 else down)
  else if fitsDown then some down
  else if fitsUp then some (down + 1)
  else none

/-- Trailing zero digits move into the exponent. -/
def trim : Nat → Decimal → Decimal
  | 0, d => d
  | fuel + 1, d =>
    if d.digits ≠ 0 ∧ d.digits % 10 = 0 then trim fuel ⟨d.digits / 10, d.exponent + 1⟩ else d

/-- The power of ten just above a quotient, found from a lower bound. -/
def magnitudeFrom (r : Ratio) : Nat → Int → Int
  | 0, guess => guess
  | fuel + 1, guess => if r.lt (.scaled 1 10 guess) then guess else magnitudeFrom r fuel (guess + 1)

/-- The fewest digits that read back as `significand` times two to the `exponent`, and of those the
nearest to it. -/
def shortest (f : FloatFormat) (significand : Nat) (exponent : Int) : Decimal :=
  let interval := Interval.of f significand exponent
  -- The binary length gives the decimal magnitude within two.
  let length : Int := (significand.log2 : Int) + exponent
  let magnitude := magnitudeFrom interval.value 4 (length * 30103 / 100000 - 1)
  search interval magnitude 20 1
where
  /-- Grids are tried from the coarsest on. -/
  search (interval : Interval) (magnitude : Int) : Nat → Nat → Decimal
    | 0, _ => ⟨0, 0⟩
    | fuel + 1, count =>
      let place := magnitude - count
      match interval.onGrid place with
      | some digits => if digits = 0 then search interval magnitude fuel (count + 1) else trim 20 ⟨digits, place⟩
      | none => search interval magnitude fuel (count + 1)

/-- The decimal digits of a number as text. -/
def digitText (n : Nat) : String := String.ofList (Nat.toDigits 10 n)

/-- A run of zeros. -/
def zeros (n : Nat) : String := String.ofList (List.replicate n '0')

/-- Positional text without any exponent, and without a point for whole numbers. -/
def positional (d : Decimal) : String :=
  let text := digitText d.digits
  let point := (text.length : Int) + d.exponent
  if 0 ≤ d.exponent then text ++ zeros d.exponent.toNat
  else if 0 < point then
    String.ofList (text.toList.take point.toNat) ++ "." ++ String.ofList (text.toList.drop point.toNat)
  else "0." ++ zeros (-point).toNat ++ text

/-- Text with a point or an exponent: whole numbers below ten to the `wide` end in `.0`, small numbers
down to ten to the minus `deep` are positional, and all others have an exponent. -/
def scientific (wide deep : Nat) (d : Decimal) : String :=
  let text := digitText d.digits
  let point := (text.length : Int) + d.exponent
  if 0 ≤ d.exponent ∧ point ≤ wide then text ++ zeros d.exponent.toNat ++ ".0"
  else if 0 < point ∧ point ≤ wide then d.positional
  else if -(deep : Int) < point ∧ point ≤ 0 then d.positional
  else
    let lead := String.ofList (text.toList.take 1)
    let rest := String.ofList (text.toList.drop 1)
    lead ++ (if rest.isEmpty then "" else "." ++ rest) ++ "e" ++ toString (point - 1)

end Decimal

namespace FloatFormat

/-- The plain text of a pattern: never an exponent, and words for what is not finite. -/
def plainText (f : FloatFormat) (bits : Nat) : String :=
  match f.decode bits with
  | .nan .. => "NaN"
  | .infinite s => if s then "-inf" else "inf"
  | .finite s m e =>
    (if s then "-" else "") ++ if m = 0 then "0" else (Decimal.shortest f m e).positional

/-- The text of a pattern in data, where only finite numbers can be written. -/
def dataText? (f : FloatFormat) (bits : Nat) : Option String :=
  -- Narrow numbers turn to exponents earlier for whole numbers and later for small ones.
  let (wide, deep) := if f = single then (13, 6) else (16, 5)
  match f.decode bits with
  | .finite s m e =>
    some ((if s then "-" else "") ++
      if m = 0 then "0.0" else (Decimal.shortest f m e).scientific wide deep)
  | _ => none

/-- The pattern nearest to a decimal number. -/
def ofDecimal (f : FloatFormat) (negative : Bool) (d : Decimal) : Nat :=
  if 0 ≤ d.exponent then f.round negative (d.digits * Integer.power 10 d.exponent.toNat) 0 false
  else f.roundQuotient negative d.digits (Integer.power 10 (-d.exponent).toNat) 0

end FloatFormat

end WasmHost
