import WasmHost.Number.Integer

/-! Binary floating-point formats: what a bit pattern denotes, and the nearest pattern to an exact value. -/

namespace WasmHost

/-- A binary interchange format is given by the widths of its fraction and of its exponent. -/
structure FloatFormat where
  /-- The stored fraction bits, without the leading one of normal numbers. -/
  fraction : Nat
  /-- The exponent bits. -/
  exponent : Nat
deriving DecidableEq, Repr, Inhabited

/-- What a bit pattern denotes. -/
inductive Datum where
  /-- No number, with its sign and its stored fraction. -/
  | nan (negative : Bool) (payload : Nat)
  /-- An infinity. -/
  | infinite (negative : Bool)
  /-- The exact number `significand` times two to the `exponent`. -/
  | finite (negative : Bool) (significand : Nat) (exponent : Int)
deriving DecidableEq, Repr

namespace FloatFormat

/-- The format of 32-bit numbers. -/
def single : FloatFormat := ⟨23, 8⟩

/-- The format of 64-bit numbers. -/
def double : FloatFormat := ⟨52, 11⟩

/-- The width of a whole pattern. -/
def width (f : FloatFormat) : Nat := 1 + f.exponent + f.fraction

/-- The exponent field of infinities and of everything that is no number. -/
def topField (f : FloatFormat) : Nat := Integer.modulus f.exponent - 1

/-- The weight of the last place of the smallest numbers, as a power of two. -/
def lowest (f : FloatFormat) : Int := 2 - (Integer.modulus (f.exponent - 1) : Int) - (f.fraction : Int)

/-- The pattern's top bit holds the sign. -/
def signBit (f : FloatFormat) : Nat := Integer.modulus (f.exponent + f.fraction)

/-- The magnitude part of a pattern with a chosen sign. -/
def withSign (f : FloatFormat) (negative : Bool) (magnitude : Nat) : Nat :=
  if negative then f.signBit + magnitude else magnitude

/-- The sign of a pattern. -/
def isNegative (f : FloatFormat) (bits : Nat) : Bool := f.signBit ≤ bits

/-- The magnitude part of a pattern. -/
def magnitude (f : FloatFormat) (bits : Nat) : Nat := bits % f.signBit

/-- The pattern of an infinity. -/
def infinity (f : FloatFormat) (negative : Bool) : Nat :=
  f.withSign negative (f.topField * Integer.modulus f.fraction)

/-- The bit that marks a quiet pattern among those that are no number. -/
def quietBit (f : FloatFormat) : Nat := Integer.modulus (f.fraction - 1)

/-- The pattern that an invalid operation produces. -/
def defaultNan (f : FloatFormat) : Nat := f.infinity true + f.quietBit

/-- What a bit pattern denotes. -/
def decode (f : FloatFormat) (bits : Nat) : Datum :=
  let negative := f.isNegative bits
  let field := f.magnitude bits / Integer.modulus f.fraction
  let stored := bits % Integer.modulus f.fraction
  -- The top field is reserved, the zero field has no leading one.
  if field = f.topField then
    if stored = 0 then .infinite negative else .nan negative stored
  else if field = 0 then .finite negative stored f.lowest
  else .finite negative (stored + Integer.modulus f.fraction) (f.lowest + field - 1)

/-- Whether a pattern is no number. -/
def isNan (f : FloatFormat) (bits : Nat) : Bool :=
  f.topField * Integer.modulus f.fraction < f.magnitude bits

/-- A quotient by a power of two, rounded to nearest with ties to even.
`rest` says that the exact value is a little more than `n`. -/
def shiftRound (n shift : Nat) (rest : Bool) : Nat :=
  let kept := n >>> shift
  let lost := n - kept <<< shift
  let half := 1 <<< (shift - 1)
  if shift = 0 then n
  else if half < lost ∨ (lost = half ∧ (rest ∨ kept % 2 = 1)) then kept + 1
  else kept

/-- The pattern nearest to `significand` times two to the `exponent`, with ties to even.
`rest` says that the exact value is a little more, and then the significand must hold at least
two bits more than the format keeps. -/
def round (f : FloatFormat) (negative : Bool) (significand : Nat) (exponent : Int)
    (rest : Bool) : Nat :=
  if significand = 0 then f.withSign negative 0
  else
    -- The weight of the last kept place: as low as the precision allows, never below the format's lowest.
    let length : Int := (significand.log2 : Int) + 1
    let place := max (exponent + length - (f.fraction + 1 : Nat)) f.lowest
    let kept :=
      if place ≤ exponent then significand <<< (exponent - place).toNat
      else shiftRound significand (place - exponent).toNat rest
    -- A carry out of the fraction moves into the exponent field by itself.
    let steps := (place - f.lowest).toNat
    let magnitude := steps * Integer.modulus f.fraction + kept
    if f.topField * Integer.modulus f.fraction ≤ magnitude then f.infinity negative
    else f.withSign negative magnitude

/-- The pattern nearest to a quotient of natural numbers, with ties to even. -/
def roundQuotient (f : FloatFormat) (negative : Bool) (numerator denominator : Nat)
    (exponent : Int) : Nat :=
  -- Enough extra bits make the remainder matter only as "a little more".
  let extra := f.fraction + 4 + denominator.log2
  let scaled := numerator <<< extra
  f.round negative (scaled / denominator) (exponent - extra) (scaled % denominator ≠ 0)

end FloatFormat

end WasmHost
