import WasmHost.Number.Float
import WasmHost.Number.Integer

/-! Arithmetic on floating-point patterns: exact results, rounded once to nearest with ties to even. -/

namespace WasmHost

namespace FloatFormat

/-- A pattern that is no number becomes quiet and keeps its sign and payload. -/
def quiet (f : FloatFormat) (bits : Nat) : Nat :=
  if bits / f.quietBit % 2 = 1 then bits else bits + f.quietBit

/-- Of two operands the first that is no number decides the result. -/
def propagate (f : FloatFormat) (a b : Nat) : Nat :=
  if f.isNan a then f.quiet a else if f.isNan b then f.quiet b else f.defaultNan

/-- Negation flips the sign bit of any pattern. -/
def neg (f : FloatFormat) (a : Nat) : Nat := f.withSign (!f.isNegative a) (f.magnitude a)

/-- The absolute value clears the sign bit of any pattern. -/
def abs (f : FloatFormat) (a : Nat) : Nat := f.magnitude a

/-- The magnitude of the first operand with the sign of the second. -/
def copysign (f : FloatFormat) (a b : Nat) : Nat := f.withSign (f.isNegative b) (f.magnitude a)

/-- A signed integer scaled by a power of two, rounded; `zero` gives the sign of an exact zero. -/
def roundInt (f : FloatFormat) (zero : Bool) (i : Int) (exponent : Int) : Nat :=
  if i = 0 then f.withSign zero 0 else f.round (i < 0) i.natAbs exponent false

/-- A significand with its sign. -/
def signedPart (negative : Bool) (significand : Nat) : Int :=
  if negative then -(significand : Int) else significand

/-- The sum of two patterns. -/
def add (f : FloatFormat) (a b : Nat) : Nat :=
  match f.decode a, f.decode b with
  | .nan .., _ => f.propagate a b
  | _, .nan .. => f.propagate a b
  -- Infinities of opposite signs have no sum.
  | .infinite s, .infinite t => if s = t then a else f.defaultNan
  | .infinite _, .finite .. => a
  | .finite .., .infinite _ => b
  | .finite s m d, .finite t n e =>
    -- Both operands move to the smaller exponent, where the sum is exact.
    let low := min d e
    let sum := signedPart s m * (Integer.modulus (d - low).toNat : Int) + signedPart t n * (Integer.modulus (e - low).toNat : Int)
    f.roundInt (s && t) sum low

/-- The difference of two patterns. -/
def sub (f : FloatFormat) (a b : Nat) : Nat :=
  if f.isNan a ∨ f.isNan b then f.propagate a b else f.add a (f.neg b)

/-- The product of two patterns. -/
def mul (f : FloatFormat) (a b : Nat) : Nat :=
  match f.decode a, f.decode b with
  | .nan .., _ => f.propagate a b
  | _, .nan .. => f.propagate a b
  | .infinite s, .infinite t => f.infinity (s != t)
  -- Infinity times zero has no value.
  | .infinite s, .finite t n _ => if n = 0 then f.defaultNan else f.infinity (s != t)
  | .finite s m _, .infinite t => if m = 0 then f.defaultNan else f.infinity (s != t)
  | .finite s m d, .finite t n e => f.round (s != t) (m * n) (d + e) false

/-- The quotient of two patterns. -/
def div (f : FloatFormat) (a b : Nat) : Nat :=
  match f.decode a, f.decode b with
  | .nan .., _ => f.propagate a b
  | _, .nan .. => f.propagate a b
  | .infinite _, .infinite _ => f.defaultNan
  | .infinite s, .finite t .. => f.infinity (s != t)
  | .finite s .., .infinite t => f.withSign (s != t) 0
  | .finite s m d, .finite t n e =>
    if n = 0 then if m = 0 then f.defaultNan else f.infinity (s != t)
    else f.roundQuotient (s != t) m n (d - e)

/-- The integer part of a square root, refined bit by bit from the top. -/
def isqrt (n : Nat) : Nat :=
  go (n.log2 / 2 + 1) 0
where
  /-- Each step keeps a bit when the square still fits. -/
  go : Nat → Nat → Nat
    | 0, root => if (root + 1) * (root + 1) ≤ n then root + 1 else root
    | place + 1, root =>
      let next := root + Integer.modulus (place + 1)
      go place (if next * next ≤ n then next else root)

/-- The square root of a pattern. -/
def sqrt (f : FloatFormat) (a : Nat) : Nat :=
  match f.decode a with
  | .nan .. => f.quiet a
  | .infinite s => if s then f.defaultNan else a
  | .finite s m e =>
    if m = 0 then a
    else if s then f.defaultNan
    else
      -- An even exponent halves, and enough extra bits leave the remainder as "a little more".
      let extra := 2 * (f.fraction + 4) + (if e % 2 = 0 then 0 else 1)
      let scaled := m <<< extra
      let root := isqrt scaled
      f.round false root ((e - extra) / 2) (root * root ≠ scaled)

/-- How a number is taken to an integer. -/
inductive Rounding where
  /-- Toward positive infinity. -/
  | ceil
  /-- Toward negative infinity. -/
  | floor
  /-- Toward zero. -/
  | trunc
  /-- To nearest, with ties to even. -/
  | nearest
deriving DecidableEq, Repr

/-- The integer that a magnitude `significand / 2 ^ shift` of a given sign rounds to, as a magnitude. -/
def Rounding.magnitude (r : Rounding) (negative : Bool) (significand shift : Nat) : Nat :=
  let down := significand >>> shift
  let exact := down <<< shift = significand
  match r with
  | .ceil => if exact ∨ negative then down else down + 1
  | .floor => if exact ∨ !negative then down else down + 1
  | .trunc => down
  | .nearest => shiftRound significand shift false

/-- A pattern rounded to an integral pattern, keeping the sign of zeros. -/
def toIntegral (f : FloatFormat) (r : Rounding) (a : Nat) : Nat :=
  match f.decode a with
  | .nan .. => f.quiet a
  | .infinite _ => a
  | .finite s m e =>
    if 0 ≤ e then a else f.round s (r.magnitude s m (-e).toNat) 0 false

/-- Patterns that are numbers are ordered as signed magnitudes. -/
def order (f : FloatFormat) (a : Nat) : Int := signedPart (f.isNegative a) (f.magnitude a)

/-- Whether the first number is below the second; nothing is below or above what is no number. -/
def lt (f : FloatFormat) (a b : Nat) : Bool :=
  !f.isNan a && !f.isNan b && f.order a < f.order b

/-- Whether two patterns are equal numbers; the two zeros are equal. -/
def eq (f : FloatFormat) (a b : Nat) : Bool :=
  !f.isNan a && !f.isNan b && f.order a == f.order b

/-- Whether the first number is at most the second. -/
def le (f : FloatFormat) (a b : Nat) : Bool := f.lt a b || f.eq a b

/-- The smaller operand, with negative zero below positive zero. -/
def min (f : FloatFormat) (a b : Nat) : Nat :=
  if f.isNan a ∨ f.isNan b then f.propagate a b
  else if f.lt a b then a
  else if f.lt b a then b
  else if f.isNegative a then a else b

/-- The larger operand, with negative zero below positive zero. -/
def max (f : FloatFormat) (a b : Nat) : Nat :=
  if f.isNan a ∨ f.isNan b then f.propagate a b
  else if f.lt a b then b
  else if f.lt b a then a
  else if f.isNegative a then b else a

/-- The first operand unless the second is strictly below it. -/
def pseudoMin (f : FloatFormat) (a b : Nat) : Nat := if f.lt b a then b else a

/-- The first operand unless the second is strictly above it. -/
def pseudoMax (f : FloatFormat) (a b : Nat) : Nat := if f.lt a b then b else a

/-- A product and a sum, rounded once. -/
def mulAdd (f : FloatFormat) (a b c : Nat) : Nat :=
  match f.decode a, f.decode b, f.decode c with
  | .finite s m d, .finite t n e, .finite u k g =>
    let low := Min.min (d + e) g
    let sum := signedPart (s != t) (m * n) * (Integer.modulus (d + e - low).toNat : Int)
      + signedPart u k * (Integer.modulus (g - low).toNat : Int)
    f.roundInt ((s != t) && u) sum low
  | .finite .., .finite .., .infinite _ => c
  -- Without a finite product rounding twice changes nothing.
  | _, _, _ => f.add (f.mul a b) c

/-- An integer as the nearest pattern. -/
def ofInt (f : FloatFormat) (i : Int) : Nat := f.roundInt false i 0

/-- The integer that a number truncates to, if it is finite. -/
def truncate? (f : FloatFormat) (a : Nat) : Option Int :=
  match f.decode a with
  | .finite s m e =>
    let whole := if 0 ≤ e then m <<< e.toNat else m >>> (-e).toNat
    some (signedPart s whole)
  | _ => none

/-- A pattern of one format as the nearest pattern of another. -/
def convert (from_ to_ : FloatFormat) (a : Nat) : Nat :=
  match from_.decode a with
  | .infinite s => to_.infinity s
  | .finite s m e => to_.round s m e false
  | .nan s payload =>
    -- The payload keeps its leading bits, and the result is quiet.
    let moved :=
      if from_.fraction ≤ to_.fraction then payload <<< (to_.fraction - from_.fraction)
      else payload >>> (from_.fraction - to_.fraction)
    to_.quiet (to_.infinity s + moved)

end FloatFormat

end WasmHost
