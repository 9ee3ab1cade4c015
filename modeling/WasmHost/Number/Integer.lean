/-! Powers, and two's-complement arithmetic on natural numbers below a power of two. -/

namespace WasmHost

namespace Integer

/-- A power of a natural number. -/
@[inline] def power (base exponent : Nat) : Nat := Nat.pow base exponent

/-- The number of values of a given width in bits. -/
@[inline] def modulus (width : Nat) : Nat := 1 <<< width

/-- The number of values is the matching power of two. -/
theorem modulus_eq (width : Nat) : modulus width = power 2 width := by
  simp [modulus, power, Nat.one_shiftLeft]

/-- Wrapping keeps the low bits of a number. -/
@[inline] def wrap (width n : Nat) : Nat := n % modulus width

/-- A wrapped number fits its width. -/
theorem wrap_lt (width n : Nat) : wrap width n < modulus width := by
  have positive : 0 < modulus width := by
    rw [modulus_eq]
    exact Nat.two_pow_pos width
  exact Nat.mod_lt _ positive

/-- The signed reading of a bit pattern, whose top bit weighs negatively. -/
def toInt (width n : Nat) : Int :=
  if n < modulus width / 2 then (n : Int) else (n : Int) - (modulus width : Int)

/-- The bit pattern of an integer, whose higher bits are dropped. -/
def ofInt (width : Nat) (i : Int) : Nat := (i % (modulus width : Int)).toNat

/-- Sign extension reads the low bits as signed and writes them at a larger width. -/
def extend (width low n : Nat) : Nat := ofInt width (toInt low (wrap low n))

/-- Addition wraps around. -/
def add (width a b : Nat) : Nat := wrap width (a + b)

/-- Subtraction wraps around. -/
def sub (width a b : Nat) : Nat := wrap width (a + (modulus width - wrap width b))

/-- Multiplication wraps around. -/
def mul (width a b : Nat) : Nat := wrap width (a * b)

/-- The bitwise complement flips every bit of the width. -/
def complement (width a : Nat) : Nat := modulus width - 1 - wrap width a

/-- A left shift takes its amount modulo the width. -/
def shl (width a b : Nat) : Nat := wrap width (a <<< (b % width))

/-- A logical right shift takes its amount modulo the width. -/
def shrU (width a b : Nat) : Nat := a >>> (b % width)

/-- An arithmetic right shift keeps the sign. -/
def shrS (width a b : Nat) : Nat := ofInt width (toInt width a >>> (b % width))

/-- A left rotation joins the two halves of a shifted pattern. -/
def rotl (width a b : Nat) : Nat :=
  let amount := b % width
  wrap width (a <<< amount ||| a >>> (width - amount))

/-- A right rotation is a left rotation by the remaining amount. -/
def rotr (width a b : Nat) : Nat := rotl width a (width - b % width)

/-- The number of leading zero bits. -/
def clz (width a : Nat) : Nat := if a = 0 then width else width - 1 - a.log2

/-- The number of trailing zero bits, found by halving at most once per bit. -/
def ctz (width a : Nat) : Nat :=
  match width with
  | 0 => 0
  | width + 1 => if a % 2 = 1 then 0 else 1 + ctz width (a / 2)

/-- The number of one bits, counted over the bits of the width. -/
def popcnt (width a : Nat) : Nat :=
  match width with
  | 0 => 0
  | width + 1 => a % 2 + popcnt width (a / 2)

/-- A signed comparison compares the signed readings. -/
def ltS (width a b : Nat) : Bool := toInt width a < toInt width b

/-- A signed comparison compares the signed readings. -/
def leS (width a b : Nat) : Bool := toInt width a ≤ toInt width b

/-- A truth value is written as one or zero. -/
@[inline] def ofBool (b : Bool) : Nat := if b then 1 else 0

/-- Clamping keeps an integer inside the range of a signed width. -/
def clampS (width : Nat) (i : Int) : Int :=
  let half : Int := (modulus width / 2 : Nat)
  if i < -half then -half else if half ≤ i then half - 1 else i

/-- Clamping keeps an integer inside the range of an unsigned width. -/
def clampU (width : Nat) (i : Int) : Int :=
  if i < 0 then 0 else if (modulus width : Int) ≤ i then (modulus width : Int) - 1 else i

end Integer

end WasmHost
