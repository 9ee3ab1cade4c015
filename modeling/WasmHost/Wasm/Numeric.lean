import WasmHost.Number.FloatArith
import WasmHost.Wasm.Instr
import WasmHost.Wasm.Trap

/-! What the instructions on numbers compute.
Every value is a cell: its bit pattern as a natural number. -/

namespace WasmHost.Wasm

/-- The outcome of a computation on one integer. -/
def IntUnary.apply (w : Nat) (a : Nat) : IntUnary → Nat
  | .clz => Integer.clz w a
  | .ctz => Integer.ctz w a
  | .popcnt => Integer.popcnt w a
  | .extend bits => Integer.extend w bits a

/-- The outcome of a computation on two integers; division fails at zero and at the one quotient that
does not fit. -/
def IntBinary.apply (w : Nat) (a b : Nat) : IntBinary → Except Trap Nat
  | .add => .ok (Integer.add w a b)
  | .sub => .ok (Integer.sub w a b)
  | .mul => .ok (Integer.mul w a b)
  | .divS =>
    if b = 0 then .error .divideByZero
    else if Integer.toInt w a = -(Integer.modulus (w - 1) : Int) ∧ Integer.toInt w b = -1 then .error .integerOverflow
    else .ok (Integer.ofInt w ((Integer.toInt w a).tdiv (Integer.toInt w b)))
  | .divU => if b = 0 then .error .divideByZero else .ok (a / b)
  | .remS => if b = 0 then .error .divideByZero else .ok (Integer.ofInt w ((Integer.toInt w a).tmod (Integer.toInt w b)))
  | .remU => if b = 0 then .error .divideByZero else .ok (a % b)
  | .and => .ok (a &&& b)
  | .or => .ok (a ||| b)
  | .xor => .ok (a ^^^ b)
  | .shl => .ok (Integer.shl w a b)
  | .shrS => .ok (Integer.shrS w a b)
  | .shrU => .ok (Integer.shrU w a b)
  | .rotl => .ok (Integer.rotl w a b)
  | .rotr => .ok (Integer.rotr w a b)

/-- The outcome of a comparison of two integers. -/
def IntCompare.apply (w : Nat) (a b : Nat) : IntCompare → Bool
  | .eq => a = b
  | .ne => a ≠ b
  | .ltS => Integer.ltS w a b
  | .ltU => a < b
  | .gtS => Integer.ltS w b a
  | .gtU => b < a
  | .leS => Integer.leS w a b
  | .leU => a ≤ b
  | .geS => Integer.leS w b a
  | .geU => b ≤ a

/-- The outcome of a computation on one floating-point number. -/
def FloatUnary.apply (f : FloatFormat) (a : Nat) : FloatUnary → Nat
  | .abs => f.abs a
  | .neg => f.neg a
  | .ceil => f.toIntegral .ceil a
  | .floor => f.toIntegral .floor a
  | .trunc => f.toIntegral .trunc a
  | .nearest => f.toIntegral .nearest a
  | .sqrt => f.sqrt a

/-- The outcome of a computation on two floating-point numbers. -/
def FloatBinary.apply (f : FloatFormat) (a b : Nat) : FloatBinary → Nat
  | .add => f.add a b
  | .sub => f.sub a b
  | .mul => f.mul a b
  | .div => f.div a b
  | .min => f.min a b
  | .max => f.max a b
  | .copysign => f.copysign a b

/-- The outcome of a comparison of two floating-point numbers. -/
def FloatCompare.apply (f : FloatFormat) (a b : Nat) : FloatCompare → Bool
  | .eq => f.eq a b
  | .ne => !f.eq a b
  | .lt => f.lt a b
  | .gt => f.lt b a
  | .le => f.le a b
  | .ge => f.le b a

/-- Whether an integer is inside the range of a width. -/
def inRange (w : Nat) (signed : Bool) (i : Int) : Bool :=
  if signed then Integer.clampS w i = i else Integer.clampU w i = i

/-- A floating-point number truncated to an integer that must fit. -/
def truncate (w : Nat) (f : FloatFormat) (signed : Bool) (a : Nat) : Except Trap Nat :=
  if f.isNan a then .error .invalidConversion
  else
    match f.truncate? a with
    | some i => if inRange w signed i then .ok (Integer.ofInt w i) else .error .integerOverflow
    | none => .error .integerOverflow

/-- A floating-point number truncated to the nearest integer of a range; what is no number gives zero. -/
def truncateClamped (w : Nat) (f : FloatFormat) (signed : Bool) (a : Nat) : Nat :=
  let clamp := if signed then Integer.clampS w else Integer.clampU w
  if f.isNan a then 0
  else
    match f.truncate? a with
    | some i => Integer.ofInt w (clamp i)
    -- An infinity goes to the end of the range on its side.
    | none => Integer.ofInt w (clamp (if f.isNegative a then -(Integer.modulus 128 : Int) else (Integer.modulus 128 : Int)))

/-- The outcome of a conversion. -/
def Conversion.apply (a : Nat) : Conversion → Except Trap Nat
  | .wrap => .ok (Integer.wrap 32 a)
  | .extend signed => .ok (if signed then Integer.extend 64 32 a else a)
  | .trunc target source signed => truncate target.width source.format signed a
  | .truncSat target source signed => .ok (truncateClamped target.width source.format signed a)
  | .convert target source signed =>
    .ok (target.format.ofInt (if signed then Integer.toInt source.width a else a))
  | .demote => .ok (FloatFormat.convert .double .single a)
  | .promote => .ok (FloatFormat.convert .single .double a)
  | .toBits _ | .ofBits _ => .ok a

/-- The effect of a computation on the operand stack, top first.
Validated code always finds its operands; the last case stands for all other stacks. -/
def NumericOp.apply (op : NumericOp) (stack : List Nat) : Except Trap (List Nat) :=
  match op, stack with
  | .intBinary type op, b :: a :: rest =>
    match op.apply type.width a b with
    | .ok value => .ok (value :: rest)
    | .error trap => .error trap
  | .intCompare type op, b :: a :: rest => .ok (Integer.ofBool (op.apply type.width a b) :: rest)
  | .intEqz _, a :: rest => .ok (Integer.ofBool (a = 0) :: rest)
  | .intUnary type op, a :: rest => .ok (op.apply type.width a :: rest)
  | .floatUnary type op, a :: rest => .ok (op.apply type.format a :: rest)
  | .floatBinary type op, b :: a :: rest => .ok (op.apply type.format a b :: rest)
  | .floatCompare type op, b :: a :: rest => .ok (Integer.ofBool (op.apply type.format a b) :: rest)
  | .convert op, a :: rest =>
    match op.apply a with
    | .ok value => .ok (value :: rest)
    | .error trap => .error trap
  | _, _ => .error .unreachable

end WasmHost.Wasm
