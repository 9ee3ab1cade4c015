import WasmHost.Wasm.Numeric

/-! What the instructions on vectors compute.
A vector is a natural number below two to the 128; its first lane is the lowest. -/

namespace WasmHost.Wasm

open Integer

namespace Vector

/-- The lanes of a vector, first one first. -/
def lanes (width count v : Nat) : List Nat :=
  (List.range count).map fun place => wrap width (v >>> (place * width))

/-- The vector of some lanes, first one first. -/
def ofLanes (width : Nat) (items : List Nat) : Nat :=
  items.foldr (fun lane rest => wrap width lane + rest <<< width) 0

/-- All lanes of a vector. -/
def split (width v : Nat) : List Nat := lanes width (128 / width) v

/-- Applies a function to every lane. -/
def map (width : Nat) (f : Nat → Nat) (v : Nat) : Nat := ofLanes width ((split width v).map f)

/-- Applies a function to matching lanes of two vectors. -/
def zip (width : Nat) (f : Nat → Nat → Nat) (a b : Nat) : Nat :=
  ofLanes width (List.zipWith f (split width a) (split width b))

/-- A lane of all ones for true and all zeros for false. -/
def mask (width : Nat) (b : Bool) : Nat := if b then modulus width - 1 else 0

/-- A lane read with or without its sign. -/
def read (width : Nat) (signed : Bool) (lane : Nat) : Int := if signed then toInt width lane else lane

/-- Neighbouring pairs. -/
def pairs : List Int → List (Int × Int)
  | a :: b :: rest => (a, b) :: pairs rest
  | _ => []

/-- The lanes of the low or the high half of a vector. -/
def half (width : Nat) (high : Bool) (v : Nat) : List Nat :=
  let all := split width v
  if high then all.drop (all.length / 2) else all.take (all.length / 2)

/-- The format of the lanes of a floating-point shape. -/
def format : FloatShape → FloatFormat
  | .f32x4 => .single
  | .f64x2 => .double

/-- The width of the lanes of a floating-point shape. -/
def floatWidth (shape : FloatShape) : Nat := (Shape.float shape).width

/-- The outcome on one integer lane. -/
def intUnary (w : Nat) (a : Nat) : VectorIntUnary → Nat
  | .abs => ofInt w (toInt w a).natAbs
  | .neg => sub w 0 a
  | .popcnt => popcnt w a

/-- The outcome on two integer lanes. -/
def intBinary (w : Nat) (op : VectorIntBinary) (a b : Nat) : Nat :=
  match op with
  | .add => add w a b
  | .sub => sub w a b
  | .mul => mul w a b
  | .addSatS => ofInt w (clampS w (toInt w a + toInt w b))
  | .addSatU => ofInt w (clampU w (a + b))
  | .subSatS => ofInt w (clampS w (toInt w a - toInt w b))
  | .subSatU => ofInt w (clampU w ((a : Int) - b))
  | .minS => if ltS w a b then a else b
  | .minU => if a < b then a else b
  | .maxS => if ltS w a b then b else a
  | .maxU => if a < b then b else a
  | .avgrU => (a + b + 1) / 2
  | .q15MulrSatS => ofInt w (clampS w ((toInt w a * toInt w b + 0x4000) / 0x8000))
  | .q15MulrWrapS => ofInt w ((toInt w a * toInt w b + 0x4000) / 0x8000)

/-- The outcome of comparing two integer lanes. -/
def intCompare (w : Nat) (op : VectorIntCompare) (a b : Nat) : Bool :=
  match op with
  | .eq => a = b
  | .ne => a ≠ b
  | .ltS => ltS w a b
  | .ltU => a < b
  | .gtS => ltS w b a
  | .gtU => b < a
  | .leS => leS w a b
  | .leU => a ≤ b
  | .geS => leS w b a
  | .geU => b ≤ a

/-- The outcome on one floating-point lane. -/
def floatUnary (f : FloatFormat) (a : Nat) : VectorFloatUnary → Nat
  | .abs => f.abs a
  | .neg => f.neg a
  | .sqrt => f.sqrt a
  | .ceil => f.toIntegral .ceil a
  | .floor => f.toIntegral .floor a
  | .trunc => f.toIntegral .trunc a
  | .nearest => f.toIntegral .nearest a

/-- The outcome on two floating-point lanes. -/
def floatBinary (f : FloatFormat) (op : VectorFloatBinary) (a b : Nat) : Nat :=
  match op with
  | .add => f.add a b
  | .sub => f.sub a b
  | .mul => f.mul a b
  | .div => f.div a b
  | .min => f.min a b
  | .max => f.max a b
  | .pmin => f.pseudoMin a b
  | .pmax => f.pseudoMax a b

/-- The outcome of comparing two floating-point lanes. -/
def floatCompare (f : FloatFormat) (op : VectorFloatCompare) (a b : Nat) : Bool :=
  match op with
  | .eq => f.eq a b
  | .ne => !f.eq a b
  | .lt => f.lt a b
  | .gt => f.lt b a
  | .le => f.le a b
  | .ge => f.le b a

/-- The lanes of another shape. -/
def convert (v : Nat) : VectorConvert → Nat
  | .i32x4TruncF32x4 => map 32 (fun lane => (truncate 32 .single true lane).toOption.getD 0x80000000) v
  | .i32x4TruncSatF32x4 signed => map 32 (truncateClamped 32 .single signed) v
  | .i32x4TruncSatF64x2Zero signed => ofLanes 32 ((split 64 v).map (truncateClamped 32 .double signed))
  | .f32x4ConvertI32x4 signed => map 32 (fun lane => FloatFormat.single.ofInt (read 32 signed lane)) v
  | .f64x2ConvertLowI32x4 signed =>
    ofLanes 64 ((half 32 false v).map fun lane => FloatFormat.double.ofInt (read 32 signed lane))
  | .f32x4DemoteF64x2Zero => ofLanes 32 ((split 64 v).map (FloatFormat.convert .double .single))
  | .f64x2PromoteLowF32x4 => ofLanes 64 ((half 32 false v).map (FloatFormat.convert .single .double))

/-- Bits of the first vector where the third has ones, and of the second elsewhere. -/
def select (a b choice : Nat) : Nat := (a &&& choice) ||| (b &&& complement 128 choice)

/-- Sums of neighbouring products of lanes, those of the second vector with or without their sign. -/
def dotProducts (width : Nat) (signed : Bool) (a b : Nat) : List Int :=
  (pairs (List.zipWith (fun x y => toInt width x * read width signed y) (split width a) (split width b))).map
    fun (x, y) => x + y

/-- Lanes of the first vector where the third has its top bit set, and of the second elsewhere. -/
def laneSelect (width a b choice : Nat) : Nat :=
  ofLanes width (List.zipWith (fun (x, y) lane => if lane < modulus width / 2 then y else x)
    ((split width a).zip (split width b)) (split width choice))

/-- The outcome of an instruction on one vector that gives a vector. -/
def unary? : VectorOp → Option (Nat → Nat)
  | .not => some (complement 128)
  | .intUnary shape op => some (map shape.width (intUnary shape.width · op))
  | .floatUnary shape op => some (map (floatWidth shape) (floatUnary (format shape) · op))
  | .extend shape high signed => some fun v =>
    ofLanes shape.width ((half (shape.width / 2) high v).map fun lane =>
      ofInt shape.width (read (shape.width / 2) signed lane))
  | .extAddPairwise shape signed => some fun v =>
    ofLanes shape.width ((pairs ((split (shape.width / 2) v).map (read (shape.width / 2) signed))).map
      fun (x, y) => ofInt shape.width (x + y))
  | .convert op => some (convert · op)
  | _ => none

/-- The outcome of an instruction on two vectors that gives a vector. -/
def binary? : VectorOp → Option (Nat → Nat → Nat)
  | .bitwise .and => some fun a b => a &&& b
  | .bitwise .andNot => some fun a b => a &&& complement 128 b
  | .bitwise .or => some fun a b => a ||| b
  | .bitwise .xor => some fun a b => a ^^^ b
  | .swizzle => some fun a b =>
    let table := split 8 a
    map 8 (fun place => table.getD place 0) b
  | .swizzleLow => some fun a b =>
    let table := split 8 a
    map 8 (fun place => if 128 ≤ place then 0 else table.getD (place % 16) 0) b
  | .intBinary shape op => some (zip shape.width (intBinary shape.width op))
  | .intCompare shape op => some (zip shape.width fun x y => mask shape.width (intCompare shape.width op x y))
  | .narrow shape signed => some fun a b =>
    let wide := 2 * shape.width
    let clamp := if signed then clampS shape.width else clampU shape.width
    ofLanes shape.width ((split wide a ++ split wide b).map fun lane => ofInt shape.width (clamp (toInt wide lane)))
  | .extMul shape high signed => some fun a b =>
    let narrow := shape.width / 2
    ofLanes shape.width (List.zipWith
      (fun x y => ofInt shape.width (read narrow signed x * read narrow signed y)) (half narrow high a) (half narrow high b))
  | .dot => some fun a b => ofLanes 32 ((dotProducts 16 true a b).map (ofInt 32))
  | .floatBinary shape op => some (zip (floatWidth shape) (floatBinary (format shape) op))
  | .floatCompare shape op => some (zip (floatWidth shape) fun x y =>
    mask (floatWidth shape) (floatCompare (format shape) op x y))
  | .dotBytes => some fun a b => ofLanes 16 ((dotProducts 8 false a b).map fun sum => ofInt 16 (clampS 16 sum))
  | _ => none

/-- The outcome of an instruction on three vectors that gives a vector. -/
def ternary? : VectorOp → Option (Nat → Nat → Nat → Nat)
  | .bitSelect => some select
  | .laneSelect shape => some (laneSelect shape.width)
  | .mulAdd shape negated => some fun a b c =>
    let f := format shape
    ofLanes (floatWidth shape) (List.zipWith (fun (x, y) z => f.mulAdd (if negated then f.neg x else x) y z)
      ((split (floatWidth shape) a).zip (split (floatWidth shape) b)) (split (floatWidth shape) c))
  | .dotBytesAdd => some fun a b c =>
    let sums := (dotProducts 8 false a b).map (clampS 16)
    ofLanes 32 (List.zipWith (fun (x, y) z => add 32 (ofInt 32 (x + y)) z) (pairs sums) (split 32 c))
  | _ => none

/-- The outcome of a shift of all lanes. -/
def shift (w : Nat) (op : VectorShift) (v amount : Nat) : Nat :=
  map w (fun lane => match op with
    | .shl => shl w lane amount
    | .shrS => shrS w lane amount
    | .shrU => shrU w lane amount) v

/-- The outcome of an instruction on a vector or a scalar whose operand or result is a scalar. -/
def scalar? : VectorOp → Option (Nat → Nat)
  | .anyTrue => some fun v => ofBool (v ≠ 0)
  | .allTrue shape => some fun v => ofBool ((split shape.width v).all (· ≠ 0))
  | .bitMask shape => some fun v =>
    ofLanes 1 ((split shape.width v).map fun lane => lane >>> (shape.width - 1))
  | .splat shape => some fun a => ofLanes shape.width (List.replicate shape.lanes a)
  | _ => none

/-- Bytes of two vectors at fixed places. -/
def shuffle (places : List Nat) (a b : Nat) : Nat :=
  let table := split 8 a ++ split 8 b
  ofLanes 8 (places.map fun place => table.getD place 0)

/-- A lane as a scalar. -/
def extract (shape : Shape) (signed : Bool) (lane v : Nat) : Nat :=
  let value := wrap shape.width (v >>> (lane * shape.width))
  if signed then ofInt 32 (toInt shape.width value) else value

/-- A vector with one lane changed. -/
def replace (width lane v value : Nat) : Nat := ofLanes width ((split width v).set lane value)

/-- The vector that loaded bytes fill. -/
def ofLoaded (op : VectorLoad) (bits : Nat) : Nat :=
  match op with
  | .full => bits
  | .widen shape signed =>
    ofLanes shape.width ((half (shape.width / 2) false bits).map fun lane =>
      ofInt shape.width (read (shape.width / 2) signed lane))
  | .splat shape => ofLanes shape.width (List.replicate shape.lanes bits)
  | .zero _ => bits

end Vector

/-- The effect of a vector instruction on the operand stack, top first. -/
def VectorOp.apply (op : VectorOp) (stack : List Nat) : Except Trap (List Nat) :=
  match op, stack with
  | .shift shape op, amount :: v :: rest => .ok (Vector.shift shape.width op v amount :: rest)
  | op, stack =>
    match Vector.unary? op, Vector.scalar? op, Vector.binary? op, Vector.ternary? op, stack with
    | some f, _, _, _, a :: rest => .ok (f a :: rest)
    | _, some f, _, _, a :: rest => .ok (f a :: rest)
    | _, _, some f, _, b :: a :: rest => .ok (f a b :: rest)
    | _, _, _, some f, c :: b :: a :: rest => .ok (f a b c :: rest)
    | _, _, _, _, _ => .error .unreachable

end WasmHost.Wasm
