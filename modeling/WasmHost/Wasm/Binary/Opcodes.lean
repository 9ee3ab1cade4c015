import WasmHost.Wasm.Instr

/-! The opcodes of the instructions that have no immediates, in the order of their numbers. -/

namespace WasmHost.Wasm

/-- The comparisons of integers, in the order of their opcodes. -/
def intCompares : List IntCompare :=
  [.eq, .ne, .ltS, .ltU, .gtS, .gtU, .leS, .leU, .geS, .geU]

/-- The comparisons of floating-point numbers, in the order of their opcodes. -/
def floatCompares : List FloatCompare := [.eq, .ne, .lt, .gt, .le, .ge]

/-- The operations on one and two integers, in the order of their opcodes. -/
def intOps (type : IntType) : List NumericOp :=
  let unary : List IntUnary := [.clz, .ctz, .popcnt]
  let binary : List IntBinary :=
    [.add, .sub, .mul, .divS, .divU, .remS, .remU, .and, .or, .xor, .shl, .shrS, .shrU, .rotl, .rotr]
  List.append (unary.map (.intUnary type)) (binary.map (.intBinary type))

/-- The operations on one and two floating-point numbers, in the order of their opcodes. -/
def floatOps (type : FloatType) : List NumericOp :=
  let unary : List FloatUnary := [.abs, .neg, .ceil, .floor, .trunc, .nearest, .sqrt]
  let binary : List FloatBinary := [.add, .sub, .mul, .div, .min, .max, .copysign]
  List.append (unary.map (.floatUnary type)) (binary.map (.floatBinary type))

/-- The conversions, in the order of their opcodes. -/
def conversions : List Conversion :=
  [.wrap,
   .trunc .i32 .f32 true, .trunc .i32 .f32 false, .trunc .i32 .f64 true, .trunc .i32 .f64 false,
   .extend true, .extend false,
   .trunc .i64 .f32 true, .trunc .i64 .f32 false, .trunc .i64 .f64 true, .trunc .i64 .f64 false,
   .convert .f32 .i32 true, .convert .f32 .i32 false, .convert .f32 .i64 true, .convert .f32 .i64 false,
   .demote,
   .convert .f64 .i32 true, .convert .f64 .i32 false, .convert .f64 .i64 true, .convert .f64 .i64 false,
   .promote,
   .toBits .f32, .toBits .f64, .ofBits .f32, .ofBits .f64]

/-- The computations on numbers, in the order of their opcodes from `0x45` on. -/
def numericOps : Array NumericOp :=
  let groups : List (List NumericOp) :=
    [[.intEqz .i32], intCompares.map (.intCompare .i32),
     [.intEqz .i64], intCompares.map (.intCompare .i64),
     floatCompares.map (.floatCompare .f32), floatCompares.map (.floatCompare .f64),
     intOps .i32, intOps .i64, floatOps .f32, floatOps .f64,
     conversions.map .convert,
     [.intUnary .i32 (.extend 8), .intUnary .i32 (.extend 16),
      .intUnary .i64 (.extend 8), .intUnary .i64 (.extend 16), .intUnary .i64 (.extend 32)]]
  groups.flatten.toArray

/-- The computation on numbers that an opcode names. -/
def numericOp? (opcode : Nat) : Option NumericOp :=
  if opcode < 0x45 then none else numericOps[opcode - 0x45]?

/-- The clamping conversions, in the order of their opcodes. -/
def clampingConversions : Array Conversion :=
  #[.truncSat .i32 .f32 true, .truncSat .i32 .f32 false, .truncSat .i32 .f64 true, .truncSat .i32 .f64 false,
    .truncSat .i64 .f32 true, .truncSat .i64 .f32 false, .truncSat .i64 .f64 true, .truncSat .i64 .f64 false]

/-- The loads of numbers, in the order of their opcodes from `0x28` on. -/
def loadOps : Array LoadOp :=
  #[.mk .i32 4 false, .mk .i64 8 false, .mk .f32 4 false, .mk .f64 8 false,
    .mk .i32 1 true, .mk .i32 1 false, .mk .i32 2 true, .mk .i32 2 false,
    .mk .i64 1 true, .mk .i64 1 false, .mk .i64 2 true, .mk .i64 2 false,
    .mk .i64 4 true, .mk .i64 4 false]

/-- The stores of numbers, in the order of their opcodes from `0x36` on. -/
def storeOps : Array StoreOp :=
  #[⟨.i32, 4⟩, ⟨.i64, 8⟩, ⟨.f32, 4⟩, ⟨.f64, 8⟩, ⟨.i32, 1⟩, ⟨.i32, 2⟩, ⟨.i64, 1⟩, ⟨.i64, 2⟩, ⟨.i64, 4⟩]

/-- The widths at which memory is accessed atomically, in the order of their opcodes. -/
def atomicWidths : List (IntType × Nat) :=
  [(.i32, 4), (.i64, 8), (.i32, 1), (.i32, 2), (.i64, 1), (.i64, 2), (.i64, 4)]

/-- The atomic accesses, in the order of their opcodes from `0x10` on. -/
def atomicOps : Array (AtomicOp × Nat) :=
  -- Sum, difference, conjunction, disjunction, exclusive disjunction and replacement differ only in
  -- what they compute.
  let families : List (IntType → AtomicOp) :=
    [.load, .store, .update, .update, .update, .update, .update, .update, .exchange]
  (families.flatMap fun family => atomicWidths.map fun (type, bytes) => (family type, bytes)).toArray

/-- The atomic access that an opcode names, with the bytes that it touches. -/
def atomicOp? : Nat → Option (AtomicOp × Nat)
  | 0x00 => some (.notify, 4)
  | 0x01 => some (.wait .i32, 4)
  | 0x02 => some (.wait .i64, 8)
  | opcode => if opcode < 0x10 then none else atomicOps[opcode - 0x10]?

/-- The ten comparisons of integer lanes, from an opcode on. -/
def laneCompares (first : Nat) (shape : IntShape) : List (Nat × VectorOp) :=
  let ops : List VectorIntCompare := [.eq, .ne, .ltS, .ltU, .gtS, .gtU, .leS, .leU, .geS, .geU]
  ops.zipIdx.map fun (op, place) => (first + place, .intCompare shape op)

/-- The six comparisons of floating-point lanes, from an opcode on. -/
def laneFloatCompares (first : Nat) (shape : FloatShape) : List (Nat × VectorOp) :=
  let ops : List VectorFloatCompare := [.eq, .ne, .lt, .gt, .le, .ge]
  ops.zipIdx.map fun (op, place) => (first + place, .floatCompare shape op)

/-- The operations on two vectors of floating-point lanes, from an opcode on. -/
def laneFloatBinaries (first : Nat) (shape : FloatShape) : List (Nat × VectorOp) :=
  let ops : List VectorFloatBinary := [.add, .sub, .mul, .div, .min, .max, .pmin, .pmax]
  ops.zipIdx.map fun (op, place) => (first + place, .floatBinary shape op)

/-- The three shifts of integer lanes, from an opcode on. -/
def laneShifts (first : Nat) (shape : IntShape) : List (Nat × VectorOp) :=
  [(first, .shift shape .shl), (first + 1, .shift shape .shrS), (first + 2, .shift shape .shrU)]

/-- The four ways to widen one half of a vector, from an opcode on. -/
def laneExtends (first : Nat) (shape : IntShape) : List (Nat × VectorOp) :=
  [(first, .extend shape false true), (first + 1, .extend shape true true),
   (first + 2, .extend shape false false), (first + 3, .extend shape true false)]

/-- The four ways to multiply one half of two vectors, from an opcode on. -/
def laneExtMuls (first : Nat) (shape : IntShape) : List (Nat × VectorOp) :=
  [(first, .extMul shape false true), (first + 1, .extMul shape true true),
   (first + 2, .extMul shape false false), (first + 3, .extMul shape true false)]

/-- The sums and differences of integer lanes with and without clamping, from an opcode on. -/
def laneSums (first : Nat) (shape : IntShape) : List (Nat × VectorOp) :=
  let ops : List VectorIntBinary := [.add, .addSatS, .addSatU, .sub, .subSatS, .subSatU]
  ops.zipIdx.map fun (op, place) => (first + place, .intBinary shape op)

/-- The minima and maxima of integer lanes, from an opcode on. -/
def laneBounds (first : Nat) (shape : IntShape) : List (Nat × VectorOp) :=
  let ops : List VectorIntBinary := [.minS, .minU, .maxS, .maxU]
  ops.zipIdx.map fun (op, place) => (first + place, .intBinary shape op)

/-- The vector instructions that move lanes, compare lanes or see no lanes, with their opcodes. -/
def wholeVectorOps : List (Nat × VectorOp) :=
  let groups : List (List (Nat × VectorOp)) :=
    [[(14, .swizzle), (15, .splat (.int .i8x16)), (16, .splat (.int .i16x8)), (17, .splat (.int .i32x4)),
      (18, .splat (.int .i64x2)), (19, .splat (.float .f32x4)), (20, .splat (.float .f64x2))],
     laneCompares 35 .i8x16, laneCompares 45 .i16x8, laneCompares 55 .i32x4, laneFloatCompares 65 .f32x4,
     laneFloatCompares 71 .f64x2,
     [(77, .not), (78, .bitwise .and), (79, .bitwise .andNot), (80, .bitwise .or), (81, .bitwise .xor),
      (82, .bitSelect), (83, .anyTrue),
      (94, .convert .f32x4DemoteF64x2Zero), (95, .convert .f64x2PromoteLowF32x4)]]
  groups.flatten

/-- The vector instructions from the ones on bytes on, with their opcodes. -/
def byteLaneOps : List (Nat × VectorOp) :=
  let groups : List (List (Nat × VectorOp)) :=
    [[(96, .intUnary .i8x16 .abs), (97, .intUnary .i8x16 .neg), (98, .intUnary .i8x16 .popcnt),
      (99, .allTrue .i8x16), (100, .bitMask .i8x16), (101, .narrow .i8x16 true), (102, .narrow .i8x16 false),
      (103, .floatUnary .f32x4 .ceil), (104, .floatUnary .f32x4 .floor),
      (105, .floatUnary .f32x4 .trunc), (106, .floatUnary .f32x4 .nearest)],
     laneShifts 107 .i8x16, laneSums 110 .i8x16,
     [(116, .floatUnary .f64x2 .ceil), (117, .floatUnary .f64x2 .floor)],
     laneBounds 118 .i8x16,
     [(122, .floatUnary .f64x2 .trunc), (123, .intBinary .i8x16 .avgrU),
      (124, .extAddPairwise .i16x8 true), (125, .extAddPairwise .i16x8 false),
      (126, .extAddPairwise .i32x4 true), (127, .extAddPairwise .i32x4 false)]]
  groups.flatten

/-- The vector instructions from the ones on 16-bit lanes on, with their opcodes. -/
def halfLaneOps : List (Nat × VectorOp) :=
  let groups : List (List (Nat × VectorOp)) :=
    [[(128, .intUnary .i16x8 .abs), (129, .intUnary .i16x8 .neg), (130, .intBinary .i16x8 .q15MulrSatS),
      (131, .allTrue .i16x8), (132, .bitMask .i16x8), (133, .narrow .i16x8 true), (134, .narrow .i16x8 false)],
     laneExtends 135 .i16x8, laneShifts 139 .i16x8, laneSums 142 .i16x8,
     [(148, .floatUnary .f64x2 .nearest), (149, .intBinary .i16x8 .mul)],
     laneBounds 150 .i16x8,
     [(155, .intBinary .i16x8 .avgrU)],
     laneExtMuls 156 .i16x8]
  groups.flatten

/-- The vector instructions on 32-bit lanes, with their opcodes. -/
def wordLaneOps : List (Nat × VectorOp) :=
  let groups : List (List (Nat × VectorOp)) :=
    [[(160, .intUnary .i32x4 .abs), (161, .intUnary .i32x4 .neg), (163, .allTrue .i32x4), (164, .bitMask .i32x4)],
     laneExtends 167 .i32x4, laneShifts 171 .i32x4,
     [(174, .intBinary .i32x4 .add), (177, .intBinary .i32x4 .sub), (181, .intBinary .i32x4 .mul)],
     laneBounds 182 .i32x4,
     [(186, .dot)],
     laneExtMuls 188 .i32x4]
  groups.flatten

/-- The vector instructions on 64-bit lanes, with their opcodes. -/
def doubleLaneOps : List (Nat × VectorOp) :=
  let groups : List (List (Nat × VectorOp)) :=
    [[(192, .intUnary .i64x2 .abs), (193, .intUnary .i64x2 .neg), (195, .allTrue .i64x2), (196, .bitMask .i64x2)],
     laneExtends 199 .i64x2, laneShifts 203 .i64x2,
     [(206, .intBinary .i64x2 .add), (209, .intBinary .i64x2 .sub), (213, .intBinary .i64x2 .mul),
      (214, .intCompare .i64x2 .eq), (215, .intCompare .i64x2 .ne), (216, .intCompare .i64x2 .ltS),
      (217, .intCompare .i64x2 .gtS), (218, .intCompare .i64x2 .leS), (219, .intCompare .i64x2 .geS)],
     laneExtMuls 220 .i64x2]
  groups.flatten

/-- The vector instructions on floating-point lanes, with their opcodes. -/
def floatLaneOps : List (Nat × VectorOp) :=
  let groups : List (List (Nat × VectorOp)) :=
    [[(224, .floatUnary .f32x4 .abs), (225, .floatUnary .f32x4 .neg), (227, .floatUnary .f32x4 .sqrt)],
     laneFloatBinaries 228 .f32x4,
     [(236, .floatUnary .f64x2 .abs), (237, .floatUnary .f64x2 .neg), (239, .floatUnary .f64x2 .sqrt)],
     laneFloatBinaries 240 .f64x2,
     [(248, .convert (.i32x4TruncSatF32x4 true)), (249, .convert (.i32x4TruncSatF32x4 false)),
      (250, .convert (.f32x4ConvertI32x4 true)), (251, .convert (.f32x4ConvertI32x4 false)),
      (252, .convert (.i32x4TruncSatF64x2Zero true)), (253, .convert (.i32x4TruncSatF64x2Zero false)),
      (254, .convert (.f64x2ConvertLowI32x4 true)), (255, .convert (.f64x2ConvertLowI32x4 false))]]
  groups.flatten

/-- The relaxed vector instructions with their opcodes, each with the choice that common hardware makes. -/
def relaxedOps : List (Nat × VectorOp) :=
  [(256, .swizzleLow),
   (257, .convert .i32x4TruncF32x4), (258, .convert (.i32x4TruncSatF32x4 false)),
   (259, .convert (.i32x4TruncSatF64x2Zero true)), (260, .convert (.i32x4TruncSatF64x2Zero false)),
   (261, .mulAdd .f32x4 false), (262, .mulAdd .f32x4 true),
   (263, .mulAdd .f64x2 false), (264, .mulAdd .f64x2 true),
   (265, .laneSelect .i8x16), (266, .bitSelect), (267, .laneSelect .i32x4), (268, .laneSelect .i64x2),
   (269, .floatBinary .f32x4 .pmin), (270, .floatBinary .f32x4 .pmax),
   (271, .floatBinary .f64x2 .pmin), (272, .floatBinary .f64x2 .pmax),
   (273, .intBinary .i16x8 .q15MulrWrapS), (274, .dotBytes), (275, .dotBytesAdd)]

/-- The vector instructions without immediates, with their opcodes. -/
def vectorOps : List (Nat × VectorOp) :=
  let groups : List (List (Nat × VectorOp)) :=
    [wholeVectorOps, byteLaneOps, halfLaneOps, wordLaneOps,
     doubleLaneOps, floatLaneOps, relaxedOps]
  groups.flatten

/-- Whether a vector opcode belongs to the relaxed instructions. -/
def isRelaxedOpcode (opcode : Nat) : Bool := 256 ≤ opcode

/-- The vector loads, in the order of their opcodes from zero on. -/
def vectorLoads : Array VectorLoad :=
  #[.full, .widen .i16x8 true, .widen .i16x8 false, .widen .i32x4 true, .widen .i32x4 false,
    .widen .i64x2 true, .widen .i64x2 false,
    .splat .i8x16, .splat .i16x8, .splat .i32x4, .splat .i64x2]

/-- The lane extractions and replacements, in the order of their opcodes from 21 on. -/
def laneAccesses : Array (Nat → Instr) :=
  #[.vectorExtract (.int .i8x16) true, .vectorExtract (.int .i8x16) false, .vectorReplace (.int .i8x16),
    .vectorExtract (.int .i16x8) true, .vectorExtract (.int .i16x8) false, .vectorReplace (.int .i16x8),
    .vectorExtract (.int .i32x4) false, .vectorReplace (.int .i32x4),
    .vectorExtract (.int .i64x2) false, .vectorReplace (.int .i64x2),
    .vectorExtract (.float .f32x4) false, .vectorReplace (.float .f32x4),
    .vectorExtract (.float .f64x2) false, .vectorReplace (.float .f64x2)]

/-- The integer shapes, in the order of their lane widths. -/
def laneShapes : Array IntShape := #[.i8x16, .i16x8, .i32x4, .i64x2]

end WasmHost.Wasm
