import WasmHost.Wasm.Binary.Types
import WasmHost.Wasm.Binary.Opcodes

/-! The binary form of instructions and expressions. -/

namespace WasmHost.Wasm.Reader

/-- The most targets of a table branch. -/
def maxBranchTargets : Nat := 7654321

/-- The most handlers of a block. -/
def maxHandlers : Nat := 10000

/-- Where in a memory to read or write; one flag bit announces the index of the memory. -/
def memArg : Reader MemArg := do
  let flags ← u32
  let indexed := flags / 64 % 2 = 1
  let align := if indexed then flags - 64 else flags
  let memory ← if indexed then u32 else pure 0
  if 64 ≤ align then reject (.unknownCode "alignment" align)
  return ⟨align, ← u32, memory⟩

/-- A handler of a block that catches exceptions. -/
def catchClause : Reader CatchClause := do
  match ← byte with
  | 0 => do
    let tag ← u32
    return ⟨some tag, false, ← u32⟩
  | 1 => do
    let tag ← u32
    return ⟨some tag, true, ← u32⟩
  | 2 => return ⟨none, false, ← u32⟩
  | 3 => return ⟨none, true, ← u32⟩
  | other => reject (.unknownCode "catch clause" other)

/-- The immediates of an instruction on structures, arrays and 31-bit integers. -/
def heapInstr : Reader Instr := do
  match ← u32 with
  | 0 => return .heap (.structNew (← u32))
  | 1 => return .heap (.structNewDefault (← u32))
  | 2 => do
    let type ← u32
    return .heap (.structGet type (← u32) false)
  | 3 | 4 => do
    let type ← u32
    return .heap (.structGet type (← u32) true)
  | 5 => do
    let type ← u32
    return .heap (.structSet type (← u32))
  | 6 => return .heap (.arrayNew (← u32))
  | 7 => return .heap (.arrayNewDefault (← u32))
  | 8 => do
    let type ← u32
    return .heap (.arrayNewFixed type (← u32))
  | 9 => do
    let type ← u32
    return .heap (.arrayNewData type (← u32))
  | 10 => do
    let type ← u32
    return .heap (.arrayNewElem type (← u32))
  | 11 => return .heap (.arrayGet (← u32) false)
  | 12 | 13 => return .heap (.arrayGet (← u32) true)
  | 14 => return .heap (.arraySet (← u32))
  | 15 => return .heap .arrayLen
  | 16 => return .heap (.arrayFill (← u32))
  | 17 => do
    let target ← u32
    return .heap (.arrayCopy target (← u32))
  | 18 => do
    let type ← u32
    return .heap (.arrayInitData type (← u32))
  | 19 => do
    let type ← u32
    return .heap (.arrayInitElem type (← u32))
  | 20 => return .heap (.refTest ⟨false, ← heapType⟩)
  | 21 => return .heap (.refTest ⟨true, ← heapType⟩)
  | 22 => return .heap (.refCast ⟨false, ← heapType⟩)
  | 23 => return .heap (.refCast ⟨true, ← heapType⟩)
  | 24 => castBranch false
  | 25 => castBranch true
  | 26 => return .heap .anyConvertExtern
  | 27 => return .heap .externConvertAny
  | 28 => return .heap .refI31
  | 29 | 30 => return .heap .i31Get
  | other => reject (.unknownCode "heap instruction" other)
where
  /-- A branch on the type of a reference; two flags say which of the types hold null. -/
  castBranch (failing : Bool) : Reader Instr := do
    let flags ← byte
    if 3 < flags then reject (.unknownCode "cast flags" flags)
    let label ← u32
    let source ← heapType
    return .brOnCast failing label ⟨flags % 2 = 1, source⟩ ⟨2 ≤ flags, ← heapType⟩

/-- The immediates of an instruction on bulk memory and tables, or of a clamping conversion. -/
def bulkInstr : Reader Instr := do
  match ← u32 with
  | 8 => do
    let segment ← u32
    return .memoryInit segment (← u32)
  | 9 => return .dataDrop (← u32)
  | 10 => do
    let target ← u32
    return .memoryCopy target (← u32)
  | 11 => return .memoryFill (← u32)
  | 12 => do
    let segment ← u32
    return .tableInit segment (← u32)
  | 13 => return .elemDrop (← u32)
  | 14 => do
    let target ← u32
    return .tableCopy target (← u32)
  | 15 => return .tableGrow (← u32)
  | 16 => return .tableSize (← u32)
  | 17 => return .tableFill (← u32)
  | other =>
    match clampingConversions[other]? with
    | some op => return .numeric (.convert op)
    | none => reject (.unknownCode "bulk instruction" other)

/-- The immediates of an instruction on vectors. -/
def vectorInstr : Reader Instr := do
  let opcode ← u32
  match vectorLoads[opcode]?, laneAccesses[opcode - 21]? with
  | some op, _ => return .vectorLoad op (← memArg)
  | none, access =>
    if opcode = 11 then return .vectorStore (← memArg)
    else if opcode = 12 then return .const (.v128 (BitVec.ofNat 128 (← fixed 16)))
    else if opcode = 13 then return .vectorShuffle (← times byte 16)
    else if opcode = 92 then return .vectorLoad (.zero .i32x4) (← memArg)
    else if opcode = 93 then return .vectorLoad (.zero .i64x2) (← memArg)
    else if 21 ≤ opcode ∧ opcode ≤ 34 then
      match access with
      | some instr => return instr (← byte)
      | none => reject (.unknownCode "vector instruction" opcode)
    else if 84 ≤ opcode ∧ opcode ≤ 91 then
      let shape := laneShapes.getD ((opcode - 84) % 4) .i8x16
      let arg ← memArg
      let lane ← byte
      return if opcode < 88 then .vectorLoadLane shape arg lane else .vectorStoreLane shape arg lane
    else
      match vectorOps.lookup opcode with
      | some op => return .vector op (isRelaxedOpcode opcode)
      | none => reject (.unknownCode "vector instruction" opcode)

/-- The immediates of an atomic instruction. -/
def atomicInstr : Reader Instr := do
  let opcode ← u32
  if opcode = 3 then
    let order ← byte
    if order ≠ 0 then reject (.unknownCode "memory order" order)
    return .atomicFence
  else
    match atomicOp? opcode with
    | some (op, bytes) => return .atomic op bytes (← memArg)
    | none => reject (.unknownCode "atomic instruction" opcode)

/-- The immediates of an instruction that opens no block. -/
def plainInstr (opcode : Nat) : Reader Instr := do
  match opcode with
  | 0x00 => return .unreachable
  | 0x01 => return .nop
  | 0x08 => return .throwTag (← u32)
  | 0x0A => return .throwRef
  | 0x0C => return .br (← u32)
  | 0x0D => return .brIf (← u32)
  | 0x0E => do
    let labels ← sequence "branch targets" maxBranchTargets u32
    return .brTable labels (← u32)
  | 0x0F => return .ret
  | 0x10 => return .call (← u32)
  | 0x11 => do
    let type ← u32
    return .callIndirect type (← u32)
  | 0x12 => return .returnCall (← u32)
  | 0x13 => do
    let type ← u32
    return .returnCallIndirect type (← u32)
  | 0x14 => return .callRef (← u32)
  | 0x15 => return .returnCallRef (← u32)
  | 0x1A => return .drop
  | 0x1B => return .select none
  | 0x1C => return .select (some (← sequence "results" maxArity valType))
  | 0x20 => return .localGet (← u32)
  | 0x21 => return .localSet (← u32)
  | 0x22 => return .localTee (← u32)
  | 0x23 => return .globalGet (← u32)
  | 0x24 => return .globalSet (← u32)
  | 0x25 => return .tableGet (← u32)
  | 0x26 => return .tableSet (← u32)
  | 0x3F => return .memorySize (← u32)
  | 0x40 => return .memoryGrow (← u32)
  | 0x41 => return .const (.i32 (BitVec.ofInt 32 (← signed 32)))
  | 0x42 => return .const (.i64 (BitVec.ofInt 64 (← signed 64)))
  | 0x43 => return .const (.f32 (BitVec.ofNat 32 (← fixed 4)))
  | 0x44 => return .const (.f64 (BitVec.ofNat 64 (← fixed 8)))
  | 0xD0 => return .refNull (← heapType)
  | 0xD1 => return .refIsNull
  | 0xD2 => return .refFunc (← u32)
  | 0xD3 => return .refEq
  | 0xD4 => return .refAsNonNull
  | 0xD5 => return .brOnNull (← u32)
  | 0xD6 => return .brOnNonNull (← u32)
  | 0xFB => heapInstr
  | 0xFC => bulkInstr
  | 0xFD => vectorInstr
  | 0xFE => atomicInstr
  | other =>
    if 0x28 ≤ other ∧ other < 0x36 then
      match loadOps[other - 0x28]? with
      | some op => return .load op (← memArg)
      | none => reject (.unknownCode "instruction" other)
    else if 0x36 ≤ other ∧ other < 0x3F then
      match storeOps[other - 0x36]? with
      | some op => return .store op (← memArg)
      | none => reject (.unknownCode "instruction" other)
    else
      match numericOp? other with
      | some op => return .numeric op
      | none => reject (.unknownCode "instruction" other)

/-- What an open block becomes when it ends. -/
inductive Opened where
  /-- A block. -/
  | block (type : BlockType)
  /-- A loop. -/
  | loop (type : BlockType)
  /-- The first of two alternatives. -/
  | onTrue (type : BlockType)
  /-- The second of two alternatives, after the first. -/
  | onFalse (type : BlockType) (first : List Instr)
  /-- A block that catches exceptions. -/
  | tryTable (type : BlockType) (clauses : List CatchClause)

/-- The instruction that a finished block is. -/
def Opened.close (body : List Instr) : Opened → Instr
  | .block type => .block type body
  | .loop type => .loop type body
  | .onTrue type => .cond type body []
  | .onFalse type first => .cond type first body
  | .tryTable type clauses => .tryTable type clauses body

/-- The block that an opcode opens. -/
def opening? (opcode : Nat) : Option (Reader Opened) :=
  match opcode with
  | 0x02 => some do return .block (← blockType)
  | 0x03 => some do return .loop (← blockType)
  | 0x04 => some do return .onTrue (← blockType)
  | 0x1F => some do
    let type ← blockType
    return .tryTable type (← sequence "handlers" maxHandlers catchClause)
  | _ => none

/-- Instructions up to the end that closes them.
Every step takes a byte, so the number of bytes bounds the steps. -/
def instrs : Reader (List Instr) := do
  go ((← remaining) + 1) [] []
where
  /-- `outer` holds the open blocks with what came before each, `done` the instructions of the
  innermost one in reverse. -/
  go : Nat → List (Opened × List Instr) → List Instr → Reader (List Instr)
    | 0, _, _ => reject .unexpectedEnd
    | fuel + 1, outer, done => do
      let opcode ← byte
      match opcode, outer with
      -- An end closes the innermost block, or everything.
      | 0x0B, [] => return done.reverse
      | 0x0B, (opened, before) :: outer => go fuel outer (opened.close done.reverse :: before)
      -- An else is only right in the first of two alternatives.
      | 0x05, (.onTrue type, before) :: outer =>
        go fuel ((.onFalse type done.reverse, before) :: outer) []
      | 0x05, _ => reject .unbalanced
      | opcode, outer =>
        match opening? opcode with
        | some opened => go fuel ((← opened, done) :: outer) []
        | none => go fuel outer ((← plainInstr opcode) :: done)

end WasmHost.Wasm.Reader
