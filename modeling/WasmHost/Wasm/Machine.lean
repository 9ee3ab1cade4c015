import WasmHost.Wasm.Memory
import WasmHost.Wasm.Module
import WasmHost.Wasm.VectorArith

/-! The abstract machine: one small step at a time over nested code, with a meter for fuel. -/

namespace WasmHost.Wasm

/-- A function that an instance can call. `ε` is what host functions report. -/
inductive Function (ε : Type) where
  /-- A function of the host: it sees a memory and its arguments, reports, and gives nothing back. -/
  | host (type : FuncType) (typeIndex : Nat) (respond : Option Memory → List Nat → ε)
  /-- A function of the guest: its type, the number of its own locals, and its code. -/
  | guest (type : FuncType) (typeIndex : Nat) (locals : Nat) (code : List Instr)
deriving Inhabited

namespace Function

variable {ε : Type}

/-- The type of a function. -/
def type : Function ε → FuncType
  | .host type .. | .guest type .. => type

/-- The index of the first type equal to the function's. -/
def typeIndex : Function ε → Nat
  | .host _ index _ | .guest _ index .. => index

end Function

/-- What does not change while an instance runs. -/
structure Program (ε : Type) where
  /-- The defined function types, by index. -/
  types : Array FuncType
  /-- For every type index that of the first equal type. -/
  representatives : Array Nat
  /-- The functions, imported ones first. -/
  functions : Array (Function ε)
  /-- The memory that host functions see, if the guest offers one. -/
  hostMemory : Option Nat
  /-- The number of calls that may be open at once. -/
  maxDepth : Nat
deriving Inhabited

/-- What a running instance changes. -/
structure Store where
  /-- The memories. -/
  memories : Array Memory
  /-- The tables. -/
  tables : Array Table
  /-- The values of the globals. -/
  globals : Array Nat
  /-- What is left of the element segments. -/
  elements : Array (Array Nat)
  /-- What is left of the data segments. -/
  data : Array ByteArray
deriving Inhabited

/-- An open block: what a branch to it and what its end lead to. -/
structure Label where
  /-- The number of values that a branch carries. -/
  arity : Nat
  /-- The operands under the block. -/
  below : List Nat
  /-- The code that a branch continues with. -/
  onBranch : List Instr
  /-- The code that the end of the block continues with. -/
  onEnd : List Instr

/-- A function that waits for the one it called. -/
structure Frame where
  /-- The code after the call. -/
  code : List Instr
  /-- The operands under the arguments. -/
  stack : List Nat
  /-- The open blocks, innermost first. -/
  labels : List Label
  /-- The locals. -/
  locals : Array Nat
  /-- The number of its results. -/
  arity : Nat

/-- The machine between two steps. -/
structure Machine (ε : Type) where
  /-- The code of the running function up to the end of the innermost block. -/
  code : List Instr
  /-- The operands of the innermost block, top first. -/
  stack : List Nat
  /-- The open blocks of the running function, innermost first. -/
  labels : List Label
  /-- The locals of the running function. -/
  locals : Array Nat
  /-- The number of results of the running function. -/
  arity : Nat
  /-- The functions that wait, the latest first. -/
  callers : List Frame
  /-- The number of functions that are open. -/
  depth : Nat
  /-- The store. -/
  store : Store
  /-- The fuel charged so far. -/
  charged : Nat
  /-- What host functions reported, the latest first. -/
  events : List ε

/-- Why a run ended. -/
inductive Ending where
  /-- The function gave its results. -/
  | returned (results : List Nat)
  /-- The guest trapped. -/
  | trapped (trap : Trap)
  /-- The fuel or the steps ran out. -/
  | exhausted
deriving DecidableEq, Repr, Inhabited

/-- The outcome of one step. -/
inductive Step (ε : Type) where
  /-- The machine goes on. -/
  | next (machine : Machine ε)
  /-- The run is over. -/
  | done (ending : Ending) (machine : Machine ε)

/-- The fuel that an instruction costs. -/
def Instr.cost : Instr → Nat
  | .nop | .drop | .block .. | .loop .. | .unreachable | .ret => 0
  | _ => 1

namespace Machine

variable {ε : Type}

/-- The numbers of parameters and results of a block. -/
def blockArity (p : Program ε) : BlockType → Nat × Nat
  | .empty => (0, 0)
  | .value _ => (0, 1)
  | .defined index =>
    match p.types[index]? with
    | some type => (type.params.length, type.results.length)
    | none => (0, 0)

/-- Whether the charged fuel has reached the budget; without a budget it never does. -/
@[inline] def isSpent (budget : Option Nat) (charged : Nat) : Bool :=
  match budget with
  | some limit => limit ≤ charged
  | none => false

/-- The machine trapped. -/
def trap (m : Machine ε) (t : Trap) : Step ε := .done (.trapped t) m

/-- The running function gives its results to the one that waits, or to the outside. -/
def leave (m : Machine ε) : Step ε :=
  let results := m.stack.take m.arity
  match m.callers with
  | [] => .done (.returned results) m
  | frame :: callers =>
    .next { m with
      code := frame.code
      stack := results ++ frame.stack
      labels := frame.labels
      locals := frame.locals
      arity := frame.arity
      callers := callers
      depth := m.depth - 1 }

/-- A branch carries values to the block that it leaves; past all blocks it leaves the function. -/
def branch (m : Machine ε) (depth : Nat) : Step ε :=
  match m.labels.drop depth with
  | [] => m.leave
  | label :: outer =>
    .next { m with
      code := label.onBranch
      stack := m.stack.take label.arity ++ label.below
      labels := outer }

/-- Opens a block over its parameters. -/
def enter (m : Machine ε) (params arity : Nat) (body onBranch onEnd : List Instr) : Machine ε :=
  { m with
    code := body
    stack := m.stack.take params
    labels := ⟨arity, m.stack.drop params, onBranch, onEnd⟩ :: m.labels }

/-- Calls a function on the arguments on top of the operands.
A guest function costs one unit on entry, and its budget is looked at right after. -/
def call (p : Program ε) (budget : Option Nat) (m : Machine ε) (f : Function ε) : Step ε :=
  match f with
  | .host type _ respond =>
    let count := type.params.length
    let arguments := (m.stack.take count).reverse
    let memory := p.hostMemory.bind (m.store.memories[·]?)
    .next { m with stack := m.stack.drop count, events := respond memory arguments :: m.events }
  | .guest type _ locals code =>
    let count := type.params.length
    let arguments := (m.stack.take count).reverse
    let charged := m.charged + 1
    if p.maxDepth ≤ m.depth then m.trap .stackExhausted
    else
      let frame : Frame := ⟨m.code, m.stack.drop count, m.labels, m.locals, m.arity⟩
      let inner := { m with
        code := code
        stack := []
        labels := []
        locals := arguments.toArray ++ Array.replicate locals 0
        arity := type.results.length
        callers := frame :: m.callers
        depth := m.depth + 1
        charged := charged }
      if isSpent budget charged then .done .exhausted inner else .next inner

/-- Calls a function in place of the running one, which will not go on. -/
def tailCall (p : Program ε) (budget : Option Nat) (m : Machine ε) (f : Function ε) : Step ε :=
  match f with
  | .host .. =>
    match call p budget m f with
    | .next m => m.leave
    | done => done
  | .guest type _ locals code =>
    let count := type.params.length
    let arguments := (m.stack.take count).reverse
    let charged := m.charged + 1
    let inner := { m with
      code := code
      stack := []
      labels := []
      locals := arguments.toArray ++ Array.replicate locals 0
      arity := type.results.length
      charged := charged }
    if isSpent budget charged then .done .exhausted inner else .next inner

/-- The function in a table slot, which must have the expected type. -/
def callee (p : Program ε) (m : Machine ε) (table typeIndex place : Nat) : Except Trap (Function ε) :=
  match (m.store.tables[table]?).bind (·.elements[place]?) with
  | none => .error .tableOutOfBounds
  | some 0 => .error .uninitializedElement
  | some (index + 1) =>
    match p.functions[index]? with
    | none => .error .uninitializedElement
    | some f =>
      if f.typeIndex = p.representatives.getD typeIndex typeIndex then .ok f else .error .callTypeMismatch

/-- Changes one memory of the store. -/
@[inline] def modifyMemory (m : Machine ε) (index : Nat) (change : Memory → Memory) : Machine ε :=
  { m with store := { m.store with memories := m.store.memories.modify index change } }

/-- Changes one table of the store. -/
@[inline] def modifyTable (m : Machine ε) (index : Nat) (change : Table → Table) : Machine ε :=
  { m with store := { m.store with tables := m.store.tables.modify index change } }

/-- Reads a run of bytes as a number, inside the memory only. -/
@[inline] def read (m : Machine ε) (arg : MemArg) (address count : Nat) : Except Trap Nat :=
  match m.store.memories[arg.memory]? with
  | some memory =>
    let place := address + arg.offset
    if memory.holds place count then .ok (memory.load place count) else .error .memoryOutOfBounds
  | none => .error .memoryOutOfBounds

/-- Writes a number as a run of bytes, inside the memory only. -/
@[inline] def write (m : Machine ε) (arg : MemArg) (address count value : Nat) : Except Trap (Machine ε) :=
  let place := address + arg.offset
  match (m.store.memories[arg.memory]?).map (·.holds place count) with
  | some true => .ok (m.modifyMemory arg.memory fun memory => memory.store place count value)
  | _ => .error .memoryOutOfBounds

/-- The value of a loaded number: a narrow signed one is extended to its type. -/
def loaded (op : LoadOp) (value : Nat) : Nat :=
  if op.signed then Integer.extend (if op.type = .i64 then 64 else 32) (8 * op.bytes) value else value

/-- The answer of an attempt to grow that failed. -/
def growthFailed : Nat := 0xFFFFFFFF

/-- Goes on with other operands. -/
@[inline] def withStack (m : Machine ε) (stack : List Nat) : Step ε := .next { m with stack := stack }

/-- Goes on with what a computation makes of the operands. -/
@[inline] def compute (m : Machine ε) (result : Except Trap (List Nat)) : Step ε :=
  match result with
  | .ok stack => .next { m with stack := stack }
  | .error t => m.trap t

/-- An instruction on tables and their segments. -/
def tableInstr (m : Machine ε) (i : Instr) : Step ε :=
  match i, m.stack with
  | .tableGet index, place :: rest =>
    match (m.store.tables[index]?).bind (·.elements[place]?) with
    | some item => m.withStack (item :: rest)
    | none => m.trap .tableOutOfBounds
  | .tableSet index, item :: place :: rest =>
    match (m.store.tables[index]?).map (·.holds place 1) with
    | some true => .next { m.modifyTable index (·.write place #[item]) with stack := rest }
    | _ => m.trap .tableOutOfBounds
  | .tableSize index, stack =>
    match m.store.tables[index]? with
    | some table => m.withStack (table.elements.size :: stack)
    | none => m.trap .tableOutOfBounds
  | .tableGrow index, count :: item :: rest =>
    match (m.store.tables[index]?).map fun table => (table.canGrow count, table.elements.size) with
    | some (true, before) => .next { m.modifyTable index (·.grow count item) with stack := before :: rest }
    | _ => m.withStack (growthFailed :: rest)
  | .tableFill index, count :: item :: place :: rest =>
    match (m.store.tables[index]?).map (·.holds place count) with
    | some true => .next { m.modifyTable index (·.fill place count item) with stack := rest }
    | _ => m.trap .tableOutOfBounds
  | .tableCopy target source, count :: from_ :: to_ :: rest =>
    match m.store.tables[target]?, m.store.tables[source]? with
    | some a, some b =>
      if a.holds to_ count && b.holds from_ count then
        let items := b.elements.extract from_ (from_ + count)
        .next { m.modifyTable target (·.write to_ items) with stack := rest }
      else m.trap .tableOutOfBounds
    | _, _ => m.trap .tableOutOfBounds
  | .tableInit segment index, count :: from_ :: to_ :: rest =>
    match m.store.tables[index]?, m.store.elements[segment]? with
    | some table, some items =>
      if table.holds to_ count && from_ + count ≤ items.size then
        let items := items.extract from_ (from_ + count)
        .next { m.modifyTable index (·.write to_ items) with stack := rest }
      else m.trap .tableOutOfBounds
    | _, _ => m.trap .tableOutOfBounds
  | .elemDrop segment, _ =>
    .next { m with store := { m.store with elements := m.store.elements.setIfInBounds segment #[] } }
  | _, _ => m.trap .unreachable

/-- An instruction on memories and their segments. -/
def memoryInstr (m : Machine ε) (i : Instr) : Step ε :=
  match i, m.stack with
  | .memorySize index, stack =>
    match m.store.memories[index]? with
    | some memory => m.withStack (memory.pages.size :: stack)
    | none => m.trap .memoryOutOfBounds
  | .memoryGrow index, count :: rest =>
    match (m.store.memories[index]?).map fun memory => (memory.canGrow count, memory.pages.size) with
    | some (true, before) => .next { m.modifyMemory index (·.grow count) with stack := before :: rest }
    | _ => m.withStack (growthFailed :: rest)
  | .memoryFill index, count :: byte :: place :: rest =>
    match (m.store.memories[index]?).map (·.holds place count) with
    | some true => .next { m.modifyMemory index (·.fill place count byte.toUInt8) with stack := rest }
    | _ => m.trap .memoryOutOfBounds
  | .memoryCopy target source, count :: from_ :: to_ :: rest =>
    match m.store.memories[target]?, m.store.memories[source]? with
    | some a, some b =>
      if a.holds to_ count && b.holds from_ count then
        let bytes := b.bytes from_ count
        .next { m.modifyMemory target (·.write to_ bytes) with stack := rest }
      else m.trap .memoryOutOfBounds
    | _, _ => m.trap .memoryOutOfBounds
  | .memoryInit segment index, count :: from_ :: to_ :: rest =>
    match m.store.memories[index]?, m.store.data[segment]? with
    | some memory, some bytes =>
      if memory.holds to_ count && from_ + count ≤ bytes.size then
        let bytes := bytes.extract from_ (from_ + count)
        .next { m.modifyMemory index (·.write to_ bytes) with stack := rest }
      else m.trap .memoryOutOfBounds
    | _, _ => m.trap .memoryOutOfBounds
  | .dataDrop segment, _ =>
    .next { m with store := { m.store with data := m.store.data.setIfInBounds segment .empty } }
  | _, _ => m.trap .unreachable

/-- An instruction on vectors with immediates. -/
def vectorInstr (m : Machine ε) (i : Instr) : Step ε :=
  match i, m.stack with
  | .vectorShuffle places, b :: a :: rest => m.withStack (Vector.shuffle places a b :: rest)
  | .vectorExtract shape signed lane, v :: rest => m.withStack (Vector.extract shape signed lane v :: rest)
  | .vectorReplace shape lane, value :: v :: rest =>
    m.withStack (Vector.replace shape.width lane v value :: rest)
  | .vectorLoad op arg, address :: rest =>
    m.compute ((m.read arg address op.bytes).map fun bits => Vector.ofLoaded op bits :: rest)
  | .vectorStore arg, v :: address :: rest =>
    match m.write arg address 16 v with
    | .ok m => m.withStack rest
    | .error t => m.trap t
  | .vectorLoadLane shape arg lane, v :: address :: rest =>
    m.compute ((m.read arg address (shape.width / 8)).map fun bits =>
      Vector.replace shape.width lane v bits :: rest)
  | .vectorStoreLane shape arg lane, v :: address :: rest =>
    match m.write arg address (shape.width / 8) (Vector.extract (.int shape) false lane v) with
    | .ok m => m.withStack rest
    | .error t => m.trap t
  | _, _ => m.trap .unreachable

/-- One instruction, whose cost is charged and which is already taken off the code.
Instructions of extensions that no engine here runs never come up, and neither do missing operands;
they end in a trap. -/
def exec (p : Program ε) (budget : Option Nat) (m : Machine ε) (i : Instr) : Step ε :=
  match i with
  | .unreachable => m.trap .unreachable
  | .nop => .next m
  -- Blocks.
  | .block type body =>
    let (params, results) := blockArity p type
    .next (m.enter params results body m.code m.code)
  | .loop type body =>
    -- Every round starts here, and so does the look at the budget.
    if isSpent budget m.charged then .done .exhausted m
    else
      let (params, _) := blockArity p type
      .next (m.enter params params body (i :: m.code) m.code)
  | .cond type onTrue onFalse =>
    match m.stack with
    | condition :: rest =>
      let (params, results) := blockArity p type
      let m := { m with stack := rest }
      .next (m.enter params results (if condition = 0 then onFalse else onTrue) m.code m.code)
    | [] => m.trap .unreachable
  -- Branches.
  | .br depth => m.branch depth
  | .brIf depth =>
    match m.stack with
    | condition :: rest =>
      let m := { m with stack := rest }
      if condition = 0 then .next m else m.branch depth
    | [] => m.trap .unreachable
  | .brTable depths otherwise =>
    match m.stack with
    | choice :: rest => { m with stack := rest }.branch (depths[choice]?.getD otherwise)
    | [] => m.trap .unreachable
  | .ret => m.leave
  -- Calls.
  | .call index =>
    match p.functions[index]? with
    | some f => m.call p budget f
    | none => m.trap .unreachable
  | .returnCall index =>
    match p.functions[index]? with
    | some f => m.tailCall p budget f
    | none => m.trap .unreachable
  | .callIndirect type table =>
    match m.stack with
    | place :: rest =>
      match m.callee p table type place with
      | .ok f => { m with stack := rest }.call p budget f
      | .error t => m.trap t
    | [] => m.trap .unreachable
  | .returnCallIndirect type table =>
    match m.stack with
    | place :: rest =>
      match m.callee p table type place with
      | .ok f => { m with stack := rest }.tailCall p budget f
      | .error t => m.trap t
    | [] => m.trap .unreachable
  -- Operands and variables.
  | .drop => m.withStack (m.stack.drop 1)
  | .select _ =>
    match m.stack with
    | condition :: b :: a :: rest => m.withStack ((if condition = 0 then b else a) :: rest)
    | _ => m.trap .unreachable
  | .localGet index => m.withStack (m.locals.getD index 0 :: m.stack)
  | .localSet index =>
    match m.stack with
    | value :: rest => .next { m with stack := rest, locals := m.locals.setIfInBounds index value }
    | [] => m.trap .unreachable
  | .localTee index =>
    match m.stack with
    | value :: rest => .next { m with stack := value :: rest, locals := m.locals.setIfInBounds index value }
    | [] => m.trap .unreachable
  | .globalGet index => m.withStack (m.store.globals.getD index 0 :: m.stack)
  | .globalSet index =>
    match m.stack with
    | value :: rest =>
      .next { m with
        stack := rest
        store := { m.store with globals := m.store.globals.setIfInBounds index value } }
    | [] => m.trap .unreachable
  -- Numbers.
  | .const value => m.withStack (value.bits :: m.stack)
  | .numeric op => m.compute (op.apply m.stack)
  | .load op arg =>
    match m.stack with
    | address :: rest => m.compute ((m.read arg address op.bytes).map fun value => loaded op value :: rest)
    | [] => m.trap .unreachable
  | .store op arg =>
    match m.stack with
    | value :: address :: rest =>
      match { m with stack := rest }.write arg address op.bytes value with
      | .ok m => .next m
      | .error t => .done (.trapped t) { m with stack := rest }
    | _ => m.trap .unreachable
  -- References.
  | .refNull _ => m.withStack (0 :: m.stack)
  | .refFunc index => m.withStack ((index + 1) :: m.stack)
  | .refIsNull =>
    match m.stack with
    | item :: rest => m.withStack (Integer.ofBool (item = 0) :: rest)
    | [] => m.trap .unreachable
  -- Tables and memories.
  | .tableGet .. | .tableSet .. | .tableSize .. | .tableGrow .. | .tableFill .. | .tableCopy ..
  | .tableInit .. | .elemDrop .. => m.tableInstr i
  | .memorySize .. | .memoryGrow .. | .memoryFill .. | .memoryCopy .. | .memoryInit ..
  | .dataDrop .. => m.memoryInstr i
  -- Vectors.
  | .vector op _ => m.compute (op.apply m.stack)
  | .vectorShuffle .. | .vectorExtract .. | .vectorReplace .. | .vectorLoad .. | .vectorStore ..
  | .vectorLoadLane .. | .vectorStoreLane .. => m.vectorInstr i
  -- What no engine here runs.
  | .tryTable .. | .throwTag .. | .throwRef | .brOnNull .. | .brOnNonNull .. | .brOnCast ..
  | .callRef .. | .returnCallRef .. | .refAsNonNull | .refEq | .heap .. | .atomic ..
  | .atomicFence => m.trap .unreachable

/-- One step: the next instruction, or what the end of a block or function leads to. -/
def step (p : Program ε) (budget : Option Nat) (m : Machine ε) : Step ε :=
  match m.code with
  | i :: rest => exec p budget { m with code := rest, charged := m.charged + i.cost } i
  | [] =>
    match m.labels with
    | label :: outer =>
      .next { m with code := label.onEnd, stack := m.stack ++ label.below, labels := outer }
    | [] => m.leave

/-- Steps until the run is over, up to a number of them. -/
def run (p : Program ε) (budget : Option Nat) : Nat → Machine ε → Ending × Machine ε
  | 0, m => (.exhausted, m)
  | steps + 1, m =>
    match step p budget m with
    | .next m => run p budget steps m
    | .done ending m => (ending, m)

end Machine

end WasmHost.Wasm
