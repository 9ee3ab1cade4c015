import WasmHost.Wasm.Validation.Operands
import WasmHost.Wasm.Validation.Signatures

/-! The typing of instructions. -/

namespace WasmHost.Wasm

namespace Scope

/-- A function type must give what the running function gives. -/
def sameResults (c : Scope) (type : FuncType) : Check Unit :=
  ensure (c.types.allBelow (type.results.map c.types.normal) (c.results.map c.types.normal))

/-- Takes what the running function gives, and what follows is never reached. -/
def leave (c : Scope) : Check Unit := do
  c.popAll c.results
  stop

/-- A table of functions. -/
def functionTable (c : Scope) (index : Nat) : Check Unit := do
  let table ← c.table index
  ensure (c.types.refBelow table.element ⟨true, .abstract .func⟩)

/-- The last of some types, which must be a reference, and those before it. -/
def splitRef (types : List ValType) : Check (List ValType × RefType) :=
  match types.reverse with
  | .ref last :: before => return (before.reverse, last)
  | _ => fail .typeMismatch

/-- What is left of a reference type once another is taken away. -/
def without (a b : RefType) : RefType := if b.nullable then ⟨false, a.heap⟩ else a

/-- Whether a stored type consists of bytes. -/
def isPlainStorage : StorageType → Bool
  | .value type => !type.isRef
  | .i8 | .i16 => true

/-- Checks one handler of a block that catches exceptions. -/
def catchClause (c : Scope) (clause : CatchClause) : Check Unit := do
  let caught ← match clause.tag with
    | some index => c.tag index
    | none => pure []
  let caught := if clause.withRef then caught ++ [.ref ⟨false, .abstract .exn⟩] else caught
  ensure (c.types.allBelow (caught.map c.types.normal) ((← c.label clause.label).map c.types.normal))

/-- A structure type. -/
def structure_ (c : Scope) (index : Nat) : Check (List FieldType) := find "structure type" index (c.types.struct? index)

/-- The element of an array type. -/
def array (c : Scope) (index : Nat) : Check FieldType := find "array type" index (c.types.array? index)

/-- The element of an array type whose elements may change. -/
def writableArray (c : Scope) (index : Nat) : Check FieldType := do
  let element ← c.array index
  if element.writable then return element else fail (.notWritable "array")

/-- A nullable reference to a defined type. -/
def nullable (index : Nat) : ValType := .ref ⟨true, .defined index⟩

/-- A non-null reference to a defined type. -/
def nonNull (index : Nat) : ValType := .ref ⟨false, .defined index⟩

/-- The typing of an instruction on structures, arrays and 31-bit integers. -/
def heapOp (c : Scope) : HeapOp → Check Unit
  | .structNew type => do
    let fields ← c.structure_ type
    c.apply (fields.map (·.storage.unpacked)) [nonNull type]
  | .structNewDefault type => do
    let fields ← c.structure_ type
    ensure (fields.all (·.storage.unpacked.isDefaultable))
    c.push (nonNull type)
  | .structGet type field packed => do
    let field ← find "field" field (← c.structure_ type)[field]?
    ensure (field.storage.isPacked = packed)
    c.apply [nullable type] [field.storage.unpacked]
  | .structSet type field => do
    let field ← find "field" field (← c.structure_ type)[field]?
    if !field.writable then fail (.notWritable "field")
    c.popAll [nullable type, field.storage.unpacked]
  | .arrayNew type => do
    let element ← c.array type
    c.apply [element.storage.unpacked, .i32] [nonNull type]
  | .arrayNewDefault type => do
    let element ← c.array type
    ensure element.storage.unpacked.isDefaultable
    c.apply [.i32] [nonNull type]
  | .arrayNewFixed type count => do
    let element ← c.array type
    c.popMany element.storage.unpacked count
    c.push (nonNull type)
  | .arrayNewData type segment => do
    let element ← c.array type
    ensure (isPlainStorage element.storage)
    c.dataSegment segment
    c.apply [.i32, .i32] [nonNull type]
  | .arrayNewElem type segment => do
    let element ← c.array type
    ensure (c.types.storageBelow (.value (.ref (← c.element segment))) element.storage)
    c.apply [.i32, .i32] [nonNull type]
  | .arrayGet type packed => do
    let element ← c.array type
    ensure (element.storage.isPacked = packed)
    c.apply [nullable type, .i32] [element.storage.unpacked]
  | .arraySet type => do
    let element ← c.writableArray type
    c.popAll [nullable type, .i32, element.storage.unpacked]
  | .arrayLen => c.apply [.ref ⟨true, .abstract .array⟩] [.i32]
  | .arrayFill type => do
    let element ← c.writableArray type
    c.popAll [nullable type, .i32, element.storage.unpacked, .i32]
  | .arrayCopy target source => do
    let element ← c.writableArray target
    ensure (c.types.storageBelow (← c.array source).storage element.storage)
    c.popAll [nullable target, .i32, nullable source, .i32, .i32]
  | .arrayInitData type segment => do
    let element ← c.writableArray type
    ensure (isPlainStorage element.storage)
    c.dataSegment segment
    c.popAll [nullable type, .i32, .i32, .i32]
  | .arrayInitElem type segment => do
    let element ← c.writableArray type
    ensure (c.types.storageBelow (.value (.ref (← c.element segment))) element.storage)
    c.popAll [nullable type, .i32, .i32, .i32]
  | .refI31 => c.apply [.i32] [.ref ⟨false, .abstract .i31⟩]
  | .i31Get => c.apply [.ref ⟨true, .abstract .i31⟩] [.i32]
  | .anyConvertExtern => do
    let isNullable ← c.popAbstract .external
    c.push (.ref ⟨isNullable.getD false, .abstract .any⟩)
  | .externConvertAny => do
    let isNullable ← c.popAbstract .any
    c.push (.ref ⟨isNullable.getD false, .abstract .external⟩)
  | .refTest target => do
    c.checkRef target
    c.apply [.ref ⟨true, .abstract (c.types.top target.heap)⟩] [.i32]
  | .refCast target => do
    c.checkRef target
    c.apply [.ref ⟨true, .abstract (c.types.top target.heap)⟩] [.ref target]

/-- Whether an instruction on the heap is allowed in constant expressions. -/
def isConstantHeapOp : HeapOp → Bool
  | .structNew _ | .structNewDefault _ | .arrayNew _ | .arrayNewDefault _ | .arrayNewFixed ..
  | .refI31 | .anyConvertExtern | .externConvertAny => true
  | _ => false

/-- No block stands in a constant expression. -/
def inFunction (c : Scope) : Check Unit := if c.constant then fail .notConstant else pure ()

/-- Whether an instruction that encloses no others may stand in a constant expression. -/
def isConstant : Instr → Bool
  | .const .. | .globalGet _ | .refNull _ | .refFunc _ => true
  | .numeric op => op.isConstant
  | .heap op => isConstantHeapOp op
  | _ => false

/-- The typing of an instruction that encloses no others. -/
def plain (c : Scope) : Instr → Check Unit
  | .unreachable => stop
  | .nop => pure ()
  | .block .. | .loop .. | .cond .. | .tryTable .. => fail .typeMismatch
  -- Exceptions.
  | .throwTag index => do
    require c.features.exceptions "exceptions"
    c.popAll (← c.tag index)
    stop
  | .throwRef => do
    require c.features.exceptions "exceptions"
    c.take (.ref ⟨true, .abstract .exn⟩)
    stop
  -- Branches.
  | .br depth => do
    c.popAll (← c.label depth)
    stop
  | .brIf depth => do
    c.take .i32
    let types ← c.label depth
    c.apply types types
  | .brTable depths otherwise => do
    c.take .i32
    let types ← c.label otherwise
    depths.forM fun depth => do
      let others ← c.label depth
      ensure (others.length = types.length)
      c.matchAll others
    c.popAll types
    stop
  | .brOnNull depth => do
    require c.features.typedReferences "typed references"
    let type ← popRef
    let types ← c.label depth
    c.apply types types
    match type with
    | some type => c.push (.ref ⟨false, type.heap⟩)
    | none => pushOperand .noRef
  | .brOnNonNull depth => do
    require c.features.typedReferences "typed references"
    let (types, last) ← splitRef (← c.label depth)
    c.take (.ref ⟨true, last.heap⟩)
    c.apply types types
  | .brOnCast failing depth source target => do
    require c.features.heapTypes "heap types"
    c.checkRef source
    c.checkRef target
    ensure (c.types.refBelow target source)
    let (types, last) ← splitRef (← c.label depth)
    -- The branch carries what passes the cast, or with a failing cast what does not.
    let (taken, kept) := if failing then (without source target, target) else (target, without source target)
    ensure (c.types.refBelow taken last)
    c.take (.ref source)
    c.apply types types
    c.push (.ref kept)
  | .ret => c.leave
  -- Calls.
  | .call index => do
    let type ← c.function index
    c.apply type.params type.results
  | .callIndirect typeIndex table => do
    c.functionTable table
    let type ← find "type" typeIndex (c.types.func? typeIndex)
    c.take .i32
    c.apply type.params type.results
  | .returnCall index => do
    let type ← c.function index
    c.sameResults type
    c.popAll type.params
    stop
  | .returnCallIndirect typeIndex table => do
    c.functionTable table
    let type ← find "type" typeIndex (c.types.func? typeIndex)
    c.sameResults type
    c.take .i32
    c.popAll type.params
    stop
  | .callRef typeIndex => do
    require c.features.typedReferences "typed references"
    let type ← find "type" typeIndex (c.types.func? typeIndex)
    c.take (nullable typeIndex)
    c.apply type.params type.results
  | .returnCallRef typeIndex => do
    require c.features.typedReferences "typed references"
    let type ← find "type" typeIndex (c.types.func? typeIndex)
    c.sameResults type
    c.take (nullable typeIndex)
    c.popAll type.params
    stop
  -- Operands and variables.
  | .drop => discard popAny
  | .select none => do
    c.take .i32
    let a ← popAny
    let b ← popAny
    match a, b with
    | .known (.ref _), _ | _, .known (.ref _) | .noRef, _ | _, .noRef => fail .typeMismatch
    | .unknown, other => pushOperand other
    | other, .unknown => pushOperand other
    | .known a, .known b => do
      ensure (a = b)
      c.push a
  | .select (some [type]) => do
    c.checkVal type
    c.apply [type, type, .i32] [type]
  | .select (some _) => fail .typeMismatch
  | .localGet index => do
    let type ← c.local_ index
    let s ← get
    if !type.isDefaultable ∧ !s.initialized.contains index then fail (.uninitializedLocal index)
    c.push type
  | .localSet index => do
    c.take (← c.local_ index)
    initialize_ index
  | .localTee index => do
    let type ← c.local_ index
    c.take type
    initialize_ index
    c.push type
  | .globalGet index => do
    let global ← c.global index
    -- A constant expression reads globals that cannot change; only with heap types also defined ones.
    if c.constant then
      if global.writable then fail .notConstant
      if c.importedGlobals ≤ index ∧ !c.features.heapTypes then fail .notConstant
    c.push global.type
  | .globalSet index => do
    let global ← c.global index
    if !global.writable then fail (.notWritable "global")
    c.take global.type
  -- Tables.
  | .tableGet index => do
    let table ← c.table index
    c.apply [.i32] [.ref table.element]
  | .tableSet index => do
    let table ← c.table index
    c.popAll [.i32, .ref table.element]
  | .tableSize index => do
    let _ ← c.table index
    c.push .i32
  | .tableGrow index => do
    let table ← c.table index
    c.apply [.ref table.element, .i32] [.i32]
  | .tableFill index => do
    let table ← c.table index
    c.popAll [.i32, .ref table.element, .i32]
  | .tableCopy target source => do
    let a ← c.table source
    let b ← c.table target
    ensure (c.types.refBelow a.element b.element)
    c.popAll [.i32, .i32, .i32]
  | .tableInit segment index => do
    let table ← c.table index
    ensure (c.types.refBelow (← c.element segment) table.element)
    c.popAll [.i32, .i32, .i32]
  | .elemDrop segment => discard (c.element segment)
  -- Memories.
  | .load op arg => do
    c.access op.bytes false arg
    c.apply [.i32] [op.type]
  | .store op arg => do
    c.access op.bytes false arg
    c.popAll [.i32, op.type]
  | .memorySize index => do
    let _ ← c.memory index
    c.push .i32
  | .memoryGrow index => do
    let _ ← c.memory index
    c.apply [.i32] [.i32]
  | .memoryFill index => do
    let _ ← c.memory index
    c.popAll [.i32, .i32, .i32]
  | .memoryCopy target source => do
    let _ ← c.memory target
    let _ ← c.memory source
    c.popAll [.i32, .i32, .i32]
  | .memoryInit segment index => do
    let _ ← c.memory index
    c.dataSegment segment
    c.popAll [.i32, .i32, .i32]
  | .dataDrop segment => c.dataSegment segment
  -- Numbers.
  | .const value => do
    c.checkVal value.type
    c.push value.type
  | .numeric op => c.apply op.signature.1 op.signature.2
  -- References.
  | .refNull heap => do
    c.checkRef ⟨true, heap⟩
    c.push (.ref ⟨true, heap⟩)
  | .refIsNull => do
    let _ ← popRef
    c.push .i32
  | .refFunc index => do
    let type ← find "function" index c.functions[index]?
    if !c.constant ∧ !c.declared.getD index false then fail (.undeclaredReference index)
    c.push (nonNull type)
  | .refAsNonNull => do
    require c.features.typedReferences "typed references"
    match ← popRef with
    | some type => c.push (.ref ⟨false, type.heap⟩)
    | none => pushOperand .noRef
  | .refEq => do
    require c.features.heapTypes "heap types"
    let _ ← c.popAbstract .eq
    let _ ← c.popAbstract .eq
    c.push .i32
  | .heap op => do
    require c.features.heapTypes "heap types"
    c.heapOp op
  -- Atomic accesses.
  | .atomic op bytes arg => do
    require c.features.threads "threads"
    c.access bytes true arg
    c.apply (.i32 :: op.signature.1) op.signature.2
  | .atomicFence => require c.features.threads "threads"
  -- Vectors.
  | .vector op relaxed => do
    require c.features.vectors "vectors"
    require (!relaxed || c.features.relaxedVectors) "relaxed vectors"
    c.apply op.signature.1 op.signature.2
  | .vectorShuffle lanes => do
    require c.features.vectors "vectors"
    if lanes.any (32 ≤ ·) then fail (.outOfRange "lane")
    c.apply [.v128, .v128] [.v128]
  | .vectorExtract shape _ lane => do
    require c.features.vectors "vectors"
    if shape.lanes ≤ lane then fail (.outOfRange "lane")
    c.apply [.v128] [shape.scalar]
  | .vectorReplace shape lane => do
    require c.features.vectors "vectors"
    if shape.lanes ≤ lane then fail (.outOfRange "lane")
    c.apply [.v128, shape.scalar] [.v128]
  | .vectorLoad op arg => do
    require c.features.vectors "vectors"
    c.access op.bytes false arg
    c.apply [.i32] [.v128]
  | .vectorStore arg => do
    require c.features.vectors "vectors"
    c.access 16 false arg
    c.popAll [.i32, .v128]
  | .vectorLoadLane shape arg lane => do
    require c.features.vectors "vectors"
    c.access (shape.width / 8) false arg
    if shape.lanes ≤ lane then fail (.outOfRange "lane")
    c.apply [.i32, .v128] [.v128]
  | .vectorStoreLane shape arg lane => do
    require c.features.vectors "vectors"
    c.access (shape.width / 8) false arg
    if shape.lanes ≤ lane then fail (.outOfRange "lane")
    c.popAll [.i32, .v128]
where
  /-- From here on the local holds a value. -/
  initialize_ (index : Nat) : Check Unit :=
    modify fun s => { s with initialized := index :: s.initialized }

mutual

/-- The typing of an instruction. -/
def instr (c : Scope) : Instr → Check Unit
  | .block type body => do
    c.inFunction
    let type ← c.blockType type
    c.popAll type.params
    c.enclosed type (instrs (c.enter type.results) body)
    c.pushAll type.results
  | .loop type body => do
    c.inFunction
    let type ← c.blockType type
    c.popAll type.params
    c.enclosed type (instrs (c.enter type.params) body)
    c.pushAll type.results
  | .cond type onTrue onFalse => do
    c.inFunction
    let type ← c.blockType type
    c.take .i32
    c.popAll type.params
    c.enclosed type (instrs (c.enter type.results) onTrue)
    c.enclosed type (instrs (c.enter type.results) onFalse)
    c.pushAll type.results
  | .tryTable type clauses body => do
    c.inFunction
    require c.features.exceptions "exceptions"
    let type ← c.blockType type
    c.popAll type.params
    clauses.forM c.catchClause
    c.enclosed type (instrs (c.enter type.results) body)
    c.pushAll type.results
  | other => do
    if c.constant ∧ !isConstant other then fail .notConstant
    c.plain other

/-- The typing of instructions that follow one another. -/
def instrs (c : Scope) : List Instr → Check Unit
  | [] => pure ()
  | first :: rest => do
    instr c first
    instrs c rest

end

/-- Checks the body of a function or a constant expression, which starts with no operands. -/
def checkBody (c : Scope) (code : List Instr) : Except Invalid Unit := do
  let _ ← (c.enclosed ⟨[], c.results⟩ (c.instrs code)).run ⟨[], false, []⟩

end Scope

end WasmHost.Wasm
