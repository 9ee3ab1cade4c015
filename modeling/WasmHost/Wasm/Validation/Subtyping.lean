import WasmHost.Wasm.Types
import WasmHost.Wasm.Validation.Features

/-! The order on types, and when two defined types are one. -/

namespace WasmHost.Wasm

/-- The defined types of a module, each standing for the first type that is equal to it. -/
structure TypeTable where
  /-- The types, with every index replaced by that of the first equal type. -/
  types : Array SubType
  /-- For every index the index of the first equal type. -/
  representatives : Array Nat
  /-- The start and the length of every group that is unlike all before it. -/
  groups : Array (Nat × Nat)
deriving Inhabited

namespace TypeTable

/-- A table without types. -/
def empty : TypeTable := ⟨#[], #[], #[]⟩

/-- The type at an index. -/
def get? (t : TypeTable) (index : Nat) : Option SubType := t.types[index]?

/-- The first index of an equal type. -/
def representative (t : TypeTable) (index : Nat) : Nat := t.representatives.getD index index

/-- Applies a renaming of indices to a heap type. -/
def mapHeap (rename : Nat → Nat) : HeapType → HeapType
  | .abstract heap => .abstract heap
  | .defined index => .defined (rename index)

/-- Applies a renaming of indices to a value type. -/
def mapVal (rename : Nat → Nat) : ValType → ValType
  | .ref r => .ref ⟨r.nullable, mapHeap rename r.heap⟩
  | other => other

/-- Applies a renaming of indices to a stored field. -/
def mapField (rename : Nat → Nat) (field : FieldType) : FieldType :=
  match field.storage with
  | .value type => { field with storage := .value (mapVal rename type) }
  | .i8 | .i16 => field

/-- Applies a renaming of indices to a defined type. -/
def mapSub (rename : Nat → Nat) (type : SubType) : SubType where
  final := type.final
  super := type.super.map rename
  composite := match type.composite with
    | .func f => .func ⟨f.params.map (mapVal rename), f.results.map (mapVal rename)⟩
    | .struct fields => .struct (fields.map (mapField rename))
    | .array element => .array (mapField rename element)

/-- A value type with every index replaced by that of the first equal type. -/
def normal (t : TypeTable) (type : ValType) : ValType := mapVal t.representative type

/-- Whether a new group of types equals an earlier one of the given start and length.
Indices into the new group count from the end of the table on, and move to the earlier group. -/
def repeats (types : Array SubType) (group : List SubType) (earlier : Nat × Nat) : Bool :=
  let (start, length) := earlier
  let moved := group.map (mapSub fun index =>
    if types.size ≤ index then index - types.size + start else index)
  length = group.length && (types.extract start (start + length)).toList = moved

/-- Adds a group of types, whose members may refer to one another. -/
def addGroup (t : TypeTable) (group : List SubType) : TypeTable :=
  let first := t.types.size
  let count := group.length
  -- References to earlier types go to their representatives, those inside the group stay.
  let renamed := group.map (mapSub fun index => if index < first then t.representative index else index)
  match t.groups.find? (repeats t.types renamed) with
  | some (start, _) =>
    { t with
      types := t.types ++ t.types.extract start (start + count)
      representatives := t.representatives ++ (List.range count).map fun i => t.representative (start + i) }
  | none =>
    { types := t.types ++ renamed
      representatives := t.representatives ++ (List.range count).map (first + ·)
      groups := t.groups.push (first, count) }

/-- Whether a type extends another through declared steps. -/
def extends_ (t : TypeTable) : Nat → Nat → Nat → Bool
  | 0, _, _ => false
  | fuel + 1, sub, super =>
    sub = super ||
      match (t.get? sub).bind (·.super) with
      | some next => extends_ t fuel (t.representative next) super
      | none => false

/-- The longest chain of declared extensions. -/
def maxDepth : Nat := 63

/-- Whether the first abstract heap type is below the second. -/
def abstractBelow (a b : AbstractHeap) : Bool :=
  a = b || match a, b with
    | .noFunc, .func => true
    | .noExternal, .external => true
    | .noExn, .exn => true
    | .none, .any | .none, .eq | .none, .i31 | .none, .struct | .none, .array => true
    | .i31, .any | .i31, .eq => true
    | .struct, .any | .struct, .eq => true
    | .array, .any | .array, .eq => true
    | .eq, .any => true
    | _, _ => false

/-- The abstract heap type just above the defined types of a shape. -/
def shapeHeap : CompositeType → AbstractHeap
  | .func _ => .func
  | .struct _ => .struct
  | .array _ => .array

/-- The bottom of the heap types that defined types of a shape belong to. -/
def shapeBottom : CompositeType → AbstractHeap
  | .func _ => .noFunc
  | .struct _ | .array _ => .none

/-- Whether the first heap type is below the second. -/
def heapBelow (t : TypeTable) (a b : HeapType) : Bool :=
  match a, b with
  | .abstract a, .abstract b => abstractBelow a b
  | .defined a, .defined b => extends_ t (maxDepth + 2) (t.representative a) (t.representative b)
  | .defined a, .abstract b =>
    match t.get? a with
    | some type => abstractBelow (shapeHeap type.composite) b
    | none => false
  | .abstract a, .defined b =>
    match t.get? b with
    | some type => a = shapeBottom type.composite
    | none => false

/-- Whether the first reference type is below the second. -/
def refBelow (t : TypeTable) (a b : RefType) : Bool :=
  (!a.nullable || b.nullable) && t.heapBelow a.heap b.heap

/-- Whether the first value type is below the second. -/
def below (t : TypeTable) : ValType → ValType → Bool
  | .ref a, .ref b => t.refBelow a b
  | a, b => a = b

/-- Whether value types are below others, one by one. -/
def allBelow (t : TypeTable) (as bs : List ValType) : Bool :=
  as.length = bs.length && (as.zip bs).all fun (a, b) => t.below a b

/-- Whether the first stored type is below the second. -/
def storageBelow (t : TypeTable) : StorageType → StorageType → Bool
  | .value a, .value b => t.below a b
  | a, b => a = b

/-- Fields that may change must agree, others may be narrower. -/
def fieldBelow (t : TypeTable) (a b : FieldType) : Bool :=
  a.writable = b.writable && t.storageBelow a.storage b.storage &&
    (!a.writable || t.storageBelow b.storage a.storage)

/-- Whether a shape may extend another. -/
def compositeBelow (t : TypeTable) : CompositeType → CompositeType → Bool
  | .func a, .func b => t.allBelow b.params a.params && t.allBelow a.results b.results
  | .struct a, .struct b =>
    b.length ≤ a.length && (a.zip b).all fun (x, y) => t.fieldBelow x y
  | .array a, .array b => t.fieldBelow a b
  | _, _ => false

/-- The top of the heap types that a heap type belongs to. -/
def top (t : TypeTable) : HeapType → AbstractHeap
  | .abstract heap =>
    match heap with
    | .func | .noFunc => .func
    | .external | .noExternal => .external
    | .exn | .noExn => .exn
    | .any | .eq | .i31 | .struct | .array | .none => .any
  | .defined index =>
    match t.get? index with
    | some ⟨_, _, .func _⟩ => .func
    | _ => .any

/-- The function type at an index. -/
def func? (t : TypeTable) (index : Nat) : Option FuncType :=
  match t.get? index with
  | some ⟨_, _, .func type⟩ => some type
  | _ => none

/-- The fields of the structure type at an index. -/
def struct? (t : TypeTable) (index : Nat) : Option (List FieldType) :=
  match t.get? index with
  | some ⟨_, _, .struct fields⟩ => some fields
  | _ => none

/-- The element of the array type at an index. -/
def array? (t : TypeTable) (index : Nat) : Option FieldType :=
  match t.get? index with
  | some ⟨_, _, .array element⟩ => some element
  | _ => none

end TypeTable

/-- An extension must be accepted when it is used. -/
def Features.require (accepted : Bool) (what : String) : Except Invalid Unit :=
  if accepted then .ok () else .error (.notAccepted what)

/-- Whether a heap type is accepted and, if it is defined, exists below a bound. -/
def Features.checkRef (f : Features) (bound : Nat) (r : RefType) : Except Invalid Unit :=
  match r.heap with
  | .defined index =>
    if index < bound then Features.require (f.typedReferences || f.heapTypes) "typed references"
    else .error (.unknownIndex "type" index)
  | .abstract .func => Features.require (r.nullable || f.typedReferences) "typed references"
  | .abstract .external =>
    if r.nullable then Features.require f.foreignReferences "foreign references"
    else Features.require f.typedReferences "typed references"
  | .abstract .exn | .abstract .noExn => Features.require f.exceptions "exceptions"
  | .abstract _ => Features.require f.heapTypes "heap types"

/-- Whether a value type is accepted. -/
def Features.checkVal (f : Features) (bound : Nat) : ValType → Except Invalid Unit
  | .v128 => Features.require f.vectors "vectors"
  | .ref r => f.checkRef bound r
  | _ => .ok ()

/-- Whether a stored field is accepted. -/
def Features.checkField (f : Features) (bound : Nat) (field : FieldType) : Except Invalid Unit :=
  match field.storage with
  | .value type => f.checkVal bound type
  | .i8 | .i16 => .ok ()

/-- Whether a shape is accepted. -/
def Features.checkComposite (f : Features) (bound : Nat) : CompositeType → Except Invalid Unit
  | .func type => do
    type.params.forM (f.checkVal bound)
    type.results.forM (f.checkVal bound)
  | .struct fields => do
    Features.require f.heapTypes "structures"
    fields.forM (f.checkField bound)
  | .array element => do
    Features.require f.heapTypes "arrays"
    f.checkField bound element

/-- The length of the chain of declared extensions above a type. -/
def TypeTable.depth (t : TypeTable) : Nat → Nat → Nat
  | 0, _ => 0
  | fuel + 1, index =>
    match (t.get? index).bind (·.super) with
    | some next => t.depth fuel next + 1
    | none => 0

/-- Whether a defined type may extend what it says. -/
def TypeTable.checkSuper (t : TypeTable) (index : Nat) (type : SubType) : Except Invalid Unit := do
  match type.super with
  | none => return
  | some super =>
    -- Only an earlier type can be extended, and only one that is not final.
    match (if super < index then t.get? super else none) with
    | none => throw (.unknownIndex "type" super)
    | some parent =>
      if parent.final then throw (.notWritable "final type")
      if !t.compositeBelow type.composite parent.composite then throw .typeMismatch
      if TypeTable.maxDepth < t.depth (TypeTable.maxDepth + 2) index then throw (.outOfRange "subtyping depth")

/-- The table of a module's defined types, if they are all valid. -/
def TypeTable.ofGroups (f : Features) (groups : List RecGroup) : Except Invalid TypeTable :=
  groups.foldlM addChecked .empty
where
  /-- The members of a group are checked once the whole group is known. -/
  addChecked (t : TypeTable) (group : RecGroup) : Except Invalid TypeTable := do
    let first := t.types.size
    let bound := first + group.types.length
    if group.written then Features.require f.heapTypes "type groups"
    group.types.forM fun type => do
      if !type.final || type.super.isSome then Features.require f.heapTypes "subtypes"
      f.checkComposite bound type.composite
    let t := t.addGroup group.types
    group.types.zipIdx.forM fun (type, place) => t.checkSuper (first + place) type
    return t

end WasmHost.Wasm
