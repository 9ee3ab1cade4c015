import Mathlib.Data.List.Forall2
import Mathlib.Data.Nat.Basic
import Mathlib.Order.Basic
import WasmHost.Proofs.Number.Ranges
import WasmHost.Wasm.Machine
import WasmHost.Wasm.Validation.Signatures

/-! What cells hold, and that computations on cells give cells of their result types. -/

namespace WasmHost.Wasm

/-- A cell holds a number of a type if the number fits the width. Nothing is asked of vectors and references. -/
def ValType.Holds (type : ValType) (cell : Nat) : Prop :=
  match type with
  | .v128 | .ref _ => True
  | number => cell < 2 ^ number.width

/-- Cells hold values of types, one by one. -/
abbrev HoldAll (types : List ValType) (cells : List Nat) : Prop := List.Forall₂ ValType.Holds types cells

theorem holds_int_iff {type : IntType} {cell : Nat} : type.valType.Holds cell ↔ cell < 2 ^ type.width := by
  cases type <;> rfl

theorem holds_float_iff {type : FloatType} {cell : Nat} : type.valType.Holds cell ↔ cell < 2 ^ type.format.width := by
  cases type <;> rfl

theorem known_format (type : FloatType) : type.format.Known := by
  cases type
  · exact .inl rfl
  · exact .inr rfl

theorem holds_i32_of_le {cell : Nat} (small : cell ≤ 65536) : ValType.i32.Holds cell := by
  show cell < 2 ^ 32
  omega

theorem holds_ofBool (b : Bool) : ValType.i32.Holds (Integer.ofBool b) :=
  holds_i32_of_le ((Integer.ofBool_le b).trans (by decide))

/-- The initial value of a local is one of every type. -/
theorem holds_zero (type : ValType) : type.Holds 0 := by
  cases type <;> first | trivial | exact Nat.two_pow_pos _

theorem Constant.holds_bits (value : Constant) : value.type.Holds value.bits := by
  cases value with
  | i32 bits | i64 bits | f32 bits | f64 bits => exact bits.isLt
  | v128 bits => trivial

/-- Lists that belong together item by item do so at every place. -/
theorem exists_getElem?_of_forall₂ {α β : Type} {related : α → β → Prop} {firsts : List α} {seconds : List β} {index : Nat}
    {a : α} (both : List.Forall₂ related firsts seconds) (there : firsts[index]? = some a) :
    ∃ b, seconds[index]? = some b ∧ related a b := by
  -- The place counts down along both lists.
  induction both generalizing index with
  | nil => cases there
  | cons here _ ih =>
    cases index with
    | zero =>
      cases there
      exact ⟨_, rfl, here⟩
    | succ index => exact ih there

namespace HoldAll

variable {a b : ValType} {cells : List Nat}

theorem exists_one (held : HoldAll [a] cells) : ∃ x, cells = [x] ∧ a.Holds x := by
  obtain ⟨x, cells, here, rest, rfl⟩ := List.forall₂_cons_left_iff.1 held
  cases rest
  exact ⟨x, rfl, here⟩

theorem exists_two (held : HoldAll [a, b] cells) : ∃ x y, cells = [x, y] ∧ a.Holds x ∧ b.Holds y := by
  obtain ⟨x, cells, here, rest, rfl⟩ := List.forall₂_cons_left_iff.1 held
  obtain ⟨y, rfl, there⟩ := exists_one rest
  exact ⟨x, y, rfl, here, there⟩

theorem exists_three {c : ValType} (held : HoldAll [a, b, c] cells) :
    ∃ x y z, cells = [x, y, z] ∧ a.Holds x ∧ b.Holds y ∧ c.Holds z := by
  obtain ⟨x, cells, here, rest, rfl⟩ := List.forall₂_cons_left_iff.1 held
  obtain ⟨y, z, rfl, there, beyond⟩ := exists_two rest
  exact ⟨x, y, z, rfl, here, there, beyond⟩

theorem one {x : Nat} (here : a.Holds x) : HoldAll [a] [x] := .cons here .nil

/-- On a stack, the last cell comes first. -/
theorem reverse_iff {types : List ValType} : HoldAll types.reverse cells ↔ HoldAll types cells.reverse := by
  rw [HoldAll, ← List.forall₂_reverse_iff, List.reverse_reverse]

variable {types : List ValType} {index cell : Nat} {type : ValType}

/-- A value of the type at a place can be written there. -/
theorem set (held : HoldAll types cells) (there : types[index]? = some type) (fits : type.Holds cell) :
    HoldAll types (cells.set index cell) := by
  -- The place counts down along the types and the cells.
  induction held generalizing index with
  | nil => cases there
  | cons here others ih =>
    cases index with
    | zero =>
      cases there
      exact .cons fits others
    | succ index => exact .cons here (ih there)

end HoldAll

/-! ### Numbers -/

theorem IntUnary.apply_lt (type : IntType) (op : IntUnary) (a : Nat) : op.apply type.width a < 2 ^ type.width := by
  have counts {n : Nat} (small : n ≤ type.width) : n < 2 ^ type.width := small.trans_lt Nat.lt_two_pow_self
  cases op with
  | clz => exact counts (Integer.clz_le _ _)
  | ctz => exact counts (Integer.ctz_le _ _)
  | popcnt => exact counts (Integer.popcnt_le _ _)
  | extend bits => exact Integer.ofInt_lt _ _

theorem IntBinary.apply_lt {w a b value : Nat} {op : IntBinary} (left : a < 2 ^ w) (right : b < 2 ^ w)
    (applied : op.apply w a b = .ok value) : value < 2 ^ w := by
  cases op with
  | add | sub | mul | shl | rotl | rotr =>
    cases applied
    exact Integer.wrap_lt_pow _ _
  | divS =>
    simp only [apply] at applied
    split_ifs at applied
    cases applied
    exact Integer.ofInt_lt _ _
  | divU =>
    simp only [apply] at applied
    split_ifs at applied
    cases applied
    exact (Nat.div_le_self _ _).trans_lt left
  | remS =>
    simp only [apply] at applied
    split_ifs at applied
    cases applied
    exact Integer.ofInt_lt _ _
  | remU =>
    simp only [apply] at applied
    split_ifs at applied
    cases applied
    exact (Nat.mod_le _ _).trans_lt left
  | and =>
    cases applied
    exact Nat.and_lt_two_pow _ right
  | or =>
    cases applied
    exact Nat.or_lt_two_pow left right
  | xor =>
    cases applied
    exact Nat.xor_lt_two_pow left right
  | shrS =>
    cases applied
    exact Integer.ofInt_lt _ _
  | shrU =>
    cases applied
    exact (Integer.shrU_le _ _ _).trans_lt left

theorem FloatUnary.apply_lt {f : FloatFormat} (known : f.Known) {a : Nat} (fits : a < 2 ^ f.width) (op : FloatUnary) :
    op.apply f a < 2 ^ f.width := by
  cases op with
  | abs => exact f.abs_lt a
  | neg => exact f.neg_lt a
  | ceil | floor | trunc | nearest => exact FloatFormat.toIntegral_lt known fits _
  | sqrt => exact FloatFormat.sqrt_lt known fits

theorem FloatBinary.apply_lt {f : FloatFormat} (known : f.Known) {a b : Nat} (left : a < 2 ^ f.width)
    (right : b < 2 ^ f.width) (op : FloatBinary) : op.apply f a b < 2 ^ f.width := by
  cases op with
  | add => exact FloatFormat.add_lt known left right
  | sub => exact FloatFormat.sub_lt known left right
  | mul => exact FloatFormat.mul_lt known left right
  | div => exact FloatFormat.div_lt known left right
  | min => exact FloatFormat.min_lt known left right
  | max => exact FloatFormat.max_lt known left right
  | copysign => exact f.copysign_lt a b

theorem truncate_lt {w a value : Nat} {f : FloatFormat} {signed : Bool} (truncated : truncate w f signed a = .ok value) :
    value < 2 ^ w := by
  unfold truncate at truncated
  -- What is no number, or out of range, traps.
  split_ifs at truncated
  split at truncated
  · split_ifs at truncated
    cases truncated
    exact Integer.ofInt_lt _ _
  · cases truncated

theorem truncateClamped_lt (w : Nat) (f : FloatFormat) (signed : Bool) (a : Nat) :
    truncateClamped w f signed a < 2 ^ w := by
  unfold truncateClamped
  dsimp only
  split
  · exact Nat.two_pow_pos w
  · split <;> exact Integer.ofInt_lt _ _

/-- A conversion takes a number of one type to one of another. -/
theorem Conversion.exists_types (op : Conversion) : ∃ source target, op.signature = ([source], [target]) ∧
    ∀ a value, source.Holds a → op.apply a = .ok value → target.Holds value := by
  -- Every conversion ends by wrapping, clamping or rounding to its target, or keeps the bits.
  cases op with
  | wrap =>
    refine ⟨_, _, rfl, fun a value _ applied => ?_⟩
    cases applied
    exact Integer.wrap_lt_pow 32 a
  | extend signed =>
    refine ⟨_, _, rfl, fun a value small applied => ?_⟩
    cases applied
    split
    · exact Integer.ofInt_lt 64 _
    · exact Nat.lt_trans small (by decide)
  | trunc target source signed => exact ⟨_, _, rfl, fun a value _ applied => holds_int_iff.2 (truncate_lt applied)⟩
  | truncSat target source signed =>
    refine ⟨_, _, rfl, fun a value _ applied => ?_⟩
    cases applied
    exact holds_int_iff.2 (truncateClamped_lt _ _ _ _)
  | convert target source signed =>
    refine ⟨_, _, rfl, fun a value _ applied => ?_⟩
    cases applied
    exact holds_float_iff.2 (target.format.ofInt_lt _)
  | demote =>
    refine ⟨_, _, rfl, fun a value _ applied => ?_⟩
    cases applied
    exact FloatFormat.convert_lt (.inl ⟨rfl, rfl⟩) a
  | promote =>
    refine ⟨_, _, rfl, fun a value _ applied => ?_⟩
    cases applied
    exact FloatFormat.convert_lt (.inr ⟨rfl, rfl⟩) a
  | toBits type | ofBits type =>
    cases type <;>
    · refine ⟨_, _, rfl, fun a value small applied => ?_⟩
      cases applied
      exact small

variable {args rest after : List Nat}

/-- What is left is the result, over what was not taken. -/
theorem NumericOp.exists_results {op : NumericOp} (given : HoldAll op.signature.1.reverse args)
    (applied : op.apply (args ++ rest) = .ok after) :
    ∃ results, after = results ++ rest ∧ HoldAll op.signature.2.reverse results := by
  -- The arguments are on the stack, the last on top; comparisons leave a truth value.
  cases op with
  | intUnary type op =>
    obtain ⟨a, rfl, _⟩ := HoldAll.exists_one given
    cases applied
    exact ⟨[_], rfl, .one (holds_int_iff.2 (op.apply_lt type a))⟩
  | intBinary type op =>
    obtain ⟨b, a, rfl, right, left⟩ := HoldAll.exists_two given
    simp only [List.cons_append, List.nil_append, apply] at applied
    split at applied
    · rename_i value computed
      cases applied
      exact ⟨[value], rfl, .one (holds_int_iff.2 (op.apply_lt (holds_int_iff.1 left) (holds_int_iff.1 right) computed))⟩
    · -- An operation that traps leaves nothing.
      cases applied
  | intEqz type =>
    obtain ⟨a, rfl, _⟩ := HoldAll.exists_one given
    cases applied
    exact ⟨[_], rfl, .one (holds_ofBool _)⟩
  | intCompare type op =>
    obtain ⟨b, a, rfl, _⟩ := HoldAll.exists_two given
    cases applied
    exact ⟨[_], rfl, .one (holds_ofBool _)⟩
  | floatUnary type op =>
    obtain ⟨a, rfl, fits⟩ := HoldAll.exists_one given
    cases applied
    exact ⟨[_], rfl, .one (holds_float_iff.2 (op.apply_lt (known_format type) (holds_float_iff.1 fits)))⟩
  | floatBinary type op =>
    obtain ⟨b, a, rfl, right, left⟩ := HoldAll.exists_two given
    cases applied
    exact ⟨[_], rfl, .one (holds_float_iff.2
      (op.apply_lt (known_format type) (holds_float_iff.1 left) (holds_float_iff.1 right)))⟩
  | floatCompare type op =>
    obtain ⟨b, a, rfl, _⟩ := HoldAll.exists_two given
    cases applied
    exact ⟨[_], rfl, .one (holds_ofBool _)⟩
  | convert op =>
    obtain ⟨source, target, types, converts⟩ := op.exists_types
    simp only [signature, types, List.reverse_singleton] at given ⊢
    obtain ⟨a, rfl, fits⟩ := HoldAll.exists_one given
    simp only [List.cons_append, List.nil_append, apply] at applied
    split at applied
    · rename_i value computed
      cases applied
      exact ⟨[value], rfl, .one (converts a value fits computed)⟩
    · cases applied

/-! ### Vectors -/

theorem Vector.ofLanes_lt (width : Nat) (items : List Nat) : ofLanes width items < 2 ^ (width * items.length) := by
  induction items with
  | nil => exact Nat.two_pow_pos _
  | cons lane items ih =>
    have low := Integer.wrap_lt_pow width lane
    show Integer.wrap width lane + ofLanes width items <<< width < _
    rw [Nat.shiftLeft_eq, List.length_cons, Nat.mul_succ, Nat.pow_add]
    -- The first lane is below one unit of the others.
    calc Integer.wrap width lane + ofLanes width items * 2 ^ width
        < 2 ^ width + ofLanes width items * 2 ^ width := Nat.add_lt_add_right low _
      _ = (ofLanes width items + 1) * 2 ^ width := by rw [Nat.add_one_mul, Nat.add_comm]
      _ ≤ 2 ^ (width * items.length) * 2 ^ width := Nat.mul_le_mul_right _ ih

/-- A lane is read as a scalar of its shape. -/
theorem Vector.holds_extract (shape : Shape) (signed : Bool) (lane v : Nat) :
    shape.scalar.Holds (extract shape signed lane v) := by
  have plain : Integer.wrap shape.width (v >>> (lane * shape.width)) < 2 ^ shape.width := Integer.wrap_lt_pow _ _
  have signed' (i : Int) : Integer.ofInt 32 i < 2 ^ 32 := Integer.ofInt_lt 32 i
  unfold extract
  dsimp only
  -- Narrow lanes are extended to 32 bits, with their sign or without it.
  split
  · rcases shape with (_ | _ | _ | _) | (_ | _) <;> first | exact signed' _ | exact (signed' _).trans (by decide)
  · rcases shape with (_ | _ | _ | _) | (_ | _) <;> first | exact plain | exact plain.trans (by decide)

/-- As for numbers, what is left is the result, over what was not taken. -/
theorem VectorOp.exists_results {op : VectorOp} (given : HoldAll op.signature.1.reverse args)
    (applied : op.apply (args ++ rest) = .ok after) :
    ∃ results, after = results ++ rest ∧ HoldAll op.signature.2.reverse results := by
  cases op with
  | not | intUnary | floatUnary | extend | extAddPairwise | convert | splat =>
    obtain ⟨a, rfl, _⟩ := HoldAll.exists_one given
    exact ⟨[_], (Except.ok.inj applied).symm, .one trivial⟩
  | bitwise op =>
    obtain ⟨b, a, rfl, _⟩ := HoldAll.exists_two given
    cases op <;> exact ⟨[_], (Except.ok.inj applied).symm, .one trivial⟩
  | swizzle | swizzleLow | intBinary | intCompare | narrow | extMul | dot | floatBinary | floatCompare | dotBytes | shift =>
    obtain ⟨b, a, rfl, _⟩ := HoldAll.exists_two given
    exact ⟨[_], (Except.ok.inj applied).symm, .one trivial⟩
  | bitSelect | mulAdd | laneSelect | dotBytesAdd =>
    obtain ⟨c, b, a, rfl, _⟩ := HoldAll.exists_three given
    exact ⟨[_], (Except.ok.inj applied).symm, .one trivial⟩
  | anyTrue | allTrue =>
    obtain ⟨a, rfl, _⟩ := HoldAll.exists_one given
    exact ⟨[_], (Except.ok.inj applied).symm, .one (holds_ofBool _)⟩
  | bitMask shape =>
    obtain ⟨a, rfl, _⟩ := HoldAll.exists_one given
    refine ⟨[_], (Except.ok.inj applied).symm, .one ?_⟩
    -- There are at most sixteen lanes.
    refine (Vector.ofLanes_lt 1 _).trans_le (Nat.pow_le_pow_right (by decide) ?_)
    rw [List.length_map, Vector.split, Vector.lanes, List.length_map, List.length_range]
    cases shape <;> decide

/-! ### Memory -/

theorem Memory.load_lt (m : Memory) (address count : Nat) : m.load address count < 2 ^ (8 * count) := by
  -- The lowest byte comes first, and the others count 256 times as much.
  induction count generalizing address with
  | zero => exact Nat.one_pos
  | succ count ih =>
    have low : (m.get address).toNat < 256 := UInt8.toNat_lt _
    have high := ih (address + 1)
    show (m.get address).toNat + 256 * m.load (address + 1) count < 2 ^ (8 * (count + 1))
    rw [Nat.mul_succ, Nat.pow_add]
    omega

/-- A number of a type is loaded. -/
theorem LoadOp.holds_loaded (op : LoadOp) {value : Nat} (small : value < 2 ^ (8 * op.bytes)) :
    op.type.Holds (Machine.loaded op value) := by
  have fits : value < 2 ^ op.type.width := small.trans_le (Nat.pow_le_pow_right (by decide) op.fits)
  unfold Machine.loaded
  -- With a sign the bytes are extended, and without one they stay.
  split
  · cases typed : op.type with
    | i32 | f32 => exact Integer.ofInt_lt 32 _
    | i64 => exact Integer.ofInt_lt 64 _
    | f64 => exact (Integer.ofInt_lt 32 _).trans (by decide)
    | v128 | ref => trivial
  · cases typed : op.type with
    | i32 | f32 | i64 | f64 =>
      rw [typed] at fits
      exact fits
    | v128 | ref => trivial

end WasmHost.Wasm
