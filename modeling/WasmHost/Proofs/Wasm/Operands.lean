import WasmHost.Proofs.Except
import WasmHost.Proofs.Wasm.Cells
import WasmHost.Wasm.Validation.Code

/-! What the checks of operands say about the cells on a stack. -/

namespace WasmHost.Wasm

section

variable {α β : Type} {s after : Operands}

/-- A check passes on some operands with a value, and leaves others. -/
def Check.Runs (check : Check α) (s : Operands) (value : α) (after : Operands) : Prop := check s = .ok (value, after)

namespace Scope

theorem runs_bind_iff {check : Check α} {next : α → Check β} {value : β} : (check >>= next).Runs s value after ↔
    ∃ first middle, check.Runs s first middle ∧ (next first).Runs middle value after := by
  show (check s >>= fun ran => next ran.1 ran.2) = .ok (value, after) ↔ _
  rw [bind_eq_ok_iff, Prod.exists]
  rfl

theorem runs_pure_iff {value result : α} : Check.Runs (pure value) s result after ↔ result = value ∧ after = s := by
  show Except.ok (value, s) = .ok (result, after) ↔ _
  simp [eq_comm]

theorem not_runs_fail {why : Invalid} {value : α} : ¬ Check.Runs (fail why) s value after := nofun

theorem runs_lift_iff {outcome : Except Invalid α} {value : α} :
    Check.Runs (liftM outcome) s value after ↔ outcome = .ok value ∧ after = s := by
  show (outcome >>= fun found => .ok (found, s)) = .ok (value, after) ↔ _
  rw [bind_eq_ok_iff]
  constructor
  · rintro ⟨found, rfl, same⟩
    cases same
    exact ⟨rfl, rfl⟩
  · rintro ⟨rfl, rfl⟩
    exact ⟨value, rfl, rfl⟩

theorem runs_get_iff {value : Operands} : Check.Runs get s value after ↔ value = s ∧ after = s := by
  show Except.ok (s, s) = .ok (value, after) ↔ _
  simp [eq_comm]

theorem runs_set_iff {left : Operands} {done : Unit} : Check.Runs (set left) s done after ↔ after = left := by
  show Except.ok ((), left) = .ok ((), after) ↔ _
  simp [eq_comm]

theorem runs_modify_iff {change : Operands → Operands} : Check.Runs (modify change) s () after ↔ after = change s := by
  show Except.ok ((), change s) = .ok ((), after) ↔ _
  simp [eq_comm]

theorem runs_find_iff {what : String} {index : Nat} {found : Option α} {value : α} :
    (find what index found).Runs s value after ↔ found = some value ∧ after = s := by
  cases found with
  | none => simp [find, not_runs_fail]
  | some there =>
    rw [find, runs_pure_iff]
    simp [eq_comm]

theorem runs_find_bind_iff {what : String} {index : Nat} {found : Option α} {next : α → Check β} {value : β} :
    (find what index found >>= next).Runs s value after ↔ ∃ there, found = some there ∧ (next there).Runs s value after := by
  simp only [runs_bind_iff, runs_find_iff]
  exact ⟨fun ⟨there, _, ⟨known, same⟩, ran⟩ => ⟨there, known, same ▸ ran⟩,
    fun ⟨there, known, ran⟩ => ⟨there, s, ⟨known, rfl⟩, ran⟩⟩

theorem runs_ensure_iff {holds : Bool} {done : Unit} : (ensure holds).Runs s done after ↔ holds ∧ after = s := by
  cases holds <;> simp [ensure, not_runs_fail, runs_pure_iff]

theorem runs_ensure_bind_iff {holds : Bool} {next : Unit → Check β} {value : β} :
    (ensure holds >>= next).Runs s value after ↔ holds ∧ (next ()).Runs s value after := by
  simp only [runs_bind_iff, runs_ensure_iff]
  exact ⟨fun ⟨_, _, ⟨passed, same⟩, ran⟩ => ⟨passed, same ▸ ran⟩, fun ⟨passed, ran⟩ => ⟨(), s, ⟨passed, rfl⟩, ran⟩⟩

/-- What follows a check that leaves the operands alone runs on them. -/
theorem runs_of_still {check : Check Unit} {next : Unit → Check β} {value : β}
    (still : ∀ {middle}, check.Runs s () middle → middle = s) (ran : (check >>= next).Runs s value after) :
    (next ()).Runs s value after := by
  obtain ⟨_, middle, checked, rest⟩ := runs_bind_iff.1 ran
  exact still checked ▸ rest

/-- What follows runs unless there is a reason to give up. -/
theorem runs_unless_iff {reason : Prop} [Decidable reason] {why : Invalid} {next : Check α} {value : α} :
    (if reason then fail why >>= fun _ : Unit => next else next).Runs s value after ↔ ¬ reason ∧ next.Runs s value after := by
  split
  · -- With a reason to give up nothing runs.
    rename_i given
    refine iff_of_false (fun ran => ?_) fun both => both.1 given
    obtain ⟨_, _, failed, _⟩ := runs_bind_iff.1 ran
    exact not_runs_fail failed
  · rename_i none
    exact ⟨fun ran => ⟨none, ran⟩, fun both => both.2⟩

theorem runs_discard_iff {check : Check α} : Check.Runs (discard check) s () after ↔ ∃ value, check.Runs s value after := by
  show (check s >>= fun ran => .ok ((), ran.2)) = .ok ((), after) ↔ _
  rw [bind_eq_ok_iff, Prod.exists]
  constructor
  · rintro ⟨value, left, ran, same⟩
    cases same
    exact ⟨value, ran⟩
  · rintro ⟨value, ran⟩
    exact ⟨value, after, ran, rfl⟩

theorem eq_of_runs_lift {outcome : Except Invalid Unit} (ran : Check.Runs (liftM outcome) s () after) : after = s :=
  (runs_lift_iff.1 ran).2

/-- What is required of the features leaves the operands alone. -/
theorem eq_of_runs_require {accepted : Bool} {what : String} (ran : (require accepted what).Runs s () after) : after = s :=
  (runs_lift_iff.1 ran).2

theorem runs_forM_cons_iff {item : α} {items : List α} {check : α → Check Unit} :
    ((item :: items).forM check).Runs s () after ↔
      ∃ middle, (check item).Runs s () middle ∧ (items.forM check).Runs middle () after := by
  show (check item >>= fun _ => items.forM check).Runs s () after ↔ _
  rw [runs_bind_iff]
  exact ⟨fun ⟨_, middle, ran⟩ => ⟨middle, ran⟩, fun ⟨middle, ran⟩ => ⟨(), middle, ran⟩⟩

theorem runs_forM_append_iff {items others : List α} {check : α → Check Unit} :
    ((items ++ others).forM check).Runs s () after ↔
      ∃ middle, (items.forM check).Runs s () middle ∧ (others.forM check).Runs middle () after := by
  induction items generalizing s with
  | nil =>
    refine ⟨fun ran => ⟨s, runs_pure_iff.2 ⟨rfl, rfl⟩, ran⟩, ?_⟩
    rintro ⟨middle, ran, rest⟩
    obtain ⟨_, rfl⟩ := runs_pure_iff.1 ran
    exact rest
  | cons item items ih =>
    rw [List.cons_append, runs_forM_cons_iff]
    simp only [ih, runs_forM_cons_iff]
    exact ⟨fun ⟨a, first, b, second, rest⟩ => ⟨b, ⟨a, first, second⟩, rest⟩,
      fun ⟨b, ⟨a, first, second⟩, rest⟩ => ⟨a, first, b, second, rest⟩⟩

end Scope

end

/-! ### Types and cells -/

/-- A renaming of defined types changes nothing in what cells hold. -/
theorem holds_mapVal_iff {rename : Nat → Nat} {type : ValType} {cell : Nat} :
    (TypeTable.mapVal rename type).Holds cell ↔ type.Holds cell := by
  cases type <;> rfl

/-- Cells of a type are cells of the types above it. -/
theorem ValType.Holds.above {t : TypeTable} {a b : ValType} {cell : Nat} (held : a.Holds cell) (below : t.below a b) :
    b.Holds cell := by
  cases b with
  | v128 | ref => trivial
  | i32 | i64 | f32 | f64 =>
    cases a <;> first | exact held | simp [TypeTable.below] at below

theorem holdAll_normal_iff {t : TypeTable} {types : List ValType} {cells : List Nat} :
    HoldAll (types.map t.normal) cells ↔ HoldAll types cells := by
  rw [HoldAll, List.forall₂_map_left_iff]
  exact ⟨fun held => held.imp fun _ _ => holds_mapVal_iff.1, fun held => held.imp fun _ _ => holds_mapVal_iff.2⟩

/-- And so it is for cells of many types. -/
theorem HoldAll.above {t : TypeTable} {as bs : List ValType} {cells : List Nat} (held : HoldAll as cells)
    (below : t.allBelow as bs) : HoldAll bs cells := by
  obtain ⟨length, each⟩ : as.length = bs.length ∧ ∀ pair ∈ as.zip bs, t.below pair.1 pair.2 := by
    simpa [TypeTable.allBelow] using below
  -- The types are compared in pairs, along the cells.
  induction held generalizing bs with
  | nil =>
    cases List.length_eq_zero_iff.1 length.symm
    exact .nil
  | @cons a cell as cells here _ ih =>
    obtain ⟨b, bs, rfl⟩ := List.exists_cons_of_length_eq_add_one length.symm
    rw [List.zip_cons_cons, List.forall_mem_cons] at each
    have length' := Nat.succ.inj length
    have below' : t.allBelow as bs := by simpa [TypeTable.allBelow, length'] using each.2
    exact .cons (here.above each.1) (ih below' length' each.2)

/-- Operands are numbers of their types, and those of unknown types do not exist. -/
def Operand.Holds (operand : Operand) (cell : Nat) : Prop :=
  match operand with
  | .known type => type.Holds cell
  | .noRef | .unknown => False

/-- Operands describe a stack, at a point that can be reached. -/
structure Operands.Describe (s : Operands) (stack : List Nat) : Prop where
  reached : s.unreachable = false
  held : List.Forall₂ Operand.Holds s.stack stack

namespace Scope

variable {c : Scope} {s after : Operands} {stack : List Nat} {type : ValType} {types : List ValType}

/-- An operand that is taken is the top cell. -/
theorem exists_cell_of_popAny {operand : Operand} (ran : popAny.Runs s operand after) (known : s.Describe stack) :
    ∃ cell rest, stack = cell :: rest ∧ operand.Holds cell ∧ after.Describe rest := by
  obtain ⟨found, middle, got, rest⟩ := runs_bind_iff.1 ran
  obtain ⟨looked, same⟩ := runs_get_iff.1 got
  rw [looked, same] at rest
  obtain ⟨operands, unreachable, initialized⟩ := s
  obtain ⟨rfl, held⟩ := known
  dsimp only at rest held
  -- A machine that runs is not behind an unreachable point, so an operand is there.
  cases held with
  | nil => exact absurd rest not_runs_fail
  | cons here below =>
    obtain ⟨_, _, done, returned⟩ := runs_bind_iff.1 rest
    cases runs_set_iff.1 done
    obtain ⟨rfl, rfl⟩ := runs_pure_iff.1 returned
    exact ⟨_, _, rfl, here, ⟨rfl, below⟩⟩

theorem exists_cell_of_pop {operand : Operand} (ran : (c.pop type).Runs s operand after) (known : s.Describe stack) :
    ∃ cell rest, stack = cell :: rest ∧ operand.Holds cell ∧ type.Holds cell ∧ after.Describe rest := by
  obtain ⟨taken, _, popped, rest⟩ := runs_bind_iff.1 ran
  obtain ⟨cell, below, rfl, held, described⟩ := exists_cell_of_popAny popped known
  -- Only a known type is held by a cell, and it is below the one that is popped.
  cases taken with
  | noRef | unknown => exact held.elim
  | known actual =>
    obtain ⟨_, _, ensured, returned⟩ := runs_bind_iff.1 rest
    obtain ⟨passed, rfl⟩ := runs_ensure_iff.1 ensured
    obtain ⟨rfl, rfl⟩ := runs_pure_iff.1 returned
    exact ⟨cell, below, rfl, held, holds_mapVal_iff.1 (ValType.Holds.above held passed), described⟩

theorem exists_cell_of_take (ran : (c.take type).Runs s () after) (known : s.Describe stack) :
    ∃ cell rest, stack = cell :: rest ∧ type.Holds cell ∧ after.Describe rest := by
  obtain ⟨_, popped⟩ := runs_discard_iff.1 ran
  obtain ⟨cell, rest, rfl, _, held, described⟩ := exists_cell_of_pop popped known
  exact ⟨cell, rest, rfl, held, described⟩

theorem exists_cells_of_takes (ran : (types.forM c.take).Runs s () after) (known : s.Describe stack) :
    ∃ cells rest, stack = cells ++ rest ∧ HoldAll types cells ∧ after.Describe rest := by
  -- The types are taken one by one, and each takes the top cell.
  induction types generalizing s stack with
  | nil =>
    obtain ⟨_, rfl⟩ := runs_pure_iff.1 ran
    exact ⟨[], stack, rfl, .nil, known⟩
  | cons type types ih =>
    obtain ⟨middle, taken, others⟩ := runs_forM_cons_iff.1 ran
    obtain ⟨cell, below, rfl, held, described⟩ := exists_cell_of_take taken known
    obtain ⟨cells, rest, rfl, holds, described⟩ := ih others described
    exact ⟨cell :: cells, rest, rfl, .cons held holds, described⟩

/-- Operands of types that are taken are cells that hold them, the last one on top. -/
theorem exists_cells_of_popAll (ran : (c.popAll types).Runs s () after) (known : s.Describe stack) :
    ∃ cells rest, stack = cells ++ rest ∧ HoldAll types.reverse cells ∧ after.Describe rest :=
  exists_cells_of_takes ran known

theorem describe_of_pushOperand {operand : Operand} {cell : Nat} (ran : (pushOperand operand).Runs s () after)
    (known : s.Describe stack) (held : operand.Holds cell) : after.Describe (cell :: stack) := by
  cases runs_modify_iff.1 ran
  exact ⟨known.reached, .cons held known.held⟩

theorem describe_of_push {cell : Nat} (ran : (c.push type).Runs s () after) (known : s.Describe stack)
    (held : type.Holds cell) : after.Describe (cell :: stack) :=
  describe_of_pushOperand ran known (holds_mapVal_iff.2 held)

/-- Whatever is left, one by one, is described by cells that hold it, the last one on top. -/
theorem describe_of_forM {α : Type} {leave : α → Check Unit} {holds : α → Nat → Prop}
    (step : ∀ {s after stack item cell}, (leave item).Runs s () after → s.Describe stack → holds item cell →
      after.Describe (cell :: stack))
    {items : List α} {cells : List Nat} (ran : (items.forM leave).Runs s () after) (known : s.Describe stack)
    (held : List.Forall₂ holds items cells) : after.Describe (cells.reverse ++ stack) := by
  -- Each item comes on top of those before it, so the cells end up in reverse.
  induction held generalizing s stack with
  | nil =>
    obtain ⟨_, rfl⟩ := runs_pure_iff.1 ran
    exact known
  | cons here _ ih =>
    obtain ⟨middle, left, others⟩ := runs_forM_cons_iff.1 ran
    simpa using ih others (step left known here)

theorem describe_of_pushAll {cells : List Nat} (ran : (c.pushAll types).Runs s () after) (known : s.Describe stack)
    (held : HoldAll types.reverse cells) : after.Describe (cells ++ stack) := by
  simpa using describe_of_forM describe_of_push ran known (HoldAll.reverse_iff.1 held)

/-- An instruction takes what it needs and leaves what it gives. -/
theorem exists_cells_of_apply {params results : List ValType} (ran : (c.apply params results).Runs s () after)
    (known : s.Describe stack) : ∃ args rest, stack = args ++ rest ∧ HoldAll params.reverse args ∧
      ∀ given, HoldAll results.reverse given → after.Describe (given ++ rest) := by
  obtain ⟨_, middle, popped, pushed⟩ := runs_bind_iff.1 ran
  obtain ⟨args, rest, rfl, held, described⟩ := exists_cells_of_popAll popped known
  exact ⟨args, rest, rfl, held, fun given holds => describe_of_pushAll pushed described holds⟩

theorem exists_cells_of_pops {operands : List Operand} (ran : Check.Runs (types.mapM c.pop) s operands after)
    (known : s.Describe stack) : ∃ cells rest, stack = cells ++ rest ∧ HoldAll types cells ∧
      List.Forall₂ Operand.Holds operands cells ∧ after.Describe rest := by
  -- The types are popped one by one, and each takes the top cell.
  induction types generalizing s stack operands with
  | nil =>
    obtain ⟨rfl, rfl⟩ := runs_pure_iff.1 ran
    exact ⟨[], stack, rfl, .nil, .nil, known⟩
  | cons type types ih =>
    rw [List.mapM_cons] at ran
    obtain ⟨operand, middle, popped, ran⟩ := runs_bind_iff.1 ran
    obtain ⟨others, _, rest, returned⟩ := runs_bind_iff.1 ran
    obtain ⟨rfl, rfl⟩ := runs_pure_iff.1 returned
    obtain ⟨cell, below, rfl, held, holds, described⟩ := exists_cell_of_pop popped known
    obtain ⟨cells, rest, rfl, holdAll, heldAll, described⟩ := ih rest described
    exact ⟨cell :: cells, rest, rfl, .cons holds holdAll, .cons held heldAll, described⟩

/-- Operands that are looked at stay as they are. -/
theorem describe_of_matchAll (ran : (c.matchAll types).Runs s () after) (known : s.Describe stack) :
    after.Describe stack ∧ ∃ cells rest, stack = cells ++ rest ∧ HoldAll types.reverse cells := by
  obtain ⟨operands, middle, popped, pushed⟩ := runs_bind_iff.1 ran
  obtain ⟨cells, rest, rfl, holds, held, described⟩ := exists_cells_of_pops popped known
  refine ⟨?_, cells, rest, rfl, holds⟩
  simpa using describe_of_forM describe_of_pushOperand pushed described (List.forall₂_reverse_iff.2 held)

/-! ### Blocks -/

/-- The operands once values of types are left. -/
def pushed (c : Scope) (types : List ValType) (s : Operands) : Operands :=
  { s with stack := (types.map fun type => .known (c.types.normal type)).reverse ++ s.stack }

theorem runs_pushAll_iff {done : Unit} : (c.pushAll types).Runs s done after ↔ after = c.pushed types s := by
  -- The induction is on the types, the last of which comes on top.
  induction types generalizing s with
  | nil => exact runs_pure_iff.trans (by simp [pushed])
  | cons type types ih =>
    refine runs_forM_cons_iff.trans ?_
    constructor
    · rintro ⟨middle, first, others⟩
      cases runs_modify_iff.1 first
      rw [ih.1 others]
      simp [pushed]
    · rintro rfl
      refine ⟨_, runs_modify_iff.2 rfl, ih.2 ?_⟩
      simp [pushed]

/-- Every type is below itself. -/
theorem below_refl (t : TypeTable) (type : ValType) : t.below type type := by
  cases type with
  | i32 | i64 | f32 | f64 | v128 => rfl
  | ref r =>
    obtain ⟨nullable, heap⟩ := r
    cases heap with
    | abstract heap => simp [TypeTable.below, TypeTable.refBelow, TypeTable.heapBelow, TypeTable.abstractBelow]
    | defined index => simp [TypeTable.below, TypeTable.refBelow, TypeTable.heapBelow, TypeTable.extends_]

theorem runs_take_pushed : (c.take type).Runs (c.pushed [type] s) () s := by
  have top : popAny.Runs (c.pushed [type] s) (.known (c.types.normal type)) s := rfl
  have popped : (c.pop type).Runs (c.pushed [type] s) (.known (c.types.normal type)) s :=
    runs_bind_iff.2 ⟨_, s, top, runs_bind_iff.2 ⟨(), s, runs_ensure_iff.2 ⟨below_refl _ _, rfl⟩, runs_pure_iff.2 ⟨rfl, rfl⟩⟩⟩
  exact runs_discard_iff.2 ⟨_, popped⟩

/-- What was left can be taken again. -/
theorem runs_popAll_pushed : (c.popAll types).Runs (c.pushed types s) () s := by
  unfold popAll
  induction types generalizing s with
  | nil => exact runs_pure_iff.2 ⟨rfl, by simp [pushed]⟩
  | cons type types ih =>
    rw [List.reverse_cons, runs_forM_append_iff]
    have both : c.pushed (type :: types) s = c.pushed types (c.pushed [type] s) := by simp [pushed]
    exact ⟨_, both ▸ ih, runs_forM_cons_iff.2 ⟨s, runs_take_pushed, runs_pure_iff.2 ⟨rfl, rfl⟩⟩⟩

/-- Code passes on some operands, and ends with exactly the results. -/
def Accepts (c : Scope) (code : List Instr) (s : Operands) (results : List ValType) : Prop :=
  ∃ middle last, (c.instrs code).Runs s () middle ∧ (c.popAll results).Runs middle () last ∧ last.stack = []

variable {results : List ValType} {code : List Instr}

theorem accepts_cons_iff {i : Instr} : c.Accepts (i :: code) s results ↔
    ∃ middle, (c.instr i).Runs s () middle ∧ c.Accepts code middle results := by
  unfold Accepts
  rw [instrs]
  -- The results are asked for at the end of the code, so the first instruction can be split off.
  simp only [runs_bind_iff]
  constructor
  · rintro ⟨left, last, ⟨_, middle, first, others⟩, popped, empty⟩
    exact ⟨middle, first, left, last, others, popped, empty⟩
  · rintro ⟨middle, first, left, last, others, popped, empty⟩
    exact ⟨left, last, ⟨(), middle, first, others⟩, popped, empty⟩

/-- At the end of code there are its results. -/
theorem Accepts.holdAll (accepted : c.Accepts [] s results) (known : s.Describe stack) : HoldAll results.reverse stack := by
  obtain ⟨middle, last, ran, popped, empty⟩ := accepted
  obtain ⟨_, rfl⟩ := runs_pure_iff.1 (by rwa [instrs] at ran)
  obtain ⟨cells, rest, rfl, held, described⟩ := exists_cells_of_popAll popped known
  have none : rest = [] := by simpa [empty] using described.held
  simpa [none] using held

/-- A block is code on a stack of its own, which leaves the operands around it alone. -/
theorem runs_enclosed_iff {labels : List (List ValType)} {type : FuncType} :
    (c.enclosed type (({ c with labels } : Scope).instrs code)).Runs s () after ↔
      after = s ∧ ({ c with labels } : Scope).Accepts code (c.pushed type.params ⟨[], false, s.initialized⟩) type.results := by
  unfold enclosed
  -- The outer operands are put aside, the code is checked, and the outer ones are put back.
  simp only [runs_bind_iff, runs_get_iff, runs_set_iff, runs_pushAll_iff, runs_ensure_iff]
  constructor
  · rintro ⟨outer, _, ⟨rfl, rfl⟩, _, _, rfl, _, _, rfl, _, middle, ran, _, last, popped, _, _, ⟨rfl, rfl⟩, _, _, ⟨empty, rfl⟩, rfl⟩
    exact ⟨rfl, middle, _, ran, popped, List.isEmpty_iff.1 empty⟩
  · rintro ⟨rfl, middle, last, ran, popped, empty⟩
    exact ⟨_, _, ⟨rfl, rfl⟩, (), _, rfl, (), _, rfl, (), middle, ran, (), last, popped, _, _, ⟨rfl, rfl⟩, (), _,
      ⟨List.isEmpty_iff.2 empty, rfl⟩, rfl⟩

end Scope

end WasmHost.Wasm
