import WasmHost.Proofs.Wasm.Control

/-! Every step of a machine keeps to the types of its code, and so does every run. -/

namespace WasmHost.Wasm

variable {ε : Type} {env c : Scope} {wanted results : List ValType} {labels : List (List ValType)} {s after : Operands}
  {stack : List Nat}

namespace Scope

/-- A reference that is taken is the top cell. -/
theorem exists_cell_of_popRef {found : Option RefType} (ran : popRef.Runs s found after) (known : s.Describe stack) :
    ∃ cell rest, stack = cell :: rest ∧ after.Describe rest := by
  obtain ⟨operand, _, popped, rest⟩ := runs_bind_iff.1 ran
  obtain ⟨cell, below, rfl, held, described⟩ := exists_cell_of_popAny popped known
  refine ⟨cell, below, rfl, ?_⟩
  -- Whatever kind of reference it is said to be, it was the top cell; a number is refused.
  split at rest
  · obtain ⟨_, rfl⟩ := runs_pure_iff.1 rest
    exact described
  · exact absurd rest not_runs_fail
  · exact held.elim
  · exact held.elim

/-- Either of two values can be left in place of both. -/
theorem exists_cells_of_select {types : Option (List ValType)} (ran : (c.plain (.select types)).Runs s () after)
    (known : s.Describe stack) : ∃ condition b a rest, stack = condition :: b :: a :: rest ∧ after.Describe (b :: rest) ∧
      after.Describe (a :: rest) := by
  -- Without a type the operands themselves tell it, and with one the instruction is an operation like others.
  match types with
  | none =>
    obtain ⟨_, _, taken, first⟩ := runs_bind_iff.1 ran
    obtain ⟨condition, _, rfl, _, described⟩ := exists_cell_of_take taken known
    obtain ⟨upper, _, popped, second⟩ := runs_bind_iff.1 first
    obtain ⟨b, _, rfl, heldB, described⟩ := exists_cell_of_popAny popped described
    obtain ⟨lower, _, popped', chosen⟩ := runs_bind_iff.1 second
    obtain ⟨a, rest, rfl, heldA, described⟩ := exists_cell_of_popAny popped' described
    refine ⟨condition, b, a, rest, rfl, ?_⟩
    split at chosen
    · exact absurd chosen not_runs_fail
    · exact absurd chosen not_runs_fail
    · exact absurd chosen not_runs_fail
    · exact absurd chosen not_runs_fail
    · -- An operand of unknown type is none that a running machine holds.
      exact heldB.elim
    · exact heldA.elim
    · -- Both are numbers of one type.
      obtain ⟨same, pushed⟩ := runs_ensure_bind_iff.1 chosen
      cases of_decide_eq_true same
      exact ⟨describe_of_push pushed described heldB, describe_of_push pushed described heldA⟩
  | some [type] =>
    have applied := runs_of_still eq_of_runs_lift ran
    obtain ⟨args, rest, rfl, held, gives⟩ := exists_cells_of_apply applied known
    obtain ⟨condition, b, a, rfl, _, heldB, heldA⟩ := HoldAll.exists_three held
    exact ⟨condition, b, a, rest, rfl, gives [b] (.one heldB), gives [a] (.one heldA)⟩
  -- The instruction names exactly one type.
  | some [] | some (_ :: _ :: _) => exact absurd ran not_runs_fail

/-- What is known of locals says nothing of the operands. -/
theorem describe_of_initialize {index : Nat} (ran : (plain.initialize_ index).Runs s () after) (known : s.Describe stack) :
    after.Describe stack := by
  cases runs_modify_iff.1 ran
  exact ⟨known.reached, known.held⟩

end Scope

namespace Machine

variable {m : Machine ε} {p : Program ε} {budget : Option Nat}

/-- What is read has as many bytes as are asked for. -/
theorem read_lt {arg : MemArg} {address count value : Nat} (loaded : m.read arg address count = .ok value) :
    value < 2 ^ (8 * count) := by
  unfold read at loaded
  dsimp only at loaded
  -- Without a memory, or outside it, nothing is read.
  split at loaded
  · split at loaded
    · cases loaded
      exact Memory.load_lt _ _ _
    · cases loaded
  · cases loaded

namespace Leads

variable (leads : m.Leads env wanted c labels results after)
include leads

theorem holds_local {index : Nat} {type : ValType} (there : c.locals[index]? = some type) :
    type.Holds (m.locals.getD index 0) := by
  rw [← Array.getElem?_toList] at there
  obtain ⟨cell, found, held⟩ := exists_getElem?_of_forall₂ leads.locals there
  rw [Array.getElem?_toList] at found
  rwa [Array.getD_eq_getD_getElem?, found]

theorem withLocal {index value : Nat} {type : ValType} {stack : List Nat} (there : c.locals[index]? = some type)
    (fits : type.Holds value) (known : after.Describe stack) :
    Machine.Typed env wanted { m with stack, locals := m.locals.setIfInBounds index value } := by
  rw [← Array.getElem?_toList] at there
  -- One local changes, and to a value of its type.
  have locals : HoldAll c.locals.toList (m.locals.setIfInBounds index value).toList := by
    rw [Array.toList_setIfInBounds]
    exact leads.locals.set there fits
  exact Leads.next (m := { m with stack, locals := m.locals.setIfInBounds index value })
    ⟨leads.inside, locals, leads.arity, leads.opened, leads.accepted, leads.callers, leads.store⟩ known

/-- A global of the module holds its type. -/
theorem holds_global {index : Nat} {type : GlobalType} (there : c.globals[index]? = some type) :
    type.type.Holds (m.store.globals.getD index 0) := by
  rw [leads.inside.globals, ← Array.getElem?_toList] at there
  have typed : (env.globals.toList.map (·.type))[index]? = some type.type := by rw [List.getElem?_map, there]; rfl
  obtain ⟨cell, found, held⟩ := exists_getElem?_of_forall₂ leads.store.globals typed
  rw [Array.getElem?_toList] at found
  rwa [Array.getD_eq_getD_getElem?, found]

theorem withGlobal {index value : Nat} {type : GlobalType} {stack : List Nat} (there : c.globals[index]? = some type)
    (fits : type.type.Holds value) (known : after.Describe stack) :
    Machine.Typed env wanted
      { m with stack, store := { m.store with globals := m.store.globals.setIfInBounds index value } } := by
  rw [leads.inside.globals, ← Array.getElem?_toList] at there
  -- The scope of the code and the one of the module know the same globals.
  have typed : (env.globals.toList.map (·.type))[index]? = some type.type := by rw [List.getElem?_map, there]; rfl
  have globals := leads.store.globals.set typed fits
  rw [← Array.toList_setIfInBounds] at globals
  exact leads.withStore ⟨globals, leads.store.memories, leads.store.tables⟩ known

/-- Numbers are written to memories, which stay as long as they were. -/
theorem exists_of_write {arg : MemArg} {address count value : Nat} {m' : Machine ε}
    (written : m.write arg address count value = .ok m') : ∃ store, m' = { m with store } ∧ store.Typed env := by
  unfold write at written
  dsimp only at written
  split at written
  · cases written
    exact ⟨_, rfl, leads.store.modifyMemory fun memory _ bounded => bounded.store _⟩
  · cases written

theorem withTable {index : Nat} {change : Table → Table} {rest : List Nat} (described : after.Describe rest)
    (keeps : ∀ table, m.store.tables[index]? = some table → table.Bounded → (change table).Bounded) :
    Machine.Typed env wanted { m.modifyTable index change with stack := rest } :=
  leads.withStore (leads.store.modifyTable keeps) described

theorem withMemory {index : Nat} {change : Memory → Memory} {rest : List Nat} (described : after.Describe rest)
    (keeps : ∀ memory, m.store.memories[index]? = some memory → memory.Bounded → (change memory).Bounded) :
    Machine.Typed env wanted { m.modifyMemory index change with stack := rest } :=
  leads.withStore (leads.store.modifyMemory keeps) described

end Leads

section

variable (leads : m.Leads env wanted c labels results after) (known : s.Describe m.stack)
include leads known

/-! ### Operands and variables -/

theorem drop_typed (ran : (Scope.plain { c with labels } .drop).Runs s () after) :
    (exec p budget m .drop).Typed env wanted := by
  obtain ⟨operand, popped⟩ := Scope.runs_discard_iff.1 ran
  obtain ⟨cell, rest, stack, _, described⟩ := Scope.exists_cell_of_popAny popped known
  unfold exec
  simp only [stack]
  exact leads.withStack described

theorem select_typed {types : Option (List ValType)}
    (ran : (Scope.plain { c with labels } (.select types)).Runs s () after) :
    (exec p budget m (.select types)).Typed env wanted := by
  obtain ⟨condition, b, a, rest, stack, second, first⟩ := Scope.exists_cells_of_select ran known
  unfold exec
  simp only [stack]
  -- Either value fits in place of both.
  split
  · exact leads.withStack second
  · exact leads.withStack first

theorem localGet_typed {index : Nat} (ran : (Scope.plain { c with labels } (.localGet index)).Runs s () after) :
    (exec p budget m (.localGet index)).Typed env wanted := by
  obtain ⟨type, there, looks⟩ := Scope.runs_find_bind_iff.1 ran
  obtain ⟨_, _, looked, checks⟩ := Scope.runs_bind_iff.1 looks
  obtain ⟨_, rfl⟩ := Scope.runs_get_iff.1 looked
  obtain ⟨_, pushed⟩ := Scope.runs_unless_iff.1 checks
  exact leads.withStack (Scope.describe_of_push pushed known (leads.holds_local there))

theorem localSet_typed {index : Nat} (ran : (Scope.plain { c with labels } (.localSet index)).Runs s () after) :
    (exec p budget m (.localSet index)).Typed env wanted := by
  obtain ⟨type, there, takes⟩ := Scope.runs_find_bind_iff.1 ran
  obtain ⟨_, _, taken, marked⟩ := Scope.runs_bind_iff.1 takes
  obtain ⟨value, rest, stack, fits, described⟩ := Scope.exists_cell_of_take taken known
  unfold exec
  simp only [stack]
  exact leads.withLocal there fits (Scope.describe_of_initialize marked described)

theorem localTee_typed {index : Nat} (ran : (Scope.plain { c with labels } (.localTee index)).Runs s () after) :
    (exec p budget m (.localTee index)).Typed env wanted := by
  obtain ⟨type, there, takes⟩ := Scope.runs_find_bind_iff.1 ran
  obtain ⟨_, _, taken, marks⟩ := Scope.runs_bind_iff.1 takes
  obtain ⟨value, rest, stack, fits, described⟩ := Scope.exists_cell_of_take taken known
  -- The value is taken and pushed again, and in between the local counts as initialized.
  obtain ⟨_, _, marked, pushed⟩ := Scope.runs_bind_iff.1 marks
  unfold exec
  simp only [stack]
  exact leads.withLocal there fits
    (Scope.describe_of_push pushed (Scope.describe_of_initialize marked described) fits)

theorem globalGet_typed {index : Nat} (ran : (Scope.plain { c with labels } (.globalGet index)).Runs s () after) :
    (exec p budget m (.globalGet index)).Typed env wanted := by
  obtain ⟨type, there, pushes⟩ := Scope.runs_find_bind_iff.1 ran
  dsimp only at pushes
  rw [if_neg (by simp [leads.inside.running])] at pushes
  exact leads.withStack (Scope.describe_of_push pushes known (leads.holds_global there))

theorem globalSet_typed {index : Nat} (ran : (Scope.plain { c with labels } (.globalSet index)).Runs s () after) :
    (exec p budget m (.globalSet index)).Typed env wanted := by
  obtain ⟨type, there, checks⟩ := Scope.runs_find_bind_iff.1 ran
  obtain ⟨_, taken⟩ := Scope.runs_unless_iff.1 checks
  obtain ⟨value, rest, stack, fits, described⟩ := Scope.exists_cell_of_take taken known
  unfold exec
  simp only [stack]
  exact leads.withGlobal there fits described

/-! ### Numbers -/

theorem const_typed {value : Constant} (ran : (Scope.plain { c with labels } (.const value)).Runs s () after) :
    (exec p budget m (.const value)).Typed env wanted := by
  have pushed := Scope.runs_of_still Scope.eq_of_runs_lift ran
  exact leads.withStack (Scope.describe_of_push pushed known value.holds_bits)

theorem numeric_typed {op : NumericOp} (ran : (Scope.plain { c with labels } (.numeric op)).Runs s () after) :
    (exec p budget m (.numeric op)).Typed env wanted := by
  obtain ⟨args, rest, stack, held, gives⟩ := Scope.exists_cells_of_apply ran known
  refine leads.compute fun left computed => ?_
  rw [stack] at computed
  obtain ⟨given, rfl, holds⟩ := NumericOp.exists_results held computed
  exact gives given holds

theorem load_typed {op : LoadOp} {arg : MemArg} (ran : (Scope.plain { c with labels } (.load op arg)).Runs s () after) :
    (exec p budget m (.load op arg)).Typed env wanted := by
  have applied := Scope.runs_of_still Scope.eq_of_runs_access ran
  obtain ⟨args, rest, stack, held, gives⟩ := Scope.exists_cells_of_apply applied known
  obtain ⟨address, rfl, _⟩ := HoldAll.exists_one held
  unfold exec
  simp only [stack, List.cons_append]
  -- Outside the memory it traps, and what is read has as many bytes as the instruction loads.
  refine leads.compute fun left computed => ?_
  obtain ⟨value, loaded, rfl⟩ := map_eq_ok computed
  exact gives [_] (.one (op.holds_loaded (read_lt loaded)))

theorem store_typed {op : StoreOp} {arg : MemArg} (ran : (Scope.plain { c with labels } (.store op arg)).Runs s () after) :
    (exec p budget m (.store op arg)).Typed env wanted := by
  have popped := Scope.runs_of_still Scope.eq_of_runs_access ran
  obtain ⟨args, rest, stack, held, described⟩ := Scope.exists_cells_of_popAll popped known
  obtain ⟨value, address, rfl, _⟩ := HoldAll.exists_two held
  unfold exec
  simp only [stack, List.cons_append, List.nil_append]
  split
  · -- Only bytes of a memory change.
    rename_i written
    obtain ⟨store, rfl, typed⟩ := (leads.onStack rest).exists_of_write written
    exact leads.withStore typed described
  · trivial

/-! ### References -/

theorem refNull_typed {heap : HeapType} (ran : (Scope.plain { c with labels } (.refNull heap)).Runs s () after) :
    (exec p budget m (.refNull heap)).Typed env wanted := by
  have pushed := Scope.runs_of_still Scope.eq_of_runs_lift ran
  exact leads.withStack (Scope.describe_of_push pushed known trivial)

theorem refFunc_typed {index : Nat} (ran : (Scope.plain { c with labels } (.refFunc index)).Runs s () after) :
    (exec p budget m (.refFunc index)).Typed env wanted := by
  obtain ⟨_, _, checks⟩ := Scope.runs_find_bind_iff.1 ran
  obtain ⟨_, pushed⟩ := Scope.runs_unless_iff.1 checks
  exact leads.withStack (Scope.describe_of_push pushed known trivial)

theorem refIsNull_typed (ran : (Scope.plain { c with labels } .refIsNull).Runs s () after) :
    (exec p budget m .refIsNull).Typed env wanted := by
  obtain ⟨_, _, popped, pushed⟩ := Scope.runs_bind_iff.1 ran
  obtain ⟨item, rest, stack, described⟩ := Scope.exists_cell_of_popRef popped known
  unfold exec
  simp only [stack]
  exact leads.withStack (Scope.describe_of_push pushed described (holds_ofBool _))

/-! ### Tables -/

theorem tableSet_typed {index : Nat} (ran : (Scope.plain { c with labels } (.tableSet index)).Runs s () after) :
    (m.tableInstr (.tableSet index)).Typed env wanted := by
  obtain ⟨_, _, popped⟩ := Scope.runs_find_bind_iff.1 ran
  obtain ⟨args, rest, stack, held, described⟩ := Scope.exists_cells_of_popAll popped known
  obtain ⟨item, place, rfl, _⟩ := HoldAll.exists_two held
  unfold tableInstr
  simp only [stack, List.cons_append, List.nil_append]
  -- Outside the table it traps, and inside the table keeps its bounds.
  split
  · exact leads.withTable described fun table _ bounded => bounded.write _
  · trivial

theorem tableGet_typed {index : Nat} (ran : (Scope.plain { c with labels } (.tableGet index)).Runs s () after) :
    (m.tableInstr (.tableGet index)).Typed env wanted := by
  obtain ⟨_, _, applied⟩ := Scope.runs_find_bind_iff.1 ran
  obtain ⟨args, rest, stack, held, gives⟩ := Scope.exists_cells_of_apply applied known
  obtain ⟨place, rfl, _⟩ := HoldAll.exists_one held
  unfold tableInstr
  simp only [stack, List.cons_append, List.nil_append]
  -- Any reference may be an element, so there is nothing to know about it.
  split
  · exact leads.withStack (gives [_] (.one trivial))
  · trivial

theorem tableSize_typed {index : Nat} (ran : (Scope.plain { c with labels } (.tableSize index)).Runs s () after) :
    (m.tableInstr (.tableSize index)).Typed env wanted := by
  obtain ⟨_, _, pushed⟩ := Scope.runs_find_bind_iff.1 ran
  unfold tableInstr
  dsimp only
  split
  · -- A table has fewer elements than a number of 32 bits can count.
    rename_i table found
    have bounded := leads.store.tables table (Array.mem_of_getElem? found)
    exact leads.withStack (Scope.describe_of_push pushed known bounded.elements)
  · trivial

theorem tableGrow_typed {index : Nat} (ran : (Scope.plain { c with labels } (.tableGrow index)).Runs s () after) :
    (m.tableInstr (.tableGrow index)).Typed env wanted := by
  obtain ⟨_, _, applied⟩ := Scope.runs_find_bind_iff.1 ran
  obtain ⟨args, rest, stack, held, gives⟩ := Scope.exists_cells_of_apply applied known
  obtain ⟨count, item, rfl, _⟩ := HoldAll.exists_two held
  unfold tableInstr
  simp only [stack, List.cons_append, List.nil_append]
  split
  · -- The table grows, and the old size is left.
    rename_i before grows
    obtain ⟨table, found, both⟩ := Option.map_eq_some_iff.1 grows
    obtain ⟨can, rfl⟩ := Prod.mk.inj both
    have bounded := leads.store.tables table (Array.mem_of_getElem? found)
    refine leads.withTable (gives [_] (.one bounded.elements)) fun other there _ => ?_
    cases found.symm.trans there
    exact bounded.grow can
  · -- It cannot grow, and the mark of that is left.
    exact leads.withStack (gives [growthFailed] (.one (by decide : growthFailed < 2 ^ 32)))

theorem tableFill_typed {index : Nat} (ran : (Scope.plain { c with labels } (.tableFill index)).Runs s () after) :
    (m.tableInstr (.tableFill index)).Typed env wanted := by
  obtain ⟨_, _, popped⟩ := Scope.runs_find_bind_iff.1 ran
  obtain ⟨args, rest, stack, held, described⟩ := Scope.exists_cells_of_popAll popped known
  obtain ⟨count, item, place, rfl, _⟩ := HoldAll.exists_three held
  unfold tableInstr
  simp only [stack, List.cons_append, List.nil_append]
  -- Outside the table it traps.
  split
  · exact leads.withTable described fun table _ bounded => bounded.fill
  · trivial

theorem tableCopy_typed {target source : Nat}
    (ran : (Scope.plain { c with labels } (.tableCopy target source)).Runs s () after) :
    (m.tableInstr (.tableCopy target source)).Typed env wanted := by
  obtain ⟨_, _, others⟩ := Scope.runs_find_bind_iff.1 ran
  obtain ⟨_, _, checks⟩ := Scope.runs_find_bind_iff.1 others
  obtain ⟨_, popped⟩ := Scope.runs_ensure_bind_iff.1 checks
  obtain ⟨args, rest, stack, held, described⟩ := Scope.exists_cells_of_popAll popped known
  obtain ⟨count, first, last, rfl, _⟩ := HoldAll.exists_three held
  unfold tableInstr
  simp only [stack, List.cons_append, List.nil_append]
  -- Outside either table it traps; inside, only elements that a table had are written.
  split
  · split
    · exact leads.withTable described fun table _ bounded => bounded.write _
    · trivial
  · trivial

theorem tableInit_typed {segment index : Nat}
    (ran : (Scope.plain { c with labels } (.tableInit segment index)).Runs s () after) :
    (m.tableInstr (.tableInit segment index)).Typed env wanted := by
  obtain ⟨_, _, others⟩ := Scope.runs_find_bind_iff.1 ran
  obtain ⟨_, _, checks⟩ := Scope.runs_find_bind_iff.1 others
  obtain ⟨_, popped⟩ := Scope.runs_ensure_bind_iff.1 checks
  obtain ⟨args, rest, stack, held, described⟩ := Scope.exists_cells_of_popAll popped known
  obtain ⟨count, first, last, rfl, _⟩ := HoldAll.exists_three held
  unfold tableInstr
  simp only [stack, List.cons_append, List.nil_append]
  -- Outside the segment or the table it traps.
  split
  · split
    · exact leads.withTable described fun table _ bounded => bounded.write _
    · trivial
  · trivial

theorem elemDrop_typed {segment : Nat} (ran : (Scope.plain { c with labels } (.elemDrop segment)).Runs s () after) :
    (m.tableInstr (.elemDrop segment)).Typed env wanted := by
  obtain ⟨_, named⟩ := Scope.runs_discard_iff.1 ran
  obtain ⟨_, rfl⟩ := Scope.runs_find_iff.1 named
  exact leads.withStore ⟨leads.store.globals, leads.store.memories, leads.store.tables⟩ known

/-! ### Memories -/

theorem memorySize_typed {index : Nat} (ran : (Scope.plain { c with labels } (.memorySize index)).Runs s () after) :
    (m.memoryInstr (.memorySize index)).Typed env wanted := by
  obtain ⟨_, _, pushed⟩ := Scope.runs_find_bind_iff.1 ran
  unfold memoryInstr
  dsimp only
  split
  · -- A memory has fewer pages than a number of 32 bits can count.
    rename_i memory found
    have bounded := leads.store.memories memory (Array.mem_of_getElem? found)
    exact leads.withStack (Scope.describe_of_push pushed known (holds_i32_of_le bounded.pages))
  · trivial

theorem memoryGrow_typed {index : Nat} (ran : (Scope.plain { c with labels } (.memoryGrow index)).Runs s () after) :
    (m.memoryInstr (.memoryGrow index)).Typed env wanted := by
  obtain ⟨_, _, applied⟩ := Scope.runs_find_bind_iff.1 ran
  obtain ⟨args, rest, stack, held, gives⟩ := Scope.exists_cells_of_apply applied known
  obtain ⟨count, rfl, _⟩ := HoldAll.exists_one held
  unfold memoryInstr
  simp only [stack, List.cons_append, List.nil_append]
  split
  · -- The memory grows within its limits, so the old number of pages is an operand.
    rename_i before grows
    obtain ⟨memory, found, both⟩ := Option.map_eq_some_iff.1 grows
    obtain ⟨can, rfl⟩ := Prod.mk.inj both
    have bounded := leads.store.memories memory (Array.mem_of_getElem? found)
    refine leads.withMemory (gives [_] (.one (holds_i32_of_le bounded.pages))) fun other there _ => ?_
    cases found.symm.trans there
    exact bounded.grow can
  · -- It cannot grow, and the mark of that is left.
    exact leads.withStack (gives [growthFailed] (.one (by decide : growthFailed < 2 ^ 32)))

theorem memoryFill_typed {index : Nat} (ran : (Scope.plain { c with labels } (.memoryFill index)).Runs s () after) :
    (m.memoryInstr (.memoryFill index)).Typed env wanted := by
  obtain ⟨_, _, popped⟩ := Scope.runs_find_bind_iff.1 ran
  obtain ⟨args, rest, stack, held, described⟩ := Scope.exists_cells_of_popAll popped known
  obtain ⟨count, byte, place, rfl, _⟩ := HoldAll.exists_three held
  unfold memoryInstr
  simp only [stack, List.cons_append, List.nil_append]
  -- Outside the memory it traps.
  split
  · exact leads.withMemory described fun memory _ bounded => bounded.fill _
  · trivial

theorem memoryCopy_typed {target source : Nat}
    (ran : (Scope.plain { c with labels } (.memoryCopy target source)).Runs s () after) :
    (m.memoryInstr (.memoryCopy target source)).Typed env wanted := by
  obtain ⟨_, _, others⟩ := Scope.runs_find_bind_iff.1 ran
  obtain ⟨_, _, popped⟩ := Scope.runs_find_bind_iff.1 others
  obtain ⟨args, rest, stack, held, described⟩ := Scope.exists_cells_of_popAll popped known
  obtain ⟨count, first, last, rfl, _⟩ := HoldAll.exists_three held
  unfold memoryInstr
  simp only [stack, List.cons_append, List.nil_append]
  -- Outside either memory it traps, and bytes are bytes wherever they come from.
  split
  · split
    · exact leads.withMemory described fun memory _ bounded => bounded.write _
    · trivial
  · trivial

theorem memoryInit_typed {segment index : Nat}
    (ran : (Scope.plain { c with labels } (.memoryInit segment index)).Runs s () after) :
    (m.memoryInstr (.memoryInit segment index)).Typed env wanted := by
  obtain ⟨_, _, others⟩ := Scope.runs_find_bind_iff.1 ran
  -- The segment is declared, and that leaves the operands alone.
  have popped := Scope.runs_of_still Scope.eq_of_runs_dataSegment others
  obtain ⟨args, rest, stack, held, described⟩ := Scope.exists_cells_of_popAll popped known
  obtain ⟨count, first, last, rfl, _⟩ := HoldAll.exists_three held
  unfold memoryInstr
  simp only [stack, List.cons_append, List.nil_append]
  split
  · split
    · exact leads.withMemory described fun memory _ bounded => bounded.write _
    · trivial
  · trivial

theorem dataDrop_typed {segment : Nat} (ran : (Scope.plain { c with labels } (.dataDrop segment)).Runs s () after) :
    (m.memoryInstr (.dataDrop segment)).Typed env wanted := by
  cases Scope.eq_of_runs_dataSegment ran
  exact leads.withStore ⟨leads.store.globals, leads.store.memories, leads.store.tables⟩ known

/-! ### Vectors -/

theorem vector_typed {op : VectorOp} {relaxed : Bool}
    (ran : (Scope.plain { c with labels } (.vector op relaxed)).Runs s () after) :
    (exec p budget m (.vector op relaxed)).Typed env wanted := by
  -- Two features may be required, and both checks leave the operands alone.
  have others := Scope.runs_of_still Scope.eq_of_runs_require ran
  have applied := Scope.runs_of_still Scope.eq_of_runs_require others
  obtain ⟨args, rest, stack, held, gives⟩ := Scope.exists_cells_of_apply applied known
  refine leads.compute fun left computed => ?_
  rw [stack] at computed
  obtain ⟨given, rfl, holds⟩ := VectorOp.exists_results held computed
  exact gives given holds

theorem vectorShuffle_typed {lanes : List Nat}
    (ran : (Scope.plain { c with labels } (.vectorShuffle lanes)).Runs s () after) :
    (m.vectorInstr (.vectorShuffle lanes)).Typed env wanted := by
  have checks := Scope.runs_of_still Scope.eq_of_runs_require ran
  -- The lanes are within both vectors.
  obtain ⟨_, applied⟩ := Scope.runs_unless_iff.1 checks
  obtain ⟨args, rest, stack, held, gives⟩ := Scope.exists_cells_of_apply applied known
  obtain ⟨b, a, rfl, _⟩ := HoldAll.exists_two held
  unfold vectorInstr
  simp only [stack, List.cons_append, List.nil_append]
  exact leads.withStack (gives [_] (.one trivial))

theorem vectorExtract_typed {shape : Shape} {signed : Bool} {lane : Nat}
    (ran : (Scope.plain { c with labels } (.vectorExtract shape signed lane)).Runs s () after) :
    (m.vectorInstr (.vectorExtract shape signed lane)).Typed env wanted := by
  have checks := Scope.runs_of_still Scope.eq_of_runs_require ran
  obtain ⟨_, applied⟩ := Scope.runs_unless_iff.1 checks
  obtain ⟨args, rest, stack, held, gives⟩ := Scope.exists_cells_of_apply applied known
  obtain ⟨v, rfl, _⟩ := HoldAll.exists_one held
  unfold vectorInstr
  simp only [stack, List.cons_append, List.nil_append]
  -- What is extracted is a number of the shape.
  exact leads.withStack (gives [_] (.one (Vector.holds_extract shape signed lane v)))

theorem vectorReplace_typed {shape : Shape} {lane : Nat}
    (ran : (Scope.plain { c with labels } (.vectorReplace shape lane)).Runs s () after) :
    (m.vectorInstr (.vectorReplace shape lane)).Typed env wanted := by
  have checks := Scope.runs_of_still Scope.eq_of_runs_require ran
  obtain ⟨_, applied⟩ := Scope.runs_unless_iff.1 checks
  obtain ⟨args, rest, stack, held, gives⟩ := Scope.exists_cells_of_apply applied known
  -- The value is on top of the vector.
  obtain ⟨value, v, rfl, _⟩ := HoldAll.exists_two held
  unfold vectorInstr
  simp only [stack, List.cons_append, List.nil_append]
  exact leads.withStack (gives [_] (.one trivial))

theorem vectorLoad_typed {op : VectorLoad} {arg : MemArg}
    (ran : (Scope.plain { c with labels } (.vectorLoad op arg)).Runs s () after) :
    (m.vectorInstr (.vectorLoad op arg)).Typed env wanted := by
  have checks := Scope.runs_of_still Scope.eq_of_runs_require ran
  have applied := Scope.runs_of_still Scope.eq_of_runs_access checks
  obtain ⟨args, rest, stack, held, gives⟩ := Scope.exists_cells_of_apply applied known
  obtain ⟨address, rfl, _⟩ := HoldAll.exists_one held
  unfold vectorInstr
  simp only [stack, List.cons_append, List.nil_append]
  -- Every pattern of 128 bits is a vector.
  refine leads.compute fun left computed => ?_
  obtain ⟨bits, _, rfl⟩ := map_eq_ok computed
  exact gives [_] (.one trivial)

theorem vectorStore_typed {arg : MemArg} (ran : (Scope.plain { c with labels } (.vectorStore arg)).Runs s () after) :
    (m.vectorInstr (.vectorStore arg)).Typed env wanted := by
  have checks := Scope.runs_of_still Scope.eq_of_runs_require ran
  have popped := Scope.runs_of_still Scope.eq_of_runs_access checks
  obtain ⟨args, rest, stack, held, described⟩ := Scope.exists_cells_of_popAll popped known
  obtain ⟨v, address, rfl, _⟩ := HoldAll.exists_two held
  unfold vectorInstr
  simp only [stack, List.cons_append, List.nil_append]
  split
  · -- Only bytes of a memory change.
    rename_i written
    obtain ⟨store, rfl, typed⟩ := leads.exists_of_write written
    exact leads.withStore typed described
  · trivial

theorem vectorLoadLane_typed {shape : IntShape} {arg : MemArg} {lane : Nat}
    (ran : (Scope.plain { c with labels } (.vectorLoadLane shape arg lane)).Runs s () after) :
    (m.vectorInstr (.vectorLoadLane shape arg lane)).Typed env wanted := by
  have checks := Scope.runs_of_still Scope.eq_of_runs_require ran
  have rest := Scope.runs_of_still Scope.eq_of_runs_access checks
  obtain ⟨_, applied⟩ := Scope.runs_unless_iff.1 rest
  obtain ⟨args, rest, stack, held, gives⟩ := Scope.exists_cells_of_apply applied known
  obtain ⟨v, address, rfl, _⟩ := HoldAll.exists_two held
  unfold vectorInstr
  simp only [stack, List.cons_append, List.nil_append]
  -- Every pattern of 128 bits is a vector.
  refine leads.compute fun left computed => ?_
  obtain ⟨bits, _, rfl⟩ := map_eq_ok computed
  exact gives [_] (.one trivial)

theorem vectorStoreLane_typed {shape : IntShape} {arg : MemArg} {lane : Nat}
    (ran : (Scope.plain { c with labels } (.vectorStoreLane shape arg lane)).Runs s () after) :
    (m.vectorInstr (.vectorStoreLane shape arg lane)).Typed env wanted := by
  have checks := Scope.runs_of_still Scope.eq_of_runs_require ran
  have rest := Scope.runs_of_still Scope.eq_of_runs_access checks
  obtain ⟨_, popped⟩ := Scope.runs_unless_iff.1 rest
  obtain ⟨args, rest, stack, held, described⟩ := Scope.exists_cells_of_popAll popped known
  obtain ⟨v, address, rfl, _⟩ := HoldAll.exists_two held
  unfold vectorInstr
  simp only [stack, List.cons_append, List.nil_append]
  split
  · -- Only bytes of a memory change.
    rename_i written
    obtain ⟨store, rfl, typed⟩ := leads.exists_of_write written
    exact leads.withStore typed described
  · trivial

/-! ### Steps -/

/-- An instruction that passes the check leads to a machine that goes on with what it leaves. -/
theorem exec_typed (program : p.Typed env) {i : Instr} (ran : (Scope.instr { c with labels } i).Runs s () after) :
    (exec p budget m i).Typed env wanted := by
  have plain := Scope.runs_plain (c := { c with labels }) leads.inside.running ran
  -- One lemma for each instruction; those that the machine does not know trap.
  cases i with
  | unreachable | tryTable | throwTag | throwRef | brOnNull | brOnNonNull | brOnCast | callRef | returnCallRef |
    refAsNonNull | refEq | heap | atomic | atomicFence => trivial
  | nop =>
    obtain ⟨_, rfl⟩ := Scope.runs_pure_iff.1 (plain (by simp))
    exact leads.next known
  | block type body => exact block_typed leads known program ran
  | loop type body => exact loop_typed leads known program ran
  | cond type onTrue onFalse => exact cond_typed leads known program ran
  | br depth => exact br_typed leads known (plain (by simp))
  | brIf depth => exact brIf_typed leads known (plain (by simp))
  | brTable depths otherwise => exact brTable_typed leads known (plain (by simp))
  | ret => exact ret_typed leads known (plain (by simp))
  | call index => exact call_index_typed leads known program (plain (by simp))
  | callIndirect type table => exact callIndirect_typed leads known program (plain (by simp))
  | returnCall index => exact returnCall_typed leads known program (plain (by simp))
  | returnCallIndirect type table => exact returnCallIndirect_typed leads known program (plain (by simp))
  | drop => exact drop_typed leads known (plain (by simp))
  | select types => exact select_typed leads known (plain (by simp))
  | localGet index => exact localGet_typed leads known (plain (by simp))
  | localSet index => exact localSet_typed leads known (plain (by simp))
  | localTee index => exact localTee_typed leads known (plain (by simp))
  | globalGet index => exact globalGet_typed leads known (plain (by simp))
  | globalSet index => exact globalSet_typed leads known (plain (by simp))
  | const value => exact const_typed leads known (plain (by simp))
  | numeric op => exact numeric_typed leads known (plain (by simp))
  | load op arg => exact load_typed leads known (plain (by simp))
  | store op arg => exact store_typed leads known (plain (by simp))
  | refNull heap => exact refNull_typed leads known (plain (by simp))
  | refFunc index => exact refFunc_typed leads known (plain (by simp))
  | refIsNull => exact refIsNull_typed leads known (plain (by simp))
  | tableGet index => exact tableGet_typed leads known (plain (by simp))
  | tableSet index => exact tableSet_typed leads known (plain (by simp))
  | tableSize index => exact tableSize_typed leads known (plain (by simp))
  | tableGrow index => exact tableGrow_typed leads known (plain (by simp))
  | tableFill index => exact tableFill_typed leads known (plain (by simp))
  | tableCopy target source => exact tableCopy_typed leads known (plain (by simp))
  | tableInit segment index => exact tableInit_typed leads known (plain (by simp))
  | elemDrop segment => exact elemDrop_typed leads known (plain (by simp))
  | memorySize index => exact memorySize_typed leads known (plain (by simp))
  | memoryGrow index => exact memoryGrow_typed leads known (plain (by simp))
  | memoryFill index => exact memoryFill_typed leads known (plain (by simp))
  | memoryCopy target source => exact memoryCopy_typed leads known (plain (by simp))
  | memoryInit segment index => exact memoryInit_typed leads known (plain (by simp))
  | dataDrop segment => exact dataDrop_typed leads known (plain (by simp))
  | vector op relaxed => exact vector_typed leads known (plain (by simp))
  | vectorShuffle lanes => exact vectorShuffle_typed leads known (plain (by simp))
  | vectorExtract shape signed lane => exact vectorExtract_typed leads known (plain (by simp))
  | vectorReplace shape lane => exact vectorReplace_typed leads known (plain (by simp))
  | vectorLoad op arg => exact vectorLoad_typed leads known (plain (by simp))
  | vectorStore arg => exact vectorStore_typed leads known (plain (by simp))
  | vectorLoadLane shape arg lane => exact vectorLoadLane_typed leads known (plain (by simp))
  | vectorStoreLane shape arg lane => exact vectorStoreLane_typed leads known (plain (by simp))

end

/-- Every step of a machine that is typed leads to one that is, or to values of the wanted types. -/
theorem step_typed (program : p.Typed env) (typed : m.Typed env wanted) : (step p budget m).Typed env wanted := by
  obtain ⟨c, awaits, callers, store⟩ := typed
  obtain ⟨labels, results, opened, resumes⟩ := awaits.resumes
  obtain ⟨s, known, accepted⟩ := resumes [] .nil
  obtain ⟨code, stack, blocks, locals, arity, frames, depth, memory, charged, events⟩ := m
  cases code with
  | cons i rest =>
    obtain ⟨after, ran, accepted⟩ := Scope.accepts_cons_iff.1 accepted
    exact exec_typed (m := ⟨rest, stack, blocks, locals, arity, frames, depth, memory, charged + i.cost, events⟩)
      ⟨awaits.inside, awaits.locals, awaits.arity, opened, accepted, callers, store⟩ known program ran
  | nil =>
    have held : HoldAll results.reverse stack := accepted.holdAll known
    cases opened with
    | function =>
      -- The function is over, and its results are all that is left.
      refine leave_typed callers store ?_
      have all : stack.length ≤ arity := by
        rw [show arity = c.results.length from awaits.arity]
        simpa using held.length_eq.ge
      show HoldAll c.results.reverse (stack.take arity)
      rwa [List.take_of_length_le all]
    | block opened _ _ onEnd =>
      refine ⟨c, ⟨awaits.inside, awaits.locals, awaits.arity, _, _, opened, fun none empty => ?_⟩, callers, store⟩
      cases empty
      exact onEnd stack held

/-- What a run returns has the types that are wanted. -/
theorem run_typed (program : p.Typed env) (steps : Nat) (typed : m.Typed env wanted) :
    (Step.done (run p budget steps m).1 (run p budget steps m).2).Typed env wanted := by
  -- The induction is on the steps that are allowed, and each of them keeps the machine typed.
  induction steps generalizing m with
  | zero => trivial
  | succ steps ih =>
    have next : (step p budget m).Typed env wanted := step_typed program typed
    unfold run
    split
    · rename_i m' stepped
      rw [stepped] at next
      exact ih next
    · rename_i ending m' stepped
      rw [stepped] at next
      exact next

end Machine

namespace Linked

/-- Values that no one takes can be taken again outside. -/
theorem awaits_outside (running : env.constant = false) (given : List ValType) :
    Frame.Awaits env { env with locals := #[], results := given } given ⟨[], [], [], #[], given.length⟩ := by
  refine ⟨⟨rfl, rfl, rfl, running⟩, .nil, rfl, [given], given, .function, fun cells held => ?_⟩
  refine ⟨env.pushed given ⟨[], false, []⟩, Scope.describe_of_pushAll (Scope.runs_pushAll_iff.2 rfl) ⟨rfl, .nil⟩ held, ?_⟩
  exact ⟨_, _, Scope.runs_pure_iff.2 ⟨rfl, rfl⟩, Scope.runs_popAll_pushed, rfl⟩

/-- What a function of an instance returns has the types of its results, and the globals keep theirs. -/
theorem invoke_typed {l : Linked ε} {budget : Option Nat} {progress after : Progress ε} {f : Function ε}
    {args results : List Nat} (program : l.program.Typed env) (running : env.constant = false) (typed : f.Typed env)
    (store : progress.store.Typed env) (held : HoldAll f.type.params args)
    (returned : l.invoke budget progress f args = (.returned results, after)) :
    HoldAll f.type.results.reverse results ∧ after.store.Typed env := by
  cases f with
  | host type index respond =>
    cases returned
    have none : type.results = [] := typed.2
    exact ⟨by rw [Function.type, none]; exact .nil, store⟩
  | guest type index locals code =>
    let outside : Machine ε :=
      ⟨[], args.reverse, [], #[], type.results.length, [], 0, progress.store, progress.charged, progress.events⟩
    have given : HoldAll type.params.reverse args.reverse := by
      rw [HoldAll.reverse_iff, List.reverse_reverse]
      exact held
    have called : (Machine.call l.program budget outside (.guest type index locals code)).Typed env type.results :=
      Machine.call_typed typed (List.append_nil _).symm given (awaits_outside running _) (.outside fun _ => id) store
    -- The call enters the function or ends at once; either way what it ends with is typed.
    cases entered : Machine.call l.program budget outside (.guest type index locals code) with
    | next m =>
      rw [entered] at called
      have ended : (Step.done (Machine.run l.program budget maxSteps m).1 _).Typed env type.results :=
        Machine.run_typed program maxSteps called
      simp only [invoke, outside, entered] at returned
      obtain ⟨ends, rfl⟩ := Prod.mk.inj returned
      rw [ends] at ended
      exact ended
    | done ending m =>
      rw [entered] at called
      simp only [invoke, outside, entered] at returned
      obtain ⟨rfl, rfl⟩ := Prod.mk.inj returned
      exact called

end Linked

end WasmHost.Wasm
