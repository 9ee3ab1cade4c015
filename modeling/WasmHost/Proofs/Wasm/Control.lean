import WasmHost.Proofs.Wasm.Typing

/-! Every step of a machine keeps to the types of its code. -/

namespace WasmHost.Wasm

variable {ε : Type} {env c : Scope} {wanted results : List ValType} {labels : List (List ValType)} {s after : Operands}

namespace Scope

/-! ### Checks that leave the operands alone -/

theorem eq_of_runs_access {bytes : Nat} {exact : Bool} {arg : MemArg} (ran : (c.access bytes exact arg).Runs s () after) :
    after = s := by
  obtain ⟨_, _, rest⟩ := runs_find_bind_iff.1 ran
  split at rest
  · exact absurd rest not_runs_fail
  · exact (runs_pure_iff.1 rest).2

theorem eq_of_runs_inFunction (ran : c.inFunction.Runs s () after) : after = s := by
  unfold inFunction at ran
  split at ran
  · exact absurd ran not_runs_fail
  · exact (runs_pure_iff.1 ran).2

theorem runs_inFunction (running : c.constant = false) : c.inFunction.Runs s () s := by
  rw [inFunction, if_neg (by simp [running])]
  exact runs_pure_iff.2 ⟨rfl, rfl⟩

theorem eq_of_runs_dataSegment {index : Nat} (ran : (c.dataSegment index).Runs s () after) : after = s := by
  unfold dataSegment at ran
  split at ran
  · exact absurd ran not_runs_fail
  · split at ran
    · exact (runs_pure_iff.1 ran).2
    · exact absurd ran not_runs_fail

theorem eq_of_runs_functionTable {index : Nat} (ran : (c.functionTable index).Runs s () after) : after = s := by
  obtain ⟨_, _, rest⟩ := runs_find_bind_iff.1 ran
  exact (runs_ensure_iff.1 rest).2

/-- A function that is named has its type. -/
theorem exists_of_runs_function {index : Nat} {type : FuncType} (ran : (c.function index).Runs s type after) :
    (∃ typeIndex, c.functions[index]? = some typeIndex ∧ c.types.func? typeIndex = some type) ∧ after = s := by
  obtain ⟨typeIndex, found, rest⟩ := runs_find_bind_iff.1 ran
  obtain ⟨there, rfl⟩ := runs_find_iff.1 rest
  exact ⟨⟨typeIndex, found, there⟩, rfl⟩

/-- An instruction that encloses no others is checked on its own. -/
theorem runs_plain {i : Instr} (running : c.constant = false) (ran : (c.instr i).Runs s () after)
    (alone : ∀ type body other clauses, i ≠ .block type body ∧ i ≠ .loop type body ∧ i ≠ .cond type body other ∧
      i ≠ .tryTable type clauses body) : (c.plain i).Runs s () after := by
  unfold instr at ran
  -- The four instructions that enclose others are excluded, and no other is constant code only.
  split at ran
  · exact absurd rfl (alone _ _ [] []).1
  · exact absurd rfl (alone _ _ [] []).2.1
  · exact absurd rfl (alone _ _ _ []).2.2.1
  · exact absurd rfl (alone _ _ [] _).2.2.2
  · rw [if_neg (by simp [running])] at ran
    exact ran

end Scope

namespace Machine

variable {m : Machine ε} {p : Program ε} {budget : Option Nat}

/-- An instruction is taken off the code, and what follows passes on the operands that it leaves. -/
structure Leads (env : Scope) (wanted : List ValType) (c : Scope) (labels : List (List ValType)) (results : List ValType)
    (after : Operands) (m : Machine ε) : Prop where
  inside : env.Inside c
  locals : HoldAll c.locals.toList m.locals.toList
  arity : m.arity = c.results.length
  opened : c.Opens labels results m.labels
  accepted : Scope.Accepts { c with labels } m.code after results
  callers : Callers env wanted c.results m.callers
  store : m.store.Typed env

namespace Leads

variable (leads : m.Leads env wanted c labels results after)
include leads

/-- With these operands, the machine goes on. -/
theorem next (known : after.Describe m.stack) : m.Typed env wanted := by
  refine ⟨c, ⟨leads.inside, leads.locals, leads.arity, labels, results, leads.opened, fun none empty => ?_⟩, leads.callers,
    leads.store⟩
  cases empty
  exact ⟨after, known, leads.accepted⟩

theorem withStack {stack : List Nat} (known : after.Describe stack) : (m.withStack stack).Typed env wanted :=
  next (m := { m with stack })
    ⟨leads.inside, leads.locals, leads.arity, leads.opened, leads.accepted, leads.callers, leads.store⟩ known

theorem withStore {stack : List Nat} {store : Store} (typed : store.Typed env) (known : after.Describe stack) :
    Machine.Typed env wanted { m with stack, store } :=
  next (m := { m with stack, store })
    ⟨leads.inside, leads.locals, leads.arity, leads.opened, leads.accepted, leads.callers, typed⟩ known

theorem compute {result : Except Trap (List Nat)} (known : ∀ stack, result = .ok stack → after.Describe stack) :
    (m.compute result).Typed env wanted := by
  cases result with
  | error t => trivial
  | ok stack => exact leads.withStack (known stack rfl)

/-- Other operands are left to what follows. -/
theorem onStack (stack : List Nat) : Leads env wanted c labels results after { m with stack } :=
  ⟨leads.inside, leads.locals, leads.arity, leads.opened, leads.accepted, leads.callers, leads.store⟩

end Leads

/-! ### Branches -/

/-- Where a branch leads: past all blocks, or to code that goes on with what it carries. -/
theorem exists_target {depth : Nat} {types : List ValType} {opened : List Label} (opens : c.Opens labels results opened)
    (named : labels[depth]? = some types) :
    (opened.drop depth = [] ∧ types = c.results) ∨ ∃ label outer labels' results', opened.drop depth = label :: outer ∧
      c.Opens labels' results' outer ∧ label.arity = types.length ∧
      Scope.Resumes { c with labels := labels' } types label.onBranch label.below results' := by
  -- The labels stand for the blocks that are open, so a depth counts down along them.
  induction opens generalizing depth with
  | function =>
    cases depth with
    -- Past the last block is the function itself.
    | zero => exact .inl ⟨rfl, (Option.some.inj named).symm⟩
    -- Nothing is named beyond the function.
    | succ depth => cases named
  | block opened arity onBranch _ ih =>
    cases depth with
    | zero =>
      cases named
      exact .inr ⟨_, _, _, _, rfl, opened, arity, onBranch⟩
    | succ depth => exact ih named

/-- A branch carries its values to where it leads. -/
theorem branch_typed (leads : m.Leads env wanted c labels results after) {depth : Nat} {types : List ValType}
    {cells rest : List Nat} (named : labels[depth]? = some types) (stack : m.stack = cells ++ rest)
    (held : HoldAll types.reverse cells) : (m.branch depth).Typed env wanted := by
  have length : cells.length = types.length := by simpa using held.length_eq.symm
  -- What the checker knows of the label at this depth is what the machine finds there.
  unfold branch
  rcases exists_target leads.opened named with ⟨past, rfl⟩ | ⟨label, outer, labels', results', there, opened, arity, resumes⟩
  · -- A branch past all blocks returns from the function, with its results.
    rw [past]
    refine leave_typed leads.callers leads.store ?_
    rw [leads.arity, ← length, stack, List.take_left]
    exact held
  · -- A branch to a block drops what the block left, and keeps what the label carries.
    rw [there]
    refine ⟨c, ⟨leads.inside, leads.locals, leads.arity, labels', results', opened, fun none empty => ?_⟩, leads.callers,
      leads.store⟩
    cases empty
    obtain ⟨s, known, accepted⟩ := resumes cells held
    refine ⟨s, ?_, accepted⟩
    show s.Describe (m.stack.take label.arity ++ label.below)
    rw [arity, ← length, stack, List.take_left]
    exact known

/-! ### Calls -/

/-- A function of the guest starts with its parameters and with zeros. -/
theorem holdAll_locals {params declared : List ValType} {args : List Nat} (held : HoldAll params.reverse args) :
    HoldAll (params ++ declared) (args.reverse.toArray ++ Array.replicate declared.length 0).toList := by
  simp only [Array.toList_append, Array.toList_replicate]
  refine List.rel_append (HoldAll.reverse_iff.1 held) ?_
  rw [List.forall₂_iff_get]
  refine ⟨by simp, fun index _ _ => ?_⟩
  simpa using holds_zero _

/-- A guest function that starts can run, and its results go to those who wait for them. -/
theorem start_typed {type : FuncType} {typeIndex locals : Nat} {code : List Instr} {frames : List Frame} {args : List Nat}
    {m : Machine ε} (typed : Function.Typed env (.guest type typeIndex locals code : Function ε))
    (held : HoldAll type.params.reverse args) (callers : Callers env wanted type.results frames)
    (store : m.store.Typed env) (running : m.frame =
      ⟨code, [], [], args.reverse.toArray ++ Array.replicate locals 0, type.results.length⟩) (waiting : m.callers = frames) :
    m.Typed env wanted := by
  -- The body of a checked function was accepted in a scope with nothing but its own label.
  obtain ⟨_, c, declared, initialized, inside, gives, takes, rfl, accepted⟩ := typed
  refine ⟨c, ?_, by rw [waiting, gives]; exact callers, store⟩
  rw [running]
  -- The arguments and the zeros after them are its locals.
  refine ⟨inside, takes ▸ holdAll_locals held, by rw [gives], [type.results], type.results, ?_, ?_⟩
  · have opens := Scope.Opens.function (c := c)
    rwa [gives] at opens
  · intro none empty
    cases empty
    exact ⟨_, ⟨rfl, .nil⟩, accepted⟩

/-- A call is open until the function that is called gives its results. -/
theorem call_typed {f : Function ε} (typed : f.Typed env) {args rest : List Nat} (stack : m.stack = args ++ rest)
    (held : HoldAll f.type.params.reverse args)
    (awaits : Frame.Awaits env c f.type.results ⟨m.code, rest, m.labels, m.locals, m.arity⟩)
    (callers : Callers env wanted c.results m.callers) (store : m.store.Typed env) :
    (m.call p budget f).Typed env wanted := by
  have length : args.length = f.type.params.length := by simpa using held.length_eq.symm
  have taken : m.stack.take f.type.params.length = args := by rw [stack, ← length, List.take_left]
  have left : m.stack.drop f.type.params.length = rest := by rw [stack, ← length, List.drop_left]
  cases f with
  | host type index respond =>
    -- Nothing is given back.
    have none : type.results = [] := typed.2
    simp only [Function.type] at taken left awaits
    rw [none] at awaits
    refine ⟨c, ?_, callers, store⟩
    show Frame.Awaits env c [] ⟨m.code, m.stack.drop type.params.length, m.labels, m.locals, m.arity⟩
    rw [left]
    exact awaits
  | guest type index locals code =>
    simp only [Function.type] at taken left awaits held
    unfold call
    simp only [taken, left]
    split
    · trivial
    · split
      · trivial
      · exact start_typed typed held (.frame awaits callers) store rfl rfl

/-- A call in place of the running function gives its results to those who wait for that one. -/
theorem tailCall_typed {f : Function ε} (typed : f.Typed env) {args rest : List Nat} (stack : m.stack = args ++ rest)
    (held : HoldAll f.type.params.reverse args) (arity : m.arity = c.results.length)
    (fits : ∀ cells, HoldAll f.type.results cells → HoldAll c.results cells)
    (callers : Callers env wanted c.results m.callers) (store : m.store.Typed env) :
    (m.tailCall p budget f).Typed env wanted := by
  have length : args.length = f.type.params.length := by simpa using held.length_eq.symm
  have taken : m.stack.take f.type.params.length = args := by rw [stack, ← length, List.take_left]
  cases f with
  | host type index respond =>
    -- Hosts give nothing, so the running function gives nothing either, and can leave at once.
    have none : type.results = [] := typed.2
    have same : c.results = [] := by
      have empty := fits [] (by rw [Function.type, none]; exact .nil)
      simpa using empty
    refine leave_typed callers store ?_
    show HoldAll c.results.reverse ((m.stack.drop type.params.length).take m.arity)
    rw [arity, same]
    exact .nil
  | guest type index locals code =>
    -- A guest function takes the place of this one, and those who wait do not change.
    simp only [Function.type] at taken held fits
    unfold tailCall
    simp only [taken]
    split
    · -- Without budget it traps, and a trap is no untyped state.
      trivial
    · exact start_typed typed held (callers.mono fits) store rfl rfl

/-! ### Blocks -/

/-- A block starts with its parameters, and the operands under them are kept for its end. -/
theorem enter_typed (leads : m.Leads env wanted c labels results after) {params branch ends : List ValType}
    {args rest : List Nat} {body onBranch : List Instr} {initialized : List Nat} (stack : m.stack = args ++ rest)
    (held : HoldAll params.reverse args)
    (accepted : Scope.Accepts { c with labels := branch :: labels } body (c.pushed params ⟨[], false, initialized⟩) ends)
    (toBranch : Scope.Resumes { c with labels } branch onBranch rest results)
    (toEnd : Scope.Resumes { c with labels } ends m.code rest results) :
    Machine.Typed env wanted (m.enter params.length branch.length body onBranch m.code) := by
  have length : args.length = params.length := by simpa using held.length_eq.symm
  have taken : m.stack.take params.length = args := by rw [stack, ← length, List.take_left]
  have left : m.stack.drop params.length = rest := by rw [stack, ← length, List.drop_left]
  -- The block starts on operands of its own, with one more label.
  unfold enter
  simp only [taken, left]
  refine ⟨c, ⟨leads.inside, leads.locals, leads.arity, branch :: labels, ends, .block leads.opened rfl toBranch toEnd,
    fun none empty => ?_⟩, leads.callers, leads.store⟩
  cases empty
  -- Its parameters are all that it finds.
  have known : (c.pushed params ⟨[], false, initialized⟩).Describe (args ++ []) :=
    Scope.describe_of_pushAll (Scope.runs_pushAll_iff.2 rfl) ⟨rfl, .nil⟩ held
  rw [List.append_nil] at known
  exact ⟨_, known, accepted⟩

end Machine

namespace Scope

/-- The type of a block does not depend on the operands. -/
theorem runs_blockType {type : BlockType} {signature : FuncType} (ran : (c.blockType type).Runs s signature after) :
    after = s ∧ ∀ s', (c.blockType type).Runs s' signature s' := by
  cases type with
  | empty =>
    obtain ⟨rfl, rfl⟩ := runs_pure_iff.1 ran
    exact ⟨rfl, fun s' => runs_pure_iff.2 ⟨rfl, rfl⟩⟩
  | value type =>
    obtain ⟨_, _, checked, returned⟩ := runs_bind_iff.1 ran
    obtain ⟨passed, rfl⟩ := runs_lift_iff.1 checked
    obtain ⟨rfl, rfl⟩ := runs_pure_iff.1 returned
    exact ⟨rfl, fun s' => runs_bind_iff.2 ⟨_, s', runs_lift_iff.2 ⟨passed, rfl⟩, runs_pure_iff.2 ⟨rfl, rfl⟩⟩⟩
  | defined index =>
    obtain ⟨found, rfl⟩ := runs_find_iff.1 ran
    exact ⟨rfl, fun s' => runs_find_iff.2 ⟨found, rfl⟩⟩

/-- A program knows how many values blocks take and give. -/
theorem blockArity_eq {p : Program ε} (program : p.Typed env) (same : c.types = env.types) {type : BlockType}
    {signature : FuncType} (ran : (c.blockType type).Runs s signature after) :
    Machine.blockArity p type = (signature.params.length, signature.results.length) := by
  -- Only a block with a type index needs the types, which scope and program share.
  cases type with
  | empty =>
    obtain ⟨rfl, _⟩ := runs_pure_iff.1 ran
    rfl
  | value type =>
    obtain ⟨_, _, _, returned⟩ := runs_bind_iff.1 ran
    obtain ⟨rfl, _⟩ := runs_pure_iff.1 returned
    rfl
  | defined index =>
    obtain ⟨found, _⟩ := runs_find_iff.1 ran
    simp only [Machine.blockArity, program.types index signature (same ▸ found)]

/-- A function that is called in place of another gives what that one should give. -/
theorem fits_of_sameResults {type : FuncType} (ran : (c.sameResults type).Runs s () after) :
    after = s ∧ ∀ cells, HoldAll type.results cells → HoldAll c.results cells := by
  obtain ⟨below, rfl⟩ := runs_ensure_iff.1 ran
  exact ⟨rfl, fun cells held => holdAll_normal_iff.1 ((holdAll_normal_iff.2 held).above below)⟩

/-- All targets of a table branch are there, with values for them. -/
theorem exists_of_runs_targets {types : List ValType} {depths : List Nat} {stack : List Nat}
    (ran : (depths.forM fun depth => do
      let others ← c.label depth
      ensure (others.length = types.length)
      c.matchAll others).Runs s () after) (known : s.Describe stack) :
    after.Describe stack ∧ ∀ depth ∈ depths, ∃ types, c.labels[depth]? = some types ∧
      ∃ cells rest, stack = cells ++ rest ∧ HoldAll types.reverse cells := by
  -- Each check pops the values and pushes them again, so the next one starts from what it described.
  induction depths generalizing s with
  | nil =>
    obtain ⟨_, rfl⟩ := runs_pure_iff.1 ran
    exact ⟨known, nofun⟩
  | cons depth depths ih =>
    obtain ⟨middle, here, rest⟩ := runs_forM_cons_iff.1 ran
    obtain ⟨others, found, checks⟩ := runs_find_bind_iff.1 here
    obtain ⟨_, matched⟩ := runs_ensure_bind_iff.1 checks
    obtain ⟨known', here⟩ := describe_of_matchAll matched known
    obtain ⟨described, targets⟩ := ih rest known'
    exact ⟨described, List.forall_mem_cons.2 ⟨⟨others, found, here⟩, targets⟩⟩

end Scope

namespace Machine

variable {m : Machine ε} {p : Program ε} {budget : Option Nat}

/-- The function in a table slot is one of the program, with the type that is expected. -/
theorem of_callee (program : p.Typed env) {table typeIndex place : Nat} {type : FuncType} {f : Function ε}
    (expected : env.types.func? typeIndex = some type) (found : m.callee p table typeIndex place = .ok f) :
    f.Typed env ∧ f.type = type := by
  unfold callee at found
  split at found
  · -- Outside the table, or without an element, there is no function.
    cases found
  · cases found
  · split at found
    · cases found
    · rename_i f' there
      split at found
      · -- Types are compared by representative, which is the same for equal types only.
        rename_i same
        cases found
        have typed := program.functions f (Array.mem_of_getElem? there)
        obtain ⟨⟨index, known, index'⟩, _⟩ := typed
        rw [program.representatives] at same
        have equal := program.canonical index typeIndex (index'.symm.trans same)
        exact ⟨program.functions f (Array.mem_of_getElem? there), Option.some.inj (known.symm.trans (equal.trans expected))⟩
      · cases found

section

variable (leads : m.Leads env wanted c labels results after) (known : s.Describe m.stack)
include leads known

/-! ### Branches out of blocks -/

theorem br_typed {depth : Nat} (ran : (Scope.plain { c with labels } (.br depth)).Runs s () after) :
    (m.branch depth).Typed env wanted := by
  obtain ⟨types, found, rest⟩ := Scope.runs_find_bind_iff.1 ran
  obtain ⟨_, _, popped, _⟩ := Scope.runs_bind_iff.1 rest
  obtain ⟨cells, below, stack, held, _⟩ := Scope.exists_cells_of_popAll popped known
  exact branch_typed leads found stack held

theorem brIf_typed {depth : Nat} (ran : (Scope.plain { c with labels } (.brIf depth)).Runs s () after) :
    (exec p budget m (.brIf depth)).Typed env wanted := by
  obtain ⟨_, _, taken, rest⟩ := Scope.runs_bind_iff.1 ran
  obtain ⟨condition, below, stack, _, described⟩ := Scope.exists_cell_of_take taken known
  obtain ⟨types, found, applied⟩ := Scope.runs_find_bind_iff.1 rest
  obtain ⟨cells, below, rfl, held, gives⟩ := Scope.exists_cells_of_apply applied described
  unfold exec
  simp only [stack]
  -- The values stay where they are, unless the branch takes them.
  split
  · exact (leads.onStack _).next (gives cells held)
  · exact branch_typed (leads.onStack _) found rfl held

theorem brTable_typed {depths : List Nat} {otherwise : Nat}
    (ran : (Scope.plain { c with labels } (.brTable depths otherwise)).Runs s () after) :
    (exec p budget m (.brTable depths otherwise)).Typed env wanted := by
  obtain ⟨_, _, taken, looked⟩ := Scope.runs_bind_iff.1 ran
  obtain ⟨choice, below, stack, _, described⟩ := Scope.exists_cell_of_take taken known
  obtain ⟨types, found, others⟩ := Scope.runs_find_bind_iff.1 looked
  obtain ⟨_, _, matched, last⟩ := Scope.runs_bind_iff.1 others
  obtain ⟨described, targets⟩ := Scope.exists_of_runs_targets matched described
  obtain ⟨_, _, popped, _⟩ := Scope.runs_bind_iff.1 last
  unfold exec
  simp only [stack]
  -- Either the choice is one of the targets, or it is past them all.
  cases chosen : depths[choice]? with
  | none =>
    obtain ⟨cells, rest, same, held, _⟩ := Scope.exists_cells_of_popAll popped described
    exact branch_typed (leads.onStack _) found same held
  | some depth =>
    obtain ⟨types, there, cells, rest, same, held⟩ := targets depth (List.mem_of_getElem? chosen)
    exact branch_typed (leads.onStack _) there same held

theorem ret_typed (ran : (Scope.plain { c with labels } .ret).Runs s () after) : m.leave.Typed env wanted := by
  obtain ⟨_, _, popped, _⟩ := Scope.runs_bind_iff.1 ran
  obtain ⟨cells, rest, stack, held, _⟩ := Scope.exists_cells_of_popAll popped known
  have length : cells.length = c.results.length := by simpa using held.length_eq.symm
  refine leave_typed leads.callers leads.store ?_
  rw [leads.arity, ← length, stack, List.take_left]
  exact held

/-! ### Functions that are called -/

/-- A function is called on its arguments, and its results are left where they were. -/
theorem apply_typed {f : Function ε} (typed : f.Typed env)
    (ran : (Scope.apply { c with labels } f.type.params f.type.results).Runs s () after) :
    (m.call p budget f).Typed env wanted := by
  obtain ⟨args, rest, stack, held, gives⟩ := Scope.exists_cells_of_apply ran known
  refine call_typed typed stack held ?_ leads.callers leads.store
  exact ⟨leads.inside, leads.locals, leads.arity, labels, results, leads.opened,
    fun cells given => ⟨after, gives cells given, leads.accepted⟩⟩

variable (program : p.Typed env)
include program

/-- A function of the module is called by its index. -/
theorem exists_function {index : Nat} {type : FuncType} {middle : Operands}
    (named : (Scope.function { c with labels } index).Runs s type middle) :
    ∃ f, p.functions[index]? = some f ∧ f.Typed env ∧ f.type = type ∧ middle = s := by
  obtain ⟨⟨typeIndex, there, defined⟩, rfl⟩ := Scope.exists_of_runs_function named
  obtain ⟨f, found, same⟩ := program.named index typeIndex type (leads.inside.functions ▸ there)
    (leads.inside.types ▸ defined)
  exact ⟨f, found, program.functions f (Array.mem_of_getElem? found), same, rfl⟩

theorem call_index_typed {index : Nat} (ran : (Scope.plain { c with labels } (.call index)).Runs s () after) :
    (exec p budget m (.call index)).Typed env wanted := by
  obtain ⟨type, _, named, applied⟩ := Scope.runs_bind_iff.1 ran
  obtain ⟨f, found, typed, rfl, rfl⟩ := exists_function leads known program named
  unfold exec
  simp only [found]
  exact apply_typed leads known typed applied

theorem returnCall_typed {index : Nat} (ran : (Scope.plain { c with labels } (.returnCall index)).Runs s () after) :
    (exec p budget m (.returnCall index)).Typed env wanted := by
  obtain ⟨type, _, named, checks⟩ := Scope.runs_bind_iff.1 ran
  obtain ⟨f, found, typed, rfl, rfl⟩ := exists_function leads known program named
  obtain ⟨_, _, same, pops⟩ := Scope.runs_bind_iff.1 checks
  -- The callee gives what the running function gives.
  obtain ⟨rfl, fits⟩ := Scope.fits_of_sameResults same
  obtain ⟨_, _, popped, _⟩ := Scope.runs_bind_iff.1 pops
  obtain ⟨args, rest, stack, held, _⟩ := Scope.exists_cells_of_popAll popped known
  unfold exec
  simp only [found]
  exact tailCall_typed typed stack held leads.arity fits leads.callers leads.store

theorem callIndirect_typed {type table : Nat}
    (ran : (Scope.plain { c with labels } (.callIndirect type table)).Runs s () after) :
    (exec p budget m (.callIndirect type table)).Typed env wanted := by
  have checks := Scope.runs_of_still Scope.eq_of_runs_functionTable ran
  obtain ⟨expected, defined, takes⟩ := Scope.runs_find_bind_iff.1 checks
  obtain ⟨_, _, taken, applied⟩ := Scope.runs_bind_iff.1 takes
  obtain ⟨place, rest, stack, _, described⟩ := Scope.exists_cell_of_take taken known
  unfold exec
  simp only [stack]
  -- The table is known at run time only, so the check that the type fits is made there.
  cases found : m.callee p table type place with
  | error t => trivial
  | ok f =>
    obtain ⟨typed, rfl⟩ := of_callee program (leads.inside.types ▸ defined) found
    exact apply_typed (leads.onStack rest) described typed applied

theorem returnCallIndirect_typed {type table : Nat}
    (ran : (Scope.plain { c with labels } (.returnCallIndirect type table)).Runs s () after) :
    (exec p budget m (.returnCallIndirect type table)).Typed env wanted := by
  have checks := Scope.runs_of_still Scope.eq_of_runs_functionTable ran
  obtain ⟨expected, defined, sames⟩ := Scope.runs_find_bind_iff.1 checks
  obtain ⟨_, _, same, takes⟩ := Scope.runs_bind_iff.1 sames
  -- The callee gives what the running function gives.
  obtain ⟨rfl, fits⟩ := Scope.fits_of_sameResults same
  obtain ⟨_, _, taken, pops⟩ := Scope.runs_bind_iff.1 takes
  -- On top is the slot, and under it are the arguments.
  obtain ⟨place, rest, stack, _, described⟩ := Scope.exists_cell_of_take taken known
  obtain ⟨_, _, popped, _⟩ := Scope.runs_bind_iff.1 pops
  obtain ⟨args, below, rfl, held, _⟩ := Scope.exists_cells_of_popAll popped described
  unfold exec
  simp only [stack]
  cases found : m.callee p table type place with
  | error t => trivial
  | ok f =>
    obtain ⟨typed, rfl⟩ := of_callee program (leads.inside.types ▸ defined) found
    exact tailCall_typed (m := { m with stack := args ++ below }) typed rfl held leads.arity fits leads.callers leads.store

/-! ### Blocks that are entered -/

theorem block_typed {type : BlockType} {body : List Instr}
    (ran : (Scope.instr { c with labels } (.block type body)).Runs s () after) :
    (exec p budget m (.block type body)).Typed env wanted := by
  rw [Scope.instr] at ran
  obtain ⟨signature, _, typed, pops⟩ := Scope.runs_bind_iff.1 (Scope.runs_of_still Scope.eq_of_runs_inFunction ran)
  obtain ⟨rfl, _⟩ := Scope.runs_blockType typed
  obtain ⟨_, _, popped, encloses⟩ := Scope.runs_bind_iff.1 pops
  obtain ⟨args, rest, stack, held, described⟩ := Scope.exists_cells_of_popAll popped known
  obtain ⟨_, _, enclosed, pushed⟩ := Scope.runs_bind_iff.1 encloses
  obtain ⟨rfl, accepted⟩ := Scope.runs_enclosed_iff.1 enclosed
  -- Both a branch to the block and its end go on with its results, after it.
  have onEnd : Scope.Resumes { c with labels } signature.results m.code rest results := fun cells given =>
    ⟨after, Scope.describe_of_pushAll pushed described given, leads.accepted⟩
  unfold exec
  simp only [Scope.blockArity_eq program leads.inside.types typed]
  exact enter_typed leads stack held accepted onEnd onEnd

theorem loop_typed {type : BlockType} {body : List Instr}
    (ran : (Scope.instr { c with labels } (.loop type body)).Runs s () after) :
    (exec p budget m (.loop type body)).Typed env wanted := by
  rw [Scope.instr] at ran
  obtain ⟨signature, _, typed, pops⟩ := Scope.runs_bind_iff.1 (Scope.runs_of_still Scope.eq_of_runs_inFunction ran)
  obtain ⟨rfl, anywhere⟩ := Scope.runs_blockType typed
  obtain ⟨_, _, popped, encloses⟩ := Scope.runs_bind_iff.1 pops
  obtain ⟨args, rest, stack, held, described⟩ := Scope.exists_cells_of_popAll popped known
  obtain ⟨_, middle, enclosed, pushed⟩ := Scope.runs_bind_iff.1 encloses
  obtain ⟨rfl, accepted⟩ := Scope.runs_enclosed_iff.1 enclosed
  have onEnd : Scope.Resumes { c with labels } signature.results m.code rest results := fun cells given =>
    ⟨after, Scope.describe_of_pushAll pushed described given, leads.accepted⟩
  -- A branch starts the loop again, on its parameters over what was under them.
  have onBranch : Scope.Resumes { c with labels } signature.params (.loop type body :: m.code) rest results := by
    intro cells given
    have again : (Scope.pushed { c with labels } signature.params middle).Describe (cells ++ rest) :=
      Scope.describe_of_pushAll (Scope.runs_pushAll_iff.2 rfl) described given
    refine ⟨_, again, Scope.accepts_cons_iff.2 ⟨after, ?_, leads.accepted⟩⟩
    rw [Scope.instr]
    exact Scope.runs_bind_iff.2 ⟨(), _, Scope.runs_inFunction leads.inside.running, Scope.runs_bind_iff.2 ⟨signature, _, anywhere _,
      Scope.runs_bind_iff.2 ⟨(), _, Scope.runs_popAll_pushed, encloses⟩⟩⟩
  unfold exec
  simp only [Scope.blockArity_eq program leads.inside.types typed]
  split
  · trivial
  · exact enter_typed leads stack held accepted onBranch onEnd

theorem cond_typed {type : BlockType} {onTrue onFalse : List Instr}
    (ran : (Scope.instr { c with labels } (.cond type onTrue onFalse)).Runs s () after) :
    (exec p budget m (.cond type onTrue onFalse)).Typed env wanted := by
  rw [Scope.instr] at ran
  obtain ⟨signature, _, typed, takes⟩ := Scope.runs_bind_iff.1 (Scope.runs_of_still Scope.eq_of_runs_inFunction ran)
  obtain ⟨rfl, _⟩ := Scope.runs_blockType typed
  obtain ⟨_, _, taken, pops⟩ := Scope.runs_bind_iff.1 takes
  obtain ⟨condition, below, stack, _, described⟩ := Scope.exists_cell_of_take taken known
  obtain ⟨_, _, popped, encloses⟩ := Scope.runs_bind_iff.1 pops
  obtain ⟨args, rest, rfl, held, described⟩ := Scope.exists_cells_of_popAll popped described
  -- Both bodies were checked on the same operands and to the same label.
  obtain ⟨_, _, first, others⟩ := Scope.runs_bind_iff.1 encloses
  obtain ⟨rfl, accepted⟩ := Scope.runs_enclosed_iff.1 first
  obtain ⟨_, _, second, pushed⟩ := Scope.runs_bind_iff.1 others
  obtain ⟨rfl, accepted'⟩ := Scope.runs_enclosed_iff.1 second
  -- Both a branch to the block and its end go on with its results, after it.
  have onEnd : Scope.Resumes { c with labels } signature.results m.code rest results := fun cells given =>
    ⟨after, Scope.describe_of_pushAll pushed described given, leads.accepted⟩
  unfold exec
  simp only [stack, Scope.blockArity_eq program leads.inside.types typed]
  split
  · exact enter_typed (leads.onStack _) rfl held accepted' onEnd onEnd
  · exact enter_typed (leads.onStack _) rfl held accepted onEnd onEnd

end

end Machine

end WasmHost.Wasm
