import WasmHost.Proofs.Wasm.Checked
import WasmHost.Proofs.Wasm.Preservation
import WasmHost.Proofs.Wasm.TypeTables

/-! Valid modules that are linked are typed, and so are the stores that their instances start with. -/

namespace WasmHost.Wasm

open Validation

variable {ε : Type}

/-! ### Constant expressions -/

section

variable {c : Scope} {s after : Operands} {stack : List Nat} {i : Instr}

/-- An instruction of a constant expression is a constant one. -/
theorem Scope.constant_of_runs (constant : c.constant = true) (ran : (c.instr i).Runs s () after) :
    Scope.isConstant i = true ∧ (c.plain i).Runs s () after := by
  unfold Scope.instr at ran
  split at ran
  case h_5 =>
    obtain ⟨allowed, ran⟩ := Scope.runs_unless_iff.1 ran
    exact ⟨by simpa [constant] using allowed, ran⟩
  -- No block is.
  all_goals
    obtain ⟨_, _, inside, _⟩ := Scope.runs_bind_iff.1 ran
    rw [Scope.inFunction, if_pos constant] at inside
    exact absurd inside Scope.not_runs_fail

/-- Constant computations always give something. -/
theorem NumericOp.exists_of_isConstant {op : NumericOp} {args rest : List Nat} (constant : op.isConstant)
    (held : HoldAll op.signature.1.reverse args) : ∃ left, op.apply (args ++ rest) = .ok left := by
  unfold isConstant at constant
  split at constant
  case h_4 => cases constant
  all_goals
    obtain ⟨b, a, rfl, _⟩ := HoldAll.exists_two held
    exact ⟨_, rfl⟩

namespace Linked

/-- A constant instruction leaves what its check says. With no imported globals, none can be read. -/
theorem describe_of_eval {globals : Array Nat} (fixed : c.constant = true) (heap : c.features.heapTypes = false)
    (alone : c.importedGlobals = 0) (ran : (c.instr i).Runs s () after) (known : s.Describe stack) :
    after.Describe (constant.eval globals stack i) := by
  obtain ⟨allowed, plain⟩ := Scope.constant_of_runs fixed ran
  -- What is constant is a value, a reference or a sum, difference or product; everything else is refused by the
  -- check.
  cases i with
  | const value =>
    have pushed := Scope.runs_of_still Scope.eq_of_runs_lift plain
    exact Scope.describe_of_push pushed known value.holds_bits
  -- Only imported globals may be read here, and there are none.
  | globalGet index =>
    obtain ⟨global, _, checks⟩ := Scope.runs_find_bind_iff.1 plain
    dsimp only at checks
    rw [if_pos fixed] at checks
    obtain ⟨_, checks⟩ := Scope.runs_unless_iff.1 checks
    obtain ⟨imported, _⟩ := Scope.runs_unless_iff.1 checks
    exact absurd ⟨by omega, by simp [heap]⟩ imported
  | refNull heap =>
    have pushed := Scope.runs_of_still Scope.eq_of_runs_lift plain
    exact Scope.describe_of_push pushed known trivial
  | refFunc index =>
    obtain ⟨_, _, checks⟩ := Scope.runs_find_bind_iff.1 plain
    obtain ⟨_, pushed⟩ := Scope.runs_unless_iff.1 checks
    exact Scope.describe_of_push pushed known trivial
  | numeric op =>
    obtain ⟨args, rest, rfl, held, gives⟩ := Scope.exists_cells_of_apply plain known
    obtain ⟨left, computed⟩ := NumericOp.exists_of_isConstant allowed held
    obtain ⟨given, rfl, holds⟩ := NumericOp.exists_results held computed
    have value : constant.eval globals (args ++ rest) (.numeric op) = given ++ rest := by
      rw [constant.eval, computed]
      rfl
    rw [value]
    exact gives given holds
  -- Heap types are a feature that is off.
  | heap op =>
    obtain ⟨_, _, required, _⟩ := Scope.runs_bind_iff.1 plain
    obtain ⟨accepted, _⟩ := Scope.runs_lift_iff.1 required
    rw [heap] at accepted
    cases accepted
  | _ => cases allowed

/-- Constant code leaves what its check says. -/
theorem holdAll_foldl {code : List Instr} {results : List ValType} {globals : Array Nat} (fixed : c.constant = true)
    (heap : c.features.heapTypes = false) (alone : c.importedGlobals = 0) (accepted : c.Accepts code s results)
    (known : s.Describe stack) : HoldAll results.reverse (code.foldl (constant.eval globals) stack) := by
  induction code generalizing s stack with
  | nil => exact accepted.holdAll known
  | cons i code ih =>
    obtain ⟨middle, ran, rest⟩ := Scope.accepts_cons_iff.1 accepted
    exact ih rest (describe_of_eval fixed heap alone ran known)

theorem holds_of_checkBody {code : List Instr} {type : ValType} {globals : Array Nat} (checked : c.checkBody code = .ok ())
    (fixed : c.constant = true) (heap : c.features.heapTypes = false) (alone : c.importedGlobals = 0)
    (gives : c.results = [type]) : type.Holds (constant globals code) := by
  obtain ⟨⟨_, last⟩, ran, _⟩ := bind_eq_ok checked
  obtain ⟨_, accepted⟩ := Scope.runs_enclosed_iff.1 ran
  -- Constant code is evaluated from no operands, and leaves what it was accepted for.
  have held : HoldAll c.results.reverse (code.foldl (constant.eval globals) []) :=
    holdAll_foldl fixed heap alone accepted ⟨rfl, .nil⟩
  rw [gives] at held
  obtain ⟨cell, left, holds⟩ := HoldAll.exists_one held
  rw [constant, left]
  exact holds

/-- The value of a constant expression has the type that it is checked for. -/
theorem holds_constant {code : List Instr} {type : ValType} {count : Nat} {globals : Array Nat}
    (heap : c.features.heapTypes = false) (alone : c.importedGlobals = 0)
    (checked : checkConstant c count type code = .ok ()) : type.Holds (constant globals code) :=
  holds_of_checkBody checked rfl heap alone rfl

end Linked

end

/-! ### Programs -/

section

variable {f : Features} {types : TypeTable} {m : Module} {host : List (HostFunction ε)}

/-- Runs of locals have as many locals as their lengths say. -/
theorem foldl_locals (runs : List (Nat × ValType)) (start : Nat) : runs.foldl (fun sum run => sum + run.1) start =
    start + (runs.flatMap fun run => List.replicate run.1 run.2).length := by
  induction runs generalizing start with
  | nil => rfl
  | cons run runs ih =>
    rw [List.foldl_cons, ih, List.flatMap_cons, List.length_append, List.length_replicate, Nat.add_assoc]

/-- The body of a function that is checked makes a typed function. -/
theorem guest_typed {typeIndex : Nat} {body : FunctionBody} (checked : checkBody (scope f types m) typeIndex body = .ok ()) :
    ∃ type, types.func? typeIndex = some type ∧ Function.Typed (scope f types m)
      (.guest type (types.representative typeIndex) (body.locals.foldl (fun sum run => sum + run.1) 0) body.code :
        Function ε) := by
  unfold checkBody at checked
  split at checked
  · cases checked
  · rename_i type defined
    obtain ⟨_, checked⟩ := check_bind_eq_ok_iff.1 checked
    obtain ⟨_, checked⟩ := check_bind_eq_ok_iff.1 checked
    obtain ⟨⟨_, last⟩, ran, _⟩ := bind_eq_ok checked
    obtain ⟨_, accepted⟩ := Scope.runs_enclosed_iff.1 ran
    -- The scope of the body knows the parameters and, behind them, the locals that it declares.
    let declared := body.locals.flatMap fun run => List.replicate run.1 run.2
    let inner : Scope := { scope f types m with
      locals := (type.params ++ declared).toArray, results := type.results, labels := [type.results] }
    refine ⟨type, defined, ⟨typeIndex, defined, rfl⟩, inner, declared, _, ⟨rfl, rfl, rfl, rfl⟩, rfl, rfl, ?_, accepted⟩
    rw [foldl_locals, Nat.zero_add]

/-- What an import is resolved to has the type that it asks for. -/
theorem host_typed (silent : ∀ h ∈ host, h.type.results = []) {i : Import} {function : Function ε}
    (resolved : Linked.resolve host types i = .ok function) : ∃ typeIndex, i.type = .func typeIndex ∧
      types.func? typeIndex = some function.type ∧ function.Typed (scope f types m) := by
  unfold Linked.resolve at resolved
  dsimp only at resolved
  split at resolved
  · cases resolved
  · rename_i typeIndex type wanted
    split at resolved
    · rename_i offered found
      cases resolved
      cases asked : i.type with
      | func index =>
        rw [asked] at wanted
        obtain ⟨type', defined, same⟩ := Option.map_eq_some_iff.1 wanted
        cases same
        -- What is found has the wanted type, and like all host functions it gives nothing.
        refine ⟨_, rfl, defined, ⟨_, defined, rfl⟩, ?_⟩
        have gives := silent offered (List.mem_of_find?_eq_some found)
        have equal := List.find?_some found
        rw [decide_eq_true_iff] at equal
        exact equal.2.2 ▸ gives
      -- Only functions are offered.
      | table _ | memory _ | global _ | tag _ =>
        rw [asked] at wanted
        cases wanted
    · cases resolved

/-- The functions that a module defines, over some types. -/
def definedFunctions (types : TypeTable) (m : Module) : List (Function ε) :=
  (m.functions.zip m.code).map fun pair =>
    .guest ((types.func? pair.1).getD ⟨[], []⟩) (types.representative pair.1)
      (pair.2.locals.foldl (fun sum run => sum + run.1) 0) pair.2.code

/-- A function is typed, with the type of an index. -/
def Function.TypedAs (env : Scope) (typeIndex : Nat) (function : Function ε) : Prop :=
  env.types.func? typeIndex = some function.type ∧ function.Typed env

/-- All imports are functions, and so they are the first functions of a program. -/
theorem forall₂_imported (silent : ∀ h ∈ host, h.type.results = []) {imports : List Import} {imported : List (Function ε)}
    (resolved : List.Forall₂ (fun i function => Linked.resolve host types i = .ok function) imports imported) :
    List.Forall₂ (Function.TypedAs (scope f types m)) (Module.importedFunctions { m with imports }) imported ∧
      Module.importedGlobals { m with imports } = [] := by
  -- Each import is resolved to a function of its type, and none of them is a global.
  induction resolved with
  | nil => exact ⟨.nil, rfl⟩
  | cons first _ ih =>
    obtain ⟨typeIndex, asked, defined, typed⟩ := host_typed (f := f) (m := m) silent first
    unfold Module.importedFunctions Module.importedGlobals at ih ⊢
    rw [List.filterMap_cons, List.filterMap_cons, asked]
    exact ⟨.cons ⟨defined, typed⟩ ih.1, ih.2⟩

theorem forall₂_defined {functions : List Nat} {code : List FunctionBody} (length : functions.length = code.length)
    (bodies : ∀ pair ∈ functions.zip code, checkBody (scope f types m) pair.1 pair.2 = .ok ()) :
    List.Forall₂ (Function.TypedAs (scope f types m)) functions
      (definedFunctions types { m with functions, code } : List (Function ε)) := by
  -- The function section and the code section are as long as each other, and go together one by one.
  induction functions generalizing code with
  | nil => exact .nil
  | cons typeIndex functions ih =>
    obtain ⟨body, code, rfl⟩ := List.exists_cons_of_length_eq_add_one length.symm
    rw [List.zip_cons_cons, List.forall_mem_cons] at bodies
    obtain ⟨type, defined, typed⟩ := @guest_typed ε _ _ _ _ _ bodies.1
    have there : (types.func? typeIndex).getD ⟨[], []⟩ = type := by rw [defined, Option.getD_some]
    refine .cons ⟨?_, ?_⟩ (ih (Nat.succ.inj length) bodies.2)
    · show types.func? typeIndex = some ((types.func? typeIndex).getD ⟨[], []⟩)
      rw [there, defined]
    · dsimp only
      rw [there]
      exact typed

variable {capacity : Capacity} {l : Linked ε} (checked : m.Checked f types) (silent : ∀ h ∈ host, h.type.results = [])
  (linked : Linked.link host capacity m = .ok l)
include checked linked

/-- The functions of a program are those that are imported and those that are defined, over the types of the check. -/
theorem exists_imported_of_link : ∃ imported, m.imports.mapM (Linked.resolve host types) = .ok imported ∧
    l.program.functions = (imported ++ definedFunctions types m).toArray ∧
    l.program.types = types.types.map Linked.funcType ∧ l.program.representatives = types.representatives ∧
    l.module = m ∧ l.capacity = capacity := by
  -- Linking reads the types with all features, which are the types that the check has read.
  have table : (TypeTable.ofGroups .all m.types).toOption.getD .empty = types := by
    rw [TypeTable.ofGroups_all checked.grouped]
    rfl
  unfold Linked.link at linked
  dsimp only at linked
  rw [table] at linked
  obtain ⟨imported, resolved, done⟩ := bind_eq_ok linked
  cases done
  exact ⟨imported, resolved, rfl, rfl, rfl, rfl, rfl⟩

include silent

/-- The functions of a program are typed, in the order of their indices. -/
theorem forall₂_functions : List.Forall₂ (Function.TypedAs (scope f types m)) m.functionTypes l.program.functions.toList ∧
    m.importedGlobals = [] := by
  obtain ⟨imported, resolved, functions, _⟩ := exists_imported_of_link checked linked
  obtain ⟨first, none⟩ := forall₂_imported (f := f) (m := m) silent (forall₂_of_mapM resolved)
  rw [functions]
  exact ⟨List.rel_append first (forall₂_defined checked.bodies checked.code), none⟩

/-- A valid module that is linked is a typed program. -/
theorem program_typed : l.program.Typed (scope f types m) := by
  obtain ⟨_, _, _, known, representatives, _⟩ := exists_imported_of_link checked linked
  obtain ⟨functions, _⟩ := forall₂_functions checked silent linked
  have canonical := TypeTable.canonical_of_ofGroups checked.grouped
  refine ⟨fun index type defined => ?_, representatives, fun a b same => ?_, fun index typeIndex type named defined => ?_,
    fun function member => ?_⟩
  · -- The types of the program are the function types of the table.
    rw [known, Array.getElem?_map]
    change types.func? index = some type at defined
    unfold TypeTable.func? TypeTable.get? at defined
    split at defined
    · rename_i found
      cases defined
      rw [found]
      rfl
    · cases defined
  · -- Types with one representative are equal.
    show types.func? a = types.func? b
    have equal : types.get? a = types.get? b := by
      rw [← canonical.same a, ← canonical.same b]
      exact congrArg types.get? same
    rw [TypeTable.func?, equal, TypeTable.func?]
  · -- A function index of the module is one of the program.
    have there : m.functionTypes[index]? = some typeIndex := by simpa [scope] using named
    obtain ⟨function, found, defined', _⟩ := exists_getElem?_of_forall₂ functions there
    exact ⟨function, by simpa using found, Option.some.inj (defined'.symm.trans defined)⟩
  · -- Each function is an import or one that is defined, and both were typed.
    obtain ⟨place, there⟩ := List.getElem?_of_mem (Array.mem_toList_iff.2 member)
    obtain ⟨_, _, _, typed⟩ := exists_getElem?_of_forall₂ functions.flip there
    exact typed

end

/-! ### Stores -/

namespace Linked

/-- Globals are given their values one after another. -/
theorem holdAll_globals {globals : List GlobalDef} {before : List ValType} {values : Array Nat}
    (each : ∀ g ∈ globals, ∀ earlier, g.type.type.Holds (constant earlier g.init)) (held : HoldAll before values.toList) :
    HoldAll (before ++ globals.map (·.type.type))
      (globals.foldl (fun earlier g => earlier.push (constant earlier g.init)) values).toList := by
  induction globals generalizing before values with
  | nil => simpa using held
  | cons g globals ih =>
    rw [List.forall_mem_cons] at each
    -- A global may be initialized by earlier ones, whose types are known already.
    have next : HoldAll (before ++ [g.type.type]) (values.push (constant values g.init)).toList := by
      rw [Array.toList_push]
      exact List.rel_append held (HoldAll.one (each.1 values))
    simpa using ih each.2 next

variable {f : Features} {types : TypeTable} {m : Module} {l : Linked ε}

/-- Memories start within bounds. -/
theorem bounded_of_checkMemory {memory : MemoryType} (checked : checkMemory f memory = .ok ()) (pages : Nat) :
    (Memory.zeroed memory.limits.initial (min (memory.limits.maximum.getD 65536) pages)).Bounded := by
  unfold checkMemory at checked
  obtain ⟨_, checked⟩ := check_bind_eq_ok_iff.1 checked
  obtain ⟨bounds, _⟩ := check_bind_eq_ok_iff.1 checked
  -- Both the initial and the greatest number of pages are within the address space.
  obtain ⟨initial, maximum⟩ : memory.limits.initial ≤ maxPages ∧ memory.limits.maximum.all (· ≤ maxPages) := by
    simpa using demand_eq_ok_iff.1 bounds
  refine ⟨by simpa [Memory.zeroed, maxPages] using initial, (Nat.min_le_left _ _).trans ?_⟩
  cases most : memory.limits.maximum with
  | none => exact Nat.le_refl _
  | some count =>
    rw [most] at maximum
    exact of_decide_eq_true maximum

/-- And so do tables. -/
theorem bounded_of_checkTableDef {table : TableDef} {item elements : Nat}
    (checked : checkTableDef (scope f types m) table = .ok ()) (few : elements < 2 ^ 32) (most : Nat) :
    Table.Bounded { elements := Array.replicate table.type.limits.initial item, limit := min most elements } := by
  unfold checkTableDef at checked
  obtain ⟨checked, _⟩ := check_bind_eq_ok_iff.1 checked
  unfold checkTable at checked
  obtain ⟨_, checked⟩ := check_bind_eq_ok_iff.1 checked
  obtain ⟨_, bounds⟩ := check_bind_eq_ok_iff.1 checked
  -- The initial number of elements is checked, and the greatest one is the capacity's.
  have initial : table.type.limits.initial ≤ maxTableEntries := by simpa using demand_eq_ok_iff.1 bounds
  refine ⟨?_, (Nat.min_le_right _ _).trans_lt few⟩
  rw [Array.size_replicate]
  exact initial.trans_lt (by decide)

section

variable (checked : m.Checked f types) (heap : f.heapTypes = false) (none : m.importedGlobals = [])
include checked heap none

theorem emptyStore_typed (same : l.module = m) (few : l.capacity.tableElements < 2 ^ 32) :
    l.emptyStore.Typed (scope f types m) := by
  subst same
  refine ⟨?_, fun memory member => ?_, fun table member => ?_⟩
  · -- Initial values are constants that were checked against the types of the globals.
    have each : ∀ g ∈ l.module.globals, ∀ earlier, g.type.type.Holds (constant earlier g.init) := by
      intro g member earlier
      obtain ⟨place, there⟩ := List.getElem?_of_mem member
      have passed := checked.globals (g, place) (List.mk_mem_zipIdx_iff_getElem?.2 there)
      obtain ⟨_, value⟩ := check_bind_eq_ok_iff.1 passed
      exact holds_constant heap (by simp [scope, none]) value
    have globals : HoldAll ([] ++ l.module.globals.map (·.type.type)) l.emptyStore.globals.toList :=
      holdAll_globals each .nil
    simpa [scope, Module.globalTypes, none] using globals
  · obtain ⟨type, declared, rfl⟩ : ∃ type ∈ l.module.memories, _ = memory := by simpa [emptyStore] using member
    exact bounded_of_checkMemory (checked.memories type declared) _
  · obtain ⟨type, declared, rfl⟩ : ∃ type ∈ l.module.tables, _ = table := by simpa [emptyStore] using member
    exact bounded_of_checkTableDef (checked.tables type declared) few _

end

variable {env : Scope} {store after : Store} {place : Nat}

/-- Segments are copied into tables and memories that keep their sizes. -/
theorem placeElements_typed {segment : ElementSegment} (typed : store.Typed env)
    (placed : placeElements store segment place = .ok after) : after.Typed env := by
  unfold placeElements at placed
  split at placed
  · cases placed
    exact typed
  · cases placed
    exact ⟨typed.globals, typed.memories, typed.tables⟩
  · -- An active segment is written into a table if it fits.
    dsimp only at placed
    split at placed
    · cases placed
      exact ⟨typed.globals, typed.memories, forall_mem_modify typed.tables fun _ _ bounded => bounded.write _⟩
    · cases placed

theorem placeData_typed {segment : DataSegment} (typed : store.Typed env)
    (placed : placeData store segment place = .ok after) : after.Typed env := by
  unfold placeData at placed
  split at placed
  · cases placed
    exact typed
  · cases placed
    exact typed
  · -- An active segment is written into a memory if it fits.
    dsimp only at placed
    split at placed
    · cases placed
      exact ⟨typed.globals, forall_mem_modify typed.memories fun _ _ bounded => bounded.write _, typed.tables⟩
    · cases placed

/-- An instance starts with a typed store. -/
theorem freshStore_typed (checked : m.Checked f types) (heap : f.heapTypes = false) (none : m.importedGlobals = [])
    (same : l.module = m) (few : l.capacity.tableElements < 2 ^ 32) (fresh : l.freshStore = .ok store) :
    store.Typed (scope f types m) := by
  rw [freshStore_eq] at fresh
  obtain ⟨middle, elements, data⟩ := bind_eq_ok fresh
  have filled : middle.Typed (scope f types m) :=
    holds_foldlM (fun _ _ _ typed => placeElements_typed typed) (emptyStore_typed checked heap none same few) elements
  exact holds_foldlM (fun _ _ _ typed => placeData_typed typed) filled data

end Linked

end WasmHost.Wasm
