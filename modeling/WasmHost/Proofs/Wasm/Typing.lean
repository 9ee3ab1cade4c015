import WasmHost.Proofs.Wasm.Operands
import WasmHost.Proofs.Wasm.Segments

/-! Machines that agree with the types of the code that they run. -/

namespace WasmHost.Wasm

/-- Memories have a limited number of pages. -/
structure Memory.Bounded (m : Memory) : Prop where
  pages : m.pages.size ≤ 65536
  limit : m.limit ≤ 65536

/-- Tables have a number of elements that can be written in 32 bits. -/
structure Table.Bounded (t : Table) : Prop where
  elements : t.elements.size < 2 ^ 32
  limit : t.limit < 2 ^ 32

namespace Memory.Bounded

variable {m : Memory} {address count : Nat}

theorem set (bounded : m.Bounded) (byte : UInt8) : (m.set address byte).Bounded :=
  ⟨by simpa [Memory.set] using bounded.pages, bounded.limit⟩

theorem store (bounded : m.Bounded) (value : Nat) : (m.store address count value).Bounded := by
  induction count generalizing m address value with
  | zero => exact bounded
  | succ count ih => exact ih (bounded.set _) _

theorem write (bounded : m.Bounded) (bytes : ByteArray) : (m.write address bytes).Bounded :=
  holds_fold Memory.Bounded bounded fun _ _ _ written => written.set _

theorem fill (bounded : m.Bounded) (byte : UInt8) : (m.fill address count byte).Bounded :=
  holds_fold Memory.Bounded bounded fun _ _ _ written => written.set _

/-- A memory does not grow over its limit. -/
theorem grow (bounded : m.Bounded) (can : m.canGrow count) : (m.grow count).Bounded := by
  have below : m.pages.size + count ≤ m.limit := by simpa [canGrow] using can
  exact ⟨by simpa [Memory.grow] using below.trans bounded.limit, bounded.limit⟩

end Memory.Bounded

namespace Table.Bounded

variable {t : Table} {start count item : Nat}

theorem write (bounded : t.Bounded) (items : Array Nat) : (t.write start items).Bounded :=
  ⟨by simpa using bounded.elements, bounded.limit⟩

theorem fill (bounded : t.Bounded) : (t.fill start count item).Bounded :=
  ⟨holds_fold (fun all : Array Nat => all.size < 2 ^ 32) bounded.elements fun _ _ _ below => by simpa using below,
    bounded.limit⟩

/-- Neither does a table. -/
theorem grow (bounded : t.Bounded) (can : t.canGrow count) : (t.grow count item).Bounded := by
  have below : t.elements.size + count ≤ t.limit := by simpa [canGrow] using can
  exact ⟨by simpa [Table.grow] using below.trans_lt bounded.limit, bounded.limit⟩

end Table.Bounded

/-- Globals hold values of their types, and sizes are numbers. -/
structure Store.Typed (env : Scope) (store : Store) : Prop where
  globals : HoldAll (env.globals.toList.map (·.type)) store.globals.toList
  memories : ∀ memory ∈ store.memories, memory.Bounded
  tables : ∀ table ∈ store.tables, table.Bounded

/-- What holds of all items holds after one of them is changed, if it holds of the changed one. -/
theorem forall_mem_modify {α : Type} {holds : α → Prop} {all : Array α} {index : Nat} {change : α → α}
    (each : ∀ a ∈ all, holds a) (changed : ∀ a, all[index]? = some a → holds a → holds (change a)) :
    ∀ a ∈ all.modify index change, holds a := by
  intro a member
  obtain ⟨place, inside, rfl⟩ := Array.mem_iff_getElem.1 member
  have inside' : place < all.size := by simpa using inside
  rw [Array.getElem_modify]
  -- The item at this index is the changed one, and all others are as before.
  split
  · rename_i same
    subst same
    exact changed _ (Array.getElem?_eq_getElem inside') (each _ (Array.getElem_mem inside'))
  · exact each _ (Array.getElem_mem inside')

namespace Store.Typed

variable {env : Scope} {store : Store} {index : Nat} (typed : store.Typed env)
include typed

theorem modifyMemory {change : Memory → Memory}
    (keeps : ∀ memory, store.memories[index]? = some memory → memory.Bounded → (change memory).Bounded) :
    Store.Typed env { store with memories := store.memories.modify index change } :=
  ⟨typed.globals, forall_mem_modify typed.memories keeps, typed.tables⟩

theorem modifyTable {change : Table → Table}
    (keeps : ∀ table, store.tables[index]? = some table → table.Bounded → (change table).Bounded) :
    Store.Typed env { store with tables := store.tables.modify index change } :=
  ⟨typed.globals, typed.memories, forall_mem_modify typed.tables keeps⟩

end Store.Typed

/-- A scope of code in functions of a module. -/
structure Scope.Inside (env c : Scope) : Prop where
  types : c.types = env.types
  functions : c.functions = env.functions
  globals : c.globals = env.globals
  running : c.constant = false

/-- Once there are cells of some types, code can go on with them, over others. -/
def Scope.Resumes (c : Scope) (given : List ValType) (code : List Instr) (below : List Nat) (results : List ValType) : Prop :=
  ∀ cells, HoldAll given.reverse cells → ∃ s, s.Describe (cells ++ below) ∧ c.Accepts code s results

/-- Blocks are open under labels. Branches and ends lead to code that goes on with what they carry. -/
inductive Scope.Opens (c : Scope) : List (List ValType) → List ValType → List Label → Prop
  /-- No block is open, and the end of the code is that of the function. -/
  | function : Opens c [c.results] c.results []
  /-- A block is open inside others. -/
  | block {labels : List (List ValType)} {branch ends results : List ValType} {label : Label} {outer : List Label}
      (opened : Opens c labels results outer) (arity : label.arity = branch.length)
      (onBranch : Scope.Resumes { c with labels } branch label.onBranch label.below results)
      (onEnd : Scope.Resumes { c with labels } ends label.onEnd label.below results) :
      Opens c (branch :: labels) ends (label :: outer)

/-- A function that waits for values of some types can go on with them. -/
structure Frame.Awaits (env c : Scope) (given : List ValType) (frame : Frame) : Prop where
  inside : env.Inside c
  locals : HoldAll c.locals.toList frame.locals.toList
  arity : frame.arity = c.results.length
  resumes : ∃ labels results, c.Opens labels results frame.labels ∧
    Scope.Resumes { c with labels } given frame.code frame.stack results

/-- Functions wait for values, and the last of them gives those that are wanted outside. -/
inductive Callers (env : Scope) (wanted : List ValType) : List ValType → List Frame → Prop
  /-- Only the outside waits. -/
  | outside {given : List ValType} (fits : ∀ cells, HoldAll given cells → HoldAll wanted cells) : Callers env wanted given []
  /-- A function waits. -/
  | frame {given : List ValType} {c : Scope} {frame : Frame} {frames : List Frame} (awaits : frame.Awaits env c given)
      (others : Callers env wanted c.results frames) : Callers env wanted given (frame :: frames)

namespace Machine

variable {ε : Type}

/-- The running function, as if it waited for nothing. -/
def frame (m : Machine ε) : Frame := ⟨m.code, m.stack, m.labels, m.locals, m.arity⟩

/-- A machine runs code that can go on with what is there, and in the end it gives values of the types that are wanted. -/
def Typed (env : Scope) (wanted : List ValType) (m : Machine ε) : Prop :=
  ∃ c, m.frame.Awaits env c [] ∧ Callers env wanted c.results m.callers ∧ m.store.Typed env

end Machine

/-- A step leads to such a machine, or to values of the wanted types, or to a failure. -/
def Step.Typed {ε : Type} (env : Scope) (wanted : List ValType) : Step ε → Prop
  | .next m => m.Typed env wanted
  | .done (.returned results) m => HoldAll wanted.reverse results ∧ m.store.Typed env
  | .done _ _ => True

/-- A function is one of a module: host functions give nothing back, and the code of others has the type of the function. -/
def Function.Typed {ε : Type} (env : Scope) (f : Function ε) : Prop :=
  (∃ index, env.types.func? index = some f.type ∧ f.typeIndex = env.types.representative index) ∧
  match f with
  | .host type .. => type.results = []
  | .guest type _ locals code => ∃ c declared initialized, env.Inside c ∧ c.results = type.results ∧
      c.locals.toList = type.params ++ declared ∧ declared.length = locals ∧
      Scope.Accepts { c with labels := [type.results] } code ⟨[], false, initialized⟩ type.results

/-- A program has the types and functions of a module. -/
structure Program.Typed {ε : Type} (env : Scope) (p : Program ε) : Prop where
  types : ∀ (index : Nat) (type : FuncType), env.types.func? index = some type → p.types[index]? = some type
  representatives : p.representatives = env.types.representatives
  canonical : ∀ a b, env.types.representative a = env.types.representative b → env.types.func? a = env.types.func? b
  named : ∀ (index typeIndex : Nat) (type : FuncType), env.functions[index]? = some typeIndex → env.types.func? typeIndex = some type →
    ∃ f : Function ε, p.functions[index]? = some f ∧ f.type = type
  functions : ∀ f ∈ p.functions, f.Typed env

variable {ε : Type} {env c : Scope} {wanted given : List ValType}

theorem Scope.Resumes.mono {code : List Instr} {below : List Nat} {given' results : List ValType}
    (resumes : c.Resumes given code below results) (fits : ∀ cells, HoldAll given' cells → HoldAll given cells) :
    c.Resumes given' code below results := by
  intro cells held
  exact resumes cells (HoldAll.reverse_iff.2 (fits _ (HoldAll.reverse_iff.1 held)))

/-- A function that waits takes what it gets. -/
theorem Frame.Awaits.receive {frame : Frame} {cells : List Nat} (awaits : frame.Awaits env c given)
    (held : HoldAll given.reverse cells) : Frame.Awaits env c [] { frame with stack := cells ++ frame.stack } := by
  obtain ⟨labels, results, opened, resumes⟩ := awaits.resumes
  refine ⟨awaits.inside, awaits.locals, awaits.arity, labels, results, opened, fun none empty => ?_⟩
  cases empty
  exact resumes cells held

theorem Callers.mono {given' : List ValType} {frames : List Frame} (callers : Callers env wanted given frames)
    (fits : ∀ cells, HoldAll given' cells → HoldAll given cells) : Callers env wanted given' frames := by
  cases callers with
  | outside fits' => exact .outside fun cells held => fits' cells (fits cells held)
  | frame awaits others =>
    obtain ⟨labels, results, opened, resumes⟩ := awaits.resumes
    exact .frame ⟨awaits.inside, awaits.locals, awaits.arity, labels, results, opened, resumes.mono fits⟩ others

namespace Machine

variable {m : Machine ε} {p : Program ε} {budget : Option Nat}

/-- When a function gives its results, the one that waits goes on, or they are those that are wanted. -/
theorem leave_typed (callers : Callers env wanted given m.callers) (store : m.store.Typed env)
    (held : HoldAll given.reverse (m.stack.take m.arity)) : m.leave.Typed env wanted := by
  unfold leave
  -- Nobody waits inside, so that the results go outside, or the caller goes on with them.
  cases waiting : m.callers with
  | nil =>
    rw [waiting] at callers
    cases callers with
    | outside fits =>
      exact ⟨HoldAll.reverse_iff.2 (fits _ (HoldAll.reverse_iff.1 held)), store⟩
  | cons frame frames =>
    rw [waiting] at callers
    cases callers with
    | frame awaits others => exact ⟨_, awaits.receive held, others, store⟩

end Machine

end WasmHost.Wasm
