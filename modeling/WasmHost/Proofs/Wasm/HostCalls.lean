import WasmHost.Proofs.Handle
import WasmHost.Proofs.Wasm.Limits
import WasmHost.Wasm.Instance

/-! Calls of host functions: they are all that a run reports, and they leave the store of the guest alone. -/

namespace WasmHost.Wasm

variable {ε : Type}

/-- The machine that a step leaves. -/
def Step.machine : Step ε → Machine ε
  | .next m | .done _ m => m

/-- A call of a function of the host. -/
structure HostCall (ε : Type) where
  /-- What the function reports. -/
  respond : Option Memory → List Nat → ε
  /-- Whether the code of a guest calls; if not, the call comes from outside. -/
  fromGuest : Bool
  /-- The store of the instance at this moment. -/
  store : Store
  /-- The arguments, first one first. -/
  arguments : List Nat

/-- What a call reports: only for a guest does the function see a memory. -/
def HostCall.event (p : Program ε) (c : HostCall ε) : ε :=
  c.respond (if c.fromGuest then p.hostMemory.bind (c.store.memories[·]?) else none) c.arguments

/-- The call of a host function that it is when a guest calls a function on some operands. -/
def Function.hostCall? (f : Function ε) (store : Store) (operands : List Nat) : Option (HostCall ε) :=
  match f with
  | .host type _ respond => some ⟨respond, true, store, (operands.take type.params.length).reverse⟩
  | .guest .. => none

namespace Machine

/-- The function that an instruction calls, and the operands on which it does. -/
def called? (p : Program ε) (m : Machine ε) : Instr → Option (Function ε × List Nat)
  | .call index | .returnCall index => (p.functions[index]?).map (·, m.stack)
  | .callIndirect type table | .returnCallIndirect type table =>
    match m.stack with
    | place :: rest => (m.callee p table type place).toOption.map (·, rest)
    | [] => none
  | _ => none

/-- The call of a host function that an instruction makes. -/
def instrHostCall? (p : Program ε) (m : Machine ε) (i : Instr) : Option (HostCall ε) :=
  (m.called? p i).bind fun (f, operands) => f.hostCall? m.store operands

/-- The call of a host function that the next step makes. -/
def hostCall? (p : Program ε) (m : Machine ε) : Option (HostCall ε) :=
  match m.code with
  | i :: _ => m.instrHostCall? p i
  | [] => none

/-- The calls of host functions along a run, in order. -/
def hostCalls (p : Program ε) (budget : Option Nat) (m : Machine ε) : Nat → List (HostCall ε)
  | 0 => []
  | steps + 1 =>
    (m.hostCall? p).toList ++
      match step p budget m with
      | .next m => hostCalls p budget m steps
      | .done _ _ => []

end Machine

/-- The calls of host functions after a step, up to a number of further steps. -/
def Step.hostCalls (p : Program ε) (budget : Option Nat) (steps : Nat) : Step ε → List (HostCall ε)
  | .next m => m.hostCalls p budget steps
  | .done _ _ => []

/-- A step reports one call of a host function, leaves the store alone, and goes on or returns. -/
structure Step.Reports (p : Program ε) (events : List ε) (store : Store) (c : HostCall ε) (outcome : Step ε) : Prop where
  event : outcome.machine.events = c.event p :: events
  store : outcome.machine.store = store
  goesOn : (∃ m, outcome = .next m) ∨ ∃ results m, outcome = .done (.returned results) m

/-- What a step does about host functions: it reports the call that it makes, if it makes one. -/
def Step.Follows (p : Program ε) (events : List ε) (store : Store) (outcome : Step ε) : Option (HostCall ε) → Prop
  | some c => outcome.Reports p events store c
  | none => outcome.machine.events = events

namespace Machine

variable (p : Program ε) (budget : Option Nat) {m : Machine ε}

/-- Leaving a function reports nothing and changes no store. -/
theorem leave_quiet (m : Machine ε) : m.leave.machine.events = m.events ∧ m.leave.machine.store = m.store := by
  unfold leave
  cases m.callers <;> exact ⟨rfl, rfl⟩

/-- It goes on or returns. -/
theorem leave_goesOn (m : Machine ε) :
    (∃ next, m.leave = .next next) ∨ ∃ results last, m.leave = .done (.returned results) last := by
  unfold leave
  cases m.callers with
  | nil => exact .inr ⟨_, _, rfl⟩
  | cons frame callers => exact .inl ⟨_, rfl⟩

theorem branch_quiet (m : Machine ε) (depth : Nat) : (m.branch depth).machine.events = m.events := by
  unfold branch
  cases m.labels.drop depth with
  | nil => exact (leave_quiet m).1
  | cons label outer => rfl

/-- A call of a guest function reports nothing; one of a host function reports itself. -/
theorem call_follows (f : Function ε) (m : Machine ε) :
    (m.call p budget f).Follows p m.events m.store (f.hostCall? m.store m.stack) := by
  cases f with
  | host type index respond => exact ⟨rfl, rfl, .inl ⟨_, rfl⟩⟩
  -- A guest function runs into its limit, or starts.
  | guest type index locals code =>
    show (m.call p budget _).machine.events = m.events
    simp only [call]
    split
    · rfl
    · split <;> rfl

/-- So does a call in place of the running function, which the host function returns from. -/
theorem tailCall_follows (f : Function ε) (m : Machine ε) :
    (m.tailCall p budget f).Follows p m.events m.store (f.hostCall? m.store m.stack) := by
  cases f with
  -- The host function is called, and then the running function returns.
  | host type index respond =>
    obtain ⟨event, store⟩ := leave_quiet { m with
      stack := m.stack.drop type.params.length
      events := respond (p.hostMemory.bind (m.store.memories[·]?)) (m.stack.take type.params.length).reverse :: m.events }
    exact ⟨event, store, leave_goesOn _⟩
  | guest type index locals code =>
    show (m.tailCall p budget _).machine.events = m.events
    simp only [tailCall]
    split <;> rfl

/-- Instructions on tables report nothing. -/
theorem tableInstr_quiet (m : Machine ε) (i : Instr) : (m.tableInstr i).machine.events = m.events := by
  fun_cases tableInstr <;> rfl

theorem memoryInstr_quiet (m : Machine ε) (i : Instr) : (m.memoryInstr i).machine.events = m.events := by
  fun_cases memoryInstr <;> rfl

theorem compute_quiet (m : Machine ε) (result : Except Trap (List Nat)) : (m.compute result).machine.events = m.events := by
  cases result <;> rfl

/-- A write that succeeds reports nothing. -/
theorem events_of_write {arg : MemArg} {address count value : Nat} {next : Machine ε}
    (written : m.write arg address count value = .ok next) : next.events = m.events := by
  simp only [write] at written
  split at written
  · cases written
    rfl
  · cases written

theorem vectorInstr_quiet (m : Machine ε) (i : Instr) : (m.vectorInstr i).machine.events = m.events := by
  fun_cases vectorInstr with
  | case4 | case7 => exact compute_quiet m _
  | case5 _ _ _ _ _ _ written | case8 _ _ _ _ _ _ _ _ written =>
    have same := events_of_write written
    exact same
  | _ => rfl

/-- An instruction that calls nothing reports nothing. -/
theorem exec_quiet {i : Instr} (none : m.called? p i = none) : (exec p budget m i).machine.events = m.events := by
  -- Only calls report anything, and an instruction that calls nothing has none to make.
  cases i with
  | call index | returnCall index =>
    have missing : p.functions[index]? = Option.none := by simpa [called?] using none
    simp only [exec, missing]
    rfl
  | callIndirect type table | returnCallIndirect type table =>
    simp only [exec]
    cases operands : m.stack with
    | nil => rfl
    -- If the slot held a function, that would be called.
    | cons place rest =>
      cases found : m.callee p table type place with
      | error t => simp only [found]; rfl
      | ok f => simp [called?, operands, found, Except.toOption] at none
  | br depth => exact branch_quiet m depth
  | ret => exact (leave_quiet m).1
  | brIf depth =>
    simp only [exec]
    cases m.stack with
    | nil => rfl
    | cons condition rest =>
      dsimp only
      split
      · rfl
      · exact branch_quiet _ depth
  | brTable depths otherwise =>
    simp only [exec]
    cases m.stack with
    | nil => rfl
    | cons choice rest => exact branch_quiet _ _
  | store op arg =>
    simp only [exec]
    split
    · split
      · rename_i written
        have same := events_of_write written
        exact same
      · rfl
    · rfl
  | load op arg =>
    simp only [exec]
    split
    · exact compute_quiet _ _
    · rfl
  | numeric op => exact compute_quiet m _
  | vector op => exact compute_quiet m _
  | tableGet | tableSet | tableSize | tableGrow | tableFill | tableCopy | tableInit | elemDrop =>
    simp only [exec]
    exact tableInstr_quiet m _
  | memorySize | memoryGrow | memoryFill | memoryCopy | memoryInit | dataDrop =>
    simp only [exec]
    exact memoryInstr_quiet m _
  | vectorShuffle | vectorExtract | vectorReplace | vectorLoad | vectorStore | vectorLoadLane | vectorStoreLane =>
    simp only [exec]
    exact vectorInstr_quiet m _
  | loop | cond | select | localSet | localTee | globalSet | refIsNull =>
    simp only [exec]
    split <;> rfl
  | _ => rfl

/-- An instruction that calls a function does so in one of two ways. -/
theorem exec_of_called {i : Instr} {f : Function ε} {operands : List Nat} (calls : m.called? p i = some (f, operands)) :
    exec p budget m i = { m with stack := operands }.call p budget f ∨
      exec p budget m i = { m with stack := operands }.tailCall p budget f := by
  -- A call keeps the running function among the callers, and a tail call does not.
  cases i with
  | call index | returnCall index =>
    obtain ⟨_, found, same⟩ := Option.map_eq_some_iff.1 calls
    cases same
    simp only [exec, found, true_or, or_true]
  | callIndirect type table | returnCallIndirect type table =>
    simp only [called?] at calls
    cases stack : m.stack with
    | nil => simp [stack] at calls
    | cons place rest =>
      rw [stack] at calls
      obtain ⟨_, found, same⟩ := Option.map_eq_some_iff.1 calls
      cases same
      simp only [exec, stack, eq_ok_of_toOption found, true_or, or_true]
  | _ => cases calls

/-- An instruction reports the call of a host function that it makes, if it makes one. -/
theorem exec_follows (m : Machine ε) (i : Instr) :
    (exec p budget m i).Follows p m.events m.store (m.instrHostCall? p i) := by
  cases calls : m.called? p i with
  | none =>
    rw [instrHostCall?, calls]
    exact exec_quiet p budget calls
  -- Both kinds of calls follow the function that is called.
  | some callee =>
    rw [instrHostCall?, calls]
    rcases exec_of_called p budget calls with plain | tail
    · rw [plain]
      exact call_follows p budget callee.1 { m with stack := callee.2 }
    · rw [tail]
      exact tailCall_follows p budget callee.1 { m with stack := callee.2 }

/-- So does a step. -/
theorem step_follows (m : Machine ε) : (step p budget m).Follows p m.events m.store (m.hostCall? p) := by
  cases code : m.code with
  | cons i rest =>
    have follows := exec_follows p budget { m with code := rest, charged := m.charged + i.cost } i
    simp only [step, hostCall?, code]
    exact follows
  -- At the end of its code a machine leaves a block or the function, and calls nothing.
  | nil =>
    simp only [step, hostCall?, code]
    cases m.labels with
    | nil => exact (leave_quiet m).1
    | cons label outer => rfl

/-- A step reports what its call of a host function reports. -/
theorem step_events (m : Machine ε) :
    (step p budget m).machine.events = ((m.hostCall? p).toList.map (·.event p)).reverse ++ m.events := by
  have follows := step_follows p budget m
  -- A step makes one call of a host function or none.
  cases call : m.hostCall? p with
  | none =>
    rw [call] at follows
    exact follows
  | some c =>
    rw [call] at follows
    exact follows.event

theorem hostCalls_succ (steps : Nat) (m : Machine ε) :
    m.hostCalls p budget (steps + 1) = (m.hostCall? p).toList ++ (step p budget m).hostCalls p budget steps := by
  rw [hostCalls]
  cases step p budget m <;> rfl

/-- What is left of a run after a step reports what its calls report, if runs of that many steps do. -/
theorem proceed_events {steps : Nat} (outcome : Step ε)
    (runs : ∀ m, (run p budget steps m).2.events = ((m.hostCalls p budget steps).map (·.event p)).reverse ++ m.events) :
    (proceed p budget steps outcome).2.events =
      ((outcome.hostCalls p budget steps).map (·.event p)).reverse ++ outcome.machine.events := by
  cases outcome with
  | next m => exact runs m
  | done ending m => rfl

/-- A run reports what its calls of host functions report, the latest first. -/
theorem run_events (steps : Nat) (m : Machine ε) :
    (run p budget steps m).2.events = ((m.hostCalls p budget steps).map (·.event p)).reverse ++ m.events := by
  -- The calls of the steps that follow are reported on top of those of this step.
  induction steps generalizing m with
  | zero => rfl
  | succ steps ih =>
    rw [run_succ, hostCalls_succ, proceed_events p budget _ ih, step_events]
    simp

variable {p}

/-- What an indirect call finds is a function of the program. -/
theorem mem_of_callee {table typeIndex place : Nat} {f : Function ε} (found : m.callee p table typeIndex place = .ok f) :
    f ∈ p.functions := by
  unfold callee at found
  split at found
  · -- Outside the table, or without an element, nothing is found.
    cases found
  · cases found
  · split at found
    · cases found
    · split at found
      · cases found
        exact Array.mem_of_getElem? ‹_›
      · cases found

/-- A function that is called is one of the program. -/
theorem mem_of_called {i : Instr} {f : Function ε} {operands : List Nat} (calls : m.called? p i = some (f, operands)) :
    f ∈ p.functions := by
  cases i with
  | call index | returnCall index =>
    obtain ⟨_, found, same⟩ := Option.map_eq_some_iff.1 calls
    cases same
    exact Array.mem_of_getElem? found
  | callIndirect type table | returnCallIndirect type table =>
    -- The function is looked up in a table, whose elements are functions of the program too.
    simp only [called?] at calls
    split at calls
    · obtain ⟨_, found, same⟩ := Option.map_eq_some_iff.1 calls
      cases same
      exact mem_of_callee (eq_ok_of_toOption found)
    · cases calls
  | _ => cases calls

end Machine

/-- A call is made of a host function of the program. -/
def HostCall.Of (p : Program ε) (c : HostCall ε) : Prop := ∃ type index, .host type index c.respond ∈ p.functions

/-- A guest calls a host function of the program. -/
theorem Machine.of_hostCall? {p : Program ε} {m : Machine ε} {c : HostCall ε} (calls : m.hostCall? p = some c) :
    c.fromGuest ∧ c.Of p := by
  unfold Machine.hostCall? at calls
  split at calls
  · obtain ⟨⟨f, operands⟩, found, host⟩ := Option.bind_eq_some_iff.1 calls
    -- The function that is called is one of the program, and a host function.
    cases f with
    | host type index respond =>
      cases host
      exact ⟨rfl, type, index, Machine.mem_of_called found⟩
    | guest type index locals code => cases host
  · cases calls

/-- Along a run, guests call host functions of the program. -/
theorem Machine.of_mem_hostCalls {p : Program ε} {budget : Option Nat} {steps : Nat} {m : Machine ε} {c : HostCall ε}
    (member : c ∈ m.hostCalls p budget steps) : c.fromGuest ∧ c.Of p := by
  induction steps generalizing m with
  | zero => cases member
  | succ steps ih =>
    rw [Machine.hostCalls_succ] at member
    rcases List.mem_append.1 member with now | later
    · exact of_hostCall? (Option.mem_toList.1 now)
    · cases outcome : Machine.step p budget m with
      | next next =>
        rw [outcome] at later
        exact ih later
      | done ending last =>
        rw [outcome] at later
        cases later

namespace Linked

variable (l : Linked ε) (budget : Option Nat) (progress : Progress ε)

/-- The outside, which waits for a function that it calls on arguments. -/
def outside (type : FuncType) (arguments : List Nat) : Machine ε :=
  ⟨[], arguments.reverse, [], #[], type.results.length, [], 0, progress.store, progress.charged, progress.events⟩

/-- The calls of host functions when a function is run from outside, in order. -/
def hostCalls (f : Function ε) (arguments : List Nat) : List (HostCall ε) :=
  match f with
  | .host _ _ respond => [⟨respond, false, progress.store, arguments⟩]
  | .guest type .. => ((outside progress type arguments).call l.program budget f).hostCalls l.program budget maxSteps

/-- A run from outside reports what its calls of host functions report, the latest first. -/
theorem invoke_events (f : Function ε) (arguments : List Nat) :
    (l.invoke budget progress f arguments).2.events =
      ((l.hostCalls budget progress f arguments).map (·.event l.program)).reverse ++ progress.events := by
  cases f with
  | host type index respond => rfl
  | guest type index locals code =>
    -- To enter a guest function reports nothing, and then it runs.
    have parts : (l.invoke budget progress (.guest type index locals code) arguments).2.events =
        (Machine.proceed l.program budget maxSteps
          ((outside progress type arguments).call l.program budget (.guest type index locals code))).2.events := by
      simp only [invoke]
      rfl
    have entered : ((outside progress type arguments).call l.program budget
        (.guest type index locals code)).machine.events = progress.events :=
      Machine.call_follows l.program budget (.guest type index locals code) _
    rw [parts, Machine.proceed_events l.program budget _ (Machine.run_events l.program budget maxSteps), entered]
    rfl

/-- A host function that is called from outside returns and leaves the store alone. -/
theorem invoke_host (type : FuncType) (index : Nat) (respond : Option Memory → List Nat → ε) (arguments : List Nat) :
    (l.invoke budget progress (.host type index respond) arguments).1 = .returned [] ∧
      (l.invoke budget progress (.host type index respond) arguments).2.store = progress.store :=
  ⟨rfl, rfl⟩

/-- A run from outside only calls host functions of the program if it runs one. -/
theorem of_mem_hostCalls {f : Function ε} (known : f ∈ l.program.functions) {arguments : List Nat} {c : HostCall ε}
    (member : c ∈ l.hostCalls budget progress f arguments) : c.Of l.program := by
  cases f with
  | host type index respond =>
    -- A host function that is called from outside is the only one of its run.
    cases List.mem_singleton.1 member
    exact ⟨type, index, known⟩
  | guest type index locals code =>
    rw [hostCalls] at member
    cases outcome : (outside progress type arguments).call l.program budget (.guest type index locals code) with
    | next m =>
      rw [outcome] at member
      exact (Machine.of_mem_hostCalls member).2
    | done ending m =>
      rw [outcome] at member
      cases member

variable {l} {host : List (HostFunction ε)} {capacity : Capacity} {m : Module}

/-- An import that is resolved is a host function that is offered. -/
theorem exists_offered_of_resolve {types : TypeTable} {i : Import} {f : Function ε} (resolved : resolve host types i = .ok f) :
    ∃ g ∈ host, ∃ index, f = .host g.type index g.respond := by
  simp only [resolve] at resolved
  split at resolved
  · cases resolved
  · split at resolved
    · -- What is found has the names and the type that were asked for.
      rename_i g found
      have offered := List.find?_some found
      simp only [decide_eq_true_eq] at offered
      cases resolved
      exact ⟨g, List.mem_of_find?_eq_some found, _, by rw [offered.2.2]⟩
    · cases resolved

/-- The host functions of a linked module are among those that are offered. -/
theorem exists_offered_of_link (linked : link host capacity m = .ok l) {type : FuncType} {index : Nat}
    {respond : Option Memory → List Nat → ε} (member : .host type index respond ∈ l.program.functions) :
    ∃ g ∈ host, g.type = type ∧ g.respond = respond := by
  obtain ⟨imported, resolved, done⟩ := bind_eq_ok linked
  cases done
  -- Imports come first, and then what the module defines, which is no host function.
  rcases List.mem_append.1 (List.mem_toArray.1 member) with imports | defined
  · obtain ⟨place, inside, same⟩ := List.getElem_of_mem imports
    have found := (forall₂_of_mapM resolved).get ((forall₂_of_mapM resolved).length_eq ▸ inside) inside
    rw [List.get_eq_getElem, List.get_eq_getElem, same] at found
    obtain ⟨g, offered, _, same⟩ := exists_offered_of_resolve found
    cases same
    exact ⟨g, offered, rfl, rfl⟩
  · obtain ⟨_, _, guest⟩ := List.mem_map.1 defined
    cases guest

/-- Host functions see the memory that is exported under its name. -/
theorem hostMemory_of_link (linked : link host capacity m = .ok l) : l.program.hostMemory =
    (l.module.exports.find? fun e => e.name = "memory" ∧ e.kind = .memory).map (·.index) := by
  obtain ⟨imported, resolved, done⟩ := bind_eq_ok linked
  cases done
  rfl

end Linked

end WasmHost.Wasm
