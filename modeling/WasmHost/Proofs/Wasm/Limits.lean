import WasmHost.Wasm.Instance

/-! Limits: a machine never records the limits under which it runs, so that all runs are the same that no limit ends. -/

namespace WasmHost

/-- Two outcomes are the same, unless one of them is due to a limit. -/
def AgreeUnless {α : Type} (limited : α → Prop) (first second : α) : Prop :=
  limited first ∨ limited second ∨ first = second

namespace AgreeUnless

variable {α β : Type} {limited : α → Prop} {limited' : β → Prop}

theorem refl (outcome : α) : AgreeUnless limited outcome outcome := .inr (.inr rfl)

theorem symm {first second : α} (agree : AgreeUnless limited first second) : AgreeUnless limited second first := by
  rcases agree with reached | reached | same
  · exact .inr (.inl reached)
  · exact .inl reached
  · exact .inr (.inr same.symm)

/-- What follows two outcomes that agree agrees, too, if it agrees after every outcome and if a limit stays one. -/
theorem bind {first second : α} (agree : AgreeUnless limited first second) {next next' : α → β}
    (stays : ∀ outcome, limited outcome → limited' (next outcome))
    (stays' : ∀ outcome, limited outcome → limited' (next' outcome))
    (rest : ∀ outcome, AgreeUnless limited' (next outcome) (next' outcome)) :
    AgreeUnless limited' (next first) (next' second) := by
  -- One of the outcomes is a limit, and stays one; or both are the same.
  rcases agree with reached | reached | rfl
  · exact .inl (stays first reached)
  · exact .inr (.inl (stays' second reached))
  · exact rest first

end AgreeUnless

end WasmHost

namespace WasmHost.Wasm

/-- Whether a run was ended by a limit, and not by what the guest does. -/
def Ending.AtLimit (ending : Ending) : Prop := ending = .exhausted ∨ ending = .trapped .stackExhausted

/-- Whether a run that leaves something behind was ended by a limit. -/
def Ending.LimitedRun {α : Type} (ran : Ending × α) : Prop := ran.1.AtLimit

/-- Whether a step ended the run because of a limit. -/
def Step.AtLimit {ε : Type} : Step ε → Prop
  | .done ending _ => ending.AtLimit
  | .next _ => False

/-- The same program with another bound on the calls that may be open at once. -/
def Program.withDepth {ε : Type} (p : Program ε) (depth : Nat) : Program ε := { p with maxDepth := depth }

namespace Machine

variable {ε : Type} (p : Program ε) (depth : Nat) (budget budget' : Option Nat) (m : Machine ε)

/-- Wherever the fuel is looked at, the machine goes on in the same way if there is enough of it. -/
theorem spent_agree (charged : Nat) (stopped next : Machine ε) :
    AgreeUnless Step.AtLimit (if isSpent budget charged then .done .exhausted stopped else .next next)
      (if isSpent budget' charged then .done .exhausted stopped else .next next) := by
  -- Either of the two may be out of fuel.
  by_cases spent : isSpent budget charged
  · rw [if_pos spent]
    exact .inl (.inl rfl)
  by_cases spent' : isSpent budget' charged
  · rw [if_pos spent']
    exact .inr (.inl (.inl rfl))
  rw [if_neg spent, if_neg spent']
  exact .refl _

/-- A call is the first of two steps that look at a limit, and only at its own. -/
theorem call_agree (f : Function ε) :
    AgreeUnless Step.AtLimit (m.call (p.withDepth depth) budget f) (m.call p budget' f) := by
  cases f with
  | host type index respond => exact .refl _
  | guest type index locals code =>
    simp only [call]
    -- The number of open calls is looked at first, and then the fuel; without a limit the callee is entered.
    by_cases deep : (p.withDepth depth).maxDepth ≤ m.depth
    · rw [if_pos deep]
      exact .inl (.inr rfl)
    by_cases deep' : p.maxDepth ≤ m.depth
    · rw [if_pos deep']
      exact .inr (.inl (.inr rfl))
    rw [if_neg deep, if_neg deep']
    exact spent_agree budget budget' (m.charged + 1) _ _

/-- A call in place of the running function opens no call, but looks at the fuel. -/
theorem tailCall_agree (f : Function ε) :
    AgreeUnless Step.AtLimit (m.tailCall (p.withDepth depth) budget f) (m.tailCall p budget' f) := by
  cases f with
  | host type index respond => exact .refl _
  | guest type index locals code =>
    simp only [tailCall]
    exact spent_agree budget budget' (m.charged + 1) _ _

theorem exec_agree (i : Instr) :
    AgreeUnless Step.AtLimit (exec (p.withDepth depth) budget m i) (exec p budget' m i) := by
  cases i with
  | loop type body =>
    -- A round of a loop looks at the fuel.
    simp only [exec]
    exact spent_agree budget budget' m.charged _ _
  | call index =>
    simp only [exec, Program.withDepth]
    split
    · exact call_agree p depth budget budget' m _
    · exact .refl _
  | returnCall index =>
    simp only [exec, Program.withDepth]
    split
    · exact tailCall_agree p depth budget budget' m _
    · exact .refl _
  | callIndirect type table =>
    unfold exec
    cases m.stack with
    | nil => exact .refl _
    | cons place rest =>
      -- Which function stands in the table has nothing to do with limits.
      have same : m.callee (p.withDepth depth) table type place = m.callee p table type place := rfl
      simp only [same]
      split
      · exact call_agree p depth budget budget' _ _
      · exact .refl _
  | returnCallIndirect type table =>
    unfold exec
    cases m.stack with
    | nil => exact .refl _
    | cons place rest =>
      have same : m.callee (p.withDepth depth) table type place = m.callee p table type place := rfl
      simp only [same]
      split
      · exact tailCall_agree p depth budget budget' _ _
      · exact .refl _
  | _ =>
    -- No other instruction looks at a limit.
    exact .refl _

/-- So the next step is the same under all limits, unless one of them ends the run. -/
theorem step_agree :
    AgreeUnless Step.AtLimit (step (p.withDepth depth) budget m) (step p budget' m) := by
  unfold step
  cases m.code with
  | nil => exact .refl _
  | cons i rest => exact exec_agree p depth budget budget' _ i

/-- What is left of a run after a step, up to a number of further steps. -/
def proceed (budget : Option Nat) (steps : Nat) : Step ε → Ending × Machine ε
  | .next m => run p budget steps m
  | .done ending m => (ending, m)

theorem run_succ (steps : Nat) : run p budget (steps + 1) m = proceed p budget steps (step p budget m) := rfl

/-- A run goes on the same way after steps that are the same. -/
theorem proceed_agree {steps : Nat} {first second : Step ε} (agree : AgreeUnless Step.AtLimit first second)
    (rest : ∀ m, AgreeUnless Ending.LimitedRun (run (p.withDepth depth) budget steps m) (run p budget' steps m)) :
    AgreeUnless Ending.LimitedRun (proceed (p.withDepth depth) budget steps first)
      (proceed p budget' steps second) := by
  -- Only the last step of a run can be one at a limit.
  have last : ∀ (p : Program ε) (budget : Option Nat) (outcome : Step ε), outcome.AtLimit →
      Ending.LimitedRun (proceed p budget steps outcome) := by
    intro p budget outcome limited
    cases outcome with
    | next m => exact limited.elim
    | done ending m => exact limited
  refine agree.bind (last _ _) (last _ _) fun outcome => ?_
  cases outcome with
  | next m => exact rest m
  | done ending m => exact .refl _

/-- And so are all steps up to the end of the run, what is left of the store and the charged fuel included. -/
theorem run_agree (steps : Nat) :
    AgreeUnless Ending.LimitedRun (run (p.withDepth depth) budget steps m) (run p budget' steps m) := by
  -- Each step leaves the same machine to the remaining ones.
  induction steps generalizing m with
  | zero => exact .refl _
  | succ steps ih =>
    rw [run_succ, run_succ]
    exact proceed_agree p depth budget budget' (step_agree p depth budget budget' m) ih

end Machine

namespace Linked

variable {ε : Type}

/-- The same linked module with another bound on the calls that may be open at once. -/
def withDepth (l : Linked ε) (depth : Nat) : Linked ε :=
  { l with program := l.program.withDepth depth, capacity := { l.capacity with callDepth := depth } }

/-- The bound on open calls has no part in linking. -/
theorem link_withDepth (host : List (HostFunction ε)) (capacity : Capacity) (depth : Nat) (m : Module) :
    link host { capacity with callDepth := depth } m = (link host capacity m).map (·.withDepth depth) := by
  -- Both ask the host for the same imports.
  simp only [link]
  cases m.imports.mapM (resolve host ((TypeTable.ofGroups .all m.types).toOption.getD .empty)) <;> rfl

/-- Calling a function of an instance does the same under all limits, unless one of them ends the call. -/
theorem invoke_agree (l : Linked ε) (depth : Nat) (budget budget' : Option Nat) (progress : Progress ε) (f : Function ε)
    (arguments : List Nat) :
    AgreeUnless Ending.LimitedRun ((l.withDepth depth).invoke budget progress f arguments)
      (l.invoke budget' progress f arguments) := by
  cases f with
  | host type index respond => exact .refl _
  | guest type index locals code =>
    -- First the function is entered from outside, and then it runs.
    have entered := Machine.call_agree l.program depth budget budget'
      ⟨[], arguments.reverse, [], #[], type.results.length, [], 0, progress.store, progress.charged, progress.events⟩
      (.guest type index locals code)
    have ran := Machine.proceed_agree l.program depth budget budget' entered
      fun m => Machine.run_agree l.program depth budget budget' m maxSteps
    let left : Ending × Machine ε → Ending × Progress ε := fun ran => (ran.1, ⟨ran.2.store, ran.2.charged, ran.2.events⟩)
    have stays : ∀ outcome, Ending.LimitedRun outcome → Ending.LimitedRun (left outcome) := fun _ limited => limited
    exact ran.bind stays stays fun outcome => .refl (left outcome)

end Linked

end WasmHost.Wasm
