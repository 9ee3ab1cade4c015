import WasmHost.Proofs.Wasm.Limits

/-! Budgets: all that a budget decides is whether a run stops where the fuel is looked at, so that a run that does not
stop there is the same under every budget that lasts longer. -/

namespace WasmHost.Wasm

/-- A budget lasts as long as another one if a charge that spends it spends the other one, too. -/
def Lasts (longer budget : Option Nat) : Prop :=
  ∀ charged, Machine.isSpent longer charged → Machine.isSpent budget charged

theorem lasts_of_le {budget longer : Nat} (more : budget ≤ longer) : Lasts (some longer) (some budget) := by
  intro charged spent
  simp only [Machine.isSpent, decide_eq_true_eq] at spent ⊢
  omega

/-- Without a meter nothing is ever spent. -/
theorem lasts_none (budget : Option Nat) : Lasts none budget := by
  rintro charged ⟨⟩

namespace Machine

variable {ε : Type}

/-- How an outcome depends on the budget: not at all, or by one look at what was charged. -/
inductive Look (outcome : Option Nat → Step ε) : Prop where
  /-- The budget is not looked at. -/
  | never (step : Step ε) (same : ∀ budget, outcome budget = step)
  /-- The run stops if the budget is spent, and goes on if not. -/
  | once (charged : Nat) (stopped next : Machine ε)
    (same : ∀ budget, outcome budget = if isSpent budget charged then .done .exhausted stopped else .next next)

variable (p : Program ε) (m : Machine ε)

/-- A function of the guest looks at the budget when it is entered, unless too many calls are open already. -/
theorem call_look (f : Function ε) : Look fun budget => m.call p budget f := by
  cases f with
  | host type index respond => exact .never _ fun _ => rfl
  | guest type index locals code =>
    -- The depth is checked before the budget.
    by_cases deep : p.maxDepth ≤ m.depth
    · simp only [call, if_pos deep]
      exact .never _ fun _ => rfl
    · simp only [call, if_neg deep]
      exact .once (m.charged + 1) _ _ fun _ => rfl

/-- So does one that takes the place of the running one. -/
theorem tailCall_look (f : Function ε) : Look fun budget => m.tailCall p budget f := by
  cases f with
  | host type index respond => exact .never _ fun _ => rfl
  | guest type index locals code => exact .once (m.charged + 1) _ _ fun _ => rfl

theorem exec_look (i : Instr) : Look fun budget => exec p budget m i := by
  cases i with
  | loop type body =>
    -- A round of a loop looks at the budget before it begins.
    exact .once m.charged m _ fun _ => rfl
  | call index =>
    simp only [exec]
    cases p.functions[index]? with
    | none => exact .never _ fun _ => rfl
    | some f => exact call_look p m f
  | returnCall index =>
    simp only [exec]
    cases p.functions[index]? with
    | none => exact .never _ fun _ => rfl
    | some f => exact tailCall_look p m f
  | callIndirect type table =>
    simp only [exec]
    cases m.stack with
    | nil => exact .never _ fun _ => rfl
    | cons place rest =>
      -- The function in the table is found without a look at the budget.
      cases found : m.callee p table type place with
      | error t => exact .never (m.trap t) fun _ => by simp only [found]
      | ok f => simpa only [found] using call_look p _ f
  | returnCallIndirect type table =>
    simp only [exec]
    cases m.stack with
    | nil => exact .never _ fun _ => rfl
    | cons place rest =>
      cases found : m.callee p table type place with
      | error t => exact .never (m.trap t) fun _ => by simp only [found]
      | ok f => simpa only [found] using tailCall_look p _ f
  | _ =>
    -- No other instruction looks at it.
    exact .never _ fun _ => rfl

/-- In every step the budget is looked at once, if at all. -/
theorem step_look : Look fun budget => step p budget m := by
  unfold step
  cases m.code with
  | nil => exact .never _ fun _ => rfl
  | cons i rest => exact exec_look p _ i

variable {p m} {budget longer : Option Nat}

/-- A run goes on in the same way after a step, if the fuel suffices for the step and for the rest. -/
theorem proceed_of_lasts (lasts : Lasts longer budget) {steps : Nat} {outcome : Option Nat → Step ε} (look : Look outcome)
    (rest : ∀ m, (run p budget steps m).1 ≠ .exhausted → run p longer steps m = run p budget steps m)
    (enough : (proceed p budget steps (outcome budget)).1 ≠ .exhausted) :
    proceed p longer steps (outcome longer) = proceed p budget steps (outcome budget) := by
  cases look with
  | never step same =>
    rw [same] at enough
    rw [same, same]
    cases step with
    | next m => exact rest m enough
    | done ending m => rfl
  | once charged stopped next same =>
    -- Where the budget is not spent, the longer one is not spent either.
    by_cases spent : isSpent budget charged
    · rw [same, if_pos spent] at enough
      exact absurd rfl enough
    · rw [same, if_neg spent] at enough
      rw [same, same, if_neg spent, if_neg (mt (lasts charged) spent)]
      exact rest next enough

/-- A run for which the fuel suffices is the same under a budget that lasts longer: it ends in the same way, and
leaves the same store, charge and reports. -/
theorem run_of_lasts (lasts : Lasts longer budget) {steps : Nat} {m : Machine ε}
    (enough : (run p budget steps m).1 ≠ .exhausted) : run p longer steps m = run p budget steps m := by
  -- The induction is on the number of steps that may still be taken.
  induction steps generalizing m with
  | zero => exact absurd rfl enough
  | succ steps ih =>
    rw [run_succ] at enough
    rw [run_succ, run_succ]
    exact proceed_of_lasts lasts (step_look p m) (fun m => ih) enough

end Machine

namespace Linked

variable {ε : Type}

/-- A call from outside for which the fuel suffices is the same under a budget that lasts longer. -/
theorem invoke_of_lasts {l : Linked ε} {longer budget : Option Nat} (lasts : Lasts longer budget) {progress : Progress ε}
    {f : Function ε} {arguments : List Nat} (enough : (l.invoke budget progress f arguments).1 ≠ .exhausted) :
    l.invoke longer progress f arguments = l.invoke budget progress f arguments := by
  cases f with
  | host type index respond => rfl
  | guest type index locals code =>
    let outside : Machine ε :=
      ⟨[], arguments.reverse, [], #[], type.results.length, [], 0, progress.store, progress.charged, progress.events⟩
    let left : Ending × Machine ε → Ending × Progress ε := fun ran => (ran.1, ⟨ran.2.store, ran.2.charged, ran.2.events⟩)
    -- The function is entered, and what follows is the rest of the run.
    have entered : ∀ budget, l.invoke budget progress (.guest type index locals code) arguments =
        left (Machine.proceed l.program budget maxSteps (outside.call l.program budget (.guest type index locals code))) := by
      intro budget
      simp only [invoke]
      rfl
    rw [entered] at enough
    rw [entered, entered]
    have same := Machine.proceed_of_lasts lasts (Machine.call_look l.program outside (.guest type index locals code))
      (fun m => Machine.run_of_lasts lasts) enough
    exact congrArg left same

end Linked

end WasmHost.Wasm
