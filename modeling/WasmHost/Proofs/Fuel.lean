import WasmHost.Proofs.Backends
import WasmHost.Proofs.Wasm.Budget

/-! Fuel: guests do not notice how much of it there is, as long as it suffices. -/

namespace WasmHost

namespace Handle

variable (h : Handle) {budget longer : Option Nat} (progress : Wasm.Linked.Progress GuestEvent)
  (exported : String) (arguments : List Value)

/-- A start function for which the fuel suffices leaves the same behind under a budget that lasts longer. -/
theorem start_of_lasts (lasts : Wasm.Lasts longer budget)
    (enough : (h.start budget progress).1 ≠ .error .fuelExhausted) :
    h.start longer progress = h.start budget progress := by
  cases declared : h.prepared.module.start.bind (h.prepared.program.functions[·]?) with
  | none => simp only [start, declared]
  | some f =>
    rw [h.start_of_some _ progress declared] at enough
    rw [h.start_of_some _ progress declared, h.start_of_some _ progress declared]
    -- If the run had been exhausted, that would have been reported.
    have lasted : (h.prepared.invoke budget progress f []).1 ≠ .exhausted := by
      intro exhausted
      rw [report, exhausted] at enough
      exact enough rfl
    rw [Wasm.Linked.invoke_of_lasts lasts lasted]

/-- And so does an exported function. -/
theorem run_of_lasts (lasts : Wasm.Lasts longer budget) {f : Wasm.Function GuestEvent} {types : List NumberType}
    (enough : (h.run budget f types arguments progress).1 ≠ .error .fuelExhausted) :
    h.run longer f types arguments progress = h.run budget f types arguments progress := by
  rw [run_eq] at enough
  rw [run_eq, run_eq]
  -- If the invocation were out of fuel, the run would say so.
  have lasted : (h.prepared.invoke budget progress f (arguments.map Value.bits)).1 ≠ .exhausted := by
    intro exhausted
    rw [report, exhausted] at enough
    exact enough rfl
  rw [Wasm.Linked.invoke_of_lasts lasts lasted]

/-- So do both, one after the other. -/
theorem finish_of_lasts (lasts : Wasm.Lasts longer budget)
    (enough : (h.finish budget exported arguments (h.start budget progress)).1 ≠ .error .fuelExhausted) :
    h.finish longer exported arguments (h.start longer progress) =
      h.finish budget exported arguments (h.start budget progress) := by
  have started : (h.start budget progress).1 ≠ .error .fuelExhausted := by
    intro exhausted
    simp only [finish, exhausted] at enough
    exact enough rfl
  rw [h.start_of_lasts progress lasts started]
  generalize h.start budget progress = begun at enough
  obtain ⟨outcome, left⟩ := begun
  cases outcome with
  | error why =>
    -- A start function that failed is the end of the call.
    rfl
  | ok _ =>
    simp only [finish] at enough ⊢
    cases found : h.target exported arguments with
    | error why => rfl
    | ok target =>
      simp only [found] at enough
      exact h.run_of_lasts left arguments lasts enough

/-- What a call gives, with the fuel that was charged for it. -/
def tally (budget : Option Nat) : Except HostError ((List Value × List LogEntry) × Nat) :=
  match h.fresh with
  | .error why => .error why
  | .ok progress =>
    let last := h.finish budget exported arguments (h.start budget progress)
    last.1.map fun values => ((values, last.2.events.reverse.filterMap (·.logged?)), last.2.charged)

/-- Of what was charged, a call reports what its budget covers. -/
theorem call_eq_tally (settings : ExecutionSettings) :
    (h.call settings exported arguments).1 = (h.tally exported arguments settings.budget).map fun tallied =>
      ⟨tallied.1.1, tallied.1.2, usedFuel settings.budget tallied.2⟩ := by
  -- Whatever the instance ends with, the call reports it with the fuel.
  cases made : h.fresh with
  | error why => simp only [call, tally, made, Except.map]
  | ok progress =>
    simp only [call, tally, made]
    show Except.map _ (h.finish settings.budget exported arguments (h.start settings.budget progress)).1 = _
    cases (h.finish settings.budget exported arguments (h.start settings.budget progress)).1 <;> rfl

theorem tally_of_lasts (lasts : Wasm.Lasts longer budget)
    (enough : h.tally exported arguments budget ≠ .error .fuelExhausted) :
    h.tally exported arguments longer = h.tally exported arguments budget := by
  cases made : h.fresh with
  | error why => simp only [tally, made]
  | ok progress =>
    simp only [tally, made] at enough ⊢
    -- If the call were out of fuel, the tally would say so.
    have lasted : (h.finish budget exported arguments (h.start budget progress)).1 ≠ .error .fuelExhausted := by
      intro exhausted
      rw [exhausted] at enough
      exact enough rfl
    rw [h.finish_of_lasts progress exported arguments lasts lasted]

/-- A call reports its charge, or all of its budget if that is less. -/
theorem usedFuel_some (budget charged : Nat) : usedFuel (some budget) charged = min budget charged := by
  simp only [usedFuel, consumedFuel, Option.getD_some, Option.map_some]
  omega

/-- What is seen of a call does not show its costs. -/
theorem call_seen_eq (settings : ExecutionSettings) :
    (h.call settings exported arguments).1.map Outcome.seen =
      (h.tally exported arguments settings.budget).map Prod.fst := by
  rw [call_eq_tally]
  cases h.tally exported arguments settings.budget <;> rfl

end Handle

/-- The same factory under other limits: its engines are set up with the meter that its calls have. -/
def Factory.limited (f : Factory) (settings : ExecutionSettings) : Factory :=
  ⟨{ f.engine with metering := settings.metering }, settings⟩

/-- Only artifacts depend on the meter that an engine is set up with. -/
theorem Factory.build_limited (f : Factory) (artifacts : Artifacts) (files : Files) (m : HostedModule)
    {strategy : Strategy} (other : strategy.backend ≠ .precompiled) (settings settings' : ExecutionSettings) :
    (f.limited settings).build artifacts files m strategy = (f.limited settings').build artifacts files m strategy := by
  simp only [build, compiled, if_neg other, limited]
  rfl

/-- Fuel is transparent. However much of it a host grants to its calls, it builds the same handles, and so it does
without a meter, unless an artifact has to be made for that. If a call does not run out of its fuel, then with more of
it, or without a meter, the same module gives the same values and logs, or the same error. A successful call reports
no more fuel than its budget and no less than with a smaller one, and none without a meter. -/
theorem fuel_is_transparent {f : Factory} {artifacts : Artifacts} {files : Files} {m : HostedModule}
    {strategy : Strategy} {h : Handle} {budget more : UInt64} (le : budget ≤ more)
    (built : ((f.limited ⟨budget, true⟩).build artifacts files m strategy).1 = .ok h) (any : UInt64) :
    ((f.limited ⟨more, true⟩).build artifacts files m strategy).1 = .ok h ∧
      (strategy.backend ≠ .precompiled → ((f.limited ⟨any, false⟩).build artifacts files m strategy).1 = .ok h) ∧
      ∀ free : Handle, free.moduleName = h.moduleName → free.prepared = h.prepared → ∀ exported arguments,
        let few := (h.call ⟨budget, true⟩ exported arguments).1
        let many := (h.call ⟨more, true⟩ exported arguments).1
        let unmetered := (free.call ⟨any, false⟩ exported arguments).1
        (few ≠ .error .fuelExhausted →
          many.map Outcome.seen = few.map Outcome.seen ∧ unmetered.map Outcome.seen = few.map Outcome.seen) ∧
        (∀ outcome, few = .ok outcome → outcome.fuel ≤ budget.toNat ∧
          ∃ outcome', many = .ok outcome' ∧ outcome.fuel ≤ outcome'.fuel) ∧
        ∀ outcome, unmetered = .ok outcome → outcome.fuel = 0 := by
  refine ⟨built, fun other => ?_, fun free named prepared exported arguments => ?_⟩
  · rw [f.build_limited artifacts files m other ⟨any, false⟩ ⟨budget, true⟩]
    exact built
  rw [Handle.call_congr free h named prepared]
  -- Each of the three calls is the same tally under another budget.
  have longer : Wasm.Lasts (some more.toNat) (some budget.toNat) := Wasm.lasts_of_le (UInt64.le_iff_toNat_le.mp le)
  have unlimited : Wasm.Lasts none (some budget.toNat) := Wasm.lasts_none _
  refine ⟨fun enough => ?_, fun outcome succeeded => ?_, fun outcome succeeded => ?_⟩
  · have lasted : h.tally exported arguments (some budget.toNat) ≠ .error .fuelExhausted := by
      intro exhausted
      rw [h.call_eq_tally] at enough
      exact enough (congrArg (Except.map _) exhausted)
    simp only [h.call_seen_eq]
    exact ⟨congrArg _ (h.tally_of_lasts exported arguments longer lasted),
      congrArg _ (h.tally_of_lasts exported arguments unlimited lasted)⟩
  · rw [h.call_eq_tally] at succeeded
    obtain ⟨⟨seen, charged⟩, tallied, rfl⟩ := map_eq_ok succeeded
    replace tallied : h.tally exported arguments (some budget.toNat) = .ok (seen, charged) := tallied
    have lasted : h.tally exported arguments (some budget.toNat) ≠ .error .fuelExhausted := by
      rw [tallied]
      nofun
    have again : h.tally exported arguments (some more.toNat) = .ok (seen, charged) :=
      (h.tally_of_lasts exported arguments longer lasted).trans tallied
    -- Both calls were charged the same.
    have ordered : budget.toNat ≤ more.toNat := UInt64.le_iff_toNat_le.mp le
    simp only [ExecutionSettings.budget, if_true, Handle.usedFuel_some]
    refine ⟨Nat.min_le_left _ _, ⟨seen.1, seen.2, min more.toNat charged⟩, ?_, ?_⟩
    · rw [h.call_eq_tally]
      simp only [ExecutionSettings.budget, if_true, again, Except.map, Handle.usedFuel_some]
    · show min budget.toNat charged ≤ min more.toNat charged
      omega
  · rw [h.call_eq_tally] at succeeded
    obtain ⟨_, _, rfl⟩ := map_eq_ok succeeded
    rfl

/-- What five and three make for a handle, with the fuel that it takes. -/
def Handle.sumCost? (h : Handle) (settings : ExecutionSettings) : Option (List Value × Nat) :=
  (h.call settings "add" [.i32 5, .i32 3]).1.toOption.map fun outcome => (outcome.values, outcome.fuel)

/-- A budget of three is overrun by an addition that costs four, for the budget is only looked at where the function
is entered; so the sum is the same with more fuel, and without a meter. -/
theorem fuel_is_transparent_for_addition :
    ∃ (f : Factory) (h : Handle), ((f.limited ⟨3, true⟩).build .empty .empty summing .compileNow).1 = .ok h ∧
      h.sumCost? ⟨3, true⟩ = some ([.i32 8], 3) ∧ h.sumCost? ⟨10, true⟩ = some ([.i32 8], 4) ∧
      ((f.limited ⟨0, false⟩).build .empty .empty summing .compileNow).1 = .ok h ∧
      (h.call ⟨10, true⟩ "add" [.i32 5, .i32 3]).1.map Outcome.seen =
        (h.call ⟨3, true⟩ "add" [.i32 5, .i32 3]).1.map Outcome.seen ∧
      (h.call ⟨0, false⟩ "add" [.i32 5, .i32 3]).1.map Outcome.seen =
        (h.call ⟨3, true⟩ "add" [.i32 5, .i32 3]).1.map Outcome.seen := by
  let f : Factory := ⟨.metered ⟨false, 1, 1, true⟩ [], .standard⟩
  let handle : Option Handle := ((f.limited ⟨3, true⟩).build .empty .empty summing .compileNow).1.toOption
  have few : handle.bind (·.sumCost? ⟨3, true⟩) = some ([.i32 8], 3) := by decide +kernel
  have many : handle.bind (·.sumCost? ⟨10, true⟩) = some ([.i32 8], 4) := by decide +kernel
  obtain ⟨h, made, few⟩ := Option.bind_eq_some_iff.mp few
  rw [made, Option.bind_some] at many
  have built := eq_ok_of_toOption made
  have longer : (3 : UInt64) ≤ 10 := by decide
  obtain ⟨_, unmetered, calls⟩ := fuel_is_transparent longer built 0
  obtain ⟨same, _, _⟩ := calls h rfl rfl "add" [.i32 5, .i32 3]
  -- A call that gives a sum has not run out of its fuel.
  have enough : (h.call ⟨3, true⟩ "add" [.i32 5, .i32 3]).1 ≠ .error .fuelExhausted := by
    intro exhausted
    rw [Handle.sumCost?, exhausted] at few
    cases few
  exact ⟨f, h, built, few, many, unmetered (by decide), same enough⟩

end WasmHost
