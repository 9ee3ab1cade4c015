import WasmHost.Proofs.Logging
import WasmHost.Proofs.Wasm.Linking

/-! Calls from outside are typed: what goes into a function has the types of its parameters, and what comes out of it those
of its results. -/

namespace WasmHost

/-! ### Numbers and cells -/

namespace Value

/-- A number is a cell of its type. -/
theorem holds_bits (value : Value) : value.type.valType.Holds value.bits := by
  cases value with
  | i32 value => exact value.toUInt32.toNat_lt
  | i64 value => exact value.toUInt64.toNat_lt
  | f32 bits => exact bits.toNat_lt
  | f64 bits => exact bits.toNat_lt

theorem holdAll_bits (values : List Value) :
    Wasm.HoldAll ((values.map (·.type)).map NumberType.valType) (values.map bits) := by
  induction values with
  | nil => exact .nil
  | cons value values ih => exact .cons value.holds_bits ih

/-- A cell of a type is a number of this type. -/
theorem exists_ofCell? {type : NumberType} {cell : Nat} (held : type.valType.Holds cell) :
    ∃ value, ofCell? type cell = some value ∧ value.type = type ∧ value.bits = cell := by
  -- A cell of the type fits into its bits, so nothing is cut off.
  have same : (ofBits type cell).bits = cell := by
    cases type with
    | i32 => exact Nat.mod_eq_of_lt held
    | i64 => exact Nat.mod_eq_of_lt held
    | f32 => exact Nat.mod_eq_of_lt held
    | f64 => exact Nat.mod_eq_of_lt held
  refine ⟨ofBits type cell, if_pos same, ?_, same⟩
  cases type <;> rfl

/-- And cells of many types are numbers of these. -/
theorem exists_ofCells? {types : List NumberType} {cells : List Nat}
    (held : Wasm.HoldAll (types.map NumberType.valType) cells) :
    ∃ values, ofCells? types cells = some values ∧ values.map (·.type) = types ∧ values.map bits = cells := by
  -- The types and the cells go together one by one.
  induction types generalizing cells with
  | nil =>
    cases held
    exact ⟨[], rfl, rfl, rfl⟩
  | cons type types ih =>
    obtain ⟨cell, cells, here, others, rfl⟩ := List.forall₂_cons_left_iff.1 held
    obtain ⟨value, found, typed, bits⟩ := exists_ofCell? here
    obtain ⟨values, founds, typeds, bitss⟩ := ih others
    exact ⟨value :: values, by simp [ofCells?, found, founds], by simp [typed, typeds], by simp [bits, bitss]⟩

end Value

/-! ### Handles that are typed -/

/-- The program and the stores of a handle agree with the types of its module. -/
structure Handle.Typed (h : Handle) (env : Wasm.Scope) : Prop where
  program : h.prepared.program.Typed env
  running : env.constant = false
  fresh : ∀ store, h.prepared.freshStore = .ok store → store.Typed env
  start : ∀ f, h.prepared.module.start.bind (h.prepared.program.functions[·]?) = some f → f.type.params = []

/-- Host functions give nothing back. -/
theorem silent_of_offered {e : Engine} (offered : e.offered = hostFunctions) : ∀ f ∈ e.offered, f.type.results = [] := by
  rw [offered]
  exact List.forall_mem_singleton.2 rfl

/-- Every handle that is built is typed. -/
theorem exists_typed_of_build {f : Factory} (offered : f.engine.offered = hostFunctions) {artifacts : Artifacts}
    {files : Files} {m : HostedModule} {strategy : Strategy} {h : Handle}
    (built : (f.build artifacts files m strategy).1 = .ok h) : ∃ env, h.Typed env := by
  obtain ⟨_, features, code, _, known, ⟨valid, capacity, few, linked⟩, _⟩ := Factory.exists_linkedFrom_of_build built
  -- The module passed the check, and it is linked with functions that give nothing.
  obtain ⟨types, checked⟩ := Wasm.Module.check_eq_ok_iff.1 valid
  have silent := silent_of_offered offered
  have heap : features.heapTypes = false := by rcases known with rfl | rfl <;> rfl
  obtain ⟨_, _, _, _, _, same, bounds⟩ := Wasm.exists_imported_of_link checked linked
  obtain ⟨_, alone⟩ := Wasm.forall₂_functions checked silent linked
  have program := Wasm.program_typed checked silent linked
  refine ⟨Wasm.Validation.scope features types code, program, rfl, fun store fresh => ?_, fun function started => ?_⟩
  · refine Wasm.Linked.freshStore_typed checked heap alone same ?_ fresh
    rw [bounds]
    exact few.trans_lt (by decide)
  · -- What starts was checked to take and give nothing.
    rw [same] at started
    obtain ⟨index, declared, there⟩ := Option.bind_eq_some_iff.1 started
    have passed := checked.start index declared
    unfold Wasm.Validation.checkStart at passed
    split at passed
    · rename_i type found
      obtain ⟨typeIndex, named, defined⟩ := Option.bind_eq_some_iff.1 found
      obtain ⟨other, there', typed⟩ := program.named index typeIndex type named defined
      cases there.symm.trans there'
      rw [typed, of_decide_eq_true (Wasm.demand_eq_ok_iff.1 passed)]
    · cases passed

namespace Handle

variable {h : Handle} {env : Wasm.Scope} {budget : Option Nat} {progress after : Wasm.Linked.Progress GuestEvent}

/-- Once an instance has started, its store is typed. -/
theorem store_typed (typed : h.Typed env) (made : h.fresh = .ok progress) (started : h.start budget progress = (.ok (), after)) :
    after.store.Typed env := by
  have first : progress.store.Typed env := by
    unfold fresh at made
    split at made
    · rename_i store filled
      cases made
      exact typed.fresh store filled
    · cases made
  -- Without a start function the store is the fresh one.
  cases declared : h.prepared.module.start.bind (h.prepared.program.functions[·]?) with
  | none =>
    simp only [start, declared] at started
    cases started
    exact first
  | some f =>
    obtain ⟨index, _, there⟩ := Option.bind_eq_some_iff.1 declared
    have known := typed.program.functions f (Array.mem_of_getElem? there)
    -- The start function takes nothing, so no arguments are the ones that it takes.
    have takes : Wasm.HoldAll f.type.params [] := by
      rw [typed.start f declared]
      exact .nil
    simp only [start, declared] at started
    split at started
    · rename_i results left returned
      cases started
      exact (Wasm.Linked.invoke_typed typed.program typed.running known first takes returned).2
    · cases started
    · cases started

end Handle

/-! ### The boundary -/

/-- A function takes arguments: it has to do with numbers only, and there is an argument of its type for each parameter. -/
structure Wasm.Function.Takes (g : Wasm.Function GuestEvent) (arguments : List Value) : Prop where
  numeric : ∀ type ∈ g.type.params ++ g.type.results, NumberType.IsNumeric type
  count : g.type.params.length = arguments.length
  types : ∀ (index : Nat) (type : Wasm.ValType) (argument : Value), g.type.params[index]? = some type →
    arguments[index]? = some argument → type = argument.type.valType

/-- A function takes arguments exactly if its parameters are their types, and its results are numbers. -/
theorem takes_iff {g : Wasm.Function GuestEvent} {arguments : List Value} : g.Takes arguments ↔
    g.type.params = (arguments.map (·.type)).map NumberType.valType ∧
      ∃ results : List NumberType, g.type.results = results.map NumberType.valType := by
  constructor
  · intro takes
    refine ⟨?_, NumberType.exists_numbers fun type member => takes.numeric type (List.mem_append_right _ member)⟩
    -- As many arguments as parameters, and each of the wanted type, make equal lists.
    refine List.ext_getElem (by simpa using takes.count) fun index before after => ?_
    have given : index < arguments.length := takes.count ▸ before
    simpa using takes.types index _ arguments[index] (List.getElem?_eq_getElem before) (List.getElem?_eq_getElem given)
  · rintro ⟨params, results, gives⟩
    refine ⟨fun type member => ?_, by simp [params], fun index type argument wanted given => ?_⟩
    · rw [params, gives, ← List.map_append] at member
      obtain ⟨number, _, rfl⟩ := List.mem_map.1 member
      exact ⟨number, rfl⟩
    · rw [params, List.getElem?_map, List.getElem?_map, given] at wanted
      exact (Option.some.inj wanted).symm

namespace Handle

variable {h : Handle} {settings : ExecutionSettings} {after : Wasm.Linked.Progress GuestEvent} {exported : String}
  {arguments : List Value} {g : Wasm.Function GuestEvent}

/-- What follows the start function is a run of a function on the arguments, and this is what can be seen of the call. -/
def Runs (h : Handle) (settings : ExecutionSettings) (exported : String) (arguments : List Value)
    (g : Wasm.Function GuestEvent) (after : Wasm.Linked.Progress GuestEvent) : Prop :=
  ∃ types, h.finish settings.budget exported arguments (.ok (), after) = h.run settings.budget g types arguments after ∧
    (h.call settings exported arguments).1.map Outcome.seen = seenOf (h.run settings.budget g types arguments after)

/-- A call of a function is refused: the argument is invalid, what the start function left stays as it is, and there are no
warnings but those of the start function. If only types differ, the lowest position where they do is named. -/
structure Refuses (h : Handle) (settings : ExecutionSettings) (exported : String) (arguments : List Value)
    (g : Wasm.Function GuestEvent) (after : Wasm.Linked.Progress GuestEvent) : Prop where
  invalid : ∃ why, h.finish settings.budget exported arguments (.ok (), after) = (.error (.invalidArgument why), after) ∧
    h.call settings exported arguments = (.error (.invalidArgument why), after.events.reverse.filterMap (·.warning?))
  lowest : (∀ type ∈ g.type.params ++ g.type.results, NumberType.IsNumeric type) →
    g.type.params.length = arguments.length → ∃ (index : Nat) (type : NumberType) (argument : Value),
      g.type.params[index]? = some type.valType ∧ arguments[index]? = some argument ∧ type ≠ argument.type ∧
      (∀ earlier < index, g.type.params[earlier]? = (arguments[earlier]?).map (·.type.valType)) ∧
      (h.call settings exported arguments).1 = .error (.invalidArgument (.type index exported type.name argument.type.name))

theorem finish_of_refused {budget : Option Nat} {why : HostError} (refused : h.target exported arguments = .error why) :
    h.finish budget exported arguments (.ok (), after) = (.error why, after) := by
  simp only [finish, refused]

section

variable {progress : Wasm.Linked.Progress GuestEvent} (made : h.fresh = .ok progress)
  (started : h.start settings.budget progress = (.ok (), after))
include made started

theorem call_of_refused {why : ArgumentFault} (refused : h.target exported arguments = .error (.invalidArgument why)) :
    h.call settings exported arguments = (.error (.invalidArgument why), after.events.reverse.filterMap (·.warning?)) := by
  simp only [call, made, started, refused]
  exact congrArg _ (List.append_nil _)

variable (found : h.prepared.exported? exported = some g)
include found

/-- A call of a function that does not take the arguments is refused. -/
theorem refuses_of_not_takes (other : ¬ g.Takes arguments) : h.Refuses settings exported arguments g after := by
  -- A refusal is for a type that is no number, for the count, or for the first argument of another type.
  cases answered arguments found with
  | other strange refused =>
    obtain ⟨type, member, none⟩ := strange
    exact ⟨⟨_, finish_of_refused refused, call_of_refused made started refused⟩,
      fun numeric => absurd (numeric type member) none⟩
  | count parameters results takes gives differ refused =>
    refine ⟨⟨_, finish_of_refused refused, call_of_refused made started refused⟩, fun _ count => absurd ?_ differ⟩
    rwa [takes, List.length_map] at count
  | type parameters results takes gives count index type argument wanted given differ before refused =>
    refine ⟨⟨_, finish_of_refused refused, call_of_refused made started refused⟩, fun _ _ => ⟨index, type, argument, ?_, given,
      differ, fun earlier below => ?_, congrArg Prod.fst (call_of_refused made started refused)⟩⟩
    · rw [takes, List.getElem?_map, wanted]
      rfl
    · rw [takes, List.getElem?_map, before earlier below, Option.map_map]
      rfl
  -- Otherwise the arguments fit, and the function takes them.
  | fits results takes gives _ => exact absurd (takes_iff.2 ⟨takes, results, gives⟩) other

theorem runs_iff_takes : h.Runs settings exported arguments g after ↔ g.Takes arguments := by
  constructor
  · intro runs
    -- A call that is refused ends with an error that no run ends with.
    by_contra other
    obtain ⟨⟨why, finished, _⟩, _⟩ := refuses_of_not_takes made started found other
    obtain ⟨types, same, _⟩ := runs
    rw [finished] at same
    rcases error_of_run (congrArg Prod.fst same).symm with ⟨_, other⟩ | other <;> cases other
  · intro takes
    obtain ⟨params, results, gives⟩ := takes_iff.1 takes
    have runs : h.finish settings.budget exported arguments (.ok (), after) =
        h.run settings.budget g results arguments after := by simp only [finish, target_of_fits found params gives]
    have seen := h.call_seen progress exported arguments settings made
    rw [started, runs] at seen
    exact ⟨results, runs, seen⟩

end

/-- What a function returns to its caller outside has the types of its results. -/
theorem exists_values_of_returned {env : Wasm.Scope} {budget : Option Nat} (typed : h.Typed env)
    (store : after.store.Typed env) (found : h.prepared.exported? exported = some g) (takes : g.Takes arguments)
    {types : List NumberType} (gives : g.type.results = types.map NumberType.valType) {results : List Nat}
    {left : Wasm.Linked.Progress GuestEvent}
    (returned : h.prepared.invoke budget after g (arguments.map Value.bits) = (.returned results, left)) :
    ∃ values, h.run budget g types arguments after = (.ok values, left) ∧ values.map (·.type) = types ∧
      values.map Value.bits = results.reverse := by
  obtain ⟨e, _, there⟩ := Option.bind_eq_some_iff.1 found
  obtain ⟨params, _⟩ := takes_iff.1 takes
  have args : Wasm.HoldAll g.type.params (arguments.map Value.bits) := params ▸ Value.holdAll_bits arguments
  have known := typed.program.functions g (Array.mem_of_getElem? there)
  -- The results are cells of the types, the last on top, and each type of a number has a value for every cell.
  obtain ⟨held, _⟩ := Wasm.Linked.invoke_typed typed.program typed.running known store args returned
  rw [Wasm.HoldAll.reverse_iff, gives] at held
  obtain ⟨values, made, typed, bits⟩ := Value.exists_ofCells? held
  exact ⟨values, by simp only [run, returned, made], typed, bits⟩

/-- A run gives values of the types that it should, or it ends with a trap of the guest or with the fuel. -/
theorem run_cases {env : Wasm.Scope} (budget : Option Nat) (typed : h.Typed env) (store : after.store.Typed env)
    (found : h.prepared.exported? exported = some g) (takes : g.Takes arguments) {types : List NumberType}
    (gives : g.type.results = types.map NumberType.valType) :
    (∃ values left, h.run budget g types arguments after = (.ok values, left) ∧ values.map (·.type) = types) ∨
      ∃ why, (h.run budget g types arguments after).1 = .error why ∧ why ≠ .trap .badResult := by
  rcases invoked : h.prepared.invoke budget after g (arguments.map Value.bits) with ⟨ending, left⟩
  -- A typed program never returns cells that are no values.
  cases ending with
  | returned results =>
    obtain ⟨values, done, typed, _⟩ := exists_values_of_returned typed store found takes gives invoked
    exact .inl ⟨values, left, done, typed⟩
  | trapped cause => exact .inr ⟨.trap (.trap cause), by simp only [run, invoked], by simp⟩
  | exhausted => exact .inr ⟨.fuelExhausted, by simp only [run, invoked], by simp⟩

end Handle

/-- Calls are typed at the boundary. Once an instance of a handle has started, the exported function runs exactly if it takes
the arguments. Otherwise the call is refused. If the function runs and returns, the call gives as many values as there are
results, of their types, and with the patterns that the function returned; so there never is a result of another type. -/
theorem typed_at_boundary {f : Factory} (offered : f.engine.offered = hostFunctions) {artifacts : Artifacts}
    {files : Files} {m : HostedModule} {strategy : Strategy} {h : Handle}
    (built : (f.build artifacts files m strategy).1 = .ok h) {settings : ExecutionSettings}
    {progress after : Wasm.Linked.Progress GuestEvent} (made : h.fresh = .ok progress)
    (started : h.start settings.budget progress = (.ok (), after)) {exported : String} {g : Wasm.Function GuestEvent}
    (found : h.prepared.exported? exported = some g) (arguments : List Value) :
    (h.Runs settings exported arguments g after ↔ g.Takes arguments) ∧
    (¬ g.Takes arguments → h.Refuses settings exported arguments g after) ∧
    (∀ results left, g.Takes arguments →
      h.prepared.invoke settings.budget after g (arguments.map Value.bits) = (.returned results, left) →
      ∃ outcome, (h.call settings exported arguments).1 = .ok outcome ∧ outcome.values.map Value.bits = results.reverse) ∧
    (∀ outcome, (h.call settings exported arguments).1 = .ok outcome →
      outcome.values.map (·.type.valType) = g.type.results) ∧
    (h.call settings exported arguments).1 ≠ .error (.trap .badResult) := by
  obtain ⟨env, typed⟩ := exists_typed_of_build offered built
  have store := h.store_typed typed made started
  have ended : (h.call settings exported arguments).1.map (·.values) =
      (h.finish settings.budget exported arguments (.ok (), after)).1 :=
    started ▸ Handle.values_of_call made exported arguments
  -- Once the arguments are taken, the call is a run, and whatever the run returns has the right types.
  have run : g.Takes arguments → ∃ types, g.type.results = types.map NumberType.valType ∧
      (h.call settings exported arguments).1.map (·.values) = (h.run settings.budget g types arguments after).1 := by
    intro takes
    obtain ⟨params, types, gives⟩ := takes_iff.1 takes
    refine ⟨types, gives, ended.trans ?_⟩
    simp only [Handle.finish, Handle.target_of_fits found params gives]
  refine ⟨Handle.runs_iff_takes made started found, Handle.refuses_of_not_takes made started found, ?_, ?_, ?_⟩
  · intro results left takes returned
    obtain ⟨types, gives, same⟩ := run takes
    obtain ⟨values, done, _, bits⟩ := Handle.exists_values_of_returned typed store found takes gives returned
    rw [done] at same
    obtain ⟨outcome, called, rfl⟩ := map_eq_ok same
    exact ⟨outcome, called, bits⟩
  · intro outcome called
    by_cases takes : g.Takes arguments
    · obtain ⟨types, gives, same⟩ := run takes
      rw [called] at same
      rcases Handle.run_cases settings.budget typed store found takes gives with ⟨values, left, done, typed⟩ | ⟨why, failed, _⟩
      · rw [done] at same
        cases same
        rw [gives, ← typed, List.map_map]
        rfl
      · rw [failed] at same
        cases same
    · obtain ⟨⟨why, _, refused⟩, _⟩ := Handle.refuses_of_not_takes made started found takes
      rw [refused] at called
      cases called
  · intro bad
    by_cases takes : g.Takes arguments
    · obtain ⟨types, gives, same⟩ := run takes
      rw [bad] at same
      rcases Handle.run_cases settings.budget typed store found takes gives with ⟨values, left, done, _⟩ | ⟨why, failed, other⟩
      · rw [done] at same
        cases same
      · rw [failed] at same
        exact other (Except.error.inj same).symm
    · obtain ⟨⟨why, _, refused⟩, _⟩ := Handle.refuses_of_not_takes made started found takes
      rw [refused] at bad
      cases bad

/-- Two numbers are added; a number and a fraction are not. -/
theorem typed_at_boundary_addition :
    ∃ (h : Handle) (progress after : Wasm.Linked.Progress GuestEvent) (g : Wasm.Function GuestEvent),
      Factory.logging.engine.offered = hostFunctions ∧
      (Factory.logging.build .empty .empty summing .compileNow).1 = .ok h ∧ h.fresh = .ok progress ∧
      h.start (ExecutionSettings.budget .standard) progress = (.ok (), after) ∧
      h.prepared.exported? "add" = some g ∧ h.Runs .standard "add" [.i32 5, .i32 3] g after ∧
      h.Refuses .standard "add" [.i32 5, .f32 0] g after := by
  -- The module is built, started and asked for its function in one computation.
  have starts : ((Factory.logging.build .empty .empty summing .compileNow).1.toOption.bind fun h =>
      h.fresh.toOption.bind fun progress => (h.start (ExecutionSettings.budget .standard) progress).1.toOption.bind fun _ =>
        (h.prepared.exported? "add").map (·.type)) = some ⟨[.i32, .i32], [.i32]⟩ := by
    decide +kernel
  obtain ⟨h, built, starts⟩ := Option.bind_eq_some_iff.1 starts
  obtain ⟨progress, made, starts⟩ := Option.bind_eq_some_iff.1 starts
  obtain ⟨_, started, adds⟩ := Option.bind_eq_some_iff.1 starts
  obtain ⟨g, found, type⟩ := Option.map_eq_some_iff.1 adds
  have built := eq_ok_of_toOption built
  have made := eq_ok_of_toOption made
  have started : h.start (ExecutionSettings.budget .standard) progress = (.ok (), _) :=
    Prod.ext (eq_ok_of_toOption started) rfl
  have takes : g.Takes [.i32 5, .i32 3] := takes_iff.2 ⟨by rw [type]; rfl, [.i32], by rw [type]; rfl⟩
  have other : ¬ g.Takes [.i32 5, .f32 0] := by
    intro takes
    have params := (takes_iff.1 takes).1
    rw [type] at params
    cases params
  exact ⟨h, progress, _, g, rfl, built, made, started, found, (typed_at_boundary rfl built made started found _).1.2 takes,
    (typed_at_boundary rfl built made started found _).2.1 other⟩

end WasmHost
