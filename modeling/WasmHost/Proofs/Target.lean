import WasmHost.Handle

/-! What a call asks for: the function is there, has to do with numbers only, and takes the arguments. -/

namespace WasmHost

namespace NumberType

/-- The value type that stands for a type of numbers. -/
def valType : NumberType → Wasm.ValType
  | .i32 => .i32
  | .i64 => .i64
  | .f32 => .f32
  | .f64 => .f64

theorem ofValType?_eq_some {type : Wasm.ValType} {number : NumberType} :
    ofValType? type = some number ↔ type = number.valType := by
  cases type <;> cases number <;> simp [ofValType?, valType]

/-- A value type stands for numbers. -/
def IsNumeric (type : Wasm.ValType) : Prop := ∃ number : NumberType, type = number.valType

/-- Types that stand for numbers are those of some numbers. -/
theorem exists_numbers {types : List Wasm.ValType} (numeric : ∀ type ∈ types, IsNumeric type) :
    ∃ numbers : List NumberType, types = numbers.map valType := by
  induction types with
  | nil => exact ⟨[], rfl⟩
  | cons type types ih =>
    obtain ⟨⟨number, rfl⟩, others⟩ := List.forall_mem_cons.1 numeric
    obtain ⟨numbers, rfl⟩ := ih others
    exact ⟨number :: numbers, rfl⟩

theorem mapM_valType (numbers : List NumberType) : (numbers.map valType).mapM ofValType? = some numbers := by
  induction numbers with
  | nil => rfl
  | cons number numbers ih => simp [List.mapM_cons, ih, ofValType?_eq_some.2 rfl]

/-- Types do not stand for numbers if one of them does not. -/
theorem mapM_of_other {types : List Wasm.ValType} (other : ∃ type ∈ types, ¬ IsNumeric type) :
    types.mapM ofValType? = none := by
  obtain ⟨type, member, other⟩ := other
  have unknown : ofValType? type = none :=
    Option.eq_none_iff_forall_ne_some.2 fun number found => other ⟨number, ofValType?_eq_some.1 found⟩
  -- The types are converted one by one, and one of them cannot be.
  induction types with
  | nil => cases member
  | cons first types ih =>
    rcases List.mem_cons.1 member with rfl | later
    · simp [List.mapM_cons, unknown]
    · cases number : ofValType? first <;> simp [List.mapM_cons, number, ih later]

end NumberType

namespace Handle

variable {h : Handle} {exported : String} {arguments : List Value} {f : Wasm.Function GuestEvent}
  {results : List NumberType}

/-- Without a function of the name, nothing is called. -/
theorem target_of_missing (missing : h.prepared.exported? exported = none) :
    h.target exported arguments = .error (.exportNotFound h.moduleName exported) := by
  simp only [target, missing]
  rfl

/-- A function of other values than numbers is not called. -/
theorem target_of_other (found : h.prepared.exported? exported = some f)
    (other : ∃ type ∈ f.type.params ++ f.type.results, ¬ NumberType.IsNumeric type) :
    h.target exported arguments = .error (.invalidArgument (.notNumeric exported h.moduleName)) := by
  obtain ⟨type, member, other⟩ := other
  simp only [target, found]
  -- Parameters are asked first, but both lead to the same answer.
  rcases List.mem_append.1 member with parameter | result
  · rw [NumberType.mapM_of_other ⟨type, parameter, other⟩]
    rfl
  · rw [NumberType.mapM_of_other ⟨type, result, other⟩]
    cases f.type.params.mapM NumberType.ofValType? <;> rfl

variable {parameters : List NumberType}

/-- A function of another number of parameters is not called. -/
theorem target_of_count (found : h.prepared.exported? exported = some f)
    (takes : f.type.params = parameters.map NumberType.valType) (gives : f.type.results = results.map NumberType.valType)
    (count : parameters.length ≠ arguments.length) :
    h.target exported arguments = .error (.invalidArgument (.count exported parameters.length arguments.length)) := by
  simp only [target, found, takes, gives, NumberType.mapM_valType, if_pos count]
  rfl

/-- Neither is one whose parameters have other types, and the lowest position is named. -/
theorem target_of_mismatch (found : h.prepared.exported? exported = some f)
    (takes : f.type.params = parameters.map NumberType.valType) (gives : f.type.results = results.map NumberType.valType)
    (count : parameters.length = arguments.length) {index : Nat} {type : NumberType} {argument : Value}
    (wanted : parameters[index]? = some type) (given : arguments[index]? = some argument) (differ : type ≠ argument.type)
    (before : ∀ earlier < index, parameters[earlier]? = (arguments[earlier]?).map (·.type)) :
    h.target exported arguments =
      .error (.invalidArgument (.type index exported type.name argument.type.name)) := by
  -- The search goes from the left, so it finds the position before which all types agree.
  have lowest : mismatch? parameters arguments = some index := by
    obtain ⟨inside, here⟩ := List.getElem?_eq_some_iff.1 wanted
    obtain ⟨inside', here'⟩ := List.getElem?_eq_some_iff.1 given
    refine List.findIdx?_eq_some_iff_getElem.2 ⟨by rw [List.length_zip]; omega, by simpa [here, here'] using differ, ?_⟩
    intro earlier below
    have agrees := before earlier below
    rw [List.getElem?_eq_getElem (by omega), List.getElem?_eq_getElem (by omega)] at agrees
    simpa using Option.some.inj agrees
  have same : ¬ parameters.length ≠ arguments.length := by simp [count]
  simp only [target, found, takes, gives, NumberType.mapM_valType, if_neg same, lowest, wanted, given]
  rfl

/-- A function that has to do with numbers and takes the arguments is called. -/
theorem target_of_fits (found : h.prepared.exported? exported = some f)
    (takes : f.type.params = (arguments.map (·.type)).map NumberType.valType)
    (gives : f.type.results = results.map NumberType.valType) : h.target exported arguments = .ok (f, results) := by
  -- No argument differs in type from itself.
  have fits : mismatch? (arguments.map (·.type)) arguments = none := by
    refine List.findIdx?_eq_none_iff.2 fun pair member => ?_
    obtain ⟨index, inside, rfl⟩ := List.getElem_of_mem member
    simp
  have count : ¬ (arguments.map (·.type)).length ≠ arguments.length := by simp
  simp only [target, found, takes, gives, NumberType.mapM_valType, if_neg count, fits]
  rfl

/-- Arguments of as many types as there are parameters fit, or there is a lowest position at which they do not. -/
theorem fits_or_differs (parameters : List NumberType) (arguments : List Value)
    (count : parameters.length = arguments.length) : parameters = arguments.map (·.type) ∨
      ∃ (index : Nat) (type : NumberType) (argument : Value), parameters[index]? = some type ∧
        arguments[index]? = some argument ∧ type ≠ argument.type ∧
        ∀ earlier < index, parameters[earlier]? = (arguments[earlier]?).map (·.type) := by
  -- The induction is on the parameters, and the arguments are as many.
  induction parameters generalizing arguments with
  | nil => exact .inl (by simpa using List.length_eq_zero_iff.1 count.symm)
  | cons type parameters ih =>
    obtain ⟨argument, arguments, rfl⟩ := List.exists_cons_of_length_eq_add_one count.symm
    by_cases first : type = argument.type
    · rcases ih arguments (by simpa using count) with fits | ⟨index, wanted, given, here, there, differ, before⟩
      · exact .inl (by simp [first, fits])
      · -- The position in what follows is one further on.
        refine .inr ⟨index + 1, wanted, given, here, there, differ, fun earlier below => ?_⟩
        cases earlier with
        | zero => simp [first]
        | succ earlier => simpa using before earlier (by omega)
    · exact .inr ⟨0, type, argument, rfl, rfl, first, by simp⟩

/-- How the request for a function that is there is answered. -/
inductive Answered (h : Handle) (exported : String) (arguments : List Value) (f : Wasm.Function GuestEvent) : Prop where
  /-- Something else than numbers goes in or comes out. -/
  | other (other : ∃ type ∈ f.type.params ++ f.type.results, ¬ NumberType.IsNumeric type)
    (refused : h.target exported arguments = .error (.invalidArgument (.notNumeric exported h.moduleName)))
  /-- There are more or less arguments than parameters. -/
  | count (parameters results : List NumberType) (takes : f.type.params = parameters.map NumberType.valType)
    (gives : f.type.results = results.map NumberType.valType) (differ : parameters.length ≠ arguments.length)
    (refused : h.target exported arguments =
      .error (.invalidArgument (.count exported parameters.length arguments.length)))
  /-- A lowest position has another type. -/
  | type (parameters results : List NumberType) (takes : f.type.params = parameters.map NumberType.valType)
    (gives : f.type.results = results.map NumberType.valType) (count : parameters.length = arguments.length)
    (index : Nat) (type : NumberType) (argument : Value) (wanted : parameters[index]? = some type)
    (given : arguments[index]? = some argument) (differ : type ≠ argument.type)
    (before : ∀ earlier < index, parameters[earlier]? = (arguments[earlier]?).map (·.type))
    (refused : h.target exported arguments =
      .error (.invalidArgument (.type index exported type.name argument.type.name)))
  /-- The arguments fit. -/
  | fits (results : List NumberType) (takes : f.type.params = (arguments.map (·.type)).map NumberType.valType)
    (gives : f.type.results = results.map NumberType.valType) (granted : h.target exported arguments = .ok (f, results))

/-- There are no other answers. -/
theorem answered (arguments : List Value) (found : h.prepared.exported? exported = some f) : h.Answered exported arguments f := by
  by_cases numeric : ∀ type ∈ f.type.params ++ f.type.results, NumberType.IsNumeric type
  · obtain ⟨parameters, takes⟩ := NumberType.exists_numbers fun type member => numeric type (List.mem_append_left _ member)
    obtain ⟨results, gives⟩ := NumberType.exists_numbers fun type member => numeric type (List.mem_append_right _ member)
    -- The count is asked before the types.
    by_cases count : parameters.length = arguments.length
    · rcases fits_or_differs parameters arguments count with fits | ⟨index, type, argument, wanted, given, differ, before⟩
      · rw [fits] at takes
        exact .fits results takes gives (target_of_fits found takes gives)
      · exact .type parameters results takes gives count index type argument wanted given differ before
          (target_of_mismatch found takes gives count wanted given differ before)
    · exact .count parameters results takes gives count (target_of_count found takes gives count)
  · have other : ∃ type ∈ f.type.params ++ f.type.results, ¬ NumberType.IsNumeric type := by simpa using numeric
    exact .other other (target_of_other found other)

/-- Whatever is called is what is exported under the name. -/
theorem exported_of_target (granted : h.target exported arguments = .ok (f, results)) :
    h.prepared.exported? exported = some f := by
  cases found : h.prepared.exported? exported with
  | none =>
    rw [target_of_missing found] at granted
    cases granted
  | some there =>
    -- Of all answers one only grants the call.
    cases answered arguments found with
    | other _ refused | count _ _ _ _ _ refused | type _ _ _ _ _ _ _ _ _ _ _ _ refused =>
      rw [refused] at granted
      cases granted
    | fits _ _ _ granted' =>
      cases granted'.symm.trans granted
      rfl

end Handle

end WasmHost
