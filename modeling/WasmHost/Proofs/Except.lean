import Mathlib.Data.List.Forall2

/-! Computations that may fail: what they consist of when they succeed. -/

namespace WasmHost

variable {α β ε ε' : Type}

/-- After a success the next part goes on with its result. -/
theorem ok_bind (value : α) (next : α → Except ε β) : (Except.ok value >>= next) = next value := rfl

/-- What a computation that succeeds consists of. -/
theorem bind_eq_ok {first : Except ε α} {next : α → Except ε β} {result : β}
    (passed : (first >>= next) = .ok result) : ∃ value, first = .ok value ∧ next value = .ok result := by
  cases first with
  | error why => cases passed
  | ok value => exact ⟨value, rfl, passed⟩

/-- A success in another form is a form of a success. -/
theorem map_eq_ok {outcome : Except ε α} {form : α → β} {result : β} (passed : outcome.map form = .ok result) :
    ∃ value, outcome = .ok value ∧ form value = result := by
  cases outcome with
  | error why => cases passed
  | ok value =>
    cases passed
    exact ⟨value, rfl, rfl⟩

/-- How faults are reported does not matter to what succeeds. -/
theorem mapError_eq_ok {outcome : Except ε α} {form : ε → ε'} {result : α}
    (passed : outcome.mapError form = .ok result) : outcome = .ok result := by
  cases outcome with
  | error why => cases passed
  | ok value =>
    cases passed
    rfl

theorem mapError_eq_ok_iff {outcome : Except ε α} {form : ε → ε'} {result : α} :
    outcome.mapError form = .ok result ↔ outcome = .ok result := by
  refine ⟨mapError_eq_ok, ?_⟩
  rintro rfl
  rfl

@[simp] theorem mapError_ok (form : ε → ε') (value : α) : (Except.ok value).mapError form = .ok value := rfl

@[simp] theorem mapError_error (form : ε → ε') (why : ε) :
    (Except.error why : Except ε α).mapError form = .error (form why) := rfl

/-- Two parts succeed if the first one does, and then the second one on what it gives. -/
theorem exists_bind_iff {first : Except ε α} {next : α → Except ε β} :
    (∃ result, (first >>= next) = .ok result) ↔ ∃ value, first = .ok value ∧ ∃ result, next value = .ok result := by
  cases first <;> simp [bind, Except.bind]

/-- Mapping a success is a success, and a failure stays one. -/
theorem exists_map_iff {outcome : Except ε α} {form : α → β} :
    (∃ result, outcome.map form = .ok result) ↔ ∃ value, outcome = .ok value := by
  cases outcome <;> simp [Except.map]

theorem exists_mapError_iff {outcome : Except ε α} {form : ε → ε'} :
    (∃ result, outcome.mapError form = .ok result) ↔ ∃ value, outcome = .ok value := by
  cases outcome <;> simp

/-- A list of successes is the success of the list. -/
theorem mapM_map_eq_ok {γ : Type} {encode : γ → α} {f : α → Except ε β} {result : γ → β} {items : List γ}
    (each : ∀ item ∈ items, f (encode item) = .ok (result item)) :
    (items.map encode).mapM f = .ok (items.map result) := by
  -- Each item is encoded and decoded on its own.
  induction items with
  | nil => rfl
  | cons item items ih =>
    rw [List.map_cons, List.mapM_cons, each item (List.mem_cons_self ..), ok_bind,
      ih fun item member => each item (List.mem_cons_of_mem _ member)]
    rfl

theorem eq_ok_of_toOption {outcome : Except ε α} {result : α} (passed : outcome.toOption = some result) :
    outcome = .ok result := by
  cases outcome with
  | error why => cases passed
  | ok value =>
    cases passed
    rfl

/-- A function succeeds on a list if it succeeds on each item. -/
theorem exists_mapM_iff {f : α → Except ε β} {items : List α} :
    (∃ results, items.mapM f = .ok results) ↔ ∀ item ∈ items, ∃ result, f item = .ok result := by
  -- Results come one by one, so the list has results if its head has one and its tail has some.
  induction items with
  | nil => simp [pure, Except.pure]
  | cons item items ih =>
    rw [List.mapM_cons, exists_bind_iff, List.forall_mem_cons, ← ih]
    constructor
    · rintro ⟨first, found, results, rest⟩
      obtain ⟨others, mapped, -⟩ := bind_eq_ok rest
      exact ⟨⟨first, found⟩, others, mapped⟩
    · rintro ⟨⟨first, found⟩, others, mapped⟩
      refine ⟨first, found, first :: others, ?_⟩
      rw [mapped, ok_bind]
      rfl

/-- What a function that succeeds on a list gives, it gives item by item. -/
theorem forall₂_of_mapM {f : α → Except ε β} {items : List α} {results : List β} (done : items.mapM f = .ok results) :
    List.Forall₂ (fun item result => f item = .ok result) items results := by
  -- The list succeeds only if its first item and the others do.
  induction items generalizing results with
  | nil =>
    cases done
    exact .nil
  | cons item items ih =>
    rw [List.mapM_cons] at done
    obtain ⟨first, found, rest⟩ := bind_eq_ok done
    obtain ⟨others, mapped, same⟩ := bind_eq_ok rest
    cases same
    exact .cons found (ih mapped)

/-- What each step of a loop that succeeds keeps holds of what it gives. -/
theorem holds_foldlM {holds : β → Prop} {f : β → α → Except ε β} {items : List α} {start last : β}
    (keeps : ∀ state item next, holds state → f state item = .ok next → holds next) (first : holds start)
    (done : items.foldlM f start = .ok last) : holds last := by
  -- The first round keeps it, and the others start from there.
  induction items generalizing start with
  | nil =>
    cases done
    exact first
  | cons item items ih =>
    rw [List.foldlM_cons] at done
    obtain ⟨next, stepped, rest⟩ := bind_eq_ok done
    exact ih (keeps start item next first stepped) rest

/-- Two parts give something if the first one does and the second one does so on it. -/
theorem bind_eq_ok_iff {first : Except ε α} {next : α → Except ε β} {result : β} :
    (first >>= next) = .ok result ↔ ∃ value, first = .ok value ∧ next value = .ok result := by
  refine ⟨bind_eq_ok, ?_⟩
  rintro ⟨value, rfl, rest⟩
  exact rest

/-- A check comes before something if it passes. -/
theorem check_bind_eq_ok_iff {check : Except ε Unit} {next : Unit → Except ε β} {result : β} :
    (check >>= next) = .ok result ↔ check = .ok () ∧ next () = .ok result := by
  rw [bind_eq_ok_iff]
  exact ⟨fun ⟨_, passed, rest⟩ => ⟨passed, rest⟩, fun ⟨passed, rest⟩ => ⟨(), passed, rest⟩⟩

/-- A check that is made under a condition has to pass only there. -/
theorem when_bind_eq_ok_iff {condition : Prop} [Decidable condition] {check : Except ε Unit}
    {next : Except ε β} {result : β} : (if condition then check >>= fun _ => next else next) = .ok result ↔
      (condition → check = .ok ()) ∧ next = .ok result := by
  split
  · rename_i given
    rw [check_bind_eq_ok_iff]
    simp only [given, true_implies]
  · rename_i none
    simp only [none, false_implies, true_and]

/-- A check of all items passes if it passes for each of them. -/
theorem forM_eq_ok_iff {items : List α} {check : α → Except ε Unit} :
    items.forM check = .ok () ↔ ∀ item ∈ items, check item = .ok () := by
  induction items with
  | nil => simp [pure, Except.pure]
  | cons item items ih =>
    show (check item >>= fun _ => items.forM check) = .ok () ↔ _
    rw [check_bind_eq_ok_iff, List.forall_mem_cons, ← ih]

/-- A check of what may be there passes if it passes for what is there. -/
theorem option_forM_eq_ok_iff {item? : Option α} {check : α → Except ε Unit} :
    item?.forM check = .ok () ↔ ∀ item, item? = some item → check item = .ok () := by
  cases item? <;> simp [pure, Except.pure]

end WasmHost
