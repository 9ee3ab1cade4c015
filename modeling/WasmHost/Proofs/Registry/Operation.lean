import Mathlib.Order.Defs.Unbundled
import WasmHost.Registry.Loading

/-! Operations in parts: what an operation leaves behind follows from the steps that it consists of. -/

namespace WasmHost

/-! ### Steps that may fail -/

section Steps

variable {σ ε α β : Type} {first : ExceptT ε (StateM σ) α} {next : α → ExceptT ε (StateM σ) β}

/-- The second part starts where the first one succeeded, and never if the first one failed. -/
theorem run_bind (first : ExceptT ε (StateM σ) α) (next : α → ExceptT ε (StateM σ) β) (s : σ) :
    (first >>= next).run.run s =
      match first.run.run s with
      | (.ok value, middle) => (next value).run.run middle
      | (.error why, middle) => (.error why, middle) := by
  -- Both sides look at the outcome of the first part.
  have opened : (first >>= next).run.run s = StateT.bind first.run (ExceptT.bindCont next) s := rfl
  rw [opened]
  change (match first.run.run s with | (outcome, middle) => ExceptT.bindCont next outcome middle) = _
  rcases first.run.run s with ⟨why | value, middle⟩ <;> rfl

theorem run_bind_eq_ok {s after : σ} {result : β} (done : (first >>= next).run.run s = (.ok result, after)) :
    ∃ value middle, first.run.run s = (.ok value, middle) ∧ (next value).run.run middle = (.ok result, after) := by
  rw [run_bind] at done
  rcases outcome : first.run.run s with ⟨why | value, middle⟩
  · -- A failed first part would be the failure of both.
    rw [outcome] at done
    cases done
  · rw [outcome] at done
    exact ⟨value, middle, rfl, done⟩

/-- What the first part does to this state and the second one to every state is done by them together. -/
theorem run_bind_related {related : σ → σ → Prop} [IsPreorder σ related] {s : σ}
    (before : related s (first.run.run s).2) (after : ∀ value middle, related middle ((next value).run.run middle).2) :
    related s ((first >>= next).run.run s).2 := by
  rw [run_bind]
  rcases outcome : first.run.run s with ⟨why | value, middle⟩ <;> rw [outcome] at before
  · -- A failed first part leaves its state as the last one.
    exact before
  · exact IsTrans.trans _ _ _ before (after value middle)

end Steps

/-! ### Operations -/

namespace Operation

variable {α β : Type}

@[simp] theorem on_pure (value : α) (r : Registry) :
    (pure value : Operation α).on r = (.ok value, r) := rfl

@[simp] theorem on_throw (why : HostError) (r : Registry) :
    (throw why : Operation α).on r = (.error why, r) := rfl

@[simp] theorem on_get (r : Registry) : (get : Operation Registry).on r = (.ok r, r) := rfl

@[simp] theorem on_set (r after : Registry) :
    (set after : Operation PUnit).on r = (.ok ⟨⟩, after) := rfl

@[simp] theorem on_modify (change : Registry → Registry) (r : Registry) :
    (modify change : Operation Unit).on r = (.ok (), change r) := rfl

@[simp] theorem on_lift (outcome : Except HostError α) (r : Registry) :
    (Registry.lift outcome).on r = (outcome, r) := by
  -- Neither outcome looks at the registry.
  cases outcome <;> rfl

@[simp] theorem on_bind (first : Operation α) (next : α → Operation β) (r : Registry) :
    (first >>= next).on r =
      match first.on r with
      | (.ok value, middle) => (next value).on middle
      | (.error why, middle) => (.error why, middle) := by
  unfold on
  rw [run_bind]
  rcases first.run.run r with ⟨why | value, middle⟩ <;> rfl

/-- Another form of the result leaves the same registry behind. -/
@[simp] theorem on_map (form : α → β) (operation : Operation α) (r : Registry) :
    (form <$> operation).on r = ((operation.on r).1.map form, (operation.on r).2) := by
  -- Mapping is a second part that succeeds at once.
  rw [map_eq_pure_bind, on_bind]
  rcases operation.on r with ⟨why | value, middle⟩ <;> rfl

/-- If two parts succeed together, then each of them does. -/
theorem on_bind_eq_ok {first : Operation α} {next : α → Operation β} {r after : Registry} {result : β}
    (done : (first >>= next).on r = (.ok result, after)) :
    ∃ value middle, first.on r = (.ok value, middle) ∧ (next value).on middle = (.ok result, after) :=
  run_bind_eq_ok done

/-- A success in another form is a success. -/
theorem on_map_eq_ok {operation : Operation α} {form : α → β} {r after : Registry} {result : β}
    (done : (form <$> operation).on r = (.ok result, after)) :
    ∃ value, operation.on r = (.ok value, after) ∧ form value = result := by
  rw [on_map] at done
  -- A failure has no form.
  rcases outcome : operation.on r with ⟨why | value, middle⟩
  · rw [outcome] at done
    cases done
  · rw [outcome] at done
    cases done
    exact ⟨value, rfl, rfl⟩

/-- A failure of two parts is one of the first part, or of the second one after a success of the first. -/
theorem on_bind_eq_error {first : Operation α} {next : α → Operation β} {r after : Registry} {why : HostError}
    (failed : (first >>= next).on r = (.error why, after)) :
    first.on r = (.error why, after) ∨
      ∃ value middle, first.on r = (.ok value, middle) ∧ (next value).on middle = (.error why, after) := by
  rw [on_bind] at failed
  -- The second part only runs after a success of the first one.
  rcases outcome : first.on r with ⟨cause | value, middle⟩
  · rw [outcome] at failed
    cases failed
    exact .inl rfl
  · rw [outcome] at failed
    exact .inr ⟨value, middle, rfl, failed⟩

/-- Whatever comes of an operation, the registry that it leaves is related to the one that it found. -/
def Keeps (related : Registry → Registry → Prop) (operation : Operation α) : Prop :=
  ∀ r, related r (operation.on r).2

/-- If an operation fails, the registry that it leaves is related to the one that it found. -/
def FailsKeeping (related : Registry → Registry → Prop) (operation : Operation α) : Prop :=
  ∀ r why after, operation.on r = (.error why, after) → related r after

/-- An operation that no registry makes fail. -/
def Succeeds (operation : Operation α) : Prop := ∀ r, ∃ value after, operation.on r = (.ok value, after)

/-- What an operation gives if it succeeds is of some kind, whatever the registry. -/
def Yields (kind : α → Prop) (operation : Operation α) : Prop :=
  ∀ r value after, operation.on r = (.ok value, after) → kind value

section Keeps

variable {related : Registry → Registry → Prop}

/-- What is kept holds up to the registry that a run leaves, however the run ends. -/
theorem Keeps.of_on {operation : Operation α} (keeps : operation.Keeps related) {r after : Registry}
    {outcome : Except HostError α} (run : operation.on r = (outcome, after)) : related r after := by
  have kept := keeps r
  rwa [run] at kept

/-- A stronger relation is kept by fewer operations. -/
theorem Keeps.weaken {weaker : Registry → Registry → Prop} {operation : Operation α}
    (keeps : operation.Keeps related) (implies : ∀ r after, related r after → weaker r after) :
    operation.Keeps weaker :=
  fun r => implies _ _ (keeps r)

/-- Another form of the result does not matter. -/
theorem Keeps.map {operation : Operation α} (keeps : operation.Keeps related) (form : α → β) :
    Keeps related (form <$> operation) := by
  intro r
  -- The registry is not looked at.
  rw [on_map]
  exact keeps r

variable [IsPreorder Registry related]

theorem Keeps.pure (value : α) : Keeps related (pure value : Operation α) := fun r => refl r

theorem Keeps.throw (why : HostError) : Keeps related (throw why : Operation α) := fun r => refl r

theorem Keeps.get : Keeps related (get : Operation Registry) := fun r => refl r

theorem Keeps.lift (outcome : Except HostError α) : Keeps related (Registry.lift outcome) := by
  intro r
  rw [on_lift]
  exact refl r

/-- What both parts keep is kept by them together, also if there is no second part. -/
theorem Keeps.bind {first : Operation α} {next : α → Operation β} (before : first.Keeps related)
    (after : ∀ value, (next value).Keeps related) : (first >>= next).Keeps related :=
  fun r => run_bind_related (before r) after

/-- What is checked first is known to the rest. -/
theorem Keeps.lift_bind {outcome : Except HostError α} {next : α → Operation β}
    (rest : ∀ value, outcome = .ok value → (next value).Keeps related) :
    (Registry.lift outcome >>= next).Keeps related := by
  intro r
  rw [on_bind, on_lift]
  cases outcome with
  | error why => exact refl r
  | ok value => exact rest value rfl r

/-- What every round of a loop keeps is kept by the whole loop. -/
theorem Keeps.foldlM {round : β → α → Operation β} {items : List α}
    (rounds : ∀ item ∈ items, ∀ state, (round state item).Keeps related) (state : β) :
    (items.foldlM round state).Keeps related := by
  -- Every round hands its state on to the remaining items.
  induction items generalizing state with
  | nil => exact Keeps.pure state
  | cons item items ih =>
    rw [List.foldlM_cons]
    refine (rounds item List.mem_cons_self state).bind fun next => ?_
    exact ih (fun other member => rounds other (List.mem_cons_of_mem item member)) next

end Keeps

section Fails

variable {related : Registry → Registry → Prop}

theorem Succeeds.pure (value : α) : Succeeds (pure value : Operation α) := fun r => ⟨value, r, rfl⟩

theorem Succeeds.modify (change : Registry → Registry) : Succeeds (modify change : Operation Unit) :=
  fun r => ⟨(), change r, rfl⟩

/-- Two parts that always succeed make an operation that does. -/
theorem Succeeds.bind {first : Operation α} {next : α → Operation β} (start : first.Succeeds)
    (rest : ∀ value, (next value).Succeeds) : (first >>= next).Succeeds := by
  intro r
  -- The second part starts on whatever the first one leaves.
  obtain ⟨value, middle, outcome⟩ := start r
  rw [on_bind, outcome]
  exact rest value middle

/-- What is always kept is kept by a failure. -/
theorem Keeps.failsKeeping {operation : Operation α} (keeps : operation.Keeps related) :
    operation.FailsKeeping related :=
  fun _ _ _ failed => keeps.of_on failed

/-- An operation that always succeeds has no failure to speak of. -/
theorem Succeeds.failsKeeping {operation : Operation α} (succeeds : operation.Succeeds) :
    operation.FailsKeeping related := by
  intro r why after failed
  obtain ⟨value, middle, outcome⟩ := succeeds r
  rw [failed] at outcome
  cases outcome

/-- Another form of the result does not matter. -/
theorem FailsKeeping.map {operation : Operation α} (keeping : operation.FailsKeeping related)
    (form : α → β) : FailsKeeping related (form <$> operation) := by
  intro r why after failed
  rw [map_eq_pure_bind] at failed
  rcases on_bind_eq_error failed with early | ⟨value, middle, _, late⟩
  · exact keeping r why after early
  · -- Giving a result another form does not fail.
    cases late

/-- The parts up to the first effect keep everything, and the last part keeps it if it fails. -/
theorem FailsKeeping.bind [IsPreorder Registry related] {first : Operation α} {next : α → Operation β}
    (before : first.Keeps related) (rest : ∀ value, (next value).FailsKeeping related) :
    (first >>= next).FailsKeeping related := by
  intro r why after failed
  rcases on_bind_eq_error failed with early | ⟨value, middle, outcome, late⟩
  · exact before.of_on early
  · -- The second part fails on a registry that is related to the one before.
    exact IsTrans.trans _ _ _ (before.of_on outcome) (rest value middle why after late)

/-- Nothing can go wrong any more after the last part that may fail. -/
theorem FailsKeeping.bind_succeeds {first : Operation α} {next : α → Operation β}
    (keeping : first.FailsKeeping related) (rest : ∀ value, (next value).Succeeds) :
    (first >>= next).FailsKeeping related := by
  intro r why after failed
  rcases on_bind_eq_error failed with early | ⟨value, middle, _, late⟩
  · exact keeping r why after early
  · -- The second part does not fail.
    obtain ⟨result, last, done⟩ := rest value middle
    rw [done] at late
    cases late

end Fails

section Yields

variable {kind : α → Prop}

theorem Yields.pure {value : α} (holds : kind value) : Yields kind (pure value : Operation α) := by
  rintro r result after ⟨⟩
  exact holds

theorem Yields.lift {outcome : Except HostError α} (holds : ∀ value, outcome = .ok value → kind value) :
    Yields kind (Registry.lift outcome) := by
  intro r value after succeeded
  rw [on_lift] at succeeded
  exact holds value (congrArg Prod.fst succeeded)

/-- The second part decides, and may rely on what the first one gives. -/
theorem Yields.bind {first : Operation β} {next : β → Operation α} {middle : β → Prop}
    (before : first.Yields middle) (after : ∀ value, middle value → (next value).Yields kind) :
    (first >>= next).Yields kind := by
  intro r result last succeeded
  obtain ⟨value, registry, start, rest⟩ := on_bind_eq_ok succeeded
  exact after value (before r value registry start) registry result last rest

/-- What any value of the first part leads to. -/
theorem Yields.bind_any {first : Operation β} {next : β → Operation α}
    (after : ∀ value, (next value).Yields kind) : (first >>= next).Yields kind :=
  .bind (fun _ _ _ _ => trivial) fun value _ => after value

/-- Another form of the result is of a kind if every result is in that form. -/
theorem Yields.map {operation : Operation β} {form : β → α} (holds : ∀ value, kind (form value)) :
    Yields kind (form <$> operation) := by
  -- The form is given to the result by a second part.
  rw [map_eq_pure_bind]
  exact .bind_any fun value => .pure (holds value)

end Yields

/-- What every round of a loop hands on holds after the whole loop, if that succeeds. -/
theorem foldlM_invariant (holds : β → Registry → Prop) {round : β → α → Operation β}
    (rounds : ∀ {state item r next after}, holds state r → (round state item).on r = (.ok next, after) →
      holds next after)
    {items : List α} {state last : β} {r after : Registry} (start : holds state r)
    (done : (items.foldlM round state).on r = (.ok last, after)) : holds last after := by
  -- Every round hands its state and its registry on to the remaining items.
  induction items generalizing state r with
  | nil =>
    cases done
    exact start
  | cons item items ih =>
    rw [List.foldlM_cons] at done
    obtain ⟨next, middle, first, rest⟩ := on_bind_eq_ok done
    exact ih (rounds start first) rest

/-- Two loops over the same items stay related if their rounds do, and so the second one succeeds if the first one
does. -/
theorem foldlM_related {round other : β → α → Operation β} {items : List α} {state last : β} {r after : Registry}
    (done : (items.foldlM round state).on r = (.ok last, after)) {state' : β} {r' : Registry}
    (related : β → Registry → β → Registry → Prop) (start : related state r state' r')
    (rounds : ∀ {state item r next after state' r'}, related state r state' r' →
      (round state item).on r = (.ok next, after) →
        ∃ next' after', (other state' item).on r' = (.ok next', after') ∧ related next after next' after') :
    ∃ last' after', (items.foldlM other state').on r' = (.ok last', after') ∧ related last after last' after' := by
  -- Both loops take their next round together.
  induction items generalizing state r state' r' with
  | nil =>
    cases done
    exact ⟨state', r', rfl, start⟩
  | cons item items ih =>
    rw [List.foldlM_cons] at done ⊢
    obtain ⟨next, middle, first, rest⟩ := on_bind_eq_ok done
    obtain ⟨next', middle', first', still⟩ := rounds start first
    obtain ⟨last', after', rest', ends⟩ := ih rest still
    refine ⟨last', after', ?_, ends⟩
    rw [on_bind, first']
    exact rest'

end Operation

end WasmHost
