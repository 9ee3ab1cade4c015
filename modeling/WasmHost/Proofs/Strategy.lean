import WasmHost.Strategy

/-! Strategies: when a choice depends on an artifact. -/

namespace WasmHost.Strategy

variable {deployment : Deployment} {name : String} {origin : Origin} {intent : Intent} {strategy : Strategy}

/-- Whether the choice is up to the artifact of a module: it is static, shall be compiled as a whole, and not
on demand. -/
def Prebuilt (deployment : Deployment) (origin : Origin) (intent : Intent) : Prop :=
  resolveMode origin deployment intent.mode ≠ .interpreter ∧ intent.interpreted.isEmpty ∧ !deployment.isDev ∧
    origin = .static

/-- Then only the artifact and the policy count. -/
theorem select_of_prebuilt (prebuilt : Prebuilt deployment origin intent) (hasArtifact : Bool) :
    (select deployment hasArtifact name origin intent).1 = (selectStatic hasArtifact name intent.fallback).1 := by
  -- All branches that do not look for an artifact are ruled out.
  obtain ⟨compiled, whole, built, rfl⟩ := prebuilt
  simp only [Bool.not_eq_true'] at built
  simp [select, compiled, whole, built]

/-- Otherwise the artifact does not count, and is not used. -/
theorem select_of_not_prebuilt (other : ¬ Prebuilt deployment origin intent) (name : String) :
    ∃ strategy : Strategy, strategy.backend ≠ .precompiled ∧
      ∀ hasArtifact, (select deployment hasArtifact name origin intent).1 = .ok strategy := by
  unfold Prebuilt at other
  -- The first condition that fails, in the order in which they are checked, names the strategy.
  by_cases interpreted : resolveMode origin deployment intent.mode = .interpreter
  · exact ⟨interpret, by decide, fun _ => by simp [select, interpreted]⟩
  by_cases whole : intent.interpreted.isEmpty
  · by_cases dev : deployment.isDev
    · exact ⟨compileNow, by decide, fun _ => by simp [select, interpreted, whole, dev]⟩
    · cases origin with
      | dynamic => exact ⟨compileNow, by decide, fun _ => by simp [select, interpreted, whole, dev]⟩
      | static => simp [interpreted, whole, dev] at other
  · exact ⟨interpret, by decide, fun _ => by simp [select, interpreted, whole]⟩

/-- The choice for a module that may use an artifact. -/
theorem selectStatic_eq_ok {hasArtifact : Bool} {fallback : Fallback}
    (selected : (selectStatic hasArtifact name fallback).1 = .ok strategy) :
    (hasArtifact ∧ strategy = precompiled) ∨ (hasArtifact = false ∧ fallback.isAllowed ∧ strategy = compileNow) := by
  -- First the artifact is tried, and then the policy.
  unfold selectStatic at selected
  split at selected
  · rename_i present
    cases selected
    exact .inl ⟨present, rfl⟩
  · split at selected
    · rename_i absent allowed
      cases selected
      exact .inr ⟨by simpa using absent, allowed, rfl⟩
    · cases selected

/-- With fewer artifacts the same strategy is selected, unless it needs the artifact. -/
theorem select_fewer {some fewer : Bool} (selected : (select deployment some name origin intent).1 = .ok strategy)
    (implies : fewer → some) :
    (select deployment fewer name origin intent).1 = .ok strategy ↔ (strategy.backend = .precompiled → fewer) := by
  -- Only choices that are up to an artifact can change.
  by_cases prebuilt : Prebuilt deployment origin intent
  · rw [select_of_prebuilt prebuilt] at selected ⊢
    rcases selectStatic_eq_ok selected with ⟨present, rfl⟩ | ⟨absent, allowed, rfl⟩
    · cases fewer with
      | true => simp [selectStatic, precompiled]
      | false =>
        by_cases allowed : intent.fallback.isAllowed <;> simp [selectStatic, allowed, precompiled, compileNow]
    · -- An artifact that was missing before is still missing.
      have none : fewer = false := by
        rw [absent] at implies
        simpa using implies
      simp [selectStatic, none, allowed, compileNow]
  · obtain ⟨other, unused, always⟩ := select_of_not_prebuilt prebuilt name
    rw [always some, Except.ok.injEq] at selected
    subst selected
    simp [always fewer, unused]

/-- The strategies that can be selected, each with what speaks for it. -/
theorem select_eq_ok {hasArtifact : Bool} (selected : (select deployment hasArtifact name origin intent).1 = .ok strategy) :
    (strategy = interpret ∧
        (resolveMode origin deployment intent.mode = .interpreter ∨ intent.interpreted ≠ [])) ∨
      (strategy = compileNow ∧ resolveMode origin deployment intent.mode ≠ .interpreter ∧ intent.interpreted = [] ∧
        (deployment = .dev ∨ origin = .dynamic ∨ intent.fallback.isAllowed)) ∨
      (strategy = precompiled ∧ resolveMode origin deployment intent.mode ≠ .interpreter ∧ intent.interpreted = [] ∧
        deployment ≠ .dev ∧ origin = .static ∧ hasArtifact) := by
  -- What the choice comes to is compared with what was selected.
  have same : ∀ {other : Strategy}, (select deployment hasArtifact name origin intent).1 = .ok other → strategy = other :=
    fun chosen => Except.ok.inj (selected.symm.trans chosen)
  -- The conditions are looked at in the order in which they are checked.
  by_cases interpreted : resolveMode origin deployment intent.mode = .interpreter
  · exact .inl ⟨same (by simp [select, interpreted]), .inl interpreted⟩
  by_cases whole : intent.interpreted = []
  · by_cases dev : deployment.isDev
    · have isDev : deployment = .dev := by simpa [Deployment.isDev] using dev
      exact .inr (.inl ⟨same (by simp [select, interpreted, whole, dev]), interpreted, whole, .inl isDev⟩)
    · cases origin with
      | dynamic => exact .inr (.inl ⟨same (by simp [select, interpreted, whole, dev]), interpreted, whole, .inr (.inl rfl)⟩)
      | static =>
        have prebuilt : Prebuilt deployment .static intent := ⟨interpreted, by simp [whole], by simp [dev], rfl⟩
        have built : deployment ≠ .dev := by simpa [Deployment.isDev] using dev
        rw [select_of_prebuilt prebuilt] at selected
        rcases selectStatic_eq_ok selected with ⟨present, same⟩ | ⟨_, allowed, same⟩
        · exact .inr (.inr ⟨same, interpreted, whole, built, rfl, present⟩)
        · exact .inr (.inl ⟨same, interpreted, whole, .inr (.inr allowed)⟩)
  · exact .inl ⟨same (by simp [select, interpreted, whole]), .inr whole⟩

/-- All that can be missing for a choice is an artifact. -/
theorem select_eq_error {hasArtifact : Bool} {why : HostError}
    (failed : (select deployment hasArtifact name origin intent).1 = .error why) : why = .missingArtifact name := by
  -- Only where everything is prebuilt can a choice fail.
  by_cases prebuilt : Prebuilt deployment origin intent
  · rw [select_of_prebuilt prebuilt, selectStatic] at failed
    split at failed
    · cases failed
    split at failed
    · cases failed
    · cases failed
      rfl
  · obtain ⟨other, _, always⟩ := select_of_not_prebuilt prebuilt name
    rw [always hasArtifact] at failed
    cases failed

end WasmHost.Strategy
