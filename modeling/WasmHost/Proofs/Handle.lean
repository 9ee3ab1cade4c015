import WasmHost.Handle
import WasmHost.Proofs.Payload

/-! Handles: why building one fails. -/

namespace WasmHost

/-- If something fails, another configuration would not help. -/
def Unconfigured {α : Type} (outcome : Except HostError α) : Prop :=
  ∀ why, outcome = .error why → why.isConfigError = false

namespace Unconfigured

variable {α β ε : Type}

theorem ok (value : α) : Unconfigured (.ok value) := nofun

theorem error {why : HostError} (technical : why.isConfigError = false) :
    Unconfigured (.error why : Except HostError α) := by
  rintro _ ⟨⟩
  exact technical

/-- A fault that is reported as a technical one. -/
theorem mapError {outcome : Except ε α} {form : ε → HostError} (technical : ∀ why, (form why).isConfigError = false) :
    Unconfigured (outcome.mapError form) := by
  cases outcome with
  | error why => exact error (technical why)
  | ok value => exact ok value

theorem bind {first : Except HostError α} {next : α → Except HostError β} (start : Unconfigured first)
    (rest : ∀ value, Unconfigured (next value)) : Unconfigured (first >>= next) := by
  cases first with
  | error why => exact error (start why rfl)
  | ok value => exact rest value

theorem map {outcome : Except HostError α} (start : Unconfigured outcome) (form : α → β) :
    Unconfigured (outcome.map form) := by
  cases outcome with
  | error why => exact error (start why rfl)
  | ok value => exact ok (form value)

end Unconfigured

namespace Engine

/-- Machine code is refused for technical reasons. -/
theorem compile_unconfigured (e : Engine) (m : Wasm.Module) : Unconfigured (e.compile m) := by
  -- The features, the compiler, the pool and the linker each report a fault of their own.
  refine (Unconfigured.mapError fun _ => rfl).bind fun _ => ?_
  refine (Unconfigured.mapError fun _ => rfl).bind fun _ => ?_
  split
  · exact (Unconfigured.mapError fun _ => rfl).bind fun _ => .mapError fun _ => rfl
  · exact .mapError fun _ => rfl

theorem interpret_unconfigured (e : Engine) (m : Wasm.Module) : Unconfigured (e.interpret m) := by
  -- So do they here, and the segments of an instance.
  refine (Unconfigured.mapError fun _ => rfl).bind fun _ => ?_
  refine (Unconfigured.mapError fun _ => rfl).bind fun _ => ?_
  refine (Unconfigured.mapError fun _ => rfl).bind fun linked => ?_
  exact (Unconfigured.mapError fun _ => rfl).bind fun _ => .ok linked

end Engine

/-- An artifact that is there fails for technical reasons, too. -/
theorem Artifact.load_unconfigured (artifact : Artifact) (engine : Engine) (files : Files) :
    Unconfigured (artifact.load engine files) := by
  -- Wherever its bytes come from, they are there or cannot be read.
  cases artifact with
  | refused reason => exact .error rfl
  | bytes value =>
    simp only [load]
    split
    · exact .ok _
    · exact .error rfl
  | file path =>
    simp only [load]
    split
    · exact .ok _
    · exact .error rfl

namespace Factory

/-- Only the lack of an artifact is a matter of configuration, when a handle is built of a payload. -/
theorem compiled_unconfigured (f : Factory) (artifacts : Artifacts) (files : Files) (name : String)
    (payload : Payload) {backend : Backend} (supplied : backend = .precompiled → artifacts.contains name) :
    Unconfigured (f.compiled artifacts files name payload backend) := by
  unfold compiled
  split
  · -- The artifact that is needed is there, by assumption.
    rename_i prebuilt
    obtain ⟨artifact, found⟩ := Option.isSome_iff_exists.mp (supplied prebuilt)
    rw [found]
    exact (artifact.load_unconfigured f.engine files).bind fun code => f.engine.compile_unconfigured code
  · exact f.engine.compile_unconfigured payload.code

/-- A module without its artifact cannot be built if nothing else is allowed. -/
theorem compiled_missing (f : Factory) {artifacts : Artifacts} (files : Files) {name : String} (payload : Payload)
    (missing : artifacts.contains name = false) :
    f.compiled artifacts files name payload .precompiled = .error (.missingArtifact name) := by
  have absent : artifacts.get? name = none := by simpa [Artifacts.contains] using missing
  simp only [compiled, absent, if_true]
  rfl

/-- With its artifact, or without the need for one, a payload is only refused for technical reasons; so it is
if the interpreter may step in. -/
theorem build_unconfigured (f : Factory) (artifacts : Artifacts) (files : Files) {m : HostedModule}
    (payload : m.payload.isSome) {strategy : Strategy}
    (possible : strategy.backend = .precompiled → artifacts.contains m.name ∨ m.intent.fallback.isAllowed) :
    Unconfigured (f.build artifacts files m strategy).1 := by
  obtain ⟨p, supplied⟩ := Option.isSome_iff_exists.mp payload
  simp only [build, supplied]
  -- A handle is interpreted from the start, compiled, or interpreted because compiling failed.
  split
  · exact (f.engine.interpret_unconfigured p.code).map _
  · split
    · exact .ok _
    · rename_i why failed
      by_cases allowed : m.intent.fallback.isAllowed
      · simp only [allowed, if_true]
        exact (f.engine.interpret_unconfigured p.code).map _
      · simp only [allowed]
        -- Nothing steps in, so the artifact must be there if it is needed.
        refine .error (f.compiled_unconfigured artifacts files m.name p (fun prebuilt => ?_) why failed)
        exact (possible prebuilt).resolve_right allowed

/-- Without the artifact that it needs, a module cannot be built, unless the interpreter may step in. -/
theorem build_missing (f : Factory) {artifacts : Artifacts} (files : Files) {m : HostedModule}
    (payload : m.payload.isSome) {strategy : Strategy} (prebuilt : strategy.backend = .precompiled)
    (missing : artifacts.contains m.name = false) (strict : m.intent.fallback.isAllowed = false) :
    (f.build artifacts files m strategy).1 = .error (.missingArtifact m.name) := by
  obtain ⟨p, supplied⟩ := Option.isSome_iff_exists.mp payload
  simp [build, supplied, prebuilt, f.compiled_missing files p missing, strict]

/-- How a handle came about: it runs as it was selected to, or it is interpreted because it could not be compiled. -/
theorem build_eq_ok {f : Factory} {artifacts : Artifacts} {files : Files} {m : HostedModule} {strategy : Strategy}
    {h : Handle} (built : (f.build artifacts files m strategy).1 = .ok h) :
    ∃ p, m.payload = some p ∧ h.moduleName = m.name ∧
      ((strategy.backend = .interpret ∧ h.strategy = strategy ∧ h.fellBack = false ∧
          f.engine.interpret p.code = .ok h.prepared) ∨
        (strategy.backend ≠ .interpret ∧ h.strategy = strategy ∧ h.fellBack = false ∧
          f.compiled artifacts files m.name p strategy.backend = .ok h.prepared) ∨
        (strategy.backend ≠ .interpret ∧ m.intent.fallback.isAllowed ∧ h.strategy = .interpret ∧ h.fellBack ∧
          f.engine.interpret p.code = .ok h.prepared)) := by
  unfold build at built
  split at built
  · cases built
  rename_i p payload
  refine ⟨p, payload, ?_⟩
  split at built
  · rename_i chosen
    cases prepared : f.engine.interpret p.code with
    | error why =>
      rw [prepared] at built
      cases built
    | ok linked =>
      rw [prepared] at built
      cases built
      exact ⟨rfl, .inl ⟨chosen, rfl, rfl, rfl⟩⟩
  · rename_i chosen
    split at built
    · rename_i linked compiled
      cases built
      exact ⟨rfl, .inr (.inl ⟨chosen, rfl, rfl, compiled⟩)⟩
    · -- The interpreter steps in only where it may.
      split at built
      · rename_i allowed
        cases prepared : f.engine.interpret p.code with
        | error why =>
          rw [prepared] at built
          cases built
        | ok linked =>
          rw [prepared] at built
          cases built
          exact ⟨rfl, .inr (.inr ⟨chosen, allowed, rfl, rfl, rfl⟩)⟩
      · cases built

end Factory

/-- The engines under some settings, with a meter, and with no other limits than the settings state. -/
def Engine.metered (settings : EngineSettings) (offered : List (Wasm.HostFunction GuestEvent)) : Engine :=
  ⟨settings, true, offered, statedLimits settings⟩

/-- The engines with standard settings, for guests that import nothing. -/
def Engine.standard : Engine := metered .standard []

/-- A factory with standard settings, for guests that import nothing. -/
def Factory.standard : Factory := ⟨.standard, .standard⟩

/-- The smallest module can be interpreted. -/
theorem exists_prepared_of_smallest {code : Wasm.Module} (parsed : Wasm.Module.parse .all Payload.smallest = .ok code) :
    ∃ prepared, Engine.standard.interpret code = .ok prepared := by
  -- Parsing and linking are computed together.
  have valid : (Wasm.Module.parse .all Payload.smallest).toOption.map
      (fun code => (Engine.standard.interpret code).isOk) = some true := by
    decide +kernel
  rw [parsed] at valid
  cases linked : Engine.standard.interpret code with
  | ok prepared => exact ⟨prepared, rfl⟩
  | error why => simp [Except.toOption, linked, Except.isOk, Except.toBool] at valid

end WasmHost
