import WasmHost.Proofs.Handle
import WasmHost.Proofs.Registry.Tidy
import WasmHost.Proofs.Strategy

/-! Policy: which backends may run a context, from the selection of its strategy to the handle that was built. -/

namespace WasmHost

/-- The strategy of a context is one that is selected for its module, whatever artifacts there were. -/
def Governed : Registry.Trait := fun deployment c =>
  ∃ hasArtifact, (Strategy.select deployment hasArtifact c.name c.origin c.hosted.intent).1 = .ok c.strategy

theorem fits_governed (m : HostedModule) : Registry.Fits Governed m := fun _ hasArtifact _ _ selected => ⟨hasArtifact, selected⟩

/-- A handle of a context obeys what the deployment, the origin and the declaration of the module say. -/
structure Follows (deployment : Deployment) (c : Context) (h : Handle) : Prop where
  /-- Prebuilt artifacts are ignored in development. -/
  development : deployment = .dev → h.strategy.backend ≠ .precompiled
  /-- A native deployment compiles nothing that comes at run time. -/
  native : deployment = .prodNative → c.origin = .dynamic → h.strategy = .interpret
  /-- Functions that must be interpreted make the whole module interpreted. -/
  forced : c.hosted.intent.interpreted ≠ [] → h.strategy = .interpret
  /-- A static module is not compiled on demand where it must not. -/
  strict : deployment ≠ .dev → c.origin = .static → c.hosted.intent.fallback = .fail → h.strategy.backend ≠ .compileNow
  /-- No artifact stands in for a payload that comes at run time. -/
  dynamic : c.origin = .dynamic → h.strategy.backend ≠ .precompiled
  /-- The interpreter steps in where it may, and nothing else does. -/
  deviates : h.strategy.backend ≠ c.strategy.backend →
    c.hosted.intent.fallback = .toInterpreter ∧ h.strategy = .interpret ∧ h.fellBack
  /-- It is told if the interpreter stepped in, and only then. -/
  told : h.fellBack → h.strategy.backend ≠ c.strategy.backend

/-- The backend of a handle tells what it was linked from. -/
structure Runs (f : Factory) (c : Context) (h : Handle) : Prop where
  name : h.moduleName = c.name
  interpreted : h.strategy.backend = .interpret →
    ∃ p, c.hosted.payload = some p ∧ f.engine.interpret p.code = .ok h.prepared
  compiled : h.strategy.backend = .compileNow →
    ∃ p, c.hosted.payload = some p ∧ f.engine.compile p.code = .ok h.prepared
  prebuilt : h.strategy.backend = .precompiled →
    ∃ artifacts files artifact code, Artifacts.get? artifacts c.name = some artifact ∧
      artifact.load f.engine files = .ok code ∧ f.engine.compile code = .ok h.prepared

namespace Factory

variable {f : Factory} {artifacts : Artifacts} {files : Files} {name : String} {p : Payload} {prepared : Prepared}

/-- Machine code comes from the artifact, if the backend asks for it. -/
theorem compiled_artifact (linked : f.compiled artifacts files name p .precompiled = .ok prepared) :
    ∃ artifact code, artifacts.get? name = some artifact ∧ artifact.load f.engine files = .ok code ∧
      f.engine.compile code = .ok prepared := by
  rw [compiled, if_pos rfl] at linked
  split at linked
  · -- It is loaded first.
    rename_i artifact found
    obtain ⟨code, loaded, linked⟩ := bind_eq_ok linked
    exact ⟨artifact, code, found, loaded, linked⟩
  · cases linked

theorem compiled_payload {backend : Backend} (other : backend ≠ .precompiled)
    (linked : f.compiled artifacts files name p backend = .ok prepared) : f.engine.compile p.code = .ok prepared := by
  rw [compiled, if_neg other] at linked
  exact linked

end Factory

variable {r : Registry} {c : Context} {h : Handle}

/-- A handle that was built for a context runs what its backend says. -/
theorem runs_of_attempted (attempted : Registry.Attempted r c (.ok h)) : Runs r.factory c h := by
  obtain ⟨artifacts, files, built⟩ := attempted
  obtain ⟨p, payload, name, made⟩ := Factory.build_eq_ok built.symm
  rcases made with ⟨chosen, same, _, linked⟩ | ⟨chosen, same, _, linked⟩ | ⟨_, _, same, _, linked⟩
  · -- The interpreter was selected.
    rw [← same] at chosen
    exact ⟨name, fun _ => ⟨p, payload, linked⟩, by simp [chosen], by simp [chosen]⟩
  · -- A compiled backend was selected, and it remains to tell which one.
    rw [← same] at chosen linked
    refine ⟨name, fun interpreted => (chosen interpreted).elim, fun onDemand => ?_, fun prebuilt => ?_⟩
    · exact ⟨p, payload, Factory.compiled_payload (by simp [onDemand]) linked⟩
    · rw [prebuilt] at linked
      obtain ⟨artifact, code, found, loaded, linked⟩ := Factory.compiled_artifact linked
      exact ⟨artifacts, files, artifact, code, found, loaded, linked⟩
  · -- The interpreter stepped in.
    exact ⟨name, fun _ => ⟨p, payload, linked⟩, by simp [same, Strategy.interpret], by simp [same, Strategy.interpret]⟩

/-- Whoever is interpreted violates nothing, as long as a change of the backend is allowed and told. -/
theorem Follows.of_interpret {deployment : Deployment} (same : h.strategy = .interpret)
    (deviates : c.strategy.backend ≠ .interpret → c.hosted.intent.fallback = .toInterpreter ∧ h.fellBack)
    (told : h.fellBack → c.strategy.backend ≠ .interpret) : Follows deployment c h := by
  have backend : h.strategy.backend = .interpret := by rw [same]; rfl
  refine ⟨fun _ => by simp [backend], fun _ _ => same, fun _ => same, fun _ _ _ => by simp [backend],
    fun _ => by simp [backend], fun other => ?_, fun fellBack => ?_⟩
  · rw [backend, ne_comm] at other
    obtain ⟨allowed, fellBack⟩ := deviates other
    exact ⟨allowed, same, fellBack⟩
  · rw [backend, ne_comm]
    exact told fellBack

/-- A handle with the strategy of its context follows the policy, as this one was selected by it. -/
theorem Follows.of_governed {deployment : Deployment} (governed : Governed deployment c) (same : h.strategy = c.strategy)
    (told : h.fellBack = false) : Follows deployment c h := by
  obtain ⟨hasArtifact, selected⟩ := governed
  have alike : h.strategy.backend ≠ c.strategy.backend → False := fun other => other (by rw [same])
  have silent : ¬ h.fellBack := by simp [told]
  -- The cases are the strategies that can be selected, with the reasons for them.
  rcases Strategy.select_eq_ok selected with ⟨chosen, _⟩ | ⟨chosen, compiled, whole, reason⟩ | ⟨chosen, compiled, whole, built, static, _⟩
  · refine .of_interpret (same.trans chosen) (fun other => ?_) fun fellBack => (silent fellBack).elim
    rw [chosen] at other
    exact (other rfl).elim
  · have backend : h.strategy.backend = .compileNow := by rw [same, chosen]; rfl
    refine ⟨fun _ => by simp [backend], ?_, fun forced => (forced whole).elim, ?_, fun _ => by simp [backend],
      fun other => (alike other).elim, fun fellBack => (silent fellBack).elim⟩
    · -- A native deployment would have it interpreted.
      rintro rfl dynamic
      rw [dynamic] at compiled
      exact (compiled rfl).elim
    · -- None of the reasons to compile a module on demand applies.
      intro deployed static strict
      rcases reason with dev | dynamic | allowed
      · exact (deployed dev).elim
      · rw [static] at dynamic
        cases dynamic
      · rw [strict] at allowed
        cases allowed
  · have backend : h.strategy.backend = .precompiled := by rw [same, chosen]; rfl
    refine ⟨fun dev => (built dev).elim, fun _ dynamic => ?_, fun forced => (forced whole).elim,
      fun _ _ _ => by simp [backend], fun dynamic => ?_, fun other => (alike other).elim,
      fun fellBack => (silent fellBack).elim⟩
    -- What is left is about dynamic modules, and this one is static.
    all_goals
      rw [static] at dynamic
      cases dynamic

/-- Every handle follows the policy, because its strategy was selected by it or because the interpreter stepped in. -/
theorem follows_of_attempted (governed : Governed r.deployment c) (attempted : Registry.Attempted r c (.ok h)) :
    Follows r.deployment c h := by
  obtain ⟨artifacts, files, built⟩ := attempted
  obtain ⟨p, payload, _, made⟩ := Factory.build_eq_ok built.symm
  rcases made with ⟨_, same, told, _⟩ | ⟨_, same, told, _⟩ | ⟨chosen, allowed, same, told, _⟩
  · exact .of_governed governed same told
  · exact .of_governed governed same told
  · exact .of_interpret same (fun _ => ⟨by simpa [Fallback.isAllowed] using allowed, told⟩) fun _ => chosen

end WasmHost
