import WasmHost.Proofs.Backends
import WasmHost.Proofs.Registry.Resolution

/-! Fallback: a module for which the interpreter may step in is served by one of two handles that can be had without
any policy, the selected one or the interpreted one. -/

namespace WasmHost

namespace HostedModule

/-- A module with another policy. -/
def under (policy : Fallback) (m : HostedModule) : HostedModule :=
  { m with intent := { m.intent with fallback := policy } }

@[simp] theorem under_name (policy : Fallback) (m : HostedModule) : (m.under policy).name = m.name := rfl

theorem under_own (m : HostedModule) : m.under m.intent.fallback = m := rfl

end HostedModule

namespace Context

/-- A context of the same module with another policy. -/
def under (policy : Fallback) (c : Context) : Context := { c with hosted := c.hosted.under policy }

/-- A context of the same module with another strategy. -/
def following (strategy : Strategy) (c : Context) : Context := { c with strategy := strategy }

@[simp] theorem under_hosted (policy : Fallback) (c : Context) : (c.under policy).hosted = c.hosted.under policy := rfl

@[simp] theorem under_name (policy : Fallback) (c : Context) : (c.under policy).name = c.name := rfl

@[simp] theorem under_strategy (policy : Fallback) (c : Context) : (c.under policy).strategy = c.strategy := rfl

@[simp] theorem following_hosted (strategy : Strategy) (c : Context) : (c.following strategy).hosted = c.hosted := rfl

@[simp] theorem following_name (strategy : Strategy) (c : Context) : (c.following strategy).name = c.name := rfl

@[simp] theorem following_strategy (strategy : Strategy) (c : Context) : (c.following strategy).strategy = strategy := rfl

end Context

namespace Factory

/-! ### Preparations -/

section Preparations

variable {μ : Type → Type} [Monad μ]

/-- Builds a handle by two ways to prepare a payload, which may do anything else besides, such as leaving a trace. -/
def buildBy (compiled interpreted : Payload → μ (Except HostError Prepared)) (m : HostedModule)
    (strategy : Strategy) : μ (Except HostError Handle × List Warning) :=
  match m.payload with
  | none => pure (.error (.missingPayload m.name), [])
  | some payload =>
    if strategy.backend = .interpret then do
      let prepared ← interpreted payload
      return (prepared.map fun prepared => ⟨m.name, strategy, false, prepared⟩, [])
    else do
      match ← compiled payload with
      | .ok prepared => return (.ok ⟨m.name, strategy, false, prepared⟩, [])
      | .error why =>
        if m.intent.fallback.isAllowed then do
          let prepared ← interpreted payload
          return (prepared.map fun prepared => ⟨m.name, .interpret, true, prepared⟩, [.fellBack])
        else return (.error why, [])

/-- This is how handles are built, if the preparations do nothing besides. -/
theorem build_eq_buildBy (f : Factory) (artifacts : Artifacts) (files : Files) (m : HostedModule) (strategy : Strategy) :
    f.build artifacts files m strategy =
      buildBy (μ := Id) (fun p => f.compiled artifacts files m.name p strategy.backend)
        (fun p => f.engine.interpret p.code) m strategy := by
  -- The two differ in nothing but the monad.
  cases payload : m.payload with
  | none => simp only [build, buildBy, payload]; rfl
  | some p =>
    simp only [build, buildBy, payload]
    split
    · rfl
    · cases f.compiled artifacts files m.name p strategy.backend with
      | ok prepared => rfl
      | error why => by_cases allowed : m.intent.fallback.isAllowed <;> simp [allowed] <;> rfl

variable {m : HostedModule} {strategy : Strategy} {p : Payload}

/-- Where nothing may step in, no interpreter is prepared for a module that shall be compiled. -/
theorem buildBy_of_strict (strict : m.intent.fallback.isAllowed = false) (compiles : strategy.backend ≠ .interpret)
    (compiled interpreted other : Payload → μ (Except HostError Prepared)) :
    buildBy compiled interpreted m strategy = buildBy compiled other m strategy := by
  cases payload : m.payload <;> simp [buildBy, payload, compiles, strict]

/-- A module that shall be interpreted is not compiled, and so no artifact is looked for. -/
theorem buildBy_of_interpret (interprets : strategy.backend = .interpret)
    (compiled interpreted other : Payload → μ (Except HostError Prepared)) :
    buildBy compiled interpreted m strategy = buildBy other interpreted m strategy := by
  cases payload : m.payload <;> simp [buildBy, payload, interprets]

/-- With fallback, building is building without it, and if that fails for a module that shall be compiled, building
for the interpreter right away. -/
theorem buildBy_of_lenient [LawfulMonad μ] (payload : m.payload = some p)
    (compiled interpreted : Payload → μ (Except HostError Prepared)) (policy : Fallback) :
    buildBy compiled interpreted (m.under .toInterpreter) strategy = (do
      let first ← buildBy compiled interpreted (m.under .fail) strategy
      if first.1.isOk ∨ strategy.backend = .interpret then return first
      else
        let second ← buildBy compiled interpreted (m.under policy) .interpret
        return (second.1.map fun h => { h with fellBack := true }, [.fellBack])) := by
  have allowed : Fallback.toInterpreter.isAllowed := rfl
  have strict : Fallback.fail.isAllowed = false := rfl
  by_cases interprets : strategy.backend = .interpret
  · -- Nothing is compiled, and so nothing can step in.
    simp [buildBy, HostedModule.under, payload, interprets]
  · simp only [buildBy, HostedModule.under, payload, interprets, allowed, strict, if_false, if_true, Strategy.interpret,
      bind_assoc]
    -- Both ways begin with the attempt to compile, and part where it fails.
    refine bind_congr fun outcome => ?_
    cases outcome with
    | ok prepared => simp [Except.isOk, Except.toBool]
    | error why =>
      simp only [Bool.false_eq_true, if_false, pure_bind, Except.isOk, Except.toBool, or_self]
      refine bind_congr fun prepared => ?_
      cases prepared <;> simp [Except.map]

end Preparations

/-! ### Plain builds -/

variable {f : Factory} {artifacts : Artifacts} {files : Files} {m : HostedModule} {strategy : Strategy} {p : Payload}

/-- Why there is no machine code for a payload. -/
inductive Uncompiled (f : Factory) (artifacts : Artifacts) (files : Files) (name : String) (p : Payload) :
    Backend → HostError → Prop where
  /-- The artifact that is needed is missing. -/
  | missing (absent : artifacts.get? name = none) : Uncompiled f artifacts files name p .precompiled (.missingArtifact name)
  /-- The artifact gives no code. -/
  | refused {artifact : Artifact} {why : HostError} (found : artifacts.get? name = some artifact)
    (failed : artifact.load f.engine files = .error why) : Uncompiled f artifacts files name p .precompiled why
  /-- Its code is not accepted, or not linked. -/
  | unfit {artifact : Artifact} {code : Wasm.Module} {why : HostError} (found : artifacts.get? name = some artifact)
    (loaded : artifact.load f.engine files = .ok code) (failed : f.engine.compile code = .error why) :
    Uncompiled f artifacts files name p .precompiled why
  /-- The code of the payload is not accepted, or not linked. -/
  | onDemand {why : HostError} (failed : f.engine.compile p.code = .error why) :
    Uncompiled f artifacts files name p .compileNow why

/-- These are all reasons, and each of them is reported as it is. -/
theorem compiled_eq_error_iff {name : String} {backend : Backend} (compiles : backend ≠ .interpret) {why : HostError} :
    f.compiled artifacts files name p backend = .error why ↔ Uncompiled f artifacts files name p backend why := by
  constructor
  · intro failed
    cases backend with
    | interpret => exact absurd rfl compiles
    | compileNow => exact .onDemand failed
    -- An artifact is looked up, loaded and linked, and each of these can fail.
    | precompiled =>
      simp only [compiled, if_true] at failed
      split at failed
      · rename_i artifact found
        cases loaded : artifact.load f.engine files with
        | error cause =>
          rw [loaded] at failed
          cases failed
          exact .refused found loaded
        | ok code =>
          rw [loaded] at failed
          exact .unfit found loaded failed
      · rename_i absent
        cases failed
        exact .missing absent
  · intro reason
    cases reason with
    | missing absent => simp only [compiled, if_true, absent]; rfl
    | refused found failed => simp only [compiled, if_true, found, failed]; rfl
    | unfit found loaded failed =>
      simp only [compiled, if_true, found, loaded]
      exact failed
    | onDemand failed => exact failed

/-- Without fallback, a module that shall be compiled is built of its machine code, or fails for the lack of it. -/
theorem build_of_strict (payload : m.payload = some p) (compiles : strategy.backend ≠ .interpret) :
    (f.build artifacts files (m.under .fail) strategy).1 =
      (f.compiled artifacts files m.name p strategy.backend).map fun prepared => ⟨m.name, strategy, false, prepared⟩ := by
  simp only [build, HostedModule.under, payload, compiles, if_false]
  cases f.compiled artifacts files m.name p strategy.backend <;> rfl

/-- A module that shall be interpreted is built for the interpreter, whatever its policy. -/
theorem build_of_interpret (payload : m.payload = some p) (interprets : strategy.backend = .interpret) :
    (f.build artifacts files m strategy).1 =
      (f.engine.interpret p.code).map fun prepared => ⟨m.name, strategy, false, prepared⟩ := by
  simp only [build, payload, interprets, if_true]

/-- With fallback, a handle is what it is without, and only if there is none it is the interpreted one. -/
theorem build_of_lenient (payload : m.payload = some p) (policy : Fallback) :
    (f.build artifacts files (m.under .toInterpreter) strategy).1 =
      if (f.build artifacts files (m.under .fail) strategy).1.isOk ∨ strategy.backend = .interpret then
        (f.build artifacts files (m.under .fail) strategy).1
      else (f.build artifacts files (m.under policy) .interpret).1.map fun h => { h with fellBack := true } := by
  -- The interpreter prepares the same, whether at once or later.
  have direct : f.build artifacts files (m.under policy) .interpret =
      buildBy (μ := Id) (fun p => f.compiled artifacts files m.name p strategy.backend)
        (fun p => f.engine.interpret p.code) (m.under policy) .interpret := by
    rw [build_eq_buildBy]
    exact buildBy_of_interpret rfl _ _ _
  rw [direct, build_eq_buildBy, build_eq_buildBy, buildBy_of_lenient payload _ _ policy]
  simp only [HostedModule.under_name]
  exact apply_ite Prod.fst _ _ _

end Factory

namespace Registry

variable {r : Registry} {files : Files} {c : Context} {p : Payload}

/-- What a client gets who resolves a context. -/
def resolved (r : Registry) (files : Files) (c : Context) : Except HostError Handle :=
  ((Registry.resolve files c).on r).1

/-- Whoever resolves a context first gets what is built. That is one attempt, and it settles the matter. -/
theorem resolved_first (payload : c.hosted.payload = some p) (unbuilt : r.slot c = .empty) (files : Files) :
    resolved r files c = (r.factory.build r.artifacts files c.hosted c.strategy).1.mapError (.unusable c.name) ∧
      ((Registry.resolve files c).on r).2.attempts = (c.name, c.strategy) :: r.attempts ∧
      ((Registry.resolve files c).on r).2.settled c = some (resolved r files c) := by
  have present : c.hosted.payload.isSome := by simp [payload]
  -- An empty slot has no answer, so that the handle is built.
  have unsettled : r.settled c = none := by
    rw [settled_of_payload present, unbuilt]
    rfl
  rw [settled_of_payload present, resolved, resolve_of_unsettled unsettled, finishBuild_on]
  simp only [slot, List.lookup_cons_self, Option.getD_some]
  cases (r.factory.build r.artifacts files c.hosted c.strategy).1 <;> exact ⟨rfl, rfl, rfl⟩

/-- What policies mean to the first client who resolves a context, and so to all clients. -/
structure ByPolicy (r : Registry) (files : Files) (c : Context) (p : Payload) : Prop where
  /-- What can be had without fallback is the same with it: the handle that was selected. -/
  selected : ∀ h, resolved r files (c.under .fail) = .ok h →
    resolved r files (c.under .toInterpreter) = .ok h ∧ h.strategy = c.strategy ∧ h.fellBack = false
  /-- If there is no machine code, every call is answered as if the module had been meant to be interpreted. -/
  interpreted : c.strategy.backend ≠ .interpret → ∀ why, resolved r files (c.under .fail) = .error why →
    ∀ i, resolved r files (c.following .interpret) = .ok i →
      ∃ h, resolved r files (c.under .toInterpreter) = .ok h ∧ h.fellBack ∧ h.strategy = .interpret ∧
        ∀ settings exported arguments, h.call settings exported arguments = i.call settings exported arguments
  /-- If that is impossible, too, clients learn why. -/
  unusable : c.strategy.backend ≠ .interpret → ∀ why, resolved r files (c.under .fail) = .error why →
    ∀ why', resolved r files (c.following .interpret) = .error why' →
      ∃ cause, r.factory.engine.interpret p.code = .error cause ∧ why' = .unusable c.name cause ∧
        resolved r files (c.under .toInterpreter) = .error (.unusable c.name cause)
  /-- Without fallback, clients learn why there is no machine code. -/
  strict : c.strategy.backend ≠ .interpret → ∀ why, resolved r files (c.under .fail) = .error why ↔
    ∃ cause, Factory.Uncompiled r.factory r.artifacts files c.name p c.strategy.backend cause ∧
      why = .unusable c.name cause
  /-- Nor is an interpreter prepared then, whatever preparing one would do besides. -/
  alone : c.strategy.backend ≠ .interpret →
    ∀ (μ : Type → Type) [Monad μ] (compiled interpreted other : Payload → μ (Except HostError Prepared)),
      Factory.buildBy compiled interpreted (c.under .fail).hosted c.strategy =
        Factory.buildBy compiled other (c.under .fail).hosted c.strategy
  /-- Artifacts do not matter to a module that shall be interpreted. -/
  unsupplied : c.strategy.backend = .interpret → ∀ artifacts,
    resolved { r with artifacts := artifacts } files c = resolved r files c
  /-- Whatever the policy and the strategy, building is attempted once, and later clients get the same without another
  attempt. -/
  once : ∀ d : Context, d.id = c.id → d.hosted.payload = some p →
    ((Registry.resolve files d).on r).2.attempts = (d.name, d.strategy) :: r.attempts ∧
      ∀ later, (Registry.resolve later d).on ((Registry.resolve files d).on r).2 =
        (resolved r files d, ((Registry.resolve files d).on r).2)

section First

variable (payload : c.hosted.payload = some p) (unbuilt : r.slot c = .empty)
include payload unbuilt

/-- Without fallback, what is built without it is served. -/
theorem resolved_strict : resolved r files (c.under .fail) =
    (r.factory.build r.artifacts files (c.hosted.under .fail) c.strategy).1.mapError (.unusable c.name) :=
  (resolved_first (c := c.under .fail) payload unbuilt files).1

/-- A module that shall be interpreted is served by the interpreter. -/
theorem resolved_direct : resolved r files (c.following .interpret) =
    ((r.factory.engine.interpret p.code).map fun prepared => ⟨c.name, .interpret, false, prepared⟩).mapError
      (.unusable c.name) := by
  rw [(resolved_first (c := c.following .interpret) payload unbuilt files).1, Context.following_hosted,
    Context.following_strategy, Factory.build_of_interpret payload rfl]
  rfl

/-- With fallback, a module is served as without, or else by the interpreter. -/
theorem resolved_lenient (files : Files) : resolved r files (c.under .toInterpreter) =
    if (resolved r files (c.under .fail)).isOk ∨ c.strategy.backend = .interpret then resolved r files (c.under .fail)
    else (resolved r files (c.following .interpret)).map fun h => { h with fellBack := true } := by
  rw [resolved_strict payload unbuilt, (resolved_first (c := c.under .toInterpreter) payload unbuilt files).1,
    (resolved_first (c := c.following .interpret) payload unbuilt files).1]
  simp only [Context.under_hosted, Context.under_name, Context.under_strategy, Context.following_hosted,
    Context.following_name, Context.following_strategy]
  rw [Factory.build_of_lenient payload c.hosted.intent.fallback, HostedModule.under_own]
  -- Whether it is a failure does not depend on how failures are wrapped.
  cases (r.factory.build r.artifacts files (c.hosted.under .fail) c.strategy).1 with
  | ok h => rfl
  | error why =>
    by_cases interprets : c.strategy.backend = .interpret
    · simp [interprets]
    · simp only [mapError_error, Except.isOk, Except.toBool, interprets, Bool.false_eq_true, or_self, if_false]
      cases (r.factory.build r.artifacts files c.hosted .interpret).1 <;> rfl

end First

/-- A host with an artifact that nobody can supply. -/
def corruptHost : Registry :=
  { create .prodJit ⟨.metered ⟨false, 1, 1, true⟩ [], .standard⟩ .empty with
    artifacts := Artifacts.empty.insert "sum" (.refused "corrupt") }

end Registry

end WasmHost
