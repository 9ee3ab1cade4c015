import WasmHost.Registry.Catalog
import WasmHost.Resources

/-! The registry: all contexts of a host, what was built for them, and the artifacts they may use. -/

namespace WasmHost

/-- The state of a host. -/
structure Registry where
  /-- The deployment. -/
  deployment : Deployment
  /-- What handles are built with. -/
  factory : Factory
  /-- Where payloads without a file come from. -/
  resources : Resources
  /-- The prebuilt artifacts. -/
  artifacts : Artifacts
  /-- The names whose artifacts come from the configuration. -/
  configured : List String
  /-- The registered contexts. -/
  catalog : Catalog
  /-- The contexts that were made so far, the latest first, also those that are not registered. -/
  made : List Context
  /-- The slots that are filled, also of contexts that are no longer registered. -/
  slots : List (Nat × Slot)
  /-- The contexts for which building a handle was begun, the latest first. -/
  tried : List Context
  /-- The warnings so far, the latest first. -/
  warnings : List Warning

/-- An operation on a registry. A failed one leaves a registry behind, too. -/
abbrev Operation (α : Type) := ExceptT HostError (StateM Registry) α

/-- What an operation gives, and the registry that it leaves behind. -/
def Operation.on {α : Type} (operation : Operation α) (r : Registry) : Except HostError α × Registry :=
  operation.run.run r

namespace Registry

/-- A registry without contexts. -/
def create (deployment : Deployment) (factory : Factory) (resources : Resources) : Registry :=
  ⟨deployment, factory, resources, .empty, [], .empty, [], [], [], []⟩

/-- A registry without contexts, with engines for guests that may log. -/
def ofSettings (s : RuntimeSettings) (resources : Resources) : Except HostError Registry := do
  let engine ← Engine.create s.engine s.execution hostFunctions
  return create s.deployment ⟨engine, s.execution⟩ resources

/-- The context of a name. -/
def get? (r : Registry) (name : String) : Option Context := r.catalog.get? name

/-- What became of a context. -/
def slot (r : Registry) (c : Context) : Slot := (r.slots.lookup c.id).getD .empty

/-- The summary of a context. -/
def info (r : Registry) (c : Context) : ContextInfo := c.info (r.slot c)

/-- The attempts to build a handle so far, the latest first. -/
def attempts (r : Registry) : List (String × Strategy) := r.tried.map fun c => (c.name, c.strategy)

/-- The registry in diagnostics. -/
def describe (r : Registry) : String :=
  "Registry \x7b deployment: " ++ r.deployment.label ++ ", modules: " ++ quotedList r.catalog.names ++ ", .. \x7d"

/-- An outcome as an operation that changes nothing. -/
def lift {α : Type} : Except HostError α → Operation α
  | .ok value => pure value
  | .error why => throw why

/-- Reports warnings. -/
def warn (warnings : List Warning) : Operation Unit :=
  modify fun r => { r with warnings := warnings.reverse ++ r.warnings }

/-- Changes the catalog. -/
def updateCatalog (change : Catalog → Catalog) : Operation Unit :=
  modify fun r => { r with catalog := change r.catalog }

/-- Makes a context with a given strategy. -/
def contextOf (m : HostedModule) (strategy : Strategy) : Operation Context := do
  let r ← get
  let context : Context := ⟨r.made.length, m, strategy⟩
  set { r with made := context :: r.made }
  return context

/-- Makes a context, whose strategy is chosen with some artifacts in view. -/
def contextWith (artifacts : Artifacts) (m : HostedModule) : Operation Context := do
  let (strategy, warnings) :=
    Strategy.select (← get).deployment (artifacts.contains m.name) m.name m.origin m.intent
  warn warnings
  contextOf m (← lift strategy)

/-- Makes a context, whose strategy is chosen with the registered artifacts in view. -/
def createContext (m : HostedModule) : Operation Context := do contextWith (← get).artifacts m

/-- Registers a context, in place of any other one of its name. -/
def add (c : Context) : Operation Unit := updateCatalog (·.insert c)

/-- Registers a context in place of another one, which is given back. -/
def replace (c : Context) : Operation Context := do
  match (← get).get? c.name with
  | none => throw (.moduleNotFound c.name)
  | some previous =>
    updateCatalog (·.insert c)
    return previous

/-- Removes a context, which is given back. -/
def remove (name : String) : Operation (Option Context) := do
  let removed := (← get).get? name
  updateCatalog (·.erase name)
  return removed

/-- The context of a name, which must be there. -/
def lookup (name : String) : Operation Context := do
  match (← get).get? name with
  | some context => return context
  | none => throw (.moduleNotFound name)

/-- Registers an artifact. -/
def addArtifact (name : String) (artifact : Artifact) : Operation Unit :=
  modify fun r => { r with artifacts := r.artifacts.insert name artifact }

/-- Removes an artifact; tells whether there was one. -/
def removeArtifact (name : String) : Operation Bool := do
  let r ← get
  set { r with artifacts := r.artifacts.erase name }
  return r.artifacts.contains name

/-! ### Handles -/

/-- The first step of a resolution: what is known without building anything. A module without a payload
fails before its slot is looked at. -/
def knownHandle (c : Context) : Operation (Option Handle) := do
  if c.hosted.payload.isNone then throw (.missingPayload c.name)
  match ((← get).slot c).answer? c.name with
  | some answer => some <$> lift answer
  | none => return none

/-- The second step, if the slot is empty: building begins, and nobody else may begin. -/
def beginBuild (c : Context) : Operation Unit :=
  modify fun r => { r with tried := c :: r.tried }

/-- The last step: what was built fills the slot for good. -/
def finishBuild (files : Files) (c : Context) : Operation Handle := do
  let r ← get
  let (attempt, warnings) := r.factory.build r.artifacts files c.hosted c.strategy
  let slot := Slot.ofAttempt attempt
  set { r with slots := (c.id, slot) :: r.slots, warnings := warnings.reverse ++ r.warnings }
  lift ((slot.answer? c.name).getD attempt)

/-- The handle of a context. It is built at most once, and a failure is final; but a module without a
payload fails without any attempt. -/
def resolve (files : Files) (c : Context) : Operation Handle := do
  match ← knownHandle c with
  | some handle => return handle
  | none =>
    beginBuild c
    finishBuild files c

/-- Calls an export on a handle. -/
def callHandle (h : Handle) (exported : String) (arguments : List Value) : Operation Outcome := do
  let (outcome, warnings) := h.call (← get).factory.execution exported arguments
  warn warnings
  lift outcome

end Registry

end WasmHost
