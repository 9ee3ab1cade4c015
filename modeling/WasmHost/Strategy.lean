import WasmHost.Document.Basic
import WasmHost.Error
import WasmHost.Warning

/-! Strategies: which backend runs a module, decided from its declaration before anything is built. -/

namespace WasmHost

/-- What runs a module. -/
inductive Backend where
  /-- Machine code from an artifact. -/
  | precompiled
  /-- Machine code that is compiled on first use. -/
  | compileNow
  /-- The interpreter. -/
  | interpret
deriving DecidableEq, Repr, Inhabited

namespace Backend

/-- The name of a backend. -/
def name : Backend → String
  | .precompiled => "precompiled"
  | .compileNow => "compile-now"
  | .interpret => "interpret"

/-- The name of a backend in diagnostics. -/
def label : Backend → String
  | .precompiled => "Precompiled"
  | .compileNow => "CompileNow"
  | .interpret => "Interpret"

end Backend

/-- A mode with a backend that serves it. -/
structure Strategy where
  /-- The mode. -/
  mode : ExecutionMode
  /-- The backend. -/
  backend : Backend
deriving DecidableEq, Repr, Inhabited

namespace Strategy

/-- Machine code from an artifact. -/
def precompiled : Strategy := ⟨.compiler, .precompiled⟩

/-- Machine code that is compiled on first use. -/
def compileNow : Strategy := ⟨.compiler, .compileNow⟩

/-- The interpreter. -/
def interpret : Strategy := ⟨.interpreter, .interpret⟩

/-- A strategy as text. -/
def text (s : Strategy) : String := s.mode.name ++ "/" ++ s.backend.name

/-- A strategy in diagnostics. -/
def describe (s : Strategy) : String :=
  "Strategy \x7b mode: " ++ s.mode.label ++ ", backend: " ++ s.backend.label ++ " \x7d"

/-- The strategy of a static module that shall be compiled: its artifact if it has one, else, if the
policy allows it, compilation on demand. -/
def selectStatic (hasArtifact : Bool) (name : String) (fallback : Fallback) :
    Except HostError Strategy × List Warning :=
  if hasArtifact then (.ok precompiled, [])
  else if fallback.isAllowed then (.ok compileNow, [.noArtifact])
  else (.error (.missingArtifact name), [])

/-- The strategy of a module. `hasArtifact` tells whether an artifact is registered under its name. -/
def select (deployment : Deployment) (hasArtifact : Bool) (name : String) (origin : Origin) (intent : Intent) :
    Except HostError Strategy × List Warning :=
  let native : List Warning :=
    if origin = .dynamic ∧ deployment.isNative ∧ intent.mode = some .compiler then [.nativeDynamic] else []
  let (strategy, warnings) :=
    if resolveMode origin deployment intent.mode = .interpreter then (.ok interpret, [])
    -- Neither backend mixes machine code with interpretation.
    else if !intent.interpreted.isEmpty then (.ok interpret, [.forcedFunctions])
    else if deployment.isDev then (.ok compileNow, [])
    else
      match origin with
      | .dynamic => (.ok compileNow, [])
      | .static => selectStatic hasArtifact name intent.fallback
  (strategy, native ++ warnings)

end Strategy

end WasmHost
