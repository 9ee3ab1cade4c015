import WasmHost.Text.Blank

/-! Deployments, and what is declared about how a module shall be executed. -/

namespace WasmHost

/-- The environment that the host is deployed in. -/
inductive Deployment where
  /-- Development: modules are compiled anew when they change, and prebuilt artifacts are ignored. -/
  | dev
  /-- Test runs. -/
  | test
  /-- Production with a compiler at hand. -/
  | prodJit
  /-- Production that was compiled ahead of time; what is unknown by then cannot be compiled. -/
  | prodNative
deriving DecidableEq, Repr, Inhabited

namespace Deployment

/-- The deployment that is assumed if none is given. -/
def standard : Deployment := .prodJit

/-- The name of a deployment. -/
def name : Deployment → String
  | .dev => "dev"
  | .test => "test"
  | .prodJit => "prod-jit"
  | .prodNative => "prod-native"

/-- The name of a deployment in diagnostics. -/
def label : Deployment → String
  | .dev => "Dev"
  | .test => "Test"
  | .prodJit => "ProdJit"
  | .prodNative => "ProdNative"

/-- All names that a deployment is known under. -/
def names : List (String × Deployment) :=
  [("dev", .dev), ("test", .test), ("prod-jit", .prodJit), ("prod", .prodJit), ("jit", .prodJit),
   ("prod-native", .prodNative), ("native", .prodNative)]

/-- Whether modules are reloaded when they change. -/
def isDev (d : Deployment) : Bool := d = .dev

/-- Whether there is no compiler for what comes at run time. -/
def isNative (d : Deployment) : Bool := d = .prodNative

end Deployment

/-- How the code of a module is executed. -/
inductive ExecutionMode where
  /-- By an interpreter. -/
  | interpreter
  /-- As machine code. -/
  | compiler
deriving DecidableEq, Repr, Inhabited

namespace ExecutionMode

/-- The name of a mode. -/
def name : ExecutionMode → String
  | .interpreter => "interpreter"
  | .compiler => "compiler"

/-- The name of a mode in diagnostics. -/
def label : ExecutionMode → String
  | .interpreter => "Interpreter"
  | .compiler => "Compiler"

/-- All names that a mode is known under. -/
def names : List (String × ExecutionMode) :=
  [("interpreter", .interpreter), ("compiler", .compiler), ("runtime-compiler", .compiler),
   ("runtimecompiler", .compiler)]

end ExecutionMode

/-- What happens to a module that cannot be compiled. -/
inductive Fallback where
  /-- It is not run. -/
  | fail
  /-- It is interpreted; if only its artifact is missing, it is compiled on demand. -/
  | toInterpreter
deriving DecidableEq, Repr, Inhabited

namespace Fallback

/-- The policy that is assumed if none is given. -/
def standard : Fallback := .toInterpreter

/-- The name of a policy. -/
def name : Fallback → String
  | .fail => "fail"
  | .toInterpreter => "fallback-to-interpreter"

/-- Whether the interpreter may step in. -/
def isAllowed (f : Fallback) : Bool := f = .toInterpreter

end Fallback

/-- Where the payload of a module comes from. -/
inductive Origin where
  /-- It is known from the configuration. -/
  | static
  /-- It is supplied while the host runs. -/
  | dynamic
deriving DecidableEq, Repr, Inhabited

/-- The name of an origin. -/
def Origin.name : Origin → String
  | .static => "static"
  | .dynamic => "dynamic"

/-- What is declared about how one module shall be executed. -/
structure Intent where
  /-- The wanted mode, if any. -/
  mode : Option ExecutionMode
  /-- What happens if it cannot be compiled. -/
  fallback : Fallback
  /-- The functions that must be interpreted, in order and each once. -/
  interpreted : List Nat
deriving DecidableEq, Repr, Inhabited

namespace Intent

/-- Nothing is declared. -/
def standard : Intent := ⟨none, .standard, []⟩

/-- Adds a function index to those in order. -/
def insertIndex (index : Nat) : List Nat → List Nat
  | [] => [index]
  | other :: rest =>
    if index < other then index :: other :: rest
    else if index = other then other :: rest
    else other :: insertIndex index rest

/-- Function indices in order and each once. -/
def indexSet (indices : List Nat) : List Nat := indices.foldr insertIndex []

end Intent

/-- The mode in which a module is executed, before artifacts are looked at.
Dynamic modules are interpreted in a native deployment, whatever is wanted. -/
def resolveMode (origin : Origin) (deployment : Deployment) (wanted : Option ExecutionMode) : ExecutionMode :=
  match deployment, origin with
  | .prodNative, .dynamic => .interpreter
  | _, _ => wanted.getD .compiler

end WasmHost
