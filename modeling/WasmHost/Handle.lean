import WasmHost.Artifacts
import WasmHost.Guest.Value
import WasmHost.Strategy

/-! Handles: modules that are built for one backend and answer calls, each in an instance of its own. -/

namespace WasmHost

/-- Everything that handles are built with. -/
structure Factory where
  /-- The engines. -/
  engine : Engine
  /-- The limits of calls. -/
  execution : ExecutionSettings

/-- A module that is ready for calls. -/
structure Handle where
  /-- The name of the module. -/
  moduleName : String
  /-- The strategy that the handle was built with. -/
  strategy : Strategy
  /-- Whether the module was meant to be compiled. -/
  fellBack : Bool
  /-- The linked module. -/
  prepared : Prepared

/-- What a successful call gives. -/
structure Outcome where
  /-- The results. -/
  values : List Value
  /-- What the guest logged, in order. -/
  logs : List LogEntry
  /-- The fuel that the call used. -/
  fuel : Nat

namespace Factory

/-- A factory in diagnostics, with the artifacts that it looks up. -/
def describe (f : Factory) (artifacts : Artifacts) : String :=
  "HandleFactory \x7b engine: " ++ f.engine.describe ++ ", artifacts: " ++ artifacts.describe
    ++ ", execution: ExecutionConfig \x7b max_fuel: " ++ toString f.execution.maxFuel.toNat ++ ", fuel_metering: "
    ++ toString f.execution.metering ++ " \x7d, .. \x7d"

/-- Machine code for a module. -/
def compiled (f : Factory) (artifacts : Artifacts) (files : Files) (name : String) (payload : Payload)
    (backend : Backend) : Except HostError Prepared := do
  let code ←
    if backend = .precompiled then
      match artifacts.get? name with
      | some artifact => artifact.load f.engine files
      | none => throw (.missingArtifact name)
    else pure payload.code
  f.engine.compile code

/-- Builds a handle. If machine code cannot be had, the interpreter steps in where the policy allows it. -/
def build (f : Factory) (artifacts : Artifacts) (files : Files) (m : HostedModule) (strategy : Strategy) :
    Except HostError Handle × List Warning :=
  match m.payload with
  | none => (.error (.missingPayload m.name), [])
  | some payload =>
    let interpreted (fellBack : Bool) : Except HostError Handle :=
      (f.engine.interpret payload.code).map fun prepared => ⟨m.name, .interpret, fellBack, prepared⟩
    if strategy.backend = .interpret then
      ((f.engine.interpret payload.code).map fun prepared => ⟨m.name, strategy, false, prepared⟩, [])
    else
      match f.compiled artifacts files m.name payload strategy.backend with
      | .ok prepared => (.ok ⟨m.name, strategy, false, prepared⟩, [])
      | .error why =>
        if m.intent.fallback.isAllowed then (interpreted true, [.fellBack]) else (.error why, [])

end Factory

namespace Handle

/-- What is reported when an instance cannot be filled at a call. -/
def segmentFault : Wasm.Linked.SegmentFault → Wasm.Trap
  | .elements => .tableOutOfBounds
  | .data => .memoryOutOfBounds

/-- Where every call starts: a fresh instance, before its start function. -/
def fresh (h : Handle) : Except HostError (Wasm.Linked.Progress GuestEvent) :=
  match h.prepared.freshStore with
  | .ok store => .ok ⟨store, 0, []⟩
  | .error why => .error (.instantiationFailed (.trap (segmentFault why)))

/-- Runs the start function, if there is one. -/
def start (h : Handle) (budget : Option Nat) (progress : Wasm.Linked.Progress GuestEvent) :
    Except HostError Unit × Wasm.Linked.Progress GuestEvent :=
  match h.prepared.module.start.bind (h.prepared.program.functions[·]?) with
  | none => (.ok (), progress)
  | some f =>
    match h.prepared.invoke budget progress f [] with
    | (.returned _, progress) => (.ok (), progress)
    | (.trapped cause, progress) => (.error (.instantiationFailed (.trap cause)), progress)
    | (.exhausted, progress) => (.error .fuelExhausted, progress)

/-- The lowest position at which an argument does not have the type of its parameter. -/
def mismatch? (parameters : List NumberType) (arguments : List Value) : Option Nat :=
  (parameters.zip arguments).findIdx? fun (type, argument) => type ≠ argument.type

/-- The exported function of a name, which must take the arguments and give numbers. -/
def target (h : Handle) (exported : String) (arguments : List Value) :
    Except HostError (Wasm.Function GuestEvent × List NumberType) := do
  let some f := h.prepared.exported? exported | throw (.exportNotFound h.moduleName exported)
  let (some parameters, some results) :=
      (f.type.params.mapM NumberType.ofValType?, f.type.results.mapM NumberType.ofValType?)
    | throw (.invalidArgument (.notNumeric exported h.moduleName))
  if parameters.length ≠ arguments.length then
    throw (.invalidArgument (.count exported parameters.length arguments.length))
  match mismatch? parameters arguments with
  | some index =>
    let expected := (parameters[index]?.map (·.name)).getD ""
    let actual := (arguments[index]?.map (·.type.name)).getD ""
    throw (.invalidArgument (.type index exported expected actual))
  | none => return (f, results)

/-- The fuel that was used, given what there was and what is left; without a meter none was. -/
def consumedFuel (initial : Nat) (remaining : Option Nat) : Nat :=
  match remaining with
  | some left => initial - left
  | none => 0

/-- The fuel that is reported: what was charged, but never more than the budget. -/
def usedFuel (budget : Option Nat) (charged : Nat) : Nat :=
  consumedFuel (budget.getD 0) (budget.map (· - charged))

/-- Runs a function, whose results have the given types. -/
def run (h : Handle) (budget : Option Nat) (f : Wasm.Function GuestEvent) (types : List NumberType)
    (arguments : List Value) (progress : Wasm.Linked.Progress GuestEvent) :
    Except HostError (List Value) × Wasm.Linked.Progress GuestEvent :=
  match h.prepared.invoke budget progress f (arguments.map Value.bits) with
  | (.returned results, progress) =>
    -- The results come with the last one on top.
    match Value.ofCells? types results.reverse with
    | some values => (.ok values, progress)
    | none => (.error (.trap .badResult), progress)
  | (.trapped cause, progress) => (.error (.trap (.trap cause)), progress)
  | (.exhausted, progress) => (.error .fuelExhausted, progress)

/-- Calls an exported function in a fresh instance. -/
def call (h : Handle) (settings : ExecutionSettings) (exported : String) (arguments : List Value) :
    Except HostError Outcome × List Warning :=
  let budget := settings.budget
  match h.fresh with
  | .error why => (.error why, [])
  | .ok progress =>
    let (started, progress) := h.start budget progress
    let (values, progress) : Except HostError (List Value) × Wasm.Linked.Progress GuestEvent :=
      match started with
      | .error why => (.error why, progress)
      | .ok () =>
        match h.target exported arguments with
        | .error why => (.error why, progress)
        | .ok (f, types) => h.run budget f types arguments progress
    let events := progress.events.reverse
    let spent : List Warning := if values matches .error .fuelExhausted then [.fuelExhausted] else []
    let outcome := values.map fun values =>
      ⟨values, events.filterMap (·.logged?), usedFuel budget progress.charged⟩
    (outcome, events.filterMap (·.warning?) ++ spent)

/-- A handle in diagnostics. -/
def describe (h : Handle) : String :=
  "ExecutionHandle \x7b module: " ++ quoted h.moduleName ++ ", strategy: " ++ h.strategy.describe
    ++ ", fell_back: " ++ toString h.fellBack ++ ", .. \x7d"

end Handle

end WasmHost
