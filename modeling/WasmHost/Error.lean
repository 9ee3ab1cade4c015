import WasmHost.Deployment
import WasmHost.Disk.Files
import WasmHost.Wasm.Instance
import WasmHost.Wasm.Parse

/-! What can go wrong between a module's declaration and the result of a call, and how it is reported. -/

namespace WasmHost

/-- Why bytes are no payload. -/
inductive PayloadFault where
  /-- They are no valid module. -/
  | invalid (why : Wasm.ParseError)
  /-- They are too many. -/
  | tooLarge (size : Nat)
  /-- A reason in somebody else's words. -/
  | stated (reason : String)
deriving DecidableEq, Repr, Inhabited

/-- The largest payload, in bytes. -/
def maxPayload : Nat := 16 * 1024 * 1024

/-- The reason that is reported for bytes that are no payload. -/
def PayloadFault.message : PayloadFault → String
  | .invalid why => why.message
  | .tooLarge size =>
    "module too large: " ++ toString size ++ " bytes (max: " ++ toString maxPayload ++ " bytes)"
  | .stated reason => reason

/-- Why an engine cannot prepare code. -/
inductive CodeFault where
  /-- The engine does not know something that the code uses. -/
  | unsupported (why : Wasm.ParseError)
  /-- A memory starts larger than any slot of the pool. -/
  | memoryTooLarge (index : Nat)
  /-- There are more memories than an instance of the pool has. -/
  | tooManyMemories (count : Nat)
  /-- A table starts larger than any slot of the pool. -/
  | tableTooLarge (index : Nat)
  /-- There are more tables than an instance of the pool has. -/
  | tooManyTables (count : Nat)
  /-- The engine has another limit, in its own words. -/
  | overLimit (reason : String)
  /-- A text is no module either. -/
  | badText
deriving DecidableEq, Repr, Inhabited

/-- A sentence about code that an engine cannot prepare. -/
def CodeFault.message : CodeFault → String
  | .unsupported why => why.message
  | .memoryTooLarge index => "memory index " ++ toString index ++ " has a minimum size above the limit"
  | .tooManyMemories count => "defined memories count of " ++ toString count ++ " exceeds the limit"
  | .tableTooLarge index => "table index " ++ toString index ++ " has a minimum size above the limit"
  | .tooManyTables count => "defined tables count of " ++ toString count ++ " exceeds the limit"
  | .overLimit reason => reason
  | .badText => "expected a module"

/-- Why machine code is missing. -/
inductive CompileFault where
  /-- The module cannot be compiled. -/
  | code (why : CodeFault)
  /-- The module cannot be compiled ahead of time. -/
  | aheadOfTime (why : CodeFault)
  /-- An artifact in memory is not usable. -/
  | artifact
  /-- An artifact in a file is not usable. -/
  | artifactFile (path : Path)
  /-- A reason in somebody else's words. -/
  | stated (reason : String)
deriving DecidableEq, Repr, Inhabited

/-- The reason that is reported for missing machine code. -/
def CompileFault.message : CompileFault → String
  | .code why => why.message
  | .aheadOfTime why => "Ahead-of-time compilation failed: " ++ why.message
  | .artifact => "Failed to load precompiled module: incompatible artifact"
  | .artifactFile path => "Failed to load precompiled module from " ++ path ++ ": incompatible artifact"
  | .stated reason => reason

/-- Why no instance can be made. -/
inductive StartFault where
  /-- An import is missing. -/
  | link (why : Wasm.LinkError)
  /-- An element segment does not fit its table, as far as it is known before any call. -/
  | elements
  /-- Making the instance trapped. -/
  | trap (trap : Wasm.Trap)
  /-- A reason in somebody else's words. -/
  | stated (reason : String)
deriving DecidableEq, Repr, Inhabited

/-- The reason that is reported for a missing instance. -/
def StartFault.message : StartFault → String
  | .link why => why.message
  | .elements => "table initializer does not fit"
  | .trap cause => cause.message
  | .stated reason => reason

/-- Why arguments do not fit an export. -/
inductive ArgumentFault where
  /-- The export takes or gives values that are no numbers. -/
  | notNumeric (exported moduleName : String)
  /-- The number of arguments is wrong. -/
  | count (exported : String) (expected actual : Nat)
  /-- An argument has the wrong type. -/
  | type (index : Nat) (exported expected actual : String)
  /-- A reason in somebody else's words. -/
  | stated (reason : String)
deriving DecidableEq, Repr, Inhabited

/-- The reason that is reported for arguments that do not fit. -/
def ArgumentFault.message : ArgumentFault → String
  | .notNumeric exported moduleName =>
    "export '" ++ exported ++ "' of module '" ++ moduleName ++ "' uses non-numeric parameter or result types"
  | .count exported expected actual =>
    "export '" ++ exported ++ "' takes " ++ toString expected ++ " arguments, got " ++ toString actual
  | .type index exported expected actual =>
    "argument " ++ toString index ++ " of export '" ++ exported ++ "' must be " ++ expected ++ ", got " ++ actual
  | .stated reason => reason

/-- How a guest failed. -/
inductive GuestFault where
  /-- It trapped. -/
  | trap (trap : Wasm.Trap)
  /-- It gave a value that is no number. -/
  | badResult
  /-- A reason in somebody else's words. -/
  | stated (reason : String)
deriving DecidableEq, Repr, Inhabited

/-- The reason that is reported for a guest that failed. -/
def GuestFault.message : GuestFault → String
  | .trap cause => cause.message
  | .badResult => "unsupported result value"
  | .stated reason => reason

/-- What a file operation failed with. -/
inductive StorageFault where
  /-- The file cannot be used. -/
  | file (why : FileError)
  /-- A reason in somebody else's words. -/
  | stated (reason : String)
deriving DecidableEq, Repr, Inhabited

/-- The reason that is reported for a failed file operation. -/
def StorageFault.message : StorageFault → String
  | .file why => why.message
  | .stated reason => reason

/-- What is wrong with a configuration. -/
inductive ConfigFault where
  /-- There is no deployment of a name. -/
  | unknownDeployment (name : String)
  /-- There is no execution mode of a name. -/
  | unknownMode (name : String)
  /-- A module has no source and is not supplied at run time either. -/
  | noSource (name : String)
  /-- A static module has no source. -/
  | staticWithoutSource (name : String)
  /-- A function that must be interpreted does not exist. -/
  | noSuchFunction (name : String) (index count : Nat)
  /-- There is no resource of a name. -/
  | resourceNotFound (name : String)
  /-- The name of a resource leads out of its directory. -/
  | resourceOutside (name : String)
  /-- A static module cannot be replaced by an upload. -/
  | staticConflict (name : String)
  /-- The engine for machine code cannot be set up. -/
  | engine (reason : String)
  /-- An address cannot be read. -/
  | badAddress (text : String)
  /-- An address cannot be bound. -/
  | bind (reason : String)
  /-- A reason in somebody else's words. -/
  | stated (reason : String)
deriving DecidableEq, Repr, Inhabited

/-- The sentence about an address that cannot be read. -/
def badAddressText : String := "invalid socket address syntax"

/-- The reason that is reported for a configuration. -/
def ConfigFault.message : ConfigFault → String
  | .unknownDeployment name => "Unknown deployment mode '" ++ name ++ "'"
  | .unknownMode name => "Unknown execution mode '" ++ name ++ "'"
  | .noSource name =>
    "module '" ++ name ++ "' defines neither a file path nor a resource name and is not marked dynamic"
  | .staticWithoutSource name => "static module '" ++ name ++ "' has no payload source"
  | .noSuchFunction name index count =>
    "module '" ++ name ++ "' forces function " ++ toString index ++ " onto the interpreter but only has "
      ++ toString count ++ " functions"
  | .resourceNotFound name => "resource '" ++ name ++ "' not found"
  | .resourceOutside name =>
    "resource name '" ++ name ++ "' must be a relative path inside the resource directory"
  | .staticConflict name => "module '" ++ name ++ "' is static and cannot be replaced at runtime"
  | .engine reason => "Failed to create Wasmtime engine: " ++ reason
  | .badAddress text => "Invalid bind_addr '" ++ text ++ "': " ++ badAddressText
  | .bind reason => "Failed to bind: " ++ reason
  | .stated reason => reason

/-- What can go wrong with a module. -/
inductive HostError where
  /-- No module has the name. -/
  | moduleNotFound (name : String)
  /-- The payload of a module is not valid. -/
  | parseFailed (name : String) (why : PayloadFault)
  /-- The payload of a module was never supplied. -/
  | missingPayload (name : String)
  /-- A module needs a prebuilt artifact and has none. -/
  | missingArtifact (name : String)
  /-- There is no machine code for a module. -/
  | compilationFailed (why : CompileFault)
  /-- There is no instance of a module. -/
  | instantiationFailed (why : StartFault)
  /-- An earlier attempt to build the module failed, and that is final. -/
  | unusable (name : String) (cause : HostError)
  /-- A module has no function of a name. -/
  | exportNotFound (name exported : String)
  /-- Arguments do not fit an export. -/
  | invalidArgument (why : ArgumentFault)
  /-- A call used up its fuel. -/
  | fuelExhausted
  /-- The guest failed. -/
  | trap (why : GuestFault)
  /-- A file operation failed. -/
  | io (why : StorageFault)
  /-- The configuration is wrong. -/
  | invalidConfig (why : ConfigFault)
deriving DecidableEq, Repr, Inhabited

namespace HostError

/-- The sentence that reports an error. -/
def message : HostError → String
  | .moduleNotFound name => "Module not found: " ++ name
  | .parseFailed name why => "Failed to parse module '" ++ name ++ "': " ++ why.message
  | .missingPayload name => "Module '" ++ name ++ "' has no payload; supply one before resolving it"
  | .missingArtifact name =>
    "No prebuilt artifact registered for module '" ++ name ++ "' and fallback is disabled"
  | .compilationFailed why => "Compilation failed: " ++ why.message
  | .instantiationFailed why => "Instantiation failed: " ++ why.message
  | .unusable name cause => "Module '" ++ name ++ "' is unusable: " ++ cause.message
  | .exportNotFound name exported => "Export '" ++ exported ++ "' not found in module '" ++ name ++ "'"
  | .invalidArgument why => "Invalid argument: " ++ why.message
  | .fuelExhausted => "Fuel exhausted: CPU limit exceeded"
  | .trap why => "Wasm trap: " ++ why.message
  | .io why => "IO error: " ++ why.message
  | .invalidConfig why => "Invalid configuration: " ++ why.message

/-- Whether something that was asked for does not exist. -/
def isNotFound : HostError → Bool
  | .moduleNotFound _ | .exportNotFound .. => true
  | _ => false

/-- Whether only another configuration can help. -/
def isConfigError : HostError → Bool
  | .invalidConfig _ | .missingPayload _ | .missingArtifact _ => true
  | .unusable _ cause => cause.isConfigError
  | _ => false

/-- Whether a limit was reached. -/
def isResourceLimit : HostError → Bool
  | .fuelExhausted => true
  | _ => false

/-- Whether it is the memory of an earlier failure. -/
def isUnusable : HostError → Bool
  | .unusable .. => true
  | _ => false

/-- What an error goes back to, in words. -/
def source? : HostError → Option String
  | .unusable _ cause => some cause.message
  | .io why => some why.message
  | _ => none

end HostError

/-- The deployment of a name. Blanks around it and the case of ASCII letters do not matter. -/
def Deployment.parse (text : String) : Except HostError Deployment :=
  let name := lowerAscii (Blank.trim text)
  match Deployment.names.lookup name with
  | some deployment => .ok deployment
  | none => .error (.invalidConfig (.unknownDeployment name))

/-- The execution mode of a name. Blanks around it and the case of ASCII letters do not matter. -/
def ExecutionMode.parse (text : String) : Except HostError ExecutionMode :=
  let name := lowerAscii (Blank.trim text)
  match ExecutionMode.names.lookup name with
  | some mode => .ok mode
  | none => .error (.invalidConfig (.unknownMode name))

end WasmHost
