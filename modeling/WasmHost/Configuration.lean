import WasmHost.Document.Schema
import WasmHost.Error
import WasmHost.Settings

/-! Configurations: the settings and the modules that a host starts with. -/

namespace WasmHost

/-- Where a payload is read from. -/
inductive Source where
  /-- A file. -/
  | file (path : Path)
  /-- A named resource. -/
  | resource (name : String)
deriving DecidableEq, Repr, Inhabited

/-- The text of a source. -/
def Source.text : Source → String
  | .file path => "file:" ++ path
  | .resource name => "resource:" ++ name

/-- A declared module. -/
structure Entry where
  /-- Its name. -/
  name : String
  /-- The file that holds it. -/
  path : Option Path
  /-- The resource that holds it. -/
  resource : Option String
  /-- Whether it is supplied at run time. -/
  dynamic : Bool
  /-- The wanted mode. -/
  mode : Option ExecutionMode
  /-- What happens if it cannot be compiled. -/
  fallback : Fallback
  /-- The functions that must be interpreted, as they are written. -/
  interpreted : List UInt32
  /-- The file that holds its machine code. -/
  artifact : Option Path
deriving DecidableEq, Repr, Inhabited

namespace Entry

/-- A module about which only its name is declared. -/
def named (name : String) : Entry := ⟨name, none, none, false, none, .standard, [], none⟩

/-- A static module in a file. -/
def ofFile (name : String) (path : Path) : Entry := { named name with path := some path }

/-- A static module in a resource. -/
def ofResource (name resource : String) : Entry := { named name with resource := some resource }

/-- A module that is supplied at run time. -/
def ofUpload (name : String) : Entry := { named name with dynamic := true }

/-- The source of the payload. A file goes before a resource. -/
def source? (e : Entry) : Option Source := (e.path.map .file).or (e.resource.map .resource)

/-- The origin. What is not supplied at run time needs a source. -/
def origin (e : Entry) : Except HostError Origin :=
  if e.dynamic then .ok .dynamic
  else if e.source?.isSome then .ok .static
  else .error (.invalidConfig (.noSource e.name))

/-- What is declared about its execution. -/
def intent (e : Entry) : Intent := ⟨e.mode, e.fallback, Intent.indexSet (e.interpreted.map (·.toNat))⟩

end Entry

/-- A configuration. -/
structure Configuration where
  /-- The settings of the host. -/
  runtime : RuntimeSettings
  /-- The settings of the server. -/
  server : ServerSettings
  /-- The settings of the administration. -/
  admin : AdminSettings
  /-- The directory that holds resources. -/
  resourceDirectory : Option Path
  /-- The declared modules in order. -/
  entries : List Entry
deriving DecidableEq, Repr, Inhabited

/-- The configuration that is assumed if none is given. -/
def Configuration.standard : Configuration := ⟨.standard, .standard, .standard, none, []⟩

/-! ### Writing documents -/

namespace Document

/-- The document of engine settings. -/
def ofEngine (s : EngineSettings) : Document :=
  .record [("pooling_allocator", .bool s.pooling), ("max_instances", nat s.maxInstances.toNat),
    ("instance_memory_mb", nat s.memoryMegabytes.toNat), ("optimize", .bool s.optimize)]

/-- The document of execution settings. -/
def ofExecution (s : ExecutionSettings) : Document :=
  .record [("max_fuel", nat s.maxFuel.toNat), ("fuel_metering", .bool s.metering)]

/-- The document of runtime settings. -/
def ofRuntime (s : RuntimeSettings) : Document :=
  .record [("deployment", .text s.deployment.name), ("engine", ofEngine s.engine),
    ("execution", ofExecution s.execution)]

/-- The document of server settings. -/
def ofServer (s : ServerSettings) : Document :=
  .record [("bind_addr", .text s.bindAddress), ("request_timeout_secs", nat s.timeoutSeconds.toNat),
    ("graceful_shutdown", .bool s.graceful)]

/-- The document of admin settings. -/
def ofAdmin (s : AdminSettings) : Document :=
  .record [("enabled", .bool s.enabled), ("token", option .text s.token), ("prefix", .text s.mount)]

/-- The document of an intent. -/
def ofIntent (i : Intent) : Document :=
  .record [("mode", option (fun mode => .text mode.name) i.mode), ("fallback", .text i.fallback.name),
    ("interpreted_functions", .list (i.interpreted.map nat))]

/-- The document of a declared module. -/
def ofEntry (e : Entry) : Document :=
  .record [("name", .text e.name), ("path", option .text e.path), ("resource", option .text e.resource),
    ("dynamic", .bool e.dynamic), ("execution_mode", option (fun mode => .text mode.name) e.mode),
    ("interpreter_fallback", .text e.fallback.name),
    ("interpreted_functions", .list (e.interpreted.map fun index => nat index.toNat)),
    ("artifact", option .text e.artifact)]

/-- The document of a configuration. -/
def ofConfiguration (c : Configuration) : Document :=
  .record [("runtime", ofRuntime c.runtime), ("server", ofServer c.server), ("admin", ofAdmin c.admin),
    ("resource_dir", option .text c.resourceDirectory), ("modules", .list (c.entries.map ofEntry))]

/-! ### Reading documents -/

/-- A deployment. Only its full names are known here. -/
def toDeployment (dialect : Dialect) : Typed Deployment :=
  toVariant dialect ([Deployment.dev, .test, .prodJit, .prodNative].map fun d => (d.name, d))

/-- An execution mode, under its name or one of its older names. -/
def toMode (dialect : Dialect) : Typed ExecutionMode :=
  toVariant dialect [("interpreter", .interpreter), ("Interpreter", .interpreter), ("compiler", .compiler),
    ("Compiler", .compiler), ("runtime-compiler", .compiler), ("RuntimeCompiler", .compiler)]

/-- A fallback policy, under its name or an older name. -/
def toFallback (dialect : Dialect) : Typed Fallback :=
  toVariant dialect [("fail", .fail), ("FAIL", .fail), ("fallback-to-interpreter", .toInterpreter)]

/-- An origin. -/
def toOrigin (dialect : Dialect) : Typed Origin :=
  toVariant dialect [("static", .static), ("dynamic", .dynamic)]

/-- Engine settings. -/
def toEngine (dialect : Dialect) : Typed EngineSettings := fun d => do
  let f ← fields dialect ["pooling_allocator", "max_instances", "instance_memory_mb", "optimize"] d
  let standard := EngineSettings.standard
  let pooling ← f.withDefault "pooling_allocator" toBool standard.pooling
  let maxInstances ← f.withDefault "max_instances" toUInt32 standard.maxInstances
  let memoryMegabytes ← f.withDefault "instance_memory_mb" toUInt32 standard.memoryMegabytes
  let optimize ← f.withDefault "optimize" toBool standard.optimize
  return ⟨pooling, maxInstances, memoryMegabytes, optimize⟩

/-- Execution settings. -/
def toExecution (dialect : Dialect) : Typed ExecutionSettings := fun d => do
  let f ← fields dialect ["max_fuel", "fuel_metering"] d
  let maxFuel ← f.withDefault "max_fuel" toUInt64 ExecutionSettings.standard.maxFuel
  let metering ← f.withDefault "fuel_metering" toBool ExecutionSettings.standard.metering
  return ⟨maxFuel, metering⟩

/-- Runtime settings. -/
def toRuntime (dialect : Dialect) : Typed RuntimeSettings := fun d => do
  let f ← fields dialect ["deployment", "engine", "execution"] d
  let deployment ← f.withDefault "deployment" (toDeployment dialect) .standard
  let engine ← f.withDefault "engine" (toEngine dialect) .standard
  let execution ← f.withDefault "execution" (toExecution dialect) .standard
  return ⟨deployment, engine, execution⟩

/-- Server settings. -/
def toServer (dialect : Dialect) : Typed ServerSettings := fun d => do
  let f ← fields dialect ["bind_addr", "request_timeout_secs", "graceful_shutdown"] d
  let standard := ServerSettings.standard
  let bindAddress ← f.withDefault "bind_addr" toText standard.bindAddress
  let timeoutSeconds ← f.withDefault "request_timeout_secs" toUInt64 standard.timeoutSeconds
  let graceful ← f.withDefault "graceful_shutdown" toBool standard.graceful
  return ⟨bindAddress, timeoutSeconds, graceful⟩

/-- Admin settings. -/
def toAdmin (dialect : Dialect) : Typed AdminSettings := fun d => do
  let f ← fields dialect ["enabled", "token", "prefix"] d
  let enabled ← f.withDefault "enabled" toBool AdminSettings.standard.enabled
  let token ← f.optional "token" toText
  let mount ← f.withDefault "prefix" toText AdminSettings.standard.mount
  return ⟨enabled, token, mount⟩

/-- An intent. Only the mode may be left open. -/
def toIntent (dialect : Dialect) : Typed Intent := fun d => do
  let f ← fields dialect ["mode", "fallback", "interpreted_functions"] d
  let mode ← f.optional "mode" (toMode dialect)
  let fallback ← f.required "fallback" (toFallback dialect)
  let interpreted ← f.required "interpreted_functions" (toList (toNat (Integer.modulus 32)))
  return ⟨mode, fallback, Intent.indexSet interpreted⟩

/-- A declared module. Only the name must be given. -/
def toEntry (dialect : Dialect) : Typed Entry := fun d => do
  let f ← fields dialect ["name", "path", "resource", "dynamic", "execution_mode", "interpreter_fallback",
    "interpreted_functions", "artifact"] d
  let name ← f.required "name" toText
  let path ← f.withDefault "path" (toOption toText) none
  let resource ← f.withDefault "resource" (toOption toText) none
  let dynamic ← f.withDefault "dynamic" toBool false
  let mode ← f.withDefault "execution_mode" (toOption (toMode dialect)) none
  let fallback ← f.withDefault "interpreter_fallback" (toFallback dialect) .standard
  let interpreted ← f.withDefault "interpreted_functions" (toList toUInt32) []
  let artifact ← f.withDefault "artifact" (toOption toText) none
  return ⟨name, path, resource, dynamic, mode, fallback, interpreted, artifact⟩

/-- A configuration. Nothing must be given. -/
def toConfiguration (dialect : Dialect) : Typed Configuration := fun d => do
  let f ← fields dialect ["runtime", "server", "admin", "resource_dir", "modules"] d
  let runtime ← f.withDefault "runtime" (toRuntime dialect) .standard
  let server ← f.withDefault "server" (toServer dialect) .standard
  let admin ← f.withDefault "admin" (toAdmin dialect) .standard
  let resourceDirectory ← f.withDefault "resource_dir" (toOption toText) none
  let entries ← f.withDefault "modules" (toList (toEntry dialect)) []
  return ⟨runtime, server, admin, resourceDirectory, entries⟩

end Document

end WasmHost
