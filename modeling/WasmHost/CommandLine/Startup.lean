import WasmHost.CommandLine.Options
import WasmHost.ConfigFile
import WasmHost.Endpoint
import WasmHost.Http.Server

/-! The start of the host: from the command line to the address that it listens on. -/

namespace WasmHost.CommandLine

/-- How much a notice matters. -/
inductive NoticeLevel where
  /-- It informs. -/
  | info
  /-- It warns. -/
  | warn
deriving DecidableEq, Repr, Inhabited

/-- What the host tells whoever started it. -/
structure Notice where
  /-- How much it matters. -/
  level : NoticeLevel
  /-- The message. -/
  message : String
  /-- Details with their names. -/
  details : List (String × String)
deriving DecidableEq, Repr, Inhabited

/-- A notice as a line. -/
def Notice.text (n : Notice) : String :=
  let level := match n.level with
    | .info => "INFO "
    | .warn => "WARN "
  level ++ n.message ++ String.join (n.details.map fun (name, value) => " " ++ name ++ "=" ++ value)

/-- Why the host does not start: what was attempted, why that failed, why that is so, and so on. -/
structure Failure where
  /-- The outermost sentence. -/
  message : String
  /-- The causes, each of the sentence before it. -/
  causes : List String
deriving DecidableEq, Repr, Inhabited

namespace Failure

/-- A failure to do something because of an error. -/
def ofHostError (attempt : String) (why : HostError) : Failure := ⟨attempt, why.message :: why.source?.toList⟩

/-- A failure to load the configuration file. -/
def ofConfigFile (path : Path) (why : ConfigFileError) : Failure :=
  let deeper := match why with
    | .unreadable _ cause => [cause.message]
    | _ => []
  ⟨"Failed to load config file " ++ path, why.message :: deeper⟩

/-- A cause as lines; the first one may bear a number. -/
def causeLines (number : Option Nat) (cause : String) : List String :=
  let (first, further) := match number with
    | none => ("    ", "    ")
    | some n =>
      let digits := toString n
      (String.ofList (List.replicate (5 - digits.length) ' ') ++ digits ++ ": ", "       ")
  match cause.splitOn "\n" with
  | [] => []
  | line :: rest => (first ++ line) :: rest.map (further ++ ·)

/-- The report of a failure. Causes bear numbers if there is more than one. -/
def report (f : Failure) : List String :=
  let causes := match f.causes with
    | [] => []
    | [cause] => ["", "Caused by:"] ++ causeLines none cause
    | many => ["", "Caused by:"] ++ many.zipIdx.flatMap fun (cause, place) => causeLines (some place) cause
  ("Error: " ++ f.message).splitOn "\n" ++ causes

end Failure

/-- A host that is ready to listen. -/
structure Service where
  /-- The modules. -/
  registry : Registry
  /-- The administration. -/
  admin : Option Http.Admin
  /-- Where it shall listen. -/
  endpoint : Endpoint

/-- A step of the start, which may tell something and may fail. -/
abbrev Starting (α : Type) := ExceptT Failure (StateM (List Notice)) α

namespace Starting

/-- Tells something. -/
def tell (level : NoticeLevel) (message : String) (details : List (String × String)) : Starting Unit :=
  modify (· ++ [⟨level, message, details⟩])

/-- What came of an attempt. -/
def attempt {α : Type} (what : String) : Except HostError α → Starting α
  | .ok value => return value
  | .error why => throw (.ofHostError what why)

end Starting

open Starting

/-- The configuration that the options ask for. -/
def configurationOf (files : Files) (options : Options) : Starting Configuration := do
  let loaded ← match options.config with
    | none => pure Configuration.standard
    | some path =>
      match Configuration.ofFile files path with
      | .ok configuration => pure configuration
      | .error why => throw (.ofConfigFile path why)
  match options.deployment with
  | none => return loaded
  | some deployment => return { loaded with runtime.deployment := deployment }

/-- The endpoint that the options ask for. An address of their own does not excuse a bad one in the file. -/
def endpointOf (configuration : Configuration) (options : Options) : Starting Endpoint := do
  let endpoint ← attempt "Invalid [server] section" (Endpoint.ofSettings configuration.server)
  match options.bind with
  | none => return endpoint
  | some address => return { endpoint with address := address }

/-- Loads the declared modules. -/
def loadModules (files : Files) (configuration : Configuration) : Starting Registry := do
  let resources := { Resources.empty with directory := configuration.resourceDirectory }
  let empty ← attempt "Failed to set up engines" (Registry.ofSettings configuration.runtime resources)
  let (outcome, registry) := ((Registry.init files configuration.entries).run).run empty
  let report ← attempt "Failed to initialize module registry" outcome
  if !report.isClean then
    tell .warn "Serving without rejected modules" [("rejected", toString report.rejected.length)]
  return registry

/-- The administration that the configuration asks for. -/
def adminOf (settings : AdminSettings) : Starting (Option Http.Admin) := do
  match Http.Admin.ofSettings settings with
  | some admin =>
    tell .info "Admin API enabled" [("prefix", admin.mount)]
    return some admin
  | none =>
    if settings.enabled then tell .warn "Admin API enabled without a token; not mounting it" []
    return none

/-- The lines that list what is served. -/
def endpointLines : List String :=
  ["Registry initialized. Available endpoints:",
    "  GET  /health                        - Health check",
    "  GET  /ready                         - Readiness check",
    "  GET  /modules                       - List registered modules",
    "  POST /modules/:name/call/:export    - Call an exported function"]

/-- Everything before the host listens. -/
def prepare (files : Files) (options : Options) : Starting Service := do
  let configuration ← configurationOf files options
  let endpoint ← endpointOf configuration options
  tell .info "Starting modhost" [("deployment", configuration.runtime.deployment.name),
    ("modules", toString configuration.entries.length), ("bind_addr", endpoint.address.text)]
  let registry ← loadModules files configuration
  let admin ← adminOf configuration.admin
  for line in endpointLines do tell .info line []
  return ⟨registry, admin, endpoint⟩

/-- Listens, if the address allows it; it gives a reason if it does not. -/
def listen (refusal : SocketAddress → Option String) (service : Service) : Starting Service :=
  match refusal service.endpoint.address with
  | none => return service
  | some reason => throw ⟨(HostError.invalidConfig (.bind reason)).message, []⟩

/-- What a run of the program shows. -/
structure Transcript where
  /-- The exit code. -/
  code : Nat
  /-- The plain lines. -/
  output : List String
  /-- The notices. -/
  notices : List Notice
  /-- The lines of the error report. -/
  errors : List String
deriving DecidableEq, Repr, Inhabited

/-- A run of the program. -/
def run (refusal : SocketAddress → Option String) (files : Files) (environment : List (String × String))
    (arguments : List String) : Transcript :=
  match Options.parse environment arguments with
  | .error .help => ⟨0, helpLines environment, [], []⟩
  | .error .version => ⟨0, [versionText], [], []⟩
  | .error (.usage why) => ⟨2, [], [], why.message.splitOn "\n"⟩
  | .ok options =>
    let (outcome, notices) := ((prepare files options >>= listen refusal).run).run []
    match outcome with
    | .ok _ => ⟨0, [], notices, []⟩
    | .error failure => ⟨1, [], notices, failure.report⟩

end WasmHost.CommandLine
