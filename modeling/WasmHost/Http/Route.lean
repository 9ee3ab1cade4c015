import WasmHost.Http.Percent

/-! Routes: the resources of the server, and the methods that they understand. -/

namespace WasmHost.Http

/-- A resource. Names are as they are written in the path. -/
inductive Route where
  /-- Whether the server is alive. -/
  | health
  /-- Whether the server is ready for calls. -/
  | ready
  /-- The modules. -/
  | modules
  /-- A function of a module. -/
  | function (name exported : String)
  /-- The modules, for administrators. -/
  | managedModules
  /-- A module, for administrators. -/
  | managedModule (name : String)
deriving DecidableEq, Repr, Inhabited

namespace Route

/-- The segments of the path of the managed modules, for the path below which administration is mounted. -/
def managedSegments (mount : String) : List String :=
  ((if mount.endsWith "/" then mount else mount ++ "/") ++ "modules").splitOn "/"

/-- The managed resource at some segments. -/
def managed? (mount : String) (segments : List String) : Option Route :=
  let base := managedSegments mount
  if segments = base then some .managedModules
  else
    match segments.getLast? with
    | some name => if segments.dropLast = base ∧ name ≠ "" then some (.managedModule name) else none
    | none => none

/-- The resource that is open to everybody at some segments. A segment in the middle may be empty. -/
def open? : List String → Option Route
  | ["", "health"] => some .health
  | ["", "ready"] => some .ready
  | ["", "modules"] => some .modules
  | ["", "modules", name, "call", exported] => if exported = "" then none else some (.function name exported)
  | _ => none

/-- The resource at a path. Where both could be meant, administration comes first. -/
def ofPath? (mount : Option String) (path : String) : Option Route :=
  let segments := path.splitOn "/"
  (mount.bind (managed? · segments)).or (open? segments)

/-- The methods that a resource understands. -/
def methods : Route → List String
  | .health | .ready | .modules => ["GET", "HEAD"]
  | .function .. => ["POST"]
  | .managedModules => ["POST", "GET", "HEAD"]
  | .managedModule _ => ["GET", "HEAD", "DELETE"]

/-- The methods as a header lists them. -/
def allow (route : Route) : String := String.intercalate "," route.methods

end Route

end WasmHost.Http
