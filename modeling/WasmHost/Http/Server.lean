import WasmHost.Http.Call
import WasmHost.Http.Route
import WasmHost.Http.Upload

/-! The server: what every request is answered, and what it changes. -/

namespace WasmHost.Http

/-- Where administration takes place. -/
structure Admin where
  /-- The path below which its resources are mounted. -/
  mount : String
  /-- The secret that administrators show. -/
  token : String
deriving DecidableEq, Repr, Inhabited

/-- The administration that some settings ask for. -/
def Admin.ofSettings (s : AdminSettings) : Option Admin :=
  if s.isConfigured then s.token.map fun token => ⟨s.mount, token⟩ else none

/-- The work on a request. It may end early with a response. -/
abbrev Handling (α : Type) := ExceptT Response (StateM Registry) α

namespace Handling

/-- An operation of the registry; its error ends the work. -/
def host {α : Type} (operation : Operation α) : Handling α :=
  ExceptT.mk (operation.run.map fun outcome => outcome.mapError fun why => .ofError (.ofHostError why))

/-- Reports a warning. -/
def warn (warning : Warning) : Handling Unit := host (Registry.warn [warning])

/-- Ends the work with an error. -/
def fail {α : Type} (e : ApiError) : Handling α := throw (.ofError e)

/-- The response at the end of the work. -/
def finish (work : Handling Response) : StateM Registry Response := do
  match ← work.run with
  | .ok response => return response
  | .error response => return response

/-- The name that a parameter in a path stands for. -/
def pathName (parameter segment : String) : Handling String :=
  match Percent.text? segment with
  | some name => return name
  | none => throw (.text 400 ("Invalid URL: Invalid UTF-8 in \x60" ++ parameter ++ "\x60"))

end Handling

open Handling

/-! ### Resources for everybody -/

/-- The summaries of all modules. -/
def summaries (r : Registry) : Document := .list (r.catalog.toList.map fun context => .ofInfo (r.info context))

/-- Whether the server is ready. -/
def ready (r : Registry) : Document :=
  .record [("status", .text "ready"), ("deployment", .text r.deployment.name), ("modules_loaded", .nat r.catalog.size)]

/-- All modules. -/
def modules (r : Registry) : Document :=
  .record [("count", .nat r.catalog.size), ("modules", summaries r)]

/-- Reloads a module whose file changed. If that fails, the module is served as it was. -/
def reload (files : Files) (name : String) : Handling Unit := do
  match ← liftM (m := StateM Registry) (Registry.refresh files name).run with
  | .ok _ => return
  | .error _ => warn .reloadFailed

/-- Calls a function. -/
def callFunction (files : Files) (stamp : CallStamp) (name exported : String) (body : ByteArray) : Handling Response := do
  let name ← pathName "name" name
  let exported ← pathName "export" exported
  if maxCallBody < body.size then
    throw (.text 413 "Failed to buffer the request body: length limit exceeded")
  match argumentsOfBody body.toList with
  | .error why =>
    warn .callBodyRejected
    fail (.badRequest ("Invalid JSON body: " ++ why.message))
  | .ok arguments =>
    reload files name
    let context ← host (Registry.lookup name)
    let handle ← host (Registry.resolve files context)
    let outcome ← host (Registry.callHandle handle exported arguments)
    return .document 200 (callDocument stamp name exported handle.strategy outcome)

/-! ### Resources for administrators -/

/-- Whoever asks must show the token, byte for byte. -/
def authorize (admin : Admin) (request : Request) : Handling Unit :=
  match request.header? "x-admin-token" with
  | none => fail (.unauthorized "Missing X-Admin-Token header")
  | some token =>
    if token = .ofText admin.token then return else fail (.unauthorized "Invalid admin token")

/-- The mark between the parts that a request announces. Only printable types count. -/
def boundaryOf? (request : Request) : Option String := do
  let type ← (← request.header? "content-type").text?
  (← MediaType.parse? type).formBoundary?

/-- All modules with the deployment. -/
def managedModules (r : Registry) : Document :=
  .record [("deployment", .text r.deployment.name), ("count", .nat r.catalog.size), ("modules", summaries r)]

/-- Registers an uploaded module. The form of the request counts before the token. -/
def upload (admin : Admin) (request : Request) : Handling Response := do
  match boundaryOf? request with
  | none => throw (.text 400 "Invalid \x60boundary\x60 for \x60multipart/form-data\x60 request")
  | some boundary =>
    authorize admin request
    match Upload.ofBody boundary request.body with
    | .error why =>
      warn .uploadRejected
      fail (.badRequest why.message)
    | .ok sent =>
      match ← liftM (m := StateM Registry) (Registry.registerDynamic sent.name sent.bytes sent.mode).run with
      | .error why =>
        warn .registrationFailed
        fail (.ofHostError why)
      | .ok context =>
        let info := (← get).info context
        return .document 200 (.record [("name", .text info.name),
          ("content_hash", .option (fun payload => .text payload.1) info.payload),
          ("mode", .text info.strategy.mode.name), ("backend", .text info.strategy.backend.name),
          ("message", .text "Module registered successfully")])

/-- The summary of a module. -/
def managedModule (admin : Admin) (request : Request) (name : String) : Handling Response := do
  let name ← pathName "name" name
  authorize admin request
  let context ← host (Registry.lookup name)
  return .document 200 (.ofInfo ((← get).info context))

/-- Removes a module. -/
def removeModule (admin : Admin) (request : Request) (name : String) : Handling Response := do
  let name ← pathName "name" name
  authorize admin request
  match ← host (Registry.remove name) with
  | none => fail (.ofHostError (.moduleNotFound name))
  | some _ =>
    return .document 200 (.record [("name", .text name), ("message", .text "Module removed successfully")])

/-! ### Requests -/

/-- The work on a request that its resource understands; one that asks only for headers is done like one that
asks for everything. -/
def handle (admin : Option Admin) (files : Files) (stamp : CallStamp) (request : Request) (route : Route) :
    Handling Response :=
  match route, admin with
  | .health, _ => return .text 200 "OK"
  | .ready, _ => return .document 200 (ready (← get))
  | .modules, _ => return .document 200 (modules (← get))
  | .function name exported, _ => callFunction files stamp name exported request.body
  | .managedModules, some admin =>
    if request.method = "POST" then upload admin request
    else do
      authorize admin request
      return .document 200 (managedModules (← get))
  | .managedModule name, some admin =>
    if request.method = "DELETE" then removeModule admin request name else managedModule admin request name
  | .managedModules, none | .managedModule _, none => return .empty 404

/-- The response to a request, before the header that every response carries. -/
def answer (admin : Option Admin) (files : Files) (stamp : CallStamp) (request : Request) : StateM Registry Response := do
  let route := Route.ofPath? (admin.map (·.mount)) request.path
  if request.method = "OPTIONS" then
    let any := ((Response.empty 200).withHeader "access-control-allow-methods" "*").withHeader
      "access-control-allow-headers" "*"
    match route with
    | some route => return any.withHeader "allow" route.allow
    | none => return any
  else
    match route with
    | none => return .empty 404
    | some route =>
      if !route.methods.contains request.method then return (Response.empty 405).withHeader "allow" route.allow
      else
        let response ← finish (handle admin files stamp request route)
        return if request.method = "HEAD" then response.withoutBody else response

/-- The response to a request. Pages from everywhere may read it. -/
def respond (admin : Option Admin) (files : Files) (stamp : CallStamp) (request : Request) :
    StateM Registry Response :=
  return (← answer admin files stamp request).withHeader "access-control-allow-origin" "*"

/-- A served registry in diagnostics. -/
def describe (r : Registry) : String :=
  "AppState \x7b deployment: " ++ r.deployment.label ++ ", modules_count: " ++ toString r.catalog.size ++ ", .. \x7d"

end WasmHost.Http
