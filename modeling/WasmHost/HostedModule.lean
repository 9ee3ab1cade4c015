import WasmHost.Configuration
import WasmHost.Payload

/-! Hosted modules: a name, an origin, perhaps a payload, and what is declared about execution. -/

namespace WasmHost

/-- A module as the host knows it. -/
structure HostedModule where
  /-- Its name. -/
  name : String
  /-- Where its payload comes from. -/
  origin : Origin
  /-- Its payload; a dynamic module may wait for it. -/
  payload : Option Payload
  /-- Where a static payload was read from. -/
  source : Option Source
  /-- What is declared about its execution. -/
  intent : Intent

namespace HostedModule

/-- Every function that must be interpreted must exist; without a payload that is not known. -/
def checkInterpreted (m : HostedModule) : Except HostError HostedModule :=
  match m.payload with
  | none => .ok m
  | some payload =>
    match m.intent.interpreted.find? (payload.functionCount ≤ ·) with
    | some index => .error (.invalidConfig (.noSuchFunction m.name index payload.functionCount))
    | none => .ok m

/-- A static module. -/
def ofStatic (name : String) (payload : Payload) (source : Option Source) (intent : Intent) :
    Except HostError HostedModule :=
  checkInterpreted ⟨name, .static, some payload, source, intent⟩

/-- A dynamic module. It does not keep a source. -/
def ofDynamic (name : String) (payload : Option Payload) (intent : Intent) : Except HostError HostedModule :=
  checkInterpreted ⟨name, .dynamic, payload, none, intent⟩

/-- A module as text. -/
def text (m : HostedModule) : String :=
  let contents := match m.payload with
    | some payload => ", hash=" ++ payload.hash
    | none => ", payload=<pending>"
  let source := match m.source with
    | some source => ", source=" ++ source.text
    | none => ""
  m.origin.name ++ "Module\x7bname=" ++ m.name ++ contents ++ source ++ "\x7d"

end HostedModule

end WasmHost
