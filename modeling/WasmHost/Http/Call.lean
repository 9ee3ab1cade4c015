import WasmHost.Http.Message
import WasmHost.Json.Reader
import WasmHost.Registry.Loading

/-! Calls over the network: the arguments in a request, and the results in a response. -/

namespace WasmHost.Http

/-- What tells one call from another in its response. -/
structure CallStamp where
  /-- The identity of the request. -/
  requestId : String
  /-- The time that the call took, in microseconds. -/
  microseconds : Nat

/-- The largest body of a call. -/
def maxCallBody : Nat := 2 * 1024 * 1024

/-- The arguments in the body of a call. A blank body has none. -/
def argumentsOfBody (body : List UInt8) : Except Json.TypedFault (List Value) :=
  if body.all isBlank then .ok [] else Json.readAs (Document.toArguments Json.dialect) body
where
  /-- Whether a byte is a blank. -/
  isBlank (byte : UInt8) : Bool :=
    byte = 0x20 || byte = 0x09 || byte = 0x0A || byte = 0x0C || byte = 0x0D

/-- The document of a successful call. -/
def callDocument (stamp : CallStamp) (name exported : String) (strategy : Strategy) (outcome : Outcome) : Document :=
  .record [("request_id", .text stamp.requestId), ("module", .text name), ("export", .text exported),
    ("values", .list (outcome.values.map .ofValue)), ("logs", .list (outcome.logs.map .ofLogEntry)),
    ("execution", .record [("mode", .text strategy.mode.name), ("backend", .text strategy.backend.name),
      ("fuel_consumed", .nat outcome.fuel), ("duration_us", .nat stamp.microseconds)])]

end WasmHost.Http
