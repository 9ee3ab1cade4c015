import WasmHost.Error
import WasmHost.Settings
import WasmHost.SocketAddress

/-! Endpoints: server settings whose address can be used. -/

namespace WasmHost

/-- Where and how the host is served. -/
structure Endpoint where
  /-- The address to listen on. -/
  address : SocketAddress
  /-- The time that a request may take, in seconds. -/
  timeoutSeconds : UInt64
  /-- Whether open requests are finished at the end. -/
  graceful : Bool
deriving DecidableEq, Repr, Inhabited

/-- The endpoint of some settings. -/
def Endpoint.ofSettings (s : ServerSettings) : Except HostError Endpoint :=
  match SocketAddress.parse? s.bindAddress with
  | some address => .ok ⟨address, s.timeoutSeconds, s.graceful⟩
  | none => .error (.invalidConfig (.badAddress s.bindAddress))

end WasmHost
