import WasmHost.Deployment

/-! Settings of the host: how its engines are set up, and what a call may use. -/

namespace WasmHost

/-- How the engine for machine code is set up. -/
structure EngineSettings where
  /-- Whether instances get their memories and tables from a pool. -/
  pooling : Bool
  /-- The number of instances that the pool is made for. -/
  maxInstances : UInt32
  /-- The size of a memory of the pool, in units of 1048576 bytes. -/
  memoryMegabytes : UInt32
  /-- Whether code is optimised for speed. -/
  optimize : Bool
deriving DecidableEq, Repr, Inhabited

/-- The settings that are assumed if none are given. -/
def EngineSettings.standard : EngineSettings := ⟨true, 1000, 64, true⟩

/-- What a call may use. -/
structure ExecutionSettings where
  /-- The fuel of a call. -/
  maxFuel : UInt64
  /-- Whether fuel is metered at all. -/
  metering : Bool
deriving DecidableEq, Repr, Inhabited

namespace ExecutionSettings

/-- The settings that are assumed if none are given. -/
def standard : ExecutionSettings := ⟨10000000, true⟩

/-- The fuel that a call has; without metering there is no limit. -/
def budget (s : ExecutionSettings) : Option Nat := if s.metering then some s.maxFuel.toNat else none

end ExecutionSettings

/-- Everything that is set once for the whole host. -/
structure RuntimeSettings where
  /-- The deployment. -/
  deployment : Deployment
  /-- The engine for machine code. -/
  engine : EngineSettings
  /-- The limits of calls. -/
  execution : ExecutionSettings
deriving DecidableEq, Repr, Inhabited

/-- The settings that are assumed if none are given. -/
def RuntimeSettings.standard : RuntimeSettings := ⟨.standard, .standard, .standard⟩

/-- How the host is served. -/
structure ServerSettings where
  /-- The address to listen on. -/
  bindAddress : String
  /-- The time that a request may take, in seconds. -/
  timeoutSeconds : UInt64
  /-- Whether open requests are finished at the end. -/
  graceful : Bool
deriving DecidableEq, Repr, Inhabited

/-- The settings that are assumed if none are given. -/
def ServerSettings.standard : ServerSettings := ⟨"0.0.0.0:8080", 30, true⟩

/-- How the registry is administered over the network. -/
structure AdminSettings where
  /-- Whether it is at all. -/
  enabled : Bool
  /-- The secret that administrators show. -/
  token : Option String
  /-- Where the administration starts among the addresses. -/
  mount : String
deriving DecidableEq, Repr, Inhabited

namespace AdminSettings

/-- The settings that are assumed if none are given. -/
def standard : AdminSettings := ⟨false, none, "/admin"⟩

/-- Administration needs a token besides being enabled. -/
def isConfigured (s : AdminSettings) : Bool := s.enabled && s.token.isSome

end AdminSettings

end WasmHost
