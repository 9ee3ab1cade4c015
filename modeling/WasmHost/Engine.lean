import WasmHost.Guest.Log
import WasmHost.HostedModule
import WasmHost.Wasm.Text

/-! Engines: which modules they accept, and what they make of them. -/

namespace WasmHost

/-- The limits that the engines have of their own: what each refuses of the modules whose extensions it knows. -/
structure EngineLimits where
  /-- What the compiler refuses, such as functions whose machine code grows too long. -/
  compiler : Wasm.Module → Except CodeFault Unit
  /-- What the pool has no room for, such as instances with very many globals. -/
  pool : Wasm.Module → Except CodeFault Unit
  /-- What the interpreter refuses, such as functions that need too many registers. -/
  interpreter : Wasm.Module → Except CodeFault Unit

/-- The engines for machine code and for interpretation, set up with the same meter. -/
structure Engine where
  /-- How the engine for machine code is set up. -/
  settings : EngineSettings
  /-- Whether fuel is metered. -/
  metering : Bool
  /-- The functions that guests may import. -/
  offered : List (Wasm.HostFunction GuestEvent)
  /-- What the engines refuse beyond the extensions that they do not know. -/
  limits : EngineLimits

/-- A module that is ready for calls. -/
abbrev Prepared := Wasm.Linked GuestEvent

namespace Engine

/-- The number of pages in a unit of 1048576 bytes. -/
def pagesPerMegabyte : Nat := 16

/-- The number of elements in a table of the pool. -/
def poolTableElements : Nat := 20000

/-- The number of elements that any table may grow to. -/
def maxTableElements : Nat := 10000000

/-- The number of pages that any memory may grow to. -/
def maxMemoryPages : Nat := 65536

/-- The bounds of compiled instances under some settings. -/
def capacityOf (settings : EngineSettings) : Wasm.Capacity :=
  if settings.pooling then
    ⟨min maxMemoryPages (settings.memoryMegabytes.toNat * pagesPerMegabyte), poolTableElements, 10000⟩
  else ⟨maxMemoryPages, maxTableElements, 10000⟩

/-- The bounds of compiled instances. -/
def compiledCapacity (e : Engine) : Wasm.Capacity := capacityOf e.settings

/-- The bounds of interpreted instances. -/
def interpretedCapacity : Wasm.Capacity := ⟨maxMemoryPages, maxTableElements, 1000⟩

/-- What the settings say about the pool: it has one memory and one table for every instance, and they are no larger
than its slots. -/
def checkPool (settings : EngineSettings) (m : Wasm.Module) : Except CodeFault Unit := do
  if 1 < m.memories.length then throw (.tooManyMemories m.memories.length)
  if 1 < m.tables.length then throw (.tooManyTables m.tables.length)
  let bounds := capacityOf settings
  match m.memories.findIdx? (bounds.memoryPages < ·.limits.initial) with
  | some index => throw (.memoryTooLarge index)
  | none => pure ()
  match m.tables.findIdx? (bounds.tableElements < ·.type.limits.initial) with
  | some index => throw (.tableTooLarge index)
  | none => pure ()

/-- The limits that the settings state. Engines may have more of them, which no setting tells. -/
def statedLimits (settings : EngineSettings) : EngineLimits := ⟨fun _ => .ok (), checkPool settings, fun _ => .ok ()⟩

/-- The size of the largest memory that the pool can be made of, in units of 1048576 bytes. -/
def maxPoolMegabytes : Nat := 4096

/-- The number of instances for which there are addresses. -/
def maxPoolInstances : Nat := 32000

/-- Sets up the engines, whatever their limits are. A pool must fit into the addresses of the process. -/
def create (settings : EngineSettings) (execution : ExecutionSettings) (offered : List (Wasm.HostFunction GuestEvent))
    (limits : EngineSettings → EngineLimits := statedLimits) : Except HostError Engine := do
  if settings.pooling then
    if maxPoolMegabytes < settings.memoryMegabytes.toNat then
      throw (.invalidConfig (.engine "maximum memory size exceeds the memory reservation"))
    if maxPoolInstances < settings.maxInstances.toNat then
      throw (.invalidConfig (.engine "the pool exceeds the address space"))
  return ⟨settings, execution.metering, offered, limits settings⟩

/-- The extensions that can be compiled. -/
def compiledFeatures : Wasm.Features := ⟨true, true, false, false, false, false, false⟩

/-- The extensions that can be interpreted. -/
def interpretedFeatures : Wasm.Features := ⟨false, false, false, false, false, false, true⟩

/-- A module can be compiled if it uses no more than the compiler knows. -/
def checkCompiled (m : Wasm.Module) : Except CodeFault Unit :=
  (m.check compiledFeatures).mapError fun why => .unsupported (.invalid why)

/-- A module that can be compiled, linked to the host. -/
def compile (e : Engine) (m : Wasm.Module) : Except HostError Prepared := do
  (checkCompiled m).mapError fun why => .compilationFailed (.code why)
  (e.limits.compiler m).mapError fun why => .compilationFailed (.code why)
  if e.settings.pooling then
    (e.limits.pool m).mapError fun why => .compilationFailed (.code why)
  (Wasm.Linked.link e.offered e.compiledCapacity m).mapError fun why => .instantiationFailed (.link why)

/-- What is reported when an interpreted instance cannot be filled. -/
def segmentFault : Wasm.Linked.SegmentFault → StartFault
  | .elements => .elements
  | .data => .trap .memoryOutOfBounds

/-- A module that can be interpreted, linked to the host. Its segments must fit right away. -/
def interpret (e : Engine) (m : Wasm.Module) : Except HostError Prepared := do
  (m.check interpretedFeatures).mapError fun why => .compilationFailed (.code (.unsupported (.invalid why)))
  (e.limits.interpreter m).mapError fun why => .compilationFailed (.code why)
  let linked ← (Wasm.Linked.link e.offered interpretedCapacity m).mapError fun why =>
    .instantiationFailed (.link why)
  let _ ← linked.freshStore.mapError fun why => .instantiationFailed (segmentFault why)
  return linked

/-! ### Artifacts -/

/-- The bytes that every artifact starts with. -/
def artifactMark : List UInt8 := [0x7F, 0x41, 0x4F, 0x54]

/-- The settings on which machine code depends. -/
def artifactFlags (e : Engine) : List UInt8 :=
  [e.metering, e.settings.pooling, e.settings.optimize].map fun flag => if flag then 1 else 0

/-- The code in some bytes: a binary module, or one that is written as text. -/
def readCode (bytes : ByteArray) : Except CodeFault Wasm.Module :=
  if (bytes.extract 0 4).toList = Wasm.magic then (Wasm.Module.parse compiledFeatures bytes).mapError .unsupported
  else
    match (Utf8.text? bytes).bind Wasm.Text.parse? with
    | some code => do
      checkCompiled code
      return code
    | none => .error .badText

/-- Compiles a module ahead of time. -/
def precompile (e : Engine) (bytes : ByteArray) : Except HostError ByteArray := do
  let code ← (readCode bytes).mapError fun why => .compilationFailed (.aheadOfTime why)
  (e.limits.compiler code).mapError fun why => .compilationFailed (.aheadOfTime why)
  return ⟨(artifactMark ++ e.artifactFlags).toArray⟩ ++ bytes

/-- The code of an artifact that was made under the same settings. -/
def loadArtifact? (e : Engine) (artifact : ByteArray) : Option Wasm.Module :=
  let header := artifactMark ++ e.artifactFlags
  if (artifact.extract 0 header.length).toList = header then
    (readCode (artifact.extract header.length artifact.size)).toOption
  else none

/-- The engines in diagnostics. -/
def describe (e : Engine) : String :=
  "WasmEngine \x7b pooling_allocator: " ++ toString e.settings.pooling ++ ", max_instances: "
    ++ toString e.settings.maxInstances.toNat ++ ", instance_memory_mb: "
    ++ toString e.settings.memoryMegabytes.toNat ++ ", fuel_metering: " ++ toString e.metering ++ ", .. \x7d"

end Engine

end WasmHost
