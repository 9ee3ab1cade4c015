import WasmHost.Handle

/-! Contexts: modules with the strategies chosen for them, and the slots that keep what was built. -/

namespace WasmHost

/-- A module with its strategy. -/
structure Context where
  /-- What tells contexts apart; no two contexts of a registry share it. -/
  id : Nat
  /-- The module. -/
  hosted : HostedModule
  /-- The strategy that was chosen for it. -/
  strategy : Strategy

namespace Context

/-- The name of the module. -/
def name (c : Context) : String := c.hosted.name

/-- The origin of the module. -/
def origin (c : Context) : Origin := c.hosted.origin

end Context

/-- What became of a context so far. -/
inductive Slot where
  /-- Nothing was built yet. -/
  | empty
  /-- The handle that every call gets from now on. -/
  | built (handle : Handle)
  /-- The failure that every call gets from now on. -/
  | failed (cause : HostError)

namespace Slot

/-- The handle, if there is one. -/
def handle? : Slot → Option Handle
  | .built handle => some handle
  | .empty | .failed _ => none

/-- Whether there is a handle. -/
def isResolved : Slot → Bool
  | .built _ => true
  | .empty | .failed _ => false

/-- Whether building failed. -/
def isFailed : Slot → Bool
  | .failed _ => true
  | .empty | .built _ => false

/-- What an attempt to build leaves behind. -/
def ofAttempt : Except HostError Handle → Slot
  | .ok handle => .built handle
  | .error cause => .failed cause

/-- What a filled slot answers for a module of a name; an empty one answers nothing. -/
def answer? (name : String) : Slot → Option (Except HostError Handle)
  | .empty => none
  | .built handle => some (.ok handle)
  | .failed cause => some (.error (.unusable name cause))

end Slot

namespace Context

/-- A context as text. -/
def text (c : Context) (slot : Slot) : String :=
  let state :=
    if slot.isResolved then ", resolved" else if slot.isFailed then ", failed" else ""
  "Context\x7b" ++ c.hosted.text ++ ", strategy=" ++ c.strategy.text ++ state ++ "\x7d"

end Context

/-- A summary of a context. -/
structure ContextInfo where
  /-- The name of the module. -/
  name : String
  /-- Its origin. -/
  origin : Origin
  /-- The strategy that was chosen for it. -/
  strategy : Strategy
  /-- What is known of its payload: the digits by which it is recognised, and its exports. -/
  payload : Option (String × List Wasm.Export)
  /-- Where it was read from. -/
  source : Option Source
  /-- Whether there is a handle. -/
  resolved : Bool
  /-- Whether building failed. -/
  failed : Bool
  /-- The backend of the handle. -/
  activeBackend : Option Backend
  /-- Whether the handle was meant to be compiled and is not. -/
  fellBack : Bool

/-- The summary of a context. -/
def Context.info (c : Context) (slot : Slot) : ContextInfo where
  name := c.name
  origin := c.origin
  strategy := c.strategy
  payload := c.hosted.payload.map fun payload => (payload.hash, payload.exports)
  source := c.hosted.source
  resolved := slot.isResolved
  failed := slot.isFailed
  activeBackend := slot.handle?.map (·.strategy.backend)
  fellBack := slot.handle?.any (·.fellBack)

namespace Document

/-- The document of an export. -/
def ofExport (e : Wasm.Export) : Document := .record [("name", .text e.name), ("kind", .text e.kind.name)]

/-- The document of a summary. -/
def ofInfo (i : ContextInfo) : Document :=
  .record [("name", .text i.name), ("origin", .text i.origin.name), ("mode", .text i.strategy.mode.name),
    ("backend", .text i.strategy.backend.name), ("has_payload", .bool i.payload.isSome),
    ("content_hash", option (fun payload => .text payload.1) i.payload),
    ("exports", .list ((i.payload.map (·.2)).getD [] |>.map ofExport)),
    ("source", option (fun source => .text source.text) i.source), ("resolved", .bool i.resolved),
    ("failed", .bool i.failed), ("active_backend", option (fun backend => .text backend.name) i.activeBackend),
    ("fell_back", .bool i.fellBack)]

/-- The document of a log entry. -/
def ofLogEntry (e : LogEntry) : Document :=
  .record [("level", .text e.level.name), ("message", .text e.message)]

end Document

end WasmHost
