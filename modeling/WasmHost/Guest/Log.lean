import WasmHost.Text.Quoted
import WasmHost.Text.Utf8
import WasmHost.Warning
import WasmHost.Wasm.Instance

/-! What guests log: a function of the host takes a level and a place in the guest's memory. -/

namespace WasmHost

/-- How important a log entry is. -/
inductive LogLevel where
  /-- For developers. -/
  | debug
  /-- For information. -/
  | info
  /-- Something may be wrong. -/
  | warn
  /-- Something is wrong. -/
  | error
deriving DecidableEq, Repr, Inhabited

namespace LogLevel

/-- The name of a level. -/
def name : LogLevel → String
  | .debug => "debug"
  | .info => "info"
  | .warn => "warn"
  | .error => "error"

/-- The name of a level in diagnostics. -/
def label : LogLevel → String
  | .debug => "DEBUG"
  | .info => "INFO"
  | .warn => "WARN"
  | .error => "ERROR"

/-- The level of a number; unknown numbers stand for information. -/
def ofNumber (n : Int32) : LogLevel :=
  if n = 0 then .debug else if n = 2 then .warn else if n = 3 then .error else .info

/-- The number of a level. -/
def number : LogLevel → Nat
  | .debug => 0
  | .info => 1
  | .warn => 2
  | .error => 3

end LogLevel

/-- Something that a guest logged. -/
structure LogEntry where
  /-- Its level. -/
  level : LogLevel
  /-- Its text. -/
  message : String
deriving DecidableEq, Repr, Inhabited

/-- What comes of an attempt to log. -/
inductive GuestEvent where
  /-- An entry. -/
  | logged (entry : LogEntry)
  /-- Nothing but a warning. -/
  | refused (warning : Warning)
deriving DecidableEq, Repr, Inhabited

namespace GuestEvent

/-- The entry of an event, if there is one. -/
def logged? : GuestEvent → Option LogEntry
  | .logged entry => some entry
  | .refused _ => none

/-- The warning of an event, if there is one. -/
def warning? : GuestEvent → Option Warning
  | .logged _ => none
  | .refused warning => some warning

end GuestEvent

/-- A 32-bit integer from its pattern. -/
def int32OfBits (bits : Nat) : Int32 := Int32.ofBitVec (BitVec.ofNat 32 bits)

/-- What comes of logging some bytes of a memory. Bytes that are no text are marked. -/
def logFrom (memory : Option Wasm.Memory) (level place count : Int32) : GuestEvent :=
  match memory with
  | none => .refused .noGuestMemory
  | some memory =>
    if place < 0 ∨ count < 0 then .refused .negativeRange
    else
      let start := place.toInt.toNat
      let length := count.toInt.toNat
      if memory.size < start + length then .refused .outsideMemory
      else .logged ⟨LogLevel.ofNumber level, Utf8.lossyText (memory.bytes start length)⟩

/-- The function that guests log with. -/
def logFunction : Wasm.HostFunction GuestEvent where
  moduleName := "env"
  name := "log"
  type := ⟨[.i32, .i32, .i32], []⟩
  respond memory arguments :=
    logFrom memory (int32OfBits (arguments.getD 0 0)) (int32OfBits (arguments.getD 1 0))
      (int32OfBits (arguments.getD 2 0))

/-- All functions that the host offers. -/
def hostFunctions : List (Wasm.HostFunction GuestEvent) := [logFunction]

/-- The record of one call. -/
structure CallRecord where
  /-- What tells the call apart from others. -/
  id : String
  /-- What the guest logged, in order. -/
  logs : List LogEntry
  /-- The fuel that the call used. -/
  fuel : Nat
  /-- Whether the call is over, so that its duration is known. -/
  finished : Bool
deriving DecidableEq, Repr, Inhabited

namespace CallRecord

/-- The record of a call that starts. -/
def start (id : String) : CallRecord := ⟨id, [], 0, false⟩

/-- Adds what the guest logs. -/
def log (c : CallRecord) (level : LogLevel) (message : String) : CallRecord :=
  { c with logs := c.logs ++ [⟨level, message⟩] }

/-- Ends the call. -/
def finish (c : CallRecord) (fuel : Nat) : CallRecord := { c with fuel := fuel, finished := true }

/-- A record in diagnostics. -/
def describe (c : CallRecord) : String :=
  "CallContext \x7b call_id: " ++ quoted c.id ++ ", logs: " ++ toString c.logs.length ++ ", .. \x7d"

end CallRecord

end WasmHost
