/-! Warnings: what the host reports although it goes on. -/

namespace WasmHost

/-- A warning. -/
inductive Warning where
  /-- A dynamic module shall be compiled, but a native deployment cannot. -/
  | nativeDynamic
  /-- Some functions must be interpreted, so the whole module is. -/
  | forcedFunctions
  /-- A compiled static module has no artifact. -/
  | noArtifact
  /-- A module that cannot be compiled is interpreted. -/
  | fellBack
  /-- A module changed on disk and is loaded anew. -/
  | reloading
  /-- A module changed on disk and cannot be loaded. -/
  | reloadFailed
  /-- A call used up its fuel. -/
  | fuelExhausted
  /-- A guest logged without a memory to read from. -/
  | noGuestMemory
  /-- A guest logged from a negative place, or a negative number of bytes. -/
  | negativeRange
  /-- A guest logged from outside its memory. -/
  | outsideMemory
  /-- The body of a call is no list of arguments. -/
  | callBodyRejected
  /-- The body of an upload gives no module. -/
  | uploadRejected
  /-- An uploaded module is not registered. -/
  | registrationFailed
deriving DecidableEq, Repr, Inhabited

/-- The text of a warning. -/
def Warning.message : Warning → String
  | .nativeDynamic => "Dynamic modules cannot be compiled in a native deployment, using the interpreter"
  | .forcedFunctions => "Functions are forced onto the interpreter, interpreting the whole module"
  | .noArtifact => "No prebuilt artifact, module will be compiled on demand"
  | .fellBack => "Compilation failed, falling back to the interpreter"
  | .reloading => "Module changed on disk, reloading"
  | .reloadFailed => "Reload failed, serving previous version"
  | .fuelExhausted => "Execution terminated: fuel exhausted"
  | .noGuestMemory => "Memory export not found in guest module"
  | .negativeRange => "Invalid pointer or length (negative value)"
  | .outsideMemory => "Memory access out of bounds"
  | .callBodyRejected => "Rejected call body"
  | .uploadRejected => "Failed to extract module from request"
  | .registrationFailed => "Module registration failed"

end WasmHost
