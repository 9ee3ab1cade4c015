import WasmHost.HostedModule

/-! Resources, and reading payloads from resources and files. -/

namespace WasmHost

/-- Named payloads: some are embedded, others lie in a directory. -/
structure Resources where
  /-- The embedded ones; the latest of a name counts. -/
  embedded : List (String × ByteArray)
  /-- The directory that is searched for the others. -/
  directory : Option Path
deriving Inhabited

/-- The payload bytes in a file. -/
def readModuleFile (files : Files) (path : Path) : Except HostError ByteArray := do
  let bytes ← (files.read path).mapError fun why => .io (.file why)
  checkSize path bytes.size
  return bytes

namespace Resources

/-- No resources. -/
def empty : Resources := ⟨[], none⟩

/-- Embeds a resource. -/
def insert (r : Resources) (name : String) (bytes : ByteArray) : Resources :=
  { r with embedded := (name, bytes) :: r.embedded }

/-- The bytes of a resource. A name that is not embedded must lead down from the directory. -/
def get (r : Resources) (files : Files) (name : String) : Except HostError ByteArray :=
  match r.embedded.lookup name with
  | some bytes => .ok bytes
  | none =>
    match r.directory with
    | none => .error (.invalidConfig (.resourceNotFound name))
    | some directory =>
      if !Path.descends name then .error (.invalidConfig (.resourceOutside name))
      else
        let path := Path.join directory name
        if files.isFile path then readModuleFile files path
        else .error (.invalidConfig (.resourceNotFound name))

/-- The bytes behind a source. -/
def load (r : Resources) (files : Files) : Source → Except HostError ByteArray
  | .file path => readModuleFile files path
  | .resource name => do
    let bytes ← r.get files name
    checkSize name bytes.size
    return bytes

/-- The module that is declared by an entry. A dynamic one with a source starts with its payload. -/
def moduleOfEntry (r : Resources) (files : Files) (entry : Entry) : Except HostError HostedModule := do
  let origin ← entry.origin
  let payload ← entry.source?.mapM fun source => do
    let bytes ← r.load files source
    Payload.parse entry.name bytes
  match origin, payload with
  | .static, some payload => HostedModule.ofStatic entry.name payload entry.source? entry.intent
  | .static, none => throw (.invalidConfig (.staticWithoutSource entry.name))
  | .dynamic, payload => HostedModule.ofDynamic entry.name payload entry.intent

end Resources

end WasmHost
