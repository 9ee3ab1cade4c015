import WasmHost.Engine
import WasmHost.Text.Quoted

/-! Prebuilt artifacts: machine code that waits for a module under its name. -/

namespace WasmHost

/-- Where machine code comes from when it is needed. -/
inductive Artifact where
  /-- From nowhere: whoever should supply it only gives a reason. -/
  | refused (reason : String)
  /-- From bytes in memory. -/
  | bytes (value : ByteArray)
  /-- From a file, which is read each time. -/
  | file (path : Path)
deriving Inhabited

/-- The code of an artifact. -/
def Artifact.load (engine : Engine) (files : Files) : Artifact → Except HostError Wasm.Module
  | .refused reason => .error (.compilationFailed (.stated reason))
  | .bytes value =>
    match engine.loadArtifact? value with
    | some code => .ok code
    | none => .error (.compilationFailed .artifact)
  | .file path =>
    match (files.read path).toOption.bind engine.loadArtifact? with
    | some code => .ok code
    | none => .error (.compilationFailed (.artifactFile path))

/-- Artifacts by the names of their modules. -/
structure Artifacts where
  /-- The artifacts, one for each name. -/
  table : List (String × Artifact)
deriving Inhabited

namespace Artifacts

/-- No artifacts. -/
def empty : Artifacts := ⟨[]⟩

/-- The artifact of a name. -/
def get? (a : Artifacts) (name : String) : Option Artifact := a.table.lookup name

/-- Whether there is an artifact of a name. -/
def contains (a : Artifacts) (name : String) : Bool := (a.get? name).isSome

/-- Removes the artifact of a name. -/
def erase (a : Artifacts) (name : String) : Artifacts := ⟨a.table.filter (·.1 ≠ name)⟩

/-- Registers the artifact of a name in place of any other one. -/
def insert (a : Artifacts) (name : String) (artifact : Artifact) : Artifacts :=
  ⟨(name, artifact) :: (a.erase name).table⟩

/-- Registers artifacts in files. -/
def insertFiles (a : Artifacts) (files : List (String × Path)) : Artifacts :=
  files.foldl (fun a (name, path) => a.insert name (.file path)) a

/-- The number of artifacts. -/
def size (a : Artifacts) : Nat := a.table.length

/-- The names in order. -/
def names (a : Artifacts) : List String := (a.table.map (·.1)).mergeSort (· ≤ ·)

/-- The artifacts in diagnostics. -/
def describe (a : Artifacts) : String := "ArtifactTable \x7b modules: " ++ quotedList a.names ++ " \x7d"

end Artifacts

end WasmHost
