import WasmHost.CommandLine.Startup

/-! The program. It knows the files that its configuration speaks of, and it has no network. -/

namespace WasmHost

/-- The reason why no address can be listened on. -/
def noNetwork : String := "Operation not supported (os error 95)"

/-- Adds the file at a path, if it can be read. -/
def addFile (files : Files) (path : Path) : IO Files := do
  try
    return files.insert path (.file (← IO.FS.readBinFile path))
  catch _ => return files

/-- The files that a configuration speaks of. -/
def pathsOf (c : Configuration) : List Path :=
  c.entries.flatMap fun entry =>
    entry.path.toList ++ entry.artifact.toList
      ++ (entry.resource.bind fun name => c.resourceDirectory.map (Path.join · name)).toList

/-- The files that a command line leads to. -/
def readFiles (environment : List (String × String)) (arguments : List String) : IO Files := do
  match CommandLine.Options.parse environment arguments with
  | .ok ⟨some path, _, _⟩ =>
    let files ← addFile .empty path
    match Configuration.ofFile files path with
    | .ok configuration => (pathsOf configuration).foldlM addFile files
    | .error _ => return files
  | _ => return .empty

end WasmHost

/-- Runs the program. -/
def main (arguments : List String) : IO UInt32 := do
  let environment ← WasmHost.CommandLine.Setting.all.filterMapM fun setting => do
    return (← IO.getEnv setting.environmentName).map (setting.environmentName, ·)
  let files ← WasmHost.readFiles environment arguments
  let transcript := WasmHost.CommandLine.run (fun _ => some WasmHost.noNetwork) files environment arguments
  for line in transcript.output do IO.println line
  for notice in transcript.notices do IO.println notice.text
  for line in transcript.errors do IO.eprintln line
  return transcript.code.toUInt32
