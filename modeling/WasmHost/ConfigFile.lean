import WasmHost.Configuration
import WasmHost.Text.Utf8
import WasmHost.Toml.Reader

/-! Configuration files: TOML texts whose relative paths start at the directory of the file. -/

namespace WasmHost

/-- Why a text is no configuration. -/
inductive ConfigTextFault where
  /-- It is no TOML. -/
  | notToml
  /-- It has not the form of a configuration. -/
  | mismatch (why : Mismatch)
deriving DecidableEq, Repr, Inhabited

/-- A sentence about a text that is no configuration. -/
def ConfigTextFault.message : ConfigTextFault → String
  | .notToml => "TOML parse error"
  | .mismatch why => why.message

/-- Why there is no configuration. -/
inductive ConfigFileError where
  /-- The file cannot be read. -/
  | unreadable (path : Path) (why : FileError)
  /-- The text is no configuration. -/
  | badText (why : ConfigTextFault)
  /-- A module has no name. -/
  | emptyName
  /-- Two modules have one name. -/
  | duplicateName (name : String)
deriving DecidableEq, Repr, Inhabited

/-- The sentence that reports a missing configuration. -/
def ConfigFileError.message : ConfigFileError → String
  | .unreadable path why => "Failed to read config file '" ++ path ++ "': " ++ why.message
  | .badText why => "Failed to parse config file: " ++ why.message
  | .emptyName => "Invalid config file: module name must not be empty"
  | .duplicateName name => "Invalid config file: module '" ++ name ++ "' is declared more than once"

namespace Configuration

/-- Every module has a name of its own. The first fault in order is reported. -/
def checkNames : List String → List Entry → Except ConfigFileError Unit
  | _, [] => .ok ()
  | seen, entry :: rest =>
    if entry.name.isEmpty then .error .emptyName
    else if seen.contains entry.name then .error (.duplicateName entry.name)
    else checkNames (entry.name :: seen) rest

/-- The configuration that a TOML text stands for. -/
def ofToml (text : String) : Except ConfigFileError Configuration := do
  match Toml.read? text with
  | none => throw (.badText .notToml)
  | some document =>
    let configuration ← (document.toConfiguration Toml.dialect).mapError fun why => .badText (.mismatch why)
    checkNames [] configuration.entries
    return configuration

/-- A relative path starts at the base; an absolute one does not change. -/
def rebase (base path : Path) : Path := if Path.isAbsolute path then path else Path.join base path

/-- The configuration whose relative paths start at the base. Names of resources are no paths. -/
def resolvePaths (base : Path) (c : Configuration) : Configuration :=
  { c with
    resourceDirectory := c.resourceDirectory.map (rebase base)
    entries := c.entries.map fun entry =>
      { entry with path := entry.path.map (rebase base), artifact := entry.artifact.map (rebase base) } }

/-- The configuration in a file. -/
def ofFile (files : Files) (path : Path) : Except ConfigFileError Configuration := do
  let bytes ← (files.read path).mapError (.unreadable path)
  let some text := Utf8.text? bytes | throw (.unreadable path .notText)
  let configuration ← ofToml text
  match Path.parent? path with
  | some base => return configuration.resolvePaths base
  | none => return configuration

end Configuration

end WasmHost
