import WasmHost.Error
import WasmHost.SocketAddress

/-! The options of the command line. -/

namespace WasmHost.CommandLine

/-- What can be set on the command line, or by a variable of the environment. -/
inductive Setting where
  /-- The configuration file. -/
  | config
  /-- The address to listen on. -/
  | bind
  /-- The deployment. -/
  | deployment
deriving DecidableEq, Repr, Inhabited

namespace Setting

/-- All settings in order. -/
def all : List Setting := [.config, .bind, .deployment]

/-- The name of a setting. -/
def name : Setting → String
  | .config => "config"
  | .bind => "bind"
  | .deployment => "deployment"

/-- The letter of a setting. -/
def letter : Setting → Char
  | .config => 'c'
  | .bind => 'b'
  | .deployment => 'd'

/-- The variable of a setting. -/
def environmentName : Setting → String
  | .config => "MODHOST_CONFIG"
  | .bind => "BIND_ADDR"
  | .deployment => "MODHOST_DEPLOYMENT"

/-- A setting with its value, as usage shows it. -/
def usage (s : Setting) : String := "--" ++ s.name ++ " <" ++ s.name.toUpper ++ ">"

/-- What a setting is good for. -/
def purpose : Setting → String
  | .config => "Path to the TOML configuration file"
  | .bind => "Address to bind, overriding \x60[server].bind_addr\x60"
  | .deployment => "Deployment mode, overriding \x60[runtime].deployment\x60"

end Setting

/-- The settings that were given. -/
structure Options where
  /-- The configuration file. -/
  config : Option Path
  /-- The address to listen on. -/
  bind : Option SocketAddress
  /-- The deployment. -/
  deployment : Option Deployment
deriving DecidableEq, Repr, Inhabited

/-- Why a command line cannot be understood. -/
inductive UsageError where
  /-- A value is not valid. -/
  | invalidValue (setting : Setting) (value reason : String)
  /-- A setting has no value. -/
  | missingValue (setting : Setting)
  /-- A setting comes twice. -/
  | repeated (setting : Setting)
  /-- There is no such argument. -/
  | unexpected (argument : String)
deriving DecidableEq, Repr, Inhabited

/-- The sentence that reports a command line that cannot be understood. -/
def UsageError.message : UsageError → String
  | .invalidValue setting value reason =>
    "error: invalid value '" ++ value ++ "' for '" ++ setting.usage ++ "': " ++ reason
  | .missingValue setting => "error: a value is required for '" ++ setting.usage ++ "' but none was supplied"
  | .repeated setting => "error: the argument '" ++ setting.usage ++ "' cannot be used multiple times"
  | .unexpected argument => "error: unexpected argument '" ++ argument ++ "' found"

/-- Why a command line leads to no start. -/
inductive Stop where
  /-- Help is wanted. -/
  | help
  /-- The version is wanted. -/
  | version
  /-- The command line cannot be understood. -/
  | usage (why : UsageError)
deriving DecidableEq, Repr, Inhabited

namespace Options

/-- No settings. -/
def empty : Options := ⟨none, none, none⟩

/-- Whether a setting was given. -/
def has (o : Options) : Setting → Bool
  | .config => o.config.isSome
  | .bind => o.bind.isSome
  | .deployment => o.deployment.isSome

/-- Gives a setting its value. -/
def give (o : Options) (setting : Setting) (value : String) : Except Stop Options :=
  match setting with
  | .config => if value = "" then throw (.usage (.missingValue .config)) else return { o with config := some value }
  | .bind =>
    match SocketAddress.parse? value with
    | some address => return { o with bind := some address }
    | none => throw (.usage (.invalidValue .bind value badAddressText))
  | .deployment =>
    match Deployment.parse value with
    | .ok deployment => return { o with deployment := some deployment }
    | .error why => throw (.usage (.invalidValue .deployment value why.message))

/-- Gives a setting its value, which it may have only once. -/
def giveOnce (o : Options) (setting : Setting) (value : String) : Except Stop Options :=
  if o.has setting then throw (.usage (.repeated setting)) else o.give setting value

end Options

/-- The setting that arguments have come to, with its value if that has come too. -/
structure Pending where
  /-- The setting. -/
  setting : Setting
  /-- The value. -/
  value : Option String
deriving DecidableEq, Repr, Inhabited

/-- What arguments mean so far. -/
structure Progress where
  /-- The settings that are given. -/
  options : Options
  /-- The latest setting, which is not given before the next argument is known. -/
  pending : Option Pending
  /-- Whether no more settings may come. -/
  closed : Bool
deriving DecidableEq, Repr, Inhabited

namespace Progress

/-- What is known before any argument. -/
def start : Progress := ⟨.empty, none, false⟩

/-- Gives the latest setting. -/
def settle (p : Progress) : Except Stop Progress :=
  match p.pending with
  | none => return p
  | some ⟨setting, none⟩ => throw (.usage (.missingValue setting))
  | some ⟨setting, some value⟩ => return { p with options := ← p.options.giveOnce setting value, pending := none }

/-- A setting comes, with its value or in front of it. -/
def take (p : Progress) (setting : Setting) (value : Option String) : Except Stop Progress := do
  let p ← p.settle
  match value with
  | some value => return { p with options := ← p.options.giveOnce setting value }
  | none => return { p with pending := some ⟨setting, none⟩ }

/-- Something ends the command line, if the latest setting is right. -/
def stop (p : Progress) (why : Stop) : Except Stop Progress := do
  let _ ← p.settle
  throw why

/-- No argument has this form. -/
def refuse (argument : String) : Except Stop Progress := throw (.usage (.unexpected argument))

/-- An argument with a long name. -/
def long (p : Progress) (argument : String) (text : List Char) : Except Stop Progress :=
  let name := String.ofList (text.takeWhile (· ≠ '='))
  let value := (text.dropWhile (· ≠ '=')).tail?.map String.ofList
  match Setting.all.find? (·.name = name) with
  | some setting => p.take setting value
  | none =>
    if value.isSome then refuse argument
    else if name = "help" then p.stop .help
    else if name = "version" then p.stop .version
    else refuse argument

/-- An argument with a letter. What follows the letter of a setting is its value. -/
def short (p : Progress) (argument : String) (letter : Char) (text : List Char) : Except Stop Progress :=
  match Setting.all.find? (·.letter = letter) with
  | some setting =>
    let value := match text with
      | [] => none
      | '=' :: rest => some (String.ofList rest)
      | rest => some (String.ofList rest)
    p.take setting value
  | none =>
    if letter = 'h' then p.stop .help
    else if letter = 'V' then p.stop .version
    else refuse argument

/-- An argument that stands for itself: only a setting can use it. -/
def plain (p : Progress) (argument : String) : Except Stop Progress :=
  match p.pending with
  | some ⟨setting, none⟩ => return { p with pending := some ⟨setting, some argument⟩ }
  | _ => refuse argument

/-- The next argument. -/
def next (p : Progress) (argument : String) : Except Stop Progress :=
  if p.closed then refuse argument
  else
    match argument.toList with
    | ['-', '-'] => return { p with closed := true }
    | '-' :: '-' :: text => p.long argument text
    | '-' :: letter :: text => p.short argument letter text
    | _ => p.plain argument

end Progress

namespace Options

/-- Gives the settings that variables name and arguments do not. -/
def withVariables (environment : List (String × String)) (options : Options) : Except Stop Options :=
  Setting.all.foldlM
    (fun o setting =>
      match environment.lookup setting.environmentName with
      | some value => if o.has setting then return o else o.give setting value
      | none => return o)
    options

/-- The settings that arguments and variables give; arguments win. -/
def parse (environment : List (String × String)) (arguments : List String) : Except Stop Options := do
  let last ← arguments.foldlM Progress.next .start
  let settled ← last.settle
  settled.options.withVariables environment

end Options

/-- The version of the program. -/
def versionText : String := "modhost 0.1.0"

/-- The width of a line of help. -/
def helpWidth : Nat := 100

/-- Puts one more word behind the latest of some lines, or into a line of its own where it does not fit. -/
def addWord (width : Nat) (lines : List String) (word : String) : List String :=
  match lines with
  | [] => [word]
  | line :: rest =>
    if line.length + 1 + word.length ≤ width then (line ++ " " ++ word) :: rest else word :: line :: rest

/-- A text in lines that are not wider than necessary. -/
def wrap (width : Nat) (text : String) : List String :=
  ((text.splitOn " ").foldl (addWord width) []).reverse

/-- The help for one argument; further lines stand below the first one. -/
def helpEntry (column : Nat) (left text : String) : List String :=
  let indent := String.ofList (List.replicate column ' ')
  match wrap (helpWidth - column) text with
  | [] => [left]
  | first :: more => (left ++ String.ofList (List.replicate (column - left.length) ' ') ++ first) :: more.map (indent ++ ·)

/-- The help. -/
def helpLines (environment : List (String × String)) : List String :=
  let left (s : Setting) := "  -" ++ s.letter.toString ++ ", " ++ s.usage
  let column := (Setting.all.map fun s => (left s).length).foldl max 0 + 2
  let text (s : Setting) :=
    s.purpose ++ " [env: " ++ s.environmentName ++ "=" ++ (environment.lookup s.environmentName).getD "" ++ "]"
  ["WebAssembly module registry with per-deployment execution strategy selection", "",
    "Usage: modhost [OPTIONS]", "", "Options:"]
    ++ Setting.all.flatMap (fun s => helpEntry column (left s) (text s))
    ++ helpEntry column "  -h, --help" "Print help"
    ++ helpEntry column "  -V, --version" "Print version"

end WasmHost.CommandLine
