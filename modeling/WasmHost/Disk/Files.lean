import WasmHost.Disk.Path

/-! The files that are known, and what goes wrong when paths are looked up among them. -/

namespace WasmHost

/-- Why a file cannot be used. -/
inductive FileError where
  /-- There is nothing at the path. -/
  | notFound
  /-- Something on the way is no directory. -/
  | notDirectory
  /-- The path leads to a directory. -/
  | isDirectory
  /-- The file at the path may not be read. -/
  | denied
  /-- A name or the path is too long. -/
  | nameTooLong
  /-- The path holds a character that no path may hold. -/
  | badName
  /-- The contents are not text. -/
  | notText
deriving DecidableEq, Repr, Inhabited

/-- The sentence about a file that cannot be used. -/
def FileError.message : FileError → String
  | .notFound => "No such file or directory (os error 2)"
  | .notDirectory => "Not a directory (os error 20)"
  | .isDirectory => "Is a directory (os error 21)"
  | .denied => "Permission denied (os error 13)"
  | .nameTooLong => "File name too long (os error 36)"
  | .badName => "file name contained an unexpected NUL byte"
  | .notText => "stream did not contain valid UTF-8"

/-- What stands at a place. -/
inductive Node where
  /-- A file with its contents. -/
  | file (bytes : ByteArray)
  /-- A file that may not be read. -/
  | locked
  /-- A directory. -/
  | directory
deriving Inhabited

/-- Whether a node is a file, which says nothing about reading it. -/
def Node.isFile : Node → Bool
  | .file _ | .locked => true
  | .directory => false

/-- Files and directories by the names that lead to them: from the working directory, or behind a slash from
the root. -/
structure Files where
  /-- The nodes; the latest one of a place counts. -/
  nodes : List (List String × Node)
deriving Inhabited

/-- Where a lookup has come to. -/
inductive Place where
  /-- At the end of some names. -/
  | inside (names : List String)
  /-- Above the working directory, where nothing is known. -/
  | outside
deriving DecidableEq, Repr, Inhabited

namespace Files

/-- A tree without files. -/
def empty : Files := ⟨[]⟩

/-- The names of the root: no file can be called like that. -/
def root : List String := ["/"]

/-- The names from which a path starts. -/
def origin (path : Path) : List String := if Path.isAbsolute path then root else []

/-- What stands at some names; the working directory and the root always exist. -/
def node? (files : Files) (names : List String) : Option Node :=
  if names = [] ∨ names = root then some .directory else files.nodes.lookup names

/-- The longest name, in bytes. -/
def maxName : Nat := 255

/-- The longest path, in bytes, with the mark of its end. -/
def maxPath : Nat := 4096

/-- Goes one piece of a path further. -/
def descend (files : Files) (place : Place) (piece : String) : Except FileError Place := do
  match place with
  | .outside => if piece = "" ∨ piece = "." ∨ piece = ".." then return .outside else throw .notFound
  | .inside names =>
    match files.node? names with
    | none => throw .notFound
    | some (.file _) | some .locked => throw .notDirectory
    | some .directory =>
      if piece = "" ∨ piece = "." then return .inside names
      else if piece = ".." then
        return if names = [] then .outside else if names = root then .inside root else .inside names.dropLast
      else if maxName < piece.utf8ByteSize then throw .nameTooLong
      else return .inside (names ++ [piece])

/-- Where a path leads. -/
def locate (files : Files) (path : Path) : Except FileError Place := do
  if path.toList.contains '\x00' then throw .badName
  if path = "" then throw .notFound
  if maxPath ≤ path.utf8ByteSize then throw .nameTooLong
  (Path.pieces path).foldlM (descend files) (.inside (origin path))

/-- The contents of the file at a path. -/
def read (files : Files) (path : Path) : Except FileError ByteArray := do
  match ← files.locate path with
  | .outside => throw .isDirectory
  | .inside names =>
    match files.node? names with
    | some (.file bytes) => return bytes
    | some .locked => throw .denied
    | some .directory => throw .isDirectory
    | none => throw .notFound

/-- Whether there is a file at a path, be it readable or not. -/
def isFile (files : Files) (path : Path) : Bool :=
  match files.locate path with
  | .ok (.inside names) => (files.node? names).any (·.isFile)
  | _ => false

/-- The names that a path passes, one after the other, where every directory on the way is there. -/
def passed (path : Path) : List (List String) :=
  ((Path.pieces path).foldl advance (origin path, [])).2.reverse
where
  /-- Goes one piece further; the latest place comes first. -/
  advance (state : List String × List (List String)) (piece : String) : List String × List (List String) :=
    let names :=
      if piece = "" ∨ piece = "." then state.1
      else if piece = ".." then if state.1 = root then root else state.1.dropLast
      else state.1 ++ [piece]
    (names, names :: state.2)

/-- Adds a node and the directories on the way to it. -/
def insert (files : Files) (path : Path) (node : Node) : Files :=
  let places := passed path
  let names := places.getLastD []
  let above := places.dropLast.filter fun place => place ≠ names ∧ (files.node? place).isNone
  ⟨(names, node) :: files.nodes ++ above.map fun place => (place, .directory)⟩

/-- Removes the file at a path; tells whether there was one. -/
def remove (files : Files) (path : Path) : Bool × Files :=
  match files.locate path with
  | .ok (.inside names) =>
    if (files.node? names).any (·.isFile) then (true, ⟨files.nodes.filter (·.1 ≠ names)⟩) else (false, files)
  | _ => (false, files)

end Files

end WasmHost
