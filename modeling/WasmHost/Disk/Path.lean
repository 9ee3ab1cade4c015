/-! Paths: their components, their parents, and joining them. Nothing is normalised. -/

namespace WasmHost

/-- A path as it is written. -/
abbrev Path := String

namespace Path

/-- A component of a path. -/
inductive Component where
  /-- The root. -/
  | root
  /-- The current directory; it counts only at the start. -/
  | current
  /-- The parent directory. -/
  | parent
  /-- A name. -/
  | normal (name : String)
deriving DecidableEq, Repr, Inhabited

/-- The pieces between slashes. -/
def pieces (path : Path) : List String := (path.splitOn "/")

/-- Whether a path starts at the root. -/
def isAbsolute (path : Path) : Bool := path.toList.head? = some '/'

/-- Whether a piece counts as a component. -/
def counts (piece : String) (place : Nat) : Bool := piece ≠ "" && (piece ≠ "." || place = 0)

/-- The component of a piece that counts. -/
def component (piece : String) : Component :=
  if piece = "." then .current else if piece = ".." then .parent else .normal piece

/-- The components of a path. Empty pieces and inner dots do not count. -/
def components (path : Path) : List Component :=
  let named := ((pieces path).zipIdx.filter fun (piece, place) => counts piece place).map (component ·.1)
  if isAbsolute path then .root :: named else named

/-- The path without its last component, as it is written. -/
def parent? (path : Path) : Option Path :=
  let all := pieces path
  let places := (all.zipIdx.filter fun (piece, place) => counts piece place).map (·.2)
  match places.reverse with
  | [] => none
  | [_] => some (if isAbsolute path then "/" else "")
  | _ :: before :: _ => some (String.intercalate "/" (all.take (before + 1)))

/-- A path that is looked up from a base. An absolute path replaces the base. -/
def join (base path : Path) : Path :=
  if isAbsolute path then path
  else if base = "" ∨ base.toList.getLast? = some '/' then base ++ path
  else base ++ "/" ++ path

/-- The last component, if it is a name. -/
def fileName? (path : Path) : Option String :=
  match (components path).getLast? with
  | some (.normal name) => some name
  | _ => none

/-- The name of a file without what follows its last dot. A dot at the start is part of the name. -/
def fileStem? (path : Path) : Option String := (fileName? path).map stem
where
  /-- The part of a name before its last dot. -/
  stem (name : String) : String :=
    let back := name.toList.reverse
    match back.dropWhile (· ≠ '.') with
    | [] | [_] => name
    | _ :: before => String.ofList before.reverse

/-- Whether a path consists of names alone, so that it leads nowhere but down. -/
def descends (path : Path) : Bool :=
  (components path).all fun c => match c with
    | .normal _ => true
    | _ => false

end Path

end WasmHost
