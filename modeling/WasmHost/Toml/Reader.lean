import WasmHost.Document.Schema
import WasmHost.Toml.Number
import WasmHost.Toml.Table

/-! Documents from TOML texts. -/

namespace WasmHost.Toml

/-- The documents of a list of documents that were read in reverse. -/
def listOf (done : List Document) : Document := .list done.reverse

mutual

/-- A value at some depth. Every step uses up fuel, of which there is more than characters. -/
def value (fuel depth : Nat) (text : List Char) : Option (Document × List Char) :=
  match fuel with
  | 0 => none
  | fuel + 1 =>
    match text with
    | '"' :: _ | '\'' :: _ => (quotedText text).map fun (read, rest) => (.text read, rest)
    | '[' :: rest => if depth + 1 < depthLimit then list fuel (depth + 1) rest [] else none
    | '\x7b' :: rest => if depth + 1 < depthLimit then inlineTable fuel (depth + 1) rest else none
    | 't' :: 'r' :: 'u' :: 'e' :: rest => some (.bool true, rest)
    | 'f' :: 'a' :: 'l' :: 's' :: 'e' :: rest => some (.bool false, rest)
    | _ => number text

/-- The items of a list up to its end, of which some are already read. -/
def list (fuel depth : Nat) (text : List Char) (done : List Document) : Option (Document × List Char) :=
  match fuel with
  | 0 => none
  | fuel + 1 =>
    match skipLines text with
    | ']' :: rest => some (listOf done, rest)
    | text => do
      let (item, rest) ← value fuel depth text
      match skipLines rest with
      | ',' :: rest => list fuel depth rest (item :: done)
      | ']' :: rest => some (listOf (item :: done), rest)
      | _ => none

/-- A table in one line. -/
def inlineTable (fuel depth : Nat) (text : List Char) : Option (Document × List Char) :=
  match fuel with
  | 0 => none
  | fuel + 1 =>
    match skipBlanks text with
    | '\x7d' :: rest => some (.record [], rest)
    | text => inlineFields fuel depth text []

/-- The fields of a table in one line up to its end; at least one is left. -/
def inlineFields (fuel depth : Nat) (text : List Char) (items : Items) : Option (Document × List Char) :=
  match fuel with
  | 0 => none
  | fuel + 1 => do
    let (parts, rest) ← key text
    let rest ← mark '=' rest
    let (read, rest) ← value fuel depth (skipBlanks rest)
    let items ← items.defineDotted parts.dropLast (parts.getLastD "") read
    match skipBlanks rest with
    | ',' :: rest => inlineFields fuel depth rest items
    | '\x7d' :: rest => some (.record (itemsDocument items), rest)
    | _ => none

end

/-- A text that is partly read. -/
structure Progress where
  /-- Everything that is defined so far. -/
  root : Items
  /-- The path of the table that is open. -/
  path : List String

/-- A header opens a table or one more table of a list. -/
def header (progress : Progress) (text : List Char) : Option (Progress × List Char) := do
  let (isElement, rest) := match text with
    | '[' :: rest => (true, rest)
    | _ => (false, text)
  let (parts, rest) ← key rest
  let rest ← mark ']' rest
  let rest ← if isElement then mark ']' rest else some rest
  let rest ← endOfLine rest
  let last := parts.getLastD ""
  let root ← progress.root.update parts.dropLast (if isElement then Items.openElement last else Items.openTable last)
  return (⟨root, parts⟩, rest)

/-- A definition in the open table. -/
def definition (progress : Progress) (text : List Char) : Option (Progress × List Char) := do
  let (parts, rest) ← key text
  let rest ← mark '=' rest
  let (read, rest) ← value (2 * rest.length + 2) 0 (skipBlanks rest)
  let rest ← endOfLine rest
  let root ← progress.root.update progress.path (Items.defineDotted parts.dropLast (parts.getLastD "") read)
  return (⟨root, progress.path⟩, rest)

/-- All lines of a text. Every line uses up a character. -/
def lines : Nat → Progress → List Char → Option Progress
  | 0, progress, text => if text.isEmpty then some progress else none
  | fuel + 1, progress, text =>
    match skipBlanks text with
    | [] => some progress
    | '#' :: rest =>
      match endOfLine ('#' :: rest) with
      | some rest => lines fuel progress rest
      | none => none
    | '[' :: rest =>
      match header progress rest with
      | some (progress, rest) => lines fuel progress rest
      | none => none
    | text =>
      match newline? text with
      | some rest => lines fuel progress rest
      | none =>
        match definition progress text with
        | some (progress, rest) => lines fuel progress rest
        | none => none

/-- The document of a TOML text. A mark for the order of bytes at the start does not matter. -/
def read? (text : String) : Option Document :=
  let characters := match text.toList with
    | '\uFEFF' :: rest => rest
    | characters => characters
  (lines (characters.length + 1) ⟨[], []⟩ characters).map fun progress => .record (itemsDocument progress.root)

/-- In TOML a record written as a list may have more items than fields, and no value is an empty table
or an empty list. -/
def dialect : Dialect where
  surplusItems := true
  isUnit
    | .record [] | .list [] => true
    | _ => false

end WasmHost.Toml
