import WasmHost.Document.Schema
import WasmHost.Json.Token

/-! Documents from JSON texts: tokens fill the open lists and records, the innermost one first. -/

namespace WasmHost.Json

/-- A list or record that is not closed yet, with what it holds so far, the latest first. -/
inductive Container where
  /-- A list. -/
  | list (items : List Document)
  /-- A record between two of its fields; a name that denotes no text has no value. -/
  | record (fields : List (Option String × Document))
  /-- A record that waits for the value of a name. -/
  | field (fields : List (Option String × Document)) (name : Option String)
deriving Repr, Inhabited

/-- What the next token must be. -/
inductive Expectation where
  /-- A value. -/
  | value
  /-- A value, or the end of a list that holds nothing yet. -/
  | firstItem
  /-- A name. -/
  | name
  /-- A name, or the end of a record that holds nothing yet. -/
  | firstName
  /-- The colon between a name and its value. -/
  | colon
  /-- A comma or the end of the innermost container. -/
  | separator
deriving DecidableEq, Repr, Inhabited

/-- A reading between two tokens. -/
inductive Reading where
  /-- Some containers are open, the innermost one first, and something is still missing. -/
  | partway (open_ : List Container) (expected : Expectation)
  /-- The document is complete. -/
  | complete (document : Document)
deriving Repr, Inhabited

namespace Reading

/-- Nothing is read yet. -/
def start : Reading := .partway [] .value

/-- The document of a token that stands for a text. -/
def ofText (value : Option String) : Document :=
  match value with
  | some text => .text text
  | none => .unreadable

/-- The record of some fields; if one of the names denotes nothing, neither does the record. -/
def closeRecord (fields : List (Option String × Document)) : Document :=
  match fields.reverse.mapM fun (name, value) => name.map fun name => (name, value) with
  | some fields => .record fields
  | none => .unreadable

/-- Puts a complete value where it belongs. -/
def put (document : Document) : List Container → Except Fault Reading
  | [] => .ok (.complete document)
  | .list items :: outer => .ok (.partway (.list (document :: items) :: outer) .separator)
  | .field fields name :: outer => .ok (.partway (.record ((name, document) :: fields) :: outer) .separator)
  | .record _ :: _ => .error .unexpectedEnd

/-- Reads the start of a value. -/
def startValue (open_ : List Container) : Token → Except Fault Reading
  | .text value => put (ofText value) open_
  | .value document => put document open_
  | .openList => .ok (.partway (.list [] :: open_) .firstItem)
  | .openRecord => .ok (.partway (.record [] :: open_) .firstName)
  | _ => .error (.unexpected 0)

/-- Reads one token. -/
def step (reading : Reading) (token : Token) : Except Fault Reading :=
  match reading with
  | .complete _ => .error .trailing
  | .partway open_ expected =>
    match expected, token, open_ with
    | .value, token, open_ => startValue open_ token
    | .firstItem, .closeList, .list _ :: outer => put (.list []) outer
    | .firstItem, token, open_ => startValue open_ token
    | .firstName, .closeRecord, .record _ :: outer => put (.record []) outer
    | .firstName, .text name, .record fields :: outer => .ok (.partway (.field fields name :: outer) .colon)
    | .name, .text name, .record fields :: outer => .ok (.partway (.field fields name :: outer) .colon)
    | .colon, .colon, open_ => .ok (.partway open_ .value)
    | .separator, .comma, .list items :: outer => .ok (.partway (.list items :: outer) .value)
    | .separator, .comma, .record fields :: outer => .ok (.partway (.record fields :: outer) .name)
    | .separator, .closeList, .list items :: outer => put (.list items.reverse) outer
    | .separator, .closeRecord, .record fields :: outer => put (closeRecord fields) outer
    | _, _, _ => .error (.unexpected 0)

end Reading

/-- The document of a sequence of tokens. -/
def ofTokens (tokens : List Token) : Except Fault Document := do
  match ← tokens.foldlM Reading.step .start with
  | .complete document => return document
  | .partway .. => throw .unexpectedEnd

/-- The document of a JSON text, given as bytes. -/
def read (bytes : List UInt8) : Except Fault Document := tokens bytes >>= ofTokens

/-- In JSON a record written as a list has no more items than fields, and no value is `null`. -/
def dialect : Dialect where
  surplusItems := false
  isUnit
    | .null => true
    | _ => false

/-- Why a JSON text gives no value of a type. -/
inductive TypedFault where
  /-- It is no JSON. -/
  | notJson (why : Fault)
  /-- It denotes something else. -/
  | mismatch (why : Mismatch)
deriving DecidableEq, Repr, Inhabited

/-- A sentence about a text that gives no value. -/
def TypedFault.message : TypedFault → String
  | .notJson why => why.message
  | .mismatch why => why.message

/-- The value of a type that a JSON text denotes. -/
def readAs {α : Type} (typed : Document.Typed α) (bytes : List UInt8) : Except TypedFault α := do
  let document ← (read bytes).mapError .notJson
  (typed document).mapError .mismatch

end WasmHost.Json
