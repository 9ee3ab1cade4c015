import WasmHost.Document.Basic
import WasmHost.Text.Hex

/-! The compact JSON text of a document. -/

namespace WasmHost.Json

/-- A character inside a quoted text. Only quotes, backslashes and controls are escaped. -/
def escape (c : Char) : String :=
  if c = '"' then "\\\""
  else if c = '\\' then "\\\\"
  else if c = '\x08' then "\\b"
  else if c = '\t' then "\\t"
  else if c = '\n' then "\\n"
  else if c = '\x0C' then "\\f"
  else if c = '\r' then "\\r"
  else if c.toNat < 32 then "\\u" ++ Hex.ofNat 4 c.toNat
  else String.singleton c

/-- A text between quotes. -/
def quote (text : String) : String :=
  "\"" ++ String.join (text.toList.map escape) ++ "\""

mutual

/-- The text of a document. What is no finite number is written as `null`. -/
def render : Document → String
  | .null | .unreadable => "null"
  | .bool true => "true"
  | .bool false => "false"
  | .integer value => toString value
  | .single bits => (FloatFormat.single.dataText? bits).getD "null"
  | .double bits => (FloatFormat.double.dataText? bits).getD "null"
  | .text value => quote value
  | .list items => "[" ++ String.intercalate "," (renderItems items) ++ "]"
  | .record fields => "\x7b" ++ String.intercalate "," (renderFields fields) ++ "\x7d"

/-- The texts of the items of a list. -/
def renderItems : List Document → List String
  | [] => []
  | item :: rest => render item :: renderItems rest

/-- The texts of the fields of a record. -/
def renderFields : List (String × Document) → List String
  | [] => []
  | (name, value) :: rest => (quote name ++ ":" ++ render value) :: renderFields rest

end

end WasmHost.Json
