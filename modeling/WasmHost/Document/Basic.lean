import WasmHost.Number.Decimal

/-! Documents: the values that data texts denote, before any part of them is given a type. -/

namespace WasmHost

/-- The value of a data text. -/
inductive Document where
  /-- No value. -/
  | null
  /-- A truth value. -/
  | bool (value : Bool)
  /-- A whole number. -/
  | integer (value : Int)
  /-- The pattern of a 32-bit floating-point number. -/
  | single (bits : Nat)
  /-- The pattern of a 64-bit floating-point number. -/
  | double (bits : Nat)
  /-- A text. -/
  | text (value : String)
  /-- A part that has the right form and may be skipped, but denotes no value. -/
  | unreadable
  /-- Values in order. -/
  | list (items : List Document)
  /-- Named values in order; a name may come more than once. -/
  | record (fields : List (String × Document))
deriving Repr, Inhabited

namespace Document

/-- A list of texts. -/
def texts (items : List String) : Document := .list (items.map .text)

/-- A natural number. -/
def nat (n : Nat) : Document := .integer n

/-- A value that may be absent. -/
def option {α : Type} (encode : α → Document) : Option α → Document
  | some value => encode value
  | none => .null

/-- The first value of a name in a record. -/
def field? (d : Document) (name : String) : Option Document :=
  match d with
  | .record fields => fields.lookup name
  | _ => none

end Document

end WasmHost
