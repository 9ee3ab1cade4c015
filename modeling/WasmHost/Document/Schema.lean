import WasmHost.Document.Basic

/-! Giving types to documents: numbers in ranges, words, variants and records with known fields. -/

namespace WasmHost

/-- Why a document has not the wanted type. -/
inductive Mismatch where
  /-- Something else was expected. -/
  | expected (what : String)
  /-- A number is outside its range. -/
  | outOfRange
  /-- A name is none of the known variants. -/
  | unknownVariant (name : String)
  /-- A field must be there. -/
  | missingField (name : String)
  /-- A known field comes twice. -/
  | duplicateField (name : String)
  /-- A list has too few or too many items for a record. -/
  | wrongLength
deriving DecidableEq, Repr, Inhabited

/-- A sentence about a mismatch. -/
def Mismatch.message : Mismatch → String
  | .expected what => "invalid type, expected " ++ what
  | .outOfRange => "number out of range"
  | .unknownVariant name => "unknown variant \x60" ++ name ++ "\x60"
  | .missingField name => "missing field \x60" ++ name ++ "\x60"
  | .duplicateField name => "duplicate field \x60" ++ name ++ "\x60"
  | .wrongLength => "invalid length"

/-- The conventions in which kinds of data texts differ. -/
structure Dialect where
  /-- Whether a list that stands for a record may have more items than the record has fields. -/
  surplusItems : Bool
  /-- Whether a document is what a variant without content may be written with. -/
  isUnit : Document → Bool

namespace Document

/-- A typed reading of documents. -/
abbrev Typed (α : Type) := Document → Except Mismatch α

/-- A truth value. -/
def toBool : Typed Bool
  | .bool value => .ok value
  | _ => .error (.expected "a boolean")

/-- A text. -/
def toText : Typed String
  | .text value => .ok value
  | _ => .error (.expected "a string")

/-- A whole number in a range that ends before `high`. -/
def toInteger (low high : Int) : Typed Int
  | .integer value => if low ≤ value ∧ value < high then .ok value else .error .outOfRange
  | _ => .error (.expected "an integer")

/-- A natural number below a bound. -/
def toNat (bound : Nat) : Typed Nat := fun d => (d.toInteger 0 bound).map Int.toNat

/-- A natural number of 32 bits. -/
def toUInt32 : Typed UInt32 := fun d => (d.toNat (Integer.modulus 32)).map Nat.toUInt32

/-- A natural number of 64 bits. -/
def toUInt64 : Typed UInt64 := fun d => (d.toNat (Integer.modulus 64)).map Nat.toUInt64

/-- An integer of 32 bits. -/
def toInt32 : Typed Int32 := fun d => (d.toInteger (-(Integer.modulus 31 : Int)) (Integer.modulus 31)).map Int32.ofInt

/-- An integer of 64 bits. -/
def toInt64 : Typed Int64 := fun d => (d.toInteger (-(Integer.modulus 63 : Int)) (Integer.modulus 63)).map Int64.ofInt

/-- The pattern of a 64-bit floating-point number; whole numbers are rounded to the nearest. -/
def toDouble : Typed UInt64
  | .double bits => .ok bits.toUInt64
  | .single bits => .ok (FloatFormat.convert .single .double bits).toUInt64
  | .integer value => .ok (FloatFormat.double.ofInt value).toUInt64
  | _ => .error (.expected "a number")

/-- The pattern of a 32-bit floating-point number; any other number is rounded to the nearest. -/
def toSingle : Typed UInt32
  | .double bits => .ok (FloatFormat.convert .double .single bits).toUInt32
  | .single bits => .ok bits.toUInt32
  | .integer value => .ok (FloatFormat.single.ofInt value).toUInt32
  | _ => .error (.expected "a number")

/-- A list of one type. -/
def toList {α : Type} (item : Typed α) : Typed (List α)
  | .list items => items.mapM item
  | _ => .error (.expected "a sequence")

/-- A value that may be absent. -/
def toOption {α : Type} (item : Typed α) : Typed (Option α)
  | .null => .ok none
  | d => (item d).map some

/-- One of several variants without content, each known under some names.
It is written as its name, or as a record of its name alone. -/
def toVariant {α : Type} (dialect : Dialect) (variants : List (String × α)) : Typed α
  | .text name => find name
  | .record [(name, content)] =>
    if dialect.isUnit content then find name else .error (.expected "a variant without content")
  | _ => .error (.expected "a variant")
where
  /-- The variant of a name. -/
  find (name : String) : Except Mismatch α :=
    match variants.lookup name with
    | some value => .ok value
    | none => .error (.unknownVariant name)

/-- The values of a record's fields in the order of their declaration. -/
structure Fields where
  /-- Whether the record was written as a list. -/
  positional : Bool
  /-- The declared names with the values that are there. -/
  values : List (String × Option Document)
deriving Inhabited

/-- The fields of a record with the declared names.
Unknown fields are skipped, known ones may come once. A record may be written as the list of its
fields, of which the last ones may be missing. -/
def fields (dialect : Dialect) (names : List String) : Typed Fields
  | .record entries => do
    let values ← names.mapM fun name =>
      match entries.filter (·.1 = name) with
      | [] => .ok (name, none)
      | [(_, value)] => .ok (name, some value)
      | _ => .error (.duplicateField name)
    return ⟨false, values⟩
  | .list items =>
    if names.length < items.length ∧ !dialect.surplusItems then .error .wrongLength
    else .ok ⟨true, names.zipIdx.map fun (name, place) => (name, items[place]?)⟩
  | _ => .error (.expected "a record")

namespace Fields

/-- The value of a declared field, if it is there. -/
def find? (f : Fields) (name : String) : Option Document := (f.values.lookup name).join

/-- A field that must be there. -/
def required {α : Type} (f : Fields) (name : String) (item : Typed α) : Except Mismatch α :=
  match f.find? name with
  | some value => item value
  | none => .error (.missingField name)

/-- A field that has a value of its own when it is missing. -/
def withDefault {α : Type} (f : Fields) (name : String) (item : Typed α) (default : α) : Except Mismatch α :=
  match f.find? name with
  | some value => item value
  | none => .ok default

/-- A field without a value is the same as a missing one; a list must still have a place for it. -/
def optional {α : Type} (f : Fields) (name : String) (item : Typed α) : Except Mismatch (Option α) :=
  match f.find? name with
  | some value => toOption item value
  | none => if f.positional then .error .wrongLength else .ok none

end Fields

end Document

end WasmHost
