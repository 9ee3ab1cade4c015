import WasmHost.Document.Basic

/-! Tables of TOML while they are filled: which names may still be defined, and which are closed. -/

namespace WasmHost.Toml

/-- What a name in a table stands for. -/
inductive Item where
  /-- A value, which is closed. -/
  | value (document : Document)
  /-- A table. Only what is mentioned on the way to other tables may be opened later, and only what is
  defined by dotted keys may grow by them. -/
  | table (mentioned dotted : Bool) (items : List (String × Item))
  /-- Tables in order, the latest first; the latest one is open. -/
  | tables (elements : List (List (String × Item)))
deriving Inhabited

/-- What a table holds, in order. -/
abbrev Items := List (String × Item)

mutual

/-- The document of what a name stands for. -/
def Item.document : Item → Document
  | .value document => document
  | .table _ _ items => .record (itemsDocument items)
  | .tables elements => .list (elementsDocument elements).reverse

/-- The fields of a table. -/
def itemsDocument : List (String × Item) → List (String × Document)
  | [] => []
  | (name, item) :: rest => (name, item.document) :: itemsDocument rest

/-- The documents of tables, in the same order. -/
def elementsDocument : List (List (String × Item)) → List Document
  | [] => []
  | items :: rest => .record (itemsDocument items) :: elementsDocument rest

end

namespace Items

/-- What a name stands for. -/
def get? (items : Items) (name : String) : Option Item := items.lookup name

/-- Gives a name that is there another meaning; else adds it at the end. -/
def set (items : Items) (name : String) (item : Item) : Items :=
  if (items.lookup name).isSome then
    items.map fun (other, old) => if other = name then (other, item) else (other, old)
  else items ++ [(name, item)]

/-- Defines a name, which must be new. -/
def define (items : Items) (name : String) (document : Document) : Option Items :=
  match items.get? name with
  | some _ => none
  | none => some (items ++ [(name, .value document)])

/-- Defines a dotted key. The tables on the way must come from dotted keys, too. -/
def defineDotted : List String → String → Document → Items → Option Items
  | [], name, document, items => items.define name document
  | part :: rest, name, document, items =>
    match items.get? part with
    | none => (defineDotted rest name document []).map fun inner => items.set part (.table true true inner)
    | some (.table true dotted inner) =>
      -- The last table on the way must itself be one of dotted keys.
      if rest.isEmpty ∧ !dotted then none
      else (defineDotted rest name document inner).map fun inner => items.set part (.table true dotted inner)
    | some (.tables (latest :: before)) =>
      if rest.isEmpty then none
      else (defineDotted rest name document latest).map fun latest => items.set part (.tables (latest :: before))
    | some _ => none

/-- Changes the table at the end of a path; tables that are missing on the way are mentioned from then on. -/
def update : List String → (Items → Option Items) → Items → Option Items
  | [], change, items => change items
  | part :: rest, change, items =>
    match items.get? part with
    | none => (update rest change []).map fun inner => items.set part (.table true false inner)
    | some (.table mentioned dotted inner) =>
      (update rest change inner).map fun inner => items.set part (.table mentioned dotted inner)
    | some (.tables (latest :: before)) =>
      (update rest change latest).map fun latest => items.set part (.tables (latest :: before))
    | some _ => none

/-- Opens a table, which may have been mentioned but not defined before. -/
def openTable (name : String) (items : Items) : Option Items :=
  match items.get? name with
  | none => some (items.set name (.table false false []))
  | some (.table true false inner) => some (items.set name (.table false false inner))
  | some _ => none

/-- Opens one more table of a list of tables. -/
def openElement (name : String) (items : Items) : Option Items :=
  match items.get? name with
  | none => some (items.set name (.tables [[]]))
  | some (.tables elements) => some (items.set name (.tables ([] :: elements)))
  | some _ => none

end Items

end WasmHost.Toml
