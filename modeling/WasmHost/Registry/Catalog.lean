import WasmHost.Registry.Context

/-! Catalogs: contexts by name, in the order in which the names were first registered. -/

namespace WasmHost

/-- Contexts by name, with the order of the names. -/
structure Catalog where
  /-- The names in the order of their registration. -/
  order : List String
  /-- The context of every name. -/
  table : List (String × Context)

namespace Catalog

/-- No contexts. -/
def empty : Catalog := ⟨[], []⟩

/-- The context of a name. -/
def get? (c : Catalog) (name : String) : Option Context := c.table.lookup name

/-- Whether a name is registered. -/
def contains (c : Catalog) (name : String) : Bool := (c.get? name).isSome

/-- Registers a context under its name. A name that is there already keeps its place. -/
def insert (c : Catalog) (context : Context) : Catalog where
  order := if c.contains context.name then c.order else c.order ++ [context.name]
  table := (context.name, context) :: c.table.filter (·.1 ≠ context.name)

/-- Removes a name. -/
def erase (c : Catalog) (name : String) : Catalog where
  order := c.order.filter (· ≠ name)
  table := c.table.filter (·.1 ≠ name)

/-- The names in order. -/
def names (c : Catalog) : List String := c.order

/-- The contexts in order. -/
def toList (c : Catalog) : List Context := c.order.filterMap c.get?

/-- The number of contexts. -/
def size (c : Catalog) : Nat := c.order.length

end Catalog

end WasmHost
