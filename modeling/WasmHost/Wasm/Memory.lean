import WasmHost.Wasm.Types

/-! Linear memory and tables: what a running guest reads and writes. -/

namespace WasmHost.Wasm

/-- The number of bytes in a page. -/
def pageSize : Nat := 65536

/-- A linear memory, kept page by page. -/
structure Memory where
  /-- The pages; a page without bytes was never written and reads as zeros. -/
  pages : Array ByteArray
  /-- The number of pages that the memory may grow to. -/
  limit : Nat
deriving Inhabited

namespace Memory

/-- A memory of zeros. -/
def zeroed (pages limit : Nat) : Memory := ⟨Array.replicate pages .empty, limit⟩

/-- The number of bytes. -/
def size (m : Memory) : Nat := m.pages.size * pageSize

/-- Whether a run of bytes lies inside. -/
@[inline] def holds (m : Memory) (address count : Nat) : Bool := address + count ≤ m.size

/-- A byte; outside there are zeros. -/
def get (m : Memory) (address : Nat) : UInt8 :=
  match m.pages[address / pageSize]? with
  | some page =>
    let place := address % pageSize
    if inside : place < page.size then page[place] else 0
  | none => 0

/-- A page of zeros. -/
def zeroPage : ByteArray := ⟨Array.replicate pageSize 0⟩

/-- Writes a byte into a page, which holds all its bytes from then on. -/
def setInPage (page : ByteArray) (place : Nat) (byte : UInt8) : ByteArray :=
  let page := if page.size = 0 then zeroPage else page
  if inside : place < page.size then page.set place byte else page

/-- Writes a byte; outside nothing happens. -/
def set (m : Memory) (address : Nat) (byte : UInt8) : Memory :=
  { m with pages := m.pages.modify (address / pageSize) fun page => setInPage page (address % pageSize) byte }

/-- A run of bytes as a number, lowest byte first. -/
def load (m : Memory) (address : Nat) : Nat → Nat
  | 0 => 0
  | count + 1 => (m.get address).toNat + 256 * m.load (address + 1) count

/-- Writes a number as a run of bytes, lowest byte first. -/
def store (m : Memory) (address : Nat) : Nat → Nat → Memory
  | 0, _ => m
  | count + 1, value => (m.set address value.toUInt8).store (address + 1) count (value / 256)

/-- The bytes of a run. -/
def bytes (m : Memory) (address count : Nat) : ByteArray :=
  count.fold (fun place _ bytes => bytes.push (m.get (address + place))) .empty

/-- Writes a run of bytes. -/
def write (m : Memory) (address : Nat) (bytes : ByteArray) : Memory :=
  bytes.size.fold (fun place inside m => m.set (address + place) bytes[place]) m

/-- Writes one byte to a whole run. -/
def fill (m : Memory) (address count : Nat) (byte : UInt8) : Memory :=
  count.fold (fun place _ m => m.set (address + place) byte) m

/-- Whether the limit allows more pages. -/
def canGrow (m : Memory) (pages : Nat) : Bool := m.pages.size + pages ≤ m.limit

/-- Adds pages of zeros. -/
def grow (m : Memory) (pages : Nat) : Memory := { m with pages := m.pages ++ Array.replicate pages .empty }

end Memory

/-- A table of references. A reference is a number: zero for null, else one more than what it names. -/
structure Table where
  /-- The elements. -/
  elements : Array Nat
  /-- The number of elements that the table may grow to. -/
  limit : Nat
deriving Inhabited

namespace Table

/-- Whether a run of elements lies inside. -/
def holds (t : Table) (start count : Nat) : Bool := start + count ≤ t.elements.size

/-- Writes a run of elements. -/
def write (t : Table) (start : Nat) (items : Array Nat) : Table :=
  { t with elements := items.size.fold (fun place inside all => all.setIfInBounds (start + place) items[place]) t.elements }

/-- Writes one element to a whole run. -/
def fill (t : Table) (start count item : Nat) : Table :=
  { t with elements := count.fold (fun place _ all => all.setIfInBounds (start + place) item) t.elements }

/-- Whether the limit allows more elements. -/
def canGrow (t : Table) (count : Nat) : Bool := t.elements.size + count ≤ t.limit

/-- Adds elements. -/
def grow (t : Table) (count item : Nat) : Table :=
  { t with elements := t.elements ++ Array.replicate count item }

end Table

end WasmHost.Wasm
