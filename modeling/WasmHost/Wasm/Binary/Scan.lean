import WasmHost.Wasm.Parse

/-! What sections tell about a module before it is known to be valid: its exports, and how many functions it has. -/

namespace WasmHost.Wasm

/-- What has been gathered from sections. Functions are counted in 32 bits. -/
structure Scan where
  /-- The exports, in order. -/
  exports : List Export
  /-- The number of imported functions. -/
  imported : UInt32
  /-- The number of defined functions, as it is announced. -/
  defined : UInt32
deriving DecidableEq, Inhabited

namespace Scan

/-- Nothing has been seen. -/
def empty : Scan := ⟨[], 0, 0⟩

/-- The number of all functions; the sum has 32 bits as well. -/
def functionCount (s : Scan) : Nat := (s.imported + s.defined).toNat

end Scan

namespace Reader

/-- A count and then as many items, with no limit but the bytes. -/
def items {α : Type} (item : Reader α) : Reader (List α) := do times item (← u32)

/-- Passes over what is left. -/
def skip : Reader Unit := do
  let _ ← take (← remaining)

/-- What a section tells. Of functions only the count is read, and other sections tell nothing. -/
def scanContent (id : Nat) (s : Scan) : Reader Scan := do
  match id with
  | 2 =>
    let imports ← items importEntry
    let functions := imports.filter fun i => i.type matches .func _
    return { s with imported := s.imported + functions.length.toUInt32 }
  | 3 =>
    let count ← u32
    skip
    return { s with defined := count.toUInt32 }
  | 7 => return { s with exports := s.exports ++ (← items exportEntry) }
  | _ =>
    skip
    return s

/-- Sections up to the end of the bytes, in any order. -/
def scanSections : Nat → Scan → Reader Scan
  | 0, _ => reject .unexpectedEnd
  | fuel + 1, s => do
    if (← remaining) = 0 then return s
    let id ← byte
    let size ← u32
    scanSections fuel (← within "section" size (scanContent id s))

end Reader

/-- Scans bytes with a header and sections. -/
def Scan.ofBytes (bytes : ByteArray) : Except ParseError Scan := do
  checkHeader bytes
  let content := bytes.extract headerSize bytes.size
  (Reader.whole "module" content (Reader.scanSections (content.size + 1) .empty)).mapError .malformed

end WasmHost.Wasm
