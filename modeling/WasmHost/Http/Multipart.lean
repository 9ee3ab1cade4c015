import WasmHost.Http.PartHead
import WasmHost.Text.Search

/-! Forms in parts: bodies in which a mark stands before every part and behind the last one. -/

namespace WasmHost.Http

/-- A part of a form. -/
structure Part where
  /-- What its headers say. -/
  head : PartHead
  /-- Its contents. -/
  content : ByteArray
deriving Inhabited

/-- How a form ends. -/
inductive Ending where
  /-- With the mark behind the last part. -/
  | closed
  /-- With something that is no part. -/
  | broken
  /-- In the contents of a part, behind its headers. -/
  | cut (head : PartHead)
deriving DecidableEq, Repr, Inhabited

namespace Multipart

/-- The end of a line. -/
def lineEnd : ByteArray := "\r\n".toUTF8

/-- The end of the headers. -/
def headersEnd : ByteArray := "\r\n\r\n".toUTF8

/-- The mark before a part. -/
def mark (boundary : String) : ByteArray := ("--" ++ boundary).toUTF8

/-- The first place from a place on that holds no blank. -/
def skipBlanks (body : ByteArray) (place : Nat) : Nat :=
  if h : place < body.size then
    if PartHead.isInlineBlank body[place] then skipBlanks body (place + 1) else place
  else place
termination_by body.size - place

/-- Blanks are skipped forwards. -/
theorem le_skipBlanks (body : ByteArray) (place : Nat) : place ≤ skipBlanks body place := by
  fun_induction skipBlanks body place <;> omega

/-- What stands behind a mark. -/
inductive Opening where
  /-- The form ends. -/
  | closing
  /-- Nothing that may stand there. -/
  | fault
  /-- A part, whose contents start at a place. -/
  | part (head : PartHead) (start : Nat)

/-- What stands behind a mark that ends at a place. -/
def opening (body : ByteArray) (place : Nat) : Opening :=
  if Search.standsAt body "--".toUTF8 place then .closing
  else
    let line := skipBlanks body place
    if !Search.standsAt body lineEnd line then .fault
    else
      match Search.find? body headersEnd (line + 2) with
      | none => .fault
      | some last =>
        match PartHead.parse? (body.extract (line + 2) (last + 4)).toList with
        | some head => .part head (last + 4)
        | none => .fault

/-- The contents of a part start behind the mark. -/
theorem le_of_opening {body : ByteArray} {place start : Nat} {head : PartHead}
    (opened : opening body place = .part head start) : place ≤ start := by
  have blanks := le_skipBlanks body place
  unfold opening at opened
  dsimp only at opened
  split at opened
  · cases opened
  split at opened
  · cases opened
  split at opened
  · cases opened
  next last found =>
    have := Search.bounds_of_find? found
    split at opened
    · cases opened; omega
    · cases opened

/-- The parts from a place on where a mark stands, and how the form ends. -/
def partsFrom (body mark : ByteArray) (place : Nat) : List Part × Ending :=
  if !Search.standsAt body mark place then ([], .broken)
  else
    match _ : opening body (place + mark.size) with
    | .closing => ([], .closed)
    | .fault => ([], .broken)
    | .part head start =>
      match _ : Search.find? body (lineEnd ++ mark) start with
      | none => ([], .cut head)
      | some stop =>
        let (parts, ending) := partsFrom body mark (stop + 2)
        (⟨head, body.extract start stop⟩ :: parts, ending)
termination_by body.size + 2 - place
decreasing_by
  have := le_of_opening ‹_›
  have := Search.bounds_of_find? ‹_›
  omega

/-- The parts of a form, and how it ends. What stands before the first mark does not matter. -/
def parts (boundary : String) (body : ByteArray) : List Part × Ending :=
  match Search.find? body (mark boundary) 0 with
  | some place => partsFrom body (mark boundary) place
  | none => ([], .broken)

end Multipart

end WasmHost.Http
