import WasmHost.Http.MediaType
import WasmHost.Text.Utf8

/-! What the headers of a part of a form say: the name of the field, and the name of a file. -/

namespace WasmHost.Http

/-- The names in the headers of a part. -/
structure PartHead where
  /-- The name of the field. -/
  name : Option String
  /-- The name of the file that the contents come from. -/
  fileName : Option String
deriving DecidableEq, Repr, Inhabited

namespace PartHead

/-- The lines of some bytes, without their ends. -/
def lines (bytes : List UInt8) : List (List UInt8) :=
  (bytes.foldr addByte [[]]).map withoutReturn
where
  /-- Puts a byte in front of the first line. -/
  addByte (byte : UInt8) : List (List UInt8) → List (List UInt8)
    | line :: rest => if byte = 0x0A then [] :: line :: rest else (byte :: line) :: rest
    | [] => if byte = 0x0A then [[], []] else [[byte]]
  /-- A line without the carriage return at its end. -/
  withoutReturn (line : List UInt8) : List UInt8 :=
    if line.getLast? = some 0x0D then line.dropLast else line

/-- Whether a byte is a blank within a line. -/
def isInlineBlank (byte : UInt8) : Bool := byte = 0x20 || byte = 0x09

/-- Whether a byte may stand in the value of a header. -/
def isValueByte (byte : UInt8) : Bool := byte = 0x09 || (0x20 ≤ byte && byte ≠ 0x7F)

/-- A value without the blanks around it. -/
def trimValue (value : List UInt8) : List UInt8 :=
  ((value.dropWhile isInlineBlank).reverse.dropWhile isInlineBlank).reverse

/-- Whether a byte may stand in the name of a header. -/
def isNameByte (byte : UInt8) : Bool := byte < 0x80 && isTokenChar (Char.ofNat byte.toNat)

/-- A header: its name in lower case, and its value. -/
def header? (line : List UInt8) : Option (String × List UInt8) :=
  let name := line.takeWhile isNameByte
  match line.dropWhile isNameByte with
  | 0x3A :: value =>
    if name ≠ [] ∧ value.all isValueByte then
      some (lowerAscii (String.ofList (name.map fun byte => Char.ofNat byte.toNat)), trimValue value)
    else none
  | _ => none

/-- The largest number of headers. -/
def maxHeaders : Nat := 32

/-- The headers before the first empty line. -/
def headers? (bytes : List UInt8) : Option (List (String × List UInt8)) := do
  let headers ← ((lines bytes).takeWhile (· ≠ [])).mapM header?
  if headers.length ≤ maxHeaders then headers else none

/-- Whether a byte is a blank of any kind. -/
def isAsciiBlank (byte : UInt8) : Bool :=
  byte = 0x20 || byte = 0x09 || byte = 0x0A || byte = 0x0C || byte = 0x0D

/-- What follows a byte, before which blanks may stand. -/
def after? (wanted : UInt8) (bytes : List UInt8) : Option (List UInt8) :=
  match bytes.dropWhile isAsciiBlank with
  | byte :: rest => if byte = wanted then some rest else none
  | [] => none

/-- The value of an attribute up to its closing quote. Behind a backslash a quote closes nothing, and loses the
backslash; every other backslash stays. -/
def quoted? (previous : Option UInt8) : List UInt8 → Option (List UInt8)
  | [] => none
  | byte :: rest =>
    if byte ≠ 0x22 then (quoted? (some byte) rest).map (byte :: ·)
    else if previous = some 0x5C then (quoted? (some byte) rest).map (byte :: ·)
    else some []

/-- Text in which every quote behind a backslash has lost the backslash. -/
def unescape : List UInt8 → List UInt8
  | 0x5C :: 0x22 :: rest => 0x22 :: unescape rest
  | byte :: rest => byte :: unescape rest
  | [] => []

/-- The value of an attribute, from its equals sign on. -/
def value? (bytes : List UInt8) : Option (List UInt8) := do
  let rest ← after? 0x3D bytes
  match after? 0x22 rest with
  | some inner => unescape <$> quoted? none inner
  | none => some ((rest.dropWhile isAsciiBlank).takeWhile fun byte => byte ≠ 0x3B ∧ byte ≠ 0x20)

/-- The value of an attribute of a name. The name counts where a blank or a semicolon stands before it, at the
start, and directly behind a place where it did not count. -/
def attribute? (name : List UInt8) (previous : Option UInt8) : List UInt8 → Option (List UInt8)
  | [] => none
  | byte :: rest =>
    if name.isPrefixOf (byte :: rest) then
      let suffix := rest.drop (name.length - 1)
      if previous.all fun b => isAsciiBlank b || b = 0x3B then value? suffix
      else attribute? name none suffix
    else attribute? name (some byte) rest
termination_by bytes => bytes.length

/-- The text of an attribute of a name. -/
def text? (name : String) (disposition : List UInt8) : Option String := do
  let value ← attribute? name.toUTF8.toList none disposition
  Utf8.text? ⟨value.toArray⟩

/-- What the headers of a part say, if they are headers at all. Of several dispositions the last one counts. -/
def parse? (bytes : List UInt8) : Option PartHead := do
  let headers ← headers? bytes
  let disposition := (headers.reverse.lookup "content-disposition").getD []
  return ⟨text? "name" disposition, text? "filename" disposition⟩

end PartHead

end WasmHost.Http
