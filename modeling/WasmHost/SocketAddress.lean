import WasmHost.Number.Integer

/-! Socket addresses: an IP address of either version with a port, read and written. -/

namespace WasmHost

/-- A socket address. -/
inductive SocketAddress where
  /-- Four bytes and a port. -/
  | v4 (bytes : List Nat) (port : Nat)
  /-- Eight groups of 16 bits, a port and a scope. -/
  | v6 (groups : List Nat) (port scope : Nat)
deriving DecidableEq, Repr, Inhabited

namespace SocketAddress

/-- A reading takes something from the start of a text, or fails. -/
abbrev Reading (α : Type) := List Char → Option (α × List Char)

/-- The value of a digit in a base. -/
def digit? (base : Nat) (c : Char) : Option Nat :=
  let value :=
    if '0' ≤ c ∧ c ≤ '9' then some (c.toNat - 48)
    else if 'a' ≤ c ∧ c ≤ 'f' then some (c.toNat - 87)
    else if 'A' ≤ c ∧ c ≤ 'F' then some (c.toNat - 55)
    else none
  value.filter (· < base)

/-- A number below a bound, with up to some digits if there is a limit, and perhaps with leading zeros. -/
def number (base bound : Nat) (limit : Option Nat) (zeros : Bool) : Reading Nat := fun text =>
  let digits := text.takeWhile fun c => (digit? base c).isSome
  let value := (digits.filterMap (digit? base)).foldl (fun n d => base * n + d) 0
  if digits.isEmpty ∨ limit.any (· < digits.length) ∨ bound ≤ value then none
  else if !zeros ∧ digits.head? = some '0' ∧ 1 < digits.length then none
  else some (value, text.drop digits.length)

/-- A given character. -/
def given (c : Char) : Reading Unit
  | first :: rest => if first = c then some ((), rest) else none
  | [] => none

/-- Something after a separator, which is not there before the first one. -/
def separated {α : Type} (separator : Char) (place : Nat) (item : Reading α) : Reading α := fun text =>
  if place = 0 then item text else (given separator text).bind fun (_, rest) => item rest

/-- Four bytes with dots between them. -/
def address4 : Reading (List Nat) := fun text =>
  (List.range 4).foldlM (fun (bytes, rest) place =>
    (separated '.' place (number 10 256 (some 3) false) rest).map fun (byte, rest) => (bytes ++ [byte], rest))
    ([], text)

/-- Up to `room` groups with colons between them. The last two groups may be written as four bytes,
which ends the reading; tells whether they are. -/
def groups (room : Nat) (text : List Char) : List Nat × Bool × List Char :=
  go room 0 [] text
where
  /-- Each step reads one group, or four bytes. -/
  go : Nat → Nat → List Nat → List Char → List Nat × Bool × List Char
    | 0, _, done, text => (done, false, text)
    | left + 1, place, done, text =>
      let embedded := if 0 < left then separated ':' place address4 text else none
      match embedded with
      | some ([a, b, c, d], rest) => (done ++ [256 * a + b, 256 * c + d], true, rest)
      | _ =>
        match separated ':' place (number 16 65536 (some 4) true) text with
        | some (group, rest) => go left (place + 1) (done ++ [group]) rest
        | none => (done, false, text)

/-- Eight groups; two colons stand for at least one group of zeros. -/
def address6 : Reading (List Nat) := fun text =>
  let (head, endsInBytes, rest) := groups 8 text
  if head.length = 8 then some (head, rest)
  else if endsInBytes then none
  else
    match rest with
    | ':' :: ':' :: rest =>
      let (tail, _, rest) := groups (7 - head.length) rest
      some (head ++ List.replicate (8 - head.length - tail.length) 0 ++ tail, rest)
    | _ => none

/-- A port. -/
def port : Reading Nat := fun text =>
  (given ':' text).bind fun (_, rest) => number 10 65536 none true rest

/-- The scope of an address; without one it is zero. -/
def scope (text : List Char) : Nat × List Char :=
  match (given '%' text).bind fun (_, rest) => number 10 (Integer.modulus 32) none true rest with
  | some found => found
  | none => (0, text)

/-- The address that a whole text stands for. -/
def parse? (text : String) : Option SocketAddress :=
  let characters := text.toList
  let four := do
    let (bytes, rest) ← address4 characters
    let (port, rest) ← port rest
    if rest.isEmpty then some (SocketAddress.v4 bytes port) else none
  let six := do
    let (_, rest) ← given '[' characters
    let (groups, rest) ← address6 rest
    let (scope, rest) := scope rest
    let (_, rest) ← given ']' rest
    let (port, rest) ← port rest
    if rest.isEmpty then some (SocketAddress.v6 groups port scope) else none
  four.or six

/-- Four bytes with dots between them. -/
def bytesText (bytes : List Nat) : String := String.intercalate "." (bytes.map toString)

/-- Groups with colons between them. -/
def groupsText (groups : List Nat) : String :=
  String.intercalate ":" (groups.map fun group => String.ofList (Nat.toDigits 16 group))

/-- The number of zeros that a list starts with. -/
def zeroRun (groups : List Nat) : Nat := (groups.takeWhile (· = 0)).length

/-- Where the first of the longest runs of zeros starts, and its length. -/
def longestZeros (groups : List Nat) : Nat × Nat :=
  (List.range groups.length).foldl (fun (best : Nat × Nat) place =>
    let run := zeroRun (groups.drop place)
    if best.2 < run then (place, run) else best) (0, 0)

/-- The shortest usual form of eight groups. -/
def address6Text (groups : List Nat) : String :=
  match groups with
  | [0, 0, 0, 0, 0, 0xFFFF, high, low] =>
    "::ffff:" ++ bytesText [high / 256, high % 256, low / 256, low % 256]
  | _ =>
    let (start, count) := longestZeros groups
    if 1 < count then groupsText (groups.take start) ++ "::" ++ groupsText (groups.drop (start + count))
    else groupsText groups

/-- An address as text. -/
def text : SocketAddress → String
  | .v4 bytes port => bytesText bytes ++ ":" ++ toString port
  | .v6 groups port scope =>
    let zone := if scope = 0 then "" else "%" ++ toString scope
    "[" ++ address6Text groups ++ zone ++ "]:" ++ toString port

/-- The port of an address. -/
def portOf : SocketAddress → Nat
  | .v4 _ port => port
  | .v6 _ port _ => port

/-- Whether an address has the newer version. -/
def isV6 : SocketAddress → Bool
  | .v4 .. => false
  | .v6 .. => true

end SocketAddress

end WasmHost
