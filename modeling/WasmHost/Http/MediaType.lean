import WasmHost.Text.Blank

/-! Media types: what a body consists of, with parameters. -/

namespace WasmHost.Http

/-- Whether a character may stand in a token: a name in a header, or a value without quotes. -/
def isTokenChar (c : Char) : Bool := c.isAlphanum || "!#$%&'*+-.^_\x60|~".toList.contains c

/-- A media type. -/
structure MediaType where
  /-- The kind of contents, in lower case. -/
  kind : String
  /-- The exact contents, in lower case. -/
  subtype : String
  /-- The parameters in order; their names are in lower case. -/
  parameters : List (String × String)
deriving DecidableEq, Repr, Inhabited

namespace MediaType

/-- A token, which may be empty, and what follows it. -/
def token (text : List Char) : String × List Char :=
  (String.ofList (text.takeWhile isTokenChar), text.dropWhile isTokenChar)

/-- Whether a character may stand between quotes. -/
def isQuotable (c : Char) : Bool := ' ' ≤ c && c ≠ '\x7F'

/-- The value of a parameter that stands between quotes, and what follows the second quote. The first
character is part of the value, whatever it is. -/
def quotedValue? : List Char → Option (String × List Char)
  | [] => none
  | first :: rest =>
    let inner := rest.takeWhile fun c => c ≠ '"' && isQuotable c
    match rest.drop inner.length with
    | '"' :: after => if isQuotable first then some (String.ofList (first :: inner), after) else none
    | _ => none

/-- What follows the semicolon after a value; nothing may follow at the end. -/
def nextParameter? : List Char → Option (List Char)
  | [] => some []
  | ';' :: rest => some rest
  | _ => none

/-- A parameter's value, and the parameters after it. Blanks may follow a quoted value only, and only at the
end of everything may a value be empty. -/
def value? : List Char → Option (String × List Char)
  | '"' :: rest => do
    let (value, after) ← quotedValue? rest
    return (value, ← nextParameter? (after.dropWhile (· = ' ')))
  | text => do
    let (value, after) := token text
    if value = "" ∧ after ≠ [] then none
    return (value, ← nextParameter? after)

/-- The parameters of a type, of which there are at most as many as characters. -/
def parameters? : Nat → List Char → Option (List (String × String))
  | 0, _ => some []
  | room + 1, text => do
    let text := text.dropWhile (· = ' ')
    if text.isEmpty then return []
    let (name, after) := token text
    match after with
    | '=' :: rest =>
      if name = "" then none
      let (value, rest) ← value? rest
      return (lowerAscii name, value) :: (← parameters? room rest)
    | _ => none

/-- A name without the suffix that its last plus sign begins. -/
def withoutSuffix (name : String) : String :=
  match name.toList.reverse.dropWhile (· ≠ '+') with
  | [] | [_] => name
  | _ :: before => String.ofList before.reverse

/-- Reads a media type. -/
def parse? (text : String) : Option MediaType := do
  let (kind, after) := token text.toList
  if kind = "" then none
  match after with
  | '/' :: rest =>
    let (subtype, after) := token rest
    if subtype = "" ∧ after ≠ [] then none
    let rest ← nextParameter? after
    return ⟨lowerAscii kind, lowerAscii (withoutSuffix subtype), ← parameters? (rest.length + 1) rest⟩
  | _ => none

/-- The mark between the parts of a form, if a type announces a form with parts. -/
def formBoundary? (type : MediaType) : Option String :=
  if type.kind = "multipart" ∧ type.subtype = "form-data" then type.parameters.lookup "boundary" else none

end MediaType

end WasmHost.Http
