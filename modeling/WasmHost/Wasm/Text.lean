import WasmHost.Wasm.Parse

/-! Modules written as text, as far as they declare functions without code. -/

namespace WasmHost.Wasm.Text

/-- A token. -/
inductive Token where
  /-- An opening parenthesis. -/
  | open_
  /-- A closing parenthesis. -/
  | close
  /-- A text between quotes. -/
  | quoted (text : String)
  /-- Any other word. -/
  | word (text : String)
deriving DecidableEq, Repr, Inhabited

/-- Whether a character ends a word. -/
def endsWord (c : Char) : Bool := c.isWhitespace || c = '(' || c = ')' || c = '"' || c = ';'

/-- The tokens of a text; line comments are skipped. Every step uses up a character. -/
def tokens : Nat → List Char → Option (List Token)
  | 0, [] => some []
  | 0, _ => none
  | _ + 1, [] => some []
  | fuel + 1, c :: rest =>
    if c.isWhitespace then tokens fuel rest
    else if c = '(' then (tokens fuel rest).map (.open_ :: ·)
    else if c = ')' then (tokens fuel rest).map (.close :: ·)
    else if c = ';' then
      if rest.head? = some ';' then tokens fuel (rest.dropWhile (· ≠ '\n')) else none
    else if c = '"' then
      let inner := rest.takeWhile (· ≠ '"')
      if inner.length = rest.length ∨ inner.contains '\\' then none
      else (tokens fuel (rest.drop (inner.length + 1))).map (.quoted (String.ofList inner) :: ·)
    else
      let more := rest.takeWhile (!endsWord ·)
      (tokens fuel (rest.drop more.length)).map (.word (String.ofList (c :: more)) :: ·)

/-- The number type of a word. -/
def valType? (word : String) : Option ValType :=
  [("i32", ValType.i32), ("i64", .i64), ("f32", .f32), ("f64", .f64)].lookup word

/-- Skips a name that only the text knows. -/
def skipName : List Token → List Token
  | .word name :: rest => if name.toList.head? = some '$' then rest else .word name :: rest
  | tokens => tokens

/-- The names under which a function is exported, and the rest. -/
def exportNames : Nat → List Token → List String × List Token
  | fuel + 1, .open_ :: .word "export" :: .quoted name :: .close :: rest =>
    let (names, rest) := exportNames fuel rest
    (name :: names, rest)
  | _, tokens => ([], tokens)

/-- The types of a function's parameters, and the rest. -/
def parameters : Nat → List Token → Option (List ValType × List Token)
  | fuel + 1, .open_ :: .word "param" :: rest => do
    let words := rest.takeWhile fun t => match t with
      | .word _ => true
      | _ => false
    let types ← words.mapM fun t => match t with
      | .word text => valType? text
      | _ => none
    match rest.drop words.length with
    | .close :: rest => do
      let (more, rest) ← parameters fuel rest
      return (types ++ more, rest)
    | _ => none
  | _, tokens => some ([], tokens)

/-- Functions without code up to the end of the module: their export names and parameters. -/
def functions : Nat → List Token → Option (List (List String × List ValType))
  | _, [.close] => some []
  | fuel + 1, .open_ :: .word "func" :: rest => do
    let (names, rest) := exportNames fuel (skipName rest)
    let (types, rest) ← parameters fuel rest
    match rest with
    | .close :: rest => do
      let more ← functions fuel rest
      return (names, types) :: more
    | _ => none
  | _, _ => none

/-- The module with some functions without code. -/
def moduleOf (declared : List (List String × List ValType)) : Module :=
  { Module.empty with
    types := declared.map fun (_, types) => ⟨false, [⟨true, none, .func ⟨types, []⟩⟩]⟩
    functions := List.range declared.length
    exports := declared.zipIdx.flatMap fun ((names, _), index) => names.map fun name => ⟨name, .func, index⟩
    code := declared.map fun _ => ⟨[], []⟩ }

/-- The module that a text stands for. -/
def parse? (text : String) : Option Module := do
  let characters := text.toList
  let found ← tokens characters.length characters
  match found with
  | .open_ :: .word "module" :: rest => (functions rest.length (skipName rest)).map moduleOf
  | _ => none

end WasmHost.Wasm.Text
