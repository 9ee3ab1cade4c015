import WasmHost.Text.Hex

/-! The small pieces of TOML: blanks, comments, ends of lines, quoted texts and keys. -/

namespace WasmHost.Toml

/-- A scan takes something from the start of a text, or fails. -/
abbrev Scan (α : Type) := List Char → Option (α × List Char)

/-- Whether a character is a blank within a line. -/
def isBlank (c : Char) : Bool := c = ' ' || c = '\t'

/-- Skips blanks within a line. -/
def skipBlanks (text : List Char) : List Char := text.dropWhile isBlank

/-- Whether a character may stand in comments and texts; the only control is the tab. -/
def isPlain (c : Char) : Bool := c = '\t' || (0x20 ≤ c.toNat && c.toNat ≠ 0x7F)

/-- Removes the end of a line. -/
def newline? : List Char → Option (List Char)
  | '\n' :: rest => some rest
  | '\r' :: '\n' :: rest => some rest
  | _ => none

/-- Removes a comment, if there is one. -/
def skipComment : List Char → List Char
  | '#' :: rest => rest.dropWhile isPlain
  | text => text

/-- Removes everything up to the end of a line, where only blanks and a comment may stand. -/
def endOfLine (text : List Char) : Option (List Char) :=
  match skipComment (skipBlanks text) with
  | [] => some []
  | rest => newline? rest

/-- Removes blanks, comments and ends of lines. Every step uses up a character. -/
def skipLines (text : List Char) : List Char :=
  go text.length text
where
  /-- A comment must end with its line, but that is for others to see. -/
  go : Nat → List Char → List Char
    | 0, text => text
    | fuel + 1, text =>
      let text := skipBlanks text
      match newline? (skipComment text) with
      | some rest => go fuel rest
      | none => text

/-- Removes a given character. -/
def mark (c : Char) : List Char → Option (List Char)
  | first :: rest => if first = c then some rest else none
  | [] => none

/-! ### Texts -/

/-- A character by its number in hexadecimal digits. -/
def numbered (count : Nat) (text : List Char) : Option (Char × List Char) := do
  let digits := text.take count
  if digits.length ≠ count then none
  let n ← digits.foldlM (fun n c => (Hex.value? c).map (16 * n + ·)) 0
  if n.isValidChar then some (Char.ofNat n, text.drop count) else none

/-- The character after a backslash. -/
def escaped : Scan Char
  | 'b' :: rest => some ('\x08', rest)
  | 't' :: rest => some ('\t', rest)
  | 'n' :: rest => some ('\n', rest)
  | 'f' :: rest => some ('\x0C', rest)
  | 'r' :: rest => some ('\r', rest)
  | '"' :: rest => some ('"', rest)
  | '\\' :: rest => some ('\\', rest)
  | 'u' :: rest => numbered 4 rest
  | 'U' :: rest => numbered 8 rest
  | _ => none

/-- A text in one line, after its opening quote; the characters gather in reverse. -/
def basic : Nat → List Char → List Char → Option (List Char × List Char)
  | fuel + 1, '\\' :: rest, done =>
    match escaped rest with
    | some (c, rest) => basic fuel rest (c :: done)
    | none => none
  | fuel + 1, c :: rest, done =>
    if c = '"' then some (done, rest)
    else if isPlain c then basic fuel rest (c :: done)
    else none
  | _, _, _ => none

/-- The number of quotes at the start that belong to a text of several lines, if the others close it. -/
def closing (quote : Char) (text : List Char) : Option Nat :=
  let run := (text.takeWhile (· = quote)).length
  if run < 3 then none else some (min (run - 3) 2)

/-- Skips the blanks and ends of lines after a backslash at the end of a line. -/
def skipFold (text : List Char) : Option (List Char) :=
  (newline? (skipBlanks text)).map fun rest =>
    rest.dropWhile fun c => isBlank c || c = '\n' || c = '\r'

/-- A text of several lines, after its opening quotes; the characters gather in reverse. -/
def basicLines : Nat → List Char → List Char → Option (List Char × List Char)
  | 0, _, _ => none
  | fuel + 1, text, done =>
    match text with
    | [] => none
    | '\\' :: rest =>
      match skipFold rest with
      | some rest => basicLines fuel rest done
      | none =>
        match escaped rest with
        | some (c, rest) => basicLines fuel rest (c :: done)
        | none => none
    | c :: rest =>
      if c = '"' then
        match closing '"' text with
        | some count => some (List.replicate count '"' ++ done, text.drop (count + 3))
        | none => basicLines fuel rest (c :: done)
      else
        match newline? text with
        | some rest => basicLines fuel rest ('\n' :: done)
        | none => if isPlain c then basicLines fuel rest (c :: done) else none

/-- A text of several lines without escapes, after its opening quotes. -/
def literalLines : Nat → List Char → List Char → Option (List Char × List Char)
  | 0, _, _ => none
  | fuel + 1, text, done =>
    match text with
    | [] => none
    | c :: rest =>
      if c = '\'' then
        match closing '\'' text with
        | some count => some (List.replicate count '\'' ++ done, text.drop (count + 3))
        | none => literalLines fuel rest (c :: done)
      else
        match newline? text with
        | some rest => literalLines fuel rest ('\n' :: done)
        | none => if isPlain c then literalLines fuel rest (c :: done) else none

/-- A text without escapes, after its opening quote. -/
def literal (text : List Char) : Option (List Char × List Char) :=
  let inner := text.takeWhile fun c => c ≠ '\'' && isPlain c
  (mark '\'' (text.drop inner.length)).map fun rest => (inner, rest)

/-- The first end of a line does not belong to a text of several lines. -/
def skipFirst (text : List Char) : List Char := (newline? text).getD text

/-- A text in quotes of one line. -/
def quotedLine : Scan String
  | '"' :: rest => (basic (rest.length + 1) rest []).map fun (done, rest) => (String.ofList done.reverse, rest)
  | '\'' :: rest => (literal rest).map fun (inner, rest) => (String.ofList inner, rest)
  | _ => none

/-- A text in quotes of any kind. -/
def quotedText : Scan String
  | '"' :: '"' :: '"' :: rest =>
    let text := skipFirst rest
    (basicLines (text.length + 1) text []).map fun (done, rest) => (String.ofList done.reverse, rest)
  | '\'' :: '\'' :: '\'' :: rest =>
    let text := skipFirst rest
    (literalLines (text.length + 1) text []).map fun (done, rest) => (String.ofList done.reverse, rest)
  | text => quotedLine text

/-! ### Keys -/

/-- Whether a character may stand in a key without quotes. -/
def isBare (c : Char) : Bool := c.isAlphanum || c = '_' || c = '-'

/-- One part of a key. -/
def keyPart (text : List Char) : Option (String × List Char) :=
  match text with
  | '"' :: _ | '\'' :: _ => quotedLine text
  | _ =>
    let word := text.takeWhile isBare
    if word.isEmpty then none else some (String.ofList word, text.drop word.length)

/-- The parts of a key, with dots and perhaps blanks between them. -/
def keyParts : Nat → List Char → Option (List String × List Char)
  | 0, _ => none
  | fuel + 1, text => do
    let (part, rest) ← keyPart (skipBlanks text)
    let rest := skipBlanks rest
    match rest with
    | '.' :: rest => do
      let (parts, rest) ← keyParts fuel rest
      return (part :: parts, rest)
    | _ => return ([part], rest)

/-- The depth to which values and keys may be nested. -/
def depthLimit : Nat := 80

/-- A key, with blanks around it. It must not have too many parts. -/
def key (text : List Char) : Option (List String × List Char) :=
  (keyParts (text.length + 1) text).filter fun (parts, _) => parts.length < depthLimit

end WasmHost.Toml
