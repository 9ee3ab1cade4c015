import WasmHost.Json.Reader
import WasmHost.Proofs.Json.Decimal
import WasmHost.Proofs.Json.Quote

/-! What is written for a document is read as a document again: token by token, and then container by container. -/

namespace WasmHost.Json

/-! ### Tokens -/

/-- Bytes that are read as some tokens, of which each takes a step. -/
structure Lexed (bytes : List UInt8) (found : List Token) : Prop where
  few : found.length ≤ bytes.length
  go (fuel : Nat) {rest : List UInt8} (delimited : Delimits rest) (done : List Token) :
    tokens.go (found.length + fuel) (bytes ++ rest) done = tokens.go fuel rest (found.reverse ++ done)

namespace Lexed

/-- A token is found in front, whatever follows. -/
theorem of_token {b : UInt8} {bytes : List UInt8} {found : Token} (seen : isBlank b = false)
    (read : ∀ rest, Delimits rest → token b (bytes ++ rest) = .ok (found, rest)) : Lexed (b :: bytes) [found] where
  few := by simp
  go fuel rest delimited done := by
    rw [List.length_singleton, Nat.add_comm, List.cons_append]
    simp [tokens.go, seen, read rest delimited]

theorem append {first second : List UInt8} {found found' : List Token} (before : Lexed first found)
    (after : Lexed second found') (delimited : ∀ rest, Delimits (second ++ rest)) :
    Lexed (first ++ second) (found ++ found') where
  few := by
    have := before.few
    have := after.few
    simp only [List.length_append]
    omega
  -- The first text is delimited by what the second one starts with.
  go fuel rest ends done := by
    rw [List.length_append, Nat.add_assoc, List.append_assoc, before.go _ (delimited rest), after.go _ ends]
    simp

end Lexed

/-- A byte that is a token of its own, and ends what stands before it. -/
structure Mark (b : UInt8) (found : Token) : Prop where
  seen : isBlank b = false
  token (rest : List UInt8) : token b rest = .ok (found, rest)
  ends : isDigit b = false ∧ b ≠ code '.' ∧ b ≠ code 'e' ∧ b ≠ code 'E'

namespace Mark

theorem comma : Mark (code ',') .comma := ⟨by decide, fun _ => rfl, by decide⟩

theorem colon : Mark (code ':') .colon := ⟨by decide, fun _ => rfl, by decide⟩

theorem openList : Mark (code '[') .openList := ⟨by decide, fun _ => rfl, by decide⟩

theorem closeList : Mark (code ']') .closeList := ⟨by decide, fun _ => rfl, by decide⟩

theorem openRecord : Mark (code '\x7b') .openRecord := ⟨by decide, fun _ => rfl, by decide⟩

theorem closeRecord : Mark (code '\x7d') .closeRecord := ⟨by decide, fun _ => rfl, by decide⟩

variable {b : UInt8} {mark : Token}

theorem lexed (m : Mark b mark) : Lexed [b] [mark] := .of_token m.seen fun rest _ => m.token rest

/-- A mark in front of what is read. -/
theorem before (m : Mark b mark) {bytes : List UInt8} {found : List Token} (later : Lexed bytes found) :
    Lexed (b :: bytes) (mark :: found) where
  few := Nat.succ_le_succ later.few
  go fuel rest delimited done := by
    rw [List.length_cons, Nat.add_right_comm, List.cons_append]
    simp [tokens.go, m.seen, m.token, later.go fuel delimited]

/-- A mark between two parts that are read. -/
theorem between (m : Mark b mark) {first second : List UInt8} {found found' : List Token} (earlier : Lexed first found)
    (later : Lexed second found') : Lexed (first ++ b :: second) (found ++ mark :: found') :=
  earlier.append (m.before later) fun _ => delimits_cons _ m.ends

/-- A mark behind what is read. -/
theorem after (m : Mark b mark) {bytes : List UInt8} {found : List Token} (earlier : Lexed bytes found) :
    Lexed (bytes ++ [b]) (found ++ [mark]) :=
  earlier.append m.lexed fun _ => delimits_cons _ m.ends

end Mark

namespace Lexed

theorem word_encode (name : String) (document : Document) (rest : List UInt8) :
    word name document (Utf8.encode name.toList ++ rest) = .ok (.value document, rest) := by
  rw [word, Utf8.toList_toUTF8]
  simp

theorem null : Lexed (Utf8.encode "null".toList) [.value .null] :=
  of_token (by decide) fun rest _ => word_encode "null" .null rest

theorem true_ : Lexed (Utf8.encode "true".toList) [.value (.bool true)] :=
  of_token (by decide) fun rest _ => word_encode "true" (.bool true) rest

theorem false_ : Lexed (Utf8.encode "false".toList) [.value (.bool false)] :=
  of_token (by decide) fun rest _ => word_encode "false" (.bool false) rest

/-- A quoted text. -/
theorem quote (value : String) : Lexed (Utf8.encode (quote value).toList) [.text (some value)] := by
  rw [encode_quote]
  refine of_token (by decide) fun rest _ => ?_
  have start (more : List UInt8) : token (code '"') more = (text more).map fun x => (.text x.1, x.2) := rfl
  rw [start, List.append_assoc, List.singleton_append, text_quote]
  rfl

/-- A digit starts a number. -/
theorem token_of_isDigit {b : UInt8} (digit : isDigit b) (rest : List UInt8) :
    token b rest = (numeral false (b :: rest)).map fun x => (.value x.1.value, x.2) := by
  -- All marks, and the letters that start a word, are no digits.
  have other {mark : UInt8} (different : isDigit mark = false) : b ≠ mark := by
    rintro rfl
    simp [different] at digit
  rw [token, if_neg (other (by decide)), if_neg (other (by decide)), if_neg (other (by decide)),
    if_neg (other (by decide)), if_neg (other (by decide)), if_neg (other (by decide)), if_neg (other (by decide)),
    if_neg (other (by decide)), if_neg (other (by decide)), if_neg (other (by decide)), if_neg (other (by decide)),
    if_pos digit]

/-- A number with its sign. -/
theorem number {w : Written} (proper : w.Proper) :
    Lexed (codes ((if w.negative then ['-'] else []) ++ w.text)) [.value w.numeral.value] := by
  cases sign : w.negative with
  | true =>
    -- The sign alone starts a number, and the digits after it are read as without one.
    refine of_token (by decide) fun rest delimited => ?_
    have start (more : List UInt8) :
      token (code '-') more = (numeral true more).map fun x => (.value x.1.value, x.2) := rfl
    have read := Written.numeral_text proper delimited
    rw [sign] at read
    exact (start _).trans (congrArg (Except.map _) read)
  | false =>
    -- The first digit starts the number, and a digit is no blank.
    obtain ⟨c, more, shape⟩ := List.exists_cons_of_ne_nil proper.filled
    have digit := isDigit_code (proper.whole c (by simp [shape]))
    have text : w.text = c :: (more ++ w.fractionText ++ w.exponentText) := by simp [Written.text, shape]
    have seen : isBlank (code c) = false := by
      cases blank : isBlank (code c) with
      | false => rfl
      | true =>
        have blanks : code c = 0x20 ∨ code c = 0x09 ∨ code c = 0x0A ∨ code c = 0x0D := by
          simpa [isBlank, or_assoc] using blank
        rcases blanks with same | same | same | same <;> rw [same] at digit <;> exact absurd digit (by decide)
    rw [text]
    refine of_token seen fun rest delimited => ?_
    have read := Written.numeral_text proper delimited
    rw [sign, text] at read
    rw [token_of_isDigit digit]
    exact congrArg (Except.map _) read

theorem ascii_text {w : Written} (proper : w.Proper) {c : Char} (member : c ∈ w.text) : c.toNat < 128 := by
  have small {c : Char} (digit : c.isDigit) : c.toNat < 128 := by
    have := (toNat_code_of_isDigit digit).2.1
    omega
  -- A character of the text is a digit, or the point, the mark of the exponent or its sign.
  rcases List.mem_append.1 member with front | exponent
  · rcases List.mem_append.1 front with whole | fraction
    · exact small (proper.whole c whole)
    · unfold Written.fractionText at fraction
      split_ifs at fraction
      · cases fraction
      · rcases List.mem_cons.1 fraction with rfl | digit
        · decide
        · exact small (proper.fraction c digit)
  · unfold Written.exponentText at exponent
    cases shape : w.exponent with
    | none => simp [shape] at exponent
    | some known =>
      obtain ⟨down, digits⟩ := known
      simp only [shape] at exponent
      rcases List.mem_cons.1 exponent with rfl | rest
      · decide
      · rcases List.mem_append.1 rest with sign | digit
        · split_ifs at sign
          · rw [List.mem_singleton.1 sign]
            decide
          · cases sign
        · exact small ((proper.exponent down digits shape).2 c digit)

/-- A text that writes a number. -/
theorem of_number {w : Written} (proper : w.Proper) {text : String}
    (written : text.toList = (if w.negative then ['-'] else []) ++ w.text) :
    Lexed (Utf8.encode text.toList) [.value w.numeral.value] := by
  -- A number is written in characters that are their own bytes.
  have ascii : ∀ c ∈ (if w.negative then ['-'] else []) ++ w.text, c.toNat < 128 := by
    intro c member
    rcases List.mem_append.1 member with sign | text
    · split_ifs at sign
      · rw [List.mem_singleton.1 sign]
        decide
      · cases sign
    · exact ascii_text proper text
  rw [written, encode_of_ascii ascii]
  exact number proper

/-- Texts with commas between them. -/
theorem intercalate {texts : List String} {found : List (List Token)}
    (each : List.Forall₂ (fun text tokens => Lexed (Utf8.encode text.toList) tokens) texts found) :
    Lexed (Utf8.encode (String.intercalate "," texts).toList) ([Token.comma].intercalate found) := by
  -- The induction is on the texts, and each but the last has a comma after it.
  induction each with
  | nil => exact ⟨Nat.le_refl _, fun fuel rest _ done => by simp⟩
  | cons first rest ih =>
    cases rest with
    | nil => simpa using first
    | cons second rest =>
      rw [String.intercalate_cons_cons, List.intercalate_cons_of_ne_nil (List.cons_ne_nil _ _), String.toList_append,
        String.toList_append, Utf8.encode_append, Utf8.encode_append]
      have mark : Utf8.encode ",".toList = [code ','] := by decide
      rw [mark, List.append_assoc, List.append_assoc]
      exact Mark.comma.between first ih

end Lexed

/-! ### Documents -/

/-- The number that is read for a floating-point number; there is none for what is not finite. -/
def floatValue (f : FloatFormat) (bits : Nat) : Document :=
  let (wide, deep) := if f = .single then (13, 6) else (16, 5)
  match f.decode bits with
  | .finite s m e => (Written.ofDecimal wide deep s (if m = 0 then ⟨0, 0⟩ else .shortest f m e)).numeral.value
  | _ => .null

mutual

/-- The tokens of a document that is written. -/
def tokensOf : Document → List Token
  | .null | .unreadable => [.value .null]
  | .bool value => [.value (.bool value)]
  | .integer value => [.value (Written.ofInteger value).numeral.value]
  | .single bits => [.value (floatValue .single bits)]
  | .double bits => [.value (floatValue .double bits)]
  | .text value => [.text (some value)]
  | .list items => .openList :: ([Token.comma].intercalate (tokensOfItems items) ++ [.closeList])
  | .record fields => .openRecord :: ([Token.comma].intercalate (tokensOfFields fields) ++ [.closeRecord])

/-- The tokens of the items of a list. -/
def tokensOfItems : List Document → List (List Token)
  | [] => []
  | item :: rest => tokensOf item :: tokensOfItems rest

/-- The tokens of the fields of a record. -/
def tokensOfFields : List (String × Document) → List (List Token)
  | [] => []
  | (name, value) :: rest => (.text (some name) :: .colon :: tokensOf value) :: tokensOfFields rest

end

mutual

/-- The document that is read for one that is written. -/
def reread : Document → Document
  | .null | .unreadable => .null
  | .bool value => .bool value
  | .integer value => (Written.ofInteger value).numeral.value
  | .single bits => floatValue .single bits
  | .double bits => floatValue .double bits
  | .text value => .text value
  | .list items => .list (rereadItems items)
  | .record fields => .record (rereadFields fields)

/-- The items that are read for those of a list. -/
def rereadItems : List Document → List Document
  | [] => []
  | item :: rest => reread item :: rereadItems rest

/-- The fields that are read for those of a record. -/
def rereadFields : List (String × Document) → List (String × Document)
  | [] => []
  | (name, value) :: rest => (name, reread value) :: rereadFields rest

end

/-- What is written for a finite number. -/
theorem toList_finite {wide deep : Nat} (zero : (⟨0, 0⟩ : Decimal).scientific wide deep = "0.0") (s : Bool)
    (f : FloatFormat) (m : Nat) (e : Int) :
    ((if s then "-" else "") ++ if m = 0 then "0.0" else (Decimal.shortest f m e).scientific wide deep).toList =
      (if s then ['-'] else []) ++ (Written.ofDecimal wide deep s (if m = 0 then ⟨0, 0⟩ else .shortest f m e)).text := by
  have sign : (if s then "-" else "").toList = if s then ['-'] else [] := by cases s <;> decide
  rw [String.toList_append, sign, ← Written.toList_scientific]
  by_cases none : m = 0
  · rw [if_pos none, if_pos none, zero]
  · rw [if_neg none, if_neg none]

theorem lexed_float (f : FloatFormat) (bits : Nat) :
    Lexed (Utf8.encode ((f.dataText? bits).getD "null").toList) [.value (floatValue f bits)] := by
  -- Both formats are written alike, and differ in where an exponent is used.
  have number {wide deep : Nat} (zero : (⟨0, 0⟩ : Decimal).scientific wide deep = "0.0") : Lexed
      (Utf8.encode ((match f.decode bits with
        | .finite s m e => some ((if s then "-" else "") ++
            if m = 0 then "0.0" else (Decimal.shortest f m e).scientific wide deep)
        | _ => none).getD "null").toList)
      [.value (match f.decode bits with
        | .finite s m e => (Written.ofDecimal wide deep s (if m = 0 then ⟨0, 0⟩ else .shortest f m e)).numeral.value
        | _ => .null)] := by
    cases f.decode bits with
    -- What is no number is written as null.
    | nan => exact .null
    | infinite => exact .null
    | finite s m e =>
      refine .of_number (Written.ofDecimal_proper ?_) ?_
      · -- Zero has no shortest digits, so it is a case of its own.
        split_ifs
        · exact fun _ => rfl
        · exact Decimal.exponent_of_shortest
      · have written := toList_finite zero s f m e
        rwa [Written.negative_ofDecimal]
  unfold FloatFormat.dataText? floatValue
  split_ifs
  · exact number (by decide +kernel)
  · exact number (by decide +kernel)

mutual

/-- What is written for a document is read token by token. -/
theorem lexed_render : ∀ d : Document, Lexed (Utf8.encode (render d).toList) (tokensOf d)
  | .null | .unreadable => .null
  | .bool true => .true_
  | .bool false => .false_
  | .integer value => by
    rw [render, tokensOf]
    refine .of_number (Written.ofInteger_proper value) ?_
    rw [Written.toList_toString_eq]
    simp [Written.ofInteger]
  | .single bits => lexed_float .single bits
  | .double bits => lexed_float .double bits
  | .text value => .quote value
  | .list items => by
    have start : Utf8.encode "[".toList = [code '['] := by decide
    have stop : Utf8.encode "]".toList = [code ']'] := by decide
    have inner := Lexed.intercalate (lexed_renderItems items)
    rw [render, tokensOf, String.toList_append, String.toList_append, Utf8.encode_append, Utf8.encode_append, start, stop]
    exact Mark.openList.before (Mark.closeList.after inner)
  | .record fields => by
    have start : Utf8.encode "\x7b".toList = [code '\x7b'] := by decide
    have stop : Utf8.encode "\x7d".toList = [code '\x7d'] := by decide
    have inner := Lexed.intercalate (lexed_renderFields fields)
    rw [render, tokensOf, String.toList_append, String.toList_append, Utf8.encode_append, Utf8.encode_append, start, stop]
    exact Mark.openRecord.before (Mark.closeRecord.after inner)

theorem lexed_renderItems : ∀ items : List Document,
    List.Forall₂ (fun text tokens => Lexed (Utf8.encode text.toList) tokens) (renderItems items) (tokensOfItems items)
  | [] => .nil
  | item :: rest => .cons (lexed_render item) (lexed_renderItems rest)

theorem lexed_renderFields : ∀ fields : List (String × Document),
    List.Forall₂ (fun text tokens => Lexed (Utf8.encode text.toList) tokens) (renderFields fields)
      (tokensOfFields fields)
  | [] => .nil
  | (name, value) :: rest => by
    have mark : Utf8.encode ":".toList = [code ':'] := by decide
    refine .cons ?_ (lexed_renderFields rest)
    rw [String.toList_append, String.toList_append, Utf8.encode_append, Utf8.encode_append, mark, List.append_assoc]
    exact Mark.colon.between (.quote name) (lexed_render value)

end

/-! ### Containers -/

namespace Reading

theorem foldlM_single (r : Reading) (t : Token) : [t].foldlM step r = step r t := by simp

/-- Tokens that put a value where one is missing, also at the start of a list. -/
structure Fills (found : List Token) (d : Document) : Prop where
  value (open_ : List Container) : found.foldlM step (.partway open_ .value) = put d open_
  firstItem (open_ : List Container) : found.foldlM step (.partway open_ .firstItem) = put d open_

/-- Tokens of a name and its value. -/
def FillsField (found : List Token) (field : String × Document) : Prop :=
  ∃ tokens, found = .text (some field.1) :: .colon :: tokens ∧ Fills tokens field.2

theorem Fills.single {token : Token} {d : Document} (value : ∀ open_, step (.partway open_ .value) token = put d open_)
    (firstItem : ∀ open_, step (.partway open_ .firstItem) token = put d open_) : Fills [token] d where
  value open_ := (foldlM_single _ _).trans (value open_)
  firstItem open_ := (foldlM_single _ _).trans (firstItem open_)

/-- Items with commas between them stand in their list, the latest first. -/
theorem foldlM_items {found : List (List Token)} {items : List Document} (each : List.Forall₂ Fills found items)
    (filled : items ≠ []) (done : List Document) (outer : List Container) :
    ([Token.comma].intercalate found).foldlM step (.partway (.list done :: outer) .value) =
      .ok (.partway (.list (items.reverse ++ done) :: outer) .separator) := by
  -- Each item is put into the list that is open, and the comma asks for the next one.
  induction each generalizing done with
  | nil => exact absurd rfl filled
  | @cons tokens item others items first rest ih =>
    cases rest with
    | nil =>
      rw [List.intercalate_singleton, first.value]
      rfl
    | cons second rest =>
      have later := ih (List.cons_ne_nil _ _) (item :: done)
      rw [List.intercalate_cons_of_ne_nil (List.cons_ne_nil _ _), List.append_assoc, List.foldlM_append, first.value, put]
      simp only [bind, Except.bind, List.singleton_append, List.foldlM_cons, step]
      rw [later]
      simp

/-- The tokens of a list. -/
theorem Fills.list {found : List (List Token)} {items : List Document} (each : List.Forall₂ Fills found items) :
    Fills (.openList :: ([Token.comma].intercalate found ++ [.closeList])) (.list items) := by
  have all (open_ : List Container) : ([Token.comma].intercalate found ++ [Token.closeList]).foldlM step
      (.partway (.list [] :: open_) .firstItem) = put (.list items) open_ := by
    cases each with
    | nil => exact foldlM_single _ _
    | @cons tokens item found items first rest =>
      -- Between its first token and its end, a list that is not empty is read like any other value.
      have start : ([Token.comma].intercalate (tokens :: found)).foldlM step
          (.partway (.list [] :: open_) .firstItem) =
          ([Token.comma].intercalate (tokens :: found)).foldlM step (.partway (.list [] :: open_) .value) := by
        cases rest with
        | nil => rw [List.intercalate_singleton, first.firstItem, first.value]
        | cons second rest =>
          rw [List.intercalate_cons_of_ne_nil (List.cons_ne_nil _ _), List.append_assoc, List.foldlM_append,
            List.foldlM_append, first.firstItem, first.value]
      rw [List.foldlM_append, start, foldlM_items (.cons first rest) (List.cons_ne_nil _ _)]
      simp only [bind, Except.bind, foldlM_single, step, List.append_nil, List.reverse_reverse]
  exact ⟨all, all⟩

theorem closeRecord_some (fields : List (String × Document)) :
    closeRecord (fields.map fun field => (some field.1, field.2)).reverse = .record fields := by
  have named : (fields.map fun field => (some field.1, field.2)).mapM
      (fun field => field.1.map fun name => (name, field.2)) = some fields := by
    induction fields with
    | nil => rfl
    | cons field fields ih => simp [List.mapM_cons, ih]
  rw [closeRecord, List.reverse_reverse, named]

/-- Fields with commas between them stand in their record, the latest first. -/
theorem foldlM_fields {found : List (List Token)} {fields : List (String × Document)}
    (each : List.Forall₂ FillsField found fields) (filled : fields ≠ []) (done : List (Option String × Document))
    (outer : List Container) :
    ([Token.comma].intercalate found).foldlM step (.partway (.record done :: outer) .name) =
      .ok (.partway (.record ((fields.map fun field => (some field.1, field.2)).reverse ++ done) :: outer)
        .separator) := by
  -- Each field is put into the record that is open, and the comma asks for the next name.
  induction each generalizing done with
  | nil => exact absurd rfl filled
  | @cons tokens field others fields first rest ih =>
    obtain ⟨value, rfl, fills⟩ := first
    cases rest with
    | nil =>
      rw [List.intercalate_singleton]
      simp only [bind, Except.bind, List.foldlM_cons, step]
      rw [fills.value]
      rfl
    | cons second rest =>
      have later := ih (List.cons_ne_nil _ _) ((some field.1, field.2) :: done)
      rw [List.intercalate_cons_of_ne_nil (List.cons_ne_nil _ _), List.append_assoc, List.foldlM_append]
      simp only [bind, Except.bind, List.foldlM_cons, step]
      rw [fills.value, put]
      simp only [bind, Except.bind, List.singleton_append, List.foldlM_cons, step]
      rw [later]
      simp

/-- The tokens of a record. -/
theorem Fills.record {found : List (List Token)} {fields : List (String × Document)}
    (each : List.Forall₂ FillsField found fields) :
    Fills (.openRecord :: ([Token.comma].intercalate found ++ [.closeRecord])) (.record fields) := by
  -- A record may be empty, so its first name is awaited in a state of its own; from there on it is like the others.
  have all (open_ : List Container) : ([Token.comma].intercalate found ++ [Token.closeRecord]).foldlM step
      (.partway (.record [] :: open_) .firstName) = put (.record fields) open_ := by
    cases each with
    | nil => exact foldlM_single _ _
    | @cons tokens field found fields first rest =>
      have start : ([Token.comma].intercalate (tokens :: found)).foldlM step
          (.partway (.record [] :: open_) .firstName) =
          ([Token.comma].intercalate (tokens :: found)).foldlM step (.partway (.record [] :: open_) .name) := by
        obtain ⟨value, rfl, -⟩ := first
        cases rest with
        | nil =>
          rw [List.intercalate_singleton]
          rfl
        | cons second rest =>
          rw [List.intercalate_cons_of_ne_nil (List.cons_ne_nil _ _)]
          rfl
      rw [List.foldlM_append, start, foldlM_fields (.cons first rest) (List.cons_ne_nil _ _)]
      simp only [bind, Except.bind, foldlM_single, step, List.append_nil, closeRecord_some]
  exact ⟨all, all⟩

mutual

/-- The tokens of a document stand for what is read for it. -/
theorem fills_tokensOf : ∀ d : Document, Fills (tokensOf d) (reread d)
  | .null | .unreadable => .single (fun _ => rfl) fun _ => rfl
  | .bool _ | .integer _ | .single _ | .double _ | .text _ => .single (fun _ => rfl) fun _ => rfl
  | .list items => .list (fills_tokensOfItems items)
  | .record fields => .record (fills_tokensOfFields fields)

theorem fills_tokensOfItems : ∀ items : List Document, List.Forall₂ Fills (tokensOfItems items) (rereadItems items)
  | [] => .nil
  | item :: rest => .cons (fills_tokensOf item) (fills_tokensOfItems rest)

theorem fills_tokensOfFields : ∀ fields : List (String × Document),
    List.Forall₂ FillsField (tokensOfFields fields) (rereadFields fields)
  | [] => .nil
  | (_, value) :: rest => .cons ⟨_, rfl, fills_tokensOf value⟩ (fills_tokensOfFields rest)

end

end Reading

/-- What is written for a document is read as the document that stands for it. -/
theorem read_render (d : Document) : read (render d).toUTF8.toList = .ok (reread d) := by
  have lexed := lexed_render d
  have few := lexed.few
  rw [Utf8.toList_toUTF8]
  -- There are at least as many bytes as tokens, so reading a token for each byte is enough.
  have found : tokens (Utf8.encode (render d).toList) = .ok (tokensOf d) := by
    have steps : (Utf8.encode (render d).toList).length + 1 =
        (tokensOf d).length + (((Utf8.encode (render d).toList).length - (tokensOf d).length) + 1) := by omega
    have all := lexed.go ((Utf8.encode (render d).toList).length - (tokensOf d).length + 1) delimits_nil []
    rw [List.append_nil] at all
    rw [tokens, steps, all]
    simp [tokens.go]
  have complete : (tokensOf d).foldlM Reading.step .start = .ok (.complete (reread d)) :=
    (Reading.fills_tokensOf d).value []
  simp only [read, found, ofTokens, complete, bind, Except.bind]
  rfl

end WasmHost.Json
