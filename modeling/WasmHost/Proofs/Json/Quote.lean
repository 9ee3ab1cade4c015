import WasmHost.Json.Printer
import WasmHost.Json.Token
import WasmHost.Proofs.Text.Utf8

/-! A text between quotes is read as the text that was quoted. -/

namespace WasmHost.Json

/-- The bytes of a character inside quotes. -/
def escapeBytes (c : Char) : List UInt8 := Utf8.encode (escape c).toList

/-- Bytes that mean nothing else stand for themselves. -/
theorem pieces_plain {bytes : List UInt8} (plain : ∀ b ∈ bytes, b ≠ code '"' ∧ ¬ b < 0x20 ∧ b ≠ code '\\') (fuel : Nat)
    (rest : List UInt8) (done : List Piece) :
    pieces (bytes.length + fuel) (bytes ++ rest) done =
      pieces fuel rest ((bytes.map fun b => .bytes [b]).reverse ++ done) := by
  -- The induction is on the bytes, and each of them is a piece of its own.
  induction bytes generalizing done with
  | nil => simp
  | cons b bytes ih =>
    obtain ⟨quote, control, slash⟩ := plain b (List.mem_cons_self ..)
    have later := ih (fun b member => plain b (List.mem_cons_of_mem _ member)) (.bytes [b] :: done)
    have step : pieces (bytes.length + 1 + fuel) (b :: (bytes ++ rest)) done =
        pieces (bytes.length + fuel) (bytes ++ rest) (.bytes [b] :: done) := by
      rw [Nat.add_right_comm]
      simp only [pieces, if_neg quote, if_neg control, if_pos slash]
    rw [List.length_cons, List.cons_append, step, later]
    simp

/-- A short escape stands for its byte. -/
theorem pieces_short {e value : UInt8} (known : shortEscape? e = some value) (other : e ≠ code 'u') (fuel : Nat)
    (rest : List UInt8) (done : List Piece) :
    pieces (fuel + 1) (code '\\' :: e :: rest) done = pieces fuel rest (.bytes [value] :: done) := by
  have quote : code '\\' ≠ code '"' := by decide
  have control : ¬ code '\\' < 0x20 := by decide
  simp [pieces, quote, control, other, known]

/-- The escape of a control by its number. -/
theorem pieces_control {n : Nat} (control : n < 32) (fuel : Nat) (rest : List UInt8) (done : List Piece) :
    pieces (fuel + 1) (code '\\' :: code 'u' :: Utf8.encode (Hex.ofNat 4 n).toList ++ rest) done =
      pieces fuel rest (.bytes [n.toUInt8] :: done) := by
  -- There are few controls, so their numbers are read back one by one.
  have digits : ∀ n < 32, ∃ a b c d, Utf8.encode (Hex.ofNat 4 n).toList = [a, b, c, d] ∧ hex4? [a, b, c, d] = some n ∧
      charBytes (Char.ofNat n) = [n.toUInt8] := by
    intro n small
    have written : ∀ n < 32, (Utf8.encode (Hex.ofNat 4 n).toList).length = 4 ∧
        hex4? (Utf8.encode (Hex.ofNat 4 n).toList) = some n ∧ charBytes (Char.ofNat n) = [n.toUInt8] := by
      decide +kernel
    obtain ⟨four, read, same⟩ := written n small
    obtain ⟨a, b, c, d, shape⟩ := List.length_eq_four.1 four
    exact ⟨a, b, c, d, shape, shape ▸ read, same⟩
  obtain ⟨a, b, c, d, shape, read, same⟩ := digits n control
  have quote : code '\\' ≠ code '"' := by decide
  have printable : ¬ code '\\' < 0x20 := by decide
  have low : ¬ (0xD800 ≤ n ∧ n < 0xE000) := by omega
  rw [shape]
  simp [pieces, quote, printable, read, low, same]

/-- What may be written for a character: a short escape, its number, or itself. -/
theorem escape_cases (c : Char) :
    (∃ e value, escapeBytes c = [code '\\', e] ∧ shortEscape? e = some value ∧ e ≠ code 'u' ∧
      String.utf8EncodeChar c = [value]) ∨
    (c.toNat < 32 ∧ escapeBytes c = code '\\' :: code 'u' :: Utf8.encode (Hex.ofNat 4 c.toNat).toList) ∨
    (escapeBytes c = String.utf8EncodeChar c ∧ c ≠ '"' ∧ c ≠ '\\' ∧ 32 ≤ c.toNat) := by
  unfold escapeBytes escape
  -- Seven characters have a short escape.
  split_ifs with quote slash backspace tab line page back control
  · subst quote
    exact .inl ⟨code '"', code '"', by decide⟩
  · subst slash
    exact .inl ⟨code '\\', code '\\', by decide⟩
  · subst backspace
    exact .inl ⟨code 'b', 0x08, by decide⟩
  · subst tab
    exact .inl ⟨code 't', 0x09, by decide⟩
  · subst line
    exact .inl ⟨code 'n', 0x0A, by decide⟩
  · subst page
    exact .inl ⟨code 'f', 0x0C, by decide⟩
  · subst back
    exact .inl ⟨code 'r', 0x0D, by decide⟩
  · refine .inr (.inl ⟨control, ?_⟩)
    have mark : Utf8.encode "\\u".toList = [code '\\', code 'u'] := by decide
    rw [String.toList_append, Utf8.encode_append, mark]
    rfl
  · exact .inr (.inr ⟨by simp, quote, slash, Nat.le_of_not_lt control⟩)

/-- The bytes of a character that is not escaped mean nothing else. -/
theorem plain_of_mem_encodeChar {c : Char} (quote : c ≠ '"') (slash : c ≠ '\\') (printable : 32 ≤ c.toNat) {b : UInt8}
    (member : b ∈ String.utf8EncodeChar c) : b ≠ code '"' ∧ ¬ b < 0x20 ∧ b ≠ code '\\' := by
  -- Up to 127 a character is its own byte, and above that all bytes are high.
  by_cases ascii : c.toNat < 128
  · rw [Utf8.encodeChar_of_ascii ascii, List.mem_singleton] at member
    have value : b.toNat = c.toNat := by
      rw [member, Nat.toUInt8_eq, UInt8.toNat_ofNat']
      omega
    have differs {d : Char} (other : c ≠ d) (small : d.toNat < 128) : b ≠ code d := by
      intro same
      have sizes : b.toNat = d.toNat := by
        rw [same, code, Nat.toUInt8_eq, UInt8.toNat_ofNat']
        omega
      exact other (Char.toNat_inj.1 (value.symm.trans sizes))
    refine ⟨differs quote (by decide), ?_, differs slash (by decide)⟩
    rw [UInt8.lt_iff_toNat_lt, value]
    exact Nat.not_lt.2 printable
  · have high := Utf8.high_of_mem_encodeChar (Nat.le_of_not_lt ascii) member
    refine ⟨?_, ?_, ?_⟩
    · rintro rfl
      exact absurd high (by decide)
    · rw [UInt8.lt_iff_toNat_lt]
      have : (0x20 : UInt8).toNat = 32 := rfl
      omega
    · rintro rfl
      exact absurd high (by decide)

/-- How bytes that are written are cut into pieces, of which each takes a step. -/
structure Cut (written read : List UInt8) (cuts : List (List UInt8)) : Prop where
  whole : cuts.flatten = read
  few : cuts.length ≤ written.length
  pieces (fuel : Nat) (rest : List UInt8) (done : List Piece) :
    pieces (cuts.length + fuel) (written ++ rest) done = pieces fuel rest ((cuts.map Piece.bytes).reverse ++ done)

theorem Cut.append {written written' read read' : List UInt8} {cuts cuts' : List (List UInt8)}
    (first : Cut written read cuts) (second : Cut written' read' cuts') :
    Cut (written ++ written') (read ++ read') (cuts ++ cuts') where
  whole := by rw [List.flatten_append, first.whole, second.whole]
  few := by
    have := first.few
    have := second.few
    simp only [List.length_append]
    omega
  pieces fuel rest done := by
    rw [List.length_append, Nat.add_assoc, List.append_assoc, first.pieces, second.pieces]
    simp

/-- What is written for a character is read as the bytes of this character. -/
theorem exists_cut_escape (c : Char) : ∃ cuts, Cut (escapeBytes c) (String.utf8EncodeChar c) cuts := by
  -- A short escape and a number are one piece; a character that stands for itself has a piece for each byte.
  rcases escape_cases c with ⟨e, value, written, known, other, same⟩ | ⟨control, written⟩ |
    ⟨written, quote, slash, printable⟩
  · refine ⟨[[value]], by simp [same], by simp [written], fun fuel rest done => ?_⟩
    rw [written, List.length_singleton, Nat.add_comm]
    exact pieces_short known other fuel rest done
  · refine ⟨[[c.toNat.toUInt8]], ?_, by simp [written], fun fuel rest done => ?_⟩
    · rw [Utf8.encodeChar_of_ascii (by omega)]
      rfl
    · rw [written, List.length_singleton, Nat.add_comm]
      exact pieces_control control fuel rest done
  · refine ⟨(String.utf8EncodeChar c).map ([·]), ?_, by simp [written], fun fuel rest done => ?_⟩
    · simp [List.flatten_eq_flatMap, List.flatMap_map]
    · rw [written, List.length_map, List.map_map]
      exact pieces_plain (fun b member => plain_of_mem_encodeChar quote slash printable member) fuel rest done

/-- What is written for some characters is read as their bytes. -/
theorem exists_cut_escapes (text : List Char) : ∃ cuts, Cut (text.flatMap escapeBytes) (Utf8.encode text) cuts := by
  induction text with
  | nil => exact ⟨[], rfl, Nat.le_refl _, fun fuel rest done => by simp⟩
  | cons c text ih =>
    obtain ⟨first, here⟩ := exists_cut_escape c
    obtain ⟨others, later⟩ := ih
    exact ⟨first ++ others, here.append later⟩

/-- Pieces that are bytes are put together in their order. -/
theorem joinPieces_bytes (cuts : List (List UInt8)) (bytes : ByteArray) :
    joinPieces (cuts.map Piece.bytes) bytes = some (bytes ++ cuts.flatten.toByteArray) := by
  -- Bytes are pushed one by one, which appends them.
  have push (value : List UInt8) (bytes : ByteArray) :
      value.foldl ByteArray.push bytes = bytes ++ value.toByteArray := by
    induction value generalizing bytes with
    | nil => simp
    | cons b value ih =>
      rw [List.foldl_cons, ih, ← ByteArray.append_toByteArray_singleton, ByteArray.append_assoc,
        ← List.toByteArray_append, List.singleton_append]
  induction cuts generalizing bytes with
  | nil => simp [joinPieces]
  | cons cut cuts ih =>
    rw [List.map_cons, joinPieces, ih, push, List.flatten_cons, List.toByteArray_append, ByteArray.append_assoc]

/-- The bytes of a quoted text. -/
theorem encode_quote (value : String) :
    Utf8.encode (quote value).toList = code '"' :: (value.toList.flatMap escapeBytes ++ [code '"']) := by
  have marks : Utf8.encode "\"".toList = [code '"'] := by decide
  -- Each character is escaped on its own.
  have inner (text : List Char) :
      Utf8.encode ((text.map escape).flatMap String.toList) = text.flatMap escapeBytes := by
    induction text with
    | nil => rfl
    | cons c text ih => simp [escapeBytes, ih]
  rw [quote, String.toList_append, String.toList_append, Utf8.encode_append, Utf8.encode_append, marks,
    String.toList_join, inner]
  rfl

/-- After the opening quote, a quoted text is read up to its end. -/
theorem text_quote (value : String) (rest : List UInt8) :
    text (value.toList.flatMap escapeBytes ++ code '"' :: rest) = .ok (some value, rest) := by
  obtain ⟨cuts, cut⟩ := exists_cut_escapes value.toList
  have few := cut.few
  -- Every piece has a byte at least, so that there are steps enough, and one is left for the quote.
  have steps : (value.toList.flatMap escapeBytes ++ code '"' :: rest).length + 1 =
      cuts.length + (((value.toList.flatMap escapeBytes).length - cuts.length + rest.length + 1) + 1) := by
    simp only [List.length_append, List.length_cons]
    omega
  have found : pieces ((value.toList.flatMap escapeBytes ++ code '"' :: rest).length + 1)
      (value.toList.flatMap escapeBytes ++ code '"' :: rest) [] = .ok ((cuts.map Piece.bytes).reverse, rest) := by
    rw [steps, cut.pieces]
    simp [pieces]
  have whole : Utf8.text? (ByteArray.empty ++ cuts.flatten.toByteArray) = some value := by
    rw [ByteArray.empty_append, cut.whole, Utf8.toByteArray_encode, String.ofList_toList]
    exact Utf8.text?_eq_some_iff.2 rfl
  simp only [text, found, bind, Except.bind, List.reverse_reverse, joinPieces_bytes, Option.bind_some, whole]
  rfl

end WasmHost.Json
