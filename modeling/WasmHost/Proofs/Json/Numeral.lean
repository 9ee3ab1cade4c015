import Mathlib.Data.List.TakeDrop
import WasmHost.Json.Token
import WasmHost.Proofs.Except
import WasmHost.Proofs.Text.Utf8

/-! Numbers that are written with digits are read as what the digits say. -/

namespace WasmHost.Json

/-! ### Digits -/

/-- The bytes of some characters of ASCII. -/
def codes (text : List Char) : List UInt8 := text.map code

@[simp] theorem codes_nil : codes [] = [] := rfl

@[simp] theorem codes_cons (c : Char) (text : List Char) : codes (c :: text) = code c :: codes text := rfl

@[simp] theorem codes_append (first second : List Char) : codes (first ++ second) = codes first ++ codes second :=
  List.map_append

@[simp] theorem codes_eq_nil {text : List Char} : codes text = [] ↔ text = [] := List.map_eq_nil_iff

theorem encode_of_ascii {text : List Char} (ascii : ∀ c ∈ text, c.toNat < 128) : Utf8.encode text = codes text := by
  induction text with
  | nil => rfl
  | cons c text ih =>
    rw [Utf8.encode_cons, Utf8.encodeChar_of_ascii (ascii c (List.mem_cons_self ..)),
      ih fun c member => ascii c (List.mem_cons_of_mem _ member)]
    rfl

theorem toNat_code_of_isDigit {c : Char} (digit : c.isDigit) :
    48 ≤ c.toNat ∧ c.toNat ≤ 57 ∧ (code c).toNat = c.toNat := by
  -- Digits are far below 256, so each is its own byte.
  have bounds : '0'.toNat ≤ c.toNat ∧ c.toNat ≤ '9'.toNat := by
    simp only [Char.isDigit, Bool.and_eq_true, decide_eq_true_eq] at digit
    exact digit
  have zero : '0'.toNat = 48 := rfl
  have nine : '9'.toNat = 57 := rfl
  refine ⟨by omega, by omega, ?_⟩
  rw [code, Nat.toUInt8_eq, UInt8.toNat_ofNat']
  omega

theorem isDigit_code {c : Char} (digit : c.isDigit) : isDigit (code c) := by
  obtain ⟨low, high, same⟩ := toNat_code_of_isDigit digit
  have zero : (code '0').toNat = 48 := rfl
  have nine : (code '9').toNat = 57 := rfl
  simp only [isDigit, Bool.and_eq_true, decide_eq_true_eq, UInt8.le_iff_toNat_le]
  omega

/-- The sum that is built from digits is the number that they write. -/
theorem foldl_codes {text : List Char} (digits : ∀ c ∈ text, c.isDigit) (start : Nat) :
    (codes text).foldl (fun sum d => 10 * sum + digitValue d) start = Nat.ofDigitChars 10 text start := by
  -- The induction is on the digits, with what was gathered before them.
  induction text generalizing start with
  | nil => rfl
  | cons c text ih =>
    have same := (toNat_code_of_isDigit (digits c (List.mem_cons_self ..))).2.2
    rw [Nat.ofDigitChars_cons, ← ih fun c member => digits c (List.mem_cons_of_mem _ member)]
    simp only [codes, List.map_cons, List.foldl_cons, digitValue, same]
    rfl

theorem le_ofDigitChars (text : List Char) (start : Nat) : start ≤ Nat.ofDigitChars 10 text start := by
  rw [Nat.ofDigitChars_eq_ofDigitChars_zero]
  have := Nat.le_mul_of_pos_left start (Nat.pow_pos (n := text.length) (show 0 < 10 by decide))
  omega

/-- Digits are gathered to the end if their number fits. -/
theorem gather_codes {text : List Char} (digits : ∀ c ∈ text, c.isDigit) {start : Nat}
    (fits : Nat.ofDigitChars 10 text start ≤ significandLimit) :
    gather start (codes text) = (Nat.ofDigitChars 10 text start, []) := by
  induction text generalizing start with
  | nil => rfl
  | cons c text ih =>
    have same := (toNat_code_of_isDigit (digits c (List.mem_cons_self ..))).2.2
    have next : start * 10 + digitValue (code c) = 10 * start + (c.toNat - '0'.toNat) := by
      rw [digitValue, same, Nat.mul_comm]
      rfl
    rw [Nat.ofDigitChars_cons] at fits
    -- The whole number fits, and so does each part of it.
    have room := Nat.le_trans (le_ofDigitChars text _) fits
    have step : gather start (codes (c :: text)) =
        gather (10 * start + (c.toNat - '0'.toNat)) (codes text) := by
      simp only [codes, List.map_cons, gather, next, if_neg (Nat.not_lt.2 room)]
    rw [step, ih (fun c member => digits c (List.mem_cons_of_mem _ member)) fits, Nat.ofDigitChars_cons]

/-- A number is written without zeros in front. -/
theorem head?_toDigits {n : Nat} (filled : n ≠ 0) : (Nat.toDigits 10 n).head? ≠ some '0' := by
  -- All digits but the last are those of a tenth.
  induction n using Nat.strongRecOn with
  | ind n ih =>
    by_cases small : n < 10
    · rw [Nat.toDigits_of_lt_base small]
      have all : ∀ n < 10, n ≠ 0 → [n.digitChar].head? ≠ some '0' := by decide
      exact all n small filled
    · rw [Nat.toDigits_of_base_le (by decide) (Nat.le_of_not_lt small), List.head?_append_of_ne_nil _ Nat.toDigits_ne_nil]
      exact ih (n / 10) (by omega) (by omega)

/-! ### Numerals -/

/-- What may follow a number: nothing that goes on with it. -/
def Delimits (rest : List UInt8) : Prop :=
  ∀ b ∈ rest.head?, isDigit b = false ∧ b ≠ code '.' ∧ b ≠ code 'e' ∧ b ≠ code 'E'

theorem delimits_nil : Delimits [] := nofun

theorem delimits_cons {b : UInt8} (rest : List UInt8)
    (other : isDigit b = false ∧ b ≠ code '.' ∧ b ≠ code 'e' ∧ b ≠ code 'E') : Delimits (b :: rest) := by
  intro first member
  cases member
  exact other

/-- Digits end where no digit follows. -/
theorem spanDigits_codes {text : List Char} (digits : ∀ c ∈ text, c.isDigit) {rest : List UInt8}
    (delimited : ∀ b ∈ rest.head?, isDigit b = false) : spanDigits (codes text ++ rest) = (codes text, rest) := by
  have all : ∀ b ∈ codes text, isDigit b := by
    intro b member
    obtain ⟨c, here, rfl⟩ := List.mem_map.1 member
    exact isDigit_code (digits c here)
  -- The rest starts with no digit, so nothing of it is taken.
  have stop : rest.takeWhile isDigit = [] ∧ rest.dropWhile isDigit = rest := by
    cases rest with
    | nil => exact ⟨rfl, rfl⟩
    | cons b rest => simp [delimited b rfl]
  rw [spanDigits, List.span_eq_takeWhile_dropWhile, List.takeWhile_append_of_pos all, List.dropWhile_append_of_pos all,
    stop.1, stop.2, List.append_nil]

/-- A number as its digits write it. -/
structure Written where
  negative : Bool
  whole : List Char
  fraction : List Char
  exponent : Option (Bool × List Char)

namespace Written

/-- The digits behind the point, with the point. -/
def fractionText (w : Written) : List Char := if w.fraction = [] then [] else '.' :: w.fraction

/-- The exponent with its mark. -/
def exponentText (w : Written) : List Char :=
  match w.exponent with
  | none => []
  | some (down, digits) => 'e' :: ((if down then ['-'] else []) ++ digits)

/-- The characters after the sign. -/
def text (w : Written) : List Char := w.whole ++ w.fractionText ++ w.exponentText

/-- The numeral as it is read. -/
def numeral (w : Written) : Numeral :=
  ⟨w.negative, codes w.whole, codes w.fraction, w.exponent.map fun x => (x.1, codes x.2)⟩

/-- There are digits wherever there must be, and no zeros in front. -/
structure Proper (w : Written) : Prop where
  whole : ∀ c ∈ w.whole, c.isDigit
  filled : w.whole ≠ []
  lead : 1 < w.whole.length → w.whole.head? ≠ some '0'
  fraction : ∀ c ∈ w.fraction, c.isDigit
  exponent : ∀ down digits, w.exponent = some (down, digits) → digits ≠ [] ∧ ∀ c ∈ digits, c.isDigit

variable {w : Written} {rest : List UInt8}

theorem fractionOf_text (proper : w.Proper) (delimited : ∀ b ∈ rest.head?, isDigit b = false ∧ b ≠ code '.') :
    fractionOf (codes w.fractionText ++ rest) = .ok (codes w.fraction, rest) := by
  unfold fractionText
  -- Without a fraction there must be no point either.
  split_ifs with none
  · rw [none]
    cases rest with
    | nil => rfl
    | cons b rest => simp [fractionOf, (delimited b rfl).2]
  · have spanned := spanDigits_codes proper.fraction fun b member => (delimited b member).1
    simp [fractionOf, spanned, none]

theorem exponentOf_text (proper : w.Proper) (delimited : Delimits rest) :
    exponentOf (codes w.exponentText ++ rest) = .ok (w.numeral.exponent, rest) := by
  unfold exponentText numeral
  cases shape : w.exponent with
  | none =>
    cases rest with
    | nil => rfl
    | cons b rest =>
      obtain ⟨-, -, lower, upper⟩ := delimited b rfl
      simp [exponentOf, lower, upper]
  | some exponent =>
    obtain ⟨down, digits⟩ := exponent
    obtain ⟨filled, all⟩ := proper.exponent down digits shape
    have spanned := spanDigits_codes all fun b member => (delimited b member).1
    cases down with
    | true => simp [exponentOf, spanned, filled]
    | false =>
      -- The first digit is no sign.
      obtain ⟨c, more, rfl⟩ := List.exists_cons_of_ne_nil filled
      have digit := isDigit_code (all c (List.mem_cons_self ..))
      have minus : code c ≠ code '-' := by
        intro same
        rw [same] at digit
        exact absurd digit (by decide)
      have plus : code c ≠ code '+' := by
        intro same
        rw [same] at digit
        exact absurd digit (by decide)
      rw [codes_cons, List.cons_append] at spanned
      simp [exponentOf, minus, plus, spanned]

/-- A number that is properly written is read as it is written. -/
theorem numeral_text (proper : w.Proper) (delimited : Delimits rest) :
    Json.numeral w.negative (codes w.text ++ rest) = .ok (w.numeral, rest) := by
  -- Each part is delimited by the mark of the next one that is there.
  have marked : ∀ b ∈ (codes w.exponentText ++ rest).head?, isDigit b = false ∧ b ≠ code '.' := by
    unfold exponentText
    cases w.exponent with
    | none => exact fun b member => ⟨(delimited b member).1, (delimited b member).2.1⟩
    | some exponent =>
      intro b member
      cases member
      decide
  have pointed : ∀ b ∈ (codes w.fractionText ++ (codes w.exponentText ++ rest)).head?, isDigit b = false := by
    unfold fractionText
    split_ifs
    · exact fun b member => (marked b member).1
    · intro b member
      cases member
      decide
  have spanned := spanDigits_codes proper.whole pointed
  -- A whole part has digits, and does not start with a zero that is not alone.
  have lead : ¬ ((codes w.whole).isEmpty ∨
      (1 < (codes w.whole).length ∧ (codes w.whole).head? = some (code '0'))) := by
    rintro (none | ⟨long, zero⟩)
    · simp [proper.filled] at none
    · rw [codes, List.head?_map] at zero
      obtain ⟨c, first, same⟩ := Option.map_eq_some_iff.1 zero
      have value := (toNat_code_of_isDigit (proper.whole c (List.mem_of_mem_head? first))).2.2
      rw [same] at value
      rw [codes, List.length_map] at long
      exact proper.lead long (first.trans (congrArg some (Char.toNat_inj.1 value.symm)))
  rw [text, codes_append, codes_append, List.append_assoc, List.append_assoc]
  simp only [Json.numeral, spanned, if_neg lead, fractionOf_text proper marked, exponentOf_text proper delimited, bind,
    Except.bind]
  rfl

/-! ### Integers -/

/-- An integer as it is written. -/
def ofInteger (value : Int) : Written := ⟨value < 0, Nat.toDigits 10 value.natAbs, [], none⟩

theorem ofInteger_proper (value : Int) : (ofInteger value).Proper where
  whole _ member := Nat.isDigit_of_mem_toDigits (by decide) (by decide) member
  filled := Nat.toDigits_ne_nil
  lead long := by
    refine head?_toDigits ?_
    rintro zero
    simp [ofInteger, zero] at long
  fraction := nofun
  exponent := nofun

theorem toList_toString (value : Int) :
    (toString value).toList = (if value < 0 then ['-'] else []) ++ Nat.toDigits 10 value.natAbs := by
  rw [Int.toString_eq_repr]
  cases value with
  | ofNat n =>
    have same : ¬ Int.ofNat n < 0 := Int.not_lt.2 (Int.natCast_nonneg n)
    rw [if_neg same]
    exact Nat.toList_repr
  | negSucc n =>
    rw [if_pos (Int.negSucc_lt_zero n), Int.repr, String.toList_append, Nat.toList_repr]
    rfl

theorem toList_toString_eq (value : Int) :
    (toString value).toList = (if value < 0 then ['-'] else []) ++ (ofInteger value).text := by
  rw [toList_toString]
  simp [text, ofInteger, fractionText, exponentText]

/-- Integers of 64 bits are read as themselves. -/
theorem value_ofInteger {value : Int} (low : -(Integer.modulus 63 : Int) ≤ value)
    (high : value < (Integer.modulus 64 : Int)) : (ofInteger value).numeral.value = .integer value := by
  have limit : significandLimit = 2 ^ 64 - 1 := by decide
  have half : Integer.modulus 63 = 2 ^ 63 := by decide
  have whole : Integer.modulus 64 = 2 ^ 64 := by decide
  have gathered : gather 0 (codes (Nat.toDigits 10 value.natAbs)) = (value.natAbs, []) := by
    have same : Nat.ofDigitChars 10 (Nat.toDigits 10 value.natAbs) 0 = value.natAbs := Nat.ofDigitChars_ten_toDigits
    rw [gather_codes (fun c member => Nat.isDigit_of_mem_toDigits (by decide) (by decide) member) (by rw [same]; omega),
      same]
  simp only [Numeral.value, numeral, ofInteger, gathered]
  -- Negative numbers have half of the range.
  by_cases negative : value < 0
  · have filled : value.natAbs ≠ 0 := by omega
    have fits : ¬ Integer.modulus 63 < value.natAbs := by omega
    have same : -(value.natAbs : Int) = value := by omega
    have large : ¬ (value.natAbs = 0 ∨ Integer.modulus 63 < value.natAbs) := by omega
    simp only [negative, decide_true, codes_nil, List.isEmpty_nil, Option.map_none, Option.isNone_none, and_self, if_true,
      Bool.not_true, Bool.false_eq_true, if_false, if_neg large, same]
  · have same : (value.natAbs : Int) = value := by omega
    simp only [negative, decide_false, codes_nil, List.isEmpty_nil, Option.map_none, Option.isNone_none, and_self, if_true,
      Bool.not_false, same]

end Written

end WasmHost.Json
