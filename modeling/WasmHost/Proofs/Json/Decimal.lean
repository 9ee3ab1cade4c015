import WasmHost.Number.Decimal
import WasmHost.Proofs.Json.Numeral

/-! Floating-point numbers are written in one of four ways, each of which is a proper number. -/

namespace WasmHost

namespace Decimal

/-- Zeros move, and nothing becomes zero. -/
theorem digits_trim_ne_zero {d : Decimal} (filled : d.digits ≠ 0) (fuel : Nat) : (trim fuel d).digits ≠ 0 := by
  induction fuel generalizing d with
  | zero => exact filled
  | succ fuel ih =>
    rw [trim]
    split_ifs with more
    · exact ih (by dsimp only; omega)
    · exact filled

/-- Shortest digits are some digits, unless none are found. -/
theorem exponent_of_shortest {f : FloatFormat} {significand : Nat} {exponent : Int}
    (none : (shortest f significand exponent).digits = 0) : (shortest f significand exponent).exponent = 0 := by
  have all (interval : Interval) (magnitude : Int) (fuel count : Nat)
      (none : (shortest.search interval magnitude fuel count).digits = 0) :
      (shortest.search interval magnitude fuel count).exponent = 0 := by
    -- A grid is passed over if nothing is found on it, or no digits.
    induction fuel generalizing count with
    | zero => rfl
    | succ fuel ih =>
      unfold shortest.search at none ⊢
      dsimp only at none ⊢
      cases found : interval.onGrid (magnitude - count) with
      | none =>
        rw [found] at none
        exact ih _ none
      | some digits =>
        rw [found] at none
        dsimp only at none ⊢
        split_ifs at none ⊢ with zero
        · exact ih _ none
        · exact absurd none (digits_trim_ne_zero zero 20)
  exact all _ _ _ _ none

end Decimal

namespace Json.Written

/-- A decimal number as it is written: as a whole number, with its point inside, with zeros before its digits, or with
an exponent. -/
def ofDecimal (wide deep : Nat) (negative : Bool) (d : Decimal) : Written :=
  let digits := Nat.toDigits 10 d.digits
  let point : Int := digits.length + d.exponent
  if 0 ≤ d.exponent ∧ point ≤ wide then ⟨negative, digits ++ List.replicate d.exponent.toNat '0', ['0'], none⟩
  else if 0 < point ∧ point ≤ wide then ⟨negative, digits.take point.toNat, digits.drop point.toNat, none⟩
  else if -(deep : Int) < point ∧ point ≤ 0 then ⟨negative, ['0'], List.replicate (-point).toNat '0' ++ digits, none⟩
  else ⟨negative, digits.take 1, digits.drop 1, some (point - 1 < 0, Nat.toDigits 10 (point - 1).natAbs)⟩

variable {wide deep : Nat} {negative : Bool} {d : Decimal}

theorem isDigit_of_mem {n : Nat} {c : Char} (member : c ∈ Nat.toDigits 10 n) : c.isDigit :=
  Nat.isDigit_of_mem_toDigits (by decide) (by decide) member

theorem isDigit_of_mem_zeros {n : Nat} {c : Char} (member : c ∈ List.replicate n '0') : c.isDigit := by
  rw [List.eq_of_mem_replicate member]
  decide

@[simp] theorem negative_ofDecimal : (ofDecimal wide deep negative d).negative = negative := by
  unfold ofDecimal
  dsimp only
  split_ifs <;> rfl

/-- Zero is written without an exponent; all other numbers may have one. -/
theorem ofDecimal_proper (plain : d.digits = 0 → d.exponent = 0) : (ofDecimal wide deep negative d).Proper := by
  have filled : Nat.toDigits 10 d.digits ≠ [] := Nat.toDigits_ne_nil
  have lead (long : 1 < (Nat.toDigits 10 d.digits).length) : (Nat.toDigits 10 d.digits).head? ≠ some '0' := by
    refine head?_toDigits fun zero => ?_
    simp [zero] at long
  unfold ofDecimal
  dsimp only
  -- In each of the four ways only digits are written, and a zero leads only where it stands alone.
  split_ifs with whole inside small
  · refine ⟨fun c member => ?_, by simp [filled], fun long => ?_, fun c member => ?_, nofun⟩
    · rcases List.mem_append.1 member with digit | zero
      · exact isDigit_of_mem digit
      · exact isDigit_of_mem_zeros zero
    · rw [List.head?_append_of_ne_nil _ filled]
      refine head?_toDigits fun none => ?_
      simp [none, plain none] at long
    · rw [List.mem_singleton.1 member]
      decide
  · refine ⟨fun c member => isDigit_of_mem (List.mem_of_mem_take member), ?_, fun long => ?_,
      fun c member => isDigit_of_mem (List.mem_of_mem_drop member), nofun⟩
    · simp only [ne_eq, List.take_eq_nil_iff, filled, or_false]
      omega
    · rw [List.head?_take, if_neg (by omega)]
      exact lead (by simp only [List.length_take] at long; omega)
  · refine ⟨fun c member => ?_, List.cons_ne_nil _ _, fun long => absurd long (Nat.lt_irrefl 1), fun c member => ?_, nofun⟩
    · rw [List.mem_singleton.1 member]
      decide
    · rcases List.mem_append.1 member with zero | digit
      · exact isDigit_of_mem_zeros zero
      · exact isDigit_of_mem digit
  · refine ⟨fun c member => isDigit_of_mem (List.mem_of_mem_take member), by simp [filled], fun long => ?_,
      fun c member => isDigit_of_mem (List.mem_of_mem_drop member), fun down digits known => ?_⟩
    · simp only [List.length_take] at long
      omega
    · cases known
      exact ⟨Nat.toDigits_ne_nil, fun c member => isDigit_of_mem member⟩

/-- What is written for a decimal number. -/
theorem toList_scientific :
    (d.scientific wide deep).toList = (ofDecimal wide deep negative d).text := by
  have length : 0 < (Nat.toDigits 10 d.digits).length := Nat.length_toDigits_pos
  have zeros (n : Nat) : (Decimal.zeros n).toList = List.replicate n '0' := String.toList_ofList
  have digits (n : Nat) : (Decimal.digitText n).toList = Nat.toDigits 10 n := String.toList_ofList
  have size : (Decimal.digitText d.digits).length = (Nat.toDigits 10 d.digits).length := by
    rw [← String.length_toList, digits]
  unfold Decimal.scientific ofDecimal
  dsimp only
  rw [size]
  -- The same four ways, the last of them with one digit or with several.
  split_ifs with whole inside small alone
  · simp [Written.text, fractionText, exponentText, zeros, digits]
  · have before : ¬ 0 ≤ d.exponent := by omega
    have rest : (Nat.toDigits 10 d.digits).drop ((Nat.toDigits 10 d.digits).length + d.exponent).toNat ≠ [] := by
      rw [Ne, List.drop_eq_nil_iff]
      omega
    simp [Decimal.positional, Written.text, fractionText, exponentText, digits, size, before, inside.1, rest]
  · have before : ¬ 0 ≤ d.exponent := by omega
    have outside : ¬ 0 < ((Nat.toDigits 10 d.digits).length : Int) + d.exponent := by omega
    have filled : Nat.toDigits 10 d.digits ≠ [] := Nat.toDigits_ne_nil
    simp [Decimal.positional, Written.text, fractionText, exponentText, zeros, digits, size, before, outside, filled]
  · have single : (Nat.toDigits 10 d.digits).drop 1 = [] := by simpa [String.isEmpty_iff, digits] using alone
    have exponent := toList_toString ((Nat.toDigits 10 d.digits).length + d.exponent - 1)
    rw [Int.toString_eq_repr] at exponent
    simp [Written.text, fractionText, exponentText, digits, List.drop_one ▸ single, exponent]
  · have several : (Nat.toDigits 10 d.digits).drop 1 ≠ [] := by simpa [String.isEmpty_iff, digits] using alone
    have exponent := toList_toString ((Nat.toDigits 10 d.digits).length + d.exponent - 1)
    rw [Int.toString_eq_repr] at exponent
    simp [Written.text, fractionText, exponentText, digits, List.drop_one ▸ several, exponent]

end Json.Written

end WasmHost
