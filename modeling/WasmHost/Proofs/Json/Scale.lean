import WasmHost.Proofs.Json.Decimal
import WasmHost.Proofs.Number.Shortest

/-! Decimal numbers are read as whole numbers that are scaled by powers of ten, in one or two rounded steps, which take
them at most two magnitudes away from the nearest one. -/

namespace WasmHost.Json

/-! ### What is gathered -/

/-- What a magnitude is read as, if there is one. -/
def signed (negative : Bool) : Option Nat → Document
  | some bits => .double (FloatFormat.double.withSign negative bits)
  | none => .unreadable

namespace Written

variable {w : Written} {d : Decimal} {wide deep : Nat} {negative : Bool}

/-- The digits of a number before and after its point. -/
def digits (w : Written) : Nat := Nat.ofDigitChars 10 (w.whole ++ w.fraction) 0

/-- The power of ten that the last digit of a number counts. -/
def place (w : Written) : Int :=
  match w.exponent with
  | none => -(w.fraction.length : Int)
  | some (down, digits) =>
    if down then -(w.fraction.length : Int) - (Nat.ofDigitChars 10 digits 0 : Nat)
    else -(w.fraction.length : Int) + (Nat.ofDigitChars 10 digits 0 : Nat)

/-- A number with a point or an exponent is read as its digits, scaled by their place. -/
theorem value_eq (proper : w.Proper) (pointed : w.fraction ≠ [] ∨ w.exponent ≠ none) (fits : w.digits ≤ significandLimit)
    (near : ∀ down digits, w.exponent = some (down, digits) → Nat.ofDigitChars 10 digits 0 ≤ exponentLimit) :
    w.numeral.value = signed w.negative (scale w.digits w.place) := by
  have parts : w.digits = Nat.ofDigitChars 10 w.fraction (Nat.ofDigitChars 10 w.whole 0) := Nat.ofDigitChars_append 0
  -- No digit is beyond the limit, so reading the digits stops at their end only.
  have whole : gather 0 (codes w.whole) = (Nat.ofDigitChars 10 w.whole 0, []) := by
    refine gather_codes proper.whole ?_
    rw [parts] at fits
    exact (le_ofDigitChars w.fraction _).trans fits
  have fraction : gather (Nat.ofDigitChars 10 w.whole 0) (codes w.fraction) = (w.digits, []) := by
    rw [gather_codes proper.fraction (by rwa [← parts]), parts]
  have length : (codes w.fraction).length = w.fraction.length := List.length_map _
  -- What is read is the digits and a count of those behind the point, which the exponent corrects.
  unfold Numeral.value numeral place
  dsimp only
  rw [whole]
  dsimp only
  rw [if_neg, fraction]
  · cases given : w.exponent with
    | none =>
      simp only [Option.map_none, length, List.length_nil, Nat.cast_zero, Nat.sub_zero, zero_sub]
      cases scale w.digits (-(w.fraction.length : Int)) <;> rfl
    | some exponent =>
      have sum := foldl_codes (proper.exponent exponent.1 exponent.2 given).2 0
      have small : ¬ exponentLimit < Nat.ofDigitChars 10 exponent.2 0 := Nat.not_lt.2 (near _ _ given)
      simp only [Option.map_some, sum, if_neg small, length, List.length_nil, Nat.cast_zero, Nat.sub_zero, zero_sub]
      split <;> rename_i found <;> rw [found] <;> rfl
  · -- With neither a point nor an exponent it would be a whole number.
    rintro ⟨-, none, bare⟩
    rcases pointed with point | mark
    · simp [point] at none
    · simp [mark] at bare

/-- What is read of a decimal number that is written: whole numbers have a zero behind their point. -/
def gathered (wide : Nat) (d : Decimal) : Decimal :=
  if 0 ≤ d.exponent ∧ (Nat.toDigits 10 d.digits).length + d.exponent ≤ wide then
    ⟨d.digits * 10 ^ (d.exponent.toNat + 1), -1⟩
  else d

theorem amount_gathered (wide : Nat) (d : Decimal) : (gathered wide d).amount = d.amount := by
  unfold gathered
  split_ifs with whole
  · -- Zeros are written out, and one behind the point.
    obtain ⟨places, same⟩ := Int.eq_ofNat_of_zero_le whole.1
    simp only [Decimal.amount, same, Int.toNat_natCast, zpow_natCast, zpow_neg_one]
    push_cast
    rw [pow_succ]
    ring
  · rfl

theorem ofDecimal_digits (wide deep : Nat) (negative : Bool) (d : Decimal) :
    (ofDecimal wide deep negative d).digits = (gathered wide d).digits ∧
      (ofDecimal wide deep negative d).place = (gathered wide d).exponent := by
  have all : Nat.ofDigitChars 10 (Nat.toDigits 10 d.digits) 0 = d.digits := Nat.ofDigitChars_ten_toDigits
  have exponent (n : Nat) : Nat.ofDigitChars 10 (Nat.toDigits 10 n) 0 = n := Nat.ofDigitChars_ten_toDigits
  have length : 0 < (Nat.toDigits 10 d.digits).length := Nat.length_toDigits_pos
  unfold ofDecimal gathered
  dsimp only
  -- There are four ways to write a number: whole, with the point inside, behind zeros, and with an exponent.
  split_ifs with whole inside small
  · constructor
    · -- Zeros up to the point, and one behind it.
      rw [digits, List.append_assoc, Nat.ofDigitChars_append, all, Nat.ofDigitChars_append,
        Nat.ofDigitChars_replicate_zero, Nat.ofDigitChars_cons, Nat.ofDigitChars_nil]
      dsimp only
      rw [pow_succ]
      ring_nf
      rfl
    · rfl
  · constructor
    · rw [digits, List.take_append_drop, all]
    · simp only [place, List.length_drop]
      omega
  · constructor
    · -- Zeros in front count nothing.
      rw [digits, List.singleton_append, Nat.ofDigitChars_cons, Nat.ofDigitChars_append,
        Nat.ofDigitChars_replicate_zero]
      exact all
    · simp only [place, List.length_append, List.length_replicate]
      omega
  · constructor
    · rw [digits, List.take_append_drop, all]
    · -- The exponent counts from behind the first digit.
      simp only [place, List.length_drop, exponent, decide_eq_true_eq]
      split_ifs <;> omega

/-- What is gathered is not much longer than what is written. -/
theorem gathered_le {size : Nat} (few : d.digits ≤ 10 ^ size) :
    (gathered wide d).digits ≤ 10 ^ size ∨ (gathered wide d).digits ≤ 10 ^ (wide + 1) := by
  unfold gathered
  split_ifs with whole
  · -- With the zeros there are at most as many digits as may be written without an exponent.
    right
    have digits : d.digits < 10 ^ (Nat.toDigits 10 d.digits).length :=
      (Nat.length_toDigits_le_iff (by decide) Nat.length_toDigits_pos).1 (Nat.le_refl _)
    calc d.digits * 10 ^ (d.exponent.toNat + 1)
        ≤ 10 ^ (Nat.toDigits 10 d.digits).length * 10 ^ (d.exponent.toNat + 1) := Nat.mul_le_mul_right _ digits.le
      _ = 10 ^ ((Nat.toDigits 10 d.digits).length + (d.exponent.toNat + 1)) := (Nat.pow_add ..).symm
      _ ≤ 10 ^ (wide + 1) := Nat.pow_le_pow_right (by decide) (by omega)
  · exact .inl few

theorem digits_le_gathered (wide : Nat) (d : Decimal) : d.digits ≤ (gathered wide d).digits := by
  unfold gathered
  split_ifs
  · exact Nat.le_mul_of_pos_right _ (Nat.pow_pos (by decide))
  · exact Nat.le_refl _

theorem exponent_gathered (wide : Nat) (d : Decimal) :
    d.exponent.natAbs ≤ wide ∨ (gathered wide d).exponent = d.exponent := by
  unfold gathered
  split_ifs
  · exact .inl (by omega)
  · exact .inr rfl

/-- A decimal number is read as what is gathered of it, if that fits. -/
theorem value_ofDecimal (plain : d.digits = 0 → d.exponent = 0) (fits : (gathered wide d).digits ≤ significandLimit)
    (near : d.exponent.natAbs ≤ 1000) :
    (ofDecimal wide deep negative d).numeral.value =
      signed negative (scale (gathered wide d).digits (gathered wide d).exponent) := by
  obtain ⟨digits, place⟩ := ofDecimal_digits wide deep negative d
  -- The digits fit, so there are at most twenty, and with them the exponent that is written stays small.
  have few : d.digits < 10 ^ 20 := (digits_le_gathered wide d).trans_lt (fits.trans_lt (by decide))
  have length := (Nat.length_toDigits_le_iff (by decide) (by decide)).2 few
  have limit : 2000 ≤ exponentLimit := by decide
  rw [value_eq (ofDecimal_proper plain), digits, place, negative_ofDecimal]
  · -- Without an exponent there are digits behind the point.
    unfold ofDecimal
    dsimp only
    split_ifs with whole inside small
    · simp
    · left
      simp only [ne_eq, List.drop_eq_nil_iff]
      omega
    · simp
    · simp
  · rwa [digits]
  · -- Only the last of the four ways has an exponent.
    intro down exponent given
    unfold ofDecimal at given
    dsimp only at given
    split_ifs at given
    cases given
    rw [Nat.ofDigitChars_ten_toDigits]
    omega

end Written

/-! ### Numbers of 64 bits -/

section

open FloatFormat

variable {number : ℚ} {near : Nat}

theorem fractional : double.fraction ≠ 0 := by decide

/-- Finite magnitudes of 64 bits. -/
def Finite (magnitude : Nat) : Prop := magnitude < double.topField * 2 ^ double.fraction

theorem pack_of_finite (finite : Finite near) : double.pack false near = near := if_neg (Nat.not_le.2 finite)

theorem greatest_power : (10 : ℚ) ^ 308 ≤ (9 : Nat) * 2 ^ (1020 : Int) := by
  have whole : 10 ^ 308 ≤ 9 * 2 ^ 1020 := by decide +kernel
  rw [zpow_ofNat]
  exact_mod_cast whole

/-- Numbers up to the greatest power of ten are rounded to finite ones. -/
theorem finite_of_le (nearest : double.Nearest number near) (less : number ≤ 10 ^ 308) : Finite near := by
  have room : ((9 : Nat) * 2 ^ (1020 : Int) : ℚ) < 2 ^ (double.lowest + double.fraction + (double.topField - 1 : Nat)) := by
    have top : double.lowest + double.fraction + (double.topField - 1 : Nat) = 4 + 1020 := by decide
    rw [top, zpow_add₀ (by norm_num)]
    exact mul_lt_mul_of_pos_right (by norm_num) (zpow_pos (by norm_num) _)
  exact nearest.finite (by decide) (by decide) (by decide) room (less.trans greatest_power)

/-- Numbers that are not too small are rounded by a small factor. -/
theorem close_of_le (nearest : double.Nearest number near) (more : 2 ^ (-1022 : Int) ≤ number) :
    Close double.grain (double.amount near) number := by
  have low : double.lowest + double.fraction = -1022 := by decide
  exact nearest.close (low ▸ more)

theorem ne_zero_of_le (nearest : double.Nearest number near) (more : 2 ^ (-1022 : Int) ≤ number) : near ≠ 0 := by
  rintro rfl
  have close := (close_of_le nearest more).ge
  have positive : (0 : ℚ) < 2 ^ (-1022 : Int) := zpow_pos (by norm_num) _
  rw [amount_zero, mul_zero] at close
  linarith

theorem one_le_normal : (2 : ℚ) ^ (-1022 : Int) ≤ 1 := zpow_le_one_of_nonpos₀ (by norm_num) (by norm_num)

/-- A whole number as it is rounded first. -/
theorem exists_ofInt {n : Nat} (filled : n ≠ 0) (few : n < 2 ^ 64) :
    ∃ magnitude, double.Nearest n magnitude ∧ Finite magnitude ∧ magnitude ≠ 0 ∧ double.ofInt n = magnitude ∧
      (n ≤ 2 ^ 53 → double.amount magnitude = n) := by
  obtain ⟨magnitude, nearest, rounded⟩ := FloatFormat.exists_ofInt fractional filled
  have least : (1 : ℚ) ≤ n := by exact_mod_cast Nat.pos_of_ne_zero filled
  -- Within 64 bits the largest finite magnitude is far away.
  have finite : Finite magnitude := by
    refine finite_of_le nearest ?_
    have : n ≤ 10 ^ 308 := few.le.trans (by decide +kernel)
    exact_mod_cast this
  refine ⟨magnitude, nearest, finite, ne_zero_of_le nearest (one_le_normal.trans least), ?_, fun exact_ => ?_⟩
  · rw [rounded, pack_of_finite finite]
  · -- Up to 53 digits the number has a magnitude of its own, and that is the nearest one.
    obtain ⟨same, denoted⟩ := exists_amount_of_le (f := double) (show double.lowest ≤ 0 by decide)
      (show n ≤ 2 * 2 ^ double.fraction from exact_)
    rw [zpow_zero, mul_one] at denoted
    rw [← denoted] at nearest ⊢
    rw [nearest.eq_of_amount]

/-- A power of ten as it is rounded. -/
theorem exists_powerOfTen {places : Nat} (few : places ≤ 308) :
    ∃ magnitude, double.Nearest (10 ^ places) magnitude ∧ Finite magnitude ∧ magnitude ≠ 0 ∧
      powerOfTen places = magnitude ∧ (places ≤ 22 → double.amount magnitude = 10 ^ places) := by
  obtain ⟨magnitude, nearest, rounded⟩ := exists_ofDecimal fractional (d := ⟨1, places⟩) Nat.one_ne_zero false
  rw [Nat.cast_one, one_mul, zpow_natCast] at nearest
  have finite : Finite magnitude := finite_of_le nearest (pow_le_pow_right₀ (by norm_num) few)
  refine ⟨magnitude, nearest, finite, ne_zero_of_le nearest (one_le_normal.trans (one_le_pow₀ (by norm_num))), ?_,
    fun small => ?_⟩
  · rw [powerOfTen, rounded, pack_of_finite finite]
  · -- The power of five has few digits, and the power of two moves them.
    have digits : 5 ^ places ≤ 2 * 2 ^ double.fraction :=
      (Nat.pow_le_pow_right (by decide) small).trans (by decide)
    obtain ⟨same, denoted⟩ := exists_amount_of_le (f := double) (show double.lowest ≤ places by
      have : double.lowest = -1074 := by decide
      omega) digits
    have power : ((5 ^ places : Nat) * 2 ^ (places : Int) : ℚ) = 10 ^ places := by
      rw [zpow_natCast, Nat.cast_pow, ← mul_pow]
      norm_num
    rw [power] at denoted
    rw [← denoted] at nearest ⊢
    rw [nearest.eq_of_amount]

/-! ### One step -/

/-- What is known about a number that is scaled: it is the nearest one to a number that is close to the exact one. -/
structure Scaled (n : Nat) (place : Int) (number : ℚ) (near : Nat) : Prop where
  nearest : double.Nearest number near
  close : Close (double.grain ^ 2) (n * 10 ^ place) number
  tight : n ≤ 2 ^ 53 → Close double.grain (n * 10 ^ place) number
  exact : n ≤ 2 ^ 53 → place.natAbs ≤ 22 → number = n * 10 ^ place

theorem scale_of_small {n : Nat} {place : Int} (small : place.natAbs ≤ maxPower) :
    scale n place =
      if 0 ≤ place then
        if double.mul (double.ofInt n) (powerOfTen place.toNat) = double.infinity false then none
        else some (double.mul (double.ofInt n) (powerOfTen place.toNat))
      else some (double.div (double.ofInt n) (powerOfTen place.natAbs)) := by
  rw [scale, scale.go]
  simp only [if_pos small]

/-- Within 308 powers of ten, there is one multiplication or division. -/
theorem exists_scaled {n : Nat} {place : Int} (filled : n ≠ 0) (few : n < 2 ^ 64) (small : place.natAbs ≤ 308) :
    ∃ number near, Scaled n place number near ∧ (Finite near → scale n place = some near) := by
  obtain ⟨a, nearest, finite, some_, whole, exact_⟩ := exists_ofInt filled few
  obtain ⟨b, nearest', finite', some', power, exact'⟩ := exists_powerOfTen small
  have one := double.one_lt_grain
  have positive : (0 : ℚ) < n := by exact_mod_cast Nat.pos_of_ne_zero filled
  have positive' : (0 : ℚ) < 10 ^ place.natAbs := by positivity
  have pos := amount_pos (f := double) some_
  have pos' := amount_pos (f := double) some'
  have least : (1 : ℚ) ≤ n := by exact_mod_cast Nat.pos_of_ne_zero filled
  -- The number and the power of ten are each rounded once, unless they are small enough to be exact.
  have first := (close_of_le nearest (one_le_normal.trans least)).symm
  have second := (close_of_le nearest' (one_le_normal.trans (one_le_pow₀ (by norm_num)))).symm
  have same (few : n ≤ 2 ^ 53) : Close 1 (n : ℚ) (double.amount a) := .of_eq le_rfl positive.le (exact_ few).symm
  have positive_grain : 0 ≤ double.grain := by linarith
  have plain : double.withSign false a = a ∧ double.withSign false b = b := ⟨rfl, rfl⟩
  rw [scale_of_small small, whole]
  -- A power that is not negative is multiplied with, and otherwise divided by.
  by_cases up : 0 ≤ place
  · have whole' : (n * 10 ^ place : ℚ) = n * 10 ^ place.natAbs := by
      rw [← zpow_natCast, Int.natAbs_of_nonneg up]
    obtain ⟨near, close, product⟩ := exists_mul fractional finite finite' some_ some'
    rw [plain.1, plain.2] at product
    refine ⟨_, near, ⟨close, ?_, fun few => ?_, fun few small => ?_⟩, fun finite => ?_⟩
    · rw [whole', pow_two]
      exact first.mul second positive pos' positive_grain pos positive'
    · rw [whole', ← one_mul double.grain]
      exact (same few).mul second positive pos' zero_le_one pos positive'
    · rw [whole', exact_ few, exact' small]
    · -- A finite product is not the infinity.
      have other : near ≠ double.infinity false := by
        rintro rfl
        have top : ¬ double.infinity false < double.topField * 2 ^ double.fraction := by decide
        exact top finite
      rw [if_pos up, show place.toNat = place.natAbs by omega, power, product,
        pack_of_finite finite, if_neg other]
  · rw [if_neg up]
    obtain ⟨near, close, quotient⟩ := exists_div fractional finite finite' some_ some'
    rw [plain.1, plain.2] at quotient
    have whole' : (n * 10 ^ place : ℚ) = n / 10 ^ place.natAbs := by
      rw [div_eq_mul_inv, ← zpow_natCast, ← zpow_neg]
      congr 2
      omega
    refine ⟨_, near, ⟨close, ?_, fun few => ?_, fun few small => ?_⟩, fun finite => ?_⟩
    · rw [whole', pow_two]
      exact first.div second positive_grain positive pos positive' pos'
    · rw [whole', ← one_mul double.grain]
      exact (same few).div second zero_le_one positive pos positive' pos'
    · rw [whole', exact_ few, exact' small]
    · rw [power, quotient, pack_of_finite finite]

/-! ### Two steps -/

/-- The greatest power of ten, rounded. -/
def greatest : Nat := 0x7FE1CCF385EBC8A0

theorem powerOfTen_maxPower : powerOfTen maxPower = greatest := by decide +kernel

/-- The digits of the greatest power of ten. -/
theorem amount_greatest : double.amount greatest = (5010420900022432 : Nat) * 2 ^ (971 : Int) := by
  have split : greatest = 2045 * 2 ^ double.fraction + 5010420900022432 := by decide +kernel
  have place : double.lowest + (2045 : Nat) = 971 := by decide
  rw [split, amount_of_digits (by decide) (by decide), place]

/-- The greatest power of ten is rounded by a tenth of the usual factor. -/
theorem close_greatest : Close (1 + 1 / 10 / (2 * 2 ^ 52)) (double.amount greatest) (10 ^ 308) := by
  -- Both sides are compared as whole numbers.
  have low : 5010420900022432 * 2 ^ 971 * (10 * 2 * 2 ^ 52) ≤ (10 * 2 * 2 ^ 52 + 1) * 10 ^ 308 := by decide +kernel
  have high : 10 ^ 308 * (10 * 2 * 2 ^ 52) ≤ (10 * 2 * 2 ^ 52 + 1) * (5010420900022432 * 2 ^ 971) := by decide +kernel
  rw [amount_greatest, zpow_ofNat]
  constructor
  · rw [show (1 + 1 / 10 / (2 * 2 ^ 52) : ℚ) = (10 * 2 * 2 ^ 52 + 1) / (10 * 2 * 2 ^ 52) by norm_num, div_mul_eq_mul_div,
      le_div_iff₀ (by norm_num)]
    exact_mod_cast low
  · rw [show (1 + 1 / 10 / (2 * 2 ^ 52) : ℚ) = (10 * 2 * 2 ^ 52 + 1) / (10 * 2 * 2 ^ 52) by norm_num, div_mul_eq_mul_div,
      le_div_iff₀ (by norm_num)]
    exact_mod_cast high

theorem grain_double : double.grain = 1 + 1 / (2 * 2 ^ 52) := rfl

/-- Three times the least number with all its digits are more than the greatest power of ten divides away. -/
theorem three_div_greatest : (2 : ℚ) ^ (-1022 : Int) ≤ 3 / double.amount greatest := by
  rw [le_div_iff₀ (amount_pos (by decide)), amount_greatest, mul_left_comm, ← zpow_add₀ (by norm_num)]
  norm_num

section

variable {n a q : Nat} (nearest : double.Nearest n a)
  (quotient : double.Nearest (double.amount a / double.amount greatest) q)

include nearest in
/-- A number with more digits than are kept is rounded within its power of two. -/
theorem exists_power (large : 2 ^ 53 < n) :
    ∃ log : Nat, 53 ≤ log ∧ 2 ^ (log : Int) ≤ double.amount a ∧ |double.amount a - n| ≤ 2 ^ ((log : Int) - 53) := by
  -- The number lies between two powers of two, and half a step there is what rounding can move it.
  have floor : (2 : ℚ) ^ (n.log2 : Int) ≤ n := by
    rw [zpow_natCast]
    exact_mod_cast Nat.log2_self_le (by omega)
  have ceiling : (n : ℚ) ≤ 2 ^ (n.log2 + 1 : Int) := by
    have : (n : ℚ) ≤ 2 ^ (n.log2 + 1) := by exact_mod_cast (Nat.lt_log2_self (n := n)).le
    rwa [← zpow_natCast] at this
  refine ⟨n.log2, (Nat.le_log2 (by omega)).2 large.le, ?_, ?_⟩
  · -- The power of two is a number with its own magnitude.
    obtain ⟨lead, same⟩ := exists_amount_of_le (f := double) (show double.lowest ≤ n.log2 by
      have : double.lowest = -1074 := by decide
      omega) (show 1 ≤ 2 * 2 ^ double.fraction by decide)
    rw [Nat.cast_one, one_mul] at same
    rw [← same] at floor ⊢
    exact amount_strictMono.monotone (nearest.ge_of_amount_le floor)
  · have bottom : double.lowest + double.fraction = -1022 := by decide
    have fraction : (double.fraction : Int) = 52 := by decide
    have away := nearest.abs_amount_sub_le_two_pow (Nat.cast_nonneg n) (n.log2 + 1) (by omega) ceiling
    rwa [show (n.log2 : Int) + 1 - double.fraction - 2 = n.log2 - 53 by omega] at away

include quotient in
/-- A quotient just below a power of two is rounded by little more than half of the usual factor. -/
theorem abs_quotient_sub_le {log : Nat} (large : 53 ≤ log) (least : 2 ^ (log : Int) ≤ double.amount a)
    (low : double.amount a < 5010420900022432 * (2 * 2 ^ ((log : Int) - 53))) :
    |double.amount q - double.amount a / double.amount greatest| ≤
      5010420900022432 / 2 ^ 106 * (double.amount a / double.amount greatest) := by
  have bottom : double.lowest + double.fraction = -1022 := by decide
  have fraction : (double.fraction : Int) = 52 := by decide
  have pos : 0 < double.amount greatest := amount_pos (by decide)
  have filled : 0 < double.amount a := (zpow_pos (by norm_num) _).trans_le least
  -- The quotient is less than a power of two that is just above it, which bounds the step of its magnitude.
  have below : double.amount a / double.amount greatest ≤ 2 ^ ((log : Int) - 1023) := by
    rw [div_le_iff₀ pos, amount_greatest, mul_left_comm, ← zpow_add₀ (by norm_num)]
    refine low.le.trans_eq ?_
    rw [← zpow_one_add₀ (by norm_num)]
    push_cast
    congr 2
    omega
  -- The greatest power of ten is known in digits, so the factor is only a power of two.
  have part : (5010420900022432 / 2 ^ 106 * (double.amount a / double.amount greatest) : ℚ) =
      double.amount a * 2 ^ (-1077 : Int) := by
    have split : (2 : ℚ) ^ (-1077 : Int) = (2 ^ 106)⁻¹ * (2 ^ (971 : Int))⁻¹ := by
      rw [← zpow_natCast 2 106, ← zpow_neg, ← zpow_neg, ← zpow_add₀ (by norm_num)]
      rfl
    have unit : (0 : ℚ) < 2 ^ (971 : Int) := zpow_pos (by norm_num) _
    rw [amount_greatest, split]
    generalize (2 : ℚ) ^ (971 : Int) = unit at *
    push_cast
    field_simp
  refine (quotient.abs_amount_sub_le_two_pow (div_pos filled pos).le (log - 1023) (by omega) below).trans ?_
  rw [part, show (log : Int) - 1023 - double.fraction - 2 = log + -1077 by omega, zpow_add₀ (by norm_num)]
  exact mul_le_mul_of_nonneg_right least (zpow_pos (by norm_num) _).le

include nearest quotient in
/-- The first of two steps, a division by the greatest power of ten. -/
theorem close_first (most : 3 ≤ n) (whole : n ≤ 2 ^ 53 → double.amount a = n) :
    Close (double.grain ^ 2) (double.amount q) (n / 10 ^ 308) := by
  have one := double.one_lt_grain
  have grain_pos : 0 ≤ double.grain := by linarith
  have least : (3 : ℚ) ≤ n := by exact_mod_cast most
  have pos : 0 < double.amount greatest := amount_pos (by decide)
  have filled : 0 < double.amount a := amount_pos (ne_zero_of_le nearest (one_le_normal.trans (by linarith)))
  -- The dividend is a little off, the divisor a tenth of that, and the quotient is rounded once more.
  have combine {first second : ℚ} (dividend : Close first (double.amount a) n)
      (result : Close second (double.amount q) (double.amount a / double.amount greatest)) (low : 0 ≤ first)
      (low' : 0 ≤ second) (total : second * (first * (1 + 1 / 10 / (2 * 2 ^ 52))) ≤ double.grain ^ 2)
      (some_ : 0 < double.amount q) : Close (double.grain ^ 2) (double.amount q) (n / 10 ^ 308) := by
    have divided := dividend.div close_greatest low filled (by linarith) pos (by positivity)
    exact (result.trans divided low' (by positivity)).mono some_.le (by positivity) total
  have normal (enough : 3 ≤ double.amount a) :
      Close double.grain (double.amount q) (double.amount a / double.amount greatest) ∧ 0 < double.amount q := by
    have above := three_div_greatest.trans (div_le_div_of_nonneg_right enough pos.le)
    exact ⟨close_of_le quotient above, amount_pos (ne_zero_of_le quotient above)⟩
  by_cases few : n ≤ 2 ^ 53
  · -- The dividend is exact.
    have same := whole few
    obtain ⟨result, some_⟩ := normal (same ▸ least)
    refine combine (.of_eq le_rfl filled.le same) result zero_le_one grain_pos ?_ some_
    rw [grain_double]
    norm_num
  · obtain ⟨log, large, atLeast, away⟩ := exists_power nearest (Nat.lt_of_not_le few)
    have enough : (3 : ℚ) ≤ double.amount a := by
      refine le_trans ?_ atLeast
      rw [zpow_natCast]
      exact_mod_cast (show 3 ≤ 2 ^ 53 by decide).trans (Nat.pow_le_pow_right (by decide) large)
    obtain ⟨result, some_⟩ := normal enough
    by_cases low : double.amount a < 5010420900022432 * (2 * 2 ^ ((log : Int) - 53))
    · -- What the dividend takes is left over by the quotient.
      have near := abs_quotient_sub_le quotient large atLeast low
      refine combine (close_of_le nearest (one_le_normal.trans (by linarith)))
        (.of_abs_sub_le (by norm_num) (div_pos filled pos).le near) grain_pos (by norm_num) ?_ some_
      rw [grain_double]
      norm_num
    · -- Well above the power of two, the dividend is rounded by less than the usual factor.
      have near : |double.amount a - n| ≤ 1 / (2 * 5010420900022432 - 1) * n := by
        refine away.trans ?_
        rw [div_mul_eq_mul_div, one_mul, le_div_iff₀ (by norm_num)]
        have := (abs_le.1 away).2
        linarith
      refine combine (.of_abs_sub_le (by norm_num) (by linarith) near) result (by norm_num) grain_pos ?_ some_
      rw [grain_double]
      norm_num

end

theorem scale_of_large {n : Nat} {place : Int} (low : place < -308) (high : -616 < place) (filled : double.ofInt n ≠ 0) :
    scale n place =
      some (double.div (double.div (double.ofInt n) (powerOfTen maxPower)) (powerOfTen (place + 308).natAbs)) := by
  -- The loop divides by the greatest power once, and the rest is within reach then.
  have fuel : place.natAbs / maxPower + 1 = 2 := by
    have : place.natAbs / 308 = 1 := by omega
    rw [maxPower, this]
  have far : ¬ place.natAbs ≤ maxPower := by
    unfold maxPower
    omega
  have near : (place + (maxPower : Nat)).natAbs ≤ maxPower := by
    unfold maxPower
    omega
  have down : ¬ 0 ≤ place + (maxPower : Nat) := by
    unfold maxPower
    omega
  rw [scale, fuel, scale.go]
  simp only [if_neg far, if_neg filled, if_neg (show ¬ 0 ≤ place by omega)]
  rw [scale.go]
  simp only [if_pos near, if_neg down]
  rfl

/-- Tiny numbers are divided twice, first by the greatest power of ten and then by one that is exact. -/
theorem exists_scaled_tiny {n : Nat} {place : Int} (most : 3 ≤ n) (few : n < 2 ^ 64) (low : place < -308)
    (high : -330 ≤ place) :
    ∃ number near, double.Nearest number near ∧ Close (double.grain ^ 2) (n * 10 ^ place) number ∧
      scale n place = some near := by
  obtain ⟨a, nearest, finite, some_, whole, exact_⟩ := exists_ofInt (by omega) few
  have rest : (place + 308).natAbs ≤ 22 := by omega
  obtain ⟨b, -, finite', some', power, exact'⟩ := exists_powerOfTen (rest.trans (by decide))
  have greatest_finite : Finite greatest := by
    show greatest < double.topField * 2 ^ double.fraction
    decide
  obtain ⟨q, quotient, first⟩ := exists_div fractional finite greatest_finite some_ (by decide)
  have close := close_first nearest quotient most exact_
  have positive : (0 : ℚ) < n := by exact_mod_cast (show 0 < n by omega)
  -- Divisions make numbers smaller, so all of them are finite.
  have smaller {divisor : ℚ} {before after : Nat} (nearest : double.Nearest (double.amount before / divisor) after)
      (large : 1 ≤ divisor) (finite : Finite before) : Finite after :=
    (nearest.le_of_le_amount (div_le_self (double.amount_nonneg before) large)).trans_lt finite
  have large : 1 ≤ double.amount greatest := by
    rw [amount_greatest]
    exact one_le_mul_of_one_le_of_one_le (by norm_num) (one_le_zpow₀ (by norm_num) (by norm_num))
  have finite_q : Finite q := smaller quotient large finite
  have some_q : q ≠ 0 := by
    rintro rfl
    have below := close.ge
    rw [amount_zero, mul_zero] at below
    exact absurd below (not_le.2 (by positivity))
  obtain ⟨near, final, second⟩ := exists_div fractional finite_q finite' some_q some'
  rw [exact' rest] at final
  have plain (m : Nat) : double.withSign false m = m := rfl
  rw [plain, plain, pack_of_finite finite_q] at first
  rw [plain, plain, pack_of_finite (smaller final (one_le_pow₀ (by norm_num)) finite_q)] at second
  have split : (n * 10 ^ place : ℚ) = n / 10 ^ 308 / 10 ^ (place + 308).natAbs := by
    rw [div_div, ← pow_add, div_eq_mul_inv, ← zpow_natCast, ← zpow_neg]
    congr 2
    omega
  refine ⟨_, near, final, ?_, ?_⟩
  · rw [split, ← mul_one (double.grain ^ 2)]
    exact close.symm.div (.of_eq le_rfl (by positivity) rfl) (by positivity) (by positivity)
      (amount_pos some_q) (by positivity) (by positivity)
  · rw [scale_of_large low (by omega) (by rwa [whole]), whole, powerOfTen_maxPower, first, power, second]

end

end WasmHost.Json
