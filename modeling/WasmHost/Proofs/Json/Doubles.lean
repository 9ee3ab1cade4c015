import WasmHost.Proofs.Json.Reader
import WasmHost.Proofs.Json.Scale

/-! Numbers of 64 bits come back from their text within two magnitudes, and as they were if their digits are few and the
power of ten is small. -/

namespace WasmHost.Json

open FloatFormat

/-! ### What is written -/

/-- The decimal number that is read for a magnitude. -/
def printed (f : FloatFormat) (wide magnitude : Nat) : Decimal :=
  Written.gathered wide (.shortest f (f.significand magnitude) (f.place magnitude))

/-- The place of a finite magnitude is that of a field. -/
theorem place_bounds {f : FloatFormat} {magnitude : Nat} (finite : magnitude < f.topField * 2 ^ f.fraction) :
    f.lowest ≤ f.place magnitude ∧ f.place magnitude ≤ f.lowest + (f.topField - 2 : Nat) := by
  have field : magnitude / 2 ^ f.fraction < f.topField := (Nat.div_lt_iff_lt_mul (Nat.two_pow_pos _)).2 finite
  unfold place
  omega

/-- A number that is not zero is at least the least one. -/
theorem two_pow_lowest_le {f : FloatFormat} (lower : Nat) : (2 : ℚ) ^ f.lowest ≤ f.amount (lower + 1) := by
  have least : f.amount 1 = 2 ^ f.lowest := by
    have := f.amount_succ 0
    rw [amount_zero, zero_add] at this
    rw [this, step, place]
    simp
  rw [← least]
  exact amount_strictMono.monotone (by omega)

/-- What is known about the number that is read for a magnitude. -/
structure Printed (f : FloatFormat) (magnitude : Nat) (d : Decimal) : Prop where
  nearest : f.Nearest (d.digits * 10 ^ d.exponent) magnitude
  filled : d.digits ≠ 0

/-- What is found on a grid is read, with its zeros moved. -/
theorem printed_of_digits {f : FloatFormat} {lower : Nat} {above : Int} {count n : Nat} (wide : Nat)
    (digits : Decimal.Digits f (lower + 1) above count n)
    (whole : Decimal.shortest f (f.significand (lower + 1)) (f.place (lower + 1)) = .trim 20 ⟨n, above - count⟩) :
    Printed f (lower + 1) (printed f wide (lower + 1)) ∧
      ((printed f wide (lower + 1)).digits ≤ 10 ^ count ∨ (printed f wide (lower + 1)).digits ≤ 10 ^ (wide + 1)) ∧
      ((printed f wide (lower + 1)).exponent = -1 ∨ (above - count ≤ (printed f wide (lower + 1)).exponent ∧
        (printed f wide (lower + 1)).exponent ≤ above - count + 20)) ∧
      ((printed f wide (lower + 1)).digits * 10 ^ (printed f wide (lower + 1)).exponent : ℚ) =
        n * 10 ^ (above - count : Int) := by
  -- Trimming moves zeros into the exponent, and gathering moves some of them back.
  obtain ⟨fewer, low, high⟩ := Decimal.digits_trim_le 20 ⟨n, above - count⟩
  have amount : ((printed f wide (lower + 1)).digits * 10 ^ (printed f wide (lower + 1)).exponent : ℚ) =
      n * 10 ^ (above - count : Int) :=
    (Written.amount_gathered wide _).trans (whole ▸ Decimal.amount_trim 20 ⟨n, above - count⟩)
  refine ⟨⟨amount ▸ digits.next.nearest, ?_⟩, ?_, ?_, amount⟩
  · -- Without digits the number would be zero.
    intro none
    have zero := amount
    rw [none, Nat.cast_zero, zero_mul, eq_comm, mul_eq_zero] at zero
    rcases zero with zero | zero
    · exact digits.filled (by exact_mod_cast zero)
    · exact absurd zero (zpow_ne_zero _ (by norm_num))
  · refine Written.gathered_le ?_
    rw [whole]
    exact fewer.trans digits.most
  · unfold printed Written.gathered
    rw [whole]
    split_ifs
    · exact .inl rfl
    · exact .inr ⟨low, high⟩

/-- Half of the least step is more than some power of ten. -/
theorem ten_pow_lt : (10 : ℚ) ^ (-324 : Int) < 2 ^ (-1074 : Int) / 2 := by
  have whole : 2 ^ 1074 * 2 < 10 ^ 324 := by decide +kernel
  rw [zpow_neg, zpow_neg, zpow_ofNat, zpow_ofNat, div_eq_mul_inv, ← mul_inv]
  exact inv_strictAnti₀ (by positivity) (by exact_mod_cast whole)

/-- Finite numbers are less than some power of ten. -/
theorem halfway_lt {magnitude : Nat} (finite : Finite magnitude) : double.halfway magnitude < 10 ^ (309 : Int) := by
  have top : double.topField * 2 ^ double.fraction = 2046 * 2 ^ double.fraction + 2 ^ double.fraction := by decide
  have weight : double.lowest + double.fraction + (2046 : Nat) = 1024 := by decide
  -- The next magnitude is at most the first that is not finite, which is a power of two.
  have most : double.amount (magnitude + 1) ≤ 2 ^ (1024 : Int) := by
    rw [← weight, ← amount_lead, ← top]
    exact amount_strictMono.monotone finite
  have whole : 2 ^ 1024 < 10 ^ 309 := by decide +kernel
  have power : (2 : ℚ) ^ (1024 : Int) < 10 ^ (309 : Int) := by
    rw [zpow_ofNat, zpow_ofNat]
    exact_mod_cast whole
  exact (double.halfway_lt_amount_succ magnitude).trans (most.trans_lt power)

theorem exists_printed_double {lower : Nat} (finite : Finite (lower + 1)) :
    Printed double (lower + 1) (printed double 16 (lower + 1)) ∧ (printed double 16 (lower + 1)).digits < 2 ^ 64 ∧
      -324 ≤ (printed double 16 (lower + 1)).exponent ∧ (printed double 16 (lower + 1)).exponent ≤ 308 := by
  have lowest : double.lowest = -1074 := by decide
  have bounds := place_bounds finite
  have fraction : (double.fraction : Int) = 52 := by decide
  have top : ((double.topField - 2 : Nat) : Int) = 2045 := by decide
  obtain ⟨above, count, n, digits, whole⟩ := @Decimal.exists_shortest double lower fractional (by decide)
    (by omega) (by omega)
  obtain ⟨printed, few, place, amount⟩ := printed_of_digits 16 digits whole
  have short : count ≤ 18 := digits.first 18 (by decide) (Decimal.fine_of_lt digits.low (by decide) (by decide))
  -- The least number is more than a power of ten that is less than half a step.
  have bottom : -324 < above := by
    have least := two_pow_lowest_le (f := double) lower
    have unit : (0 : ℚ) < 2 ^ (-1074 : Int) := zpow_pos (by norm_num) _
    rw [lowest] at least
    refine (zpow_lt_zpow_iff_right₀ (show (1 : ℚ) < 10 by norm_num)).1 ?_
    linarith [ten_pow_lt, digits.high]
  have counted : count ≤ (above + 324).toNat := by
    refine digits.first (above + 324).toNat (by omega) ?_
    rw [show above - ((above + 324).toNat : Int) = -324 by omega]
    refine ten_pow_lt.trans_le (div_le_div_of_nonneg_right ?_ (by norm_num))
    exact zpow_le_zpow_right₀ (by norm_num) (lowest ▸ bounds.1)
  refine ⟨printed, ?_, by omega, ?_⟩
  · have size := Nat.pow_le_pow_right (show 0 < 10 by decide) short
    have room : 10 ^ 18 < 2 ^ 64 := by decide
    have room' : 10 ^ (16 + 1) < 2 ^ 64 := by decide
    omega
  · -- Whole numbers with a larger power of ten are not finite.
    by_contra! large
    have most := printed.nearest.le_halfway
    have least : (10 : ℚ) ^ (309 : Int) ≤ (Json.printed double 16 (lower + 1)).digits *
        10 ^ (Json.printed double 16 (lower + 1)).exponent := by
      refine (zpow_le_zpow_right₀ (by norm_num) large).trans (le_mul_of_one_le_left (zpow_pos (by norm_num) _).le ?_)
      exact_mod_cast Nat.pos_of_ne_zero printed.filled
    linarith [halfway_lt finite]

/-! ### What comes back -/

/-- The greatest two numbers are scaled to finite ones all the same. -/
theorem scale_of_greatest :
    (printed double 16 0x7FEFFFFFFFFFFFFF = ⟨17976931348623157, 292⟩ ∧
      scale 17976931348623157 292 = some 0x7FEFFFFFFFFFFFFF) ∧
    printed double 16 0x7FEFFFFFFFFFFFFE = ⟨17976931348623155, 292⟩ ∧
      scale 17976931348623155 292 = some 0x7FEFFFFFFFFFFFFF := by
  decide +kernel

/-- The digits that the first of two steps takes below the numbers with all their digits. -/
theorem scale_of_least : ((List.range 16).all fun i => (List.range 3).all fun n =>
    n = 0 || (scale n (-(309 + i : Nat))).any fun near =>
      near ≤ double.ofDecimal false ⟨n, -(309 + i : Nat)⟩ + 2 &&
        double.ofDecimal false ⟨n, -(309 + i : Nat)⟩ ≤ near + 2) = true := by
  decide +kernel

/-- Digits that fit into a number of 64 bits, and a power of ten that fits as well. -/
def Plain (d : Decimal) : Prop := d.digits ≤ 2 ^ 53 ∧ d.exponent.natAbs ≤ 22

/-- What comes back for a magnitude of 64 bits. -/
structure Comes (magnitude near : Nat) : Prop where
  le : near ≤ magnitude + 2
  ge : magnitude ≤ near + 2
  exact : magnitude = 0 ∨ Plain (printed double 16 magnitude) → near = magnitude

theorem exists_scale_least {lower n : Nat} {place : Int} (finite : Finite (lower + 1)) (some_ : n ≠ 0) (few : n < 3)
    (low : -324 ≤ place) (high : place < -308) (nearest : double.Nearest (n * 10 ^ place) (lower + 1)) :
    ∃ near, scale n place = some near ∧ near ≤ lower + 1 + 2 ∧ lower + 1 ≤ near + 2 := by
  obtain ⟨i, rfl⟩ : ∃ i : Nat, place = -(309 + i : Nat) := ⟨(-place - 309).toNat, by omega⟩
  have checked := List.all_eq_true.1 (List.all_eq_true.1 scale_of_least i (List.mem_range.2 (by omega))) n
    (List.mem_range.2 few)
  -- The magnitude is the one that is computed for the digits.
  obtain ⟨same, nearest', rounded⟩ := exists_ofDecimal fractional (d := ⟨n, -(309 + i : Nat)⟩) some_ false
  obtain rfl := nearest.eq nearest'
  rw [pack_of_finite finite] at rounded
  rw [rounded] at checked
  simp only [some_, decide_false, Bool.false_or, Option.any_eq_true, Bool.and_eq_true, decide_eq_true_eq] at checked
  exact checked

/-- Numbers of 64 bits come back within two magnitudes, and those with few digits and small powers as they were. -/
theorem exists_scale_double {lower : Nat} (finite : Finite (lower + 1)) :
    ∃ near, scale (printed double 16 (lower + 1)).digits (printed double 16 (lower + 1)).exponent = some near ∧
      Finite near ∧ Comes (lower + 1) near := by
  have limit : double.topField * 2 ^ double.fraction = 9218868437227405312 := by decide
  by_cases greatest : 9218868437227405310 ≤ lower + 1
  · -- Next to the greatest number there might be none to come back.
    obtain ⟨first, second⟩ := scale_of_greatest
    have cases : lower + 1 = 9218868437227405311 ∨ lower + 1 = 9218868437227405310 := by
      unfold Finite at finite
      omega
    rcases cases with same | same
    · rw [same, first.1]
      refine ⟨_, first.2, ?_, by decide, by decide, ?_⟩
      · unfold Finite
        omega
      · rw [first.1]
        exact fun plain => absurd (plain.resolve_left (by decide)).1 (by decide)
    · rw [same, second.1]
      refine ⟨_, second.2, ?_, by decide, by decide, ?_⟩
      · unfold Finite
        omega
      · rw [second.1]
        exact fun plain => absurd (plain.resolve_left (by decide)).1 (by decide)
  obtain ⟨⟨nearest, filled⟩, few, low, high⟩ := exists_printed_double finite
  have finite_of_le {near : Nat} (close : near ≤ lower + 1 + 2) : Finite near := by
    unfold Finite
    omega
  by_cases small : (printed double 16 (lower + 1)).exponent.natAbs ≤ 308
  · -- In one step, the factor of the scaled number and that of the exact one are two roundings apart.
    obtain ⟨number, near, scaled, result⟩ := exists_scaled filled few small
    have le := nearest.le_add_two scaled.nearest scaled.close
    refine ⟨near, result (finite_of_le le), finite_of_le le, le,
      scaled.nearest.le_add_two nearest scaled.close.symm, fun plain => ?_⟩
    obtain ⟨whole, power⟩ := plain.resolve_left (Nat.succ_ne_zero lower)
    rw [scaled.exact whole power] at scaled
    exact scaled.nearest.eq nearest
  · -- In two steps, another rounding comes in between; and few digits are looked up.
    have tiny : (printed double 16 (lower + 1)).exponent < -308 := by omega
    have large : ¬ (lower + 1 = 0 ∨ Plain (printed double 16 (lower + 1))) := by
      rintro (zero | ⟨-, power⟩)
      · exact Nat.succ_ne_zero lower zero
      · omega
    by_cases least : 3 ≤ (printed double 16 (lower + 1)).digits
    · obtain ⟨number, near, nearest', close, result⟩ := exists_scaled_tiny least few tiny (by omega)
      have le := nearest.le_add_two nearest' close
      exact ⟨near, result, finite_of_le le, le, nearest'.le_add_two nearest close.symm,
        fun plain => absurd plain large⟩
    · obtain ⟨near, result, le, ge⟩ := exists_scale_least finite filled (by omega) low tiny nearest
      exact ⟨near, result, finite_of_le le, le, ge, fun plain => absurd plain large⟩

/-- What is read for a finite number, wherever its text turns to exponents. -/
theorem value_shortest {f : FloatFormat} {wide deep magnitude : Nat} {negative : Bool} (narrow : wide ≤ 1000)
    (few : (printed f wide magnitude).digits < 2 ^ 64) (near : (printed f wide magnitude).exponent.natAbs ≤ 1000) :
    (Written.ofDecimal wide deep negative (.shortest f (f.significand magnitude) (f.place magnitude))).numeral.value =
      signed negative (scale (printed f wide magnitude).digits (printed f wide magnitude).exponent) := by
  have limit : significandLimit = 2 ^ 64 - 1 := by decide
  refine Written.value_ofDecimal Decimal.exponent_of_shortest (by rw [limit]; exact Nat.le_pred_of_lt few) ?_
  -- The exponent that is read is the one that was found, unless zeros were written out.
  rcases Written.exponent_gathered wide (.shortest f (f.significand magnitude) (f.place magnitude)) with small | same
  · omega
  · rwa [← same]

theorem value_zero {wide deep : Nat} (negative : Bool) (narrow : 1 ≤ wide) :
    (Written.ofDecimal wide deep negative ⟨0, 0⟩).numeral.value = .double (double.withSign negative 0) := by
  -- Zero is written with one digit behind the point.
  have gathered : Written.gathered wide ⟨0, 0⟩ = ⟨0, -1⟩ := by
    unfold Written.gathered
    rw [if_pos ⟨Int.le_refl 0, by simpa using narrow⟩]
    rfl
  have scaled : scale 0 (-1) = some 0 := by decide +kernel
  rw [Written.value_ofDecimal (fun _ => rfl), gathered]
  · dsimp only
    rw [scaled]
    rfl
  · rw [gathered]
    exact Nat.zero_le _
  · exact Nat.zero_le _

/-- Numbers of 64 bits that are written come back with their sign. -/
theorem exists_floatValue_double {magnitude : Nat} (finite : Finite magnitude) (negative : Bool) :
    ∃ near, floatValue .double (double.withSign negative magnitude) = .double (double.withSign negative near) ∧
      Finite near ∧ Comes magnitude near := by
  unfold floatValue
  rw [decode_withSign finite, if_neg (by decide)]
  dsimp only
  -- Zero is written without its digits being looked for.
  cases magnitude with
  | zero =>
    refine ⟨0, ?_, finite, by decide, by decide, fun _ => rfl⟩
    rw [if_pos (by decide), value_zero negative (by decide)]
  | succ lower =>
    obtain ⟨near, scaled, finite', comes⟩ := exists_scale_double finite
    obtain ⟨-, few, low, high⟩ := exists_printed_double finite
    refine ⟨near, ?_, finite', comes⟩
    rw [if_neg (significand_ne_zero (Nat.succ_ne_zero lower)), value_shortest (by decide) few (by omega), scaled]
    rfl

end WasmHost.Json
