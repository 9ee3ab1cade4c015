import Mathlib.Algebra.Order.Field.Basic
import Mathlib.Tactic.FieldSimp
import Mathlib.Tactic.Positivity
import WasmHost.Proofs.Number.Magnitude

/-! How far rounding takes a number: by half a step at most, and for numbers with all their digits by a small factor.
Factors of several roundings multiply, and numbers that are a small factor apart are rounded to magnitudes that are a
few steps apart. -/

namespace WasmHost

/-- Two numbers that are apart by a factor. -/
structure Close (factor x y : ℚ) : Prop where
  le : x ≤ factor * y
  ge : y ≤ factor * x

namespace Close

variable {factor other x y z w : ℚ}

theorem of_eq (more : 1 ≤ factor) (positive : 0 ≤ x) (same : x = y) : Close factor x y := by
  subst same
  have := le_mul_of_one_le_left positive more
  exact ⟨this, this⟩

/-- A bound for the distance is a bound for the factor. -/
theorem of_abs_sub_le {part : ℚ} (small : part < 1) (positive : 0 ≤ y) (near : |x - y| ≤ part * y) :
    Close (1 - part)⁻¹ x y := by
  obtain ⟨low, high⟩ := abs_le.1 near
  have room : 0 < 1 - part := by linarith
  constructor
  · -- The inverse is at least as much above one as the part.
    rw [← div_eq_inv_mul, le_div_iff₀ room]
    nlinarith [mul_nonneg (mul_self_nonneg part) positive]
  · rw [← div_eq_inv_mul, le_div_iff₀ room]
    linarith

theorem symm (close : Close factor x y) : Close factor y x := ⟨close.ge, close.le⟩

theorem mono (close : Close factor x y) (first : 0 ≤ x) (second : 0 ≤ y) (wider : factor ≤ other) :
    Close other x y :=
  ⟨close.le.trans (mul_le_mul_of_nonneg_right wider second), close.ge.trans (mul_le_mul_of_nonneg_right wider first)⟩

theorem trans (first : Close factor x y) (second : Close other y z) (positive : 0 ≤ factor) (positive' : 0 ≤ other) :
    Close (factor * other) x z where
  le := by
    have := mul_le_mul_of_nonneg_left second.le positive
    linarith [first.le]
  ge := by
    have := mul_le_mul_of_nonneg_left first.ge positive'
    linarith [second.ge]

theorem mul (first : Close factor x y) (second : Close other z w) (positive : 0 < x) (positive' : 0 < w)
    (least : 0 ≤ factor) (left : 0 < y) (right : 0 < z) :
    Close (factor * other) (x * z) (y * w) where
  -- Factors multiply, as all numbers are positive.
  le := by
    calc x * z ≤ factor * y * (other * w) := mul_le_mul first.le second.le right.le (mul_nonneg least left.le)
      _ = factor * other * (y * w) := by ring
  ge := by
    calc y * w ≤ factor * x * (other * z) := mul_le_mul first.ge second.ge positive'.le (mul_nonneg least positive.le)
      _ = factor * other * (x * z) := by ring

theorem inv (close : Close factor x y) (first : 0 < x) (second : 0 < y) : Close factor x⁻¹ y⁻¹ := by
  -- The inverse of the larger number is the smaller one.
  constructor
  · rw [← div_eq_mul_inv, inv_eq_one_div, div_le_div_iff₀ first second]
    linarith [close.ge]
  · rw [← div_eq_mul_inv, inv_eq_one_div, div_le_div_iff₀ second first]
    linarith [close.le]

theorem div (first : Close factor x y) (second : Close other z w) (least : 0 ≤ factor)
    (a : 0 < x) (b : 0 < y) (c : 0 < z) (d : 0 < w) : Close (factor * other) (x / z) (y / w) := by
  rw [div_eq_mul_inv, div_eq_mul_inv]
  exact first.mul (second.inv c d) a (inv_pos.2 d) least b (inv_pos.2 c)

end Close

namespace FloatFormat

variable {f : FloatFormat}

/-- The factor by which rounding takes a number at most. -/
def grain (f : FloatFormat) : ℚ := 1 + 1 / (2 * 2 ^ f.fraction)

theorem one_lt_grain (f : FloatFormat) : 1 < f.grain := by
  have : (0 : ℚ) < 1 / (2 * 2 ^ f.fraction) := by positivity
  unfold grain
  linarith

theorem amount_zero (f : FloatFormat) : f.amount 0 = 0 := by simp [amount, significand]

theorem amount_pos {magnitude : Nat} (filled : magnitude ≠ 0) : 0 < f.amount magnitude := by
  rw [← f.amount_zero]
  exact amount_strictMono (Nat.pos_of_ne_zero filled)

theorem amount_nonneg (f : FloatFormat) (magnitude : Nat) : 0 ≤ f.amount magnitude := by
  rw [← f.amount_zero]
  exact amount_strictMono.monotone (Nat.zero_le magnitude)

/-- Digits that fit count at every place that is not too low. -/
theorem exists_amount (f : FloatFormat) (places : Nat) :
    ∀ digits : Nat, digits ≤ 2 * 2 ^ f.fraction →
      ∃ magnitude, f.amount magnitude = digits * 2 ^ (f.lowest + places) := by
  -- Where the leading one is missing, the digits move up until it is there or the place is the lowest one.
  induction places with
  | zero =>
    intro digits few
    exact ⟨_, amount_of_digits (.inl rfl) few⟩
  | succ places ih =>
    intro digits few
    by_cases lead : 2 ^ f.fraction ≤ digits
    · exact ⟨_, amount_of_digits (.inr lead) few⟩
    · obtain ⟨magnitude, same⟩ := ih (2 * digits) (by omega)
      refine ⟨magnitude, ?_⟩
      rw [same]
      push_cast
      rw [← add_assoc, zpow_add_one₀ (by norm_num)]
      ring

theorem exists_amount_of_le {place : Int} (low : f.lowest ≤ place) {digits : Nat} (few : digits ≤ 2 * 2 ^ f.fraction) :
    ∃ magnitude, f.amount magnitude = digits * 2 ^ place := by
  obtain ⟨magnitude, same⟩ := f.exists_amount (place - f.lowest).toNat digits few
  refine ⟨magnitude, ?_⟩
  rw [same, show f.lowest + (place - f.lowest).toNat = place by omega]

/-- The least numbers of the places are powers of two. -/
theorem amount_lead (f : FloatFormat) (places : Nat) :
    f.amount (places * 2 ^ f.fraction + 2 ^ f.fraction) = 2 ^ (f.lowest + f.fraction + places) := by
  have positive : 0 < 2 ^ f.fraction := Nat.two_pow_pos _
  rw [amount_of_digits (.inr (Nat.le_refl _)) (by omega), Nat.cast_pow, Nat.cast_ofNat, ← zpow_natCast,
    ← zpow_add₀ (by norm_num)]
  congr 1
  omega

/-- A step is a small part of a number with all its digits. -/
theorem step_le {magnitude : Nat} (normal : 2 ^ f.fraction ≤ magnitude) :
    2 ^ f.fraction * f.step magnitude ≤ f.amount magnitude := by
  obtain ⟨places, digits, rfl, lead, few⟩ := f.exists_digits magnitude
  -- Above the lowest place there is a leading digit, and here there is one at the lowest, too.
  have enough : (2 : ℚ) ^ f.fraction ≤ digits := by
    have : 2 ^ f.fraction ≤ digits := by
      rcases lead with rfl | lead
      · omega
      · exact lead
    exact_mod_cast this
  rw [amount_of_digits lead few.le, step_of_digits lead few]
  exact mul_le_mul_of_nonneg_right enough (zpow_pos (by norm_num) _).le

namespace Nearest

variable {number other : ℚ} {magnitude near : Nat}

/-- Up to a magnitude, rounding is off by half the step before it at most. -/
theorem abs_amount_sub_le (nearest : f.Nearest number near) (positive : 0 ≤ number)
    (less : number ≤ f.amount (magnitude + 1)) : |f.amount near - number| ≤ f.step magnitude / 2 := by
  have few := nearest.le_of_le_amount less
  have := f.step_pos magnitude
  rw [abs_le]
  constructor
  · -- Upwards there is at most half the step of the nearest magnitude, or nothing at the very end.
    rcases few.lt_or_eq with inside | rfl
    · have stop := nearest.le_halfway
      have grows := step_mono (f := f) (show near ≤ magnitude by omega)
      unfold halfway at stop
      linarith
    · linarith
  · -- Downwards there is at most half the step that leads to the nearest magnitude.
    cases near with
    | zero =>
      rw [amount_zero]
      linarith
    | succ lower =>
      have start := nearest.halfway_le
      have grows := step_mono (f := f) (show lower ≤ magnitude by omega)
      have next := f.amount_succ lower
      unfold halfway at start
      linarith

/-- Up to a power of two, rounding is off by a part of it. -/
theorem abs_amount_sub_le_two_pow (nearest : f.Nearest number near) (positive : 0 ≤ number) (exponent : Int)
    (low : f.lowest + f.fraction < exponent) (less : number ≤ 2 ^ exponent) :
    |f.amount near - number| ≤ 2 ^ (exponent - f.fraction - 2) := by
  obtain ⟨places, rfl⟩ : ∃ places : Nat, exponent = f.lowest + f.fraction + (places + 1 : Nat) :=
    ⟨(exponent - f.lowest - f.fraction - 1).toNat, by omega⟩
  -- The magnitude before the power of two has the last digits of its place.
  have some_ : 0 < 2 ^ f.fraction := Nat.two_pow_pos _
  have last : places * 2 ^ f.fraction + (2 * 2 ^ f.fraction - 1) + 1 = (places + 1) * 2 ^ f.fraction + 2 ^ f.fraction := by
    rw [Nat.add_mul]
    omega
  have bound := nearest.abs_amount_sub_le positive (last ▸ (f.amount_lead (places + 1)).symm ▸ less)
  rw [step_of_digits (by omega) (by omega)] at bound
  refine bound.trans_eq ?_
  rw [div_eq_mul_inv, ← zpow_neg_one, ← zpow_add₀ (by norm_num)]
  congr 1
  push_cast
  omega

/-- Numbers below the reserved field are rounded to finite ones. -/
theorem finite (nearest : f.Nearest number near) (fielded : f.topField ≠ 0) {digits : Nat} {place : Int}
    (low : f.lowest ≤ place) (few : digits ≤ 2 * 2 ^ f.fraction)
    (small : (digits * 2 ^ place : ℚ) < 2 ^ (f.lowest + f.fraction + (f.topField - 1 : Nat)))
    (less : number ≤ digits * 2 ^ place) : near < f.topField * 2 ^ f.fraction := by
  obtain ⟨magnitude, same⟩ := exists_amount_of_le low few
  -- The reserved field begins one place above the greatest finite one.
  have top : f.topField * 2 ^ f.fraction = (f.topField - 1) * 2 ^ f.fraction + 2 ^ f.fraction := by
    rw [← Nat.succ_mul, Nat.succ_eq_add_one, Nat.sub_add_cancel (Nat.pos_of_ne_zero fielded)]
  refine (nearest.le_of_le_amount (less.trans_eq same.symm)).trans_lt ?_
  rwa [← amount_strictMono (f := f) |>.lt_iff_lt, same, top, amount_lead]

/-- A number with all its digits is rounded by a small factor. -/
theorem close (nearest : f.Nearest number near) (normal : 2 ^ (f.lowest + f.fraction) ≤ number) :
    Close f.grain (f.amount near) number := by
  have width : (0 : ℚ) < 2 ^ f.fraction := by positivity
  have lead : f.amount (2 ^ f.fraction) = 2 ^ (f.lowest + f.fraction) := by simpa using f.amount_lead 0
  rw [← lead] at normal
  have most := nearest.ge_of_amount_le normal
  constructor
  · rcases most.lt_or_eq with more | rfl
    · -- The number is above the middle before the magnitude, and half a step is a small part of that.
      obtain ⟨lower, rfl⟩ := Nat.exists_eq_succ_of_ne_zero (Nat.ne_zero_of_lt more)
      have start := nearest.halfway_le
      have small := step_le (show 2 ^ f.fraction ≤ lower from Nat.le_of_lt_succ more)
      have := f.step_pos lower
      have part : f.step lower / 2 ≤ 1 / (2 * 2 ^ f.fraction) * number := by
        rw [one_div, ← div_eq_inv_mul, le_div_iff₀ (by positivity)]
        unfold halfway at start
        linarith
      unfold halfway at start
      rw [grain, amount_succ]
      linarith
    · have : 0 < f.amount (2 ^ f.fraction) := amount_pos (Nat.two_pow_pos _).ne'
      exact normal.trans (le_mul_of_one_le_left (this.le.trans normal) f.one_lt_grain.le)
  · -- The number is below the middle above the magnitude.
    have stop := nearest.le_halfway
    have small := step_le most
    have part : f.step near / 2 ≤ 1 / (2 * 2 ^ f.fraction) * f.amount near := by
      rw [one_div, ← div_eq_inv_mul, le_div_iff₀ (by positivity)]
      linarith
    unfold halfway at stop
    rw [grain]
    linarith

/-- Numbers that are two such factors apart are rounded to magnitudes that are at most two steps apart. -/
theorem le_add_two (first : f.Nearest number magnitude) (second : f.Nearest other near)
    (close : Close (f.grain ^ 2) number other) : near ≤ magnitude + 2 := by
  apply first.le_add second
  have width : (1 : ℚ) ≤ 2 ^ f.fraction := one_le_pow₀ (by norm_num)
  have step := f.step_pos magnitude
  have bound := first.le_halfway.trans (f.halfway_le magnitude)
  -- Twice the factor adds a little more than one part in the number of digits, of which there are less than that.
  have excess : f.grain ^ 2 * number ≤ number + (2 * (2 * 2 ^ f.fraction) + 1) / (2 * 2 ^ f.fraction) ^ 2 * number := by
    rw [grain]
    apply le_of_eq
    field_simp
    ring
  have part : (2 * (2 * 2 ^ f.fraction) + 1) / (2 * 2 ^ f.fraction) ^ 2 * number < 2 * f.step magnitude := by
    rw [div_mul_eq_mul_div, div_lt_iff₀ (by positivity)]
    have scaled : (2 * (2 * 2 ^ f.fraction) + 1) * number ≤
        (2 * (2 * 2 ^ f.fraction) + 1) * ((2 * 2 ^ f.fraction - 1 / 2) * f.step magnitude) :=
      mul_le_mul_of_nonneg_left bound (by linarith)
    have all : (2 * (2 * 2 ^ f.fraction) + 1) * ((2 * 2 ^ f.fraction - 1 / 2) * f.step magnitude) =
        2 * f.step magnitude * (2 * 2 ^ f.fraction) ^ 2 - f.step magnitude / 2 := by ring
    linarith
  push_cast
  linarith [close.ge]

end Nearest

end FloatFormat

end WasmHost
