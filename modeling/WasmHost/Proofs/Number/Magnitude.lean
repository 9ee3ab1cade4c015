import Mathlib.Algebra.Order.Field.Power
import Mathlib.Data.Rat.Cast.Order
import Mathlib.Tactic.Linarith
import Mathlib.Tactic.Ring
import WasmHost.Proofs.Number.Ranges

/-! The numbers that magnitudes denote: they grow in steps, and a number between two of them is rounded to the nearer
one. Magnitudes go on beyond the largest finite one as if there were no infinity. -/

namespace WasmHost.FloatFormat

variable {f : FloatFormat}

/-- The digits of a magnitude, with the leading one that is not stored. -/
def significand (f : FloatFormat) (magnitude : Nat) : Nat :=
  if magnitude / 2 ^ f.fraction = 0 then magnitude else magnitude % 2 ^ f.fraction + 2 ^ f.fraction

/-- The weight of the last digit of a magnitude, as a power of two. -/
def place (f : FloatFormat) (magnitude : Nat) : Int := f.lowest + (magnitude / 2 ^ f.fraction - 1 : Nat)

/-- The number that a magnitude denotes. -/
def amount (f : FloatFormat) (magnitude : Nat) : ℚ := f.significand magnitude * 2 ^ f.place magnitude

/-- How far the next magnitude is. -/
def step (f : FloatFormat) (magnitude : Nat) : ℚ := 2 ^ f.place magnitude

/-- The middle between a magnitude and the next one. -/
def halfway (f : FloatFormat) (magnitude : Nat) : ℚ := f.amount magnitude + f.step magnitude / 2

theorem isNegative_withSign {magnitude : Nat} (small : magnitude < f.signBit) (negative : Bool) :
    f.isNegative (f.withSign negative magnitude) = negative := by
  cases negative
  · simpa [isNegative, withSign] using small
  · simp [isNegative, withSign]

theorem magnitude_withSign {magnitude : Nat} (small : magnitude < f.signBit) (negative : Bool) :
    f.magnitude (f.withSign negative magnitude) = magnitude := by
  cases negative
  · exact Nat.mod_eq_of_lt small
  · simp only [FloatFormat.magnitude, withSign, if_true, Nat.add_mod_left]
    exact Nat.mod_eq_of_lt small

/-- Finite magnitudes leave room for the sign. -/
theorem lt_signBit {magnitude : Nat} (finite : magnitude < f.topField * 2 ^ f.fraction) : magnitude < f.signBit := by
  have top := top_add_lt f.fraction_pos
  rw [Integer.modulus_eq_pow, Nat.add_zero] at top
  exact finite.trans top

/-- Below the reserved field, a pattern denotes the number of its magnitude. -/
theorem decode_withSign {magnitude : Nat} (finite : magnitude < f.topField * 2 ^ f.fraction) (negative : Bool) :
    f.decode (f.withSign negative magnitude) = .finite negative (f.significand magnitude) (f.place magnitude) := by
  have pieces : f.signBit = 2 ^ f.exponent * 2 ^ f.fraction := by
    rw [signBit, Integer.modulus_eq_pow, Nat.pow_add]
  have sign := isNegative_withSign (lt_signBit finite) negative
  have whole := magnitude_withSign (lt_signBit finite) negative
  -- The sign is above the field and the digits, and disturbs neither.
  have stored : f.withSign negative magnitude % 2 ^ f.fraction = magnitude % 2 ^ f.fraction := by
    cases negative
    · rfl
    · rw [withSign, if_pos rfl, pieces, Nat.mul_add_mod_self_right]
  have field : magnitude / 2 ^ f.fraction ≠ f.topField :=
    Nat.ne_of_lt ((Nat.div_lt_iff_lt_mul (Nat.two_pow_pos _)).2 finite)
  simp only [decode, Integer.modulus_eq_pow, sign, whole, stored, if_neg field, significand, place]
  -- In the lowest field there is no leading digit.
  by_cases low : magnitude / 2 ^ f.fraction = 0
  · have small : magnitude % 2 ^ f.fraction = magnitude :=
      Nat.mod_eq_of_lt (by simpa [Nat.div_eq_zero_iff] using low)
    simp [low, small]
  · simp only [if_neg low]
    generalize magnitude / 2 ^ f.fraction = field at low
    congr 1
    omega

/-- A pattern is its sign and its magnitude. -/
theorem withSign_magnitude {bits : Nat} (fits : bits < 2 ^ f.width) :
    f.withSign (f.isNegative bits) (f.magnitude bits) = bits := by
  rw [pow_width] at fits
  unfold withSign isNegative magnitude
  by_cases negative : f.signBit ≤ bits
  · rw [decide_eq_true negative, if_pos rfl, Nat.mod_eq_sub_mod negative, Nat.mod_eq_of_lt (by omega)]
    omega
  · rw [decide_eq_false negative, if_neg Bool.false_ne_true, Nat.mod_eq_of_lt (Nat.lt_of_not_le negative)]

/-- A pattern denotes a number if its magnitude is below the reserved field. -/
theorem decode_finite_iff (f : FloatFormat) (bits : Nat) :
    (∃ negative significand exponent, f.decode bits = .finite negative significand exponent) ↔
      f.magnitude bits < f.topField * 2 ^ f.fraction := by
  -- The reserved field is the greatest one.
  have fields : f.magnitude bits / 2 ^ f.fraction ≤ f.topField := by
    have whole : f.signBit = (f.topField + 1) * 2 ^ f.fraction := by
      have := Nat.two_pow_pos f.exponent
      rw [signBit, topField, Integer.modulus_eq_pow, Integer.modulus_eq_pow, Nat.pow_add, Nat.sub_add_cancel this]
    have less := f.magnitude_lt bits
    rw [whole, ← Nat.div_lt_iff_lt_mul (Nat.two_pow_pos _)] at less
    exact Nat.le_of_lt_succ less
  rw [← Nat.div_lt_iff_lt_mul (Nat.two_pow_pos _)]
  unfold decode
  simp only [Integer.modulus_eq_pow]
  split_ifs with top bare low
  · simp [top]
  · simp [top]
  · simp
    omega
  · simp
    omega

theorem step_pos (f : FloatFormat) (magnitude : Nat) : 0 < f.step magnitude := zpow_pos (by norm_num) _

/-- Every magnitude has its digits at some place; there is a leading one everywhere but at the lowest. -/
theorem exists_digits (f : FloatFormat) (magnitude : Nat) :
    ∃ places digits, magnitude = places * 2 ^ f.fraction + digits ∧ (places = 0 ∨ 2 ^ f.fraction ≤ digits) ∧
      digits < 2 * 2 ^ f.fraction := by
  have positive : 0 < 2 ^ f.fraction := Nat.two_pow_pos _
  by_cases low : magnitude < 2 ^ f.fraction
  · exact ⟨0, magnitude, by omega, .inl rfl, by omega⟩
  · -- The field counts from one, as the lowest place has it in common with zero.
    have split := Nat.div_add_mod' magnitude (2 ^ f.fraction)
    have small := Nat.mod_lt magnitude positive
    have field : 1 ≤ magnitude / 2 ^ f.fraction := (Nat.le_div_iff_mul_le positive).2 (by omega)
    refine ⟨magnitude / 2 ^ f.fraction - 1, magnitude % 2 ^ f.fraction + 2 ^ f.fraction, ?_, .inr (by omega), by omega⟩
    rw [Nat.sub_mul, Nat.one_mul]
    have := Nat.mul_le_mul_right (2 ^ f.fraction) field
    omega

section

variable {places digits : Nat} (lead : places = 0 ∨ 2 ^ f.fraction ≤ digits)

include lead

theorem place_of_digits (few : digits < 2 * 2 ^ f.fraction) :
    f.place (places * 2 ^ f.fraction + digits) = f.lowest + places ∧
      f.significand (places * 2 ^ f.fraction + digits) = digits := by
  have positive : 0 < 2 ^ f.fraction := Nat.two_pow_pos _
  unfold place significand
  by_cases low : digits < 2 ^ f.fraction
  · -- Digits without a leading one are at the lowest place.
    obtain rfl : places = 0 := by omega
    simp [Nat.div_eq_of_lt low]
  · -- The leading digit counts in the field.
    have field : (places * 2 ^ f.fraction + digits) / 2 ^ f.fraction = places + 1 := by
      refine Nat.div_eq_of_lt_le ?_ ?_
      · rw [Nat.add_mul]
        omega
      · rw [Nat.add_mul, Nat.add_mul]
        omega
    have stored : (places * 2 ^ f.fraction + digits) % 2 ^ f.fraction = digits - 2 ^ f.fraction := by
      rw [Nat.mul_add_mod_self_right, Nat.mod_eq_sub_mod (by omega), Nat.mod_eq_of_lt (by omega)]
    rw [field, stored, if_neg (Nat.succ_ne_zero _)]
    exact ⟨rfl, by omega⟩

theorem step_of_digits (few : digits < 2 * 2 ^ f.fraction) :
    f.step (places * 2 ^ f.fraction + digits) = 2 ^ (f.lowest + places) := by
  rw [step, (place_of_digits lead few).1]

/-- Digits count at their place, also if they have just been used up. -/
theorem amount_of_digits (few : digits ≤ 2 * 2 ^ f.fraction) :
    f.amount (places * 2 ^ f.fraction + digits) = digits * 2 ^ (f.lowest + places) := by
  have positive : 0 < 2 ^ f.fraction := Nat.two_pow_pos _
  rcases few.lt_or_eq with inside | rfl
  · obtain ⟨place, significand⟩ := place_of_digits lead inside
    rw [amount, place, significand]
  · -- The next place begins with its least number.
    have carried : places * 2 ^ f.fraction + 2 * 2 ^ f.fraction = (places + 1) * 2 ^ f.fraction + 2 ^ f.fraction := by
      rw [Nat.add_mul]
      omega
    obtain ⟨place, significand⟩ :
        f.place ((places + 1) * 2 ^ f.fraction + 2 ^ f.fraction) = f.lowest + (places + 1 : Nat) ∧
          f.significand ((places + 1) * 2 ^ f.fraction + 2 ^ f.fraction) = 2 ^ f.fraction :=
      place_of_digits (.inr (Nat.le_refl _)) (by omega)
    rw [amount, carried, place, significand]
    push_cast
    rw [← add_assoc, zpow_add_one₀ (by norm_num)]
    ring

/-- The middle above some digits is half a unit of the last one further on. -/
theorem halfway_of_digits (few : digits < 2 * 2 ^ f.fraction) :
    f.halfway (places * 2 ^ f.fraction + digits) = (digits + 1 / 2 : ℚ) * 2 ^ (f.lowest + places) := by
  rw [halfway, amount_of_digits lead few.le, step_of_digits lead few]
  ring

end

/-- Magnitudes follow one another by their steps. -/
theorem amount_succ (f : FloatFormat) (magnitude : Nat) :
    f.amount (magnitude + 1) = f.amount magnitude + f.step magnitude := by
  obtain ⟨places, digits, rfl, lead, few⟩ := f.exists_digits magnitude
  rw [Nat.add_assoc, amount_of_digits (by omega) few, amount_of_digits lead few.le, step_of_digits lead few]
  push_cast
  ring

theorem step_mono : Monotone f.step := by
  intro low high less
  refine zpow_le_zpow_right₀ (by norm_num) ?_
  have := Nat.div_le_div_right (c := 2 ^ f.fraction) less
  unfold place
  omega

theorem amount_strictMono : StrictMono f.amount :=
  strictMono_nat_of_lt_succ fun magnitude => by
    have := f.step_pos magnitude
    rw [amount_succ]
    linarith

/-! ### Middles -/

theorem halfway_lt_amount_succ (f : FloatFormat) (magnitude : Nat) : f.halfway magnitude < f.amount (magnitude + 1) := by
  have := f.step_pos magnitude
  rw [amount_succ, halfway]
  linarith

theorem halfway_succ (f : FloatFormat) (magnitude : Nat) :
    f.halfway magnitude + f.step magnitude ≤ f.halfway (magnitude + 1) := by
  have grows := step_mono (f := f) (Nat.le_succ magnitude)
  have next := f.amount_succ magnitude
  unfold halfway
  rw [Nat.succ_eq_add_one] at grows
  linarith

theorem halfway_strictMono : StrictMono f.halfway :=
  strictMono_nat_of_lt_succ fun magnitude => by
    have := f.step_pos magnitude
    have := f.halfway_succ magnitude
    linarith

/-- Some magnitudes further on, the middle is at least as many steps away. -/
theorem halfway_add (f : FloatFormat) (magnitude count : Nat) :
    f.halfway magnitude + count * f.step magnitude ≤ f.halfway (magnitude + count) := by
  -- Steps never get shorter further on.
  induction count with
  | zero => simp
  | succ count ih =>
    have next := f.halfway_succ (magnitude + count)
    have grows := step_mono (f := f) (Nat.le_add_right magnitude count)
    push_cast
    rw [← Nat.add_assoc]
    linarith

/-- A number is a bounded count of its steps. -/
theorem halfway_le (f : FloatFormat) (magnitude : Nat) :
    f.halfway magnitude ≤ (2 * 2 ^ f.fraction - 1 / 2) * f.step magnitude := by
  obtain ⟨places, digits, rfl, lead, few⟩ := f.exists_digits magnitude
  -- At its place a number has less than two leading units of digits.
  have bound : (digits : ℚ) ≤ 2 * 2 ^ f.fraction - 1 := by
    have : digits + 1 ≤ 2 * 2 ^ f.fraction := few
    have cast : (digits : ℚ) + 1 ≤ 2 * 2 ^ f.fraction := by exact_mod_cast this
    linarith
  have positive : (0 : ℚ) < 2 ^ (f.lowest + places) := zpow_pos (by norm_num) _
  rw [halfway_of_digits lead few, step_of_digits lead few]
  exact mul_le_mul_of_nonneg_right (by linarith) positive.le

/-! ### Rounding to the nearest -/

/-- A number that is rounded to a magnitude: no other one is nearer, and of two that are as near it is the even one. -/
structure Nearest (f : FloatFormat) (number : ℚ) (magnitude : Nat) : Prop where
  above : ∀ lower, magnitude = lower + 1 →
    f.halfway lower < number ∨ (f.halfway lower = number ∧ Even magnitude)
  below : number < f.halfway magnitude ∨ (number = f.halfway magnitude ∧ Even magnitude)

namespace Nearest

variable {number other : ℚ} {magnitude near : Nat}

theorem le_halfway (nearest : f.Nearest number magnitude) : number ≤ f.halfway magnitude := by
  rcases nearest.below with less | ⟨same, -⟩
  · exact less.le
  · exact same.le

theorem halfway_le {lower : Nat} (nearest : f.Nearest number (lower + 1)) : f.halfway lower ≤ number := by
  rcases nearest.above lower rfl with less | ⟨same, -⟩
  · exact less.le
  · exact same.le

/-- A number that is less than some steps larger is rounded to a magnitude that is at most so many further on. -/
theorem le_add (first : f.Nearest number magnitude) (second : f.Nearest other near) {count : Nat}
    (close : other < number + count * f.step magnitude) : near ≤ magnitude + count := by
  by_contra! far
  -- Otherwise the number would be beyond the middle below its own magnitude.
  obtain ⟨lower, rfl⟩ : ∃ lower, near = lower + 1 := ⟨near - 1, by omega⟩
  have room := halfway_strictMono (f := f) |>.monotone (show magnitude + count ≤ lower by omega)
  have steps := f.halfway_add magnitude count
  have start := first.le_halfway
  have stop := second.halfway_le
  linarith

/-- A number that is at most what a magnitude denotes is rounded to at most that magnitude. -/
theorem le_of_le_amount (nearest : f.Nearest number near) (less : number ≤ f.amount magnitude) : near ≤ magnitude := by
  -- Otherwise a middle above the magnitude would be at most the number.
  by_contra! far
  obtain ⟨lower, rfl⟩ : ∃ lower, near = lower + 1 := ⟨near - 1, by omega⟩
  have room := amount_strictMono (f := f) |>.monotone (show magnitude ≤ lower by omega)
  have start := nearest.halfway_le
  have := f.step_pos lower
  unfold halfway at start
  linarith

/-- A number that is at least what a magnitude denotes is rounded to at least that magnitude. -/
theorem ge_of_amount_le (nearest : f.Nearest number near) (more : f.amount magnitude ≤ number) : magnitude ≤ near := by
  -- Otherwise the middle above the nearest magnitude would be less than the number.
  by_contra! far
  have room := amount_strictMono (f := f) |>.monotone (show near + 1 ≤ magnitude by omega)
  have stop := nearest.le_halfway
  have next := f.amount_succ near
  have := f.step_pos near
  unfold halfway at stop
  linarith

/-- A number is rounded to one magnitude only. -/
theorem eq (first : f.Nearest number magnitude) (second : f.Nearest number near) : magnitude = near := by
  have never {low high : Nat} (lower : f.Nearest number low) (upper : f.Nearest number high) : ¬ low < high := by
    intro less
    obtain ⟨before, rfl⟩ : ∃ before, high = before + 1 := ⟨high - 1, by omega⟩
    have room := halfway_strictMono (f := f) |>.monotone (show low ≤ before by omega)
    -- The number is the middle of the two, which are not both even.
    rcases upper.above before rfl with inside | ⟨same, even⟩
    · exact absurd (lower.le_halfway) (by linarith)
    · rcases lower.below with inside | ⟨middle, even'⟩
      · linarith
      · have neighbours := halfway_strictMono (f := f) |>.injective (middle.symm.trans same.symm)
        subst neighbours
        exact Nat.not_even_iff_odd.2 even'.add_one even
  rcases Nat.lt_trichotomy magnitude near with less | same | more
  · exact absurd less (never first second)
  · exact same
  · exact absurd more (never second first)

/-- What a magnitude denotes is rounded to it. -/
theorem amount (f : FloatFormat) (magnitude : Nat) : f.Nearest (f.amount magnitude) magnitude where
  above := by
    -- Half a step is more than nothing, in both directions.
    rintro lower rfl
    have next := f.amount_succ lower
    have := f.step_pos lower
    left
    rw [halfway]
    linarith
  below := by
    have := f.step_pos magnitude
    left
    rw [halfway]
    linarith

/-- What a magnitude denotes is rounded to no other one. -/
theorem eq_of_amount (nearest : f.Nearest (f.amount magnitude) near) : near = magnitude :=
  nearest.eq (.amount f magnitude)

end Nearest

end WasmHost.FloatFormat
