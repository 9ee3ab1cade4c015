import Mathlib.Algebra.Order.Field.Basic
import Mathlib.Tactic.FieldSimp
import WasmHost.Number.Decimal
import WasmHost.Proofs.Number.Magnitude

/-! Rounding gives the nearest magnitude, and so does arithmetic. -/

namespace WasmHost.FloatFormat

variable {f : FloatFormat}

/-- The pattern of a magnitude; beyond the finite ones there is the infinity. -/
def pack (f : FloatFormat) (negative : Bool) (magnitude : Nat) : Nat :=
  if f.topField * 2 ^ f.fraction ≤ magnitude then f.infinity negative else f.withSign negative magnitude

/-- Digits of some weight that are nearest to a number; of two that are as near it is the even ones. -/
structure NearestDigits (digits : Nat) (weight number : ℚ) : Prop where
  above : (digits - 1 / 2 : ℚ) * weight < number ∨ ((digits - 1 / 2 : ℚ) * weight = number ∧ Even digits)
  below : number < (digits + 1 / 2 : ℚ) * weight ∨ (number = (digits + 1 / 2 : ℚ) * weight ∧ Even digits)

namespace NearestDigits

variable {digits : Nat} {weight number : ℚ}

theorem ge (nearest : NearestDigits digits weight number) : (digits - 1 / 2 : ℚ) * weight ≤ number := by
  rcases nearest.above with less | ⟨same, -⟩
  · exact less.le
  · exact same.le

theorem le (nearest : NearestDigits digits weight number) : number ≤ (digits + 1 / 2 : ℚ) * weight := by
  rcases nearest.below with less | ⟨same, -⟩
  · exact less.le
  · exact same.le

/-- Digits are nearest to what they count. -/
theorem of_eq (positive : 0 < weight) (same : number = digits * weight) : NearestDigits digits weight number := by
  constructor <;> left <;> linarith

/-- On another scale the digits stay the nearest ones. -/
theorem scale {unit : ℚ} (positive : 0 < unit) (nearest : NearestDigits digits weight number) :
    NearestDigits digits (weight * unit) (number * unit) := by
  obtain ⟨above, below⟩ := nearest
  constructor
  · rwa [← mul_assoc, mul_lt_mul_iff_left₀ positive, mul_left_inj' positive.ne']
  · rwa [← mul_assoc, mul_lt_mul_iff_left₀ positive, mul_left_inj' positive.ne']

end NearestDigits

/-- The digits that are left after a shift to the right are the nearest ones. -/
theorem nearestDigits_shiftRound {n shift : Nat} {rest : Bool} {number : ℚ} (shifted : shift ≠ 0) (low : n ≤ number)
    (high : number < n + 1) (whole : rest = false → number = n) (more : rest → n < number) :
    NearestDigits (shiftRound n shift rest) (2 ^ shift) number := by
  obtain ⟨half, double⟩ : ∃ half, half = 2 ^ (shift - 1) ∧ 2 ^ shift = 2 * half :=
    ⟨_, rfl, by rw [← Nat.pow_succ']; congr; omega⟩
  have positive : 0 < half := by rw [double.1]; exact Nat.two_pow_pos _
  -- What is shifted out is a remainder, to be compared with half of the divisor.
  have split := Nat.div_add_mod n (2 * half)
  have small := Nat.mod_lt n (show 0 < 2 * half by omega)
  have kept : n >>> shift = n / (2 * half) := by rw [Nat.shiftRight_eq_div_pow, double.2]
  have lost : n - (n / (2 * half)) <<< shift = n % (2 * half) := by
    rw [Nat.shiftLeft_eq, double.2, Nat.mul_comm]
    omega
  have middle : 1 <<< (shift - 1) = half := by rw [Nat.one_shiftLeft, double.1]
  have width : (2 : ℚ) ^ shift = 2 * half := by exact_mod_cast double.2
  have parts : (n : ℚ) = 2 * half * (n / (2 * half) : Nat) + (n % (2 * half) : Nat) := by exact_mod_cast split.symm
  simp only [shiftRound, kept, lost, middle, if_neg shifted, width]
  generalize n / (2 * half) = digits at parts
  generalize n % (2 * half) = left at parts small
  have room : (left : ℚ) + 1 ≤ 2 * half := by exact_mod_cast small
  have some_ : (0 : ℚ) < half := by exact_mod_cast positive
  have none_ : (0 : ℚ) ≤ left := Nat.cast_nonneg left
  split_ifs with up
  · -- At least half a step is lost, and in the middle the even digits are the upper ones.
    refine ⟨?_, .inl (by push_cast; linarith)⟩
    push_cast
    rcases up with much | ⟨tie, odd⟩
    · have : (half : ℚ) < left := by exact_mod_cast much
      exact .inl (by linarith)
    · have : (left : ℚ) = half := by exact_mod_cast tie
      -- In the middle, what is known only in part lies above it.
      cases rest with
      | true =>
        have := more rfl
        exact .inl (by linarith)
      | false =>
        have := whole rfl
        exact .inr ⟨by linarith, (Nat.odd_iff.2 (odd.resolve_left Bool.false_ne_true)).add_one⟩
  · -- Less than half a step is lost, or half of one with even digits.
    push Not at up
    refine ⟨.inl (by linarith), ?_⟩
    rcases up.1.lt_or_eq with less | tie
    · have : (left : ℚ) + 1 ≤ half := by exact_mod_cast less
      exact .inl (by linarith)
    · have : (left : ℚ) = half := by exact_mod_cast tie
      obtain ⟨exact, even⟩ := up.2 tie
      have := whole (by simpa using exact)
      exact .inr ⟨by linarith, Nat.not_odd_iff_even.1 fun odd => even (Nat.odd_iff.1 odd)⟩

/-- Digits that are nearest at their place make the nearest magnitude. -/
theorem nearest_of_digits {places digits : Nat} {number : ℚ} (fractional : f.fraction ≠ 0)
    (lead : places = 0 ∨ 2 ^ f.fraction ≤ digits) (few : digits ≤ 2 * 2 ^ f.fraction)
    (floor : places = 0 ∨ 2 ^ f.fraction * 2 ^ (f.lowest + places) ≤ number)
    (ceiling : number < 2 * 2 ^ f.fraction * 2 ^ (f.lowest + places))
    (nearest : NearestDigits digits (2 ^ (f.lowest + places)) number) :
    f.Nearest number (places * 2 ^ f.fraction + digits) := by
  obtain ⟨above, below⟩ := nearest
  have positive : (0 : ℚ) < 2 ^ (f.lowest + places) := zpow_pos (by norm_num) _
  have parity : Even (places * 2 ^ f.fraction + digits) ↔ Even digits := by
    have even : Even (places * 2 ^ f.fraction) := (Nat.even_pow.2 ⟨even_two, fractional⟩).mul_left _
    simp [Nat.even_add, even]
  constructor
  · intro lower next
    rw [parity]
    cases digits with
    | zero =>
      -- Without any digits there is nothing below.
      have : 0 < 2 ^ f.fraction := Nat.two_pow_pos _
      obtain rfl : places = 0 := by omega
      omega
    | succ digits =>
      obtain rfl : lower = places * 2 ^ f.fraction + digits := by omega
      by_cases inside : places = 0 ∨ 2 ^ f.fraction ≤ digits
      · have middle : f.halfway (places * 2 ^ f.fraction + digits) =
            ((digits + 1 : Nat) - 1 / 2 : ℚ) * 2 ^ (f.lowest + places) := by
          rw [halfway_of_digits inside (by omega)]
          push_cast
          ring
        rwa [middle]
      · -- The digits are the least ones of their place, and so the number is not below them.
        have full : digits + 1 = 2 ^ f.fraction := by omega
        have enough := floor.resolve_left fun lowest => inside (.inl lowest)
        have before := f.halfway_lt_amount_succ (places * 2 ^ f.fraction + digits)
        rw [Nat.add_assoc, amount_of_digits (.inr full.ge) (by omega), full] at before
        push_cast at before
        exact .inl (before.trans_le enough)
  · rw [parity]
    rcases few.lt_or_eq with inside | rfl
    · rwa [halfway_of_digits lead inside]
    · -- The digits have been used up, and so the number is below them.
      have := f.step_pos (places * 2 ^ f.fraction + 2 * 2 ^ f.fraction)
      left
      rw [halfway, amount_of_digits lead few]
      push_cast
      linarith

/-- The leading digit of a number tells between which powers of two it lies. -/
theorem two_pow_le_mul {n : Nat} (filled : n ≠ 0) (exponent : Int) : (2 : ℚ) ^ (exponent + n.log2) ≤ n * 2 ^ exponent := by
  have least : (2 : ℚ) ^ n.log2 ≤ n := by exact_mod_cast Nat.log2_self_le filled
  rw [zpow_add₀ (by norm_num), zpow_natCast, mul_comm]
  exact mul_le_mul_of_nonneg_right least (zpow_pos (by norm_num) _).le

theorem succ_mul_le_two_pow (n : Nat) (exponent : Int) :
    ((n + 1) * 2 ^ exponent : ℚ) ≤ 2 ^ (exponent + (n.log2 + 1)) := by
  have most : (n : ℚ) + 1 ≤ 2 ^ (n.log2 + 1) := by exact_mod_cast Nat.lt_log2_self (n := n)
  rw [zpow_add₀ (by norm_num), mul_comm (2 ^ exponent)]
  exact mul_le_mul_of_nonneg_right (by exact_mod_cast most) (zpow_pos (by norm_num) _).le

/-- The weight of the last digit that is kept of a number, as a power of two. -/
def keptPlace (f : FloatFormat) (n : Nat) (exponent : Int) : Int :=
  Max.max (exponent + (n.log2 + 1) - (f.fraction + 1 : Nat)) f.lowest

/-- The digits that are kept of a number. -/
def keptDigits (f : FloatFormat) (n : Nat) (exponent : Int) (rest : Bool) : Nat :=
  if f.keptPlace n exponent ≤ exponent then n <<< (exponent - f.keptPlace n exponent).toNat
  else shiftRound n (f.keptPlace n exponent - exponent).toNat rest

theorem round_eq {n : Nat} (filled : n ≠ 0) (negative : Bool) (exponent : Int) (rest : Bool) :
    f.round negative n exponent rest = f.pack negative
      ((f.keptPlace n exponent - f.lowest).toNat * 2 ^ f.fraction + f.keptDigits n exponent rest) := by
  rw [round, if_neg filled]
  simp only [Integer.modulus_eq_pow]
  rfl

/-- A number that is known as well as rounding needs it: all of it, or some digits more than are kept. -/
structure Suffices (f : FloatFormat) (n : Nat) (exponent : Int) (rest : Bool) (number : ℚ) : Prop where
  low : n * 2 ^ exponent ≤ number
  high : number < (n + 1) * 2 ^ exponent
  whole : rest = false → number = n * 2 ^ exponent
  more : rest → n * 2 ^ exponent < number ∧ 2 ^ (f.fraction + 2) ≤ n

section

variable {n : Nat} {exponent : Int} {rest : Bool} {number : ℚ}

theorem keptPlace_spec (f : FloatFormat) (n : Nat) (exponent : Int) :
    f.lowest ≤ f.keptPlace n exponent ∧ exponent + (n.log2 + 1) ≤ f.fraction + 1 + f.keptPlace n exponent ∧
      (f.keptPlace n exponent = f.lowest ∨ f.fraction + f.keptPlace n exponent = exponent + n.log2) := by
  unfold keptPlace
  omega

/-- The digits that are kept of a number are the nearest ones at their place. -/
theorem nearestDigits_kept (filled : n ≠ 0) (known : f.Suffices n exponent rest number) :
    NearestDigits (f.keptDigits n exponent rest) (2 ^ f.keptPlace n exponent) number := by
  obtain ⟨low, high, whole, more⟩ := known
  have unit : (0 : ℚ) < 2 ^ exponent := zpow_pos (by norm_num) _
  unfold keptDigits
  split_ifs with wide
  · -- Nothing is lost, because what is known only in part has more digits than are kept.
    have exact : rest = false := by
      cases rest with
      | false => rfl
      | true =>
        have many := (Nat.le_log2 filled).2 (more rfl).2
        have short := (f.keptPlace_spec n exponent).2.1
        omega
    refine .of_eq (zpow_pos (by norm_num) _) ?_
    rw [whole exact, Nat.shiftLeft_eq]
    push_cast
    rw [mul_assoc, ← zpow_natCast, ← zpow_add₀ (by norm_num)]
    congr 2
    omega
  · -- The digits behind the place are rounded away.
    have shift : (2 : ℚ) ^ f.keptPlace n exponent = 2 ^ (f.keptPlace n exponent - exponent).toNat * 2 ^ exponent := by
      rw [← zpow_natCast, ← zpow_add₀ (by norm_num)]
      congr 1
      omega
    obtain ⟨scaled, rfl⟩ : ∃ scaled, number = scaled * 2 ^ exponent :=
      ⟨number / 2 ^ exponent, (div_mul_cancel₀ _ unit.ne').symm⟩
    rw [shift]
    exact (nearestDigits_shiftRound (by omega) (le_of_mul_le_mul_right low unit)
      (lt_of_mul_lt_mul_right high unit.le) (fun exact => mul_right_cancel₀ unit.ne' (whole exact))
      (fun inexact => lt_of_mul_lt_mul_right (more inexact).1 unit.le)).scale unit

theorem nearest_kept (fractional : f.fraction ≠ 0) (filled : n ≠ 0) (known : f.Suffices n exponent rest number) :
    f.Nearest number ((f.keptPlace n exponent - f.lowest).toNat * 2 ^ f.fraction + f.keptDigits n exponent rest) := by
  obtain ⟨lowest, short, long⟩ := f.keptPlace_spec n exponent
  have place : f.lowest + (f.keptPlace n exponent - f.lowest).toNat = f.keptPlace n exponent := by omega
  have weight : (0 : ℚ) < 2 ^ f.keptPlace n exponent := zpow_pos (by norm_num) _
  have power (place : Int) : (2 : ℚ) ^ f.fraction * 2 ^ place = 2 ^ ((f.fraction : Int) + place) := by
    rw [zpow_add₀ (by norm_num), zpow_natCast]
  -- The leading digit tells between which powers of two the number lies, and that tells how many digits are kept.
  have ceiling : number < 2 * 2 ^ f.fraction * 2 ^ f.keptPlace n exponent := by
    rw [mul_assoc, power, ← zpow_one_add₀ (by norm_num)]
    exact known.high.trans_le ((succ_mul_le_two_pow n exponent).trans
      (zpow_le_zpow_right₀ (by norm_num) (by omega)))
  have floor : (f.keptPlace n exponent - f.lowest).toNat = 0 ∨
      2 ^ f.fraction * 2 ^ f.keptPlace n exponent ≤ number := by
    refine long.imp (fun bottom => by omega) fun lead => ?_
    rw [power, lead]
    exact (two_pow_le_mul filled exponent).trans known.low
  have digits := nearestDigits_kept filled known
  have upper := digits.ge
  have lower := digits.le
  generalize f.keptDigits n exponent rest = kept at *
  refine nearest_of_digits fractional ?_ ?_ (by rwa [place]) (by rwa [place]) (by rwa [place])
  · refine floor.imp_right fun enough => ?_
    have : (2 : ℚ) ^ f.fraction ≤ kept + 1 / 2 := le_of_mul_le_mul_right (enough.trans lower) weight
    by_contra! less
    have : (kept : ℚ) + 1 ≤ 2 ^ f.fraction := by exact_mod_cast less
    linarith
  · have : (kept : ℚ) - 1 / 2 < 2 * 2 ^ f.fraction := lt_of_mul_lt_mul_right (upper.trans_lt ceiling) weight.le
    by_contra! more
    have : (2 : ℚ) * 2 ^ f.fraction + 1 ≤ kept := by exact_mod_cast more
    linarith

end

/-- A number that is not zero is rounded to its nearest magnitude. -/
theorem exists_round (fractional : f.fraction ≠ 0) {n : Nat} (filled : n ≠ 0) {exponent : Int} {rest : Bool} {number : ℚ}
    (known : f.Suffices n exponent rest number) :
    ∃ magnitude, f.Nearest number magnitude ∧
      ∀ negative, f.round negative n exponent rest = f.pack negative magnitude :=
  ⟨_, nearest_kept fractional filled known, fun negative => round_eq filled negative exponent rest⟩

theorem exists_round_exact (fractional : f.fraction ≠ 0) {n : Nat} (filled : n ≠ 0) (exponent : Int) :
    ∃ magnitude, f.Nearest (n * 2 ^ exponent) magnitude ∧
      ∀ negative, f.round negative n exponent false = f.pack negative magnitude := by
  have unit : (0 : ℚ) < 2 ^ exponent := zpow_pos (by norm_num) _
  exact exists_round fractional filled
    ⟨le_refl _, mul_lt_mul_of_pos_right (by linarith) unit, fun _ => rfl, nofun⟩

/-- A division with more digits than are kept, and whether it goes on, suffices. -/
theorem suffices_quotient {n d extra : Nat} (exponent : Int) (divides : d ≠ 0)
    (many : 2 ^ (f.fraction + 2) ≤ n * 2 ^ extra / d) :
    f.Suffices (n * 2 ^ extra / d) (exponent - extra) (decide (n * 2 ^ extra % d ≠ 0)) (n / d * 2 ^ exponent) := by
  have split := Nat.div_add_mod (n * 2 ^ extra) d
  have small := Nat.mod_lt (n * 2 ^ extra) (Nat.pos_of_ne_zero divides)
  have positive : (0 : ℚ) < d := by exact_mod_cast Nat.pos_of_ne_zero divides
  have unit : (0 : ℚ) < 2 ^ (exponent - extra) := zpow_pos (by norm_num) _
  have number : (n / d * 2 ^ exponent : ℚ) = (n * 2 ^ extra : Nat) / d * 2 ^ (exponent - extra) := by
    rw [zpow_sub₀ (by norm_num), zpow_natCast]
    push_cast
    field_simp
  -- What the division leaves is less than one unit of the last digit.
  have parts : ((n * 2 ^ extra : Nat) / d : ℚ) = (n * 2 ^ extra / d : Nat) + (n * 2 ^ extra % d : Nat) / d := by
    rw [add_div' _ _ _ positive.ne', div_left_inj' positive.ne']
    exact_mod_cast (by rw [Nat.mul_comm (n * 2 ^ extra / d)]; exact split.symm)
  have less : ((n * 2 ^ extra % d : Nat) / d : ℚ) < 1 := (div_lt_one positive).2 (by exact_mod_cast small)
  have least : (0 : ℚ) ≤ (n * 2 ^ extra % d : Nat) / d := by positivity
  rw [number, parts]
  constructor
  · exact mul_le_mul_of_nonneg_right (by linarith) unit.le
  · exact mul_lt_mul_of_pos_right (by linarith) unit
  · intro exact
    have none : n * 2 ^ extra % d = 0 := by simpa using exact
    simp [none]
  · intro inexact
    have left : (0 : ℚ) < (n * 2 ^ extra % d : Nat) / d := by
      have some : n * 2 ^ extra % d ≠ 0 := by simpa using inexact
      exact div_pos (by exact_mod_cast Nat.pos_of_ne_zero some) positive
    exact ⟨mul_lt_mul_of_pos_right (by linarith) unit, many⟩

/-- A quotient is rounded to its nearest magnitude. -/
theorem exists_roundQuotient (fractional : f.fraction ≠ 0) {n d : Nat} (filled : n ≠ 0) (divides : d ≠ 0)
    (exponent : Int) :
    ∃ magnitude, f.Nearest (n / d * 2 ^ exponent) magnitude ∧
      ∀ negative, f.roundQuotient negative n d exponent = f.pack negative magnitude := by
  let extra := f.fraction + 4 + d.log2
  -- The extra digits are more than the divisor takes away.
  have many : 2 ^ (f.fraction + 2) ≤ n * 2 ^ extra / d := by
    rw [Nat.le_div_iff_mul_le (Nat.pos_of_ne_zero divides)]
    have short : d ≤ 2 ^ (d.log2 + 1) := Nat.lt_log2_self.le
    have room : 2 ^ (f.fraction + 2) * 2 ^ (d.log2 + 1) ≤ 2 ^ extra := by
      rw [← Nat.pow_add]
      exact Nat.pow_le_pow_right (by decide) (by omega)
    calc 2 ^ (f.fraction + 2) * d ≤ 2 ^ (f.fraction + 2) * 2 ^ (d.log2 + 1) := Nat.mul_le_mul_left _ short
      _ ≤ 2 ^ extra := room
      _ ≤ n * 2 ^ extra := Nat.le_mul_of_pos_left _ (Nat.pos_of_ne_zero filled)
  obtain ⟨magnitude, nearest, rounded⟩ := exists_round fractional
    (Nat.ne_of_gt ((Nat.two_pow_pos _).trans_le many)) (suffices_quotient exponent divides many)
  refine ⟨magnitude, nearest, fun negative => ?_⟩
  rw [roundQuotient]
  simp only [Nat.shiftLeft_eq]
  exact rounded negative

/-! ### Arithmetic -/

variable (fractional : f.fraction ≠ 0)

include fractional

theorem exists_ofInt {n : Nat} (filled : n ≠ 0) :
    ∃ magnitude, f.Nearest n magnitude ∧ f.ofInt n = f.pack false magnitude := by
  obtain ⟨magnitude, nearest, rounded⟩ := exists_round_exact fractional filled 0
  refine ⟨magnitude, by simpa using nearest, ?_⟩
  have positive : (n : Int) ≠ 0 := by exact_mod_cast filled
  have sign : ¬ (n : Int) < 0 := by omega
  rw [ofInt, roundInt, if_neg positive, ← rounded false, Int.natAbs_natCast, decide_eq_false sign]

theorem exists_ofDecimal {d : Decimal} (filled : d.digits ≠ 0) (negative : Bool) :
    ∃ magnitude, f.Nearest (d.digits * 10 ^ d.exponent) magnitude ∧
      f.ofDecimal negative d = f.pack negative magnitude := by
  unfold ofDecimal
  split_ifs with whole
  · -- The power of ten is multiplied with, which gives a whole number.
    obtain ⟨exponent, same⟩ := Int.eq_ofNat_of_zero_le whole
    obtain ⟨magnitude, nearest, rounded⟩ := exists_round_exact fractional
      (show d.digits * Integer.power 10 d.exponent.toNat ≠ 0 from
        Nat.mul_ne_zero filled (Nat.pow_pos (by decide)).ne') 0
    refine ⟨magnitude, ?_, rounded negative⟩
    simpa [same, Integer.power] using nearest
  · -- It is divided by.
    obtain ⟨magnitude, nearest, rounded⟩ := exists_roundQuotient fractional filled
      (show Integer.power 10 (-d.exponent).toNat ≠ 0 from (Nat.pow_pos (by decide)).ne') 0
    refine ⟨magnitude, ?_, rounded negative⟩
    have exponent : d.exponent = -((-d.exponent).toNat : Int) := by omega
    rw [exponent, zpow_neg, zpow_natCast, ← div_eq_mul_inv]
    simpa [Integer.power] using nearest

variable {a b : Nat} (left : a < f.topField * 2 ^ f.fraction) (right : b < f.topField * 2 ^ f.fraction)

omit fractional in
theorem significand_ne_zero (filled : a ≠ 0) : f.significand a ≠ 0 := by
  have := Nat.two_pow_pos f.fraction
  unfold significand
  split_ifs
  · exact filled
  · omega

omit fractional in
include left in
theorem exists_convert {to_ : FloatFormat} (fractional : to_.fraction ≠ 0) (filled : a ≠ 0) (negative : Bool) :
    ∃ magnitude, to_.Nearest (f.amount a) magnitude ∧
      f.convert to_ (f.withSign negative a) = to_.pack negative magnitude := by
  obtain ⟨magnitude, nearest, rounded⟩ := exists_round_exact fractional (significand_ne_zero (f := f) filled) (f.place a)
  refine ⟨magnitude, nearest, ?_⟩
  rw [convert, decode_withSign left]
  exact rounded negative

include left right in
theorem exists_mul (filled : a ≠ 0) (filled' : b ≠ 0) :
    ∃ magnitude, f.Nearest (f.amount a * f.amount b) magnitude ∧
      f.mul (f.withSign false a) (f.withSign false b) = f.pack false magnitude := by
  obtain ⟨magnitude, nearest, rounded⟩ := exists_round_exact fractional
    (Nat.mul_ne_zero (significand_ne_zero (f := f) filled) (significand_ne_zero (f := f) filled')) (f.place a + f.place b)
  refine ⟨magnitude, ?_, ?_⟩
  · convert nearest using 1
    rw [amount, amount, zpow_add₀ (by norm_num)]
    push_cast
    ring
  · rw [mul, decode_withSign left, decode_withSign right]
    exact rounded false

include left right in
theorem exists_div (filled : a ≠ 0) (filled' : b ≠ 0) :
    ∃ magnitude, f.Nearest (f.amount a / f.amount b) magnitude ∧
      f.div (f.withSign false a) (f.withSign false b) = f.pack false magnitude := by
  obtain ⟨magnitude, nearest, rounded⟩ := exists_roundQuotient fractional (significand_ne_zero (f := f) filled)
    (significand_ne_zero (f := f) filled') (f.place a - f.place b)
  refine ⟨magnitude, ?_, ?_⟩
  · convert nearest using 1
    rw [amount, amount, zpow_sub₀ (by norm_num), mul_div_mul_comm]
  · rw [div, decode_withSign left, decode_withSign right]
    simp only [if_neg (significand_ne_zero (f := f) filled')]
    exact rounded false

end WasmHost.FloatFormat
