import Mathlib.Algebra.Order.Field.Basic
import Mathlib.Tactic.FieldSimp
import Mathlib.Tactic.Positivity
import WasmHost.Proofs.Number.Closeness
import WasmHost.Proofs.Number.Rounding

/-! The shortest digits of a number read back: they are next to the number on a grid of powers of ten, and the first grid
on which one of the two neighbours of the number reads back is fine enough to be found. -/

namespace WasmHost

namespace Decimal

/-- What a decimal number denotes. -/
def amount (d : Decimal) : ℚ := d.digits * 10 ^ d.exponent

/-! ### Quotients -/

namespace Ratio

/-- What a quotient denotes. -/
def amount (r : Ratio) : ℚ := r.numerator / r.denominator

variable {a b : Ratio}

theorem lt_iff (first : a.denominator ≠ 0) (second : b.denominator ≠ 0) : a.lt b ↔ a.amount < b.amount := by
  have left : (0 : ℚ) < a.denominator := by exact_mod_cast Nat.pos_of_ne_zero first
  have right : (0 : ℚ) < b.denominator := by exact_mod_cast Nat.pos_of_ne_zero second
  rw [amount, amount, div_lt_div_iff₀ left right, lt, decide_eq_true_eq]
  exact_mod_cast Iff.rfl

theorem le_iff (first : a.denominator ≠ 0) (second : b.denominator ≠ 0) : a.le b ↔ a.amount ≤ b.amount := by
  rw [← not_lt, ← lt_iff second first, le, Bool.not_eq_true', Bool.not_eq_true]

theorem scaled_denominator {base : Nat} (positive : 0 < base) (n : Nat) (exponent : Int) :
    (scaled n base exponent).denominator ≠ 0 := by
  unfold scaled
  split_ifs
  · exact Nat.one_ne_zero
  · exact (Nat.pow_pos positive).ne'

theorem amount_scaled (n base : Nat) (exponent : Int) :
    (scaled n base exponent).amount = n * base ^ exponent := by
  unfold scaled amount
  split_ifs with up
  · obtain ⟨places, rfl⟩ := Int.eq_ofNat_of_zero_le up
    simp [Integer.power]
  · obtain ⟨places, rfl⟩ : ∃ places : Nat, exponent = -places := ⟨(-exponent).toNat, by omega⟩
    simp [Integer.power, zpow_neg, div_eq_mul_inv]

end Ratio

end Decimal

namespace FloatFormat

variable {f : FloatFormat}

/-- Below the least number of a place the steps are half as long. -/
theorem place_succ (f : FloatFormat) (lower : Nat) :
    f.place lower = f.place (lower + 1) -
      if f.significand (lower + 1) = 2 ^ f.fraction ∧ f.lowest < f.place (lower + 1) then 1 else 0 := by
  obtain ⟨places, digits, rfl, lead, few⟩ := f.exists_digits lower
  have positive : 0 < 2 ^ f.fraction := Nat.two_pow_pos _
  rw [(place_of_digits lead few).1, Nat.add_assoc]
  by_cases inside : digits + 1 < 2 * 2 ^ f.fraction
  · -- The digits go up by one, and are the least ones only at the lowest place.
    obtain ⟨place, significand⟩ : f.place (places * 2 ^ f.fraction + (digits + 1)) = f.lowest + places ∧
        f.significand (places * 2 ^ f.fraction + (digits + 1)) = digits + 1 := place_of_digits (by omega) inside
    rw [place, significand, if_neg (by omega)]
    omega
  · -- The digits are used up, and the next place begins.
    have carried : places * 2 ^ f.fraction + (digits + 1) = (places + 1) * 2 ^ f.fraction + 2 ^ f.fraction := by
      rw [Nat.add_mul]
      omega
    obtain ⟨place, significand⟩ :
        f.place ((places + 1) * 2 ^ f.fraction + 2 ^ f.fraction) = f.lowest + (places + 1 : Nat) ∧
          f.significand ((places + 1) * 2 ^ f.fraction + 2 ^ f.fraction) = 2 ^ f.fraction :=
      place_of_digits (.inr (Nat.le_refl _)) (by omega)
    rw [carried, place, significand, if_pos ⟨rfl, by omega⟩]
    omega

theorem even_significand (fractional : f.fraction ≠ 0) (magnitude : Nat) :
    Even (f.significand magnitude) ↔ Even magnitude := by
  obtain ⟨places, digits, rfl, lead, few⟩ := f.exists_digits magnitude
  have even : Even (places * 2 ^ f.fraction) := (Nat.even_pow.2 ⟨even_two, fractional⟩).mul_left _
  rw [(place_of_digits lead few).2, Nat.even_add]
  simp [even]

end FloatFormat

namespace Decimal

variable {f : FloatFormat} {lower : Nat}

/-! ### Intervals -/

/-- The interval of a magnitude that is not zero. -/
def intervalOf (f : FloatFormat) (magnitude : Nat) : Interval :=
  .of f (f.significand magnitude) (f.place magnitude)

theorem amount_value (f : FloatFormat) (magnitude : Nat) :
    (intervalOf f magnitude).value.amount = f.amount magnitude ∧ (intervalOf f magnitude).value.denominator ≠ 0 := by
  refine ⟨?_, Ratio.scaled_denominator (by decide) _ _⟩
  rw [intervalOf, Interval.of, Ratio.amount_scaled, FloatFormat.amount, zpow_sub₀ (by norm_num)]
  push_cast
  ring

theorem amount_high (f : FloatFormat) (magnitude : Nat) :
    (intervalOf f magnitude).high.amount = f.halfway magnitude ∧ (intervalOf f magnitude).high.denominator ≠ 0 := by
  refine ⟨?_, Ratio.scaled_denominator (by decide) _ _⟩
  rw [intervalOf, Interval.of, Ratio.amount_scaled, FloatFormat.halfway, FloatFormat.amount,
    FloatFormat.step, zpow_sub₀ (by norm_num)]
  push_cast
  ring

theorem amount_low (f : FloatFormat) (lower : Nat) :
    (intervalOf f (lower + 1)).low.amount = f.halfway lower ∧ (intervalOf f (lower + 1)).low.denominator ≠ 0 := by
  refine ⟨?_, Ratio.scaled_denominator (by decide) _ _⟩
  have filled : f.significand (lower + 1) ≠ 0 := FloatFormat.significand_ne_zero (Nat.succ_ne_zero lower)
  -- The lower end lies half a step of the number below, which may be half as long as the number's own.
  have before : f.halfway lower = f.amount (lower + 1) - f.step lower / 2 := by
    rw [FloatFormat.amount_succ, FloatFormat.halfway]
    ring
  have place := f.place_succ lower
  rw [before, intervalOf, Interval.of, Ratio.amount_scaled, FloatFormat.step, place, FloatFormat.amount]
  simp only [Integer.modulus_eq_pow]
  -- The number is scaled so that either half of a step is whole.
  split_ifs with narrow
  · rw [Nat.cast_sub (by omega), zpow_sub₀ (by norm_num), zpow_sub₀ (by norm_num)]
    push_cast
    ring
  · rw [Nat.cast_sub (by omega), zpow_sub₀ (by norm_num), sub_zero]
    push_cast
    ring

/-- An interval holds what is rounded to its value. -/
theorem holds_iff (fractional : f.fraction ≠ 0) {r : Ratio} (proper : r.denominator ≠ 0) :
    (intervalOf f (lower + 1)).holds r ↔ f.Nearest r.amount (lower + 1) := by
  obtain ⟨low, left⟩ := amount_low f lower
  obtain ⟨high, right⟩ := amount_high f (lower + 1)
  have ends : (intervalOf f (lower + 1)).closed = true ↔ Even (lower + 1) := by
    rw [← FloatFormat.even_significand fractional, Nat.even_iff, intervalOf, Interval.of, decide_eq_true_eq]
  unfold Interval.holds
  -- The ends belong to the interval of even digits, as ties are rounded to them.
  by_cases even : Even (lower + 1)
  · rw [if_pos (ends.2 even), Bool.and_eq_true, Ratio.le_iff left proper, Ratio.le_iff proper right, low, high]
    constructor
    · rintro ⟨above, below⟩
      refine ⟨fun lower' next => ?_, below.lt_or_eq.imp_right fun same => ⟨same, even⟩⟩
      obtain rfl : lower = lower' := by omega
      exact above.lt_or_eq.imp_right fun same => ⟨same, even⟩
    · intro nearest
      exact ⟨nearest.halfway_le, nearest.le_halfway⟩
  · rw [if_neg fun closed => even (ends.1 closed), Bool.and_eq_true, Ratio.lt_iff left proper,
      Ratio.lt_iff proper right, low, high]
    constructor
    · rintro ⟨above, below⟩
      refine ⟨fun lower' next => ?_, .inl below⟩
      obtain rfl : lower = lower' := by omega
      exact .inl above
    · intro nearest
      exact ⟨(nearest.above lower rfl).resolve_right fun tie => even tie.2,
        nearest.below.resolve_right fun tie => even tie.2⟩

/-! ### Grids -/

/-- A quotient on a grid of a power of ten. -/
def Ratio.steps (r : Ratio) (place : Int) : Ratio :=
  if 0 ≤ place then ⟨r.numerator, r.denominator * Integer.power 10 place.toNat⟩
  else ⟨r.numerator * Integer.power 10 (-place).toNat, r.denominator⟩

theorem Ratio.steps_denominator {r : Ratio} (proper : r.denominator ≠ 0) (place : Int) :
    (r.steps place).denominator ≠ 0 := by
  unfold steps
  split_ifs
  · exact Nat.mul_ne_zero proper (Nat.pow_pos (by decide)).ne'
  · exact proper

theorem Ratio.amount_steps {r : Ratio} (place : Int) : (r.steps place).amount * 10 ^ place = r.amount := by
  unfold steps amount
  -- The place makes either the denominator or the numerator larger.
  split_ifs with up
  · obtain ⟨places, rfl⟩ := Int.eq_ofNat_of_zero_le up
    have unit : (10 : ℚ) ^ places ≠ 0 := pow_ne_zero _ (by norm_num)
    simp [Integer.power]
    field_simp
  · obtain ⟨places, rfl⟩ : ∃ places : Nat, place = -places := ⟨(-place).toNat, by omega⟩
    have unit : (10 : ℚ) ^ places ≠ 0 := pow_ne_zero _ (by norm_num)
    simp [Integer.power]
    field_simp

/-- A number is between the whole steps that it has and one more. -/
theorem Ratio.floor_steps {r : Ratio} (proper : r.denominator ≠ 0) (place : Int) {down : Nat}
    (known : down = (r.steps place).numerator / (r.steps place).denominator) :
    down * 10 ^ place ≤ r.amount ∧ r.amount < (down + 1) * 10 ^ place := by
  have positive := Nat.pos_of_ne_zero (Ratio.steps_denominator proper place)
  have unit : (0 : ℚ) < 10 ^ place := zpow_pos (by norm_num) _
  rw [← Ratio.amount_steps place, known, Ratio.amount]
  constructor
  · refine mul_le_mul_of_nonneg_right ?_ unit.le
    rw [le_div_iff₀ (by exact_mod_cast positive)]
    exact_mod_cast Nat.div_mul_le_self _ _
  · refine mul_lt_mul_of_pos_right ?_ unit
    rw [div_lt_iff₀ (by exact_mod_cast positive), mul_comm]
    exact_mod_cast Nat.lt_mul_div_succ _ positive

/-- The neighbours of a number on a grid are tried, and one of those that read back is found. -/
theorem onGrid_cases (i : Interval) (place : Int) :
    ∃ down : Nat, down = (i.value.steps place).numerator / (i.value.steps place).denominator ∧
      ((∃ n : Nat, (n = down ∨ n = down + 1) ∧ i.holds (.scaled n 10 place) ∧ i.onGrid place = some n) ∨
        (¬ i.holds (.scaled down 10 place) ∧ ¬ i.holds (.scaled (down + 1) 10 place)) ∧ i.onGrid place = none) := by
  refine ⟨_, rfl, ?_⟩
  unfold Interval.onGrid
  dsimp only
  rw [← Ratio.steps]
  generalize i.value.steps place = r
  generalize r.numerator / r.denominator = down
  simp only [Bool.and_eq_true]
  -- If both neighbours read back the closer one is taken, and else the one that does, if any.
  split_ifs with both prefers first second
  · exact .inl ⟨_, .inr rfl, both.2, rfl⟩
  · exact .inl ⟨_, .inl rfl, both.1, rfl⟩
  · exact .inl ⟨_, .inl rfl, first, rfl⟩
  · exact .inl ⟨_, .inr rfl, second, rfl⟩
  · exact .inr ⟨⟨first, second⟩, rfl⟩

/-- A number next to a magnitude on a grid. -/
structure NextTo (f : FloatFormat) (magnitude : Nat) (place : Int) (n : Nat) : Prop where
  low : f.amount magnitude < (n + 1) * 10 ^ place
  high : (n - 1 : ℚ) * 10 ^ place ≤ f.amount magnitude
  nearest : f.Nearest (n * 10 ^ place) magnitude

/-- What is found on a grid is next to the number and reads back, and on grids that are fine enough something is found. -/
theorem onGrid_spec (fractional : f.fraction ≠ 0) (lower : Nat) (place : Int) :
    (∃ n, (intervalOf f (lower + 1)).onGrid place = some n ∧ NextTo f (lower + 1) place n) ∨
      ((intervalOf f (lower + 1)).onGrid place = none ∧ f.step (lower + 1) / 2 ≤ 10 ^ place) := by
  obtain ⟨value, proper⟩ := amount_value f (lower + 1)
  have unit : (0 : ℚ) < 10 ^ place := zpow_pos (by norm_num) _
  have fits (n : Nat) : (intervalOf f (lower + 1)).holds (.scaled n 10 place) ↔
      f.Nearest (n * 10 ^ place) (lower + 1) := by
    rw [holds_iff fractional (Ratio.scaled_denominator (by decide) n place), Ratio.amount_scaled]
    rfl
  obtain ⟨down, known, cases⟩ := onGrid_cases (intervalOf f (lower + 1)) place
  obtain ⟨least, greatest⟩ := Ratio.floor_steps proper place known
  rw [value] at least greatest
  rcases cases with ⟨n, neighbour, holds, found⟩ | ⟨⟨-, second⟩, found⟩
  · refine .inl ⟨n, found, ?_, ?_, (fits n).1 holds⟩
    · rcases neighbour with rfl | rfl
      · exact greatest
      · push_cast
        linarith
    · rcases neighbour with rfl | rfl
      · linarith
      · push_cast
        linarith
  · -- The upper neighbour is past the middle above the number.
    refine .inr ⟨found, ?_⟩
    by_contra! fine
    have middle : (down + 1 : Nat) * 10 ^ place < f.halfway (lower + 1) := by
      unfold FloatFormat.halfway
      push_cast
      linarith
    refine second ((fits _).2 ⟨fun before next => .inl ?_, .inl middle⟩)
    obtain rfl : before = lower := by omega
    push_cast
    exact (f.halfway_lt_amount_succ before).trans greatest

/-! ### The search -/

theorem amount_trim (fuel : Nat) (d : Decimal) : (trim fuel d).amount = d.amount := by
  -- The induction is on the zeros that may be taken off.
  induction fuel generalizing d with
  | zero => rfl
  | succ fuel ih =>
    rw [trim]
    split_ifs with more
    · obtain ⟨digits, rest⟩ : ∃ digits, d.digits = 10 * digits := ⟨d.digits / 10, by omega⟩
      rw [ih, amount, amount, rest, Nat.mul_div_cancel_left _ (by decide), zpow_add_one₀ (by norm_num)]
      push_cast
      ring
    · rfl

/-- Zeros move into the exponent. -/
theorem digits_trim_le (fuel : Nat) (d : Decimal) :
    (trim fuel d).digits ≤ d.digits ∧ d.exponent ≤ (trim fuel d).exponent ∧ (trim fuel d).exponent ≤ d.exponent + fuel := by
  induction fuel generalizing d with
  | zero => simp [trim]
  | succ fuel ih =>
    rw [trim]
    -- A zero is taken off, or there is none.
    split_ifs with more
    · obtain ⟨less, low, high⟩ := ih ⟨d.digits / 10, d.exponent + 1⟩
      dsimp only at less low high
      omega
    · omega

/-- The power of ten is the one just above the number, if it is among those that are tried. -/
theorem magnitudeFrom_spec {r : Ratio} (proper : r.denominator ≠ 0) {fuel : Nat} {guess : Int}
    (low : 10 ^ (guess - 1) ≤ r.amount) (high : r.amount < 10 ^ (guess + fuel)) :
    10 ^ (magnitudeFrom r fuel guess - 1) ≤ r.amount ∧ r.amount < 10 ^ magnitudeFrom r fuel guess := by
  -- The guess goes up until it is above the number, and all the time the power before it is not.
  induction fuel generalizing guess with
  | zero => exact ⟨low, by simpa [magnitudeFrom] using high⟩
  | succ fuel ih =>
    have compare : r.lt (.scaled 1 10 guess) ↔ r.amount < 10 ^ guess := by
      rw [Ratio.lt_iff proper (Ratio.scaled_denominator (by decide) _ _), Ratio.amount_scaled]
      simp
    rw [magnitudeFrom]
    split_ifs with less
    · exact ⟨low, compare.1 less⟩
    · refine ih ?_ ?_
      · rw [Int.add_sub_cancel]
        exact le_of_not_gt fun more => less (compare.2 more)
      · convert high using 2
        push_cast
        omega

/-- The first grid on which something is found. -/
theorem exists_search {i : Interval} {magnitude : Int} {fuel count last : Nat} (start : count ≤ last)
    (enough : last < count + fuel) (found : ∃ n, n ≠ 0 ∧ i.onGrid (magnitude - last) = some n) :
    ∃ place n, count ≤ place ∧ (∀ before, count ≤ before → before < place →
      ∀ m, m ≠ 0 → i.onGrid (magnitude - before) ≠ some m) ∧ i.onGrid (magnitude - place) = some n ∧
      shortest.search i magnitude fuel count = trim 20 ⟨n, magnitude - place⟩ := by
  induction fuel generalizing count with
  | zero => omega
  | succ fuel ih =>
    -- Unless something is found here, the first grid is a later one.
    have later (none : ∀ n, n ≠ 0 → i.onGrid (magnitude - count) ≠ some n)
        (skips : shortest.search i magnitude (fuel + 1) count = shortest.search i magnitude fuel (count + 1)) :
        ∃ place n, count ≤ place ∧ (∀ before, count ≤ before → before < place →
          ∀ m, m ≠ 0 → i.onGrid (magnitude - before) ≠ some m) ∧ i.onGrid (magnitude - place) = some n ∧
          shortest.search i magnitude (fuel + 1) count = trim 20 ⟨n, magnitude - place⟩ := by
      obtain ⟨n, filled, here⟩ := found
      have past : count ≠ last := by
        rintro rfl
        exact none n filled here
      obtain ⟨place, n, above, first, rest⟩ := @ih (count + 1) (by omega) (by omega)
      refine ⟨place, n, by omega, fun before low high => ?_, by rwa [skips]⟩
      by_cases same : before = count
      · rwa [same]
      · exact first before (by omega) high
    cases here : i.onGrid (magnitude - count) with
    | none => exact later (by simp [here]) (by simp [shortest.search, here])
    | some n =>
      by_cases filled : n = 0
      · refine later ?_ (by simp [shortest.search, here, filled])
        rintro other some same
        rw [here, filled] at same
        exact some (Option.some.inj same).symm
      · exact ⟨count, n, Nat.le_refl _, fun before low high => absurd high (by omega), here,
          by simp [shortest.search, here, filled]⟩

/-- The estimate of a power of two by a power of ten, for all powers of 64-bit numbers. -/
theorem estimate_all : ((List.range 2098).all fun i =>
    let guess := ((i : Int) - 1074) * 30103 / 100000 - 1
    10 ^ (guess + 329).toNat * 2 ^ 1074 ≤ 2 ^ i * 10 ^ 330 && 2 ^ (i + 1) * 10 ^ 330 ≤ 10 ^ (guess + 334).toNat * 2 ^ 1074)
    = true := by
  decide +kernel

theorem estimate {length : Int} (low : -1074 ≤ length) (high : length ≤ 1023) :
    (10 : ℚ) ^ (length * 30103 / 100000 - 1 - 1) ≤ 2 ^ length ∧
      (2 : ℚ) ^ (length + 1) ≤ 10 ^ (length * 30103 / 100000 - 1 + 4) := by
  obtain ⟨i, rfl⟩ : ∃ i : Nat, length = i - 1074 := ⟨(length + 1074).toNat, by omega⟩
  have checked := List.all_eq_true.1 estimate_all i (List.mem_range.2 (by omega))
  simp only [Bool.and_eq_true, decide_eq_true_eq] at checked
  have bottom : -325 ≤ ((i : Int) - 1074) * 30103 / 100000 - 1 := by omega
  generalize ((i : Int) - 1074) * 30103 / 100000 - 1 = guess at *
  -- Both sides are scaled to be whole.
  have scaled (base : ℚ) (positive : 0 < base) {places : Int} (whole : Int) (shift : Nat) (sum : places + shift = whole) :
      base ^ places = base ^ whole / base ^ shift := by
    rw [← sum, zpow_add₀ positive.ne', zpow_natCast, mul_div_cancel_right₀ _ (pow_ne_zero _ positive.ne')]
  have whole {n : Int} (positive : 0 ≤ n) : (10 : ℚ) ^ n.toNat = 10 ^ n := by
    rw [← zpow_natCast, Int.toNat_of_nonneg positive]
  have first : (10 : ℚ) ^ (guess + 329).toNat * 2 ^ 1074 ≤ 2 ^ i * 10 ^ 330 := by exact_mod_cast checked.1
  have second : (2 : ℚ) ^ (i + 1) * 10 ^ 330 ≤ 10 ^ (guess + 334).toNat * 2 ^ 1074 := by exact_mod_cast checked.2
  clear checked
  rw [whole (by omega), ← zpow_natCast] at first
  rw [whole (by omega), ← zpow_natCast] at second
  constructor
  · rw [scaled 10 (by norm_num) (guess + 329) 330 (by omega),
      scaled 2 (by norm_num) i 1074 (by omega), div_le_div_iff₀ (by positivity) (by positivity)]
    exact first
  · rw [scaled 2 (by norm_num) (i + 1 : Nat) 1074 (by omega),
      scaled 10 (by norm_num) (guess + 334) 330 (by omega), div_le_div_iff₀ (by positivity) (by positivity)]
    exact second

/-- The digits that stand for a magnitude: all that is known about those that are found for it. -/
structure Digits (f : FloatFormat) (magnitude : Nat) (above : Int) (count n : Nat) : Prop where
  low : 10 ^ (above - 1) ≤ f.amount magnitude
  high : f.amount magnitude < 10 ^ above
  counted : count ≠ 0
  least : 10 ^ (count - 1) ≤ n
  most : n ≤ 10 ^ count
  next : NextTo f magnitude (above - count) n
  first : ∀ enough : Nat, enough ≠ 0 → 10 ^ (above - enough) < f.step magnitude / 2 → count ≤ enough

/-- Powers of ten are counted in units of a grid. -/
theorem ten_zpow_eq {above power : Int} {count places : Nat} (same : above - count + places = power) :
    (10 : ℚ) ^ power = 10 ^ places * 10 ^ (above - count) := by
  rw [← same, zpow_add₀ (by norm_num), zpow_natCast, mul_comm]

theorem Digits.filled {magnitude : Nat} {above : Int} {count n : Nat} (digits : Digits f magnitude above count n) :
    n ≠ 0 := by
  have := Nat.pow_pos (n := count - 1) (show 0 < 10 by decide)
  have := digits.least
  omega

/-- What the digits write is between the same powers of ten as the number, or the upper one. -/
theorem Digits.bounds {magnitude : Nat} {above : Int} {count n : Nat} (digits : Digits f magnitude above count n) :
    10 ^ (above - 1) ≤ (n * 10 ^ (above - count) : ℚ) ∧ (n * 10 ^ (above - count) : ℚ) ≤ 10 ^ above := by
  have unit : (0 : ℚ) < 10 ^ (above - count) := zpow_pos (by norm_num) _
  have counted := digits.counted
  constructor
  · rw [ten_zpow_eq (show above - count + (count - 1 : Nat) = above - 1 by omega)]
    exact mul_le_mul_of_nonneg_right (by exact_mod_cast digits.least) unit.le
  · rw [ten_zpow_eq (show above - count + count = above by omega)]
    exact mul_le_mul_of_nonneg_right (by exact_mod_cast digits.most) unit.le

/-- Next to a number there are as many digits as its grid has. -/
theorem NextTo.bounds {magnitude : Nat} {above : Int} {count n : Nat} (next : NextTo f magnitude (above - count) n)
    (low : 10 ^ (above - 1) ≤ f.amount magnitude) (high : f.amount magnitude < 10 ^ above) (counted : count ≠ 0) :
    10 ^ (count - 1) ≤ n ∧ n ≤ 10 ^ count := by
  have unit : (0 : ℚ) < 10 ^ (above - count) := zpow_pos (by norm_num) _
  constructor
  · have : (10 : ℚ) ^ (count - 1) * 10 ^ (above - count) < (n + 1) * 10 ^ (above - count) := by
      rw [← ten_zpow_eq (show above - count + (count - 1 : Nat) = above - 1 by omega)]
      exact low.trans_lt next.low
    have less := lt_of_mul_lt_mul_right this unit.le
    exact Nat.le_of_lt_succ (by exact_mod_cast less)
  · have : (n - 1 : ℚ) * 10 ^ (above - count) < 10 ^ count * 10 ^ (above - count) := by
      rw [← ten_zpow_eq (show above - count + count = above by omega)]
      exact next.high.trans_lt high
    have less : (n : ℚ) < 10 ^ count + 1 := by linarith [lt_of_mul_lt_mul_right this unit.le]
    exact Nat.le_of_lt_succ (by exact_mod_cast less)

/-- A grid is fine enough once it has more digits than the format. -/
theorem fine_of_lt {magnitude : Nat} {above : Int} (low : 10 ^ (above - 1) ≤ f.amount magnitude) {enough : Nat}
    (precise : 4 * 2 ^ f.fraction < 10 ^ (enough - 1)) (some_ : enough ≠ 0) :
    10 ^ (above - enough) < f.step magnitude / 2 := by
  have unit : (0 : ℚ) < 10 ^ (above - enough) := zpow_pos (by norm_num) _
  have step := f.step_pos magnitude
  -- A number has at most as many steps as there are digits in its format, and the grid has four times as many.
  have bound : f.amount magnitude < 2 * 2 ^ f.fraction * f.step magnitude := by
    have := f.halfway_le magnitude
    unfold FloatFormat.halfway at this
    linarith
  have power : (10 : ℚ) ^ (above - 1) = 10 ^ (enough - 1) * 10 ^ (above - enough) := ten_zpow_eq (by omega)
  have digits : (4 * 2 ^ f.fraction : ℚ) * 10 ^ (above - enough) < 10 ^ (enough - 1) * 10 ^ (above - enough) :=
    mul_lt_mul_of_pos_right (by exact_mod_cast precise) unit
  have scaled : (4 * 2 ^ f.fraction : ℚ) * 10 ^ (above - enough) < 4 * 2 ^ f.fraction * (f.step magnitude / 2) := by
    linarith
  exact lt_of_mul_lt_mul_left scaled (by positivity)

/-- The leading digit tells between which powers of two a number lies. -/
theorem amount_log2 {magnitude : Nat} (filled : f.significand magnitude ≠ 0) :
    2 ^ (f.place magnitude + (f.significand magnitude).log2) ≤ f.amount magnitude ∧
      f.amount magnitude < 2 ^ (f.place magnitude + (f.significand magnitude).log2 + 1) := by
  refine ⟨FloatFormat.two_pow_le_mul filled _, ?_⟩
  have next := FloatFormat.succ_mul_le_two_pow (f.significand magnitude) (f.place magnitude)
  rw [← add_assoc] at next
  exact (mul_lt_mul_of_pos_right (lt_add_one _) (f.step_pos magnitude)).trans_le next

/-- The shortest digits are the first ones that are found. -/
theorem exists_shortest (fractional : f.fraction ≠ 0) (precise : 4 * 2 ^ f.fraction < 10 ^ 19)
    (low : -1074 ≤ f.place (lower + 1)) (high : f.place (lower + 1) + f.fraction ≤ 1023) :
    ∃ above count n, Digits f (lower + 1) above count n ∧
      shortest f (f.significand (lower + 1)) (f.place (lower + 1)) = trim 20 ⟨n, above - count⟩ := by
  obtain ⟨value, proper⟩ := amount_value f (lower + 1)
  have filled : f.significand (lower + 1) ≠ 0 := FloatFormat.significand_ne_zero (Nat.succ_ne_zero lower)
  let length : Int := ((f.significand (lower + 1)).log2 : Int) + f.place (lower + 1)
  let above := magnitudeFrom (intervalOf f (lower + 1)).value 4 (length * 30103 / 100000 - 1)
  obtain ⟨least, greatest⟩ : 2 ^ length ≤ f.amount (lower + 1) ∧ f.amount (lower + 1) < 2 ^ (length + 1) := by
    rw [show length = f.place (lower + 1) + (f.significand (lower + 1)).log2 from Int.add_comm _ _]
    exact amount_log2 filled
  have few : (f.significand (lower + 1)).log2 ≤ f.fraction := by
    obtain ⟨places, digits, same, lead, few⟩ := f.exists_digits (lower + 1)
    rw [same, (FloatFormat.place_of_digits lead few).2]
    rw [same, (FloatFormat.place_of_digits lead few).2] at filled
    exact Nat.le_of_lt_succ ((Nat.log2_lt filled).2 (by rwa [Nat.pow_succ']))
  obtain ⟨below, beyond⟩ := @estimate length (by omega) (by omega)
  obtain ⟨floor, ceiling⟩ : 10 ^ (above - 1) ≤ f.amount (lower + 1) ∧ f.amount (lower + 1) < 10 ^ above := by
    rw [← value] at least greatest ⊢
    exact magnitudeFrom_spec proper (below.trans least) (greatest.trans_le beyond)
  -- On every grid something is found that is not zero, or the grid is not fine enough.
  have grid (count : Nat) (counted : count ≠ 0) (fine : 10 ^ (above - count) < f.step (lower + 1) / 2) :
      ∃ n, n ≠ 0 ∧ (intervalOf f (lower + 1)).onGrid (above - count) = some n := by
    rcases onGrid_spec fractional lower (above - count) with ⟨n, found, next⟩ | ⟨-, coarse⟩
    · have many := (next.bounds floor ceiling counted).1
      have positive : 0 < 10 ^ (count - 1) := Nat.pow_pos (by decide)
      exact ⟨n, by omega, found⟩
    · exact absurd coarse (not_le.2 fine)
  obtain ⟨count, n, counted, first, found, whole⟩ := @exists_search (intervalOf f (lower + 1)) above 20 1 20 (by decide)
    (by decide) (grid 20 (by decide) (fine_of_lt floor precise (by decide)))
  refine ⟨above, count, n, ?_, whole⟩
  rcases onGrid_spec fractional lower (above - count) with ⟨m, same, next⟩ | ⟨none, -⟩
  · obtain rfl : n = m := Option.some.inj (found.symm.trans same)
    obtain ⟨many, few⟩ := next.bounds floor ceiling (by omega)
    refine ⟨floor, ceiling, by omega, many, few, next, fun enough some_ fine => ?_⟩
    by_contra! early
    obtain ⟨m, filled, here⟩ := grid enough some_ fine
    exact first enough (by omega) early m filled here
  · rw [found] at none
    cases none

end Decimal

end WasmHost
