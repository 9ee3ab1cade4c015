import Mathlib.Algebra.Order.Field.Power
import Mathlib.Algebra.Order.Ring.Abs
import Mathlib.Data.Nat.GCD.Basic
import Mathlib.Data.Rat.Cast.Order
import Mathlib.Tactic.FieldSimp
import Mathlib.Tactic.Linarith
import Mathlib.Tactic.Positivity
import Mathlib.Tactic.Ring

/-! Decimal numbers with few digits keep away from the middles between 32-bit numbers. That `d` times a power of ten is
near `m` times a power of two says that `m / d` is near the quotient of the powers, and the convergents of a quotient tell
which fractions with small denominators are near it. -/

namespace WasmHost.Separation

/-- The last convergent of `u / v` whose denominator is within a bound, from the two before it. -/
def convergent (bound : Nat) : Nat → Nat → Nat → Nat × Nat → Nat × Nat → Nat × Nat
  | 0, _, _, _, last => last
  | fuel + 1, u, v, before, last =>
    let next := (u / v * last.1 + before.1, u / v * last.2 + before.2)
    if v = 0 ∨ bound < next.2 then last else convergent bound fuel v (u % v) last next

/-- How far two natural numbers are apart. -/
def gap (m n : Nat) : Nat := m - n + (n - m)

theorem gap_eq_abs (m n : Nat) : (gap m n : ℤ) = |(m : ℤ) - n| := by
  unfold gap
  rcases Nat.le_total m n with less | more
  · rw [abs_of_nonpos (by omega)]
    omega
  · rw [abs_of_nonneg (by omega)]
    omega

/-- Distances grow with their numbers. -/
theorem gap_mul (k m n : Nat) : gap (k * m) (k * n) = k * gap m n := by
  have scaled : (gap (k * m) (k * n) : ℤ) = k * gap m n := by
    rw [gap_eq_abs, gap_eq_abs, ← Nat.abs_cast k, ← abs_mul]
    congr 1
    push_cast
    ring
  exact_mod_cast scaled

/-- Numbers are near each other if their distance is at most the part of one of them that this divides. -/
def tolerance : Nat := 3500000000000000

/-- Numbers that are near each other are one a little less and one a little more than the other. -/
theorem bounds_of_near {x y : Nat} (near : tolerance * gap x y ≤ x) :
    x * (tolerance - 1) ≤ y * tolerance ∧ y * tolerance ≤ x * (tolerance + 1) := by
  obtain ⟨t, parts⟩ : ∃ t, tolerance = t + 1 := ⟨_, rfl⟩
  constructor
  · have apart : x ≤ y + gap x y := by unfold gap; omega
    have scaled := Nat.mul_le_mul_left tolerance apart
    rw [parts] at near scaled ⊢
    rw [Nat.add_sub_cancel]
    linarith
  · have apart : y ≤ x + gap x y := by unfold gap; omega
    have scaled := Nat.mul_le_mul_left tolerance apart
    linarith

/-- A fraction of a small denominator that is near a quotient is the given one, if the given one is near enough. -/
theorem exists_multiple {a c p q d m most : Nat} (reduced : p.Coprime q) (proper : q ≠ 0)
    (tight : tolerance * most * gap (q * a) (p * c) + q * most * a < tolerance * c) (few : d ≤ most)
    (near : tolerance * gap (d * a) (m * c) ≤ d * a) : ∃ t, d = q * t ∧ m = p * t := by
  -- Unless the fractions are the same, their difference is too large for both to be near the quotient.
  have same : p * d = q * m := by
    by_contra differ
    have apart : (1 : ℤ) ≤ |(p * d - q * m : ℤ)| := by
      refine Int.one_le_abs (sub_ne_zero.2 ?_)
      exact_mod_cast differ
    have split : (c * (p * d - q * m) : ℤ) = q * (d * a - m * c) - d * (q * a - p * c) := by ring
    have bound : (c : ℤ) ≤ q * gap (d * a) (m * c) + d * gap (q * a) (p * c) := by
      calc (c : ℤ) ≤ c * |(p * d - q * m : ℤ)| := le_mul_of_one_le_right (by positivity) apart
        _ = |(c * (p * d - q * m) : ℤ)| := by rw [abs_mul, Nat.abs_cast]
        _ = |(q * (d * a - m * c) - d * (q * a - p * c) : ℤ)| := by rw [split]
        _ ≤ |(q * (d * a - m * c) : ℤ)| + |(d * (q * a - p * c) : ℤ)| := abs_sub _ _
        _ = q * gap (d * a) (m * c) + d * gap (q * a) (p * c) := by
          rw [abs_mul, abs_mul, Nat.abs_cast, Nat.abs_cast, gap_eq_abs, gap_eq_abs]
          push_cast
          rfl
    have bound : c ≤ q * gap (d * a) (m * c) + d * gap (q * a) (p * c) := by exact_mod_cast bound
    have total := Nat.mul_le_mul_left tolerance bound
    have first := Nat.mul_le_mul_left q near
    have second := Nat.mul_le_mul_right (gap (q * a) (p * c)) (Nat.mul_le_mul_left tolerance few)
    have third := Nat.mul_le_mul_left q (Nat.mul_le_mul_right a few)
    linarith
  obtain ⟨t, rfl⟩ : q ∣ d := (reduced.symm).dvd_of_dvd_mul_left ⟨m, same⟩
  refine ⟨t, rfl, ?_⟩
  have : q * (p * t) = q * m := by rw [← same]; ring
  exact (Nat.eq_of_mul_eq_mul_left (Nat.pos_of_ne_zero proper) this).symm

/-- The most that a decimal number has as its digits. -/
def mostDigits : Nat := 34000000

/-- The decimal numbers that are nearer to a middle than all others: their digits and the places of these. -/
def exceptions : List (Nat × Int) :=
  [(7038531, -32), (14077062, -32), (28154124, -32), (25645849, -15), (28874659, 15)]

/-- None of them ends with a zero. -/
theorem mod_ten_ne_zero {d : Nat} {place : Int} (listed : (d, place) ∈ exceptions) : d % 10 ≠ 0 := by
  have all : ∀ e ∈ exceptions, e.1 % 10 ≠ 0 := by decide
  exact all _ listed

/-- What is computed for each pair of powers. Either all numbers of one kind are far below the others, or a convergent
tells all fractions near the quotient of the powers, of which there are none that count. -/
def Separated (i j : Nat) : Bool :=
  let a := 10 ^ i * 2 ^ 150
  let c := 10 ^ 52 * 2 ^ j
  if j ≠ 0 ∧ mostDigits * a * (tolerance + 1) < 2 ^ 24 * c * tolerance then true
  else if 2 ^ 25 * c * tolerance < 10 ^ 6 * a * (tolerance - 1) then true
  else
    let most := Nat.min mostDigits (2 ^ 25 * c * tolerance / (a * (tolerance - 1)))
    let fraction := convergent (tolerance * c / (2 * most * a)) 40 a c (0, 1) (1, 0)
    let p := fraction.1
    let q := fraction.2
    p.gcd q = 1 && q ≠ 0 && tolerance * most * gap (q * a) (p * c) + q * most * a < tolerance * c &&
      (most < q || 2 ^ 25 < p || q * a = p * c || q * a < tolerance * gap (q * a) (p * c) ||
        (2 ^ 25 < 2 * p && exceptions.contains (q, (i : Int) - 52)))

/-- All pairs of powers are checked. -/
theorem separated_all : ((List.range 85).all fun i => (List.range 254).all fun j => Separated i j) = true := by
  decide +kernel

/-- What the check says of numbers on a common scale. -/
theorem eq_of_near {i j d m : Nat} (first : i < 85) (second : j < 254) (low : 10 ^ 6 ≤ d) (high : d ≤ mostDigits)
    (few : m ≤ 2 ^ 25) (lead : j = 0 ∨ 2 ^ 24 ≤ m)
    (near : tolerance * gap (d * (10 ^ i * 2 ^ 150)) (m * (10 ^ 52 * 2 ^ j)) ≤ d * (10 ^ i * 2 ^ 150)) :
    d * (10 ^ i * 2 ^ 150) = m * (10 ^ 52 * 2 ^ j) ∨ (d, (i : Int) - 52) ∈ exceptions := by
  have checked : Separated i j = true :=
    List.all_eq_true.1 (List.all_eq_true.1 separated_all i (List.mem_range.2 first)) j (List.mem_range.2 second)
  unfold Separated at checked
  dsimp only at checked
  have scale : 0 < 10 ^ i * 2 ^ 150 := by positivity
  generalize 10 ^ i * 2 ^ 150 = a at *
  generalize 10 ^ 52 * 2 ^ j = c at *
  obtain ⟨above, below⟩ := bounds_of_near near
  have upper := Nat.mul_le_mul_right (c * tolerance) few
  split_ifs at checked with far far'
  · -- The fractions are too small.
    exfalso
    have enough := Nat.mul_le_mul_right (c * tolerance) (lead.resolve_left far.1)
    have short := Nat.mul_le_mul_right (a * (tolerance + 1)) high
    linarith [far.2]
  · -- The fractions are too large.
    exfalso
    have long := Nat.mul_le_mul_right (a * (tolerance - 1)) low
    linarith
  · have within : d ≤ Nat.min mostDigits (2 ^ 25 * c * tolerance / (a * (tolerance - 1))) := by
      refine Nat.le_min.2 ⟨high, ?_⟩
      rw [Nat.le_div_iff_mul_le (Nat.mul_pos scale (by decide))]
      linarith
    generalize Nat.min mostDigits (2 ^ 25 * c * tolerance / (a * (tolerance - 1))) = most at *
    generalize convergent (tolerance * c / (2 * most * a)) 40 a c (0, 1) (1, 0) = fraction at checked
    obtain ⟨p, q⟩ := fraction
    simp only [Bool.and_eq_true, Bool.or_eq_true, decide_eq_true_eq, ne_eq] at checked
    obtain ⟨⟨⟨reduced, proper⟩, tight⟩, counts⟩ := checked
    -- The fraction is a multiple of the convergent, which is too large, or the quotient itself, or too far from it.
    obtain ⟨n, rfl, rfl⟩ := exists_multiple reduced proper tight within near
    have some_ : n ≠ 0 := by
      rintro rfl
      omega
    have least (k : Nat) : k ≤ k * n := Nat.le_mul_of_pos_right k (Nat.pos_of_ne_zero some_)
    rcases counts with (((large | large) | same) | apart) | exceptional
    · exact absurd within (Nat.not_le.2 (large.trans_le (least q)))
    · exact absurd few (Nat.not_le.2 (large.trans_le (least p)))
    · left
      rw [Nat.mul_right_comm, same, Nat.mul_right_comm]
    · exfalso
      -- The distance of the multiples is a multiple of the distance.
      rw [Nat.mul_right_comm q, Nat.mul_right_comm p, Nat.mul_comm _ n, Nat.mul_comm _ n, gap_mul] at near
      have more := Nat.mul_lt_mul_of_pos_left apart (Nat.pos_of_ne_zero some_)
      linarith
    · -- The exceptional fractions have no multiples that count.
      right
      obtain ⟨large, listed⟩ := exceptional
      have whole : n < 2 := by
        by_contra! twice
        have := Nat.mul_le_mul_left p twice
        omega
      obtain rfl : n = 1 := by omega
      simpa using listed

theorem near_of_scaled {a c d m : Nat} {x y unit : ℚ} (positive : 0 < unit) (left : x * unit = (d * a : Nat))
    (right : y * unit = (m * c : Nat)) (near : tolerance * |x - y| ≤ x) :
    tolerance * gap (d * a) (m * c) ≤ d * a := by
  -- In units both numbers are whole, and so is their distance.
  have distance : ((gap (d * a) (m * c) : Nat) : ℚ) = |x - y| * unit := by
    have cast := congrArg (Int.cast (R := ℚ)) (gap_eq_abs (d * a) (m * c))
    rw [Int.cast_natCast, Int.cast_abs, Int.cast_sub, Int.cast_natCast, Int.cast_natCast, ← left, ← right, ← sub_mul,
      abs_mul, abs_of_pos positive] at cast
    exact cast
  have scaled := mul_le_mul_of_nonneg_right near positive.le
  rw [mul_assoc, ← distance, left] at scaled
  exact_mod_cast scaled

/-- Two numbers that are near each other are the same, unless they are the exceptional ones. -/
theorem eq_of_abs_sub_le {d m : Nat} {place weight : Int} (first : -52 ≤ place) (last : place ≤ 32)
    (second : -150 ≤ weight) (last' : weight ≤ 103) (low : 10 ^ 6 ≤ d) (high : d ≤ mostDigits) (few : m ≤ 2 ^ 25)
    (lead : weight = -150 ∨ 2 ^ 24 ≤ m)
    (near : tolerance * |(d * 10 ^ place - m * 2 ^ weight : ℚ)| ≤ d * 10 ^ place) :
    (d * 10 ^ place : ℚ) = m * 2 ^ weight ∨ (d, place) ∈ exceptions := by
  obtain ⟨i, here⟩ : ∃ i : Nat, place + 52 = i := ⟨(place + 52).toNat, by omega⟩
  obtain ⟨j, there⟩ : ∃ j : Nat, weight + 150 = j := ⟨(weight + 150).toNat, by omega⟩
  -- On a common scale the numbers are whole.
  have unit : (0 : ℚ) < 10 ^ (52 : Int) * 2 ^ (150 : Int) := mul_pos (zpow_pos (by norm_num) _) (zpow_pos (by norm_num) _)
  have left : (d * 10 ^ place * (10 ^ (52 : Int) * 2 ^ (150 : Int)) : ℚ) = (d * (10 ^ i * 2 ^ 150) : Nat) := by
    rw [mul_assoc, ← mul_assoc (10 ^ place), ← zpow_add₀ (by norm_num), here, zpow_natCast]
    push_cast
    rfl
  have right : (m * 2 ^ weight * (10 ^ (52 : Int) * 2 ^ (150 : Int)) : ℚ) = (m * (10 ^ 52 * 2 ^ j) : Nat) := by
    rw [mul_assoc, mul_left_comm (2 ^ weight), ← zpow_add₀ (by norm_num), there, zpow_natCast]
    push_cast
    rfl
  rcases eq_of_near (by omega) (by omega) low high few (lead.imp_left (by omega))
    (near_of_scaled unit left right near) with same | listed
  · left
    rw [← mul_left_inj' unit.ne', left, right, same]
  · right
    rwa [show place = (i : Int) - 52 by omega]

end WasmHost.Separation
