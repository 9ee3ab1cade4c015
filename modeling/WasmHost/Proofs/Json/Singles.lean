import WasmHost.Proofs.Json.Doubles
import WasmHost.Proofs.Number.Separation

/-! Numbers of 32 bits come back from their text as they were, although they are read as numbers of 64 bits first: a
number that is written keeps away from the middles between 32-bit numbers, or it is one of them, or it is one of a few
numbers that are computed. -/

namespace WasmHost.Json

open FloatFormat Separation

/-- Finite magnitudes of 32 bits. -/
def Narrow (magnitude : Nat) : Prop := magnitude < single.topField * 2 ^ single.fraction

/-- Middles have one digit more than the numbers. -/
theorem exists_middle {magnitude : Nat} (narrow : Narrow magnitude) :
    ∃ (m : Nat) (weight : Int), single.halfway magnitude = m * 2 ^ weight ∧ single.step magnitude / 2 = 2 ^ weight ∧
      m ≠ 0 ∧ m ≤ 2 ^ 25 ∧ (weight = -150 ∨ 2 ^ 24 ≤ m) ∧ -150 ≤ weight ∧ weight ≤ 103 := by
  have lowest : single.lowest = -149 := by decide
  have width : 2 ^ single.fraction = 8388608 := by decide
  have top : single.topField = 255 := by decide
  obtain ⟨places, digits, rfl, lead, few⟩ := single.exists_digits magnitude
  have half : (2 : ℚ) ^ (single.lowest + places) = 2 * 2 ^ (single.lowest + places - 1) := by
    rw [← zpow_one_add₀ (by norm_num)]
    congr 1
    omega
  -- A middle is an odd number of half steps.
  refine ⟨2 * digits + 1, single.lowest + places - 1, ?_, ?_, by omega, by omega, by omega, by omega, ?_⟩
  · rw [halfway_of_digits lead few, half]
    push_cast
    ring
  · rw [step_of_digits lead few, half]
    ring
  · unfold Narrow at narrow
    rw [top, width] at narrow
    omega

theorem tolerance_cast : (tolerance : ℚ) = 3500000000000000 := by norm_num [tolerance]

/-- Next to a middle, a number is written with few digits. -/
theorem digits_le {lower n m count : Nat} {above weight : Int}
    (next : Decimal.NextTo single (lower + 1) (above - count) n) (few : m ≤ 2 ^ 25)
    (apart : |single.amount (lower + 1) - m * 2 ^ weight| = 2 ^ weight)
    (near : tolerance * |(n * 10 ^ (above - count : Int) - m * 2 ^ weight : ℚ)| ≤ n * 10 ^ (above - count : Int)) :
    n ≤ mostDigits := by
  have grid : (0 : ℚ) < 10 ^ (above - count : Int) := zpow_pos (by norm_num) _
  have low := next.low
  have high := next.high
  have unit : (0 : ℚ) < 2 ^ weight := zpow_pos (by norm_num) _
  have middle : (m * 2 ^ weight : ℚ) ≤ 2 ^ 25 * 2 ^ weight :=
    mul_le_mul_of_nonneg_right (by exact_mod_cast few) unit.le
  -- The number is at most a step of its grid from the magnitude, and the middle half a step of the magnitude.
  have reach := abs_sub_abs_le_abs_sub (single.amount (lower + 1) - m * 2 ^ weight)
    (n * 10 ^ (above - count : Int) - m * 2 ^ weight)
  have within : |single.amount (lower + 1) - m * 2 ^ weight - (n * 10 ^ (above - count : Int) - m * 2 ^ weight)| ≤
      10 ^ (above - count : Int) := by
    rw [abs_le]
    constructor <;> linarith
  have below := le_abs_self (n * 10 ^ (above - count : Int) - m * 2 ^ weight : ℚ)
  rw [tolerance_cast] at near
  rw [apart] at reach
  by_contra! many
  have least : (34000001 : ℚ) ≤ n := by exact_mod_cast many
  have scaled := mul_le_mul_of_nonneg_right least grid.le
  generalize (n * 10 ^ (above - count : Int) : ℚ) = number at *
  generalize (m * 2 ^ weight : ℚ) = middle_ at *
  generalize |number - middle_| = distance at *
  linarith

/-- Numbers that are written keep away from middles. -/
theorem eq_or_mem {lower n magnitude count : Nat} {above : Int}
    (digits : Decimal.Digits single (lower + 1) above count n) (short : count ≤ 9) (bottom : -45 < above) (top : above ≤ 39)
    (narrow : Narrow magnitude)
    (apart : |single.amount (lower + 1) - single.halfway magnitude| = single.step magnitude / 2)
    (near : tolerance * |n * 10 ^ (above - count : Int) - single.halfway magnitude| ≤ n * 10 ^ (above - count : Int)) :
    n * 10 ^ (above - count : Int) = single.halfway magnitude ∨ (n, above - count) ∈ exceptions := by
  obtain ⟨m, weight, middle, half, filled, few, lead, low, high⟩ := exists_middle narrow
  rw [middle] at near apart ⊢
  rw [half] at apart
  have most := digits_le digits.next few apart near
  have counted := digits.counted
  -- The bound on the distance is computed for eight digits, and for seven.
  by_cases all : count = 8
  · subst all
    have least : 10 ^ 6 ≤ n := (show 10 ^ 6 ≤ 10 ^ (8 - 1) by decide).trans digits.least
    exact eq_of_abs_sub_le (by omega) (by omega) low high least most few lead near
  · -- Fewer digits are filled up with zeros.
    have seven : count ≤ 7 := by
      by_contra! more
      obtain rfl : count = 9 := by omega
      have : 10 ^ (9 - 1) ≤ n := digits.least
      unfold mostDigits at most
      omega
    have power : (10 : ℚ) ^ (above - count : Int) = 10 ^ (7 - count) * 10 ^ (above - (7 : Nat) : Int) :=
      Decimal.ten_zpow_eq (by omega)
    have padded : (n * 10 ^ (above - count : Int) : ℚ) = (n * 10 ^ (7 - count) : Nat) * 10 ^ (above - 7 : Int) := by
      rw [power]
      push_cast
      ring
    have least : 10 ^ 6 ≤ n * 10 ^ (7 - count) := by
      calc 10 ^ 6 = 10 ^ (count - 1) * 10 ^ (7 - count) := by rw [← Nat.pow_add]; congr 1; omega
        _ ≤ n * 10 ^ (7 - count) := Nat.mul_le_mul_right _ digits.least
    have greatest : n * 10 ^ (7 - count) ≤ 10 ^ 7 := by
      calc n * 10 ^ (7 - count) ≤ 10 ^ count * 10 ^ (7 - count) := Nat.mul_le_mul_right _ digits.most
        _ = 10 ^ 7 := by rw [← Nat.pow_add]; congr 1; omega
    rw [padded] at near ⊢
    refine (eq_of_abs_sub_le (by omega) (by omega) low high least (greatest.trans (by decide)) few lead near).imp_right
      fun listed => ?_
    -- A number that was filled up ends with a zero, and none of the exceptions does.
    obtain ⟨missing, same⟩ : ∃ missing, 7 - count = missing := ⟨_, rfl⟩
    cases missing with
    | zero =>
      rw [same, Nat.pow_zero, Nat.mul_one] at listed
      rwa [show above - count = above - 7 by omega]
    | succ missing =>
      rw [same, Nat.pow_succ, ← Nat.mul_assoc] at listed
      exact absurd (Nat.mul_mod_left _ _) (mod_ten_ne_zero listed)

/-- What is found for numbers of 32 bits. -/
theorem exists_digits_single {lower : Nat} (narrow : Narrow (lower + 1)) :
    ∃ above count n, Decimal.Digits single (lower + 1) above count n ∧ count ≤ 9 ∧ -45 < above ∧ above ≤ 39 ∧
      Decimal.shortest single (single.significand (lower + 1)) (single.place (lower + 1)) =
        .trim 20 ⟨n, above - count⟩ := by
  have lowest : single.lowest = -149 := by decide
  have bounds := place_bounds narrow
  have fraction : (single.fraction : Int) = 23 := by decide
  have top : ((single.topField - 2 : Nat) : Int) = 253 := by decide
  obtain ⟨above, count, n, digits, whole⟩ := @Decimal.exists_shortest single lower (by decide) (by decide)
    (by omega) (by omega)
  have ten : (1 : ℚ) < 10 := by norm_num
  refine ⟨above, count, n, digits, ?_, ?_, ?_, whole⟩
  · exact digits.first 9 (by decide) (Decimal.fine_of_lt digits.low (by decide) (by decide))
  · -- The least number is more than a power of ten.
    have least := two_pow_lowest_le (f := single) lower
    have power : (10 : ℚ) ^ (-45 : Int) < 2 ^ (-149 : Int) := by norm_num
    rw [lowest] at least
    exact (zpow_lt_zpow_iff_right₀ ten).1 (power.trans_le (least.trans digits.high.le))
  · -- The greatest one is less than another.
    have reserved : single.topField * 2 ^ single.fraction = 254 * 2 ^ single.fraction + 2 ^ single.fraction := by decide
    have weight : single.lowest + single.fraction + (254 : Nat) = 128 := by decide
    have most : single.amount (lower + 1) < 2 ^ (128 : Int) := by
      rw [← weight, ← amount_lead, ← reserved]
      exact amount_strictMono narrow
    have power : (2 : ℚ) ^ (128 : Int) < 10 ^ (39 : Int) := by norm_num
    have less := (zpow_lt_zpow_iff_right₀ ten).1 (digits.low.trans_lt (most.trans power))
    omega

/-- Powers of ten are powers of five on a scale of powers of two. -/
theorem five_pow_dvd {d m : Nat} {place weight : Int} (same : (d * 10 ^ place : ℚ) = m * 2 ^ weight) :
    (0 ≤ place → 5 ^ place.natAbs ∣ m) ∧ (place ≤ 0 → 5 ^ place.natAbs ∣ d) := by
  -- Both sides are scaled to be whole.
  obtain ⟨shift, up⟩ : ∃ shift : Nat, 0 ≤ weight + shift := ⟨weight.natAbs, by omega⟩
  have coprime (k j : Nat) : (5 ^ k).Coprime (2 ^ j) := Nat.Coprime.pow _ _ (by decide)
  have scaled : (m * 2 ^ weight * 2 ^ shift : ℚ) = (m * 2 ^ (weight + shift).toNat : Nat) := by
    rw [mul_assoc, ← zpow_natCast, ← zpow_add₀ (by norm_num)]
    push_cast
    rw [← zpow_natCast, Int.toNat_of_nonneg up]
  have ten (k : Nat) : (10 : ℚ) ^ k = 5 ^ k * 2 ^ k := by
    rw [← mul_pow]
    norm_num
  constructor
  · intro positive
    have whole : d * (5 ^ place.natAbs * 2 ^ place.natAbs) * 2 ^ shift = m * 2 ^ (weight + shift).toNat := by
      have power : (10 : ℚ) ^ place = 5 ^ place.natAbs * 2 ^ place.natAbs := by
        rw [← ten, ← zpow_natCast, Int.natAbs_of_nonneg positive]
      rw [← same, power] at scaled
      exact_mod_cast scaled
    exact (coprime _ _).dvd_of_dvd_mul_right ⟨d * 2 ^ place.natAbs * 2 ^ shift, by rw [← whole]; ring⟩
  · intro negative
    have whole : d * 2 ^ shift = m * 2 ^ (weight + shift).toNat * (5 ^ place.natAbs * 2 ^ place.natAbs) := by
      have power : (10 : ℚ) ^ place * (5 ^ place.natAbs * 2 ^ place.natAbs) = 1 := by
        rw [← ten, ← zpow_natCast, ← zpow_add₀ (by norm_num), show place + (place.natAbs : Int) = 0 by omega, zpow_zero]
      have cast : (d * 2 ^ shift : ℚ) =
          (m * 2 ^ (weight + shift).toNat : Nat) * (5 ^ place.natAbs * 2 ^ place.natAbs) := by
        calc (d * 2 ^ shift : ℚ) = d * 10 ^ place * 2 ^ shift * (5 ^ place.natAbs * 2 ^ place.natAbs) := by
              rw [mul_right_comm (d : ℚ), mul_assoc (d * 2 ^ shift : ℚ), power, mul_one]
          _ = (m * 2 ^ (weight + shift).toNat : Nat) * (5 ^ place.natAbs * 2 ^ place.natAbs) := by rw [same, scaled]
      exact_mod_cast cast
    exact (coprime _ _).dvd_of_dvd_mul_right
      ⟨m * 2 ^ (weight + shift).toNat * 2 ^ place.natAbs, by rw [whole]; ring⟩

/-- Middles are read exactly, because no power of five with many digits divides them. -/
theorem amount_of_middle {n m near : Nat} {place weight : Int} {number : ℚ} (scaled : Scaled n place number near)
    (same : (n * 10 ^ place : ℚ) = m * 2 ^ weight) (some_ : n ≠ 0) (filled : m ≠ 0) (short : n ≤ 10 ^ 14)
    (few : m ≤ 2 ^ 25) (low : -150 ≤ weight) : double.amount near = n * 10 ^ place := by
  -- A power of five divides one of both numbers, and they are less than its 23rd.
  have small : place.natAbs ≤ 22 := by
    by_contra! large
    have power : 5 ^ 23 ≤ 5 ^ place.natAbs := Nat.pow_le_pow_right (by decide) large
    obtain ⟨up, down⟩ := five_pow_dvd same
    rcases Int.le_total 0 place with positive | negative
    · have := Nat.le_of_dvd (Nat.pos_of_ne_zero filled) (up positive)
      omega
    · have := Nat.le_of_dvd (Nat.pos_of_ne_zero some_) (down negative)
      omega
  have exact_ := scaled.exact (short.trans (by decide)) small
  -- The middle is a number of 64 bits, so nothing is lost when it is scaled.
  obtain ⟨magnitude, denoted⟩ := exists_amount_of_le (f := double) (show double.lowest ≤ weight by
    have : double.lowest = -1074 := by decide
    omega) (few.trans (show 2 ^ 25 ≤ 2 * 2 ^ double.fraction by decide))
  have nearest := scaled.nearest
  rw [exact_, same, ← denoted] at nearest
  rw [nearest.eq_of_amount, denoted, same]

/-- Two roundings are within the tolerance. -/
theorem abs_sub_le_of_close {x y : ℚ} (positive : 0 ≤ x) (positive' : 0 ≤ y)
    (close : Close (double.grain * double.grain) x y) : tolerance * |x - y| ≤ x := by
  have factor : double.grain * double.grain ≤ 1 + 1 / 3500000000000000 := by
    rw [grain_double]
    norm_num
  obtain ⟨low, high⟩ := close.mono positive positive' factor
  rw [tolerance_cast]
  -- Either of the two may be the larger one.
  rcases le_total x y with less | more
  · rw [abs_of_nonpos (by linarith)]
    linarith
  · rw [abs_of_nonneg (by linarith)]
    linarith

/-- Whatever is read of a number that is written, the number of 32 bits that is nearest to it is the same, unless the
number is one of the few that are computed. -/
theorem nearest_of_near {lower count n : Nat} {above : Int} {y : ℚ} (narrow : Narrow (lower + 1))
    (digits : Decimal.Digits single (lower + 1) above count n) (short : count ≤ 9) (bottom : -45 < above)
    (top : above ≤ 39) (usual : (n, above - count) ∉ exceptions)
    (near : tolerance * |n * 10 ^ (above - count : Int) - y| ≤ n * 10 ^ (above - count : Int))
    (middle : ∀ magnitude, Narrow magnitude → n * 10 ^ (above - count : Int) = single.halfway magnitude →
      y = single.halfway magnitude) : single.Nearest y (lower + 1) := by
  have nearest := digits.next.nearest
  -- A middle between the two numbers is the one that is written, and then it is read exactly.
  have keeps {magnitude : Nat} (narrow' : Narrow magnitude)
      (apart : |single.amount (lower + 1) - single.halfway magnitude| = single.step magnitude / 2)
      (between : |n * 10 ^ (above - count : Int) - single.halfway magnitude| ≤ |n * 10 ^ (above - count : Int) - y|) :
      n * 10 ^ (above - count : Int) = single.halfway magnitude ∧ y = single.halfway magnitude := by
    have within := (mul_le_mul_of_nonneg_left between (Nat.cast_nonneg tolerance)).trans near
    have same := (eq_or_mem digits short bottom top narrow' apart within).resolve_right usual
    exact ⟨same, middle magnitude narrow' same⟩
  constructor
  · intro before next
    obtain rfl : lower = before := by omega
    by_cases above_ : single.halfway lower < y
    · exact .inl above_
    · right
      have start := nearest.halfway_le
      have apart : |single.amount (lower + 1) - single.halfway lower| = single.step lower / 2 := by
        have := single.step_pos lower
        rw [amount_succ, halfway, abs_of_nonneg (by linarith)]
        ring
      obtain ⟨same, exact_⟩ := keeps ((Nat.lt_succ_self lower).trans narrow) apart (by
        rw [abs_of_nonneg (by linarith), abs_of_nonneg (by linarith)]
        linarith)
      refine ⟨exact_.symm, ?_⟩
      rcases nearest.above lower rfl with inside | ⟨-, even⟩
      · linarith
      · exact even
  · by_cases below : y < single.halfway (lower + 1)
    · exact .inl below
    · right
      have stop := nearest.le_halfway
      have apart : |single.amount (lower + 1) - single.halfway (lower + 1)| = single.step (lower + 1) / 2 := by
        have := single.step_pos (lower + 1)
        rw [halfway, abs_of_nonpos (by linarith)]
        ring
      obtain ⟨same, exact_⟩ := keeps narrow apart (by
        rw [abs_of_nonpos (by linarith), abs_of_nonpos (by linarith)]
        linarith)
      refine ⟨exact_, ?_⟩
      rcases nearest.below with inside | ⟨-, even⟩
      · linarith
      · exact even

/-- The few numbers that are nearer to middles than others are computed. -/
theorem scale_of_exceptions : (exceptions.all fun e => [false, true].all fun negative =>
    (scale (Written.gathered 13 (.trim 20 ⟨e.1, e.2⟩)).digits (Written.gathered 13 (.trim 20 ⟨e.1, e.2⟩)).exponent).any
      fun near => double.convert single (double.withSign negative near) = single.ofDecimal negative ⟨e.1, e.2⟩) = true := by
  decide +kernel

theorem exists_scale_exception {lower n : Nat} {place : Int} (narrow : Narrow (lower + 1)) (some_ : n ≠ 0)
    (nearest : single.Nearest (n * 10 ^ place) (lower + 1)) (listed : (n, place) ∈ exceptions) :
    ∃ near, scale (Written.gathered 13 (.trim 20 ⟨n, place⟩)).digits
        (Written.gathered 13 (.trim 20 ⟨n, place⟩)).exponent = some near ∧
      ∀ negative, double.convert single (double.withSign negative near) = single.withSign negative (lower + 1) := by
  have checked (negative : Bool) := List.all_eq_true.1 (List.all_eq_true.1 scale_of_exceptions _ listed) negative
    (by cases negative <;> decide)
  obtain ⟨near, scaled, -⟩ := (Option.any_eq_true _ _).1 (checked false)
  refine ⟨near, scaled, fun negative => ?_⟩
  have converted := checked negative
  rw [scaled, Option.any_some, decide_eq_true_eq] at converted
  -- The magnitude is the one that is computed for the digits.
  obtain ⟨same, nearest', rounded⟩ := exists_ofDecimal (f := single) (by decide) (d := ⟨n, place⟩) some_ negative
  obtain rfl := nearest.eq nearest'
  rw [converted, rounded, pack, if_neg (Nat.not_le.2 narrow)]

/-- The numbers of 32 bits are far from both ends of those of 64 bits. -/
theorem bounds_of_close {x y : ℚ} (close : Close double.grain x y) (least : 10 ^ (-45 : Int) ≤ x)
    (greatest : x ≤ 10 ^ (39 : Int)) : 0 < x ∧ 2 ^ (-1022 : Int) ≤ y ∧ y ≤ 10 ^ 308 := by
  have one := double.one_lt_grain
  have two : double.grain ≤ 2 := by
    rw [grain_double]
    norm_num
  have positive : 0 < x := (zpow_pos (by norm_num) _).trans_le least
  have positive' : 0 < y := pos_of_mul_pos_right (positive.trans_le close.le) (by linarith)
  refine ⟨positive, ?_, ?_⟩
  · -- One factor of rounding is less than two, which leaves much room at the lower end,
    have half : (2 : ℚ) ^ (-151 : Int) ≤ 10 ^ (-45 : Int) / 2 := by norm_num
    refine (zpow_le_zpow_right₀ (by norm_num) (by decide)).trans (half.trans ?_)
    rw [div_le_iff₀' (by norm_num)]
    exact least.trans (close.le.trans (mul_le_mul_of_nonneg_right two positive'.le))
  · -- and at the upper one.
    have power : (2 * 10 ^ (39 : Int) : ℚ) ≤ 10 ^ 40 := by norm_num
    calc y ≤ 2 * x := close.ge.trans (mul_le_mul_of_nonneg_right two positive.le)
      _ ≤ 2 * 10 ^ (39 : Int) := mul_le_mul_of_nonneg_left greatest (by norm_num)
      _ ≤ 10 ^ 308 := power.trans (pow_le_pow_right₀ (by norm_num) (by decide))

/-- Numbers of 32 bits come back as they were. -/
theorem exists_scale_single {lower : Nat} (narrow : Narrow (lower + 1)) :
    ∃ near, scale (printed single 13 (lower + 1)).digits (printed single 13 (lower + 1)).exponent = some near ∧
      ∀ negative, double.convert single (double.withSign negative near) = single.withSign negative (lower + 1) := by
  obtain ⟨above, count, n, digits, small, bottom, top, whole⟩ := exists_digits_single narrow
  obtain ⟨⟨nearest, filled⟩, few, place, amount⟩ := printed_of_digits 13 digits whole
  by_cases usual : (n, above - count) ∈ exceptions
  · unfold printed
    rw [whole]
    exact exists_scale_exception narrow digits.filled digits.next.nearest usual
  have short : (printed single 13 (lower + 1)).digits ≤ 10 ^ 14 := by
    have := Nat.pow_le_pow_right (show 0 < 10 by decide) small
    omega
  have moderate : (printed single 13 (lower + 1)).exponent.natAbs ≤ 308 := by omega
  obtain ⟨number, near, scaled, result⟩ := exists_scaled filled (short.trans_lt (by decide)) moderate
  have tight := scaled.tight (short.trans (by decide))
  -- The number is far from both ends of the numbers of 64 bits.
  obtain ⟨floor, ceiling⟩ := digits.bounds
  have least : (10 : ℚ) ^ (-45 : Int) ≤ n * 10 ^ (above - count : Int) :=
    (zpow_le_zpow_right₀ (by norm_num) (by omega)).trans floor
  have greatest : (n * 10 ^ (above - count : Int) : ℚ) ≤ 10 ^ (39 : Int) :=
    ceiling.trans (zpow_le_zpow_right₀ (by norm_num) top)
  rw [← amount] at least greatest
  obtain ⟨positive, normal, few'⟩ := bounds_of_close tight least greatest
  have finite := finite_of_le scaled.nearest few'
  have close := tight.trans (close_of_le scaled.nearest normal).symm (by linarith [double.one_lt_grain])
    (by linarith [double.one_lt_grain])
  refine ⟨near, result finite, fun negative => ?_⟩
  have read : single.Nearest (double.amount near) (lower + 1) := by
    refine nearest_of_near narrow digits small bottom top usual ?_ fun magnitude narrow' same => ?_
    · rw [← amount]
      exact abs_sub_le_of_close positive.le (double.amount_nonneg near) close
    · obtain ⟨m, weight, middle, -, some_, few, -, low, -⟩ := exists_middle narrow'
      rw [← same, ← amount]
      exact amount_of_middle scaled (amount.trans (same.trans middle)) filled some_ short few low
  have fractional' : single.fraction ≠ 0 := by decide
  obtain ⟨back, nearest', converted⟩ := exists_convert finite fractional' (ne_zero_of_le scaled.nearest normal) negative
  rw [converted, nearest'.eq read, pack, if_neg (Nat.not_le.2 narrow)]

/-- Numbers of 32 bits that are written come back as they were. -/
theorem exists_floatValue_single {magnitude : Nat} (narrow : Narrow magnitude) (negative : Bool) :
    ∃ near, floatValue .single (single.withSign negative magnitude) = .double (double.withSign negative near) ∧
      double.convert single (double.withSign negative near) = single.withSign negative magnitude := by
  unfold floatValue
  rw [decode_withSign narrow, if_pos rfl]
  dsimp only
  -- Zero is written without its digits being looked for.
  cases magnitude with
  | zero =>
    refine ⟨0, ?_, by cases negative <;> decide⟩
    rw [if_pos (by decide), value_zero negative (by decide)]
  | succ lower =>
    obtain ⟨near, scaled, back⟩ := exists_scale_single narrow
    obtain ⟨above, count, n, digits, small, bottom, top, whole⟩ := exists_digits_single narrow
    obtain ⟨-, few, place, -⟩ := printed_of_digits 13 digits whole
    have short : (printed single 13 (lower + 1)).digits < 2 ^ 64 := by
      have := Nat.pow_le_pow_right (show 0 < 10 by decide) small
      omega
    refine ⟨near, ?_, back negative⟩
    rw [if_neg (significand_ne_zero (Nat.succ_ne_zero lower)), value_shortest (by decide) short (by omega), scaled]
    rfl

end WasmHost.Json
