import Mathlib.Algebra.Group.Nat.Defs
import Mathlib.Tactic.SplitIfs
import WasmHost.Number.FloatArith

/-! The results of arithmetic fit the widths that they are computed at. -/

namespace WasmHost

namespace Integer

theorem modulus_eq_pow (width : Nat) : modulus width = 2 ^ width := modulus_eq width

theorem wrap_lt_pow (width n : Nat) : wrap width n < 2 ^ width := modulus_eq_pow width ▸ wrap_lt width n

/-- The pattern of an integer fits, whatever the integer. -/
theorem ofInt_lt (width : Nat) (i : Int) : ofInt width i < 2 ^ width := by
  have positive : (0 : Int) < modulus width := by
    rw [modulus_eq_pow]
    exact Int.natCast_pos.2 (Nat.two_pow_pos width)
  have lower := Int.emod_nonneg i (by omega : (modulus width : Int) ≠ 0)
  have upper := Int.emod_lt_of_pos i positive
  rw [ofInt, ← modulus_eq_pow]
  omega

theorem ofBool_le (b : Bool) : ofBool b ≤ 1 := by cases b <;> decide

/-- A shift to the right makes nothing larger. -/
theorem shrU_le (width a b : Nat) : shrU width a b ≤ a := by
  rw [shrU, Nat.shiftRight_eq_div_pow]
  exact Nat.div_le_self _ _

theorem clz_le (width a : Nat) : clz width a ≤ width := by
  unfold clz
  split <;> omega

theorem ctz_le (width a : Nat) : ctz width a ≤ width := by
  induction width generalizing a with
  | zero => exact Nat.le_refl 0
  | succ width ih =>
    unfold ctz
    -- A set bit ends the count.
    split
    · exact Nat.zero_le _
    · have := ih (a / 2)
      omega

theorem popcnt_le (width a : Nat) : popcnt width a ≤ width := by
  induction width generalizing a with
  | zero => exact Nat.le_refl 0
  | succ width ih =>
    unfold popcnt
    have := ih (a / 2)
    omega

end Integer

namespace FloatFormat

/-- The formats of numbers that guests compute with. -/
def Known (f : FloatFormat) : Prop := f = single ∨ f = double

variable {f : FloatFormat}

theorem pow_width (f : FloatFormat) : 2 ^ f.width = 2 * f.signBit := by
  rw [width, signBit, Integer.modulus_eq_pow, Nat.add_assoc, Nat.pow_add, Nat.pow_one]

theorem signBit_pos (f : FloatFormat) : 0 < f.signBit := by
  rw [signBit, Integer.modulus_eq_pow]
  exact Nat.two_pow_pos _

theorem fraction_pos (f : FloatFormat) : 0 < Integer.modulus f.fraction := by
  rw [Integer.modulus_eq_pow]
  exact Nat.two_pow_pos _

theorem magnitude_lt (f : FloatFormat) (bits : Nat) : f.magnitude bits < f.signBit := Nat.mod_lt _ f.signBit_pos

/-- A magnitude with a sign fits the format. -/
theorem withSign_lt {magnitude : Nat} (small : magnitude < f.signBit) (negative : Bool) :
    f.withSign negative magnitude < 2 ^ f.width := by
  rw [pow_width, withSign]
  split <;> omega

/-- The magnitude of an infinity leaves room for a fraction. -/
theorem top_add_lt {stored : Nat} (small : stored < Integer.modulus f.fraction) :
    f.topField * Integer.modulus f.fraction + stored < f.signBit := by
  simp only [topField, signBit, Integer.modulus_eq_pow, Nat.pow_add] at *
  have positive : 0 < 2 ^ f.exponent := Nat.two_pow_pos _
  calc (2 ^ f.exponent - 1) * 2 ^ f.fraction + stored
      < (2 ^ f.exponent - 1) * 2 ^ f.fraction + 2 ^ f.fraction := Nat.add_lt_add_left small _
    _ = 2 ^ f.exponent * 2 ^ f.fraction := by rw [← Nat.succ_mul, Nat.succ_eq_add_one, Nat.sub_add_cancel positive]

/-- With a fraction, an infinity is no number, but still a pattern. -/
theorem infinity_add_lt {stored : Nat} (small : stored < Integer.modulus f.fraction) (negative : Bool) :
    f.infinity negative + stored < 2 ^ f.width := by
  have top := top_add_lt small
  rw [pow_width, infinity, withSign]
  split <;> omega

theorem infinity_lt (f : FloatFormat) (negative : Bool) : f.infinity negative < 2 ^ f.width :=
  infinity_add_lt f.fraction_pos negative

/-- A number that is rounded is an infinity, or below all of them. -/
theorem round_lt (f : FloatFormat) (negative : Bool) (significand : Nat) (exponent : Int) (rest : Bool) :
    f.round negative significand exponent rest < 2 ^ f.width := by
  have top : f.topField * Integer.modulus f.fraction < f.signBit := by simpa using top_add_lt f.fraction_pos
  unfold round
  dsimp only
  -- Zero, an infinity, or a number below it, whether its digits are kept or rounded away.
  split_ifs
  · exact withSign_lt f.signBit_pos negative
  · exact f.infinity_lt negative
  · exact withSign_lt (by omega) negative
  · exact f.infinity_lt negative
  · exact withSign_lt (by omega) negative

theorem roundInt_lt (f : FloatFormat) (zero : Bool) (i exponent : Int) : f.roundInt zero i exponent < 2 ^ f.width := by
  unfold roundInt
  split
  · exact withSign_lt f.signBit_pos zero
  · exact f.round_lt _ _ _ _

variable {a b : Nat}

/-- A pattern that becomes quiet stays in its format. -/
theorem quiet_lt (known : f.Known) (fits : a < 2 ^ f.width) : f.quiet a < 2 ^ f.width := by
  unfold quiet
  split
  · exact fits
  · rename_i loud
    -- The bit is not set, so that nothing is carried.
    rcases known with rfl | rfl
    · change ¬ a / 4194304 % 2 = 1 at loud
      change a < 4294967296 at fits
      show a + 4194304 < 4294967296
      omega
    · change ¬ a / 2251799813685248 % 2 = 1 at loud
      change a < 18446744073709551616 at fits
      show a + 2251799813685248 < 18446744073709551616
      omega

theorem defaultNan_lt (known : f.Known) : f.defaultNan < 2 ^ f.width := by
  rcases known with rfl | rfl <;> decide

theorem propagate_lt (known : f.Known) (left : a < 2 ^ f.width) (right : b < 2 ^ f.width) :
    f.propagate a b < 2 ^ f.width := by
  unfold propagate
  split
  · exact quiet_lt known left
  · split
    · exact quiet_lt known right
    · exact defaultNan_lt known

theorem abs_lt (f : FloatFormat) (a : Nat) : f.abs a < 2 ^ f.width := withSign_lt (f.magnitude_lt a) false

theorem neg_lt (f : FloatFormat) (a : Nat) : f.neg a < 2 ^ f.width := withSign_lt (f.magnitude_lt a) _

theorem copysign_lt (f : FloatFormat) (a b : Nat) : f.copysign a b < 2 ^ f.width := withSign_lt (f.magnitude_lt a) _

section

variable (known : f.Known) (left : a < 2 ^ f.width) (right : b < 2 ^ f.width)

include known left

include right in
theorem add_lt : f.add a b < 2 ^ f.width := by
  unfold add
  -- What is no number is passed on or made; all the rest is an operand or rounded.
  split
  · exact propagate_lt known left right
  · exact propagate_lt known left right
  · split
    · exact left
    · exact defaultNan_lt known
  · exact left
  · exact right
  · exact f.roundInt_lt _ _ _

include right in
theorem sub_lt : f.sub a b < 2 ^ f.width := by
  unfold sub
  split
  · exact propagate_lt known left right
  · exact add_lt known left (f.neg_lt b)

include right in
theorem mul_lt : f.mul a b < 2 ^ f.width := by
  unfold mul
  -- What is no number is passed on or made; all the rest is an infinity or rounded.
  split
  · exact propagate_lt known left right
  · exact propagate_lt known left right
  · exact f.infinity_lt _
  · split
    · exact defaultNan_lt known
    · exact f.infinity_lt _
  · split
    · exact defaultNan_lt known
    · exact f.infinity_lt _
  · exact f.round_lt _ _ _ _

include right in
theorem div_lt : f.div a b < 2 ^ f.width := by
  unfold div
  -- What is no number is passed on or made; all the rest is an infinity, a zero or rounded.
  split
  · exact propagate_lt known left right
  · exact propagate_lt known left right
  · exact defaultNan_lt known
  · exact f.infinity_lt _
  · exact withSign_lt f.signBit_pos _
  · split
    · split
      · exact defaultNan_lt known
      · exact f.infinity_lt _
    · exact f.round_lt _ _ _ _

include right in
theorem min_lt : f.min a b < 2 ^ f.width := by
  unfold min
  split_ifs
  · exact propagate_lt known left right
  · exact left
  · exact right
  · exact left
  · exact right

include right in
theorem max_lt : f.max a b < 2 ^ f.width := by
  unfold max
  split_ifs
  · exact propagate_lt known left right
  · exact right
  · exact left
  · exact right
  · exact left

theorem sqrt_lt : f.sqrt a < 2 ^ f.width := by
  unfold sqrt
  -- Only zero and positive numbers have a root.
  split
  · exact quiet_lt known left
  · split
    · exact defaultNan_lt known
    · exact left
  · split
    · exact left
    · split
      · exact defaultNan_lt known
      · exact f.round_lt _ _ _ _

theorem toIntegral_lt (r : Rounding) : f.toIntegral r a < 2 ^ f.width := by
  unfold toIntegral
  split
  · exact quiet_lt known left
  · exact left
  · split
    · exact left
    · exact f.round_lt _ _ _ _

end

theorem ofInt_lt (f : FloatFormat) (i : Int) : f.ofInt i < 2 ^ f.width := f.roundInt_lt _ _ _

/-- What a pattern stores is smaller than the fraction has values. -/
theorem payload_lt {negative : Bool} {payload : Nat} (decoded : f.decode a = .nan negative payload) :
    payload < Integer.modulus f.fraction := by
  unfold decode at decoded
  dsimp only at decoded
  split_ifs at decoded
  cases decoded
  exact Nat.mod_lt _ f.fraction_pos

/-- A number of one format fits the other one when it is converted. -/
theorem convert_lt {to_ : FloatFormat} (formats : f = double ∧ to_ = single ∨ f = single ∧ to_ = double) (a : Nat) :
    convert f to_ a < 2 ^ to_.width := by
  unfold convert
  split
  · exact to_.infinity_lt _
  · exact to_.round_lt _ _ _ _
  · rename_i negative payload decoded
    have small := payload_lt decoded
    -- The payload is moved to the fraction of the other format, which leaves the infinity as it is.
    rcases formats with ⟨rfl, rfl⟩ | ⟨rfl, rfl⟩
    · refine quiet_lt (.inl rfl) ?_
      have moved : payload >>> 29 < 2 ^ 23 := by
        change payload < 2 ^ 52 at small
        rw [Nat.shiftRight_eq_div_pow]
        omega
      exact infinity_add_lt moved negative
    · refine quiet_lt (.inr rfl) ?_
      have moved : payload <<< 29 < 2 ^ 52 := by
        change payload < 2 ^ 23 at small
        rw [Nat.shiftLeft_eq]
        omega
      exact infinity_add_lt moved negative

end FloatFormat

end WasmHost
