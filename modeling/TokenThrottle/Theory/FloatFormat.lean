/-
  TokenThrottle.Theory.FloatFormat

  Floating-point numbers with a given precision, as rationals, and rounding to the nearest
  one, a tie going to the even significand.

  * Magnitudes past the largest finite number stay rationals: there is no infinity.
  * The error of one rounding is at most half a unit in the last place, hence at most a
    fixed part of any bound on the magnitude (`abs_round_sub_le`).
-/
import Mathlib.Algebra.Order.Floor.Semiring
import Mathlib.Algebra.Order.Field.Power
import Mathlib.Data.Int.Log
import Mathlib.Data.Rat.Floor
import Mathlib.Tactic.FieldSimp
import Mathlib.Tactic.Linarith
import Mathlib.Tactic.Positivity
import Mathlib.Tactic.Ring

namespace TokenThrottle.Theory

/-! ## Rounding to an integer -/

/-- The nearest integer; of two equally near ones, the even one. -/
def roundTiesEven (x : ℚ) : ℤ :=
  let below := ⌊x⌋
  let rest := x - below
  if rest < 1 / 2 then below
  else if 1 / 2 < rest then below + 1
  else if below % 2 = 0 then below
  else below + 1

theorem abs_roundTiesEven_sub_le (x : ℚ) : |(roundTiesEven x : ℚ) - x| ≤ 1 / 2 := by
  have h_floor := Int.floor_le x
  have h_succ := Int.lt_floor_add_one x
  unfold roundTiesEven
  dsimp only
  rw [abs_le]
  split
  · constructor
    · linarith
    · linarith
  · rename_i h_half
    have h_half := not_lt.mp h_half
    have h_up : -(1 / 2) ≤ (((⌊x⌋ + 1 : ℤ) : ℚ) - x) ∧ (((⌊x⌋ + 1 : ℤ) : ℚ) - x) ≤ 1 / 2 := by
      push_cast
      constructor
      · linarith
      · linarith
    split
    · exact h_up
    · -- a tie
      rename_i h_tie
      have h_tie := not_lt.mp h_tie
      split
      · constructor
        · linarith
        · linarith
      · exact h_up

/-! ## Rounding to a format -/

/-- A binary format: the digits of a significand, and the exponent below which there are
    no finer numbers. -/
structure FloatFormat where
  precision : ℕ
  minExponent : ℤ

namespace FloatFormat

variable (format : FloatFormat)

/-- The distance between neighbours of the format at a magnitude. -/
def ulp (x : ℚ) : ℚ :=
  2 ^ max (Int.log 2 |x| + 1 - format.precision) format.minExponent

/-- The number of the format nearest to a rational. -/
def round (x : ℚ) : ℚ := roundTiesEven (x / format.ulp x) * format.ulp x

theorem ulp_pos (x : ℚ) : 0 < format.ulp x := by
  unfold ulp
  positivity

theorem round_zero : format.round 0 = 0 := by
  simp [round, roundTiesEven]

/-- One rounding errs by at most half a unit in the last place. -/
theorem abs_round_sub_le_ulp (x : ℚ) : |format.round x - x| ≤ format.ulp x / 2 := by
  have h_pos := format.ulp_pos x
  have h_scaled : format.round x - x =
      ((roundTiesEven (x / format.ulp x) : ℚ) - x / format.ulp x) * format.ulp x := by
    unfold round
    field_simp
  have h_digit := abs_roundTiesEven_sub_le (x / format.ulp x)
  rw [h_scaled, abs_mul, abs_of_pos h_pos]
  calc |(roundTiesEven (x / format.ulp x) : ℚ) - x / format.ulp x| * format.ulp x
      ≤ 1 / 2 * format.ulp x := mul_le_mul_of_nonneg_right h_digit h_pos.le
    _ = format.ulp x / 2 := by ring

/-- A unit in the last place, measured by the magnitude or by the finest numbers. -/
theorem ulp_le {x bound : ℚ} (h_ne : x ≠ 0) (h_bound : |x| ≤ bound)
    (h_fine : (2 : ℚ) ^ format.minExponent ≤ bound * 2 ^ (1 - (format.precision : ℤ))) :
    format.ulp x ≤ bound * 2 ^ (1 - (format.precision : ℤ)) := by
  have h_log : (2 : ℚ) ^ Int.log 2 |x| ≤ |x| := by
    exact_mod_cast Int.zpow_log_le_self (b := 2) (by norm_num) (abs_pos.mpr h_ne)
  unfold ulp
  rcases max_cases (Int.log 2 |x| + 1 - (format.precision : ℤ)) format.minExponent with
    ⟨h_max, _⟩ | ⟨h_max, _⟩
  · rw [h_max, show Int.log 2 |x| + 1 - (format.precision : ℤ) =
      Int.log 2 |x| + (1 - (format.precision : ℤ)) by ring, zpow_add₀ (by norm_num)]
    exact mul_le_mul_of_nonneg_right (h_log.trans h_bound) (by positivity)
  · rw [h_max]
    exact h_fine

/-- The error of one rounding under a bound on the magnitude. -/
theorem abs_round_sub_le {x bound : ℚ} (h_bound : |x| ≤ bound)
    (h_fine : (2 : ℚ) ^ format.minExponent ≤ bound * 2 ^ (1 - (format.precision : ℤ))) :
    |format.round x - x| ≤ bound / 2 ^ format.precision := by
  by_cases h_zero : x = 0
  · have h_nonneg : 0 ≤ bound := (abs_nonneg x).trans h_bound
    rw [h_zero, round_zero, sub_zero, abs_zero]
    positivity
  · have h_half : (2 : ℚ) ^ (1 - (format.precision : ℤ)) = 2 / 2 ^ format.precision := by
      rw [zpow_sub₀ (by norm_num), zpow_one, zpow_natCast]
    calc |format.round x - x| ≤ format.ulp x / 2 := format.abs_round_sub_le_ulp x
      _ ≤ bound * 2 ^ (1 - (format.precision : ℤ)) / 2 := by
          have h_ulp := format.ulp_le h_zero h_bound h_fine
          linarith
      _ = bound / 2 ^ format.precision := by rw [h_half]; ring

end FloatFormat

/-! ## Double precision -/

/-- IEEE 754 binary64. -/
def binary64 : FloatFormat where
  precision := 53
  minExponent := -1074

/-- From magnitude one on, the error is a fixed part of any bound on the magnitude. -/
theorem abs_binary64_round_sub_le {x bound : ℚ} (h_one : 1 ≤ bound) (h_bound : |x| ≤ bound) :
    |binary64.round x - x| ≤ bound / 2 ^ 53 := by
  apply binary64.abs_round_sub_le h_bound
  show (2 : ℚ) ^ (-1074 : ℤ) ≤ bound * 2 ^ (1 - (53 : ℤ))
  have h_order : (2 : ℚ) ^ (-1074 : ℤ) ≤ 2 ^ (1 - (53 : ℤ)) :=
    zpow_le_zpow_right₀ (by norm_num) (by omega)
  have h_pos : (0 : ℚ) ≤ 2 ^ (1 - (53 : ℤ)) := by positivity
  calc (2 : ℚ) ^ (-1074 : ℤ) ≤ 1 * 2 ^ (1 - (53 : ℤ)) := by rw [one_mul]; exact h_order
    _ ≤ bound * 2 ^ (1 - (53 : ℤ)) := mul_le_mul_of_nonneg_right h_one h_pos

-- a tenth, as Python's `0.1` holds it
example : binary64.round (1 / 10) = 3602879701896397 / 36028797018963968 := by decide +kernel

end TokenThrottle.Theory
