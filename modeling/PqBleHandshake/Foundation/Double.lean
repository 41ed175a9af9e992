import Mathlib.Algebra.Order.Round
import Mathlib.Data.Int.Log
import Mathlib.Data.Rat.Floor
import Mathlib.Tactic.FieldSimp
import Mathlib.Tactic.Linarith
import Mathlib.Tactic.NormNum
import Mathlib.Tactic.Positivity
import Mathlib.Tactic.Ring

/-!
# Rounding to a double

A floating-point number of 53 significant bits is a rational number, and an operation on such numbers is the
exact operation followed by a rounding to the nearest of them, to the even one of two.  The exponent is
unbounded here, which is right for values that neither overflow nor are subnormal.
-/

namespace PqBleHandshake.Foundation

/-- The nearest integer, and the even one of two nearest. -/
def roundEven (x : ℚ) : ℤ :=
  if Int.fract x = 1 / 2 then ⌊x⌋ + ⌊x⌋ % 2 else round x

/-- Rounding moves a number by at most one half. -/
theorem abs_roundEven_sub_le (x : ℚ) : |roundEven x - x| ≤ 1 / 2 := by
  unfold roundEven
  split_ifs with htie
  · have hsplit := Int.floor_add_fract x
    rw [htie] at hsplit
    rcases Int.emod_two_eq ⌊x⌋ with heven | hodd
    · rw [heven, add_zero, abs_le]
      constructor <;> linarith
    · rw [hodd, Int.cast_add, Int.cast_one, abs_le]
      constructor <;> linarith
  · rw [abs_sub_comm]
    exact abs_sub_round x

/-- The distance of neighbouring doubles in the binade of a number. -/
def ulp (x : ℚ) : ℚ := 2 ^ (Int.log 2 |x| - 52)

/-- The double nearest to a number. -/
def roundDouble (x : ℚ) : ℚ := roundEven (x / ulp x) * ulp x

theorem ulp_pos (x : ℚ) : 0 < ulp x := zpow_pos two_pos _

/-- Fifty-two bits follow the leading one. -/
theorem ulp_le {x : ℚ} (h : x ≠ 0) : ulp x ≤ |x| / 2 ^ 52 := by
  have hlog := Int.zpow_log_le_self (R := ℚ) one_lt_two (abs_pos.mpr h)
  calc
    ulp x = 2 ^ Int.log 2 |x| / 2 ^ 52 := by
      rw [ulp, zpow_sub₀ two_ne_zero]
      norm_num
    _ ≤ |x| / 2 ^ 52 := by
      apply div_le_div_of_nonneg_right _ (by positivity)
      exact_mod_cast hlog

@[simp]
theorem roundDouble_zero : roundDouble 0 = 0 := by
  simp [roundDouble, roundEven]

/-- The relative error of a rounding is at most `2⁻⁵³`. -/
theorem abs_roundDouble_sub_le (x : ℚ) : |roundDouble x - x| ≤ |x| / 2 ^ 53 := by
  by_cases h : x = 0
  · simp [h]
  have hulp := ulp_pos x
  calc
    |roundDouble x - x| = |(roundEven (x / ulp x) - x / ulp x) * ulp x| := by
      rw [roundDouble, sub_mul, div_mul_cancel₀ x hulp.ne']
    _ = |roundEven (x / ulp x) - x / ulp x| * ulp x := by
      rw [abs_mul, abs_of_pos hulp]
    _ ≤ 1 / 2 * (|x| / 2 ^ 52) :=
      mul_le_mul (abs_roundEven_sub_le _) (ulp_le h) hulp.le (by norm_num)
    _ = |x| / 2 ^ 53 := by ring

/-- A number of bounded size moves by a bounded distance. -/
theorem abs_roundDouble_sub_le_of_abs_le {x bound : ℚ} (h : |x| ≤ bound) :
    |roundDouble x - x| ≤ bound / 2 ^ 53 :=
  (abs_roundDouble_sub_le x).trans (div_le_div_of_nonneg_right h (by positivity))

end PqBleHandshake.Foundation
