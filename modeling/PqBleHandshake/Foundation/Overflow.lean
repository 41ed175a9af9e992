import Mathlib.Tactic

/-!
# Signed words that may overflow

Arithmetic on `int32_t` and `int16_t` that has a result only where the mathematical value fits the word.  So a
computation in these operations that returns is exact in every step, and one that overflows anywhere does not return.
-/

namespace PqBleHandshake.Foundation

/-- The `int32_t` of a value, if it has one. -/
def word32 (x : ℤ) : Option Int32 := if -2147483648 ≤ x ∧ x < 2147483648 then some (Int32.ofInt x) else none

/-- The `int16_t` of a value, if it has one. -/
def word16 (x : ℤ) : Option Int16 := if -32768 ≤ x ∧ x < 32768 then some (Int16.ofInt x) else none

def add32 (a b : Int32) : Option Int32 := word32 (a.toInt + b.toInt)

def sub32 (a b : Int32) : Option Int32 := word32 (a.toInt - b.toInt)

def mul32 (a b : Int32) : Option Int32 := word32 (a.toInt * b.toInt)

def neg32 (a : Int32) : Option Int32 := word32 (-a.toInt)

/-- `(int16_t)a`, for a value that the conversion keeps -/
def narrow (a : Int32) : Option Int16 := word16 a.toInt

/-- `(int16_t)(a + b)`: the sum is computed as an `int`. -/
def add16 (a b : Int16) : Option Int16 := do narrow (← add32 a.toInt32 b.toInt32)

def sub16 (a b : Int16) : Option Int16 := do narrow (← sub32 a.toInt32 b.toInt32)

def neg16 (a : Int16) : Option Int16 := do narrow (← neg32 a.toInt32)

/-! ## Words as integers -/

theorem toInt_bounds (x : Int16) : -32768 ≤ x.toInt ∧ x.toInt < 32768 :=
  ⟨x.le_toInt, x.toInt_lt⟩

theorem toInt_shiftRight_16 (x : Int32) : (x >>> 16).toInt = x.toInt / 65536 := by
  have h : (x >>> 16).toInt = (x.toBitVec.sshiftRight 16).toInt := rfl
  rw [h, BitVec.toInt_sshiftRight, Int.shiftRight_eq_div_pow]
  rfl

theorem toInt_shiftRight_26 (x : Int32) : (x >>> 26).toInt = x.toInt / 67108864 := by
  have h : (x >>> 26).toInt = (x.toBitVec.sshiftRight 26).toInt := rfl
  rw [h, BitVec.toInt_sshiftRight, Int.shiftRight_eq_div_pow]
  rfl

theorem toInt_toInt16 (x : UInt16) : x.toInt16.toInt = (x.toNat : ℤ).bmod 65536 :=
  BitVec.toInt_eq_toNat_bmod x.toBitVec

/-- A word whose mathematical value fits is that value. -/
theorem bmod_16_eq {x : ℤ} (h : -32768 ≤ x ∧ x < 32768) : x.bmod (2 ^ 16) = x :=
  Int.bmod_eq_of_le (by omega) (by omega)

/-! ## The operations -/

section Operations

variable {x y : ℤ}

theorem exists_word32 (h : -2147483648 ≤ x ∧ x < 2147483648) : ∃ w, word32 x = some w ∧ w.toInt = x :=
  ⟨Int32.ofInt x, if_pos h, Int32.toInt_ofInt_of_le (by omega) (by omega)⟩

theorem exists_word16 (h : -32768 ≤ x ∧ x < 32768) : ∃ w, word16 x = some w ∧ w.toInt = x :=
  ⟨Int16.ofInt x, if_pos h, Int16.toInt_ofInt_of_le (by omega) (by omega)⟩

theorem exists_narrow {a : Int32} (h : -32768 ≤ a.toInt ∧ a.toInt < 32768) :
    ∃ w, narrow a = some w ∧ w.toInt = a.toInt :=
  exists_word16 h

/-- A product of two short words is exact. -/
theorem exists_mul32 (a b : Int16) : ∃ w, mul32 a.toInt32 b.toInt32 = some w ∧ w.toInt = a.toInt * b.toInt := by
  have ha := toInt_bounds a
  have hb := toInt_bounds b
  have hproduct : |a.toInt * b.toInt| ≤ 32768 * 32768 := by
    rw [abs_mul]
    exact mul_le_mul (abs_le.mpr (by omega)) (abs_le.mpr (by omega)) (abs_nonneg _) (by norm_num)
  rw [abs_le] at hproduct
  rw [mul32, Int16.toInt_toInt32, Int16.toInt_toInt32]
  exact exists_word32 (by omega)

/-- A value that fits a short word passes through the long one. -/
theorem exists_narrow_word32 (h : -32768 ≤ x ∧ x < 32768) : ∃ w, word32 x >>= narrow = some w ∧ w.toInt = x := by
  obtain ⟨long, hlong, hvalue⟩ := exists_word32 (x := x) (by omega)
  obtain ⟨w, hw, hnarrow⟩ := exists_narrow (a := long) (by omega)
  exact ⟨w, by rw [hlong]; exact hw, hnarrow.trans hvalue⟩

theorem exists_add16 {a b : Int16} (ha : |a.toInt| < x) (hb : |b.toInt| < y) (h : x + y ≤ 32768) :
    ∃ w, add16 a b = some w ∧ w.toInt = a.toInt + b.toInt := by
  rw [abs_lt] at ha hb
  rw [add16, add32, Int16.toInt_toInt32, Int16.toInt_toInt32]
  exact exists_narrow_word32 (by omega)

theorem exists_sub16 {a b : Int16} (ha : |a.toInt| < x) (hb : |b.toInt| < y) (h : x + y ≤ 32768) :
    ∃ w, sub16 a b = some w ∧ w.toInt = a.toInt - b.toInt := by
  rw [abs_lt] at ha hb
  rw [sub16, sub32, Int16.toInt_toInt32, Int16.toInt_toInt32]
  exact exists_narrow_word32 (by omega)

theorem exists_neg16 {a : Int16} (ha : |a.toInt| < x) (h : x ≤ 32768) : ∃ w, neg16 a = some w ∧ w.toInt = -a.toInt := by
  rw [abs_lt] at ha
  rw [neg16, neg32, Int16.toInt_toInt32]
  exact exists_narrow_word32 (by omega)

end Operations

end PqBleHandshake.Foundation
