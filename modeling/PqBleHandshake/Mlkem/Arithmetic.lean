import PqBleHandshake.Foundation.Overflow
import Mathlib.Data.ZMod.Basic

/-!
# Reduction modulo 3329 on machine words

The scalar functions of the vendored ML-KEM library (`poly.h`, `poly.c`, `verify.h`), on the fixed-width integers of
the C code.  Signed arithmetic that overflows has no result, nor has a conversion that changes the value where the code
relies on it.  Each specification says where a function has a result and what it is as an integer.
-/

namespace PqBleHandshake.Mlkem

open Foundation

/-- `mlk_cast_int32_to_uint16` -/
def castInt32ToUint16 (x : Int32) : UInt16 := (x &&& 0xFFFF).toUInt32.toUInt16

/-- `mlk_montgomery_reduce` -/
def montgomeryReduce (a : Int32) : Option Int16 := do
  let aReduced := castInt32ToUint16 a
  let aInverted := (aReduced.toUInt32 * 62209 &&& 0xFFFF).toUInt16
  -- `mlk_cast_uint16_to_int16`
  let t := aInverted.toInt16
  let r ← sub32 a (← mul32 t.toInt32 3329)
  narrow (r >>> 16)

/-- `mlk_fqmul` -/
def fqmul (a b : Int16) : Option Int16 := do montgomeryReduce (← mul32 a.toInt32 b.toInt32)

/-- `mlk_barrett_reduce` -/
def barrettReduce (a : Int16) : Option Int16 := do
  let t := (← add32 (← mul32 20159 a.toInt32) 0x2000000) >>> 26
  narrow (← sub32 a.toInt32 (← mul32 t 3329))

/-- `mlk_ct_cmask_neg_i16` -/
def ctCmaskNegI16 (x : Int16) : UInt16 := castInt32ToUint16 (x.toInt32 >>> 16)

/-- `mlk_ct_cmask_nonzero_u16` -/
def ctCmaskNonzeroU16 (x : UInt16) : Option UInt16 := do
  return castInt32ToUint16 ((← neg32 x.toUInt32.toInt32) >>> 16)

/-- `mlk_ct_sel_int16` -/
def ctSelInt16 (a b : Int16) (cond : UInt16) : Option Int16 := do
  let au := castInt32ToUint16 a.toInt32
  let bu := castInt32ToUint16 b.toInt32
  return (bu ^^^ ((← ctCmaskNonzeroU16 cond) &&& (au ^^^ bu))).toInt16

/-- `mlk_scalar_signed_to_unsigned_q` -/
def scalarSignedToUnsignedQ (c : Int16) : Option Int16 := do ctSelInt16 (← add16 c 3329) c (ctCmaskNegI16 c)

theorem toNat_castInt32ToUint16 (x : Int32) : ((castInt32ToUint16 x).toNat : ℤ) = x.toInt % 65536 := by
  have hnat : (castInt32ToUint16 x).toNat = x.toBitVec.toNat % 65536 := by
    have hand : (castInt32ToUint16 x).toNat = (x.toBitVec.toNat &&& 0xFFFF) % 65536 := rfl
    rw [hand, show 0xFFFF = 2 ^ 16 - 1 from rfl, Nat.and_two_pow_sub_one_eq_mod, Nat.mod_mod]
  have hint : x.toInt = (x.toBitVec.toNat : ℤ).bmod (2 ^ 32) := BitVec.toInt_eq_toNat_bmod x.toBitVec
  rw [hnat, hint, Int.bmod_def]
  push_cast
  omega

/-! ## Montgomery and Barrett reduction -/

/-- The multiple of 3329 that clears the low half of `a`. -/
def montgomeryMultiple (a : ℤ) : ℤ := (a * 62209).bmod 65536

theorem montgomeryMultiple_bounds (a : ℤ) : -32768 ≤ montgomeryMultiple a ∧ montgomeryMultiple a < 32768 := by
  rw [montgomeryMultiple, Int.bmod_def]
  push_cast
  split <;> omega

theorem montgomeryMultiple_exact (a : ℤ) : (a - montgomeryMultiple a * 3329) % 65536 = 0 := by
  rw [montgomeryMultiple, Int.bmod_def]
  push_cast
  split <;> omega

/-- The multiple as the code computes it, on unsigned words. -/
theorem toInt_inverted (a : Int32) :
    ((castInt32ToUint16 a).toUInt32 * 62209 &&& 0xFFFF).toUInt16.toInt16.toInt = montgomeryMultiple a.toInt := by
  have hnat : (((castInt32ToUint16 a).toUInt32 * 62209 &&& 0xFFFF).toUInt16.toNat : ℤ) =
      a.toInt * 62209 % 65536 := by
    have hand : ((castInt32ToUint16 a).toUInt32 * 62209 &&& 0xFFFF).toUInt16.toNat =
        ((castInt32ToUint16 a).toNat * 62209 % 4294967296 &&& 0xFFFF) % 65536 := rfl
    have hcast := toNat_castInt32ToUint16 a
    rw [hand, show 0xFFFF = 2 ^ 16 - 1 from rfl, Nat.and_two_pow_sub_one_eq_mod]
    push_cast
    omega
  rw [toInt_toInt16, hnat, montgomeryMultiple]
  exact Int.emod_bmod (a.toInt * 62209) 65536

/-- Within the documented range nothing overflows, and the division by `2 ^ 16` is exact. -/
theorem montgomeryReduce_spec {a : Int32} (h : |a.toInt| < 2038398975) :
    ∃ r, montgomeryReduce a = some r ∧ 65536 * r.toInt = a.toInt - montgomeryMultiple a.toInt * 3329 := by
  have hbounds := montgomeryMultiple_bounds a.toInt
  have hexact := montgomeryMultiple_exact a.toInt
  have habs := abs_lt.mp h
  obtain ⟨product, hproduct, hvalue⟩ := exists_word32 (x := montgomeryMultiple a.toInt * 3329) (by omega)
  obtain ⟨difference, hdifference, hvalue'⟩ := exists_word32 (x := a.toInt - product.toInt) (by omega)
  have hshift := toInt_shiftRight_16 difference
  obtain ⟨r, hr, hresult⟩ := exists_narrow (a := difference >>> 16) (by omega)
  have hmul : mul32 ((castInt32ToUint16 a).toUInt32 * 62209 &&& 0xFFFF).toUInt16.toInt16.toInt32 3329 = some product := by
    rw [mul32, Int16.toInt_toInt32, toInt_inverted]
    exact hproduct
  have hsub : sub32 a product = some difference := hdifference
  refine ⟨r, ?_, by omega⟩
  simp only [montgomeryReduce, hmul, hsub, Option.bind_eq_bind, Option.bind_some]
  exact hr

/-- The product of a coefficient with a signed canonical constant, divided by `2 ^ 16`. -/
theorem fqmul_spec (a : Int16) {b : Int16} (h : |b.toInt| < 1665) :
    ∃ r, fqmul a b = some r ∧ |r.toInt| < 3329 ∧
      65536 * r.toInt = a.toInt * b.toInt - montgomeryMultiple (a.toInt * b.toInt) * 3329 := by
  have ha := toInt_bounds a
  have hb := abs_lt.mp h
  have hbound : |a.toInt * b.toInt| ≤ 32768 * 1664 := by
    rw [abs_mul]
    exact mul_le_mul (abs_le.mpr (by omega)) (abs_le.mpr (by omega)) (abs_nonneg _) (by norm_num)
  obtain ⟨product, hproduct, hvalue⟩ := exists_mul32 a b
  obtain ⟨r, hr, hreduce⟩ := montgomeryReduce_spec (a := product) (by rw [hvalue]; omega)
  rw [hvalue] at hreduce
  have hmultiple := montgomeryMultiple_bounds (a.toInt * b.toInt)
  rw [abs_le] at hbound
  exact ⟨r, by rw [fqmul, hproduct]; exact hr, abs_lt.mpr (by omega), hreduce⟩

/-- The centred representative, of whatever word. -/
theorem barrettReduce_spec (a : Int16) :
    ∃ r, barrettReduce a = some r ∧ |r.toInt| < 1665 ∧ ∃ t : ℤ, r.toInt = a.toInt - t * 3329 := by
  have ha := toInt_bounds a
  obtain ⟨product, hproduct, hvalue⟩ := exists_word32 (x := 20159 * a.toInt) (by omega)
  obtain ⟨sum, hsum, hvalue'⟩ := exists_word32 (x := product.toInt + 33554432) (by omega)
  have hshift := toInt_shiftRight_26 sum
  obtain ⟨multiple, hmultiple, hvalue''⟩ := exists_word32 (x := (sum >>> 26).toInt * 3329) (by omega)
  obtain ⟨difference, hdifference, hvalue'''⟩ := exists_word32 (x := a.toInt - multiple.toInt) (by omega)
  obtain ⟨r, hr, hresult⟩ := exists_narrow (a := difference) (by omega)
  have hmul : mul32 20159 a.toInt32 = some product := by
    rw [mul32, Int16.toInt_toInt32]
    exact hproduct
  have hadd : add32 product 0x2000000 = some sum := hsum
  have hmul' : mul32 (sum >>> 26) 3329 = some multiple := hmultiple
  have hsub : sub32 a.toInt32 multiple = some difference := by
    rw [sub32, Int16.toInt_toInt32]
    exact hdifference
  refine ⟨r, ?_, abs_lt.mpr (by omega), (sum >>> 26).toInt, by omega⟩
  simp only [barrettReduce, hmul, hadd, hmul', hsub, Option.bind_eq_bind, Option.bind_some]
  exact hr

/-! ## The unsigned representative -/

theorem castInt32ToUint16_toInt16 (x : Int16) : (castInt32ToUint16 x.toInt32).toInt16 = x := by
  rw [← Int16.toInt_inj, toInt_toInt16, toNat_castInt32ToUint16, Int16.toInt_toInt32]
  exact (Int.emod_bmod x.toInt 65536).trans (bmod_16_eq (toInt_bounds x))

theorem ctCmaskNegI16_eq (x : Int16) : ctCmaskNegI16 x = if x.toInt < 0 then 0xFFFF else 0 := by
  have hx := toInt_bounds x
  have hnat : ((ctCmaskNegI16 x).toNat : ℤ) = x.toInt / 65536 % 65536 := by
    rw [ctCmaskNegI16, toNat_castInt32ToUint16, toInt_shiftRight_16, Int16.toInt_toInt32]
  rw [← UInt16.toNat_inj]
  split_ifs with h
  · have : (0xFFFF : UInt16).toNat = 65535 := rfl
    omega
  · have : (0 : UInt16).toNat = 0 := rfl
    omega

theorem ctCmaskNonzeroU16_eq (x : UInt16) : ctCmaskNonzeroU16 x = some (if x = 0 then 0 else 0xFFFF) := by
  have hx := x.toNat_lt
  have hword : x.toUInt32.toInt32.toInt = x.toNat := by
    have : x.toUInt32.toInt32.toInt = (x.toNat : ℤ).bmod (2 ^ 32) := BitVec.toInt_eq_toNat_bmod _
    rw [this]
    exact Int.bmod_eq_of_le (by omega) (by omega)
  obtain ⟨opposite, hopposite, hvalue⟩ := exists_word32 (x := -(x.toNat : ℤ)) (by omega)
  have hneg : neg32 x.toUInt32.toInt32 = some opposite := by
    rw [neg32, hword]
    exact hopposite
  have hnat : ((castInt32ToUint16 (opposite >>> 16)).toNat : ℤ) = -x.toNat / 65536 % 65536 := by
    rw [toNat_castInt32ToUint16, toInt_shiftRight_16, hvalue]
  have hmask : castInt32ToUint16 (opposite >>> 16) = if x = 0 then 0 else 0xFFFF := by
    rw [← UInt16.toNat_inj]
    split_ifs with h
    · subst h
      simpa using hnat
    · have : (0xFFFF : UInt16).toNat = 65535 := rfl
      have : x.toNat ≠ 0 := fun hzero ↦ h (UInt16.toNat_inj.mp hzero)
      omega
  rw [ctCmaskNonzeroU16, hneg, ← hmask]
  rfl

theorem ctSelInt16_eq (a b : Int16) (cond : UInt16) : ctSelInt16 a b cond = some (if cond = 0 then b else a) := by
  rw [ctSelInt16, ctCmaskNonzeroU16_eq]
  refine congrArg some ?_
  split_ifs with h
  · rw [UInt16.zero_and, UInt16.xor_zero, castInt32ToUint16_toInt16]
  · have hmask : ∀ x : UInt16, 0xFFFF &&& x = x := fun x ↦ by
      rw [← UInt16.toNat_inj, UInt16.toNat_and]
      have hx := x.toNat_lt
      have : (0xFFFF : UInt16).toNat = 2 ^ 16 - 1 := rfl
      rw [this, Nat.and_comm, Nat.and_two_pow_sub_one_eq_mod, Nat.mod_eq_of_lt hx]
    rw [hmask, UInt16.xor_comm, UInt16.xor_assoc, UInt16.xor_self, UInt16.xor_zero, castInt32ToUint16_toInt16]

theorem scalarSignedToUnsignedQ_spec {c : Int16} (h : |c.toInt| < 3329) :
    ∃ r, scalarSignedToUnsignedQ c = some r ∧ r.toInt = if c.toInt < 0 then c.toInt + 3329 else c.toInt := by
  obtain ⟨sum, hsum, hvalue⟩ := exists_add16 (b := 3329) (y := 3330) h (by decide) (by norm_num)
  have hmask : ctCmaskNegI16 c = 0 ↔ 0 ≤ c.toInt := by
    rw [ctCmaskNegI16_eq, ← UInt16.toNat_inj]
    split_ifs with hneg
    · exact ⟨fun hzero ↦ absurd hzero (by decide), fun hpos ↦ absurd hneg hpos.not_gt⟩
    · exact ⟨fun _ ↦ not_lt.mp hneg, fun _ ↦ rfl⟩
  refine ⟨_, by rw [scalarSignedToUnsignedQ, hsum]; exact ctSelInt16_eq _ _ _, ?_⟩
  by_cases hneg : c.toInt < 0
  · rw [if_neg fun hzero ↦ absurd (hmask.mp hzero) hneg.not_ge, if_pos hneg, hvalue]
    rfl
  · rw [if_pos (hmask.mpr (not_lt.mp hneg)), if_neg hneg]

end PqBleHandshake.Mlkem
