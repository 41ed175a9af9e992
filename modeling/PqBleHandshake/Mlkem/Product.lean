import PqBleHandshake.Mlkem.Ntt

/-!
# Products in the transformed domain

Scalar products of vectors of transformed polynomials (`poly.c`, `poly_k.c`).  The products modulo the quadratic
factors are summed in words of 32 bits and reduced once; a cache holds each odd coefficient times the constant of its
factor.  Together with the transforms this is the product of polynomials modulo `X ^ 256 + 1`.
-/

namespace PqBleHandshake.Mlkem

open Foundation Polynomial

/-- `mlk_polyvec` -/
abbrev Polyvec := Vector Poly 3

/-- `mlk_poly_mulcache` -/
abbrev Mulcache := Words 128

/-- `mlk_polyvec_mulcache` -/
abbrev PolyvecMulcache := Vector Mulcache 3

/-- `mlk_poly_reduce` -/
def polyReduce (r : Poly) : Option Poly := r.mapM fun c ↦ do scalarSignedToUnsignedQ (← barrettReduce c)

/-- One pass of the loop of `mlk_poly_mulcache_compute`. -/
def mulcacheStep (a : Poly) (x : Mulcache) (i : ℕ) : Option Mulcache := do
  let x := x.store (2 * i) (← fqmul (a.coeff (4 * i + 1)) (zetas.coeff (64 + i)))
  let x := x.store (2 * i + 1) (← fqmul (a.coeff (4 * i + 3)) (← neg16 (zetas.coeff (64 + i))))
  return x

/-- `mlk_poly_mulcache_compute`, which writes every entry of its array. -/
def polyMulcacheCompute (a : Poly) : Option Mulcache :=
  (List.range 64).foldlM (mulcacheStep a) (Vector.replicate 128 0)

/-- `mlk_polyvec_ntt` -/
def polyvecNtt (r : Polyvec) : Option Polyvec := r.mapM polyNtt

/-- `mlk_polyvec_reduce` -/
def polyvecReduce (r : Polyvec) : Option Polyvec := r.mapM polyReduce

/-- `mlk_polyvec_mulcache_compute` -/
def polyvecMulcacheCompute (a : Polyvec) : Option PolyvecMulcache := a.mapM polyMulcacheCompute

/-- One pass over `k` of the inner loop of `mlk_polyvec_basemul_acc_montgomery_cached`. -/
def accumulate (a b : Polyvec) (bCache : PolyvecMulcache) (i : ℕ) (t : Int32 × Int32) (k : Fin 3) :
    Option (Int32 × Int32) := do
  let t0 ← add32 t.1 (← mul32 (a[k].coeff (2 * i + 1)).toInt32 (bCache[k].coeff i).toInt32)
  let t0 ← add32 t0 (← mul32 (a[k].coeff (2 * i)).toInt32 (b[k].coeff (2 * i)).toInt32)
  let t1 ← add32 t.2 (← mul32 (a[k].coeff (2 * i)).toInt32 (b[k].coeff (2 * i + 1)).toInt32)
  let t1 ← add32 t1 (← mul32 (a[k].coeff (2 * i + 1)).toInt32 (b[k].coeff (2 * i)).toInt32)
  return (t0, t1)

/-- One pass of the outer loop of `mlk_polyvec_basemul_acc_montgomery_cached`. -/
def basemulStep (a b : Polyvec) (bCache : PolyvecMulcache) (r : Poly) (i : ℕ) : Option Poly := do
  let t ← (List.finRange 3).foldlM (accumulate a b bCache i) (0, 0)
  let r := r.store (2 * i) (← montgomeryReduce t.1)
  let r := r.store (2 * i + 1) (← montgomeryReduce t.2)
  return r

/-- `mlk_polyvec_basemul_acc_montgomery_cached`, which writes every coefficient of its polynomial. -/
def polyvecBasemulAccMontgomeryCached (a b : Polyvec) (bCache : PolyvecMulcache) : Option Poly :=
  (List.range 128).foldlM (basemulStep a b bCache) (Vector.replicate 256 0)

/-- The calls that multiply two vectors of polynomials: both are transformed and the left one is reduced, as in the
stored secret key. -/
def polyvecProduct (s u : Polyvec) : Option Poly := do
  let a ← polyvecReduce (← polyvecNtt s)
  let b ← polyvecNtt u
  let bCache ← polyvecMulcacheCompute b
  polyInvnttTomont (← polyvecBasemulAccMontgomeryCached a b bCache)

/-! ## Reduction of a polynomial -/

/-- The coefficients are unsigned and below the bound. -/
def Unsigned (words : Words n) (bound : ℤ) : Prop := ∀ i, 0 ≤ (words.coeff i).toInt ∧ (words.coeff i).toInt < bound

theorem unsigned_of_coeff {words : Words n} {bound : ℤ} (hpos : 0 < bound)
    (h : ∀ i < n, 0 ≤ (words.coeff i).toInt ∧ (words.coeff i).toInt < bound) : Unsigned words bound := fun i ↦ by
  by_cases hi : i < n
  · exact h i hi
  · rw [Words.coeff_of_le (not_lt.mp hi)]
    exact ⟨le_rfl, hpos⟩

theorem exists_canonical (c : Int16) :
    ∃ r, (do scalarSignedToUnsignedQ (← barrettReduce c) : Option Int16) = some r ∧
      (0 ≤ r.toInt ∧ r.toInt < 3329) ∧ (r.toInt : ZMod 3329) = c.toInt := by
  have hq : ((3329 : ℤ) : ZMod 3329) = 0 := rfl
  obtain ⟨t, ht, hcentred, hresidue⟩ := exists_barrettReduce c
  obtain ⟨r, hr, hvalue⟩ := scalarSignedToUnsignedQ_spec (hcentred.trans (by norm_num))
  rw [abs_lt] at hcentred
  refine ⟨r, by rw [ht]; exact hr, ?_⟩
  split_ifs at hvalue with hneg
  · exact ⟨by omega, by rw [hvalue, Int.cast_add, hq, add_zero, hresidue]⟩
  · exact ⟨by omega, by rw [hvalue, hresidue]⟩

theorem polyReduce_spec (r : Poly) :
    ∃ r', polyReduce r = some r' ∧ Unsigned r' 3329 ∧ ∀ i < 256, residue r' i = residue r i := by
  obtain ⟨r', hr', hmade⟩ := Words.exists_mapM
    (f := fun c ↦ do scalarSignedToUnsignedQ (← barrettReduce c)) r fun i _ ↦ exists_canonical (r.coeff i)
  exact ⟨r', hr', unsigned_of_coeff (by norm_num) fun i hi ↦ (hmade i hi).1, fun i hi ↦ (hmade i hi).2⟩

/-! ## The cache -/

/-- The cache holds the odd coefficients times the constants of their factors. -/
theorem polyMulcacheCompute_spec (a : Poly) :
    ∃ x, polyMulcacheCompute a = some x ∧ ∀ i < 128, residue x i = residue a (2 * i + 1) * node root (2 ^ 7 + i) := by
  have hstep : ∀ i < 64, PairStep (fun _ _ ↦ do
      let low ← fqmul (a.coeff (4 * i + 1)) (zetas.coeff (64 + i))
      let high ← fqmul (a.coeff (4 * i + 3)) (← neg16 (zetas.coeff (64 + i)))
      return (low, high)) 1 (2 * i) (mulcacheStep a · i) := fun i _ x ↦ by
    simp [mulcacheStep, Option.map_bind]
  obtain ⟨x, hx, hmade⟩ := @exists_neighbours 128 _ _ (Vector.replicate 128 0)
    (fun i low high ↦ (low.toInt : ZMod 3329) = residue a (4 * i + 1) * node root (2 ^ 7 + 2 * i) ∧
      (high.toInt : ZMod 3329) = residue a (4 * i + 3) * node root (2 ^ 7 + (2 * i + 1))) 64 (by norm_num) hstep
    fun i hi ↦ by
      have hzeta := zetas_canonical (64 + i)
      obtain ⟨low, hlow, -, hlow'⟩ := exists_fqmul (a.coeff (4 * i + 1)) hzeta
      obtain ⟨opposite, hopposite, hneg⟩ := exists_neg16 hzeta (by norm_num)
      obtain ⟨high, hhigh, -, hhigh'⟩ := exists_fqmul (a.coeff (4 * i + 3)) (b := opposite) (by rwa [hneg, abs_neg])
      refine ⟨low, high, by simp [hlow, hopposite, hhigh], ?_, ?_⟩
      · rw [hlow', show 2 ^ 7 + 2 * i = 2 * (64 + i) by omega, node_left]
        rfl
      · rw [hhigh', hneg, show 2 ^ 7 + (2 * i + 1) = 2 * (64 + i) + 1 by omega, node_right root (by omega),
          Int.cast_neg, neg_mul]
        rfl
  refine ⟨x, hx, fun n hn ↦ ?_⟩
  rcases Nat.even_or_odd' n with ⟨i, rfl | rfl⟩
  · rw [show 2 * (2 * i) + 1 = 4 * i + 1 by omega]
    exact (hmade i (by omega)).1
  · rw [show 2 * (2 * i + 1) + 1 = 4 * i + 3 by omega]
    exact (hmade i (by omega)).2

/-! ## The scalar product -/

/-- The largest product of a coefficient of 12 bits with a word. -/
theorem abs_product_le {x : Int16} (hx : 0 ≤ x.toInt ∧ x.toInt < 4096) (y : Int16) :
    |x.toInt * y.toInt| ≤ 134184960 := by
  have hy := toInt_bounds y
  rw [abs_mul]
  calc |x.toInt| * |y.toInt| ≤ 4095 * 32768 :=
      mul_le_mul (abs_le.mpr (by omega)) (abs_le.mpr (by omega)) (abs_nonneg _) (by norm_num)
    _ = 134184960 := by norm_num

/-- One more product in an accumulator. -/
theorem exists_accumulated {t : Int32} {x : Int16} (y : Int16) {bound : ℤ} (hx : 0 ≤ x.toInt ∧ x.toInt < 4096)
    (ht : |t.toInt| ≤ bound) (hbound : bound + 134184960 < 2147483648) :
    ∃ product t', mul32 x.toInt32 y.toInt32 = some product ∧ add32 t product = some t' ∧
      t'.toInt = t.toInt + x.toInt * y.toInt ∧ |t'.toInt| ≤ bound + 134184960 := by
  have hbounded := abs_le.mp (abs_product_le hx y)
  rw [abs_le] at ht
  obtain ⟨product, hproduct, hvalue⟩ := exists_mul32 x y
  obtain ⟨t', ht', hsum⟩ := exists_word32 (x := t.toInt + product.toInt) (by omega)
  exact ⟨product, t', hproduct, ht', by rw [hsum, hvalue], abs_le.mpr (by omega)⟩

section Accumulators

variable {a b : Polyvec} {bCache : PolyvecMulcache} {i : ℕ}

/-- What one `k` adds to the even accumulator. -/
def evenTerm (a b : Polyvec) (bCache : PolyvecMulcache) (i : ℕ) (k : Fin 3) : ℤ :=
  (a[k].coeff (2 * i + 1)).toInt * (bCache[k].coeff i).toInt + (a[k].coeff (2 * i)).toInt * (b[k].coeff (2 * i)).toInt

/-- What one `k` adds to the odd accumulator. -/
def oddTerm (a b : Polyvec) (i : ℕ) (k : Fin 3) : ℤ :=
  (a[k].coeff (2 * i)).toInt * (b[k].coeff (2 * i + 1)).toInt +
    (a[k].coeff (2 * i + 1)).toInt * (b[k].coeff (2 * i)).toInt

theorem accumulate_spec (ha : ∀ k : Fin 3, Unsigned a[k] 4096) {t : Int32 × Int32} {bound : ℤ} (k : Fin 3)
    (ht : |t.1.toInt| ≤ bound ∧ |t.2.toInt| ≤ bound) (hbound : bound + 268369920 < 2147483648) :
    ∃ t', accumulate a b bCache i t k = some t' ∧
      (t'.1.toInt = t.1.toInt + evenTerm a b bCache i k ∧ t'.2.toInt = t.2.toInt + oddTerm a b i k) ∧
      |t'.1.toInt| ≤ bound + 268369920 ∧ |t'.2.toInt| ≤ bound + 268369920 := by
  obtain ⟨p, t0, hp, ht0, hvalue0, hbound0⟩ := exists_accumulated (bCache[k].coeff i) (ha k (2 * i + 1)) ht.1 (by omega)
  obtain ⟨p', t0', hp', ht0', hvalue0', hbound0'⟩ :=
    exists_accumulated (b[k].coeff (2 * i)) (ha k (2 * i)) hbound0 (by omega)
  obtain ⟨q, t1, hq, ht1, hvalue1, hbound1⟩ :=
    exists_accumulated (b[k].coeff (2 * i + 1)) (ha k (2 * i)) ht.2 (by omega)
  obtain ⟨q', t1', hq', ht1', hvalue1', hbound1'⟩ :=
    exists_accumulated (b[k].coeff (2 * i)) (ha k (2 * i + 1)) hbound1 (by omega)
  refine ⟨(t0', t1'), ?_, ⟨?_, ?_⟩, by linarith, by linarith⟩
  · simp only [accumulate, hp, ht0, hp', ht0', hq, ht1, hq', ht1', Option.bind_eq_bind, Option.bind_some]
    rfl
  · rw [hvalue0', hvalue0, evenTerm, add_assoc]
  · rw [hvalue1', hvalue1, oddTerm, add_assoc]

/-- The accumulators hold the sums, and three passes are far from an overflow. -/
theorem foldlM_accumulate (ha : ∀ k : Fin 3, Unsigned a[k] 4096) {ks : List (Fin 3)} {t : Int32 × Int32} {bound : ℤ}
    (ht : |t.1.toInt| ≤ bound ∧ |t.2.toInt| ≤ bound) (hbound : bound + ks.length * 268369920 < 2147483648) :
    ∃ t', ks.foldlM (accumulate a b bCache i) t = some t' ∧
      (t'.1.toInt = t.1.toInt + (ks.map (evenTerm a b bCache i)).sum ∧
        t'.2.toInt = t.2.toInt + (ks.map (oddTerm a b i)).sum) ∧
      |t'.1.toInt| ≤ bound + ks.length * 268369920 ∧ |t'.2.toInt| ≤ bound + ks.length * 268369920 := by
  induction ks generalizing t bound with
  | nil => exact ⟨t, rfl, by simp, by simpa using ht⟩
  | cons k ks ih =>
    rw [List.length_cons] at hbound
    push_cast at hbound
    obtain ⟨t₁, ht₁, ⟨heven, hodd⟩, hbound₁⟩ := @accumulate_spec a b bCache i ha t bound k ht (by linarith)
    obtain ⟨t₂, ht₂, ⟨heven', hodd'⟩, hbound₂⟩ := ih hbound₁ (by linarith)
    refine ⟨t₂, by rw [List.foldlM_cons, ht₁]; exact ht₂, ⟨?_, ?_⟩, ?_⟩
    · rw [heven', heven, List.map_cons, List.sum_cons, add_assoc]
    · rw [hodd', hodd, List.map_cons, List.sum_cons, add_assoc]
    · rw [List.length_cons]
      push_cast
      exact ⟨by linarith [hbound₂.1], by linarith [hbound₂.2]⟩

end Accumulators

theorem exists_montgomeryReduce {a : Int32} (h : |a.toInt| < 2038398975) :
    ∃ r, montgomeryReduce a = some r ∧ 65536 * (r.toInt : ZMod 3329) = a.toInt := by
  obtain ⟨r, hr, hspec⟩ := montgomeryReduce_spec h
  have hspec := congrArg (Int.cast : ℤ → ZMod 3329) hspec
  have hq : (3329 : ZMod 3329) = 0 := rfl
  push_cast at hspec
  rw [hq, mul_zero, sub_zero] at hspec
  exact ⟨r, hr, hspec⟩

section ScalarProduct

variable {a b : Polyvec} {bCache : PolyvecMulcache} {F G : Fin 3 → (ZMod 3329)[X]}

/-- The row of the products of two rows of residues. -/
def productRow (x y : ℕ → ZMod 3329) (n : ℕ) : ZMod 3329 :=
  if n % 2 = 0 then x n * y n + x (n + 1) * (y (n + 1) * node root (2 ^ 7 + n / 2))
  else x (n - 1) * y n + x n * y (n - 1)

theorem leafProducts_productRow (x y : ℕ → ZMod 3329) : LeafProducts root 7 x y (productRow x y) := by
  intro i _
  rw [productRow, productRow, if_pos (by omega), if_neg (by omega), Nat.mul_div_cancel_left i two_pos,
    Nat.add_sub_cancel]
  exact ⟨rfl, rfl⟩

theorem basemul_spec (ha : ∀ k : Fin 3, Unsigned a[k] 4096)
    (hcache : ∀ k : Fin 3, ∀ i < 128, residue bCache[k] i = residue b[k] (2 * i + 1) * node root (2 ^ 7 + i)) :
    ∃ r, polyvecBasemulAccMontgomeryCached a b bCache = some r ∧
      ∀ n < 256, 65536 * residue r n = ∑ k : Fin 3, productRow (residue a[k]) (residue b[k]) n := by
  have hstep : ∀ i < 128, PairStep (fun _ _ ↦ do
      let t ← (List.finRange 3).foldlM (accumulate a b bCache i) (0, 0)
      let low ← montgomeryReduce t.1
      let high ← montgomeryReduce t.2
      return (low, high)) 1 (2 * i) (basemulStep a b bCache · i) := fun i _ r ↦ by
    simp [basemulStep, Option.map_bind]
  obtain ⟨r, hr, hmade⟩ := @exists_neighbours 256 _ _ (Vector.replicate 256 0)
    (fun i low high ↦
      65536 * (low.toInt : ZMod 3329) = ∑ k : Fin 3, productRow (residue a[k]) (residue b[k]) (2 * i) ∧
      65536 * (high.toInt : ZMod 3329) = ∑ k : Fin 3, productRow (residue a[k]) (residue b[k]) (2 * i + 1))
    128 (by norm_num) hstep fun i hi ↦ by
      obtain ⟨t, ht, ⟨heven, hodd⟩, hbound, hbound'⟩ := @foldlM_accumulate a b bCache i ha (List.finRange 3) (0, 0) 0
        ⟨by decide, by decide⟩ (by decide)
      obtain ⟨low, hlow, hlow'⟩ := exists_montgomeryReduce (hbound.trans_lt (by decide))
      obtain ⟨high, hhigh, hhigh'⟩ := exists_montgomeryReduce (hbound'.trans_lt (by decide))
      have hzero : (0 : Int32).toInt = 0 := rfl
      refine ⟨low, high, by simp [ht, hlow, hhigh], ?_, ?_⟩
      · rw [hlow', heven, hzero, zero_add, ← Fin.sum_univ_def, Int.cast_sum]
        refine Finset.sum_congr rfl fun k _ ↦ ?_
        have hcached := hcache k i hi
        rw [residue] at hcached
        rw [productRow, if_pos (by omega), Nat.mul_div_cancel_left i two_pos, ← hcached, evenTerm]
        push_cast
        exact add_comm _ _
      · rw [hhigh', hodd, hzero, zero_add, ← Fin.sum_univ_def, Int.cast_sum]
        refine Finset.sum_congr rfl fun k _ ↦ ?_
        rw [productRow, if_neg (by omega), Nat.add_sub_cancel, oddTerm]
        push_cast
        rfl
  refine ⟨r, hr, fun n hn ↦ ?_⟩
  rcases Nat.even_or_odd' n with ⟨i, rfl | rfl⟩
  · exact (hmade i (by omega)).1
  · exact (hmade i (by omega)).2

/-- The scalar product represents the sum of the products, up to the factor `2 ^ 16`. -/
theorem basemul_represents (ha : ∀ k : Fin 3, Unsigned a[k] 4096)
    (hcache : ∀ k : Fin 3, ∀ i < 128, residue bCache[k] i = residue b[k] (2 * i + 1) * node root (2 ^ 7 + i))
    (hF : ∀ k : Fin 3, Represents root (F k) (residue a[k]) 7 2)
    (hG : ∀ k : Fin 3, Represents root (G k) (residue b[k]) 7 2) :
    ∃ r, polyvecBasemulAccMontgomeryCached a b bCache = some r ∧
      Represents root (∑ k, F k * G k) (fun n ↦ 65536 * residue r n) 7 2 := by
  obtain ⟨r, hr, hproduct⟩ := basemul_spec ha hcache
  have hsum : Represents root (∑ k, F k * G k) (fun n ↦ ∑ k : Fin 3, productRow (residue a[k]) (residue b[k]) n) 7 2 :=
    .sum fun k _ ↦ (hF k).mul (hG k) (leafProducts_productRow _ _)
  exact ⟨r, hr, hsum.congr fun n hn ↦ (hproduct n (by norm_num at hn; exact hn)).symm⟩

theorem polyvecNtt_spec {s : Polyvec} (hs : ∀ k : Fin 3, Bounded s[k] 3329) :
    ∃ r, polyvecNtt s = some r ∧
      ∀ k : Fin 3, Bounded r[k] 26632 ∧ Represents root s[k].toPolynomial (residue r[k]) 7 2 :=
  exists_mapM fun k ↦ polyNtt_spec (hs k)

theorem polyvecReduce_spec (r : Polyvec) :
    ∃ a, polyvecReduce r = some a ∧
      ∀ k : Fin 3, Unsigned a[k] 3329 ∧ ∀ i < 256, residue a[k] i = residue r[k] i :=
  exists_mapM fun k ↦ polyReduce_spec r[k]

theorem polyvecMulcacheCompute_spec (b : Polyvec) :
    ∃ x, polyvecMulcacheCompute b = some x ∧
      ∀ k : Fin 3, ∀ i < 128, residue x[k] i = residue b[k] (2 * i + 1) * node root (2 ^ 7 + i) :=
  exists_mapM fun k ↦ polyMulcacheCompute_spec b[k]

/-- **Multiplication of polynomials.**  The transforms, the reduction of the left vector, the cached scalar product and
the inverse transform overflow nowhere, and compute the sum of the products modulo `X ^ 256 + 1`. -/
theorem invntt_basemul_ntt {s u : Polyvec} (hs : ∀ k : Fin 3, Bounded s[k] 3329) (hu : ∀ k : Fin 3, Bounded u[k] 3329) :
    ∃ product, polyvecProduct s u = some product ∧ Bounded product 3329 ∧
      (X ^ 256 + 1 : (ZMod 3329)[X]) ∣ product.toPolynomial - ∑ k : Fin 3, s[k].toPolynomial * u[k].toPolynomial := by
  obtain ⟨sHat, hsHat, hspec⟩ := polyvecNtt_spec hs
  obtain ⟨a, ha, hspec'⟩ := polyvecReduce_spec sHat
  obtain ⟨b, hb, hspec''⟩ := polyvecNtt_spec hu
  obtain ⟨bCache, hbCache, hcache⟩ := polyvecMulcacheCompute_spec b
  obtain ⟨r, hr, hrow⟩ := basemul_represents
    (fun k i ↦ ⟨((hspec' k).1 i).1, ((hspec' k).1 i).2.trans (by norm_num)⟩) hcache
    (fun k ↦ (hspec k).2.congr fun i hi ↦ ((hspec' k).2 i (by norm_num at hi; exact hi)).symm) fun k ↦ (hspec'' k).2
  obtain ⟨product, hproduct, hbound, hrow'⟩ := polyInvnttTomont_spec r
  refine ⟨product, ?_, hbound, ?_⟩
  · simp only [polyvecProduct, hsHat, ha, hb, hbCache, hr, Option.bind_eq_bind, Option.bind_some]
    exact hproduct
  · have hdvd := hrow'.modEq hrow splitRoots le_rfl
    rwa [show 2 * 2 ^ 7 = 256 by norm_num] at hdvd

theorem invntt_basemul_ntt_ramp :
    let s : Polyvec := #v[ramp, ramp, ramp]
    ∃ product, polyvecProduct s s = some product ∧ Bounded product 3329 ∧
      (X ^ 256 + 1 : (ZMod 3329)[X]) ∣ product.toPolynomial - ∑ k : Fin 3, s[k].toPolynomial * s[k].toPolynomial := by
  have hramp : ∀ k : Fin 3, Bounded (#v[ramp, ramp, ramp] : Polyvec)[k] 3329 := fun k ↦ by
    fin_cases k <;> exact bounded_ramp
  exact invntt_basemul_ntt hramp hramp

end ScalarProduct

end PqBleHandshake.Mlkem
