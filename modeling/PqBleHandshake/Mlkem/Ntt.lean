import PqBleHandshake.Mlkem.Arithmetic
import PqBleHandshake.Mlkem.Words
import PqBleHandshake.Foundation.Splitting

/-!
# The number-theoretic transform

The transforms of the vendored ML-KEM library (`poly.c`), with their loops in place.  The forward transform splits
`X ^ 256 + 1` in seven layers into 128 quadratic factors; the inverse merges them again.  The coefficients are words
of 16 bits that are never reduced on the way forward, so each layer needs a bound as well as its residues.
-/

namespace PqBleHandshake.Mlkem

open Foundation Polynomial

variable {n : ℕ}

/-- `mlk_zetas` -/
def zetas : Words 128 := #v[
  -1044, -758,  -359,  -1517, 1493,  1422,  287,   202,  -171,  622,   1577,
  182,   962,   -1202, -1474, 1468,  573,   -1325, 264,  383,   -829,  1458,
  -1602, -130,  -681,  1017,  732,   608,   -1542, 411,  -205,  -1571, 1223,
  652,   -552,  1015,  -1293, 1491,  -282,  -1544, 516,  -8,    -320,  -666,
  -1618, -1162, 126,   1469,  -853,  -90,   -271,  830,  107,   -1421, -247,
  -951,  -398,  961,   -1508, -725,  448,   -1065, 677,  -1275, -1103, 430,
  555,   843,   -1251, 871,   1550,  105,   422,   587,  177,   -235,  -291,
  -460,  1574,  1653,  -246,  778,   1159,  -147,  -777, 1483,  -602,  1119,
  -1590, 644,   -872,  349,   418,   329,   -156,  -75,  817,   1097,  603,
  610,   1322,  -1285, -1465, 384,   -1215, -136,  1218, -1335, -874,  220,
  -1187, -1659, -1185, -1530, -1278, 794,   -1510, -854, -870,  478,   -108,
  -308,  996,   991,   958,   -1460, 1522,  1628]

/-- One pass of the loop of `mlk_ntt_butterfly_block`. -/
def nttButterfly (zeta : Int16) (len : ℕ) (r : Poly) (j : ℕ) : Option Poly := do
  let t ← fqmul (r.coeff (j + len)) zeta
  let r := r.store (j + len) (← sub16 (r.coeff j) t)
  let r := r.store j (← add16 (r.coeff j) t)
  return r

/-- `mlk_ntt_butterfly_block` -/
def nttButterflyBlock (r : Poly) (zeta : Int16) (start len : ℕ) : Option Poly :=
  (List.range' start len).foldlM (nttButterfly zeta len) r

/-- `mlk_ntt_layer`; `block` counts the passes of the loop, so that `start` is `2 * len * block`. -/
def nttLayer (r : Poly) (layer : ℕ) : Option Poly :=
  let len := 256 >>> layer
  (List.range (256 / (2 * len))).foldlM
    (fun r block ↦ nttButterflyBlock r (zetas.coeff (1 <<< (layer - 1) + block)) (2 * len * block) len) r

/-- `mlk_poly_ntt_c` -/
def polyNtt (p : Poly) : Option Poly := (List.range' 1 7).foldlM nttLayer p

/-- One pass of the inner loop of `mlk_invntt_layer`. -/
def invnttButterfly (zeta : Int16) (len : ℕ) (r : Poly) (j : ℕ) : Option Poly := do
  let t := r.coeff j
  let r := r.store j (← barrettReduce (← add16 t (r.coeff (j + len))))
  let r := r.store (j + len) (← sub16 (r.coeff (j + len)) t)
  let r := r.store (j + len) (← fqmul (r.coeff (j + len)) zeta)
  return r

/-- `mlk_invntt_layer` -/
def invnttLayer (r : Poly) (layer : ℕ) : Option Poly :=
  let len := 256 >>> layer
  (List.range (256 / (2 * len))).foldlM
    (fun r block ↦
      (List.range' (2 * len * block) len).foldlM (invnttButterfly (zetas.coeff (1 <<< layer - 1 - block)) len) r) r

/-- `mlk_poly_invntt_tomont_c` -/
def polyInvnttTomont (p : Poly) : Option Poly := do
  let r ← p.mapM fun c ↦ fqmul c 1441
  (List.range' 1 7).reverse.foldlM invnttLayer r


/-! ## Coefficients modulo 3329 -/

instance fact_one_lt : Fact (1 < 3329) := ⟨by norm_num⟩

/-- The coefficients as residues. -/
def residue (words : Words n) (i : ℕ) : ZMod 3329 := (words.coeff i).toInt

/-- Every coefficient is below the bound in absolute value. -/
def Bounded (words : Words n) (bound : ℤ) : Prop := ∀ i, |(words.coeff i).toInt| < bound

/-- The twiddle factor without its Montgomery factor `2 ^ 16`, whose inverse is 169. -/
def root (k : ℕ) : ZMod 3329 := (zetas.coeff k).toInt * 169

theorem zetas_canonical (k : ℕ) : |(zetas.coeff k).toInt| < 1665 := by
  by_cases h : k < 128
  · revert k
    decide +kernel
  · rw [Words.coeff_of_le (not_lt.mp h)]
    decide

/-- The table is a tree of square roots of -1. -/
theorem splitRoots : SplitRoots root 7 := by
  have htable : ∀ k < 128, 0 < k → root k ^ 2 = node root k := by decide +kernel
  exact .of_sq (fun k hpos hlt ↦ htable k hlt hpos) (IsUnit.of_mul_eq_one 1665 (by decide))

theorem zetas_inverse {layer block : ℕ} (hpos : 0 < layer) (hlayer : layer < 8) (hblock : block < 2 ^ (layer - 1)) :
    root (1 <<< layer - 1 - block) * root (2 ^ (layer - 1) + block) = -1 := by
  have htable : ∀ layer < 8, ∀ block < 64, 0 < layer → block < 2 ^ (layer - 1) →
      root (1 <<< layer - 1 - block) * root (2 ^ (layer - 1) + block) = -1 := by decide +kernel
  have h64 : 2 ^ (layer - 1) ≤ 2 ^ 6 := Nat.pow_le_pow_right two_pos (by omega)
  exact htable layer hlayer block (by omega) hpos hblock

/-- A multiplication by a signed canonical constant never overflows. -/
theorem exists_fqmul (a : Int16) {b : Int16} (h : |b.toInt| < 1665) :
    ∃ r, fqmul a b = some r ∧ |r.toInt| < 3329 ∧ (r.toInt : ZMod 3329) = a.toInt * (b.toInt * 169) := by
  obtain ⟨r, hr, hbound, hspec⟩ := fqmul_spec a h
  have hspec := congrArg (Int.cast : ℤ → ZMod 3329) hspec
  push_cast at hspec
  have hq : (3329 : ZMod 3329) = 0 := rfl
  have hone : (65536 : ZMod 3329) * 169 = 1 := by decide
  rw [hq, mul_zero, sub_zero] at hspec
  refine ⟨r, hr, hbound, ?_⟩
  calc (r.toInt : ZMod 3329) = 65536 * r.toInt * 169 := by rw [mul_right_comm, hone, one_mul]
    _ = a.toInt * (b.toInt * 169) := by rw [hspec]; ring

/-- A reduction never overflows. -/
theorem exists_barrettReduce (a : Int16) :
    ∃ r, barrettReduce a = some r ∧ |r.toInt| < 1665 ∧ (r.toInt : ZMod 3329) = a.toInt := by
  obtain ⟨r, hr, hbound, t, ht⟩ := barrettReduce_spec a
  have hq : (3329 : ZMod 3329) = 0 := rfl
  refine ⟨r, hr, hbound, ?_⟩
  rw [ht]
  push_cast
  rw [hq, mul_zero, sub_zero]

theorem bounded_of_coeff {words : Words n} {bound : ℤ} (hpos : 0 < bound)
    (h : ∀ i < n, |(words.coeff i).toInt| < bound) : Bounded words bound := fun i ↦ by
  by_cases hi : i < n
  · exact h i hi
  · rw [Words.coeff_of_le (not_lt.mp hi)]
    exact hpos

/-! ## The layers -/

/-- What a butterfly makes of its two coefficients. -/
def nttValues (zeta low high : Int16) : Option (Int16 × Int16) := do
  let t ← fqmul high zeta
  let high ← sub16 low t
  let low ← add16 low t
  return (low, high)

theorem pairStep_nttButterfly (zeta : Int16) {len : ℕ} (hlen : 0 < len) (j : ℕ) :
    PairStep (nttValues zeta) len j (nttButterfly zeta len · j) := fun r ↦ by
  have hcoeff : ∀ high, (r.store (j + len) high).coeff j = r.coeff j := fun high ↦ by
    rw [Words.coeff_store, if_neg (by omega)]
  have hcomm : ∀ low high, (r.store (j + len) high).store j low = (r.store j low).store (j + len) high :=
    fun low high ↦ Vector.setIfInBound_comm high low (by omega)
  simp [nttButterfly, nttValues, hcoeff, hcomm, Option.map_bind]

/-- Below a bound that leaves room for a reduced word, no sum overflows. -/
theorem exists_nttValues {zeta low high : Int16} {bound : ℤ} (hzeta : |zeta.toInt| < 1665) (hlow : |low.toInt| < bound)
    (hbound : bound + 3329 ≤ 32768) :
    ∃ low' high', nttValues zeta low high = some (low', high') ∧
      (|low'.toInt| < bound + 3329 ∧ |high'.toInt| < bound + 3329) ∧
      (low'.toInt : ZMod 3329) = low.toInt + zeta.toInt * 169 * high.toInt ∧
      (high'.toInt : ZMod 3329) = low.toInt - zeta.toInt * 169 * high.toInt := by
  obtain ⟨t, ht, hsmall, hresidue⟩ := exists_fqmul high hzeta
  obtain ⟨high', hhigh', hdifference⟩ := exists_sub16 hlow hsmall hbound
  obtain ⟨low', hlow', hsum⟩ := exists_add16 hlow hsmall hbound
  refine ⟨low', high', by simp [nttValues, ht, hhigh', hlow'], ?_, ?_, ?_⟩
  · rw [hsum, hdifference]
    exact ⟨(abs_add_le _ _).trans_lt (add_lt_add hlow hsmall), (abs_sub _ _).trans_lt (add_lt_add hlow hsmall)⟩
  · rw [hsum, Int.cast_add, hresidue]
    ring
  · rw [hdifference, Int.cast_sub, hresidue]
    ring

/-- What a butterfly of the inverse makes of its two coefficients. -/
def invnttValues (zeta low high : Int16) : Option (Int16 × Int16) := do
  let low' ← barrettReduce (← add16 low high)
  let high' ← fqmul (← sub16 high low) zeta
  return (low', high')

theorem pairStep_invnttButterfly (zeta : Int16) {len j : ℕ} (hlen : 0 < len) (hj : j + len < 256) :
    PairStep (invnttValues zeta) len j (invnttButterfly zeta len · j) := fun r ↦ by
  have hcoeff : ∀ low, (r.store j low).coeff (j + len) = r.coeff (j + len) := fun low ↦ by
    rw [Words.coeff_store, if_neg (by omega)]
  have hcoeff' : ∀ (r : Poly) (high : Int16), (r.store (j + len) high).coeff (j + len) = high := fun r high ↦ by
    rw [Words.coeff_store, if_pos ⟨rfl, hj⟩]
  have hstore : ∀ (r : Poly) (high high' : Int16), (r.store (j + len) high).store (j + len) high' =
      r.store (j + len) high' := fun r high high' ↦ Vector.setIfInBounds_setIfInBounds high
  simp [invnttButterfly, invnttValues, hcoeff, hcoeff', hstore, Option.map_bind]


/-- Sums and differences of reduced words do not overflow. -/
theorem exists_invnttValues {zeta low high : Int16} (hzeta : |zeta.toInt| < 1665) (hlow : |low.toInt| < 3329)
    (hhigh : |high.toInt| < 3329) :
    ∃ low' high', invnttValues zeta low high = some (low', high') ∧ (|low'.toInt| < 3329 ∧ |high'.toInt| < 3329) ∧
      (low'.toInt : ZMod 3329) = low.toInt + high.toInt ∧
      (high'.toInt : ZMod 3329) = (high.toInt - low.toInt) * (zeta.toInt * 169) := by
  obtain ⟨sum, hsum, hvalue⟩ := exists_add16 hlow hhigh (by norm_num)
  obtain ⟨low', hlow', hcentred, hresidue⟩ := exists_barrettReduce sum
  obtain ⟨difference, hdifference, hvalue'⟩ := exists_sub16 hhigh hlow (by norm_num)
  obtain ⟨high', hhigh', hsmall, hresidue'⟩ := exists_fqmul difference hzeta
  refine ⟨low', high', by simp [invnttValues, hsum, hlow', hdifference, hhigh'], ⟨hcentred.trans (by norm_num), hsmall⟩,
    ?_, ?_⟩
  · rw [hresidue, hvalue, Int.cast_add]
  · rw [hresidue', hvalue', Int.cast_sub]

theorem layer_sizes {layer : ℕ} (hpos : 0 < layer) (hlt : layer < 8) :
    0 < 256 >>> layer ∧ 256 / (2 * 256 >>> layer) = 2 ^ (layer - 1) ∧ 2 * 256 >>> layer * 2 ^ (layer - 1) = 256 ∧
      1 <<< (layer - 1) = 2 ^ (layer - 1) := by
  interval_cases layer <;> decide

theorem bounded_of_pairs {len blocks : ℕ} {r : Poly} {bound : ℤ} (hlen : 0 < len) (hsize : 2 * len * blocks = 256)
    (hpos : 0 < bound)
    (h : ∀ block < blocks, ∀ j < len, |(r.coeff (2 * len * block + j)).toInt| < bound ∧
      |(r.coeff (2 * len * block + j + len)).toInt| < bound) : Bounded r bound := by
  refine bounded_of_coeff hpos fun i hi ↦ ?_
  obtain ⟨block, hblock, j, hj, hmem⟩ := exists_pair hlen (hi.trans_eq hsize.symm)
  rcases hmem with rfl | rfl
  · exact (h block hblock j hj).1
  · exact (h block hblock j hj).2

/-- One layer: no sum overflows, and the residues are split. -/
theorem nttLayer_spec {r : Poly} {layer : ℕ} (hpos : 0 < layer) (hlt : layer < 8) (hr : Bounded r (layer * 3329)) :
    ∃ r', nttLayer r layer = some r' ∧ Bounded r' ((layer + 1) * 3329) ∧
      SplitLayer root (layer - 1) (256 >>> layer) (residue r) (residue r') := by
  obtain ⟨hlen, hblocks, hsize, hshift⟩ := layer_sizes hpos hlt
  obtain ⟨r', hr', hmade⟩ := exists_blocks hlen hsize
    (fun block j _ ↦ pairStep_nttButterfly (zetas.coeff (2 ^ (layer - 1) + block)) hlen j)
    fun block _ j _ ↦ exists_nttValues (zetas_canonical _) (hr (2 * 256 >>> layer * block + j)) (by omega)
  refine ⟨r', ?_, ?_, ?_⟩
  · simp only [nttLayer, nttButterflyBlock, hblocks, hshift]
    exact hr'
  · rw [add_one_mul]
    exact bounded_of_pairs hlen hsize (by positivity) fun block hblock j hj ↦ (hmade block hblock j hj).1
  · intro block hblock j hj
    rw [add_right_comm]
    exact (hmade block hblock j hj).2

/-- One layer of the inverse: nothing overflows, the bound stays, and the residues are merged. -/
theorem invnttLayer_spec {r : Poly} {layer : ℕ} (hpos : 0 < layer) (hlt : layer < 8) (hr : Bounded r 3329) :
    ∃ r', invnttLayer r layer = some r' ∧ Bounded r' 3329 ∧
      MergeLayer root (layer - 1) (256 >>> layer) (residue r) (residue r') := by
  obtain ⟨hlen, hblocks, hsize, -⟩ := layer_sizes hpos hlt
  obtain ⟨r', hr', hmade⟩ := exists_blocks hlen hsize
    (fun block j ↦ pairStep_invnttButterfly (zetas.coeff (1 <<< layer - 1 - block)) hlen)
    fun block _ j _ ↦ exists_invnttValues (zetas_canonical _) (hr (2 * 256 >>> layer * block + j)) (hr _)
  refine ⟨r', ?_, ?_, ?_⟩
  · simp only [invnttLayer, hblocks]
    exact hr'
  · exact bounded_of_pairs hlen hsize (by norm_num) fun block hblock j hj ↦ (hmade block hblock j hj).1
  · intro block hblock j hj
    obtain ⟨-, hlow, hhigh⟩ := hmade block hblock j hj
    rw [add_right_comm]
    refine ⟨hlow, ?_⟩
    rw [residue, hhigh]
    change root _ * ((residue r _ - residue r _) * root _) = _
    linear_combination (residue r (2 * 256 >>> layer * block + j + 256 >>> layer) -
      residue r (2 * 256 >>> layer * block + j)) * zetas_inverse hpos hlt hblock

/-! ## The transforms -/

/-- The polynomial of an array of coefficients. -/
noncomputable def Poly.toPolynomial (p : Poly) : Polynomial (ZMod 3329) := slicePoly (residue p) 0 256

theorem shiftRight_layer {n : ℕ} (h : n < 7) : 256 >>> n = 2 * 256 >>> (n + 1) := by
  interval_cases n <;> rfl

theorem nttLayers_spec {p : Poly} (hp : Bounded p 3329) {n : ℕ} (hn : n ≤ 7) :
    ∃ r, (List.range' 1 n).foldlM nttLayer p = some r ∧ Bounded r ((n + 1) * 3329) ∧
      Represents root p.toPolynomial (residue r) n (256 >>> n) := by
  induction n with
  | zero => exact ⟨p, rfl, by simpa using hp, represents_root root (residue p) 256⟩
  | succ n ih =>
    obtain ⟨r, hr, hbound, hrow⟩ := ih (by omega)
    obtain ⟨r', hr', hbound', hlayer⟩ := @nttLayer_spec r (n + 1) (by omega) (by omega) (by exact_mod_cast hbound)
    rw [shiftRight_layer (by omega)] at hrow
    refine ⟨r', ?_, by exact_mod_cast hbound', hrow.split splitRoots (by omega) hlayer⟩
    rw [List.range'_1_concat, List.foldlM_append, hr, add_comm 1 n]
    simpa using hr'

theorem invnttLayers_spec {n : ℕ} (hn : n ≤ 7) {r : Poly} (hr : Bounded r 3329) :
    ∃ r', (List.range' 1 n).reverse.foldlM invnttLayer r = some r' ∧ Bounded r' 3329 ∧ ∀ F s,
      Represents root F (fun i ↦ s * residue r' i) 0 256 →
        Represents root F (fun i ↦ s * 2 ^ n * residue r i) n (256 >>> n) := by
  induction n generalizing r with
  | zero => exact ⟨r, rfl, hr, fun F s h ↦ by simpa using h⟩
  | succ n ih =>
    obtain ⟨r₁, hr₁, hbound, hlayer⟩ := @invnttLayer_spec r (n + 1) (by omega) (by omega) hr
    obtain ⟨r₂, hr₂, hbound', hrow⟩ := ih (by omega) hbound
    refine ⟨r₂, ?_, hbound', fun F s h ↦ ?_⟩
    · rw [List.range'_1_concat, List.reverse_append, List.reverse_singleton, List.singleton_append, List.foldlM_cons,
        add_comm 1 n, hr₁]
      exact hr₂
    · have hrow := hrow F s h
      rw [shiftRight_layer (by omega)] at hrow
      rw [pow_succ, ← mul_assoc]
      exact hrow.merge splitRoots (by omega) hlayer

/-- The forward transform: nothing overflows, and the output holds the residues of the polynomial modulo the 128
factors of `X ^ 256 + 1`. -/
theorem polyNtt_spec {p : Poly} (hp : Bounded p 3329) :
    ∃ r, polyNtt p = some r ∧ Bounded r 26632 ∧ Represents root p.toPolynomial (residue r) 7 2 :=
  nttLayers_spec hp le_rfl

/-- The inverse transform, on whatever input: nothing overflows, and the output is the polynomial whose residues are
the input times `2 ^ 16`. -/
theorem polyInvnttTomont_spec (p : Poly) :
    ∃ r, polyInvnttTomont p = some r ∧ Bounded r 3329 ∧
      Represents root r.toPolynomial (fun i ↦ 65536 * residue p i) 7 2 := by
  have hf : |(1441 : Int16).toInt| < 1665 := by decide
  obtain ⟨scaled, hscaled, hmade⟩ := Words.exists_mapM (f := (fqmul · 1441)) p fun i _ ↦ exists_fqmul (p.coeff i) hf
  obtain ⟨r, hr, hbound, hrow⟩ := invnttLayers_spec le_rfl
    (bounded_of_coeff (by norm_num) fun i hi ↦ (hmade i hi).1)
  have hfactor : (2 : ZMod 3329) ^ 7 * (((1441 : Int16).toInt : ZMod 3329) * 169) = 65536 := by decide
  refine ⟨r, by rw [polyInvnttTomont, hscaled]; exact hr, hbound, (hrow _ 1 ?_).congr fun i hi ↦ ?_⟩
  · simp only [one_mul]
    exact represents_root root _ 256
  · rw [residue, (hmade i (by norm_num at hi; exact hi)).2, ← hfactor, residue]
    ring

/-- The seven low bits of `i`, reversed. -/
def bitRev7 (i : ℕ) : ℕ := (List.range 7).foldl (fun acc k ↦ 2 * acc + i / 2 ^ k % 2) 0

theorem node_leaf {i : ℕ} (h : i < 128) : node root (2 ^ 7 + i) = 17 ^ (2 * bitRev7 i + 1) := by
  have htable : ∀ i < 128, node root (2 ^ 7 + i) = ((17 ^ (2 * bitRev7 i + 1) % 3329 : ℕ) : ZMod 3329) := by
    decide +kernel
  rw [htable i h, ZMod.natCast_mod, Nat.cast_pow]
  rfl

/-- **The number-theoretic transform.**  On coefficients below 3329 no addition or reduction overflows, the output is
below 8 times 3329, and its pairs are the residues of the polynomial modulo `X ^ 2 - 17 ^ (2 * bitRev7 i + 1)`. -/
theorem polyNtt_evaluates {p : Poly} (hp : Bounded p 3329) :
    ∃ r, polyNtt p = some r ∧ Bounded r (8 * 3329) ∧
      ∀ i < 128, (X ^ 2 - C (17 ^ (2 * bitRev7 i + 1)) : (ZMod 3329)[X]) ∣
        p.toPolynomial - (C (residue r (2 * i)) + C (residue r (2 * i + 1)) * X) := by
  obtain ⟨r, hr, hbound, hrow⟩ := polyNtt_spec hp
  refine ⟨r, hr, hbound, fun i hi ↦ ?_⟩
  have hresidue := hrow i hi
  rw [node_leaf hi] at hresidue
  simpa [slicePoly, Finset.sum_range_succ] using hresidue

/-- The polynomial with the coefficients 0, 1, 2 and so on. -/
def ramp : Poly := Vector.ofFn fun i ↦ Int16.ofNat i

theorem bounded_ramp : Bounded ramp 3329 := by
  refine bounded_of_coeff (by norm_num) fun i hi ↦ ?_
  rw [ramp, Words.coeff_ofFn hi]
  revert i
  decide +kernel

theorem polyNtt_evaluates_ramp :
    ∃ r, polyNtt ramp = some r ∧ Bounded r (8 * 3329) ∧
      ∀ i < 128, (X ^ 2 - C (17 ^ (2 * bitRev7 i + 1)) : (ZMod 3329)[X]) ∣
        ramp.toPolynomial - (C (residue r (2 * i)) + C (residue r (2 * i + 1)) * X) :=
  polyNtt_evaluates bounded_ramp

/-- **The inverse transform.**  On whatever input nothing overflows and the output is below 3329, and the two
transforms undo each other up to the factor `2 ^ 16`, in both orders and without an overflow. -/
theorem polyInvnttTomont_inverse (p : Poly) :
    (∃ r, polyInvnttTomont p = some r ∧ Bounded r 3329 ∧
      ∃ p', polyNtt r = some p' ∧ ∀ i < 256, residue p' i = 65536 * residue p i) ∧
      (Bounded p 3329 → ∃ r, polyNtt p = some r ∧
        ∃ p', polyInvnttTomont r = some p' ∧ ∀ i < 256, residue p' i = 65536 * residue p i) := by
  constructor
  · obtain ⟨r, hr, hbound, hrow⟩ := polyInvnttTomont_spec p
    obtain ⟨p', hp', -, hrow'⟩ := polyNtt_spec hbound
    exact ⟨r, hr, hbound, p', hp', hrow'.unique hrow two_pos⟩
  · intro hp
    obtain ⟨r, hr, -, hrow⟩ := polyNtt_spec hp
    obtain ⟨p', hp', -, hrow'⟩ := polyInvnttTomont_spec r
    refine ⟨r, hr, p', hp', fun i hi ↦ ?_⟩
    have hdvd := hrow'.modEq (hrow.scale 65536) splitRoots le_rfl
    rw [show 2 * 2 ^ 7 = 256 by norm_num, Poly.toPolynomial, Poly.toPolynomial, ← slicePoly_scale] at hdvd
    exact eq_of_dvd_pow_add_one (by norm_num) hdvd hi

theorem polyInvnttTomont_inverse_ramp :
    ∃ r, polyNtt ramp = some r ∧
      ∃ p', polyInvnttTomont r = some p' ∧ ∀ i < 256, residue p' i = 65536 * residue ramp i :=
  (polyInvnttTomont_inverse ramp).2 bounded_ramp

end PqBleHandshake.Mlkem
