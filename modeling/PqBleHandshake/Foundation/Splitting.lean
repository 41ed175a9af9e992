import Mathlib.Tactic
import Mathlib.Algebra.Polynomial.Basic
import Mathlib.RingTheory.Coprime.Lemmas

/-!
# Transforms that split a polynomial modulus

A polynomial modulo `X ^ (2 * n) - c ^ 2` is known by its residues modulo `X ^ n - c` and `X ^ n + c`.  Splitting
again and again turns one residue modulo `X ^ N + 1` into a row of small ones, on which products are cheap.  The
moduli form a binary tree, numbered as a heap from its root 1, and one table of square roots names them all.
The rules below say what one layer of such a transform, or of its inverse, does to the polynomial that a row of
coefficients stands for.
-/

namespace PqBleHandshake.Foundation

open Polynomial Finset

variable {R : Type*} [CommRing R]

/-- The polynomial of `n` coefficients from `start` on. -/
noncomputable def slicePoly (a : ℕ → R) (start n : ℕ) : R[X] := ∑ j ∈ range n, C (a (start + j)) * X ^ j

theorem slicePoly_add (a : ℕ → R) (start m n : ℕ) :
    slicePoly a start (m + n) = slicePoly a start m + X ^ m * slicePoly a (start + m) n := by
  simp only [slicePoly, sum_range_add, mul_sum, pow_add, add_assoc]
  congr 1
  exact sum_congr rfl fun j _ ↦ by ring

theorem slicePoly_congr {a b : ℕ → R} {start start' n : ℕ} (h : ∀ j < n, a (start + j) = b (start' + j)) :
    slicePoly a start n = slicePoly b start' n :=
  sum_congr rfl fun j hj ↦ by rw [h j (mem_range.mp hj)]

theorem coeff_slicePoly (a : ℕ → R) (start n j : ℕ) :
    (slicePoly a start n).coeff j = if j < n then a (start + j) else 0 := by
  simp only [slicePoly, finsetSum_coeff, coeff_C_mul_X_pow, sum_ite_eq, mem_range]

/-- Residues are unique: two slices that agree modulo a monic polynomial of their length are equal. -/
theorem eq_of_dvd_slicePoly [Nontrivial R] {a b : ℕ → R} {M : R[X]} {start start' n : ℕ} (hmonic : M.Monic)
    (hdegree : M.natDegree = n) (h : M ∣ slicePoly a start n - slicePoly b start' n) {j : ℕ} (hj : j < n) :
    a (start + j) = b (start' + j) := by
  have hlow : (slicePoly a start n - slicePoly b start' n).degree < M.degree := by
    rw [degree_eq_natDegree hmonic.ne_zero, hdegree, degree_lt_iff_coeff_zero]
    intro k hk
    rw [coeff_sub, coeff_slicePoly, coeff_slicePoly, if_neg (by omega), if_neg (by omega), sub_zero]
  have hzero : slicePoly a start n - slicePoly b start' n = 0 := by
    by_contra hne
    exact hmonic.not_dvd_of_degree_lt hne hlow h
  have hcoeff := congrArg (coeff · j) (sub_eq_zero.mp hzero)
  simpa only [coeff_slicePoly, if_pos hj] using hcoeff

/-- The coefficients of a polynomial modulo `X ^ n + 1` are unique. -/
theorem eq_of_dvd_pow_add_one [Nontrivial R] {a b : ℕ → R} {n : ℕ} (hn : n ≠ 0)
    (h : X ^ n + 1 ∣ slicePoly a 0 n - slicePoly b 0 n) {j : ℕ} (hj : j < n) : a j = b j := by
  have hmonic : (X ^ n + C 1 : R[X]).Monic := monic_X_pow_add_C 1 hn
  have hdegree : (X ^ n + C 1 : R[X]).natDegree = n := natDegree_X_pow_add_C
  rw [map_one] at hmonic hdegree
  simpa only [zero_add] using eq_of_dvd_slicePoly hmonic hdegree h hj

theorem slicePoly_scale (a : ℕ → R) (s : R) (start n : ℕ) :
    slicePoly (fun i ↦ s * a i) start n = C s * slicePoly a start n := by
  simp only [slicePoly, mul_sum, map_mul, mul_assoc]

/-- The constant of a node: the modulus of a node with residues of `n` coefficients is `X ^ n - node k`. -/
def node (root : ℕ → R) (k : ℕ) : R := if k = 1 then -1 else if k % 2 = 0 then root (k / 2) else -root (k / 2)

/-- The square roots that a tree of the given depth needs. -/
structure SplitRoots (root : ℕ → R) (depth : ℕ) : Prop where
  sq {k : ℕ} : 0 < k → k < 2 ^ depth → root k ^ 2 = node root k
  unit {k : ℕ} : 0 < k → k < 2 ^ depth → IsUnit (2 * root k)

section Nodes

variable {root : ℕ → R} {depth k : ℕ}

theorem node_left (root : ℕ → R) (k : ℕ) : node root (2 * k) = root k := by
  rw [node, if_neg (by omega), if_pos (by omega), Nat.mul_div_cancel_left k two_pos]

theorem node_right (root : ℕ → R) (hpos : 0 < k) : node root (2 * k + 1) = -root k := by
  rw [node, if_neg (by omega), if_neg (by omega), show (2 * k + 1) / 2 = k by omega]

/-- The roots are units when 2 is, because their powers lead up to -1. -/
theorem SplitRoots.of_sq (hsq : ∀ k, 0 < k → k < 2 ^ depth → root k ^ 2 = node root k) (htwo : IsUnit (2 : R)) :
    SplitRoots root depth := by
  have hunit : ∀ k, 0 < k → k < 2 ^ depth → IsUnit (root k) := by
    intro k
    induction k using Nat.strong_induction_on with
    | _ k ih =>
      intro hpos hlt
      rw [← isUnit_pow_iff two_ne_zero, hsq k hpos hlt, node]
      split_ifs with hone heven
      · exact isUnit_one.neg
      · exact ih (k / 2) (by omega) (by omega) (by omega)
      · exact (ih (k / 2) (by omega) (by omega) (by omega)).neg
  exact ⟨fun hpos hlt ↦ hsq _ hpos hlt, fun hpos hlt ↦ htwo.mul (hunit _ hpos hlt)⟩

/-- The modulus of an inner node is the product of those of its children. -/
theorem SplitRoots.factor (h : SplitRoots root depth) (n : ℕ) (hpos : 0 < k) (hlt : k < 2 ^ depth) :
    (X ^ (2 * n) - C (node root k) : R[X]) =
      (X ^ n - C (node root (2 * k))) * (X ^ n - C (node root (2 * k + 1))) := by
  rw [node_left, node_right root hpos, ← h.sq hpos hlt, two_mul, pow_add, map_neg, map_pow]
  ring

theorem SplitRoots.coprime (h : SplitRoots root depth) (n : ℕ) (hpos : 0 < k) (hlt : k < 2 ^ depth) :
    IsCoprime (X ^ n - C (node root (2 * k)) : R[X]) (X ^ n - C (node root (2 * k + 1))) := by
  obtain ⟨u, hu⟩ := (h.unit hpos hlt).exists_left_inv
  refine ⟨-C u, C u, ?_⟩
  have hone : C u * (2 * C (root k)) = (1 : R[X]) := by rw [← map_ofNat C 2, ← map_mul, ← map_mul, hu, map_one]
  rw [node_left, node_right root hpos, map_neg]
  calc -C u * (X ^ n - C (root k)) + C u * (X ^ n - -C (root k)) = C u * (2 * C (root k)) := by ring
    _ = 1 := hone

end Nodes

/-! ## Rows of residues -/

/-- The row `a` holds the residues of `F` at the nodes of a level, each with `n` coefficients. -/
def Represents (root : ℕ → R) (F : R[X]) (a : ℕ → R) (level n : ℕ) : Prop :=
  ∀ b < 2 ^ level, (X ^ n - C (node root (2 ^ level + b)) : R[X]) ∣ F - slicePoly a (n * b) n

/-- One layer of a transform: every node gives way to its children. -/
def SplitLayer (root : ℕ → R) (level n : ℕ) (a a' : ℕ → R) : Prop :=
  ∀ b < 2 ^ level, ∀ j < n,
    a' (2 * n * b + j) = a (2 * n * b + j) + root (2 ^ level + b) * a (2 * n * b + n + j) ∧
      a' (2 * n * b + n + j) = a (2 * n * b + j) - root (2 ^ level + b) * a (2 * n * b + n + j)

/-- One layer of the inverse transform, which leaves a factor 2. -/
def MergeLayer (root : ℕ → R) (level n : ℕ) (a a' : ℕ → R) : Prop :=
  ∀ b < 2 ^ level, ∀ j < n,
    a' (2 * n * b + j) = a (2 * n * b + j) + a (2 * n * b + n + j) ∧
      root (2 ^ level + b) * a' (2 * n * b + n + j) = a (2 * n * b + j) - a (2 * n * b + n + j)

section Rows

variable {root : ℕ → R} {F G : R[X]} {a a' b c : ℕ → R} {depth level n : ℕ}

/-- A row of its own coefficients, at the root. -/
theorem represents_root (root a : ℕ → R) (n : ℕ) : Represents root (slicePoly a 0 n) a 0 n := by
  intro b hb
  obtain rfl : b = 0 := by simpa using hb
  rw [mul_zero, sub_self]
  exact dvd_zero _

theorem Represents.congr (h : Represents root F a level n) (hrow : ∀ i < n * 2 ^ level, a i = c i) :
    Represents root F c level n := by
  intro b hb
  rw [← @slicePoly_congr R _ a c (n * b) (n * b) n fun j hj ↦ hrow _ ?_]
  · exact h b hb
  · calc n * b + j < n * b + n := by omega
      _ = n * (b + 1) := by ring
      _ ≤ n * 2 ^ level := Nat.mul_le_mul_left n hb

theorem Represents.scale (h : Represents root F a level n) (s : R) :
    Represents root (C s * F) (fun i ↦ s * a i) level n := by
  intro k hk
  rw [slicePoly_scale, ← mul_sub]
  exact Dvd.dvd.mul_left (h k hk) _

theorem Represents.sum {ι : Type*} {terms : Finset ι} {F : ι → R[X]} {a : ι → ℕ → R}
    (h : ∀ t ∈ terms, Represents root (F t) (a t) level n) :
    Represents root (∑ t ∈ terms, F t) (fun i ↦ ∑ t ∈ terms, a t i) level n := by
  intro k hk
  have hslice : slicePoly (fun i ↦ ∑ t ∈ terms, a t i) (n * k) n = ∑ t ∈ terms, slicePoly (a t) (n * k) n := by
    simp only [slicePoly, map_sum, sum_mul]
    exact sum_comm
  rw [hslice, ← sum_sub_distrib]
  exact dvd_sum fun t ht ↦ h t ht k hk

theorem Represents.unique [Nontrivial R] (h : Represents root F a level n) (h' : Represents root F c level n)
    (hn : 0 < n) : ∀ i < n * 2 ^ level, a i = c i := by
  intro i hi
  have hblock : i / n < 2 ^ level := Nat.div_lt_of_lt_mul hi
  have hdvd := dvd_sub (h' _ hblock) (h _ hblock)
  rw [sub_sub_sub_cancel_left] at hdvd
  have heq := eq_of_dvd_slicePoly (monic_X_pow_sub_C _ hn.ne') natDegree_X_pow_sub_C hdvd (Nat.mod_lt i hn)
  rwa [Nat.div_add_mod] at heq

/-- A residue modulo `Q * (X ^ n - z)` gives the residue modulo `X ^ n - z`. -/
theorem dvd_sub_reduce {F A B Q : R[X]} {z : R} {n : ℕ} (h : (X ^ n - C z) * Q ∣ F - (A + X ^ n * B)) :
    X ^ n - C z ∣ F - (A + C z * B) := by
  have hsplit : F - (A + C z * B) = (F - (A + X ^ n * B)) + (X ^ n - C z) * B := by ring
  rw [hsplit]
  exact dvd_add ((dvd_mul_right _ _).trans h) (dvd_mul_right _ _)

/-- A layer keeps the polynomial. -/
theorem Represents.split (h : Represents root F a level (2 * n)) (hroots : SplitRoots root depth)
    (hlevel : level < depth) (hlayer : SplitLayer root level n a a') : Represents root F a' (level + 1) n := by
  intro k hk
  have hpow : 2 ^ (level + 1) = 2 * 2 ^ level := pow_succ' 2 level
  obtain ⟨b, hb⟩ := Nat.even_or_odd' k
  have hbound : b < 2 ^ level := by omega
  have hpos : 0 < 2 ^ level + b := Nat.add_pos_left (Nat.two_pow_pos level) b
  have hlt : 2 ^ level + b < 2 ^ depth := by
    have := Nat.pow_le_pow_right two_pos (show level + 1 ≤ depth from hlevel)
    omega
  have hF := h b hbound
  rw [hroots.factor n hpos hlt, show 2 * n = n + n by ring, slicePoly_add, show (n + n) * b = 2 * n * b by ring] at hF
  rcases hb with rfl | rfl
  · have hslice : slicePoly a' (n * (2 * b)) n =
        slicePoly a (2 * n * b) n + C (root (2 ^ level + b)) * slicePoly a (2 * n * b + n) n := by
      rw [show n * (2 * b) = 2 * n * b by ring]
      simp only [slicePoly, mul_sum, ← sum_add_distrib]
      refine sum_congr rfl fun j hj ↦ ?_
      rw [(hlayer b hbound j (mem_range.mp hj)).1, map_add, map_mul]
      ring
    rw [show 2 ^ (level + 1) + 2 * b = 2 * (2 ^ level + b) by omega, hslice, ← node_left root (2 ^ level + b)]
    exact dvd_sub_reduce hF
  · have hslice : slicePoly a' (n * (2 * b + 1)) n =
        slicePoly a (2 * n * b) n + C (-root (2 ^ level + b)) * slicePoly a (2 * n * b + n) n := by
      rw [show n * (2 * b + 1) = 2 * n * b + n by ring]
      simp only [slicePoly, mul_sum, ← sum_add_distrib]
      refine sum_congr rfl fun j hj ↦ ?_
      rw [(hlayer b hbound j (mem_range.mp hj)).2, map_sub, map_mul, map_neg]
      ring
    rw [show 2 ^ (level + 1) + (2 * b + 1) = 2 * (2 ^ level + b) + 1 by omega, hslice, ← node_right root hpos]
    rw [mul_comm] at hF
    exact dvd_sub_reduce hF

/-- A layer of the inverse, read backwards, is a layer of the transform. -/
theorem MergeLayer.split (h : MergeLayer root level n a a') : SplitLayer root level n a' fun i ↦ 2 * a i := by
  intro b hb j hj
  obtain ⟨hlow, hhigh⟩ := h b hb j hj
  dsimp only
  rw [hlow, hhigh]
  constructor <;> ring

theorem SplitLayer.scale (h : SplitLayer root level n a a') (s : R) :
    SplitLayer root level n (fun i ↦ s * a i) fun i ↦ s * a' i := by
  intro b hb j hj
  obtain ⟨hlow, hhigh⟩ := h b hb j hj
  dsimp only
  rw [hlow, hhigh]
  constructor <;> ring

/-- A layer of the inverse keeps the polynomial up to the factor 2. -/
theorem Represents.merge {s : R} (h : Represents root F (fun i ↦ s * a' i) level (2 * n))
    (hroots : SplitRoots root depth) (hlevel : level < depth) (hlayer : MergeLayer root level n a a') :
    Represents root F (fun i ↦ s * 2 * a i) (level + 1) n := by
  have hsplit := h.split hroots hlevel (hlayer.split.scale s)
  exact hsplit.congr fun i _ ↦ (mul_assoc s 2 (a i)).symm

/-! ## Products, and the way back to the root -/

/-- The row of the products of two rows of linear residues. -/
def LeafProducts (root : ℕ → R) (depth : ℕ) (a b c : ℕ → R) : Prop :=
  ∀ i < 2 ^ depth,
    c (2 * i) = a (2 * i) * b (2 * i) + a (2 * i + 1) * (b (2 * i + 1) * node root (2 ^ depth + i)) ∧
      c (2 * i + 1) = a (2 * i) * b (2 * i + 1) + a (2 * i + 1) * b (2 * i)

theorem Represents.mul (hF : Represents root F a depth 2) (hG : Represents root G b depth 2)
    (hproducts : LeafProducts root depth a b c) : Represents root (F * G) c depth 2 := by
  intro i hi
  obtain ⟨hlow, hhigh⟩ := hproducts i hi
  have hpair : ∀ e : ℕ → R, slicePoly e (2 * i) 2 = C (e (2 * i)) + C (e (2 * i + 1)) * X := fun e ↦ by
    simp [slicePoly, sum_range_succ]
  have hF := hF i hi
  have hG := hG i hi
  rw [hpair] at hF hG ⊢
  generalize node root (2 ^ depth + i) = z at *
  have hsplit : F * G - (C (c (2 * i)) + C (c (2 * i + 1)) * X) =
      F * (G - (C (b (2 * i)) + C (b (2 * i + 1)) * X)) +
        (C (b (2 * i)) + C (b (2 * i + 1)) * X) * (F - (C (a (2 * i)) + C (a (2 * i + 1)) * X)) +
          (X ^ 2 - C z) * (C (a (2 * i + 1)) * C (b (2 * i + 1))) := by
    rw [hlow, hhigh]
    simp only [map_add, map_mul]
    ring
  rw [hsplit]
  exact dvd_add (dvd_add (Dvd.dvd.mul_left hG _) (Dvd.dvd.mul_left hF _)) (dvd_mul_right _ _)

/-- What every node of a level divides, the root divides. -/
theorem SplitRoots.dvd_root {D : R[X]} (hroots : SplitRoots root depth) (hlevel : level ≤ depth)
    (h : ∀ b < 2 ^ level, (X ^ n - C (node root (2 ^ level + b)) : R[X]) ∣ D) :
    (X ^ (n * 2 ^ level) + 1 : R[X]) ∣ D := by
  induction level generalizing n with
  | zero => simpa [node] using h 0 one_pos
  | succ level ih =>
    rw [pow_succ', show n * (2 * 2 ^ level) = 2 * n * 2 ^ level by ring]
    refine ih (by omega) fun b hb ↦ ?_
    have hpow : 2 ^ (level + 1) = 2 * 2 ^ level := pow_succ' 2 level
    have hpos : 0 < 2 ^ level + b := Nat.add_pos_left (Nat.two_pow_pos level) b
    have hlt : 2 ^ level + b < 2 ^ depth := by
      have := Nat.pow_le_pow_right two_pos hlevel
      omega
    rw [hroots.factor n hpos hlt]
    refine (hroots.coprime n hpos hlt).mul_dvd ?_ ?_
    · have hleft := h (2 * b) (by omega)
      rwa [show 2 ^ (level + 1) + 2 * b = 2 * (2 ^ level + b) by omega] at hleft
    · have hright := h (2 * b + 1) (by omega)
      rwa [show 2 ^ (level + 1) + (2 * b + 1) = 2 * (2 ^ level + b) + 1 by omega] at hright

/-- A row determines its polynomial modulo `X ^ N + 1`. -/
theorem Represents.modEq (hF : Represents root F a level n) (hG : Represents root G a level n)
    (hroots : SplitRoots root depth) (hlevel : level ≤ depth) : (X ^ (n * 2 ^ level) + 1 : R[X]) ∣ F - G := by
  refine hroots.dvd_root hlevel fun b hb ↦ ?_
  have hsplit : F - G = (F - slicePoly a (n * b) n) - (G - slicePoly a (n * b) n) := by ring
  rw [hsplit]
  exact dvd_sub (hF b hb) (hG b hb)

end Rows

end PqBleHandshake.Foundation
