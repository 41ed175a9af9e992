import PqBleHandshake.Foundation.Overflow
import PqBleHandshake.Foundation.Loops

/-!
# Arrays of coefficients

The loops of the vendored ML-KEM library over `int16_t` arrays.  Each pass computes one cell, or two cells at a fixed
distance, from what they hold.
-/

namespace PqBleHandshake.Mlkem

open Foundation

/-- An `int16_t` array. -/
abbrev Words (n : ℕ) := Vector Int16 n

/-- `mlk_poly`: 256 coefficients. -/
abbrev Poly := Words 256

variable {n : ℕ}

namespace Words

/-- `words[i]` -/
def coeff (words : Words n) (i : ℕ) : Int16 := words[i]?.getD 0

/-- `words[i] = value` -/
def store (words : Words n) (i : ℕ) (value : Int16) : Words n := words.setIfInBounds i value

theorem coeff_of_le {words : Words n} {i : ℕ} (h : n ≤ i) : words.coeff i = 0 := by
  rw [coeff, Vector.getElem?_eq_none h, Option.getD_none]

theorem coeff_of_lt (words : Words n) {i : ℕ} (h : i < n) : words.coeff i = words[i] := by
  rw [coeff, Vector.getElem?_eq_getElem h, Option.getD_some]

theorem coeff_store (words : Words n) (i j : ℕ) (value : Int16) :
    (words.store i value).coeff j = if i = j ∧ j < n then value else words.coeff j := by
  unfold coeff store
  rw [Vector.getElem?_setIfInBounds]
  split_ifs <;> simp_all

theorem coeff_ofFn {f : Fin n → Int16} {i : ℕ} (h : i < n) : coeff (Vector.ofFn f) i = f ⟨i, h⟩ := by
  simp [coeff, h]

/-- A loop over the coefficients. -/
theorem exists_mapM {f : Int16 → Option Int16} (words : Words n) {Q : ℕ → Int16 → Prop}
    (h : ∀ i < n, ∃ w, f (words.coeff i) = some w ∧ Q i w) :
    ∃ words', words.mapM f = some words' ∧ ∀ i < n, Q i (coeff words' i) := by
  obtain ⟨words', hwords', hQ⟩ := Foundation.exists_mapM (v := words) (Q := fun i w ↦ Q i w) fun i ↦ by
    obtain ⟨w, hw, hQ⟩ := h i i.isLt
    exact ⟨w, by rwa [coeff_of_lt words i.isLt] at hw, hQ⟩
  refine ⟨words', hwords', fun i hi ↦ ?_⟩
  rw [coeff_of_lt words' hi]
  exact hQ ⟨i, hi⟩

end Words

/-! ## Pairs of cells -/

/-- Two cells, `len` apart. -/
def pair (len j : ℕ) : Set ℕ := {j, j + len}

/-- A pass that makes the cells of a pair from what they hold. -/
def PairStep (values : Int16 → Int16 → Option (Int16 × Int16)) (len start : ℕ) (step : Words n → Option (Words n)) :
    Prop :=
  ∀ r, step r = (values (r.coeff start) (r.coeff (start + len))).map fun made ↦
    (r.store start made.1).store (start + len) made.2

namespace PairStep

variable {values : Int16 → Int16 → Option (Int16 × Int16)} {len start : ℕ} {step : Words n → Option (Words n)}

theorem localStep (h : PairStep values len start step) : LocalStep Words.coeff (pair len start) step where
  frame {r r' i} hr hi := by
    obtain ⟨made, -, rfl⟩ := Option.map_eq_some_iff.mp ((h r).symm.trans hr)
    have hne : i ≠ start ∧ i ≠ start + len := by simpa [pair] using hi
    simp only [Words.coeff_store, hne.1.symm, hne.2.symm, false_and, if_false]
  depends {r r' t} hcells ht := by
    obtain ⟨made, hmade, rfl⟩ := Option.map_eq_some_iff.mp ((h r).symm.trans ht)
    rw [hcells start (Or.inl rfl), hcells (start + len) (Or.inr rfl)] at hmade
    refine ⟨_, by rw [h r', hmade]; rfl, fun i hi ↦ ?_⟩
    simp only [Words.coeff_store, hcells i hi]

/-- A loop over pairs. -/
theorem exists_foldlM {ι : Type*} {is : List ι} {values : ι → Int16 → Int16 → Option (Int16 × Int16)} {start : ι → ℕ}
    {step : Words n → ι → Option (Words n)} {r : Words n} {Q : ι → Int16 → Int16 → Prop} (hlen : 0 < len)
    (hstep : ∀ i ∈ is, PairStep (values i) len (start i) (step · i)) (hsize : ∀ i ∈ is, start i + len < n)
    (hdisjoint : is.Pairwise fun i k ↦ Disjoint (pair len (start i)) (pair len (start k)))
    (hvalues : ∀ i ∈ is, ∃ low high, values i (r.coeff (start i)) (r.coeff (start i + len)) = some (low, high) ∧
      Q i low high) :
    ∃ r', is.foldlM step r = some r' ∧ ∀ i ∈ is, Q i (r'.coeff (start i)) (r'.coeff (start i + len)) := by
  have hmade : ∀ i ∈ is, ∃ low high,
      step r i = some ((r.store (start i) low).store (start i + len) high) ∧ Q i low high := fun i hi ↦ by
    obtain ⟨low, high, hmade, hQ⟩ := hvalues i hi
    exact ⟨low, high, (hstep i hi r).trans (by rw [hmade]; rfl), hQ⟩
  obtain ⟨r', hr', -, hown⟩ := LocalStep.exists_foldlM (fun i hi ↦ (hstep i hi).localStep) hdisjoint fun i hi ↦ by
    obtain ⟨low, high, hmade, -⟩ := hmade i hi
    exact ⟨_, hmade⟩
  refine ⟨r', hr', fun i hi ↦ ?_⟩
  obtain ⟨low, high, hmade, hQ⟩ := hmade i hi
  have hlow := hown i hi _ hmade (start i) (Or.inl rfl)
  have hhigh := hown i hi _ hmade (start i + len) (Or.inr rfl)
  have hlt := hsize i hi
  rw [Words.coeff_store, if_neg (by omega), Words.coeff_store, if_pos ⟨rfl, by omega⟩] at hlow
  rw [Words.coeff_store, if_pos ⟨rfl, hlt⟩] at hhigh
  rwa [hlow, hhigh]

end PairStep

section Neighbours

variable {values : ℕ → Int16 → Int16 → Option (Int16 × Int16)} {step : Words n → ℕ → Option (Words n)} {r : Words n}
  {Q : ℕ → Int16 → Int16 → Prop} {count : ℕ}

/-- A loop over pairs of neighbours. -/
theorem exists_neighbours (hsize : 2 * count ≤ n)
    (hstep : ∀ i < count, PairStep (values i) 1 (2 * i) (step · i))
    (hvalues : ∀ i < count, ∃ low high, values i (r.coeff (2 * i)) (r.coeff (2 * i + 1)) = some (low, high) ∧
      Q i low high) :
    ∃ r', (List.range count).foldlM step r = some r' ∧ ∀ i < count, Q i (r'.coeff (2 * i)) (r'.coeff (2 * i + 1)) := by
  have hdisjoint : (List.range count).Pairwise fun i k ↦ Disjoint (pair 1 (2 * i)) (pair 1 (2 * k)) := by
    refine List.nodup_range.imp fun hne ↦ Set.disjoint_left.mpr fun cell hcell hcell' ↦ hne ?_
    simp only [pair, Set.mem_insert_iff, Set.mem_singleton_iff] at hcell hcell'
    omega
  obtain ⟨r', hr', hmade⟩ := PairStep.exists_foldlM one_pos (fun i hi ↦ hstep i (List.mem_range.mp hi))
    (fun i hi ↦ by have := List.mem_range.mp hi; omega) hdisjoint fun i hi ↦ hvalues i (List.mem_range.mp hi)
  exact ⟨r', hr', fun i hi ↦ hmade i (List.mem_range.mpr hi)⟩

end Neighbours

/-! ## Blocks of pairs -/

/-- A cell tells its block and its pair. -/
theorem of_mem_pair {len block j i : ℕ} (hj : j < len) (hi : i ∈ pair len (2 * len * block + j)) :
    i / (2 * len) = block ∧ i % (2 * len) % len = j := by
  have hoffset : ∃ offset < 2 * len, i = 2 * len * block + offset ∧ offset % len = j := by
    rcases hi with rfl | hi
    · exact ⟨j, by omega, rfl, Nat.mod_eq_of_lt hj⟩
    · exact ⟨j + len, by omega, by rw [hi, add_assoc], by rw [Nat.add_mod_right, Nat.mod_eq_of_lt hj]⟩
  obtain ⟨offset, hlt, rfl, hmod⟩ := hoffset
  rw [Nat.mul_add_div (by omega), Nat.div_eq_of_lt hlt, Nat.mul_add_mod, Nat.mod_eq_of_lt hlt]
  exact ⟨rfl, hmod⟩

/-- Every cell belongs to a pair. -/
theorem exists_pair {len blocks i : ℕ} (hlen : 0 < len) (hi : i < 2 * len * blocks) :
    ∃ block < blocks, ∃ j < len, i ∈ pair len (2 * len * block + j) := by
  have hsplit := Nat.div_add_mod i (2 * len)
  have hmod := Nat.mod_lt i (show 0 < 2 * len by omega)
  refine ⟨i / (2 * len), Nat.div_lt_of_lt_mul hi, ?_⟩
  by_cases hlow : i % (2 * len) < len
  · exact ⟨_, hlow, Or.inl hsplit.symm⟩
  · refine ⟨i % (2 * len) - len, by omega, Or.inr ?_⟩
    change i = 2 * len * (i / (2 * len)) + (i % (2 * len) - len) + len
    omega

theorem pair_lt {len blocks block j : ℕ} (hsize : 2 * len * blocks = n) (hblock : block < blocks) (hj : j < len) :
    2 * len * block + j + len < n := by
  have hnext : 2 * len * (block + 1) ≤ 2 * len * blocks := Nat.mul_le_mul_left _ hblock
  rw [mul_add] at hnext
  omega

/-- A loop over blocks, with a loop over the pairs of a block inside. -/
theorem exists_blocks {len blocks : ℕ} {values : ℕ → Int16 → Int16 → Option (Int16 × Int16)}
    {step : ℕ → Words n → ℕ → Option (Words n)} {r : Words n} {Q : ℕ → ℕ → Int16 → Int16 → Prop} (hlen : 0 < len)
    (hsize : 2 * len * blocks = n)
    (hstep : ∀ block start, start + len < n → PairStep (values block) len start (step block · start))
    (hvalues : ∀ block < blocks, ∀ j < len, ∃ low high,
      values block (r.coeff (2 * len * block + j)) (r.coeff (2 * len * block + j + len)) = some (low, high) ∧
        Q block j low high) :
    ∃ r', (List.range blocks).foldlM (fun r block ↦ (List.range' (2 * len * block) len).foldlM (step block) r) r =
        some r' ∧
      ∀ block < blocks, ∀ j < len,
        Q block j (r'.coeff (2 * len * block + j)) (r'.coeff (2 * len * block + j + len)) := by
  have hloops : (List.range blocks).foldlM
      (fun r block ↦ (List.range' (2 * len * block) len).foldlM (step block) r) r =
        ((List.range blocks) ×ˢ (List.range len)).foldlM
          (fun r index ↦ step index.1 r (2 * len * index.1 + index.2)) r := by
    rw [← foldlM_nested]
    simp only [List.range'_eq_map_range, List.foldlM_map]
  have hmem : ∀ index ∈ (List.range blocks) ×ˢ (List.range len), index.1 < blocks ∧ index.2 < len := fun index h ↦ by
    rwa [List.mem_product, List.mem_range, List.mem_range] at h
  have hdisjoint : ((List.range blocks) ×ˢ (List.range len)).Pairwise fun index index' ↦
      Disjoint (pair len (2 * len * index.1 + index.2)) (pair len (2 * len * index'.1 + index'.2)) := by
    refine List.Pairwise.imp_of_mem ?_ (List.nodup_range.product List.nodup_range)
    intro index index' h h' hne
    refine Set.disjoint_left.mpr fun i hi hi' ↦ hne ?_
    obtain ⟨hblock, hj⟩ := of_mem_pair (hmem index h).2 hi
    obtain ⟨hblock', hj'⟩ := of_mem_pair (hmem index' h').2 hi'
    exact Prod.ext (hblock.symm.trans hblock') (hj.symm.trans hj')
  obtain ⟨r', hr', hmade⟩ := PairStep.exists_foldlM hlen
    (fun index h ↦ hstep index.1 _ (pair_lt hsize (hmem index h).1 (hmem index h).2))
    (fun index h ↦ pair_lt hsize (hmem index h).1 (hmem index h).2) hdisjoint
    (fun index h ↦ hvalues index.1 (hmem index h).1 index.2 (hmem index h).2)
  exact ⟨r', hloops.trans hr', fun block hblock j hj ↦
    hmade (block, j) (List.mem_product.mpr ⟨List.mem_range.mpr hblock, List.mem_range.mpr hj⟩)⟩

end PqBleHandshake.Mlkem
