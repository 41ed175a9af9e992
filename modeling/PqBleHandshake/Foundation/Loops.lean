import Mathlib

/-!
# Loops that update an array in place

A pass of a loop may fail.  A pass that reads and writes only its own cells has the same effect whenever it runs.  So
where the cells of different passes are disjoint and every pass succeeds on the array before the loop, the loop
succeeds, and a cell holds after it what its own pass makes of the array before it.
-/

namespace PqBleHandshake.Foundation

variable {σ ι α β : Type*}

/-- A pass that reads and writes its own cells only. -/
structure LocalStep (read : σ → α → β) (cells : Set α) (step : σ → Option σ) : Prop where
  frame {s s' : σ} {a : α} (h : step s = some s') (ha : a ∉ cells) : read s' a = read s a
  depends {s s' t : σ} (h : ∀ a ∈ cells, read s a = read s' a) (ht : step s = some t) :
    ∃ t', step s' = some t' ∧ ∀ a ∈ cells, read t' a = read t a

/-- A cell holds what its own pass makes of the array before the loop, and what no pass owns stays. -/
theorem LocalStep.exists_foldlM {read : σ → α → β} {cells : ι → Set α} {step : σ → ι → Option σ} {is : List ι} {s : σ}
    (h : ∀ i ∈ is, LocalStep read (cells i) (step · i))
    (hdisjoint : is.Pairwise fun i k ↦ Disjoint (cells i) (cells k)) (hstep : ∀ i ∈ is, ∃ t, step s i = some t) :
    ∃ s', is.foldlM step s = some s' ∧ (∀ a, (∀ i ∈ is, a ∉ cells i) → read s' a = read s a) ∧
      ∀ i ∈ is, ∀ t, step s i = some t → ∀ a ∈ cells i, read s' a = read t a := by
  induction is generalizing s with
  | nil => exact ⟨s, rfl, fun _ _ ↦ rfl, fun _ hi ↦ absurd hi List.not_mem_nil⟩
  | cons first rest ih =>
    obtain ⟨hfirst, hrest⟩ := List.pairwise_cons.mp hdisjoint
    have hlocal := h first List.mem_cons_self
    obtain ⟨t, ht⟩ := hstep first List.mem_cons_self
    -- the first pass leaves the cells of the others alone, so they still succeed and make the same of them
    have hsame : ∀ i ∈ rest, ∀ a ∈ cells i, read s a = read t a := fun i hi a ha ↦
      (hlocal.frame ht (Set.disjoint_right.mp (hfirst i hi) ha)).symm
    have hlater : ∀ i ∈ rest, ∀ u, step s i = some u → ∃ u', step t i = some u' ∧ ∀ a ∈ cells i, read u' a = read u a :=
      fun i hi u hu ↦ (h i (List.mem_cons_of_mem first hi)).depends (hsame i hi) hu
    obtain ⟨s', hs', hframe, hown⟩ := ih (fun i hi ↦ h i (List.mem_cons_of_mem first hi)) hrest fun i hi ↦ by
      obtain ⟨u, hu⟩ := hstep i (List.mem_cons_of_mem first hi)
      obtain ⟨u', hu', -⟩ := hlater i hi u hu
      exact ⟨u', hu'⟩
    refine ⟨s', by rw [List.foldlM_cons, ht]; exact hs', fun a ha ↦ ?_, fun i hi u hu a ha ↦ ?_⟩
    · rw [hframe a fun i hi ↦ ha i (List.mem_cons_of_mem first hi), hlocal.frame ht (ha first List.mem_cons_self)]
    · rcases List.mem_cons.mp hi with rfl | hmem
      · rw [hframe a fun k hk ↦ Set.disjoint_left.mp (hfirst k hk) ha, Option.some.inj (ht.symm.trans hu)]
      · obtain ⟨u', hu', hcells⟩ := hlater i hmem u hu
        rw [hown i hmem u' hu' a ha, hcells a ha]

/-- Two loops, one inside the other, are one loop over the pairs. -/
theorem foldlM_nested {κ : Type*} (step : σ → ι × κ → Option σ) (outer : List ι) (inner : List κ) (s : σ) :
    outer.foldlM (fun s i ↦ inner.foldlM (fun s j ↦ step s (i, j)) s) s = (outer ×ˢ inner).foldlM step s := by
  change _ = (outer.flatMap fun i ↦ inner.map (Prod.mk i)).foldlM step s
  induction outer generalizing s with
  | nil => rfl
  | cons i outer ih =>
    rw [List.foldlM_cons, List.flatMap_cons, List.foldlM_append, List.foldlM_map]
    exact bind_congr fun s ↦ ih s

/-- A function that succeeds on every entry of an array maps the array. -/
theorem exists_mapM {n : ℕ} {f : α → Option β} {v : Vector α n} {Q : Fin n → β → Prop}
    (h : ∀ i : Fin n, ∃ b, f v[i] = some b ∧ Q i b) : ∃ w, v.mapM f = some w ∧ ∀ i : Fin n, Q i w[i] := by
  have hlist : ∀ {as : List α} {bs : List β}, List.Forall₂ (fun a b ↦ f a = some b) as bs → as.mapM f = some bs := by
    intro as bs hall
    induction hall with
    | nil => rfl
    | cons hab _ ih => rw [List.mapM_cons, hab, ih]; rfl
  choose g hg hQ using h
  have hentries : v.toArray.mapM f = some (Vector.ofFn g).toArray := by
    rw [Array.mapM_eq_mapM_toList, @hlist _ (Vector.ofFn g).toList ?_]
    · rfl
    · exact List.forall₂_iff_get.mpr ⟨by simp, fun i hi _ ↦ by simpa using hg ⟨i, by simpa using hi⟩⟩
  rw [← Vector.toArray_mapM] at hentries
  obtain ⟨w, hw, harray⟩ := Option.map_eq_some_iff.mp hentries
  refine ⟨w, hw, fun i ↦ ?_⟩
  rw [Vector.toArray_inj.mp harray]
  simpa using hQ i

end PqBleHandshake.Foundation
