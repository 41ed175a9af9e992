import Mathlib.Algebra.BigOperators.Pi
import Mathlib.Algebra.BigOperators.Group.Multiset.Basic
import Mathlib.Data.Fintype.Basic
import Mathlib.Tactic

/-!
# Counted references

Objects are kept alive by references.  A program holds some of them in named slots and the others in local variables;
it is balanced when the references it has taken and not yet given back are exactly those.  Every law says what an
operation moves between the slots, the local references and the outstanding ones.
-/

namespace PqBleHandshake.Foundation

variable {κ α : Type*}

/-- An optional reference as a collection. -/
def optionRefs (reference : Option α) : Multiset α := ↑reference.toList

@[simp]
theorem optionRefs_none : optionRefs (none : Option α) = 0 := rfl

@[simp]
theorem optionRefs_some (a : α) : optionRefs (some a) = {a} := rfl

/-- The slots of a program, the references it has taken and not given back, and whether it ever used or gave back a
reference that it did not have. -/
structure Counted (κ α : Type*) where
  stored : κ → Option α
  outstanding : Multiset α
  faulty : Bool

namespace Counted

/-- No reference yet. -/
def init : Counted κ α where
  stored _ := none
  outstanding := 0
  faulty := false

/-- Take a reference. -/
def acquire (r : Counted κ α) (a : α) : Counted κ α := { r with outstanding := a ::ₘ r.outstanding }

/-- Give a reference back. -/
def release [DecidableEq α] (r : Counted κ α) (a : α) : Counted κ α :=
  { r with
    outstanding := r.outstanding.erase a
    faulty := r.faulty || a ∉ r.outstanding }

/-- Use an object that a reference keeps alive. -/
def touch [DecidableEq α] (r : Counted κ α) (a : α) : Counted κ α :=
  { r with faulty := r.faulty || a ∉ r.outstanding }

section Slots

variable [DecidableEq κ]

/-- Write a slot. -/
def put (r : Counted κ α) (slot : κ) (reference : Option α) : Counted κ α :=
  { r with stored := Function.update r.stored slot reference }

@[simp]
theorem put_stored_self (r : Counted κ α) (slot : κ) (reference : Option α) :
    (r.put slot reference).stored slot = reference := Function.update_self _ _ _

theorem put_stored_of_ne (r : Counted κ α) {slot other : κ} (reference : Option α) (h : other ≠ slot) :
    (r.put slot reference).stored other = r.stored other := Function.update_of_ne h _ _

@[simp]
theorem put_put (r : Counted κ α) (slot : κ) (first second : Option α) :
    (r.put slot first).put slot second = r.put slot second := by
  simp only [put, Function.update_idem]

end Slots

variable [Fintype κ]

/-- The references in the slots. -/
def inSlots (r : Counted κ α) : Multiset α := ∑ slot, optionRefs (r.stored slot)

theorem card_inSlots (r : Counted κ α) :
    r.inSlots.card = (Finset.univ.filter fun slot ↦ (r.stored slot).isSome).card := by
  rw [inSlots, Multiset.card_sum, Finset.card_filter]
  exact Finset.sum_congr rfl fun slot _ ↦ by cases r.stored slot <;> rfl

theorem count_inSlots [DecidableEq α] (r : Counted κ α) (a : α) :
    r.inSlots.count a = (Finset.univ.filter fun slot ↦ r.stored slot = some a).card := by
  rw [inSlots, Multiset.count_sum', Finset.card_filter]
  refine Finset.sum_congr rfl fun slot _ ↦ ?_
  cases r.stored slot with
  | none => rfl
  | some b => simp [Multiset.count_singleton, eq_comm]

/-- Nothing went wrong, and the outstanding references are those in the slots and the local ones. -/
structure Balanced (r : Counted κ α) (held : Multiset α) : Prop where
  sound : r.faulty = false
  outstanding : r.outstanding = r.inSlots + held

theorem balanced_init : (init : Counted κ α).Balanced 0 where
  sound := rfl
  outstanding := by simp [init, inSlots]

/-- What a write takes from the local references it puts into the slot, and what was there becomes local. -/
theorem inSlots_put [DecidableEq κ] (r : Counted κ α) (slot : κ) (reference : Option α) :
    (r.put slot reference).inSlots + optionRefs (r.stored slot) = r.inSlots + optionRefs reference := by
  have hrest : ∑ other ∈ Finset.univ.erase slot, optionRefs ((r.put slot reference).stored other) =
      ∑ other ∈ Finset.univ.erase slot, optionRefs (r.stored other) :=
    Finset.sum_congr rfl fun other hmem ↦ by rw [put_stored_of_ne _ _ (Finset.ne_of_mem_erase hmem)]
  unfold inSlots
  rw [← Finset.add_sum_erase _ _ (Finset.mem_univ slot), ← Finset.add_sum_erase _ _ (Finset.mem_univ slot), hrest,
    put_stored_self]
  abel

namespace Balanced

variable {r : Counted κ α} {held : Multiset α} {a : α} {slot : κ}

/-- A local reference is outstanding. -/
theorem mem_outstanding (h : r.Balanced held) (hmem : a ∈ held) : a ∈ r.outstanding := by
  rw [h.outstanding]
  exact Multiset.mem_add.mpr (.inr hmem)

/-- A stored reference is outstanding. -/
theorem mem_outstanding_of_stored (h : r.Balanced held) (hstored : r.stored slot = some a) : a ∈ r.outstanding := by
  rw [h.outstanding, Multiset.mem_add]
  refine .inl (Multiset.mem_of_le (Finset.single_le_sum (f := fun slot ↦ optionRefs (r.stored slot))
    (fun _ _ ↦ Multiset.zero_le _) (Finset.mem_univ slot)) ?_)
  simp [hstored]

theorem acquire (h : r.Balanced held) (a : α) : (r.acquire a).Balanced (a ::ₘ held) where
  sound := h.sound
  outstanding := by
    change a ::ₘ r.outstanding = r.inSlots + a ::ₘ held
    rw [h.outstanding, Multiset.add_cons]

theorem release [DecidableEq α] (h : r.Balanced (a ::ₘ held)) : (r.release a).Balanced held where
  sound := by simp [Counted.release, h.sound, h.mem_outstanding (Multiset.mem_cons_self a held)]
  outstanding := by
    change r.outstanding.erase a = r.inSlots + held
    rw [h.outstanding, Multiset.add_cons, Multiset.erase_cons_head]

theorem touch [DecidableEq α] (h : r.Balanced held) (hmem : a ∈ r.outstanding) : (r.touch a).Balanced held where
  sound := by simp [Counted.touch, h.sound, hmem]
  outstanding := h.outstanding

/-- **Exchange rule.** A write hands a local reference over to the slot and the old one back. -/
theorem put [DecidableEq κ] {reference : Option α} (h : r.Balanced (optionRefs reference + held)) (slot : κ) :
    (r.put slot reference).Balanced (optionRefs (r.stored slot) + held) where
  sound := h.sound
  outstanding := by
    change r.outstanding = (r.put slot reference).inSlots + (optionRefs (r.stored slot) + held)
    rw [h.outstanding, ← add_assoc, ← add_assoc, inSlots_put]

/-- A slot whose reference is given back is emptied. -/
theorem drop [DecidableEq κ] [DecidableEq α] (h : r.Balanced held) (hstored : r.stored slot = some a) :
    ((r.release a).put slot none).Balanced held := by
  have hput : (r.put slot none).Balanced (optionRefs (r.stored slot) + held) := put (by simpa using h) slot
  rw [hstored, optionRefs_some, Multiset.singleton_add] at hput
  exact hput.release

end Balanced

end Counted

/-! ## Callbacks in progress -/

/-- The local references of all callbacks are those of one and of the others. -/
theorem sum_locals_eraseIdx {φ : Type*} (locals : φ → Multiset α) {frames : List φ} {i : ℕ} {frame : φ}
    (h : frames[i]? = some frame) :
    (frames.map locals).sum = locals frame + ((frames.eraseIdx i).map locals).sum := by
  obtain ⟨hlt, rfl⟩ := List.getElem?_eq_some_iff.mp h
  have hperm := (List.getElem_cons_eraseIdx_perm hlt).map locals
  rw [← hperm.sum_eq, List.map_cons, List.sum_cons]

end PqBleHandshake.Foundation
