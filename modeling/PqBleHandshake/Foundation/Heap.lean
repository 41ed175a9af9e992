import PqBleHandshake.Foundation.Bytes

/-!
# Mutable buffers and their owners

A heap of byte buffers that are made and wiped, and never freed.  `Custody` says that every buffer
made since some point either has an owner or holds zeros only, whoever could still reach it.
-/

namespace PqBleHandshake.Foundation

/-- The contents of every buffer that was ever made, by address. -/
structure Heap where
  size : ℕ := 0
  read : ℕ → Bytes := fun _ ↦ []

namespace Heap

/-- Make a buffer; its address is the old size. -/
def make (heap : Heap) (content : Bytes) : Heap where
  size := heap.size + 1
  read a := if a = heap.size then content else heap.read a

/-- Overwrite a buffer with zeros. -/
def wipe (heap : Heap) (address : ℕ) : Heap :=
  { heap with read := fun a ↦
      if a = address then List.replicate (heap.read address).length 0 else heap.read a }

/-- Wipe several buffers. -/
def wipeAll (heap : Heap) (addresses : List ℕ) : Heap := addresses.foldl wipe heap

/-- A buffer as a block of a fixed size. -/
def block (heap : Heap) (n address : ℕ) : Block n := .ofBytes n (heap.read address)

/-- A buffer of zeros. -/
def Wiped (heap : Heap) (address : ℕ) : Prop := ∀ byte ∈ heap.read address, byte = 0

variable {heap : Heap} {address other : ℕ} {addresses : List ℕ} {content : Bytes}

@[simp]
theorem size_make : (heap.make content).size = heap.size + 1 := rfl

@[simp]
theorem size_wipe : (heap.wipe address).size = heap.size := rfl

@[simp]
theorem size_wipeAll : (heap.wipeAll addresses).size = heap.size := by
  induction addresses generalizing heap with
  | nil => rfl
  | cons address addresses ih => exact ih

theorem read_make : (heap.make content).read heap.size = content := if_pos rfl

theorem read_make_of_ne (h : address ≠ heap.size) : (heap.make content).read address = heap.read address :=
  if_neg h

theorem read_wipe_of_ne (h : other ≠ address) : (heap.wipe address).read other = heap.read other :=
  if_neg h

theorem read_wipeAll_of_notMem (h : other ∉ addresses) :
    (heap.wipeAll addresses).read other = heap.read other := by
  induction addresses generalizing heap with
  | nil => rfl
  | cons address addresses ih =>
    rw [List.mem_cons, not_or] at h
    exact (ih h.2).trans (read_wipe_of_ne h.1)

theorem wiped_wipe (heap : Heap) (address : ℕ) : (heap.wipe address).Wiped address := by
  intro byte hbyte
  have hread : (heap.wipe address).read address = List.replicate (heap.read address).length 0 := if_pos rfl
  rw [hread] at hbyte
  exact List.eq_of_mem_replicate hbyte

/-- A wiped buffer stays wiped. -/
theorem Wiped.wipe (h : heap.Wiped other) (address : ℕ) : (heap.wipe address).Wiped other := by
  by_cases hsame : other = address
  · exact hsame ▸ wiped_wipe heap address
  · intro byte hbyte
    rw [read_wipe_of_ne hsame] at hbyte
    exact h byte hbyte

/-- Every buffer made since an address has an owner or is wiped. -/
structure Custody (origin : ℕ) (owned : List ℕ) (heap : Heap) : Prop where
  bounded : ∀ a ∈ owned, a < heap.size
  wiped : ∀ a, origin ≤ a → a < heap.size → a ∉ owned → heap.Wiped a

namespace Custody

variable {origin : ℕ} {owned L : List ℕ}

/-- Before anything is made. -/
theorem start (heap : Heap) : Custody heap.size [] heap :=
  ⟨nofun, fun _ hmade hbound ↦ absurd hbound (Nat.not_lt.mpr hmade)⟩

theorem congr (h : Custody origin owned heap) (hsame : ∀ a, a ∈ L ↔ a ∈ owned) :
    Custody origin L heap :=
  ⟨fun a ha ↦ h.bounded a ((hsame a).mp ha),
    fun a hmade hbound ha ↦ h.wiped a hmade hbound fun howned ↦ ha ((hsame a).mpr howned)⟩

/-- A buffer that is wiped already may lose its owner. -/
theorem drop (h : Custody origin owned heap) (hsub : ∀ a ∈ L, a ∈ owned)
    (hrest : ∀ a ∈ owned, a ∈ L ∨ heap.Wiped a) : Custody origin L heap where
  bounded a ha := h.bounded a (hsub a ha)
  wiped a hmade hbound ha := by
    by_cases howned : a ∈ owned
    · exact (hrest a howned).resolve_left ha
    · exact h.wiped a hmade hbound howned

/-- A new buffer is owned by who made it. -/
theorem make (h : Custody origin owned heap) (content : Bytes) :
    Custody origin (heap.size :: owned) (heap.make content) where
  bounded := by
    rintro a (_ | ⟨_, ha⟩)
    · exact Nat.lt_succ_self _
    · exact Nat.lt_succ_of_lt (h.bounded a ha)
  wiped a hmade hbound ha := by
    rw [List.mem_cons, not_or] at ha
    intro byte hbyte
    rw [read_make_of_ne ha.1] at hbyte
    exact h.wiped a hmade (lt_of_le_of_ne (Nat.le_of_lt_succ hbound) ha.1) ha.2 byte hbyte

/-- A wiped buffer needs no owner. -/
theorem wipe (h : Custody origin owned heap) (hsub : ∀ a ∈ L, a ∈ owned)
    (hrest : ∀ a ∈ owned, a ∈ L ∨ a = address) : Custody origin L (heap.wipe address) where
  bounded a ha := h.bounded a (hsub a ha)
  wiped a hmade hbound ha := by
    by_cases howned : a ∈ owned
    · obtain hkept | rfl := hrest a howned
      · exact absurd hkept ha
      · exact wiped_wipe heap a
    · exact (h.wiped a hmade hbound howned).wipe address

theorem wipeAll {A : List ℕ} (h : Custody origin owned heap) (hsub : ∀ a ∈ L, a ∈ owned)
    (hrest : ∀ a ∈ owned, a ∈ L ∨ a ∈ A) : Custody origin L (heap.wipeAll A) := by
  induction A generalizing heap owned with
  | nil =>
    refine h.congr fun a ↦ ⟨hsub a, fun ha ↦ ?_⟩
    exact (hrest a ha).resolve_right List.not_mem_nil
  | cons address A ih =>
    refine ih (h.wipe (L := owned.filter fun a ↦ a ≠ address ∨ a ∈ L) ?_ ?_) ?_ ?_
    · exact fun a ha ↦ (List.mem_filter.mp ha).1
    · intro a ha
      by_cases hsame : a = address
      · exact .inr hsame
      · exact .inl (List.mem_filter.mpr ⟨ha, decide_eq_true (.inl hsame)⟩)
    · exact fun a ha ↦ List.mem_filter.mpr ⟨hsub a ha, decide_eq_true (.inr ha)⟩
    · intro a ha
      obtain ⟨howned, hkept⟩ := List.mem_filter.mp ha
      obtain hne | hkept := of_decide_eq_true hkept
      · refine (hrest a howned).imp id fun hmem ↦ ?_
        exact (List.mem_cons.mp hmem).resolve_left hne
      · exact .inl hkept

end Custody

end Heap

end PqBleHandshake.Foundation
