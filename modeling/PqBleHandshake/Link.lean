import Mathlib.Tactic

/-!
# Connections and link queries

The Bluetooth stack is outside the model.  A connection object is an identifier, and every query of
the link or the clock is an input of the step that makes it: two queries in one function are two
inputs, so the link may change between any two of them.
-/

namespace PqBleHandshake

/-- `struct bt_conn *`; `none` stands for the null pointer. -/
abbrev Conn := ℕ

/-- What the queries of one place return: `pq_v1_security_conn_is_l4`, `bt_gatt_is_subscribed`,
`bt_gatt_get_mtu` and `k_uptime_get`. -/
structure LinkView where
  l4 : Bool
  subscribed : Bool
  mtu : ℕ
  uptime : ℤ
deriving DecidableEq

/-- The queries of a place that sends, with the result of `bt_gatt_notify`. -/
structure SendView extends LinkView where
  sent : Bool
deriving DecidableEq

/-- Two counters are equal as `uint32_t`. -/
def SameU32 (a b : ℕ) : Prop := a % 2 ^ 32 = b % 2 ^ 32

instance (a b : ℕ) : Decidable (SameU32 a b) := inferInstanceAs (Decidable (_ = _))

theorem SameU32.refl (a : ℕ) : SameU32 a a := rfl

/-- Counters less than a wrap apart are the same only if they are equal. -/
theorem SameU32.eq_of_lt {a b : ℕ} (h : SameU32 a b) (hle : a ≤ b) (hlt : b < a + 2 ^ 32) :
    a = b := by
  unfold SameU32 at h
  omega

/-! ## Epochs

A reset moves an epoch counter, and a job commits under the epoch it was submitted in. -/

/-- The epoch has moved on, by less than a wrap. -/
def Outdated (epoch current : ℕ) : Prop := epoch < current ∧ current < epoch + 2 ^ 32

theorem Outdated.not_sameU32 {epoch current : ℕ} (h : Outdated epoch current) :
    ¬SameU32 epoch current := by
  intro hsame
  exact absurd (hsame.eq_of_lt h.1.le h.2) h.1.ne

/-- A reset leaves a property behind that an outdated job does not break. -/
def Fenced (epoch current : ℕ) (property : Prop) : Prop :=
  epoch ≤ current ∧ (Outdated epoch current → property)

namespace Fenced

variable {epoch current next : ℕ} {before after : Prop}

/-- A job that is submitted is not outdated. -/
theorem submitted : Fenced current current before := ⟨le_rfl, fun hold ↦ absurd hold.1 (lt_irrefl _)⟩

/-- A job that may commit is not outdated. -/
theorem committed (h : Fenced epoch current before) (hsame : SameU32 epoch current) :
    Fenced epoch current after :=
  ⟨h.1, fun hold ↦ absurd hsame hold.not_sameU32⟩

/-- The property survives what keeps it, and every move of the epoch sets it up again. -/
theorem later (h : Fenced epoch current before) (hle : current ≤ next)
    (hkeep : before ∨ current < next → after) : Fenced epoch next after := by
  refine ⟨h.1.trans hle, fun hold ↦ ?_⟩
  by_cases hmoved : current < next
  · exact hkeep (.inr hmoved)
  · obtain rfl : current = next := le_antisymm hle (not_lt.mp hmoved)
    exact hkeep (.inl (h.2 hold))

end Fenced

end PqBleHandshake
