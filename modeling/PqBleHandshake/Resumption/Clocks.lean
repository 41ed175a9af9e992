import PqBleHandshake.Resumption.Peripheral
import PqBleHandshake.Resumption.PeripheralModel

/-!
# The two clocks

The firmware counts milliseconds in integers, the Python Peripheral seconds in doubles.  A reading is the
double nearest to the firmware's, the age of a ticket is rounded again, and so is the deadline of an attempt.
What the Python side decides about a firmware ticket and a firmware session by this clock is stated here
beside what the firmware decides.  For uptimes below `2⁴⁰` milliseconds the two part at most at the very
millisecond in which a ticket expires or an attempt times out, and there they do part.
-/

namespace PqBleHandshake.Resumption

open Foundation

/-- Milliseconds as a Python clock reading. -/
def seconds (ms : ℤ) : ℚ := roundDouble (ms / 1000)

/-- The lifetime of a ticket contains a clock reading, as `Ticket.check` computes it. -/
def Ticket.UnexpiredInModel (ticket : Ticket) (now : ℤ) : Prop :=
  seconds ticket.createdMs ≤ seconds now ∧
    roundDouble (seconds now - seconds ticket.createdMs) < Python.ttl

instance (ticket : Ticket) (now : ℤ) : Decidable (ticket.UnexpiredInModel now) :=
  inferInstanceAs (Decidable (_ ∧ _))

/-- A ticket that `Ticket.check` lets through. -/
structure EligibleInModel (ticket : Ticket) (seen : Observation) : Prop where
  valid : ticket.valid = true
  unexpired : ticket.UnexpiredInModel seen.now
  unused : ticket.successes < pqResumeMaxUses
  profile_eq : ticket.profile = seen.profile
  peer_eq : ticket.peer = seen.peer

/-- What `Ticket.check` leaves of a ticket. -/
def Ticket.checkedInModel (ticket : Ticket) (now : ℤ) : Ticket :=
  if ticket.valid = true ∧ ¬(ticket.UnexpiredInModel now ∧ ticket.successes < pqResumeMaxUses) then
    Ticket.zero
  else ticket

/-- The deadline of a session on the Python side, which read the clock 30 s before. -/
def Session.modelDeadline (session : Session) : ℚ :=
  roundDouble (seconds (session.deadlineMs - 30000) + 30)

/-- The deadline of the firmware has not come. -/
def Session.InTime (session : Session) (now : ℤ) : Prop := now < session.deadlineMs

/-- The deadline of the Python side has not come. -/
def Session.InTimeInModel (session : Session) (now : ℤ) : Prop := seconds now < session.modelDeadline

instance (session : Session) (now : ℤ) : Decidable (session.InTime now) :=
  inferInstanceAs (Decidable (_ < _))

instance (session : Session) (now : ℤ) : Decidable (session.InTimeInModel now) :=
  inferInstanceAs (Decidable (_ < _))

section Checks

variable {ticket : Ticket} {seen : Observation} {now : ℤ}

/-- A ticket that passes the check is left alone. -/
theorem Eligible.checked_eq (h : Eligible ticket seen) : ticket.checked seen.now = ticket :=
  Ticket.checked_eq_self h.unexpired h.unused

theorem EligibleInModel.checked_eq (h : EligibleInModel ticket seen) :
    ticket.checkedInModel seen.now = ticket := by
  rw [Ticket.checkedInModel, if_neg (by simp [h.unexpired, h.unused])]

/-- What a check can leave of a ticket: itself, or the wiped one in place of a valid one. -/
def Ticket.Leaves (ticket left : Ticket) : Prop :=
  left = ticket ∨ ticket.valid = true ∧ left = Ticket.zero

theorem Ticket.leaves_self : ticket.Leaves ticket := .inl rfl

theorem Ticket.leaves_checked : ticket.Leaves (ticket.checked now) := by
  unfold Ticket.checked
  split_ifs with hwiped
  · exact .inr ⟨hwiped.1, rfl⟩
  · exact .inl rfl

theorem Ticket.leaves_checkedInModel : ticket.Leaves (ticket.checkedInModel now) := by
  unfold Ticket.checkedInModel
  split_ifs with hwiped
  · exact .inr ⟨hwiped.1, rfl⟩
  · exact .inl rfl

/-- Two checks leave the same ticket once what they leave is equally valid. -/
theorem Ticket.Leaves.eq_iff {left left' : Ticket} (h : ticket.Leaves left) (h' : ticket.Leaves left') :
    left = left' ↔ left.valid = left'.valid := by
  constructor
  · intro heq
    rw [heq]
  · intro hvalid
    rcases h with rfl | ⟨hlive, rfl⟩ <;> rcases h' with rfl | ⟨hlive', rfl⟩
    · rfl
    · rw [hlive'] at hvalid
      cases hvalid
    · rw [hlive] at hvalid
      cases hvalid
    · rfl

/-- Where the two checks leave the same ticket, they let the same tickets through. -/
theorem eligible_iff_inModel (h : ticket.checked seen.now = ticket.checkedInModel seen.now) :
    Eligible ticket seen ↔ EligibleInModel ticket seen := by
  constructor
  · intro helig
    have hself := h.symm.trans helig.checked_eq
    have hunexpired : ticket.UnexpiredInModel seen.now := by
      by_contra hexpired
      rw [Ticket.checkedInModel, if_pos ⟨helig.valid, fun hboth ↦ hexpired hboth.1⟩] at hself
      have hvalid := helig.valid
      rw [← hself] at hvalid
      cases hvalid
    exact ⟨helig.valid, hunexpired, helig.unused, helig.profile_eq, helig.peer_eq⟩
  · intro helig
    have hself := h.trans helig.checked_eq
    have hunexpired : ticket.Unexpired seen.now := by
      by_contra hexpired
      rw [Ticket.checked, if_pos ⟨helig.valid, fun hboth ↦ hexpired hboth.1⟩] at hself
      have hvalid := helig.valid
      rw [← hself] at hvalid
      cases hvalid
    exact ⟨helig.valid, hunexpired, helig.unused, helig.profile_eq, helig.peer_eq⟩

end Checks

/-! ## Where the clocks agree -/

section Range

/-- The uptimes considered: up to `2⁴⁰` milliseconds, about 34 years. -/
def InRange (ms : ℤ) : Prop := 0 ≤ ms ∧ ms ≤ 2 ^ 40

variable {created now : ℤ}

/-- A reading is off by less than a quarter of a microsecond. -/
theorem InRange.abs_seconds_sub_le (h : InRange now) : |seconds now - now / 1000| ≤ 1 / 2 ^ 22 := by
  have hnonneg : (0 : ℚ) ≤ now := by exact_mod_cast h.1
  have hle : (now : ℚ) ≤ 2 ^ 40 := by exact_mod_cast h.2
  have hsize : |(now : ℚ) / 1000| ≤ 2 ^ 31 := by
    rw [abs_of_nonneg (by positivity)]
    linarith
  calc
    |seconds now - now / 1000| ≤ 2 ^ 31 / 2 ^ 53 := abs_roundDouble_sub_le_of_abs_le hsize
    _ = 1 / 2 ^ 22 := by norm_num

/-- Readings keep the order of uptimes. -/
theorem InRange.seconds_lt_iff (hcreated : InRange created) (hnow : InRange now) :
    seconds now < seconds created ↔ now < created := by
  have herror := abs_le.mp hnow.abs_seconds_sub_le
  have herror' := abs_le.mp hcreated.abs_seconds_sub_le
  constructor
  · intro hlt
    by_contra hge
    have hcast : (created : ℚ) ≤ now := by exact_mod_cast not_lt.mp hge
    rcases (not_lt.mp hge).eq_or_lt with rfl | hafter
    · exact hlt.false
    · have hstep : (created : ℚ) + 1 ≤ now := by exact_mod_cast hafter
      linarith
  · intro hlt
    have hstep : (now : ℚ) + 1 ≤ created := by exact_mod_cast hlt
    linarith

/-- The rounded age of a ticket is off by less than a microsecond. -/
theorem InRange.abs_age_sub_le (hcreated : InRange created) (hnow : InRange now) :
    |roundDouble (seconds now - seconds created) - ((now : ℚ) - created) / 1000| ≤ 1 / 2 ^ 20 := by
  have herror := abs_le.mp hnow.abs_seconds_sub_le
  have herror' := abs_le.mp hcreated.abs_seconds_sub_le
  have hnonneg : (0 : ℚ) ≤ now := by exact_mod_cast hnow.1
  have hnonneg' : (0 : ℚ) ≤ created := by exact_mod_cast hcreated.1
  have hle : (now : ℚ) ≤ 2 ^ 40 := by exact_mod_cast hnow.2
  have hle' : (created : ℚ) ≤ 2 ^ 40 := by exact_mod_cast hcreated.2
  have hsize : |seconds now - seconds created| ≤ 2 ^ 31 := by
    rw [abs_le]
    constructor <;> linarith
  have hround := abs_le.mp (abs_roundDouble_sub_le_of_abs_le hsize)
  rw [abs_le]
  constructor <;> linarith

/-- **The lifetimes agree** except in the very millisecond in which the ticket expires. -/
theorem Ticket.unexpired_iff_inModel {ticket : Ticket} (hcreated : InRange ticket.createdMs)
    (hnow : InRange now) (hinstant : now ≠ ticket.createdMs + pqResumeTtlMs) :
    ticket.Unexpired now ↔ ticket.UnexpiredInModel now := by
  have hage := abs_le.mp (hcreated.abs_age_sub_le hnow)
  have horder := (hcreated.seconds_lt_iff hnow).not
  rw [not_lt, not_lt] at horder
  unfold Ticket.Unexpired Ticket.UnexpiredInModel Python.ttl
  rw [horder]
  apply and_congr_right
  intro _
  constructor
  · intro hlt
    have hstep : (now : ℚ) + 1 ≤ ticket.createdMs + (pqResumeTtlMs : ℤ) := by exact_mod_cast hlt
    simp only [pqResumeTtlMs, Int.cast_ofNat] at hstep
    linarith
  · intro hlt
    by_contra hge
    have hafter : ticket.createdMs + pqResumeTtlMs < now := lt_of_le_of_ne (not_lt.mp hge) hinstant.symm
    have hstep : (ticket.createdMs : ℚ) + (pqResumeTtlMs : ℤ) + 1 ≤ now := by exact_mod_cast hafter
    simp only [pqResumeTtlMs, Int.cast_ofNat] at hstep
    linarith

/-- **The deadlines agree** except in the very millisecond of the deadline. -/
theorem Session.inTime_iff_inModel {session : Session} (hstart : InRange (session.deadlineMs - 30000))
    (hnow : InRange now) (hinstant : now ≠ session.deadlineMs) :
    session.InTime now ↔ session.InTimeInModel now := by
  have herror := abs_le.mp hnow.abs_seconds_sub_le
  have herror' := abs_le.mp hstart.abs_seconds_sub_le
  have hnonneg : (0 : ℚ) ≤ (session.deadlineMs - 30000 : ℤ) := by exact_mod_cast hstart.1
  have hle : ((session.deadlineMs - 30000 : ℤ) : ℚ) ≤ 2 ^ 40 := by exact_mod_cast hstart.2
  have hsize : |seconds (session.deadlineMs - 30000) + 30| ≤ 2 ^ 31 := by
    rw [abs_le]
    constructor <;> linarith
  have hround := abs_le.mp (abs_roundDouble_sub_le_of_abs_le hsize)
  push_cast at herror' hround
  unfold Session.InTime Session.InTimeInModel Session.modelDeadline
  constructor
  · intro hlt
    have hstep : (now : ℚ) + 1 ≤ session.deadlineMs := by exact_mod_cast hlt
    linarith
  · intro hlt
    by_contra hge
    have hafter : session.deadlineMs < now := lt_of_le_of_ne (not_lt.mp hge) hinstant.symm
    have hstep : (session.deadlineMs : ℚ) + 1 ≤ now := by exact_mod_cast hafter
    linarith

/-- In the very millisecond of the expiry the Python side may still find the ticket alive. -/
example : let ticket := { Ticket.zero with createdMs := 67760436 }
    ¬ticket.Unexpired 154160436 ∧ ticket.UnexpiredInModel 154160436 := by
  decide +kernel

/-- In the very millisecond of the deadline it may still find the attempt in time. -/
example : let session := { Session.zero with deadlineMs := 30798 }
    ¬session.InTime 30798 ∧ session.InTimeInModel 30798 := by
  decide +kernel

end Range

end PqBleHandshake.Resumption
