import PqBleHandshake.Resumption.Channel

/-!
# Expiry scheduling

One delayable work watches two deadlines, the end of the ticket's lifetime and the end of a pending handshake.
Every call that can change either ends in `schedule_expiry`, and the work wipes what is due.  `Watched` adds the
work queue to the service: the timer hands the work over, and the work then waits for `resume_lock`.
-/

namespace PqBleHandshake.Resumption

open Foundation

/-- The end of the lifetime of a ticket. -/
def Ticket.expiresAt (ticket : Ticket) : ℤ := ticket.createdMs + pqResumeTtlMs

namespace Service

/-- The earlier of the expiry of a valid ticket and the deadline of a pending handshake. -/
def deadline (service : Service) : Option ℤ :=
  if service.core.ticket.valid then
    if service.pending then some (min service.core.ticket.expiresAt service.core.session.deadlineMs)
    else some service.core.ticket.expiresAt
  else if service.pending then some service.core.session.deadlineMs
  else none

/-- The work is scheduled for no later than a deadline, and at least a millisecond ahead; without a deadline it
is cancelled. -/
def Armed (service : Service) (now : ℤ) : Prop :=
  match service.deadline with
  | some deadline => ∃ due, service.expiry = some due ∧ now + 1 ≤ due ∧ due ≤ max deadline (now + 1)
  | none => service.expiry = none

@[simp]
theorem deadline_scheduleExpiry (service : Service) (now : ℤ) :
    (service.scheduleExpiry now).deadline = service.deadline := rfl

/-- A delay up to the deadline, rounded up to a millisecond. -/
theorem due_bounds {delay deadline now : ℤ} (h : now + delay ≤ deadline) :
    now + 1 ≤ now + (if 0 < delay then delay else 1) ∧
      now + (if 0 < delay then delay else 1) ≤ max deadline (now + 1) := by
  split_ifs with hpositive
  · exact ⟨by omega, h.trans (le_max_left _ _)⟩
  · exact ⟨le_rfl, le_max_right _ _⟩

/-- What `schedule_expiry` leaves, from any state and at any time. -/
theorem armed_scheduleExpiry (service : Service) (now : ℤ) : (service.scheduleExpiry now).Armed now := by
  unfold Armed
  rw [deadline_scheduleExpiry]
  unfold deadline scheduleExpiry Ticket.expiresAt
  by_cases hvalid : service.core.ticket.valid = true <;> by_cases hpending : service.pending = true
  · simp only [hvalid, hpending, if_true, true_or, true_and]
    refine ⟨_, rfl, due_bounds ?_⟩
    split_ifs <;> omega
  · simp only [hvalid, hpending, Bool.false_eq_true, if_true, true_or, false_and, if_false]
    exact ⟨_, rfl, due_bounds (by omega)⟩
  · simp only [hvalid, hpending, Bool.false_eq_true, if_true, if_false, or_true, true_and]
    refine ⟨_, rfl, due_bounds ?_⟩
    split_ifs <;> omega
  · simp only [hvalid, hpending, Bool.false_eq_true, if_false, or_self]

end Service

/-- The clock reading of `schedule_expiry`; `pq_resume_service_take_hybrid` does not call it. -/
def ServiceCall.scheduledAt : ServiceCall → Option ℤ
  | .connected _ _ _ now | .disconnected _ now | .abort _ now | .bondChanged now => some now
  | .expire _ _ clock₃ => some clock₃
  | .full _ _ _ now => some now
  | .takeHybrid _ => none
  | .control _ _ input => some input.now

section Steps

variable {profile : UInt8} {crypto : Crypto} {aead : Aead} {service : Service}

/-- **Step lemma.**  Every call that reads the time for it leaves the work scheduled or cancelled as the
deadlines want it. -/
theorem armed_step (service : Service) {call : ServiceCall} {now : ℤ} (hnow : call.scheduledAt = some now) :
    ((serviceMachine profile crypto aead).step service call).2.Armed now := by
  cases call with
  | takeHybrid view => cases hnow
  | full faults keys view now' =>
    cases hnow
    simp only [serviceMachine, pqResumeServiceFull]
    split <;> exact Service.armed_scheduleExpiry _ _
  | _ =>
    cases hnow
    exact Service.armed_scheduleExpiry _ _

/-- Taking the keys of a resumed session changes neither a deadline nor the work. -/
theorem step_takeHybrid (service : Service) (view : LinkView) :
    ((serviceMachine profile crypto aead).step service (.takeHybrid view)).2.deadline = service.deadline ∧
      ((serviceMachine profile crypto aead).step service (.takeHybrid view)).2.expiry = service.expiry := by
  simp only [serviceMachine, pqResumeServiceTakeHybrid]
  split_ifs <;> exact ⟨rfl, rfl⟩

/-- What a run of the work does to the ticket and the session, by its first two clock readings. -/
structure Expires (service : Service) (clock₁ clock₂ : ℤ) (after : Service) : Prop where
  ticket_wiped : service.core.ticket.valid = true → service.core.ticket.expiresAt ≤ clock₁ →
    after.core.ticket = Ticket.zero
  session_wiped : service.pending = true → service.core.session.deadlineMs ≤ clock₂ →
    after.core.session = Session.zero
  ticket_kept : service.core.ticket.Unexpired clock₁ → service.core.ticket.successes < pqResumeMaxUses →
    after.core.ticket = service.core.ticket
  session_kept : clock₂ < service.core.session.deadlineMs → after.core.ticket.valid = true →
    after.core.session = service.core.session

theorem expires_expire (service : Service) (clock₁ clock₂ clock₃ : ℤ) :
    Expires service clock₁ clock₂ (service.expire profile clock₁ clock₂ clock₃) := by
  have hticket : (service.expire profile clock₁ clock₂ clock₃).core.ticket =
      service.core.ticket.checked clock₁ := by
    rw [← pqResumeEligible_snd service.core.ticket profile service.core.ticket.peer]
    unfold Service.expire
    dsimp only
    split_ifs <;> rfl
  have hsession : (service.expire profile clock₁ clock₂ clock₃).core.session =
      if service.pending ∧ (service.core.session.deadlineMs ≤ clock₂ ∨
        ¬(service.core.ticket.checked clock₁).valid) then Session.zero else service.core.session := by
    rw [← pqResumeEligible_snd service.core.ticket profile service.core.ticket.peer]
    unfold Service.expire
    dsimp only
    split_ifs with hdue hdue' hdue'
    · rfl
    · exact absurd hdue hdue'
    · exact absurd hdue' hdue
    · rfl
  constructor
  · intro hvalid hexpired
    rw [hticket, Ticket.checked, if_pos]
    exact ⟨hvalid, fun h ↦ absurd h.1.2 (not_lt.mpr hexpired)⟩
  · intro hpending hoverdue
    rw [hsession, if_pos ⟨hpending, .inl hoverdue⟩]
  · intro hunexpired hunused
    rw [hticket, Ticket.checked, if_neg]
    exact fun h ↦ h.2 ⟨hunexpired, hunused⟩
  · intro hintime hvalid
    rw [hticket] at hvalid
    rw [hsession, if_neg]
    rintro ⟨-, hoverdue | hinvalid⟩
    · omega
    · exact hinvalid hvalid

end Steps

/-! ## The work queue -/

/-- The service with its work: `queued` says that the timer has handed the work over and its run has not begun
its call. -/
structure Watched where
  service : Service
  queued : Bool
  now : ℤ

/-- What can happen: a call of the service, which the work makes only when it is queued and whose cancellation
may still find it in the queue; the timer; the passing of time. -/
inductive WatchedAction
  | call (call : ServiceCall) (dequeued : Bool)
  | due
  | wait (now : ℤ)

/-- A call of the work itself. -/
def ServiceCall.isExpire : ServiceCall → Bool
  | .expire .. => true
  | _ => false

namespace Watched

/-- Boot. -/
def start (now : ℤ) : Watched := ⟨Service.zero, false, now⟩

/-- One action; the clock never goes back. -/
def step (profile : UInt8) (crypto : Crypto) (aead : Aead) (watched : Watched) :
    WatchedAction → Option Watched
  | .call call dequeued => do
    guard (watched.now ≤ call.scheduledAt.getD watched.now)
    guard (call.isExpire → watched.queued)
    let service := ((serviceMachine profile crypto aead).step watched.service call).2
    let cancelled := call.scheduledAt.isSome && service.expiry.isNone
    return { service
             queued := watched.queued && !call.isExpire && !(cancelled && dequeued)
             now := call.scheduledAt.getD watched.now }
  | .due => do
    let due ← watched.service.expiry
    guard (due ≤ watched.now)
    return { watched with service := { watched.service with expiry := none }, queued := true }
  | .wait now => do
    guard (watched.now ≤ now)
    return { watched with now }

/-- Whatever has a deadline has a wakeup: the work is queued, or it is scheduled for no later than the deadline or
the next millisecond. -/
def Awake (watched : Watched) : Prop :=
  ∀ deadline ∈ watched.service.deadline, watched.queued = true ∨
    ∃ due ∈ watched.service.expiry, due ≤ max deadline (watched.now + 1)

variable {profile : UInt8} {crypto : Crypto} {aead : Aead} {watched watched' : Watched}

theorem awake_of_armed (h : watched.service.Armed watched.now) : watched.Awake := by
  intro deadline hdeadline
  rw [Service.Armed, Option.mem_def.mp hdeadline] at h
  obtain ⟨due, hdue, -, hle⟩ := h
  exact .inr ⟨due, hdue, hle⟩

/-- **Step lemma.** -/
theorem Awake.step (h : watched.Awake) {action : WatchedAction}
    (hstep : watched.step profile crypto aead action = some watched') : watched'.Awake := by
  cases action with
  | call call dequeued =>
    simp only [Watched.step, Option.bind_eq_bind, Option.bind_eq_some_iff, Option.guard_eq_some',
      Option.pure_def, Option.some.injEq, exists_const] at hstep
    obtain ⟨-, -, rfl⟩ := hstep
    cases hscheduled : call.scheduledAt with
    | some now =>
      refine awake_of_armed ?_
      exact armed_step watched.service hscheduled
    | none =>
      obtain ⟨view, rfl⟩ : ∃ view, call = .takeHybrid view := by
        cases call with
        | takeHybrid view => exact ⟨view, rfl⟩
        | _ => cases hscheduled
      obtain ⟨hdeadline, hexpiry⟩ :=
        @step_takeHybrid profile crypto aead watched.service view
      intro deadline hmem
      dsimp only at hmem ⊢
      rw [hdeadline] at hmem
      rw [hexpiry]
      simpa [ServiceCall.isExpire, ServiceCall.scheduledAt] using h deadline hmem
  | due =>
    simp only [Watched.step, Option.bind_eq_bind, Option.bind_eq_some_iff, Option.guard_eq_some',
      Option.pure_def, Option.some.injEq, exists_const] at hstep
    obtain ⟨due, -, -, rfl⟩ := hstep
    exact fun _ _ ↦ .inl rfl
  | wait now =>
    simp only [Watched.step, Option.bind_eq_bind, Option.bind_eq_some_iff, Option.guard_eq_some',
      Option.pure_def, Option.some.injEq, exists_const] at hstep
    obtain ⟨hle, rfl⟩ := hstep
    intro deadline hdeadline
    rcases h deadline hdeadline with hqueued | ⟨due, hdue, hbound⟩
    · exact .inl hqueued
    · exact .inr ⟨due, hdue, hbound.trans (max_le_max_left deadline (add_le_add_left hle 1))⟩

/-- What is overdue has its wakeup within a millisecond. -/
theorem Awake.overdue (h : watched.Awake) {deadline : ℤ} (hdeadline : watched.service.deadline = some deadline)
    (hoverdue : deadline ≤ watched.now) :
    watched.queued = true ∨ ∃ due ∈ watched.service.expiry, due ≤ watched.now + 1 := by
  rcases h deadline hdeadline with hqueued | ⟨due, hdue, hbound⟩
  · exact .inl hqueued
  · exact .inr ⟨due, hdue, by omega⟩

end Watched

/-- A valid ticket bounds the deadline. -/
theorem Service.deadline_le {service : Service} (hvalid : service.core.ticket.valid = true) :
    ∃ deadline, service.deadline = some deadline ∧ deadline ≤ service.core.ticket.expiresAt := by
  unfold Service.deadline
  rw [if_pos hvalid]
  split_ifs
  · exact ⟨_, rfl, min_le_left _ _⟩
  · exact ⟨_, rfl, le_rfl⟩

/-- The timer of the resumption service: after every call that schedules, from any state, the work stands at the
earlier deadline or is cancelled; a run of the work wipes what is due, keeps the rest and is such a call; and no
run of the service reaches a ticket past its lifetime, or any overdue deadline, without a wakeup. -/
theorem expiry_scheduling (profile : UInt8) (crypto : Crypto) (aead : Aead) :
    (∀ service call, ∀ now ∈ call.scheduledAt,
      ((serviceMachine profile crypto aead).step service call).2.Armed now) ∧
    (∀ (service : Service) (clock₁ clock₂ clock₃ : ℤ),
      Expires service clock₁ clock₂ (service.expire profile clock₁ clock₂ clock₃) ∧
        (service.expire profile clock₁ clock₂ clock₃).Armed clock₃) ∧
    ∀ (boot : ℤ) (actions : List WatchedAction) (watched : Watched),
      run (Watched.step profile crypto aead) (Watched.start boot) actions = some watched →
        watched.Awake ∧
        (watched.service.core.ticket.valid = true → watched.service.core.ticket.expiresAt ≤ watched.now →
          watched.queued = true ∨ ∃ due ∈ watched.service.expiry, due ≤ watched.now + 1) := by
  refine ⟨fun service call now hnow ↦ armed_step service hnow, fun service clock₁ clock₂ clock₃ ↦
    ⟨expires_expire service clock₁ clock₂ clock₃, Service.armed_scheduleExpiry _ _⟩,
    fun boot actions watched hrun ↦ ?_⟩
  have hstart : (Watched.start boot).Awake := fun deadline hdeadline ↦ by
    simp [Watched.start, Service.deadline, Service.zero, Service.pending, Ticket.zero, Session.zero] at hdeadline
  have hawake : watched.Awake := run_invariant (fun _ _ _ h hstep ↦ Watched.Awake.step h hstep) hstart hrun
  refine ⟨hawake, fun hvalid hexpired ↦ ?_⟩
  obtain ⟨deadline, hdeadline, hle⟩ := Service.deadline_le hvalid
  exact hawake.overdue hdeadline (hle.trans hexpired)

end PqBleHandshake.Resumption
