import PqBleHandshake.Resumption.Atomicity
import PqBleHandshake.Resumption.Service

/-!
# What the calls of the service do to the ticket

Besides the control writes, only a pairing change, an expired lifetime and a full handshake touch the ticket, and a
full handshake that fails leaves it as it was.
-/

namespace PqBleHandshake.Resumption

open Foundation

/-- The call is no `PQRS` frame and no bond change, and it does not find the ticket expired. -/
def ServiceCall.Spares (ticket : Ticket) : ServiceCall → Prop
  | .connected _ _ clock _ | .expire clock _ _ => ticket.valid = true → ticket.Unexpired clock
  | .bondChanged _ => False
  | .control _ wire _ => ¬(4 ≤ wire.length ∧ wire.take 4 = magic)
  | _ => True

section Calls

variable {profile : UInt8} {crypto : Crypto} {aead : Aead} {service : Service}

/-- The check wipes only an expired ticket, when a ticket in use has uses left. -/
theorem Ticket.checked_of_unexpired {ticket : Ticket} {clock : ℤ} (hunused : ticket.Unused)
    (h : ticket.valid = true → ticket.Unexpired clock) : ticket.checked clock = ticket := by
  rw [Ticket.checked, if_neg]
  rintro ⟨hvalid, hspent⟩
  exact hspent ⟨h hvalid, hunused hvalid⟩

theorem ticket_checkTicket (service : Service) (clock : ℤ) :
    (service.checkTicket profile clock).core.ticket = service.core.ticket.checked clock :=
  pqResumeEligible_snd _ _ _ _

theorem ticket_expire (service : Service) (clock₁ clock₂ clock₃ : ℤ) :
    (service.expire profile clock₁ clock₂ clock₃).core.ticket = service.core.ticket.checked clock₁ := by
  unfold Service.expire
  dsimp only
  split_ifs
  · exact ticket_checkTicket service clock₁
  · exact ticket_checkTicket service clock₁

theorem ticket_connected (service : Service) (conn : Conn) (bonded : Bool) (clock now : ℤ) :
    (service.connected profile conn bonded clock now).core.ticket = service.core.ticket.checked clock :=
  pqResumeEligible_snd _ _ _ _

theorem ticket_abort (service : Service) (conn : Option Conn) (now : ℤ) :
    (service.abort conn now).core.ticket = service.core.ticket := by
  unfold Service.abort
  dsimp only
  split_ifs <;> rfl

theorem ticket_disconnected (service : Service) (conn : Conn) (now : ℤ) :
    (service.disconnected conn now).core.ticket = service.core.ticket := by
  unfold Service.disconnected
  dsimp only
  split_ifs <;> rfl

/-- A full handshake issues its ticket, or fails and leaves the old one. -/
theorem ticket_full (faults : Faults) (full : FullKeys) (view : PeerView) (now : ℤ) :
    let result := pqResumeServiceFull profile crypto faults service full view now
    (result.1.ok = true ∧ ∃ peer, pqResumeIssue crypto faults profile full.root full.th peer view.uptime true =
        some result.2.core.ticket) ∨
      result.1.ok = false ∧ result.2.core.ticket = service.core.ticket := by
  unfold pqResumeServiceFull
  cases hbody : fullBody profile crypto faults service.clearSession full view with
  | error errno =>
    simp only [hbody]
    exact .inr ⟨trivial, rfl⟩
  | ok service' =>
    simp only [hbody]
    simp only [fullBody, except_bind_eq_ok_iff, require_eq_ok_iff, orFail_eq_ok_iff, exists_and_left,
      exists_const] at hbody
    obtain ⟨-, -, keys, -, ticket, hissue, hservice⟩ := hbody
    cases hservice
    exact .inl ⟨trivial, _, hissue⟩

theorem ticket_takeHybrid (service : Service) (view : LinkView) :
    (pqResumeServiceTakeHybrid profile service view).2.core.ticket = service.core.ticket := by
  unfold pqResumeServiceTakeHybrid
  split_ifs <;> rfl

theorem ticket_scheduled (result : ServiceAnswer × Service) (now : ℤ) :
    ((if result.1.ok then result.2 else result.2.clearSession).scheduleExpiry now).core.ticket =
      result.2.core.ticket := by
  split_ifs <;> rfl

theorem ticket_controlApplication (conn : Conn) (wire : Bytes) (input : ControlInput) :
    (controlApplication profile aead service conn wire input).2.core.ticket = service.core.ticket := by
  unfold controlApplication
  dsimp only
  repeat' split
  all_goals rfl

theorem ticket_pqResumeServiceControl (conn : Conn) (wire : Bytes) (input : ControlInput) :
    (pqResumeServiceControl profile crypto aead service conn wire input).2.core.ticket =
      (if service.owner ≠ some conn ∨ service.protectedLink profile input.entry.toLinkView = false ∨
          input.entry.mtu < wire.length + 3 then (({ ok := false } : ServiceAnswer), service)
        else if 4 ≤ wire.length ∧ wire.take 4 = magic then controlResume profile crypto service conn wire input
        else controlApplication profile aead service conn wire input).2.core.ticket :=
  ticket_scheduled _ input.now

/-- An application frame never reaches the ticket. -/
theorem ticket_control {wire : Bytes} (hwire : ¬(4 ≤ wire.length ∧ wire.take 4 = magic)) (conn : Conn)
    (input : ControlInput) :
    (pqResumeServiceControl profile crypto aead service conn wire input).2.core.ticket = service.core.ticket := by
  rw [ticket_pqResumeServiceControl, if_neg hwire]
  split_ifs
  · rfl
  · exact ticket_controlApplication conn wire input

/-- **The calls besides the resumption frames** keep the ticket, or replace it by that of a full handshake. -/
theorem ticket_step (hunused : service.core.ticket.Unused) {call : ServiceCall}
    (hspares : call.Spares service.core.ticket) :
    let result := (serviceMachine profile crypto aead).step service call
    result.2.core.ticket = service.core.ticket ∨
      ∃ faults full view now peer, call = .full faults full view now ∧ result.1.ok = true ∧
        pqResumeIssue crypto faults profile full.root full.th peer view.uptime true = some result.2.core.ticket := by
  intro result
  cases call with
  | connected conn bonded clock now =>
    exact .inl ((ticket_connected service conn bonded clock now).trans (Ticket.checked_of_unexpired hunused hspares))
  | disconnected conn now => exact .inl (ticket_disconnected service conn now)
  | abort conn now => exact .inl (ticket_abort service conn now)
  | bondChanged now => exact hspares.elim
  | expire clock₁ clock₂ clock₃ =>
    exact .inl ((ticket_expire service clock₁ clock₂ clock₃).trans (Ticket.checked_of_unexpired hunused hspares))
  | full faults full view now =>
    rcases @ticket_full profile crypto service faults full view now with ⟨hok, peer, hissue⟩ | ⟨-, hsame⟩
    · exact .inr ⟨faults, full, view, now, peer, rfl, hok, hissue⟩
    · exact .inl hsame
  | takeHybrid view => exact .inl (ticket_takeHybrid service view)
  | control conn wire input => exact .inl (ticket_control hspares conn input)

/-! ## Uses left -/

theorem Ticket.Unused.checked {ticket : Ticket} (h : ticket.Unused) (clock : ℤ) : (ticket.checked clock).Unused := by
  rcases ticket.checked_eq_or clock with hsame | hzero
  · rwa [hsame]
  · rw [hzero]
    exact Ticket.unused_zero

theorem exists_id_of_pqResumeIssue {faults : Faults} {root th : Block 32} {peer : Block 7} {now : ℤ}
    {authenticated : Bool} {ticket : Ticket}
    (h : pqResumeIssue crypto faults profile root th peer now authenticated = some ticket) :
    ∃ id, pqResumeId crypto faults profile root th = some id ∧
      ticket = { valid := true, profile, id, root, peer, createdMs := now, successes := 0, replay := [] } := by
  unfold pqResumeIssue at h
  split_ifs at h
  obtain ⟨id, hid, rfl⟩ := Option.map_eq_some_iff.mp h
  exact ⟨id, hid, rfl⟩

theorem unused_issue {faults : Faults} {root th : Block 32} {peer : Block 7} {now : ℤ} {authenticated : Bool}
    {ticket : Ticket} (h : pqResumeIssue crypto faults profile root th peer now authenticated = some ticket) :
    ticket.Unused := by
  obtain ⟨id, -, rfl⟩ := exists_id_of_pqResumeIssue h
  intro _
  show 0 < pqResumeMaxUses
  decide

theorem unused_resumeAttempt (h : service.core.ticket.Unused) (wire : Bytes) (input : ControlInput) :
    (resumeAttempt profile crypto service wire input).2.ticket.Unused := by
  unfold resumeAttempt
  dsimp only
  split_ifs
  · split
    · exact h
    · exact unused_step crypto h (.accept _ _ _ _)
  · exact unused_step crypto h (.finish _ _ _)
  · exact h

theorem unused_controlResume (h : service.core.ticket.Unused) (conn : Conn) (wire : Bytes) (input : ControlInput) :
    (controlResume profile crypto service conn wire input).2.core.ticket.Unused := by
  have hattempt : (resumeAttempt profile crypto service wire input).2.ticket.Unused :=
    unused_resumeAttempt h wire input
  unfold controlResume
  dsimp only
  split_ifs
  all_goals first
    | exact hattempt
    | exact unused_step crypto hattempt (.commit _)

theorem unused_control (h : service.core.ticket.Unused) (conn : Conn) (wire : Bytes) (input : ControlInput) :
    (pqResumeServiceControl profile crypto aead service conn wire input).2.core.ticket.Unused := by
  rw [ticket_pqResumeServiceControl]
  split_ifs
  · exact h
  · exact unused_controlResume h conn wire input
  · rwa [ticket_controlApplication]

theorem unused_of_spares (h : service.core.ticket.Unused) {call : ServiceCall}
    (hspares : call.Spares service.core.ticket) :
    ((serviceMachine profile crypto aead).step service call).2.core.ticket.Unused := by
  rcases @ticket_step profile crypto aead service h call hspares with hsame | ⟨_, _, _, _, _, -, -, hissue⟩
  · rwa [hsame]
  · exact unused_issue hissue

/-- **A ticket in use has uses left** after every call. -/
theorem unused_serviceStep (h : service.core.ticket.Unused) (call : ServiceCall) :
    ((serviceMachine profile crypto aead).step service call).2.core.ticket.Unused := by
  cases call with
  | connected conn bonded clock now =>
    rw [show ((serviceMachine profile crypto aead).step service (.connected conn bonded clock now)).2.core.ticket =
      service.core.ticket.checked clock from ticket_connected service conn bonded clock now]
    exact h.checked clock
  | expire clock₁ clock₂ clock₃ =>
    rw [show ((serviceMachine profile crypto aead).step service (.expire clock₁ clock₂ clock₃)).2.core.ticket =
      service.core.ticket.checked clock₁ from ticket_expire service clock₁ clock₂ clock₃]
    exact h.checked clock₁
  | bondChanged now => exact Ticket.unused_zero
  | control conn wire input => exact unused_control h conn wire input
  | disconnected conn now => exact unused_of_spares h trivial
  | abort conn now => exact unused_of_spares h trivial
  | full faults full view now => exact unused_of_spares h trivial
  | takeHybrid view => exact unused_of_spares h trivial

end Calls

end PqBleHandshake.Resumption
