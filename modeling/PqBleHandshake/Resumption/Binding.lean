import PqBleHandshake.Resumption.Channel

/-!
# What a v1.1 resumption is bound to

The service runs beside a history of its calls: the connections, the pairing completions and bond
deletions, the last ticket issue and the last accepted INIT.  `Bound` relates the two after every run,
and `secure_binding` reads off it how the session can become secure.
-/

namespace PqBleHandshake.Resumption

open Foundation

/-- An accepted INIT: the connection, the ticket and the checks it passed. -/
structure Check where
  link : ℕ
  conn : Conn
  ticketId : Block 16
  peer : Block 7
  l4 : Bool
  bonded : Bool

/-- The history of a run: the number of connections and whether the last one had a bond already, the
number of pairing completions and bond deletions, that number and the ticket at the last issue, and the
last accepted INIT. -/
structure History where
  links : ℕ := 0
  bondAtConnect : Bool := false
  bondChanges : ℕ := 0
  issuedAt : ℕ := 0
  issuedId : Block 16 := .zero 16
  issuedPeer : Block 7 := .zero 7
  accepted : Option Check := none

/-- The service with the history of its calls. -/
structure BindingRun where
  service : Service
  history : History := {}

/-- What a call with its answer adds to the history. -/
def History.note (history : History) (service service' : Service) (answer : ServiceAnswer) :
    ServiceCall → History
  | .connected _ bonded _ _ => { history with links := history.links + 1, bondAtConnect := bonded }
  | .bondChanged _ => { history with bondChanges := history.bondChanges + 1 }
  | .full _ _ view _ =>
    if answer.ok then
      { history with
        issuedAt := history.bondChanges
        issuedId := service'.core.ticket.id
        issuedPeer := view.peer }
    else history
  | .control conn _ input =>
    if service.core.session.state = .idle ∧ service'.core.session.state = .waitC then
      { history with
        accepted := some
          ⟨history.links, conn, service.core.ticket.id, input.entry.peer, input.attempt.l4,
            input.attempt.bonded⟩ }
    else history
  | _ => history

/-- The v1.1 service and the history under any sequence of calls. -/
def bindingRun (crypto : Crypto) (aead : Aead) : Machine BindingRun ServiceCall ServiceAnswer where
  step run call :=
    let result := (serviceMachine pqResumeV11 crypto aead).step run.service call
    (result.1,
      { service := result.2
        history := run.history.note run.service result.2 result.1 call })

/-- The service at boot. -/
def BindingRun.boot : BindingRun := { service := Service.zero }

/-! ## What a control write does to the ticket and the session -/

/-- A later state of one ticket: the ticket itself or a wiped one. -/
def Ticket.Continues (ticket ticket' : Ticket) : Prop :=
  ticket'.valid = true → ticket.valid = true ∧ ticket'.peer = ticket.peer ∧ ticket'.id = ticket.id

theorem Ticket.Continues.refl (ticket : Ticket) : ticket.Continues ticket :=
  fun h ↦ ⟨h, rfl, rfl⟩

theorem Ticket.continues_checked (ticket : Ticket) (now : ℤ) :
    ticket.Continues (ticket.checked now) := by
  rcases ticket.checked_eq_or now with h | h
  · rw [h]
    exact .refl ticket
  · intro hvalid
    rw [h] at hvalid
    cases hvalid

theorem Ticket.continues_use (ticket : Ticket) : ticket.Continues ticket.use := by
  intro hvalid
  unfold Ticket.use at hvalid ⊢
  split_ifs at hvalid ⊢
  · cases hvalid
  · exact ⟨hvalid, rfl, rfl⟩

/-- An INIT that the service accepted. -/
structure InitAccepted (crypto : Crypto) (service : Service) (conn : Conn) (wire : Bytes)
    (input : ControlInput) (service' : Service) : Prop where
  owner : service.owner = some conn
  accepted : ∃ np accept sid nc, Accepted crypto service.core
    (observe pqResumeV11 service (service.peerIdentity pqResumeV11 input.entry) input.attempt) wire np
    accept service'.core sid nc

/-- A FINISH_C that the service answered and committed in the same write. -/
structure FinishCommitted (crypto : Crypto) (service : Service) (conn : Conn) (wire : Bytes)
    (input : ControlInput) (service' : Service) : Prop where
  owner : service.owner = some conn
  committed : ∃ finish middle, Finished crypto service.core
      (observe pqResumeV11 service (service.peerIdentity pqResumeV11 input.entry) input.attempt) wire
      finish middle ∧
    Committed middle
      (observe pqResumeV11 service (service.peerIdentity pqResumeV11 input.entry) input.commit)
      service'.core

/-- What a control write does to the core: nothing, an accepted INIT, a committed FINISH_C, or the end of
the session. -/
inductive ControlCore (crypto : Crypto) (service : Service) (conn : Conn) (wire : Bytes)
    (input : ControlInput) (service' : Service) : Prop
  | keep (core : service'.core = service.core)
  | accept (accepted : InitAccepted crypto service conn wire input service')
  | commit (committed : FinishCommitted crypto service conn wire input service')
  | close (session : service'.core.session = Session.zero)
      (ticket : service.core.ticket.Continues service'.core.ticket)

section Control

variable {crypto : Crypto} {aead : Aead} {service service' : Service} {conn : Conn} {wire : Bytes}
  {input : ControlInput} {answer : ServiceAnswer}

/-- The application branch leaves the core alone. -/
theorem controlApplication_core
    (h : controlApplication pqResumeV11 aead service conn wire input = (answer, service')) :
    service'.core = service.core ∧ service'.owner = service.owner ∧
      service'.bondAtConnect = service.bondAtConnect := by
  unfold controlApplication at h
  dsimp only at h
  repeat' split at h
  all_goals
    obtain ⟨-, rfl⟩ := Prod.mk.inj h
    exact ⟨rfl, rfl, rfl⟩

/-- The outcomes of the core at a `PQRS` write, with what the successful ones checked. -/
theorem resumeAttempt_core {attempt : Answer} {core : Core}
    (h : resumeAttempt pqResumeV11 crypto service wire input = (attempt, core)) :
    let seen := observe pqResumeV11 service (service.peerIdentity pqResumeV11 input.entry) input.attempt
    (attempt.reason = .ok ∧ ∃ np sid nc,
        Accepted crypto service.core seen wire np attempt.wire core sid nc) ∨
      (attempt.reason = .ok ∧ Finished crypto service.core seen wire attempt.wire core) ∨
      (attempt.reason ≠ .ok ∧ service.core.ticket.Continues core.ticket) := by
  intro seen
  unfold resumeAttempt at h
  split at h
  · split at h
    · obtain ⟨rfl, rfl⟩ := Prod.mk.inj h
      exact .inr (.inr ⟨by decide, .refl _⟩)
    · rename_i nonce _
      rcases pqResumeAccept_cases h with ⟨hok, sid, nc, haccepted⟩ | ⟨hfailed, hticket⟩
      · exact .inl ⟨hok, nonce, sid, nc, haccepted⟩
      · refine .inr (.inr ⟨hfailed.reason_ne, ?_⟩)
        rcases hticket with h | h | ⟨entry, -, -, -, -, h⟩
        · exact h ▸ .refl _
        · exact h ▸ Ticket.continues_checked _ _
        · rw [h]
          exact fun hvalid ↦ ⟨hvalid, rfl, rfl⟩
  split at h
  · rcases pqResumeFinish_cases h with ⟨hok, hfinished⟩ | ⟨hfailed, hticket⟩
    · exact .inr (.inl ⟨hok, hfinished⟩)
    · refine .inr (.inr ⟨hfailed.reason_ne, ?_⟩)
      rcases hticket with h | h
      · exact h ▸ .refl _
      · exact h ▸ Ticket.continues_checked _ _
  · obtain ⟨rfl, rfl⟩ := Prod.mk.inj h
    exact .inr (.inr ⟨by decide, .refl _⟩)

/-- The outcomes of the `PQRS` branch, up to the wipe of a failed call. -/
theorem controlResume_core (howner : service.owner = some conn)
    (h : controlResume pqResumeV11 crypto service conn wire input = (answer, service')) :
    service'.owner = service.owner ∧ service'.bondAtConnect = service.bondAtConnect ∧
      (answer.ok = true → ControlCore crypto service conn wire input service') ∧
      service.core.ticket.Continues service'.core.ticket := by
  unfold controlResume at h
  obtain ⟨⟨attempt, core⟩, hattempt⟩ :
      ∃ result, resumeAttempt pqResumeV11 crypto service wire input = result := ⟨_, rfl⟩
  simp only [hattempt] at h
  rcases resumeAttempt_core hattempt with ⟨hok, np, sid, nc, haccepted⟩ | ⟨hok, hfinished⟩ |
    ⟨hne, hticket⟩
  · have hwait : core.session.state = .waitC := by rw [haccepted.session_eq]
    have hcontinues : service.core.ticket.Continues core.ticket := by
      rw [haccepted.ticket_eq]
      exact fun hvalid ↦ ⟨hvalid, rfl, rfl⟩
    simp only [hok, hwait, if_true, reduceCtorEq, if_false] at h
    split_ifs at h
    · obtain ⟨rfl, rfl⟩ := Prod.mk.inj h
      exact ⟨rfl, rfl, fun _ ↦ .accept ⟨howner, np, _, sid, nc, haccepted⟩, hcontinues⟩
    · obtain ⟨rfl, rfl⟩ := Prod.mk.inj h
      exact ⟨rfl, rfl, fun h ↦ (nomatch h), hcontinues⟩
  · have hstate : core.session.state = .pendingP := by rw [hfinished.core_eq]
    have hsame : core.ticket = service.core.ticket := by rw [hfinished.core_eq]
    have hcontinues : service.core.ticket.Continues core.ticket := by
      rw [hsame]
      exact .refl _
    simp only [hok, hstate, if_true, reduceCtorEq, if_false] at h
    split at h
    · obtain ⟨⟨committed, core'⟩, hcommit⟩ : ∃ result, pqResumeCommit core (observe pqResumeV11
          { service with core } (service.peerIdentity pqResumeV11 input.entry) input.commit) =
            result := ⟨_, rfl⟩
      simp only [hcommit] at h
      rcases pqResumeCommit_cases hcommit with ⟨hreason, hcommitted⟩ | ⟨hfailed, hticket⟩
      · rw [if_pos hreason] at h
        obtain ⟨rfl, rfl⟩ := Prod.mk.inj h
        refine ⟨rfl, rfl, fun _ ↦ .commit ⟨howner, _, core, hfinished, hcommitted⟩, ?_⟩
        simp only [hcommitted.ticket_eq, hsame]
        exact Ticket.continues_use _
      · rw [if_neg hfailed.reason_ne] at h
        obtain ⟨rfl, rfl⟩ := Prod.mk.inj h
        refine ⟨rfl, rfl, fun h ↦ (nomatch h), ?_⟩
        rcases hticket with h | h
        · simpa only [h] using hcontinues
        · simp only [h, hsame]
          exact Ticket.continues_checked _ _
    · obtain ⟨rfl, rfl⟩ := Prod.mk.inj h
      exact ⟨rfl, rfl, fun h ↦ (nomatch h), hcontinues⟩
  · simp only [hne, if_false] at h
    split_ifs at h
    · obtain ⟨rfl, rfl⟩ := Prod.mk.inj h
      exact ⟨rfl, rfl, fun _ ↦ .close rfl hticket, hticket⟩
    · obtain ⟨rfl, rfl⟩ := Prod.mk.inj h
      exact ⟨rfl, rfl, fun h ↦ (nomatch h), hticket⟩

/-- **What a control write does to the core.** -/
theorem control_core
    (h : pqResumeServiceControl pqResumeV11 crypto aead service conn wire input =
      (answer, service')) :
    service'.owner = service.owner ∧ service'.bondAtConnect = service.bondAtConnect ∧
      ControlCore crypto service conn wire input service' := by
  unfold pqResumeServiceControl at h
  obtain ⟨⟨inner, middle⟩, hinner⟩ : ∃ result, (if service.owner ≠ some conn ∨
      service.protectedLink pqResumeV11 input.entry.toLinkView = false ∨
        input.entry.mtu < wire.length + 3 then (({ ok := false } : ServiceAnswer), service)
    else if 4 ≤ wire.length ∧ wire.take 4 = magic then
      controlResume pqResumeV11 crypto service conn wire input
    else controlApplication pqResumeV11 aead service conn wire input) = result := ⟨_, rfl⟩
  rw [hinner] at h
  obtain ⟨rfl, rfl⟩ := Prod.mk.inj h
  have hcases : middle.owner = service.owner ∧ middle.bondAtConnect = service.bondAtConnect ∧
      (inner.ok = true → ControlCore crypto service conn wire input middle) ∧
      service.core.ticket.Continues middle.core.ticket := by
    split_ifs at hinner with hguard
    · obtain ⟨rfl, rfl⟩ := Prod.mk.inj hinner
      exact ⟨rfl, rfl, fun h ↦ (nomatch h), .refl _⟩
    · simp only [not_or, not_not] at hguard
      exact controlResume_core hguard.1 hinner
    · obtain ⟨hcore, howner, hbond⟩ := controlApplication_core hinner
      exact ⟨howner, hbond, fun _ ↦ .keep hcore, hcore ▸ .refl _⟩
  obtain ⟨howner, hbond, hok, hticket⟩ := hcases
  cases hresult : inner.ok with
  | true =>
    refine ⟨howner, hbond, ?_⟩
    cases hok hresult with
    | keep hcore => exact .keep hcore
    | accept h => exact .accept ⟨h.owner, h.accepted⟩
    | commit h => exact .commit ⟨h.owner, h.committed⟩
    | close hsession hticket => exact .close hsession hticket
  | false => exact ⟨howner, hbond, .close rfl hticket⟩

end Control

/-! ## The invariant -/

/-- What the history says about the service between any two calls. -/
structure Bound (history : History) (service : Service) : Prop where
  issued : service.core.ticket.valid = true →
    history.issuedAt = history.bondChanges ∧ history.issuedId = service.core.ticket.id ∧
      history.issuedPeer = service.core.ticket.peer
  bonded : service.bondAtConnect = true → history.bondAtConnect = true
  settled : service.core.session.state ≠ .pendingP
  waiting : service.core.session.state = .waitC → service.core.ticket.valid = true ∧
    ∃ check, history.accepted = some check ∧ check.link = history.links ∧
      service.owner = some check.conn ∧ check.l4 = true ∧ check.bonded = true ∧
      check.ticketId = service.core.ticket.id ∧ check.peer = service.core.ticket.peer

/-- The session became secure through a full handshake on a bonded L4 link. -/
structure SecuredByFull (before : BindingRun) (call : ServiceCall) : Prop where
  full : ∃ faults keys view now, call = .full faults keys view now ∧
    before.service.owner.isSome = true ∧ view.l4 = true ∧ view.bonded = true

/-- The session became secure through a resumption: accepted, finished and committed on one connection
that had a bond when it was established, with the link and the peer of the ticket checked each time and
no bond change since the ticket was issued. -/
structure SecuredByResume (crypto : Crypto) (before : BindingRun) (call : ServiceCall)
    (after : BindingRun) : Prop where
  write : ∃ conn wire input check, call = .control conn wire input ∧
    FinishCommitted crypto before.service conn wire input after.service ∧
    before.history.accepted = some check ∧
    (check.link = before.history.links ∧ check.conn = conn) ∧
    (check.l4 = true ∧ check.bonded = true) ∧
    (input.attempt.l4 = true ∧ input.attempt.bonded = true) ∧
    (input.commit.l4 = true ∧ input.commit.bonded = true) ∧
    (check.ticketId = before.service.core.ticket.id ∧
      before.history.issuedId = before.service.core.ticket.id) ∧
    (check.peer = before.service.core.ticket.peer ∧
      input.entry.peer = before.service.core.ticket.peer ∧
      before.history.issuedPeer = before.service.core.ticket.peer)
  bondAtConnect : before.history.bondAtConnect = true
  unchanged : before.history.issuedAt = before.history.bondChanges

section Invariant

variable {crypto : Crypto} {aead : Aead} {history : History} {service service' : Service}

/-- A wiped session needs only what the ticket says. -/
theorem Bound.closed {history' : History} (hsession : service'.core.session = Session.zero)
    (hissued : service'.core.ticket.valid = true →
      history'.issuedAt = history'.bondChanges ∧ history'.issuedId = service'.core.ticket.id ∧
        history'.issuedPeer = service'.core.ticket.peer)
    (hbonded : service'.bondAtConnect = true → history'.bondAtConnect = true) :
    Bound history' service' where
  issued := hissued
  bonded := hbonded
  settled := by simp [hsession, Session.zero]
  waiting h := by simp [hsession, Session.zero] at h

theorem Bound.issued_of_continues (h : Bound history service)
    (hticket : service.core.ticket.Continues service'.core.ticket) :
    service'.core.ticket.valid = true →
      history.issuedAt = history.bondChanges ∧ history.issuedId = service'.core.ticket.id ∧
        history.issuedPeer = service'.core.ticket.peer := by
  intro hvalid
  obtain ⟨hold, hpeer, hid⟩ := hticket hvalid
  rw [hpeer, hid]
  exact h.issued hold

/-- The checks of an attempt, read off what the core observed. -/
theorem protected_observe {conn : Conn} {peer : Block 7} {view : PeerView}
    (howner : service.owner = some conn) (h : (observe pqResumeV11 service peer view).Protected) :
    view.l4 = true ∧ view.bonded = true ∧ service.bondAtConnect = true := by
  obtain ⟨hl4, hbonded⟩ := h rfl
  simp only [observe, Service.protectedLink, Service.resumeBond, howner, Option.isSome_some,
    ne_eq, not_true_eq_false, decide_false, Bool.true_and, Bool.false_or, Bool.and_eq_true] at hl4 hbonded
  exact ⟨hl4, hbonded.2, hbonded.1⟩

theorem peerIdentity_of_owner {conn : Conn} {view : PeerView} (howner : service.owner = some conn) :
    service.peerIdentity pqResumeV11 view = view.peer := by
  simp [Service.peerIdentity, howner]

/-- An accepted INIT starts a bound attempt. -/
theorem Bound.accept {conn : Conn} {wire : Bytes} {input : ControlInput} {answer : ServiceAnswer}
    (h : Bound history service) (haccepted : InitAccepted crypto service conn wire input service')
    (howner : service'.owner = service.owner)
    (hbond : service'.bondAtConnect = service.bondAtConnect) :
    Bound (history.note service service' answer (.control conn wire input)) service' := by
  obtain ⟨np, accept, sid, nc, haccept⟩ := haccepted.accepted
  have hstate : service'.core.session.state = .waitC := by rw [haccept.session_eq]
  have hticket : service'.core.ticket.valid = true ∧
      service'.core.ticket.id = service.core.ticket.id ∧
      service'.core.ticket.peer = service.core.ticket.peer := by
    rw [haccept.ticket_eq]
    exact ⟨haccept.eligible.valid, rfl, rfl⟩
  obtain ⟨hl4, hbonded, -⟩ := protected_observe haccepted.owner haccept.link
  have hpeer := haccept.eligible.peer_eq
  simp only [observe, peerIdentity_of_owner haccepted.owner] at hpeer
  rw [History.note, if_pos ⟨haccept.idle, hstate⟩]
  refine ⟨?_, fun hb ↦ h.bonded (hbond ▸ hb), by simp [hstate], fun _ ↦ ⟨hticket.1, _, rfl, rfl, ?_⟩⟩
  · intro _
    rw [hticket.2.1, hticket.2.2]
    exact h.issued haccept.eligible.valid
  · exact ⟨howner.trans haccepted.owner, hl4, hbonded, hticket.2.1.symm, hpeer ▸ hticket.2.2.symm⟩

/-- A write that starts no attempt leaves the history alone. -/
theorem History.note_control {conn : Conn} {wire : Bytes} {input : ControlInput}
    {answer : ServiceAnswer} (h : service.core.session.state = .idle →
      service'.core.session.state ≠ .waitC) :
    history.note service service' answer (.control conn wire input) = history := by
  rw [History.note, if_neg (fun hstates ↦ h hstates.1 hstates.2)]

theorem Bound.control {conn : Conn} {wire : Bytes} {input : ControlInput} {answer : ServiceAnswer}
    (h : Bound history service)
    (hcontrol : pqResumeServiceControl pqResumeV11 crypto aead service conn wire input =
      (answer, service')) :
    Bound (history.note service service' answer (.control conn wire input)) service' := by
  obtain ⟨howner, hbond, hcore⟩ := control_core hcontrol
  cases hcore with
  | keep hsame =>
    rw [History.note_control (by simp +contextual [hsame])]
    exact
      { issued := by rw [hsame]; exact h.issued
        bonded := fun hb ↦ h.bonded (hbond ▸ hb)
        settled := by rw [hsame]; exact h.settled
        waiting := by rw [hsame, howner]; exact h.waiting }
  | accept haccepted => exact h.accept haccepted howner hbond
  | commit hcommitted =>
    obtain ⟨finish, middle, hfinished, hcommit⟩ := hcommitted.committed
    have hstate : service'.core.session.state = .secure := by rw [hcommit.session_eq]
    have hticket : service.core.ticket.Continues service'.core.ticket := by
      rw [hcommit.ticket_eq, hfinished.core_eq]
      exact Ticket.continues_use _
    rw [History.note_control (by simp [hstate])]
    exact ⟨h.issued_of_continues hticket, fun hb ↦ h.bonded (hbond ▸ hb), by simp [hstate],
      fun hwait ↦ by simp [hstate] at hwait⟩
  | close hsession hticket =>
    rw [History.note_control (by simp [hsession, Session.zero])]
    exact .closed hsession (h.issued_of_continues hticket) (fun hb ↦ h.bonded (hbond ▸ hb))

/-- A ticket is issued for the observed peer. -/
theorem pqResumeIssue_peer {faults : Faults} {profile : UInt8} {root th : Block 32} {peer : Block 7}
    {now : ℤ} {authenticated : Bool} {ticket : Ticket}
    (h : pqResumeIssue crypto faults profile root th peer now authenticated = some ticket) :
    ticket.peer = peer := by
  unfold pqResumeIssue at h
  split_ifs at h
  obtain ⟨id, -, rfl⟩ := Option.map_eq_some_iff.mp h
  rfl

/-- The body of a full handshake on the v1.1 service, when it succeeds. -/
theorem fullBody_core {faults : Faults} {full : FullKeys} {view : PeerView}
    (h : fullBody pqResumeV11 crypto faults service full view = .ok service') :
    (service.owner.isSome = true ∧ view.l4 = true ∧ view.bonded = true) ∧
      service'.core.session.state = .secure ∧ service'.core.ticket.peer = view.peer ∧
      service'.owner = service.owner ∧ service'.bondAtConnect = service.bondAtConnect := by
  simp only [fullBody, except_bind_eq_ok_iff, require_eq_ok_iff, orFail_eq_ok_iff,
    exists_and_left, exists_const] at h
  obtain ⟨hlink, hbonded, keys, -, ticket, hissue, hresult⟩ := h
  have hpeer := pqResumeIssue_peer hissue
  cases hresult
  simp only [Service.protectedLink, ne_eq, not_true_eq_false, decide_false, Bool.false_or,
    Bool.and_eq_true] at hlink
  refine ⟨⟨hlink.1, hlink.2, hbonded trivial⟩, rfl, ?_, rfl, rfl⟩
  simp [hpeer, Service.peerIdentity, hlink.1]

theorem Bound.full {faults : Faults} {full : FullKeys} {view : PeerView} {now : ℤ}
    (h : Bound history service) :
    let result := pqResumeServiceFull pqResumeV11 crypto faults service full view now
    Bound (history.note service result.2 result.1 (.full faults full view now)) result.2 := by
  intro result
  obtain hbody | ⟨service', hbody⟩ :
      (∃ error, fullBody pqResumeV11 crypto faults service.clearSession full view = .error error) ∨
        ∃ service', fullBody pqResumeV11 crypto faults service.clearSession full view =
          .ok service' := by
    cases fullBody pqResumeV11 crypto faults service.clearSession full view with
    | error error => exact .inl ⟨error, rfl⟩
    | ok service' => exact .inr ⟨service', rfl⟩
  · obtain ⟨error, hbody⟩ := hbody
    have hresult : result =
        ({ ok := false }, service.clearSession.clearSession.scheduleExpiry now) := by
      simp only [result, pqResumeServiceFull, hbody]
    rw [hresult]
    exact .closed rfl h.issued h.bonded
  · have hresult : result = ({ ok := true, events := [.installed service'.appKeys] },
        service'.scheduleExpiry now) := by
      simp only [result, pqResumeServiceFull, hbody]
    obtain ⟨-, hstate, hpeer, -, hbond⟩ := fullBody_core hbody
    rw [hresult]
    refine ⟨fun _ ↦ ⟨rfl, rfl, hpeer.symm⟩, fun hb ↦ h.bonded (hbond ▸ hb), ?_, ?_⟩
    · change service'.core.session.state ≠ .pendingP
      simp [hstate]
    · intro hwait
      change service'.core.session.state = .waitC at hwait
      simp [hstate] at hwait

/-- A pending handshake survives an expiry check only with its ticket. -/
theorem Bound.expire (h : Bound history service) (clock₁ clock₂ clock₃ : ℤ) :
    Bound history (service.expire pqResumeV11 clock₁ clock₂ clock₃) := by
  have hticket : service.core.ticket.Continues (service.checkTicket pqResumeV11 clock₁).core.ticket := by
    simp only [Service.checkTicket, pqResumeEligible_snd]
    exact Ticket.continues_checked _ _
  unfold Service.expire
  dsimp only
  split_ifs with hlost
  · exact .closed rfl (h.issued_of_continues hticket) h.bonded
  · refine ⟨h.issued_of_continues hticket, h.bonded, h.settled, ?_⟩
    intro hwait
    change service.core.session.state = .waitC at hwait
    have hvalid : (service.checkTicket pqResumeV11 clock₁).core.ticket.valid = true := by
      by_contra hno
      refine hlost ⟨?_, .inr hno⟩
      simp [Service.pending, Service.checkTicket, hwait]
    obtain ⟨-, hpeer, hid⟩ := hticket hvalid
    obtain ⟨-, check, haccepted, hlink, howner, hl4, hbonded, hcheckId, hcheckPeer⟩ := h.waiting hwait
    exact ⟨hvalid, check, haccepted, hlink, howner, hl4, hbonded, hcheckId.trans hid.symm,
      hcheckPeer.trans hpeer.symm⟩

/-- **Every call keeps the service bound to its history.** -/
theorem Bound.step (h : Bound history service) (call : ServiceCall) :
    let result := (serviceMachine pqResumeV11 crypto aead).step service call
    Bound (history.note service result.2 result.1 call) result.2 := by
  cases call with
  | connected conn bonded clock now =>
    have hticket : service.core.ticket.Continues
        (service.connected pqResumeV11 conn bonded clock now).core.ticket := by
      simp only [Service.connected, Service.checkTicket, Service.scheduleExpiry,
        pqResumeEligible_snd]
      exact Ticket.continues_checked _ _
    exact .closed rfl (h.issued_of_continues hticket) (fun hb ↦ hb)
  | disconnected conn now =>
    simp only [serviceMachine, Service.disconnected]
    split_ifs
    · exact .closed rfl h.issued h.bonded
    · exact ⟨h.issued, h.bonded, h.settled, h.waiting⟩
  | abort conn now =>
    simp only [serviceMachine, Service.abort]
    split_ifs
    · exact .closed rfl h.issued h.bonded
    · exact ⟨h.issued, h.bonded, h.settled, h.waiting⟩
  | bondChanged now => exact .closed rfl (fun hvalid ↦ by cases hvalid) (fun hb ↦ by cases hb)
  | expire clock₁ clock₂ clock₃ => exact h.expire clock₁ clock₂ clock₃
  | full faults keys view now => exact h.full
  | takeHybrid view =>
    simp only [serviceMachine, pqResumeServiceTakeHybrid]
    rw [if_neg (fun hv ↦ absurd hv.1 (by decide))]
    exact h
  | control conn wire input => exact h.control rfl

/-- The history describes the service after every run. -/
theorem bound_run (crypto : Crypto) (aead : Aead) (calls : List ServiceCall) :
    let run := (bindingRun crypto aead).run .boot calls
    Bound run.history run.service := by
  refine (bindingRun crypto aead).run_invariant (P := fun run ↦ Bound run.history run.service)
    ?_ ?_ calls
  · intro run call h
    exact h.step call
  · exact .closed rfl (fun hvalid ↦ nomatch hvalid) (fun hb ↦ nomatch hb)

end Invariant

/-! ## How a session becomes secure -/

section Binding

variable {crypto : Crypto}

/-- A committed FINISH_C of a bound service is a bound resumption. -/
theorem Bound.secured {before after : BindingRun} {conn : Conn} {wire : Bytes} {input : ControlInput}
    (h : Bound before.history before.service)
    (hcommit : FinishCommitted crypto before.service conn wire input after.service) :
    SecuredByResume crypto before (.control conn wire input) after := by
  obtain ⟨finish, middle, hfinished, hcommitted⟩ := hcommit.committed
  obtain ⟨hvalid, check, haccepted, hlink, howner, hl4, hbonded, hid, hpeer⟩ :=
    h.waiting hfinished.waiting
  obtain ⟨hissuedAt, hissuedId, hissuedPeer⟩ := h.issued hvalid
  obtain ⟨hfinishL4, hfinishBonded, hbond⟩ := protected_observe hcommit.owner hfinished.link
  obtain ⟨hcommitL4, hcommitBonded, -⟩ := protected_observe hcommit.owner hcommitted.link
  have hconn : check.conn = conn := Option.some.inj (howner.symm.trans hcommit.owner)
  have hentry := hfinished.eligible.peer_eq
  simp only [observe, peerIdentity_of_owner hcommit.owner] at hentry
  exact
    { write := ⟨conn, wire, input, check, rfl, hcommit, haccepted, ⟨hlink, hconn⟩, ⟨hl4, hbonded⟩,
        ⟨hfinishL4, hfinishBonded⟩, ⟨hcommitL4, hcommitBonded⟩, ⟨hid, hissuedId⟩,
        ⟨hpeer, hentry.symm, hissuedPeer⟩⟩
      bondAtConnect := h.bonded hbond
      unchanged := hissuedAt }

/-- A call that ends with a secure session kept it, ran a full handshake or committed a resumption. -/
theorem secure_step {aead : Aead} {service : Service} {call : ServiceCall}
    (hsecure : ((serviceMachine pqResumeV11 crypto aead).step service call).2.core.session.state =
      .secure) :
    (((serviceMachine pqResumeV11 crypto aead).step service call).2.core.session =
        service.core.session ∧ ∀ faults keys view now, call ≠ .full faults keys view now) ∨
      (∃ faults keys view now, call = .full faults keys view now ∧
        service.owner.isSome = true ∧ view.l4 = true ∧ view.bonded = true) ∨
      ∃ conn wire input, call = .control conn wire input ∧
        FinishCommitted crypto service conn wire input
          ((serviceMachine pqResumeV11 crypto aead).step service call).2 := by
  cases call with
  | connected conn bonded clock now => cases hsecure
  | disconnected conn now =>
    simp only [serviceMachine, Service.disconnected] at hsecure ⊢
    split_ifs at hsecure ⊢
    · cases hsecure
    · exact .inl ⟨rfl, fun _ _ _ _ ↦ by rintro ⟨⟩⟩
  | abort conn now =>
    simp only [serviceMachine, Service.abort] at hsecure ⊢
    split_ifs at hsecure ⊢
    · cases hsecure
    · exact .inl ⟨rfl, fun _ _ _ _ ↦ by rintro ⟨⟩⟩
  | bondChanged now => cases hsecure
  | expire clock₁ clock₂ clock₃ =>
    simp only [serviceMachine, Service.expire] at hsecure ⊢
    split_ifs at hsecure ⊢
    · cases hsecure
    · exact .inl ⟨rfl, fun _ _ _ _ ↦ by rintro ⟨⟩⟩
  | full faults keys view now =>
    simp only [serviceMachine, pqResumeServiceFull] at hsecure
    split at hsecure
    · rename_i service' hbody
      exact .inr (.inl ⟨faults, keys, view, now, rfl, (fullBody_core hbody).1⟩)
    · cases hsecure
  | takeHybrid view =>
    simp only [serviceMachine, pqResumeServiceTakeHybrid]
    rw [if_neg (fun hv ↦ absurd hv.1 (by decide))]
    exact .inl ⟨rfl, fun _ _ _ _ ↦ by rintro ⟨⟩⟩
  | control conn wire input =>
    obtain ⟨⟨answer, service'⟩, hresult⟩ : ∃ result,
        pqResumeServiceControl pqResumeV11 crypto aead service conn wire input = result := ⟨_, rfl⟩
    obtain ⟨-, -, hcore⟩ := control_core hresult
    simp only [serviceMachine, hresult] at hsecure ⊢
    cases hcore with
    | keep hsame => exact .inl ⟨congrArg Core.session hsame, fun _ _ _ _ ↦ by rintro ⟨⟩⟩
    | accept haccepted =>
      obtain ⟨np, accept, sid, nc, haccept⟩ := haccepted.accepted
      rw [haccept.session_eq] at hsecure
      cases hsecure
    | commit hcommitted => exact .inr (.inr ⟨conn, wire, input, rfl, hcommitted⟩)
    | close hsession hticket =>
      rw [hsession] at hsecure
      cases hsecure

/-- **Binding of the v1.1 session.**  After every run, a call that ends with a secure session either
kept the session it found, or was a full handshake on a bonded L4 link, or committed a resumption that
is bound to one connection, one ticket and one peer. -/
theorem secure_binding (crypto : Crypto) (aead : Aead) (calls : List ServiceCall)
    (call : ServiceCall) :
    let before := (bindingRun crypto aead).run .boot calls
    let after := ((bindingRun crypto aead).step before call).2
    after.service.core.session.state = .secure →
      (after.service.core.session = before.service.core.session ∧
          ∀ faults keys view now, call ≠ .full faults keys view now) ∨
        SecuredByFull before call ∨ SecuredByResume crypto before call after := by
  intro before after hsecure
  rcases secure_step hsecure with hkept | ⟨faults, keys, view, now, rfl, hfull⟩ |
    ⟨conn, wire, input, rfl, hcommit⟩
  · exact .inl hkept
  · exact .inr (.inl ⟨faults, keys, view, now, rfl, hfull⟩)
  · exact .inr (.inr ((bound_run crypto aead calls).secured hcommit))

/-- One honest v1.1 resumption up to the FINISH_C: a full handshake, a reconnection and an INIT. -/
def resumedCalls : List ServiceCall :=
  let peer : Block 7 := .ofBytes 7 [1, 2, 3, 4, 5, 6, 7]
  let link : LinkView := { l4 := true, subscribed := true, mtu := 247, uptime := 5 }
  let view : PeerView := { link with bonded := true, peer }
  let input : ControlInput :=
    { entry := view, attempt := view, send := { link with sent := true }, commit := view, now := 5
      random := some (.ofBytes 32 [3]) }
  let root : Block 32 := .zero 32
  let rid : Block 16 :=
    ((pqResumeId polynomialCrypto {} pqResumeV11 root (.zero 32)).getD (.zero 16))
  [.connected 1 true 0 0, .full {} ⟨root, .zero 32, .zero 32, .zero 32, .zero 16⟩ view 5,
    .disconnected 1 6, .connected 2 true 7 7,
    .control 2 (initFrame polynomialCrypto pqResumeV11 root rid (.ofBytes 16 [1]) (.ofBytes 32 [2]))
      input]

/-- The FINISH_C that follows. -/
def resumedFinish : ServiceCall :=
  let peer : Block 7 := .ofBytes 7 [1, 2, 3, 4, 5, 6, 7]
  let link : LinkView := { l4 := true, subscribed := true, mtu := 247, uptime := 5 }
  let view : PeerView := { link with bonded := true, peer }
  let root : Block 32 := .zero 32
  let rid : Block 16 :=
    ((pqResumeId polynomialCrypto {} pqResumeV11 root (.zero 32)).getD (.zero 16))
  .control 2
    (finishCFrame polynomialCrypto pqResumeV11 (resumeKeys polynomialCrypto pqResumeV11 root
      (transcriptBytes pqResumeV11 rid (.ofBytes 16 [1]) (.ofBytes 32 [2]) (.ofBytes 32 [3]))))
    { entry := view, attempt := view, send := { link with sent := true }, commit := view, now := 5
      random := none }

/-- The run before and after that FINISH_C. -/
def resumedBefore : BindingRun :=
  (bindingRun polynomialCrypto polynomialAead).run .boot resumedCalls

def resumedAfter : BindingRun :=
  ((bindingRun polynomialCrypto polynomialAead).step resumedBefore resumedFinish).2

/-- The honest resumption is bound. -/
theorem secure_binding_resumed :
    resumedBefore.service.core.session.state = .waitC ∧
      resumedAfter.service.core.session.state = .secure ∧
      SecuredByResume polynomialCrypto resumedBefore resumedFinish resumedAfter := by
  have hbefore : resumedBefore.service.core.session.state = .waitC := by decide +kernel
  have hafter : resumedAfter.service.core.session.state = .secure := by decide +kernel
  have hbinding := secure_binding polynomialCrypto polynomialAead resumedCalls resumedFinish
  dsimp only at hbinding
  rw [← resumedBefore, ← resumedAfter] at hbinding
  refine ⟨hbefore, hafter, ?_⟩
  rcases hbinding hafter with ⟨hkept, -⟩ | hfull | hresumed
  · have hstate := hafter.symm.trans (congrArg Session.state hkept)
    rw [hbefore] at hstate
    cases hstate
  · obtain ⟨faults, keys, view, now, hcall, -⟩ := hfull.full
    cases hcall
  · exact hresumed

end Binding

end PqBleHandshake.Resumption
