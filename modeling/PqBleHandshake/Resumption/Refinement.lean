import PqBleHandshake.Resumption.Clocks

/-!
# The firmware core against the Python Peripheral

`resumption.py` says of its Peripheral model that it also specifies the firmware state machine.  Here
the two machines answer the same operations on corresponding tickets and sessions, with the same
nonces, the same observations of the link and the same clock.  They agree on every `disconnect`, and on
an `init` unless the two clocks differ about the ticket.  They part further where the code checks
something at the later steps that the model does not: the firmware parses FINISH_C before it looks at the
ticket and compares the peer again, and its commit repeats the link check and the ticket check, of which
the model's commit has neither.
-/

namespace PqBleHandshake.Resumption

open Foundation

/-- What both Peripherals observe of the link and the clock during one operation. -/
structure Link where
  peer : Block 7
  l4 : Bool
  bonded : Bool
  now : ℤ

/-- The observation of the firmware, which passes its own profile to every call. -/
abbrev Link.observe (link : Link) (profile : UInt8) : Observation :=
  { profile, peer := link.peer, l4 := link.l4, bonded := link.bonded, now := link.now }

@[simp]
theorem Link.observe_profile (link : Link) (profile : UInt8) :
    (link.observe profile).profile = profile := rfl

@[simp]
theorem Link.observe_now (link : Link) (profile : UInt8) :
    (link.observe profile).now = link.now := rfl

@[simp]
theorem Link.observe_peer (link : Link) (profile : UInt8) :
    (link.observe profile).peer = link.peer := rfl

/-- An operation on either Peripheral. -/
inductive Operation
  | init (link : Link) (raw : Bytes) (np : Block 32)
  | finish (link : Link) (raw : Bytes)
  | commit (link : Link)
  | disconnect

/-- What is compared of an answer: refusal, or the bytes to send. -/
def Answer.outcome (answer : Answer) : Option Bytes :=
  if answer.reason = .ok then some answer.wire else none

/-- The same for the Python methods. -/
def outcomeOf : Except Reason Bytes → Option Bytes
  | .ok wire => some wire
  | .error _ => none

/-- The firmware core of one profile, without platform failures. -/
def firmware (crypto : Crypto) (profile : UInt8) : Machine Core Operation (Option Bytes) where
  step core operation :=
    let (answer, core') := (peripheral crypto).step core <| match operation with
      | .init link raw np => .accept {} (link.observe profile) raw np
      | .finish link raw => .finish {} (link.observe profile) raw
      | .commit link => .commit (link.observe profile)
      | .disconnect => .disconnect
    (answer.outcome, core')

/-- The Python Peripheral. -/
def specification (crypto : Crypto) :
    Machine Python.PeripheralResume Operation (Option Bytes) where
  step model operation :=
    let (answer, model') := match operation with
      | .init link raw np => model.init crypto raw link.peer link.l4 link.bonded (seconds link.now) np
      | .finish link raw => model.finish crypto raw link.l4 link.bonded (seconds link.now)
      | .commit link => model.commit (seconds link.now)
      | .disconnect => (.ok [], model.disconnect)
    (outcomeOf answer, model')

/-! ## Corresponding states -/

/-- Corresponding tickets: equally valid, with the same replay entries, and while valid with the
same identity, lifetime and use count. -/
structure TicketsMatch (ticket : Ticket) (model : Python.Ticket) : Prop where
  valid_eq : ticket.valid = model.valid
  replay_eq : ticket.replay.map (fun entry ↦ (entry.nonce, entry.sid)) = model.replay
  fields_eq : ticket.valid = true →
    ticket.profile = model.profile ∧ ticket.peer = model.peer ∧ ticket.id.bytes = model.rid ∧
      ticket.root = model.root ∧ seconds ticket.createdMs = model.createdAt ∧
      ticket.successes = model.successfulResumes

/-- The firmware ticket against the model's optional one: no ticket is an empty invalid one. -/
def TicketMatches (ticket : Ticket) : Option Python.Ticket → Prop
  | none => ticket.valid = false ∧ ticket.replay = []
  | some model => TicketsMatch ticket model

/-- The model's name of a session state. -/
def SessionState.toModel : SessionState → Python.PeripheralState
  | .idle => .idle
  | .waitC => .waitFinishC
  | .pendingP => .pendingSend
  | .secure => .appSecure

/-- A session in progress against the model's attributes. -/
structure SessionsMatch (profile : UInt8) (session : Session) (model : Python.PeripheralResume) :
    Prop where
  state_eq : session.state.toModel = model.state
  has_ticket : model.ticket ≠ none
  keys_eq : model.keys = some { session.keys with profile }
  sid_eq : session.sid.bytes = model.sessionId
  deadline_eq : session.modelDeadline = model.deadline

/-- Corresponding states of the firmware core and the Python Peripheral. -/
structure Corresponds (profile : UInt8) (core : Core) (model : Python.PeripheralResume) : Prop where
  profile_eq : model.profile = profile
  ticket : TicketMatches core.ticket model.ticket
  session : (core.session = Session.zero ∧ model.state = .idle ∧ model.keys = none ∧
      model.sessionId = [] ∧ model.deadline = 0) ∨
    (core.session.state ≠ .idle ∧ SessionsMatch profile core.session model)

/-! ## The ticket checks agree -/

theorem TicketsMatch.clear (ticket : Ticket) (model : Python.Ticket) :
    TicketsMatch (pqResumeInvalidate ticket) model.clear where
  valid_eq := rfl
  replay_eq := rfl
  fields_eq h := by cases h

/-- On corresponding tickets `Ticket.check` passes exactly where the clock of the model finds the firmware
ticket eligible, and otherwise leaves a ticket corresponding to what it leaves of the firmware's. -/
theorem TicketsMatch.check {ticket : Ticket} {model : Python.Ticket} (h : TicketsMatch ticket model)
    (seen : Observation) {peer : Block 7} (hpeer : ticket.valid = true → peer = seen.peer) :
    (EligibleInModel ticket seen ∧ model.check seen.profile peer (seconds seen.now) = .ok ()) ∨
      ∃ reason model', ¬EligibleInModel ticket seen ∧
        model.check seen.profile peer (seconds seen.now) = .error (reason, model') ∧
        TicketsMatch (ticket.checkedInModel seen.now) model' := by
  unfold Python.Ticket.check Ticket.checkedInModel
  by_cases hvalid : ticket.valid = true
  swap
  · have hmodel : model.valid = false := by
      rw [← h.valid_eq]
      simpa using hvalid
    rw [if_pos hmodel, if_neg fun hwiped ↦ hvalid hwiped.1]
    exact .inr ⟨_, _, fun helig ↦ hvalid helig.valid, rfl, h⟩
  obtain ⟨hprofile, hbound, -, -, hcreated, huses⟩ := h.fields_eq hvalid
  rw [if_neg (by simp [← h.valid_eq, hvalid]), hpeer hvalid, ← hprofile, ← hbound, ← hcreated, ← huses]
  by_cases hlife : ticket.UnexpiredInModel seen.now
  swap
  · have hage : seconds seen.now < seconds ticket.createdMs ∨
        Python.ttl ≤ roundDouble (seconds seen.now - seconds ticket.createdMs) := by
      rw [Ticket.UnexpiredInModel, not_and_or, not_le, not_lt] at hlife
      exact hlife
    rw [if_pos hage, if_pos ⟨hvalid, fun hboth ↦ hlife hboth.1⟩]
    exact .inr ⟨_, _, fun helig ↦ hlife helig.unexpired, rfl, .clear ticket model⟩
  rw [if_neg (not_or.mpr ⟨not_lt.mpr hlife.1, not_le.mpr hlife.2⟩)]
  by_cases hmaxed : Python.maxResumes ≤ ticket.successes
  · rw [if_pos hmaxed, if_pos ⟨hvalid, fun hboth ↦ absurd hboth.2 (not_lt.mpr hmaxed)⟩]
    exact .inr ⟨_, _, fun helig ↦ absurd helig.unused (not_lt.mpr hmaxed), rfl, .clear ticket model⟩
  have hstays : ¬(ticket.valid = true ∧
      ¬(ticket.UnexpiredInModel seen.now ∧ ticket.successes < pqResumeMaxUses)) :=
    fun hwiped ↦ hwiped.2 ⟨hlife, not_le.mp hmaxed⟩
  rw [if_neg hmaxed, if_neg hstays]
  by_cases hother : ticket.profile ≠ seen.profile ∨ ticket.peer ≠ seen.peer
  · rw [if_pos hother]
    refine .inr ⟨_, _, fun helig ↦ ?_, rfl, h⟩
    exact hother.elim (fun hne ↦ hne helig.profile_eq) (fun hne ↦ hne helig.peer_eq)
  · rw [if_neg hother]
    rw [not_or, not_not, not_not] at hother
    exact .inl ⟨⟨hvalid, hlife, not_le.mp hmaxed, hother.1, hother.2⟩, rfl⟩

/-! ## Where the operations agree -/

/-- A frame that parses as FINISH_C. -/
def IsFinishC (profile : UInt8) (raw : Bytes) : Prop :=
  (pqResumeParse profile raw).map Prod.fst = some subtypeFinishC

/-- A FINISH_C with the right tag. -/
def Confirms (crypto : Crypto) (profile : UInt8) (core : Core) (raw : Bytes) : Prop :=
  pqResumeParse profile raw = some (subtypeFinishC, (finishTag crypto profile true core.session.keys).bytes)

instance (profile : UInt8) (raw : Bytes) : Decidable (IsFinishC profile raw) :=
  inferInstanceAs (Decidable (_ = _))

instance (crypto : Crypto) (profile : UInt8) (core : Core) (raw : Bytes) :
    Decidable (Confirms crypto profile core raw) :=
  inferInstanceAs (Decidable (_ = _))

/-- The link as the ticket's own peer would make it. -/
def Link.own (link : Link) (profile : UInt8) (ticket : Ticket) : Observation :=
  { link.observe profile with peer := ticket.peer }

/-- When an `init` is answered alike: if it gets as far as the ticket check, then the two clocks leave the
same ticket. -/
def InitAgrees (profile : UInt8) (core : Core) (link : Link) (raw : Bytes) : Prop :=
  core.session.state = .idle → (link.observe profile).Protected →
    (pqResumeParse profile raw).map Prod.fst = some subtypeInit →
      core.ticket.checked link.now = core.ticket.checkedInModel link.now

/-- When a `finish` in the waiting state is answered alike. -/
structure FinishMeets (crypto : Crypto) (profile : UInt8) (core : Core) (link : Link) (raw : Bytes) :
    Prop where
  /-- A frame that is no FINISH_C must not find a ticket that the model's check would wipe, the two clocks
  must leave a FINISH_C the same ticket, and the right tag on an otherwise eligible ticket must come from
  the ticket's peer. -/
  in_time : core.session.InTime link.now → core.session.InTimeInModel link.now →
    (¬IsFinishC profile raw → core.ticket.checkedInModel link.now = core.ticket) ∧
      (IsFinishC profile raw →
        core.ticket.checked link.now = core.ticket.checkedInModel link.now) ∧
      (Confirms crypto profile core raw → Eligible core.ticket (link.own profile core.ticket) →
        core.ticket.peer = link.peer)
  /-- Past the model's deadline alone the firmware must neither wipe the ticket nor accept. -/
  firmware_only : core.session.InTime link.now → ¬core.session.InTimeInModel link.now →
    (IsFinishC profile raw → core.ticket.checked link.now = core.ticket) ∧
      (Confirms crypto profile core raw → ¬Eligible core.ticket (link.observe profile))
  /-- Past the firmware's deadline alone the model must neither wipe the ticket nor accept. -/
  model_only : ¬core.session.InTime link.now → core.session.InTimeInModel link.now →
    core.ticket.checkedInModel link.now = core.ticket ∧
      (Confirms crypto profile core raw → ¬EligibleInModel core.ticket (link.own profile core.ticket))

/-- When a `finish` is answered alike: unless the link check or the state already refuses it, it meets its
conditions on the frame, the ticket, the peer and the clocks. -/
def FinishAgrees (crypto : Crypto) (profile : UInt8) (core : Core) (link : Link) (raw : Bytes) :
    Prop :=
  (link.observe profile).Protected → core.session.state = .waitC →
    FinishMeets crypto profile core link raw

/-- When a `commit` in the pending state is answered alike. -/
structure CommitMeets (profile : UInt8) (core : Core) (link : Link) : Prop where
  /-- A commit before the model's deadline is before the firmware's, on a link that is still protected, and
  finds the ticket still eligible for the peer. -/
  in_time : core.session.InTimeInModel link.now →
    core.session.InTime link.now ∧ (link.observe profile).Protected ∧
      Eligible core.ticket (link.observe profile)
  /-- Past the model's deadline alone the firmware must neither wipe the ticket nor commit. -/
  firmware_only : ¬core.session.InTimeInModel link.now → core.session.InTime link.now →
    (link.observe profile).Protected →
      core.ticket.checked link.now = core.ticket ∧ ¬Eligible core.ticket (link.observe profile)

/-- When a `commit` is answered alike. -/
def CommitAgrees (profile : UInt8) (core : Core) (link : Link) : Prop :=
  core.session.state = .pendingP → CommitMeets profile core link

/-- The condition on an operation under which the two Peripherals answer it alike. -/
def Agrees (crypto : Crypto) (profile : UInt8) (core : Core) : Operation → Prop
  | .init link raw _ => InitAgrees profile core link raw
  | .finish link raw => FinishAgrees crypto profile core link raw
  | .commit link => CommitAgrees profile core link
  | .disconnect => True

/-! ## One operation -/

/-- Two answers that agree: the same outcome, and corresponding states afterwards. -/
def Agree (profile : UInt8) (result : Answer × Core)
    (result' : Except Reason Bytes × Python.PeripheralResume) : Prop :=
  result.1.outcome = outcomeOf result'.1 ∧ Corresponds profile result.2 result'.2

variable {crypto : Crypto} {profile : UInt8} {core : Core} {model : Python.PeripheralResume}

/-- Two refusals agree as soon as the tickets they leave correspond. -/
theorem agree_rejected {size : ℕ} {reason reason' : Reason} {ticket : Ticket}
    {model' : Python.PeripheralResume} (hreason : reason ≠ .ok) (hprofile : model'.profile = profile)
    (hticket : TicketMatches ticket model'.ticket) :
    Agree profile (leave core size (.error (reason, ticket)))
      (Python.PeripheralResume.guarded (.error (reason', model'))) := by
  refine ⟨?_, hprofile, hticket, .inl ⟨rfl, rfl, rfl, rfl, rfl⟩⟩
  simp [leave, Python.PeripheralResume.guarded, Answer.outcome, outcomeOf, hreason]

theorem Corresponds.state_eq (h : Corresponds profile core model) :
    core.session.state.toModel = model.state := by
  rcases h.session with ⟨hzero, hidle, -⟩ | ⟨-, hmatch⟩
  · rw [hzero, hidle]
    rfl
  · exact hmatch.state_eq

theorem Corresponds.idle_iff (h : Corresponds profile core model) :
    model.state = .idle ↔ core.session.state = .idle := by
  rw [← h.state_eq]
  cases core.session.state <;> simp [SessionState.toModel]

/-- Remembering one INIT keeps the replay lists equal. -/
theorem TicketsMatch.remember {ticket : Ticket} {model : Python.Ticket}
    (h : TicketsMatch ticket model) (nc : Block 32) (sid : Block 16) :
    TicketsMatch { ticket with replay := ticket.replay ++ [⟨nc, sid⟩] }
      { model with replay := model.replay ++ [(nc, sid)] } where
  valid_eq := h.valid_eq
  replay_eq := by simp [← h.replay_eq]
  fields_eq := h.fields_eq

theorem authentication_init_ok (h : KnownProfile profile) (root : Block 32) (rid sid : Block 16)
    (nc np tag : Block 32) :
    authentication crypto {} profile root false
        (.slice (rid.bytes ++ (sid.bytes ++ (nc.bytes ++ tag.bytes))) 0 64) np =
      some (crypto.mac root (initMessage profile rid sid nc)) := by
  obtain ⟨mac, hmac⟩ := authentication_ok crypto h root false
    (.slice (rid.bytes ++ (sid.bytes ++ (nc.bytes ++ tag.bytes))) 0 64) np
  rw [hmac, authentication_init_eq_some h (initPayload_context rid sid nc tag) hmac]

theorem authentication_accept_ok (h : KnownProfile profile) (root : Block 32) (rid sid : Block 16)
    (nc np tag : Block 32) :
    authentication crypto {} profile root true
        (.slice (rid.bytes ++ (sid.bytes ++ (nc.bytes ++ tag.bytes))) 0 64) np =
      some (crypto.mac root (acceptMessage profile rid sid nc np)) := by
  obtain ⟨mac, hmac⟩ := authentication_ok crypto h root true
    (.slice (rid.bytes ++ (sid.bytes ++ (nc.bytes ++ tag.bytes))) 0 64) np
  rw [hmac, authentication_accept_eq_some h (initPayload_context rid sid nc tag) hmac]

/-- A frame that parses carries the profile it was parsed for. -/
theorem version_of_parse {raw payload : Bytes} {subtype : UInt8}
    (h : pqResumeParse profile raw = some (subtype, payload)) :
    ¬(5 ≤ raw.length ∧ raw.getD 4 0 ≠ profile) := by
  obtain ⟨-, -, rfl⟩ := pqResumeParse_eq_some_iff.mp h
  rintro ⟨-, hne⟩
  exact hne rfl

/-- An INIT that gets as far as the ticket check fails as the check fails. -/
theorem acceptBody_refused {seen : Observation} {raw payload : Bytes} {np : Block 32}
    {failure : Reason × Ticket} (hidle : core.session.state = .idle) (hlink : seen.Protected)
    (hwire : pqResumeParse seen.profile raw = some (subtypeInit, payload))
    (hcheck : requireEligible core.ticket seen = .error failure) :
    acceptBody crypto {} core seen raw np = .error failure := by
  unfold acceptBody
  rw [require_bind_of hidle, require_bind_of hlink, require_bind_of (version_of_parse hwire), hwire,
    orFail_some_bind]
  dsimp only
  rw [require_bind_of rfl, error_bind hcheck]

/-- An INIT that gets as far as the ticket check leaves a ticket as valid as the check leaves it. -/
theorem accept_valid (crypto : Crypto) {link : Link} {raw payload : Bytes} (np : Block 32)
    (hidle : core.session.state = .idle) (hlink : (link.observe profile).Protected)
    (hwire : pqResumeParse profile raw = some (subtypeInit, payload)) :
    (pqResumeAccept crypto {} core (link.observe profile) raw np).2.ticket.valid =
      (core.ticket.checked link.now).valid := by
  cases hcheck : requireEligible core.ticket (link.observe profile) with
  | error failure =>
    rw [pqResumeAccept, acceptBody_refused hidle hlink hwire hcheck]
    exact congrArg Ticket.valid (requireEligible_eq_error hcheck).2
  | ok value =>
    have hself := (requireEligible_eq_ok_iff.mp hcheck).checked_eq
    rw [Link.observe_now] at hself
    rw [hself]
    rcases pqResumeAccept_cases (Prod.eta _).symm with
      ⟨-, sid, nc, haccepted⟩ | ⟨-, hticket | hticket | ⟨entry, -, -, -, -, hticket⟩⟩
    · rw [haccepted.ticket_eq, Ticket.remember]
    · rw [hticket]
    · rw [hticket, Link.observe_now, hself]
    · rw [hticket, Ticket.remember]

/-- The same of the model, by its clock. -/
theorem Corresponds.init_valid (h : Corresponds profile core model) (crypto : Crypto) {link : Link}
    {raw payload : Bytes} (np : Block 32) {t : Python.Ticket} (ht : model.ticket = some t)
    (hidle : core.session.state = .idle) (hlink : (link.observe profile).Protected)
    (hwire : pqResumeParse profile raw = some (subtypeInit, payload)) :
    ∃ t', (model.init crypto raw link.peer link.l4 link.bonded (seconds link.now) np).2.ticket =
        some t' ∧ t'.valid = (core.ticket.checkedInModel link.now).valid := by
  obtain rfl := h.profile_eq
  have hticket := h.ticket
  rw [ht] at hticket
  rcases TicketsMatch.check hticket (link.observe model.profile) (fun _ ↦ rfl) with
    ⟨helig, hcheck⟩ | ⟨reason, t', -, hcheck, hleft⟩
  · have hself := helig.checked_eq
    rw [Link.observe_now] at hself
    rw [hself, (show TicketsMatch core.ticket t from hticket).valid_eq]
    have hends := Python.PeripheralResume.initBody_ends crypto raw link.l4 link.bonded np ht
      hcheck
    rw [Python.PeripheralResume.init]
    cases hbody : Python.PeripheralResume.initBody crypto model raw link.peer link.l4 link.bonded
        (seconds link.now) np with
    | ok result =>
      rw [hbody] at hends
      obtain ⟨replay, hreplay⟩ := hends
      exact ⟨_, hreplay, rfl⟩
    | error failure =>
      rw [hbody] at hends
      obtain ⟨replay, hreplay⟩ := hends
      exact ⟨_, hreplay, rfl⟩
  · refine ⟨t', ?_, hleft.valid_eq.symm⟩
    have hlink' : model.profile = pqResumeV11 → link.l4 = true ∧ link.bonded = true := hlink
    unfold Python.PeripheralResume.init Python.PeripheralResume.initBody
    rw [require_bind_of (h.idle_iff.mpr hidle), parse_eq_ok_iff.mpr hwire,
      Python.PeripheralResume.lift_ok_bind, require_bind_of hlink', ht, orFail_some_bind]
    dsimp only [Link.observe_profile, Link.observe_now, Link.observe_peer] at hcheck
    rw [hcheck]
    rfl

/-- An INIT that does not get as far as the ticket check is refused by both. -/
theorem agree_init_refused (h : Corresponds profile core model) (link : Link) (raw : Bytes) (np : Block 32)
    (hrefused : core.session.state = .idle → (link.observe profile).Protected →
      ∀ payload, pqResumeParse profile raw ≠ some (subtypeInit, payload)) :
    Agree profile (pqResumeAccept crypto {} core (link.observe profile) raw np)
      (model.init crypto raw link.peer link.l4 link.bonded (seconds link.now) np) := by
  obtain rfl := h.profile_eq
  unfold pqResumeAccept Python.PeripheralResume.init acceptBody Python.PeripheralResume.initBody
  dsimp only [Link.observe_profile, Link.observe_now]
  by_cases hidle : core.session.state = .idle
  swap
  · rw [require_bind_of_not hidle, require_bind_of_not (h.idle_iff.not.mpr hidle)]
    exact agree_rejected (by decide) rfl h.ticket
  rw [require_bind_of hidle, require_bind_of (h.idle_iff.mpr hidle)]
  by_cases hlink : (link.observe model.profile).Protected
  swap
  · rw [require_bind_of_not hlink]
    cases hparse : parse raw model.profile subtypeInit with
    | error reason => exact agree_rejected (by decide) rfl h.ticket
    | ok payload =>
      have hlink' : ¬(model.profile = pqResumeV11 → link.l4 = true ∧ link.bonded = true) := hlink
      rw [Python.PeripheralResume.lift_ok_bind, require_bind_of_not hlink']
      exact agree_rejected (by decide) rfl h.ticket
  rw [require_bind_of hlink]
  have hunparsed := hrefused hidle hlink
  cases hparse : parse raw model.profile subtypeInit with
  | ok payload => exact absurd (parse_eq_ok_iff.mp hparse) (hunparsed payload)
  | error reason =>
    by_cases hversion : ¬(5 ≤ raw.length ∧ raw.getD 4 0 ≠ model.profile)
    swap
    · rw [require_bind_of_not hversion]
      exact agree_rejected (by decide) rfl h.ticket
    rw [require_bind_of hversion]
    cases hwire : pqResumeParse model.profile raw with
    | none => exact agree_rejected (by decide) rfl h.ticket
    | some result =>
      obtain ⟨subtype, payload⟩ := result
      have hsubtype : ¬subtype = subtypeInit := by
        rintro rfl
        exact hunparsed payload hwire
      rw [orFail_some_bind, require_bind_of_not hsubtype]
      exact agree_rejected (by decide) rfl h.ticket

/-- An INIT on a ticket that is not eligible is refused by both, and wiped by both. -/
theorem agree_init_ineligible (h : Corresponds profile core model) (link : Link) {raw payload : Bytes}
    (np : Block 32) (hidle : core.session.state = .idle) (hlink : (link.observe profile).Protected)
    (hwire : pqResumeParse profile raw = some (subtypeInit, payload))
    (hleaves : core.ticket.checked link.now = core.ticket.checkedInModel link.now)
    (hineligible : ¬Eligible core.ticket (link.observe profile)) :
    Agree profile (pqResumeAccept crypto {} core (link.observe profile) raw np)
      (model.init crypto raw link.peer link.l4 link.bonded (seconds link.now) np) := by
  obtain rfl := h.profile_eq
  have hlink' : model.profile = pqResumeV11 → link.l4 = true ∧ link.bonded = true := hlink
  have hticket := h.ticket
  cases hcheck : requireEligible core.ticket (link.observe model.profile) with
  | ok value => exact absurd (requireEligible_eq_ok_iff.mp hcheck) hineligible
  | error failure =>
    obtain ⟨reason, ticket'⟩ := failure
    obtain ⟨hne, rfl⟩ := requireEligible_eq_error hcheck
    rw [pqResumeAccept, acceptBody_refused hidle hlink hwire hcheck]
    unfold Python.PeripheralResume.init Python.PeripheralResume.initBody
    rw [require_bind_of (h.idle_iff.mpr hidle), parse_eq_ok_iff.mpr hwire,
      Python.PeripheralResume.lift_ok_bind, require_bind_of hlink']
    cases hoption : model.ticket with
    | none =>
      rw [hoption] at hticket
      have hkept : core.ticket.checked link.now = core.ticket := by
        simp [Ticket.checked, hticket.1]
      rw [orFail_none_bind]
      refine agree_rejected hne rfl ?_
      change TicketMatches (core.ticket.checked link.now) model.ticket
      rw [hkept]
      exact h.ticket
    | some t =>
      rw [hoption] at hticket
      rw [orFail_some_bind]
      rcases TicketsMatch.check hticket (link.observe model.profile) (fun _ ↦ rfl) with
        ⟨hmodel, -⟩ | ⟨reason', t', -, hcheck', hleft⟩
      · exact absurd ((eligible_iff_inModel hleaves).mpr hmodel) hineligible
      · dsimp only [Link.observe_profile, Link.observe_now, Link.observe_peer] at hcheck'
        rw [hcheck', Python.PeripheralResume.raising_error_bind]
        refine agree_rejected hne rfl ?_
        change TicketsMatch (core.ticket.checked link.now) t'
        rw [hleaves]
        exact hleft

/-- Both look up the same pairs. -/
theorem TicketsMatch.replay_iff {ticket : Ticket} {t : Python.Ticket} (h : TicketsMatch ticket t) (nc : Block 32)
    (sid : Block 16) : (∀ old ∈ t.replay, ¬(nc = old.1 ∨ sid = old.2)) ↔
      ∀ old ∈ ticket.replay, old.nonce ≠ nc ∧ old.sid ≠ sid := by
  rw [← h.replay_eq, List.forall_mem_map]
  exact forall₂_congr fun old _ ↦ by rw [not_or, eq_comm, eq_comm (a := sid)]

/-- Both have room for the same number of pairs. -/
theorem TicketsMatch.room_iff {ticket : Ticket} {t : Python.Ticket} (h : TicketsMatch ticket t) :
    t.replay.length < Python.replayCapacity ↔ ticket.replay.length < pqResumeReplayCapacity := by
  rw [← h.replay_eq, List.length_map]
  rfl

/-- An INIT on a ticket that is eligible for both is answered alike. -/
theorem agree_init_eligible (h : Corresponds profile core model) (link : Link) {raw payload : Bytes}
    (np : Block 32) (hidle : core.session.state = .idle) (hlink : (link.observe profile).Protected)
    (hwire : pqResumeParse profile raw = some (subtypeInit, payload))
    (hleaves : core.ticket.checked link.now = core.ticket.checkedInModel link.now)
    (heligible : Eligible core.ticket (link.observe profile)) :
    Agree profile (pqResumeAccept crypto {} core (link.observe profile) raw np)
      (model.init crypto raw link.peer link.l4 link.bonded (seconds link.now) np) := by
  obtain rfl := h.profile_eq
  have hlink' : model.profile = pqResumeV11 → link.l4 = true ∧ link.bonded = true := hlink
  have hversion := version_of_parse hwire
  have hparse := parse_eq_ok_iff.mpr hwire
  have hticket := h.ticket
  unfold pqResumeAccept Python.PeripheralResume.init acceptBody Python.PeripheralResume.initBody
  dsimp only [Link.observe_profile, Link.observe_now]
  rw [require_bind_of hidle, require_bind_of (h.idle_iff.mpr hidle), require_bind_of hlink,
    require_bind_of hversion, hwire, hparse, orFail_some_bind, Python.PeripheralResume.lift_ok_bind,
    require_bind_of hlink']
  dsimp only
  rw [require_bind_of rfl, ok_bind (requireEligible_of heligible)]
  obtain ⟨hknown, hsize, rfl⟩ := pqResumeParse_eq_some_iff.mp hwire
  cases hoption : model.ticket with
  | none =>
    rw [hoption] at hticket
    exact absurd (hticket.1.symm.trans heligible.valid) Bool.false_ne_true
  | some t =>
    rw [hoption] at hticket
    change TicketsMatch core.ticket t at hticket
    rw [orFail_some_bind]
    rcases hticket.check (link.observe model.profile) (fun _ ↦ rfl) with
      ⟨-, hcheck⟩ | ⟨-, -, hmodel, -⟩
    swap
    · exact absurd ((eligible_iff_inModel hleaves).mp heligible) hmodel
    dsimp only [Link.observe_profile, Link.observe_now, Link.observe_peer] at hcheck
    rw [hcheck, Python.PeripheralResume.raising_ok_bind]
    obtain ⟨rid, sid, nc, tag, rfl⟩ := exists_initPayload (Option.some.inj hsize).symm
    obtain ⟨hrid, hsid, hnc, htag⟩ := initPayload_fields rid sid nc tag
    obtain ⟨-, -, hid, hroot, -, -⟩ := hticket.fields_eq heligible.valid
    have hfront : List.take 16 (rid.bytes ++ (sid.bytes ++ (nc.bytes ++ tag.bytes))) =
        rid.bytes := List.take_left' rid.length_bytes
    have hback : List.drop 64 (rid.bytes ++ (sid.bytes ++ (nc.bytes ++ tag.bytes))) =
        tag.bytes := by
      have hlength : (rid.bytes ++ (sid.bytes ++ nc.bytes)).length = 64 := by simp
      simpa using List.drop_left' hlength
    rw [hrid, hsid, hnc, htag, hfront, hback, ← hroot,
      authentication_init_ok hknown, orFail_some_bind, authInit_eq hknown,
      Python.PeripheralResume.lift_ok_bind]
    by_cases hauth : core.ticket.id = rid ∧
        crypto.mac core.ticket.root (initMessage model.profile rid sid nc) = tag
    swap
    · have hauth' : ¬(rid.bytes = t.rid ∧ tag.bytes =
          (crypto.mac core.ticket.root (initMessage model.profile rid sid nc)).bytes) := by
        rw [← hid, Block.bytes_inj, Block.bytes_inj]
        exact fun h ↦ hauth ⟨h.1.symm, h.2.symm⟩
      rw [require_bind_of_not hauth, require_bind_of_not hauth']
      exact agree_rejected (by decide) rfl h.ticket
    have hauth' : rid.bytes = t.rid ∧ tag.bytes =
        (crypto.mac core.ticket.root (initMessage model.profile rid sid nc)).bytes := by
      rw [← hid, hauth.1, hauth.2]
      exact ⟨rfl, rfl⟩
    rw [require_bind_of hauth, require_bind_of hauth']
    by_cases hfresh : ∀ old ∈ core.ticket.replay, old.nonce ≠ nc ∧ old.sid ≠ sid
    swap
    · rw [require_bind_of_not hfresh, require_bind_of_not ((hticket.replay_iff nc sid).not.mpr hfresh)]
      exact agree_rejected (by decide) rfl h.ticket
    rw [require_bind_of hfresh, require_bind_of ((hticket.replay_iff nc sid).mpr hfresh)]
    by_cases hfull : core.ticket.replay.length < pqResumeReplayCapacity
    swap
    · rw [require_bind_of_not hfull, require_bind_of_not (hticket.room_iff.not.mpr hfull)]
      exact agree_rejected (by decide) rfl h.ticket
    rw [require_bind_of hfull, require_bind_of (hticket.room_iff.mpr hfull), pqResumeDerive_ok hknown,
      orFail_some_bind, authentication_accept_ok hknown, orFail_some_bind,
      pqResumeEncode_eq_some hknown (by simp; rfl) (by simp), orFail_some_bind,
      sessionKeys_eq hknown, Python.PeripheralResume.lift_ok_bind, authAccept_eq hknown,
      Python.PeripheralResume.lift_ok_bind, encode_eq_ok hknown (by simp; rfl),
      Python.PeripheralResume.lift_ok_bind]
    have hremember := hticket.remember nc sid
    rw [← hroot] at hremember
    refine ⟨rfl, rfl, hremember, .inr ⟨SessionState.noConfusion, ?_⟩⟩
    refine ⟨rfl, Option.some_ne_none _, rfl, rfl, ?_⟩
    change roundDouble (seconds (link.now + 30000 - 30000) + 30) = roundDouble (seconds link.now + 30)
    rw [add_sub_cancel_right]

/-- **The two Peripherals agree on an INIT** on whose ticket their clocks agree. -/
theorem init_agrees (h : Corresponds profile core model) (link : Link) (raw : Bytes)
    (np : Block 32) (hclock : InitAgrees profile core link raw) :
    Agree profile (pqResumeAccept crypto {} core (link.observe profile) raw np)
      (model.init crypto raw link.peer link.l4 link.bonded (seconds link.now) np) := by
  by_cases hreached : core.session.state = .idle ∧ (link.observe profile).Protected ∧
      ∃ payload, pqResumeParse profile raw = some (subtypeInit, payload)
  · obtain ⟨hidle, hlink, payload, hwire⟩ := hreached
    have hleaves := hclock hidle hlink (by rw [hwire]; rfl)
    by_cases heligible : Eligible core.ticket (link.observe profile)
    · exact agree_init_eligible h link np hidle hlink hwire hleaves heligible
    · exact agree_init_ineligible h link np hidle hlink hwire hleaves heligible
  · exact agree_init_refused h link raw np fun hidle hlink payload hwire ↦
      hreached ⟨hidle, hlink, payload, hwire⟩

/-- **`init` agrees exactly under its condition.** -/
theorem init_agrees_iff (h : Corresponds profile core model) (link : Link) (raw : Bytes)
    (np : Block 32) :
    Agree profile (pqResumeAccept crypto {} core (link.observe profile) raw np)
        (model.init crypto raw link.peer link.l4 link.bonded (seconds link.now) np) ↔
      InitAgrees profile core link raw := by
  constructor
  · intro hagree hidle hlink hinit
    obtain ⟨⟨subtype, payload⟩, hwire, rfl⟩ := Option.map_eq_some_iff.mp hinit
    rw [Ticket.leaves_checked.eq_iff Ticket.leaves_checkedInModel]
    have hvalid := accept_valid crypto np hidle hlink hwire
    have hmatch := hagree.2.ticket
    have hticket := h.ticket
    cases ht : model.ticket with
    | none =>
      rw [ht] at hticket
      rw [Ticket.checked, Ticket.checkedInModel, if_neg (by simp [hticket.1]), if_neg (by simp [hticket.1])]
    | some t =>
      obtain ⟨t', ht', hvalid'⟩ := h.init_valid crypto np ht hidle hlink hwire
      rw [ht'] at hmatch
      rw [← hvalid, ← hvalid']
      exact (show TicketsMatch _ t' from hmatch).valid_eq
  · exact init_agrees h link raw np

/-! ## FINISH_C and the commit -/

theorem Eligible.toOwnPeer {ticket : Ticket} {link : Link}
    (h : Eligible ticket (link.observe profile)) : Eligible ticket (link.own profile ticket) :=
  ⟨h.valid, h.unexpired, h.unused, h.profile_eq, rfl⟩

theorem Eligible.toPeer {ticket : Ticket} {link : Link} (h : Eligible ticket (link.own profile ticket))
    (hpeer : ticket.peer = link.peer) : Eligible ticket (link.observe profile) :=
  ⟨h.valid, h.unexpired, h.unused, h.profile_eq, hpeer⟩

/-- Of what two checks leave, one corresponds to a Python ticket to which the other corresponds exactly when
they are the same. -/
theorem Ticket.Leaves.matches_iff {ticket left left' : Ticket} {t : Python.Ticket} (h : ticket.Leaves left)
    (h' : ticket.Leaves left') (hmatch : TicketsMatch left' t) :
    TicketMatches left (some t) ↔ left = left' := by
  constructor
  · intro hleft
    rw [h.eq_iff h', (show TicketsMatch left t from hleft).valid_eq, hmatch.valid_eq]
  · intro heq
    rw [heq]
    exact hmatch

/-- A refused firmware call and an accepted model call do not agree, nor the other way round. -/
theorem not_agree_of_outcome {result : Answer × Core}
    {result' : Except Reason Bytes × Python.PeripheralResume}
    (h : result.1.outcome ≠ outcomeOf result'.1) : ¬Agree profile result result' :=
  fun hagree ↦ h hagree.1

theorem outcome_leave_error {size : ℕ} {reason : Reason} {ticket : Ticket} (h : reason ≠ .ok) :
    (leave core size (.error (reason, ticket))).1.outcome = none := by
  simp [leave, Answer.outcome, h]

/-- Two refusals agree exactly when the tickets they leave correspond. -/
theorem agree_rejected_iff {size : ℕ} {reason reason' : Reason} {ticket : Ticket}
    {model' : Python.PeripheralResume} (hreason : reason ≠ .ok)
    (hprofile : model'.profile = profile) :
    Agree profile (leave core size (.error (reason, ticket)))
        (Python.PeripheralResume.guarded (.error (reason', model'))) ↔
      TicketMatches ticket model'.ticket :=
  ⟨fun h ↦ h.2.ticket, agree_rejected hreason hprofile⟩

/-- A session in progress has matching keys and a matching ticket. -/
theorem Corresponds.inProgress (h : Corresponds profile core model)
    (hstate : core.session.state ≠ .idle) :
    SessionsMatch profile core.session model ∧
      ∃ t, model.ticket = some t ∧ TicketsMatch core.ticket t := by
  rcases h.session with ⟨hzero, -⟩ | ⟨-, hmatch⟩
  · rw [hzero] at hstate
    exact absurd rfl hstate
  · obtain ⟨t, ht⟩ := Option.ne_none_iff_exists'.mp hmatch.has_ticket
    have hticket := h.ticket
    rw [ht] at hticket
    exact ⟨hmatch, t, ht, hticket⟩

/-- The deadline the model compares its clock with. -/
theorem SessionsMatch.in_time_iff (h : SessionsMatch profile core.session model) (now : ℤ) :
    seconds now < model.deadline ↔ core.session.InTimeInModel now := by
  rw [← h.deadline_eq]
  rfl

theorem Confirms.isFinishC {raw : Bytes} (h : Confirms crypto profile core raw) :
    IsFinishC profile raw := by
  rw [IsFinishC, h]
  rfl

/-- The firmware accepts a FINISH_C in time with the right tag on an eligible ticket. -/
theorem finish_firmware_accepted {link : Link} {raw : Bytes} (hlink : (link.observe profile).Protected)
    (hwait : core.session.state = .waitC) (htime : core.session.InTime link.now)
    (hconfirms : Confirms crypto profile core raw)
    (helig : Eligible core.ticket (link.observe profile)) :
    pqResumeFinish crypto {} core (link.observe profile) raw =
      (⟨.ok, finishPFrame crypto profile core.session.keys⟩,
        { core with session := { core.session with state := .pendingP } }) := by
  obtain ⟨hknown, -, -⟩ := pqResumeParse_eq_some_iff.mp hconfirms
  obtain ⟨htagC, htagP⟩ := finishTag_ok crypto hknown core.session.keys
  have hresponse : (do
      let name ← label profile "/RESUME-FINISH-P"
      let mac ← pqV1Cp3VerifyData crypto {} core.session.keys.confirmP name core.session.keys.th
      pqResumeEncode profile subtypeFinishP mac.bytes 40) =
      some (finishPFrame crypto profile core.session.keys) := by
    rw [← bind_assoc, htagP, Option.bind_eq_bind, Option.bind_some]
    exact pqResumeEncode_eq_some hknown (by simp; rfl) (by simp)
  unfold pqResumeFinish finishBody
  dsimp only [Link.observe_profile, Link.observe_now]
  rw [require_bind_of hlink, require_bind_of ⟨hwait, htime⟩, hconfirms, orFail_some_bind,
    require_bind_of rfl, ok_bind (requireEligible_of helig), htagC, orFail_some_bind,
    Block.slice_zero_self, require_bind_of rfl, hresponse, orFail_some_bind]
  rfl

/-- Otherwise it refuses, and only a FINISH_C in time reaches the ticket check. -/
theorem finish_firmware_refused {link : Link} {raw : Bytes} (hlink : (link.observe profile).Protected)
    (hwait : core.session.state = .waitC)
    (hrefused : ¬(core.session.InTime link.now ∧ Confirms crypto profile core raw ∧
      Eligible core.ticket (link.observe profile))) :
    ∃ reason ticket, reason ≠ .ok ∧
      finishBody crypto {} core (link.observe profile) raw = .error (reason, ticket) ∧
      ticket = if core.session.InTime link.now ∧ IsFinishC profile raw then
          core.ticket.checked link.now
        else core.ticket := by
  unfold finishBody
  dsimp only [Link.observe_profile, Link.observe_now]
  rw [require_bind_of hlink]
  by_cases htime : core.session.InTime link.now
  swap
  · rw [require_bind_of_not fun hboth ↦ htime hboth.2, if_neg fun hboth ↦ htime hboth.1]
    exact ⟨_, _, by decide, rfl, rfl⟩
  rw [require_bind_of ⟨hwait, htime⟩]
  cases hwire : pqResumeParse profile raw with
  | none =>
    rw [orFail_none_bind, if_neg (by simp [IsFinishC, hwire])]
    exact ⟨_, _, by decide, rfl, rfl⟩
  | some parsed =>
    obtain ⟨subtype, payload⟩ := parsed
    rw [orFail_some_bind]
    by_cases hsubtype : subtype = subtypeFinishC
    swap
    · rw [require_bind_of_not hsubtype, if_neg (by simp [IsFinishC, hwire, hsubtype])]
      exact ⟨_, _, by decide, rfl, rfl⟩
    subst hsubtype
    rw [require_bind_of rfl, if_pos ⟨htime, by rw [IsFinishC, hwire]; rfl⟩]
    cases hcheck : requireEligible core.ticket (link.observe profile) with
    | error failure =>
      obtain ⟨reason, ticket⟩ := failure
      obtain ⟨hne, rfl⟩ := requireEligible_eq_error hcheck
      exact ⟨_, _, hne, rfl, rfl⟩
    | ok value =>
      have helig := requireEligible_eq_ok_iff.mp hcheck
      have hself := helig.checked_eq
      rw [Link.observe_now] at hself
      obtain ⟨hknown, hsize, -⟩ := pqResumeParse_eq_some_iff.mp hwire
      obtain ⟨tag, rfl⟩ : ∃ tag : Block 32, payload = tag.bytes :=
        ⟨⟨payload, (Option.some.inj hsize).symm⟩, rfl⟩
      have htag : ¬finishTag crypto profile true core.session.keys = tag := by
        intro htag
        refine hrefused ⟨htime, ?_, helig⟩
        rw [Confirms, hwire, htag]
      rw [ok_bind rfl, (finishTag_ok crypto hknown core.session.keys).1, orFail_some_bind,
        Block.slice_zero_self, require_bind_of_not htag, hself]
      exact ⟨_, _, by decide, rfl, rfl⟩

/-- The model accepts a FINISH_C in time with the right tag on a ticket eligible for its own peer. -/
theorem Corresponds.finish_model_accepted (h : Corresponds profile core model) {link : Link}
    {raw : Bytes} (hlink : (link.observe profile).Protected) (hwait : core.session.state = .waitC)
    (htime : core.session.InTimeInModel link.now) (hconfirms : Confirms crypto profile core raw)
    (helig : EligibleInModel core.ticket (link.own profile core.ticket)) :
    model.finish crypto raw link.l4 link.bonded (seconds link.now) =
      (.ok (finishPFrame crypto profile core.session.keys), { model with state := .pendingSend }) := by
  obtain rfl := h.profile_eq
  obtain ⟨hsession, t, ht, hticket⟩ := h.inProgress (by rw [hwait]; exact SessionState.noConfusion)
  have hlink' : model.profile = pqResumeV11 → link.l4 = true ∧ link.bonded = true := hlink
  have hstate : model.state = .waitFinishC := by
    rw [← hsession.state_eq, hwait]
    rfl
  obtain ⟨hknown, -, -⟩ := pqResumeParse_eq_some_iff.mp hconfirms
  have hcheck : t.check model.profile t.peer (seconds link.now) = .ok () := by
    rcases hticket.check (link.own model.profile core.ticket)
        (fun hvalid ↦ (hticket.fields_eq hvalid).2.1.symm) with
      ⟨-, hcheck⟩ | ⟨_, _, hnot, -⟩
    · exact hcheck
    · exact absurd helig hnot
  have htag : (finishTag crypto model.profile true core.session.keys).bytes =
      (SessionKeys.finish crypto { core.session.keys with profile := model.profile } true).bytes := rfl
  unfold Python.PeripheralResume.finish Python.PeripheralResume.finishBody
  rw [require_bind_of hlink', require_bind_of ⟨hstate, (hsession.in_time_iff link.now).mpr htime⟩, ht,
    orFail_some_bind, hcheck, Python.PeripheralResume.raising_ok_bind, parse_eq_ok_iff.mpr hconfirms,
    Python.PeripheralResume.lift_ok_bind, hsession.keys_eq, orFail_some_bind, require_bind_of htag,
    encode_eq_ok hknown (by simp; rfl)]
  rfl

/-- Otherwise it refuses, after the ticket check if it is in time. -/
theorem Corresponds.finish_model_refused (h : Corresponds profile core model) {link : Link}
    {raw : Bytes} (hlink : (link.observe profile).Protected) (hwait : core.session.state = .waitC)
    (hrefused : ¬(core.session.InTimeInModel link.now ∧ Confirms crypto profile core raw ∧
      EligibleInModel core.ticket (link.own profile core.ticket))) :
    ∃ reason t, Python.PeripheralResume.finishBody crypto model raw link.l4 link.bonded
        (seconds link.now) = .error (reason, { model with ticket := some t }) ∧
      TicketsMatch (if core.session.InTimeInModel link.now then core.ticket.checkedInModel link.now
        else core.ticket) t := by
  obtain rfl := h.profile_eq
  obtain ⟨hsession, t, ht, hticket⟩ := h.inProgress (by rw [hwait]; exact SessionState.noConfusion)
  have hsame : model = { model with ticket := some t } := by rw [← ht]
  have hlink' : model.profile = pqResumeV11 → link.l4 = true ∧ link.bonded = true := hlink
  have hstate : model.state = .waitFinishC := by
    rw [← hsession.state_eq, hwait]
    rfl
  unfold Python.PeripheralResume.finishBody
  rw [require_bind_of hlink']
  by_cases htime : core.session.InTimeInModel link.now
  swap
  · rw [require_bind_of_not fun hboth ↦ htime ((hsession.in_time_iff link.now).mp hboth.2), if_neg htime]
    exact ⟨_, t, congrArg _ (congrArg _ hsame), hticket⟩
  rw [require_bind_of ⟨hstate, (hsession.in_time_iff link.now).mpr htime⟩, ht, orFail_some_bind,
    if_pos htime]
  rcases hticket.check (link.own model.profile core.ticket)
      (fun hvalid ↦ (hticket.fields_eq hvalid).2.1.symm) with
    ⟨helig, hcheck⟩ | ⟨reason, t', -, hcheck, hleft⟩
  swap
  · refine ⟨reason, t', ?_, hleft⟩
    rw [show t.check model.profile t.peer (seconds link.now) = _ from hcheck,
      Python.PeripheralResume.raising_error_bind]
  have hself : core.ticket.checkedInModel link.now = core.ticket := helig.checked_eq
  rw [show t.check model.profile t.peer (seconds link.now) = _ from hcheck,
    Python.PeripheralResume.raising_ok_bind, hself]
  cases hparse : parse raw model.profile subtypeFinishC with
  | error reason => exact ⟨_, t, congrArg _ (congrArg _ hsame), hticket⟩
  | ok payload =>
    have hwire := parse_eq_ok_iff.mp hparse
    have htag : ¬payload =
        (SessionKeys.finish crypto { core.session.keys with profile := model.profile } true).bytes := by
      rintro rfl
      exact hrefused ⟨htime, hwire, helig⟩
    refine ⟨.badAuth, t, ?_, hticket⟩
    rw [Python.PeripheralResume.lift_ok_bind, ← hsame, hsession.keys_eq, orFail_some_bind,
      require_bind_of_not htag]

/-- What two refusals of a `finish` leave of the ticket is the same exactly under the condition. -/
theorem finishMeets_iff_of_refused {link : Link} {raw : Bytes}
    (hfirmware : ¬(core.session.InTime link.now ∧ Confirms crypto profile core raw ∧
      Eligible core.ticket (link.observe profile)))
    (hmodel : ¬(core.session.InTimeInModel link.now ∧ Confirms crypto profile core raw ∧
      EligibleInModel core.ticket (link.own profile core.ticket))) :
    (if core.session.InTime link.now ∧ IsFinishC profile raw then core.ticket.checked link.now
        else core.ticket) =
        (if core.session.InTimeInModel link.now then core.ticket.checkedInModel link.now
          else core.ticket) ↔
      FinishMeets crypto profile core link raw := by
  constructor
  · intro hsame
    refine ⟨fun htime htime' ↦ ⟨fun hother ↦ ?_, fun hfinish ↦ ?_, fun hconfirms helig ↦ ?_⟩,
      fun htime htime' ↦ ⟨fun hfinish ↦ ?_, fun hconfirms helig ↦ hfirmware ⟨htime, hconfirms, helig⟩⟩,
      fun htime htime' ↦ ⟨?_, fun hconfirms helig ↦ hmodel ⟨htime', hconfirms, helig⟩⟩⟩
    · rw [if_neg fun hboth ↦ hother hboth.2, if_pos htime'] at hsame
      exact hsame.symm
    · rwa [if_pos ⟨htime, hfinish⟩, if_pos htime'] at hsame
    · rw [if_pos ⟨htime, hconfirms.isFinishC⟩, if_pos htime'] at hsame
      exact absurd ⟨htime', hconfirms, (eligible_iff_inModel hsame).mp helig⟩ hmodel
    · rwa [if_pos ⟨htime, hfinish⟩, if_neg htime'] at hsame
    · rw [if_neg fun hboth ↦ htime hboth.1, if_pos htime'] at hsame
      exact hsame.symm
  · intro hmeets
    by_cases htime : core.session.InTime link.now <;>
      by_cases htime' : core.session.InTimeInModel link.now
    · rw [if_pos htime']
      by_cases hfinish : IsFinishC profile raw
      · rw [if_pos ⟨htime, hfinish⟩]
        exact (hmeets.in_time htime htime').2.1 hfinish
      · rw [if_neg fun hboth ↦ hfinish hboth.2]
        exact ((hmeets.in_time htime htime').1 hfinish).symm
    · rw [if_neg htime']
      by_cases hfinish : IsFinishC profile raw
      · rw [if_pos ⟨htime, hfinish⟩]
        exact (hmeets.firmware_only htime htime').1 hfinish
      · rw [if_neg fun hboth ↦ hfinish hboth.2]
    · rw [if_neg fun hboth ↦ htime hboth.1, if_pos htime']
      exact (hmeets.model_only htime htime').1.symm
    · rw [if_neg fun hboth ↦ htime hboth.1, if_neg htime']

/-- Under the condition the model accepts exactly what the firmware accepts. -/
theorem FinishMeets.accepts_iff {link : Link} {raw : Bytes} (h : FinishMeets crypto profile core link raw) :
    (core.session.InTime link.now ∧ Confirms crypto profile core raw ∧
        Eligible core.ticket (link.observe profile)) ↔
      core.session.InTimeInModel link.now ∧ Confirms crypto profile core raw ∧
        EligibleInModel core.ticket (link.own profile core.ticket) := by
  constructor
  · rintro ⟨htime, hconfirms, helig⟩
    have htime' : core.session.InTimeInModel link.now := by
      by_contra hlate
      exact (h.firmware_only htime hlate).2 hconfirms helig
    have hclock := (h.in_time htime htime').2.1 hconfirms.isFinishC
    exact ⟨htime', hconfirms, (eligible_iff_inModel hclock).mp helig.toOwnPeer⟩
  · rintro ⟨htime', hconfirms, helig⟩
    have htime : core.session.InTime link.now := by
      by_contra hlate
      exact (h.model_only hlate htime').2 hconfirms helig
    obtain ⟨-, hclock, hpeer⟩ := h.in_time htime htime'
    have hown : Eligible core.ticket (link.own profile core.ticket) :=
      (eligible_iff_inModel (hclock hconfirms.isFinishC)).mpr helig
    exact ⟨htime, hconfirms, hown.toPeer (hpeer hconfirms hown)⟩

/-- **`finish` agrees exactly under its condition.** -/
theorem finish_agrees_iff (h : Corresponds profile core model) (link : Link) (raw : Bytes) :
    Agree profile (pqResumeFinish crypto {} core (link.observe profile) raw)
        (model.finish crypto raw link.l4 link.bonded (seconds link.now)) ↔
      FinishAgrees crypto profile core link raw := by
  by_cases hlink : (link.observe profile).Protected
  swap
  · refine iff_of_true ?_ fun hl ↦ absurd hl hlink
    have hlink' : ¬(model.profile = pqResumeV11 → link.l4 = true ∧ link.bonded = true) := by
      rw [h.profile_eq]
      exact hlink
    unfold pqResumeFinish Python.PeripheralResume.finish finishBody
      Python.PeripheralResume.finishBody
    rw [require_bind_of_not hlink, require_bind_of_not hlink']
    exact agree_rejected (by decide) h.profile_eq h.ticket
  by_cases hwait : core.session.state = .waitC
  swap
  · refine iff_of_true ?_ fun _ hstate ↦ absurd hstate hwait
    have hlink' : model.profile = pqResumeV11 → link.l4 = true ∧ link.bonded = true := by
      rw [h.profile_eq]
      exact hlink
    have hstate : ¬(model.state = .waitFinishC ∧ seconds link.now < model.deadline) := by
      rintro ⟨hmodel, -⟩
      rw [← h.state_eq] at hmodel
      cases hcore : core.session.state <;> rw [hcore] at hmodel hwait
      · cases hmodel
      · exact hwait rfl
      · cases hmodel
      · cases hmodel
    unfold pqResumeFinish Python.PeripheralResume.finish finishBody
      Python.PeripheralResume.finishBody
    rw [require_bind_of hlink, require_bind_of hlink', require_bind_of_not fun hboth ↦ hwait hboth.1,
      require_bind_of_not hstate]
    exact agree_rejected (by decide) h.profile_eq h.ticket
  have hcond : FinishAgrees crypto profile core link raw ↔ FinishMeets crypto profile core link raw :=
    ⟨fun hagrees ↦ hagrees hlink hwait, fun hmeets _ _ ↦ hmeets⟩
  rw [hcond]
  by_cases hfirmware : core.session.InTime link.now ∧ Confirms crypto profile core raw ∧
      Eligible core.ticket (link.observe profile)
  · obtain ⟨htime, hconfirms, helig⟩ := hfirmware
    rw [finish_firmware_accepted hlink hwait htime hconfirms helig]
    by_cases hmodel : core.session.InTimeInModel link.now ∧ Confirms crypto profile core raw ∧
        EligibleInModel core.ticket (link.own profile core.ticket)
    · rw [h.finish_model_accepted hlink hwait hmodel.1 hconfirms hmodel.2.2]
      obtain ⟨hsession, t, ht, hticket⟩ := h.inProgress (by rw [hwait]; exact SessionState.noConfusion)
      refine iff_of_true ⟨rfl, h.profile_eq, h.ticket, .inr ⟨SessionState.noConfusion, ?_⟩⟩ ?_
      · exact ⟨rfl, hsession.has_ticket, hsession.keys_eq, hsession.sid_eq, hsession.deadline_eq⟩
      · refine ⟨fun _ _ ↦ ⟨fun hother ↦ absurd hconfirms.isFinishC hother, fun _ ↦ ?_, fun _ _ ↦ ?_⟩,
          fun _ hlate ↦ absurd hmodel.1 hlate, fun hlate ↦ absurd htime hlate⟩
        · exact helig.checked_eq.trans hmodel.2.2.checked_eq.symm
        · exact helig.peer_eq
    · obtain ⟨reason, t, hbody, -⟩ := h.finish_model_refused hlink hwait hmodel
      rw [Python.PeripheralResume.finish, hbody]
      refine iff_of_false (not_agree_of_outcome (Option.some_ne_none _)) fun hmeets ↦ ?_
      exact hmodel (hmeets.accepts_iff.mp ⟨htime, hconfirms, helig⟩)
  · obtain ⟨reason, ticket, hne, hbody, hticket⟩ := finish_firmware_refused hlink hwait hfirmware
    rw [pqResumeFinish, hbody]
    by_cases hmodel : core.session.InTimeInModel link.now ∧ Confirms crypto profile core raw ∧
        EligibleInModel core.ticket (link.own profile core.ticket)
    · rw [h.finish_model_accepted hlink hwait hmodel.1 hmodel.2.1 hmodel.2.2]
      refine iff_of_false (not_agree_of_outcome ?_) fun hmeets ↦ ?_
      · rw [outcome_leave_error hne]
        exact Option.some_ne_none _ ∘ Eq.symm
      · exact hfirmware (hmeets.accepts_iff.mpr hmodel)
    · obtain ⟨reason', t, hbody', hleft⟩ := h.finish_model_refused hlink hwait hmodel
      have hprofile : { model with ticket := some t }.profile = profile := h.profile_eq
      rw [Python.PeripheralResume.finish, hbody', agree_rejected_iff hne hprofile,
        ← finishMeets_iff_of_refused hfirmware hmodel, ← hticket]
      have hkept : core.ticket.Leaves ticket := by
        rw [hticket]
        split_ifs
        · exact Ticket.leaves_checked
        · exact Ticket.leaves_self
      have hkept' : core.ticket.Leaves (if core.session.InTimeInModel link.now then
          core.ticket.checkedInModel link.now else core.ticket) := by
        split_ifs
        · exact Ticket.leaves_checkedInModel
        · exact Ticket.leaves_self
      exact hkept.matches_iff hkept' hleft

/-- Counting one use on both sides keeps the tickets corresponding. -/
theorem TicketsMatch.use {ticket : Ticket} {t : Python.Ticket} (h : TicketsMatch ticket t)
    (hvalid : ticket.valid = true) : TicketsMatch ticket.use t.used := by
  obtain ⟨hprofile, hpeer, hid, hroot, hcreated, huses⟩ := h.fields_eq hvalid
  unfold Ticket.use Python.Ticket.used
  rw [show Python.maxResumes = pqResumeMaxUses from rfl, ← huses]
  by_cases hlast : pqResumeMaxUses ≤ ticket.successes + 1
  · rw [if_pos hlast, if_pos hlast]
    exact .clear ticket _
  · rw [if_neg hlast, if_neg hlast]
    exact ⟨h.valid_eq, h.replay_eq, fun _ ↦ ⟨hprofile, hpeer, hid, hroot, hcreated, rfl⟩⟩

/-- A commit that the link check, the state or the deadline refuses leaves the ticket alone. -/
theorem commit_refused_early (profile : UInt8) (link : Link)
    (hrefused : ¬((link.observe profile).Protected ∧ core.session.state = .pendingP ∧
      core.session.InTime link.now)) :
    ∃ reason, reason ≠ .ok ∧
      commitBody core (link.observe profile) = .error (reason, core.ticket) := by
  unfold commitBody
  by_cases hlink : (link.observe profile).Protected
  · have hlate : ¬(core.session.state = .pendingP ∧
        (link.observe profile).now < core.session.deadlineMs) :=
      fun hboth ↦ hrefused ⟨hlink, hboth⟩
    rw [require_bind_of hlink, require_bind_of_not hlate]
    exact ⟨_, by decide, rfl⟩
  · rw [require_bind_of_not hlink]
    exact ⟨_, by decide, rfl⟩

/-- **`commit` agrees exactly under its condition.** -/
theorem commit_agrees_iff (h : Corresponds profile core model) (link : Link) :
    Agree profile (pqResumeCommit core (link.observe profile)) (model.commit (seconds link.now)) ↔
      CommitAgrees profile core link := by
  by_cases hpending : core.session.state = .pendingP
  swap
  · have hstate : ¬(model.state = .pendingSend ∧ seconds link.now < model.deadline) := by
      rintro ⟨hmodel, -⟩
      rw [← h.state_eq] at hmodel
      cases hcore : core.session.state <;> rw [hcore] at hmodel hpending
      · cases hmodel
      · cases hmodel
      · exact hpending rfl
      · cases hmodel
    refine iff_of_true ?_ fun hstate ↦ absurd hstate hpending
    obtain ⟨reason, hne, hbody⟩ := commit_refused_early profile link
      (fun hboth ↦ hpending hboth.2.1)
    rw [pqResumeCommit, hbody, Python.PeripheralResume.commit, if_neg hstate]
    change Agree profile _ (Python.PeripheralResume.guarded (.error (.malformed, model)))
    exact agree_rejected hne h.profile_eq h.ticket
  have hcond : CommitAgrees profile core link ↔ CommitMeets profile core link :=
    ⟨fun hagrees ↦ hagrees hpending, fun hmeets _ ↦ hmeets⟩
  rw [hcond]
  obtain ⟨hsession, t, ht, hticket⟩ :=
    h.inProgress (by rw [hpending]; exact SessionState.noConfusion)
  have hstate : model.state = .pendingSend := by
    rw [← hsession.state_eq, hpending]
    rfl
  unfold Python.PeripheralResume.commit
  by_cases htime' : core.session.InTimeInModel link.now
  · -- The model commits whatever the link and the ticket are.
    rw [if_pos ⟨hstate, (hsession.in_time_iff link.now).mpr htime'⟩, hsession.keys_eq, ht]
    dsimp only
    by_cases hreached : core.session.InTime link.now ∧ (link.observe profile).Protected ∧
        Eligible core.ticket (link.observe profile)
    · obtain ⟨htime, hlink, helig⟩ := hreached
      unfold pqResumeCommit commitBody
      dsimp only
      rw [require_bind_of hlink, require_bind_of ⟨hpending, htime⟩, ok_bind (requireEligible_of helig)]
      refine iff_of_true ⟨rfl, h.profile_eq, hticket.use helig.valid, .inr ⟨?_, ?_⟩⟩
        ⟨fun _ ↦ ⟨htime, hlink, helig⟩, fun hlate ↦ absurd htime' hlate⟩
      · exact SessionState.noConfusion
      · exact ⟨rfl, Option.some_ne_none _, rfl, hsession.sid_eq, hsession.deadline_eq⟩
    · refine iff_of_false (not_agree_of_outcome ?_) fun hmeets ↦ hreached (hmeets.in_time htime')
      rcases pqResumeCommit_cases (Prod.eta (pqResumeCommit core (link.observe profile))).symm with
        ⟨-, hcommitted⟩ | ⟨hfailed, -⟩
      · exact absurd ⟨hcommitted.intime, hcommitted.link, hcommitted.eligible⟩ hreached
      · rw [Answer.outcome, if_neg hfailed.reason_ne]
        exact Option.some_ne_none _ ∘ Eq.symm
  · -- The model refuses and leaves its ticket alone.
    rw [if_neg fun hboth ↦ htime' ((hsession.in_time_iff link.now).mp hboth.2)]
    change Agree profile _ (Python.PeripheralResume.guarded (.error (.malformed, model))) ↔ _
    by_cases hreached : (link.observe profile).Protected ∧ core.session.state = .pendingP ∧
        core.session.InTime link.now
    swap
    · obtain ⟨reason, hne, hbody⟩ := commit_refused_early profile link hreached
      rw [pqResumeCommit, hbody]
      exact iff_of_true (agree_rejected hne h.profile_eq h.ticket) ⟨fun htime ↦ absurd htime htime',
        fun _ htime hlink ↦ absurd ⟨hlink, hpending, htime⟩ hreached⟩
    obtain ⟨hlink, -, htime⟩ := hreached
    unfold pqResumeCommit commitBody
    dsimp only
    rw [require_bind_of hlink, require_bind_of ⟨hpending, htime⟩]
    cases hcheck : requireEligible core.ticket (link.observe profile) with
    | ok value =>
      rw [ok_bind rfl]
      refine iff_of_false (not_agree_of_outcome (Option.some_ne_none _)) fun hmeets ↦ ?_
      exact (hmeets.firmware_only htime' htime hlink).2 (requireEligible_eq_ok_iff.mp hcheck)
    | error failure =>
      obtain ⟨reason, ticket⟩ := failure
      obtain ⟨hne, rfl⟩ := requireEligible_eq_error hcheck
      have hmatch : TicketMatches (core.ticket.checked link.now) model.ticket ↔
          core.ticket.checked link.now = core.ticket := by
        rw [ht]
        exact Ticket.leaves_checked.matches_iff Ticket.leaves_self hticket
      rw [error_bind rfl, agree_rejected_iff hne h.profile_eq, Link.observe_now, hmatch]
      constructor
      · intro hkept
        refine ⟨fun htime ↦ absurd htime htime', fun _ _ _ ↦ ⟨hkept, fun helig ↦ ?_⟩⟩
        rw [requireEligible_of helig] at hcheck
        cases hcheck
      · intro hmeets
        exact (hmeets.firmware_only htime' htime hlink).1

/-! ## Runs -/

section Expiry

/-- A v0.8 ticket issued at time zero, with no session. -/
def expiringCore : Core where
  ticket :=
    { valid := true, profile := pqResumeV08, id := .zero 16, root := .zero 32, peer := .zero 7,
      createdMs := 0, successes := 0, replay := [] }
  session := .zero

/-- The same ticket and no session on the Python side. -/
def expiringModel : Python.PeripheralResume where
  profile := pqResumeV08
  ticket := some
    { profile := pqResumeV08, peer := .zero 7, rid := (Block.zero 16).bytes, root := .zero 32,
      createdAt := 0, successfulResumes := 0, replay := [], valid := true }
  keys := none
  state := .idle
  sessionId := []
  deadline := 0

theorem expiring_corresponds : Corresponds pqResumeV08 expiringCore expiringModel where
  profile_eq := rfl
  ticket := ⟨rfl, rfl, fun _ ↦ ⟨rfl, rfl, rfl, rfl, by simp [seconds, expiringCore], rfl⟩⟩
  session := .inl ⟨rfl, rfl, rfl, rfl, rfl⟩

/-- An honest attempt that starts one second before the ticket expires and is committed at the very
end of the ticket's lifetime, well before its own deadline. -/
def expiringOperations : List Operation :=
  let link := fun now ↦ { peer := .zero 7, l4 := false, bonded := false, now : Link }
  let keys := expiringCore.ticket.keys polynomialCrypto (.zero 16) (.zero 32) (.zero 32)
  [.init (link 86399000)
      (initFrame polynomialCrypto pqResumeV08 (.zero 32) (.zero 16) (.zero 16) (.zero 32)) (.zero 32),
    .finish (link 86399500) (finishCFrame polynomialCrypto pqResumeV08 keys),
    .commit (link 86400000)]

end Expiry

/-- **Step lemma.** Corresponding Peripherals answer an operation alike and stay corresponding
exactly when the operation meets its condition. -/
theorem step_agrees_iff (h : Corresponds profile core model) (operation : Operation) :
    ((firmware crypto profile).step core operation).1 =
          ((specification crypto).step model operation).1 ∧
        Corresponds profile ((firmware crypto profile).step core operation).2
          ((specification crypto).step model operation).2 ↔
      Agrees crypto profile core operation := by
  cases operation with
  | init link raw np => exact init_agrees_iff h link raw np
  | finish link raw => exact finish_agrees_iff h link raw
  | commit link => exact commit_agrees_iff h link
  | disconnect =>
    exact iff_of_true ⟨rfl, h.profile_eq, h.ticket, .inl ⟨rfl, rfl, rfl, rfl, rfl⟩⟩ trivial

/-- **Peripheral refinement under its condition.**  From corresponding tickets and sessions, and for
every sequence of operations, the firmware core and the Python Peripheral run in lockstep (every
operation is accepted or refused alike with the same bytes, and all states on the way correspond)
exactly when every operation meets `Agrees` in the state it finds. -/
theorem peripheral_lockstep_iff (crypto : Crypto) (profile : UInt8) (core : Core)
    (model : Python.PeripheralResume) (h : Corresponds profile core model)
    (operations : List Operation) :
    (firmware crypto profile).Lockstep (specification crypto) (Corresponds profile) core model
        operations ↔
      (firmware crypto profile).Along (Agrees crypto profile) core operations :=
  Machine.lockstep_iff_along (fun _ _ operation hrel ↦ step_agrees_iff hrel operation) h operations

/-- The equivalence for the attempt that outlives its ticket. -/
theorem peripheral_lockstep_iff_expiring :
    (firmware polynomialCrypto pqResumeV08).Lockstep (specification polynomialCrypto)
        (Corresponds pqResumeV08) expiringCore expiringModel expiringOperations ↔
      (firmware polynomialCrypto pqResumeV08).Along (Agrees polynomialCrypto pqResumeV08)
        expiringCore expiringOperations :=
  peripheral_lockstep_iff polynomialCrypto pqResumeV08 expiringCore expiringModel
    expiring_corresponds expiringOperations

/-- The Python Peripheral does not specify the firmware unconditionally: it commits the attempt that
outlives its ticket, and the firmware refuses it. -/
theorem not_peripheral_refinement :
    ¬∀ (crypto : Crypto) (profile : UInt8) (core : Core) (model : Python.PeripheralResume),
      Corresponds profile core model → ∀ operations : List Operation,
        (firmware crypto profile).Lockstep (specification crypto) (Corresponds profile) core model
          operations := by
  intro hrefines
  have houtputs := (hrefines polynomialCrypto pqResumeV08 expiringCore expiringModel
    expiring_corresponds expiringOperations).outputs_eq.1
  revert houtputs
  decide +kernel

end PqBleHandshake.Resumption
