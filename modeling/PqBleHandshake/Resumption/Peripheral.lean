import PqBleHandshake.Foundation.Transition
import PqBleHandshake.Resumption.KeySchedule

/-!
# The Peripheral core

`pq_resume.c`: the ticket, the session, and the calls issue, accept, finish, commit and disconnect.
A `goto fail` carries the reason and the ticket as they stand at that point; the failure exit wipes
the session and the output buffer.

Each call has one lemma for its success, which lists every check that passed and the exact next
state, and one for its failure.  Everything proved later about the Peripheral goes through these.
-/

namespace PqBleHandshake.Resumption

open Foundation

/-- One slot of the replay cache. -/
structure ReplayEntry where
  nonce : Block 32
  sid : Block 16
deriving DecidableEq

/-- `struct pq_resume_ticket`; `replay` holds the first `replay_count` slots. -/
@[ext]
structure Ticket where
  valid : Bool
  profile : UInt8
  id : Block 16
  root : Block 32
  peer : Block 7
  createdMs : ℤ
  successes : ℕ
  replay : List ReplayEntry
deriving DecidableEq

/-- A wiped ticket. -/
def Ticket.zero : Ticket where
  valid := false
  profile := 0
  id := .zero 16
  root := .zero 32
  peer := .zero 7
  createdMs := 0
  successes := 0
  replay := []

/-- `enum pq_resume_state` -/
inductive SessionState
  | idle | waitC | pendingP | secure
deriving DecidableEq, Repr

/-- `struct pq_resume_session` -/
@[ext]
structure Session where
  state : SessionState
  sid : Block 16
  deadlineMs : ℤ
  keys : Keys
deriving DecidableEq

/-- A wiped session. -/
def Session.zero : Session where
  state := .idle
  sid := .zero 16
  deadlineMs := 0
  keys := .zero

/-- The ticket and the session that the calls share. -/
@[ext]
structure Core where
  ticket : Ticket
  session : Session
deriving DecidableEq

/-- What the caller observes of the link and the clock at one call. -/
structure Observation where
  profile : UInt8
  peer : Block 7
  l4 : Bool
  bonded : Bool
  now : ℤ
deriving DecidableEq

/-- The reason a call returns and the bytes it leaves in the output buffer. -/
structure Answer where
  reason : Reason
  wire : Bytes
deriving DecidableEq

/-- `pq_resume_invalidate` -/
def pqResumeInvalidate (_ticket : Ticket) : Ticket := Ticket.zero

/-- `pq_resume_disconnect` -/
def pqResumeDisconnect (_session : Session) : Session := Session.zero

/-- `pq_resume_issue`; `none` is the error return, which leaves the ticket alone. -/
def pqResumeIssue (crypto : Crypto) (faults : Faults) (profile : UInt8) (root th : Block 32)
    (peer : Block 7) (now : ℤ) (authenticated : Bool) : Option Ticket :=
  if authenticated = false ∨ now < 0 then none
  else (pqResumeId crypto faults profile root th).map fun id ↦
    { valid := true, profile, id, root, peer, createdMs := now, successes := 0, replay := [] }

/-- `pq_resume_eligible`: the reason and the ticket, which an expired or used-up check wipes. -/
def pqResumeEligible (ticket : Ticket) (profile : UInt8) (peer : Block 7) (now : ℤ) :
    Reason × Ticket :=
  if ticket.valid = false then (.noTicket, ticket)
  else if now < ticket.createdMs ∨ pqResumeTtlMs ≤ now - ticket.createdMs then
    (.expired, pqResumeInvalidate ticket)
  else if pqResumeMaxUses ≤ ticket.successes then (.maxed, pqResumeInvalidate ticket)
  else if ticket.profile ≠ profile ∨ ticket.peer ≠ peer then (.profileMismatch, ticket)
  else (.ok, ticket)

/-- The eligibility check inside a call: go on with an eligible ticket, or fail with what the check
left of it. -/
def requireEligible (ticket : Ticket) (seen : Observation) : Except (Reason × Ticket) Unit :=
  let checked := pqResumeEligible ticket seen.profile seen.peer seen.now
  require (checked.1 = .ok) checked

/-- The link check of v1.1. -/
def Observation.Protected (seen : Observation) : Prop :=
  seen.profile = pqResumeV11 → seen.l4 = true ∧ seen.bonded = true

instance (seen : Observation) : Decidable seen.Protected :=
  inferInstanceAs (Decidable (_ → _))

/-- The body of `pq_resume_accept` up to its two exits. -/
def acceptBody (crypto : Crypto) (faults : Faults) (core : Core) (seen : Observation)
    (init : Bytes) (np : Block 32) : Except (Reason × Ticket) (Bytes × Core) := do
  let t := core.ticket
  require (core.session.state = .idle) (.replay, t)
  require seen.Protected (.l4Required, t)
  require (¬(5 ≤ init.length ∧ init.getD 4 0 ≠ seen.profile)) (.profileMismatch, t)
  let (subtype, p) ← orFail (.malformed, t) (pqResumeParse seen.profile init)
  require (subtype = subtypeInit) (.malformed, t)
  requireEligible t seen
  let mac ← orFail (.internalError, t)
    (authentication crypto faults seen.profile t.root false (.slice p 0 64) np)
  require (t.id = .slice p 0 16 ∧ mac = .slice p 64 32) (.badAuth, t)
  let entry : ReplayEntry := { nonce := .slice p 32 32, sid := .slice p 16 16 }
  require (∀ old ∈ t.replay, old.nonce ≠ entry.nonce ∧ old.sid ≠ entry.sid) (.replay, t)
  require (t.replay.length < pqResumeReplayCapacity) (.replayCacheFull, t)
  let t := { t with replay := t.replay ++ [entry] }
  let keys ← orFail (.internalError, t)
    (pqResumeDerive crypto faults seen.profile t.root (.slice p 0 16) (.slice p 16 16)
      (.slice p 32 32) np)
  let mac ← orFail (.internalError, t)
    (authentication crypto faults seen.profile t.root true (.slice p 0 64) np)
  let wire ← orFail (.internalError, t)
    (pqResumeEncode seen.profile subtypeAccept (np.bytes ++ mac.bytes) 72)
  return (wire, { ticket := t
                  session := { state := .waitC, sid := entry.sid,
                               deadlineMs := seen.now + 30000, keys } })

/-- The body of `pq_resume_finish` up to its two exits. -/
def finishBody (crypto : Crypto) (faults : Faults) (core : Core) (seen : Observation)
    (finish : Bytes) : Except (Reason × Ticket) (Bytes × Core) := do
  let t := core.ticket
  let s := core.session
  require seen.Protected (.l4Required, t)
  require (s.state = .waitC ∧ seen.now < s.deadlineMs) (.malformed, t)
  let (subtype, p) ← orFail (.malformed, t) (pqResumeParse seen.profile finish)
  require (subtype = subtypeFinishC) (.malformed, t)
  requireEligible t seen
  let mac ← orFail (.internalError, t) do
    let name ← label seen.profile "/RESUME-FINISH-C"
    pqV1Cp3VerifyData crypto faults s.keys.confirmC name s.keys.th
  require (mac = .slice p 0 32) (.badAuth, t)
  let response ← orFail (.internalError, t) do
    let name ← label seen.profile "/RESUME-FINISH-P"
    let mac ← pqV1Cp3VerifyData crypto faults s.keys.confirmP name s.keys.th
    pqResumeEncode seen.profile subtypeFinishP mac.bytes 40
  return (response, { core with session := { s with state := .pendingP } })

/-- The body of `pq_resume_commit` up to its two exits. -/
def commitBody (core : Core) (seen : Observation) :
    Except (Reason × Ticket) (Bytes × Core) := do
  let t := core.ticket
  let s := core.session
  require seen.Protected (.l4Required, t)
  require (s.state = .pendingP ∧ seen.now < s.deadlineMs) (.malformed, t)
  requireEligible t seen
  let keys := { s.keys with th := .zero 32, confirmC := .zero 32, confirmP := .zero 32 }
  let t := { t with successes := t.successes + 1 }
  return ([], { ticket := if pqResumeMaxUses ≤ t.successes then pqResumeInvalidate t else t
                session := { s with state := .secure, keys } })

/-- The two exits of a call: success, or the wiped session with the output buffer cleared. -/
def leave (core : Core) (bufferSize : ℕ) :
    Except (Reason × Ticket) (Bytes × Core) → Answer × Core
  | .ok (wire, core') => (⟨.ok, wire⟩, core')
  | .error (reason, ticket) =>
    (⟨reason, List.replicate bufferSize 0⟩, ⟨ticket, pqResumeDisconnect core.session⟩)

/-- `pq_resume_accept` -/
def pqResumeAccept (crypto : Crypto) (faults : Faults) (core : Core) (seen : Observation)
    (init : Bytes) (np : Block 32) : Answer × Core :=
  leave core 72 (acceptBody crypto faults core seen init np)

/-- `pq_resume_finish` -/
def pqResumeFinish (crypto : Crypto) (faults : Faults) (core : Core) (seen : Observation)
    (finish : Bytes) : Answer × Core :=
  leave core 40 (finishBody crypto faults core seen finish)

/-- `pq_resume_commit`, which has no output buffer. -/
def pqResumeCommit (core : Core) (seen : Observation) : Answer × Core :=
  leave core 0 (commitBody core seen)

/-! ## Eligibility -/

/-- The lifetime of a ticket contains a clock reading. -/
def Ticket.Unexpired (ticket : Ticket) (now : ℤ) : Prop :=
  ticket.createdMs ≤ now ∧ now < ticket.createdMs + pqResumeTtlMs

instance (ticket : Ticket) (now : ℤ) : Decidable (ticket.Unexpired now) :=
  inferInstanceAs (Decidable (_ ∧ _))

/-- A ticket that the eligibility check lets through. -/
structure Eligible (ticket : Ticket) (seen : Observation) : Prop where
  valid : ticket.valid = true
  unexpired : ticket.Unexpired seen.now
  unused : ticket.successes < pqResumeMaxUses
  profile_eq : ticket.profile = seen.profile
  peer_eq : ticket.peer = seen.peer

/-- What the eligibility check leaves of a ticket: a valid ticket outside its lifetime, or with all
uses spent, is wiped. -/
def Ticket.checked (ticket : Ticket) (now : ℤ) : Ticket :=
  if ticket.valid = true ∧ ¬(ticket.Unexpired now ∧ ticket.successes < pqResumeMaxUses) then
    Ticket.zero
  else ticket

theorem pqResumeEligible_snd (ticket : Ticket) (profile : UInt8) (peer : Block 7) (now : ℤ) :
    (pqResumeEligible ticket profile peer now).2 = ticket.checked now := by
  unfold pqResumeEligible Ticket.checked Ticket.Unexpired pqResumeInvalidate
  cases ticket.valid
  · simp
  · by_cases hlife : now < ticket.createdMs ∨ pqResumeTtlMs ≤ now - ticket.createdMs
    · have : ¬(ticket.createdMs ≤ now ∧ now < ticket.createdMs + pqResumeTtlMs) := by omega
      simp [hlife, this]
    · have : ticket.createdMs ≤ now ∧ now < ticket.createdMs + pqResumeTtlMs := by omega
      by_cases huses : pqResumeMaxUses ≤ ticket.successes
      · simp [hlife, huses, not_lt.mpr huses]
      · have huses' : ticket.successes < pqResumeMaxUses := not_le.mp huses
        simp only [Bool.true_eq_false, if_false, hlife, huses, this, huses', and_self,
          not_true_eq_false, and_false]
        split_ifs <;> rfl

theorem pqResumeEligible_fst_eq_ok_iff {ticket : Ticket} {seen : Observation} :
    (pqResumeEligible ticket seen.profile seen.peer seen.now).1 = .ok ↔ Eligible ticket seen := by
  constructor
  · intro h
    unfold pqResumeEligible at h
    split_ifs at h with hvalid hlife huses hbound
    rw [not_or] at hbound
    exact ⟨by simpa using hvalid, ⟨by omega, by omega⟩, by omega, not_not.mp hbound.1,
      not_not.mp hbound.2⟩
  · rintro ⟨hvalid, ⟨hcreated, hlife⟩, huses, hprofile, hpeer⟩
    rw [pqResumeEligible, if_neg (by simp [hvalid]), if_neg (by omega), if_neg (by omega),
      if_neg (by simp [hprofile, hpeer])]

@[simp]
theorem requireEligible_eq_ok_iff {ticket : Ticket} {seen : Observation} {value : Unit} :
    requireEligible ticket seen = .ok value ↔ Eligible ticket seen := by
  rw [requireEligible, require_eq_ok_iff, pqResumeEligible_fst_eq_ok_iff]

theorem requireEligible_of {ticket : Ticket} {seen : Observation} (h : Eligible ticket seen) :
    requireEligible ticket seen = .ok () := requireEligible_eq_ok_iff.mpr h

theorem requireEligible_eq_error {ticket ticket' : Ticket} {seen : Observation} {reason : Reason}
    (h : requireEligible ticket seen = .error (reason, ticket')) :
    reason ≠ .ok ∧ ticket' = ticket.checked seen.now := by
  obtain ⟨hne, heq⟩ := require_eq_error_iff.mp h
  rw [heq] at hne
  rw [← pqResumeEligible_snd ticket seen.profile seen.peer seen.now, heq]
  exact ⟨hne, rfl⟩

/-- A ticket that is valid, unexpired and has uses left survives the check. -/
theorem Ticket.checked_eq_self {ticket : Ticket} {now : ℤ} (hlife : ticket.Unexpired now)
    (huses : ticket.successes < pqResumeMaxUses) : ticket.checked now = ticket := by
  rw [Ticket.checked, if_neg (by simp [hlife, huses])]

theorem Ticket.checked_eq_or (ticket : Ticket) (now : ℤ) :
    ticket.checked now = ticket ∨ ticket.checked now = Ticket.zero := by
  unfold Ticket.checked
  split_ifs
  · exact .inr rfl
  · exact .inl rfl

/-! ## What a successful call did -/

/-- The ticket after an accepted INIT. -/
def Ticket.remember (ticket : Ticket) (entry : ReplayEntry) : Ticket :=
  { ticket with replay := ticket.replay ++ [entry] }

/-- The ticket after a committed resumption. -/
def Ticket.use (ticket : Ticket) : Ticket :=
  if pqResumeMaxUses ≤ ticket.successes + 1 then Ticket.zero
  else { ticket with successes := ticket.successes + 1 }

/-- The session keys once the confirmation secrets are gone. -/
def Keys.clearConfirmation (keys : Keys) : Keys :=
  { keys with th := .zero 32, confirmC := .zero 32, confirmP := .zero 32 }

/-- The keys of an attempt on a ticket. -/
def Ticket.keys (crypto : Crypto) (ticket : Ticket) (sid : Block 16) (nc np : Block 32) : Keys :=
  resumeKeys crypto ticket.profile ticket.root
    (transcriptBytes ticket.profile ticket.id sid nc np)

/-- A successful `pq_resume_accept` of the INIT with session id `sid` and nonce `nc`. -/
structure Accepted (crypto : Crypto) (core : Core) (seen : Observation) (init : Bytes)
    (np : Block 32) (wire : Bytes) (core' : Core) (sid : Block 16) (nc : Block 32) : Prop where
  idle : core.session.state = .idle
  link : seen.Protected
  known : KnownProfile seen.profile
  eligible : Eligible core.ticket seen
  init_eq : init = initFrame crypto seen.profile core.ticket.root core.ticket.id sid nc
  fresh : ∀ old ∈ core.ticket.replay, old.nonce ≠ nc ∧ old.sid ≠ sid
  room : core.ticket.replay.length < pqResumeReplayCapacity
  wire_eq : wire = acceptFrame crypto seen.profile core.ticket.root core.ticket.id sid nc np
  ticket_eq : core'.ticket = core.ticket.remember ⟨nc, sid⟩
  session_eq : core'.session =
    { state := .waitC, sid, deadlineMs := seen.now + 30000,
      keys := core.ticket.keys crypto sid nc np }

/-- A successful `pq_resume_finish`. -/
structure Finished (crypto : Crypto) (core : Core) (seen : Observation) (finish wire : Bytes)
    (core' : Core) : Prop where
  waiting : core.session.state = .waitC
  intime : seen.now < core.session.deadlineMs
  link : seen.Protected
  known : KnownProfile seen.profile
  eligible : Eligible core.ticket seen
  finish_eq : finish = finishCFrame crypto seen.profile core.session.keys
  wire_eq : wire = finishPFrame crypto seen.profile core.session.keys
  core_eq : core' = { core with session := { core.session with state := .pendingP } }

/-- A successful `pq_resume_commit`. -/
structure Committed (core : Core) (seen : Observation) (core' : Core) : Prop where
  pending : core.session.state = .pendingP
  intime : seen.now < core.session.deadlineMs
  link : seen.Protected
  eligible : Eligible core.ticket seen
  ticket_eq : core'.ticket = core.ticket.use
  session_eq : core'.session =
    { core.session with state := .secure, keys := core.session.keys.clearConfirmation }

/-- What every failed call leaves: a wiped session and a cleared output buffer. -/
structure Failed (size : ℕ) (answer : Answer) (core' : Core) : Prop where
  reason_ne : answer.reason ≠ .ok
  wire_eq : answer.wire = List.replicate size 0
  session_eq : core'.session = Session.zero

theorem leave_eq_ok {core core' : Core} {size : ℕ} {answer : Answer}
    {body : Except (Reason × Ticket) (Bytes × Core)} (h : leave core size body = (answer, core')) :
    (∃ wire, body = .ok (wire, core') ∧ answer = ⟨.ok, wire⟩) ∨
      ∃ reason, body = .error (reason, core'.ticket) ∧ answer = ⟨reason, List.replicate size 0⟩ ∧
        core'.session = Session.zero := by
  cases body with
  | ok result =>
    cases h
    exact .inl ⟨_, rfl, rfl⟩
  | error failure =>
    cases h
    exact .inr ⟨_, rfl, rfl, rfl⟩

/-- A parsed INIT whose id and tag verify is the INIT frame of a Central that holds the root. -/
theorem eq_initFrame {crypto : Crypto} {faults : Faults} {profile : UInt8} {root mac np : Block 32}
    {id : Block 16} {init payload : Bytes} (hparse : pqResumeParse profile init = some (subtypeInit, payload))
    (hmac : authentication crypto faults profile root false (.slice payload 0 64) np = some mac)
    (hid : id = .slice payload 0 16) (htag : mac = .slice payload 64 32) :
    init = initFrame crypto profile root id (.slice payload 16 16) (.slice payload 32 32) := by
  obtain ⟨hknown, hsize, rfl⟩ := pqResumeParse_eq_some_iff.mp hparse
  obtain ⟨rid, sid, nc, tag, rfl⟩ := exists_initPayload (Option.some.inj hsize).symm
  obtain ⟨hrid, hsid, hnc, htag'⟩ := initPayload_fields rid sid nc tag
  have hmac := authentication_init_eq_some hknown (initPayload_context rid sid nc tag) hmac
  rw [htag'] at htag
  rw [hid, hrid, hsid, hnc, initFrame, ← hmac, htag]

/-- **Success of `pq_resume_accept`.** -/
theorem acceptBody_eq_ok {crypto : Crypto} {faults : Faults} {core core' : Core}
    {seen : Observation} {init wire : Bytes} {np : Block 32}
    (h : acceptBody crypto faults core seen init np = .ok (wire, core')) :
    ∃ sid nc, Accepted crypto core seen init np wire core' sid nc := by
  simp only [acceptBody, except_bind_eq_ok_iff, require_eq_ok_iff, orFail_eq_ok_iff,
    requireEligible_eq_ok_iff, Prod.exists, exists_and_left, exists_const] at h
  obtain ⟨hidle, hlink, -, subtype, payload, hparse, hsubtype, helig, mac, hmac, ⟨hid, htag⟩,
    hfresh, hroom, keys, hkeys, mac', hmac', wire', hwire, hresult⟩ := h
  subst hsubtype
  obtain ⟨hknown, hsize, rfl⟩ := pqResumeParse_eq_some_iff.mp hparse
  obtain ⟨rid, sid, nc, tag, rfl⟩ := exists_initPayload (Option.some.inj hsize).symm
  obtain ⟨hrid, hsid, hnc, htag'⟩ := initPayload_fields rid sid nc tag
  rw [hrid] at hid
  rw [htag'] at htag
  rw [hrid, hsid, hnc, ← hid] at hkeys
  rw [hnc, hsid] at hfresh
  have hcontext := initPayload_context rid sid nc tag
  have hmac := authentication_init_eq_some hknown hcontext hmac
  have hmac' := authentication_accept_eq_some hknown hcontext hmac'
  have hkeys := pqResumeDerive_eq_some hknown hkeys
  rw [pqResumeEncode_eq_some hknown (by simp; rfl) (by simp)] at hwire
  cases hwire
  obtain ⟨rfl, rfl⟩ := Prod.mk.inj (Except.ok.inj hresult)
  refine ⟨sid, nc, hidle, hlink, hknown, helig, ?_, hfresh, hroom, ?_, ?_, ?_⟩
  · rw [initFrame, hid, ← hmac, htag]
  · rw [acceptFrame, hid, ← hmac']
  · rw [hnc, hsid]
    rfl
  · rw [hsid, hkeys, Ticket.keys, helig.profile_eq]

/-- **Failure of `pq_resume_accept`.**  The ticket is untouched, or as the eligibility check leaves
it, or it already remembers the genuine and fresh INIT that a later platform failure aborted. -/
theorem acceptBody_eq_error {crypto : Crypto} {faults : Faults} {core : Core}
    {seen : Observation} {init : Bytes} {np : Block 32} {reason : Reason} {ticket : Ticket}
    (h : acceptBody crypto faults core seen init np = .error (reason, ticket)) :
    reason ≠ .ok ∧ (ticket = core.ticket ∨ ticket = core.ticket.checked seen.now ∨
      ∃ entry : ReplayEntry,
        init = initFrame crypto seen.profile core.ticket.root core.ticket.id entry.sid entry.nonce ∧
        Eligible core.ticket seen ∧
        (∀ old ∈ core.ticket.replay, old.nonce ≠ entry.nonce ∧ old.sid ≠ entry.sid) ∧
        core.ticket.replay.length < pqResumeReplayCapacity ∧
        ticket = core.ticket.remember entry) := by
  simp only [acceptBody, except_bind_eq_error_iff, require_eq_ok_iff, require_eq_error_iff,
    orFail_eq_ok_iff, orFail_eq_error_iff, requireEligible_eq_ok_iff, Prod.exists,
    exists_and_left, exists_const, Prod.mk.injEq] at h
  -- The checks before the append leave the ticket alone; eligibility may wipe it.
  rcases h with ⟨-, rfl, rfl⟩ | ⟨-, ⟨-, rfl, rfl⟩ | ⟨-, ⟨-, rfl, rfl⟩ | ⟨-, h⟩⟩⟩
  iterate 3 exact ⟨by decide, .inl rfl⟩
  rcases h with ⟨-, rfl, rfl⟩ | ⟨subtype, payload, hparse, ⟨-, rfl, rfl⟩ | ⟨hsubtype, helig | ⟨helig, h⟩⟩⟩
  iterate 2 exact ⟨by decide, .inl rfl⟩
  · obtain ⟨hne, heq⟩ := requireEligible_eq_error helig
    exact ⟨hne, .inr (.inl heq)⟩
  rcases h with ⟨-, rfl, rfl⟩ | ⟨mac, hmac, ⟨-, rfl, rfl⟩ | ⟨⟨hid, htag⟩, ⟨-, rfl, rfl⟩ | ⟨hfresh, h⟩⟩⟩
  iterate 3 exact ⟨by decide, .inl rfl⟩
  rcases h with ⟨-, rfl, rfl⟩ | ⟨hroom, h⟩
  · exact ⟨by decide, .inl rfl⟩
  -- From here on the INIT is remembered whatever happens.
  subst hsubtype
  have hgenuine := eq_initFrame hparse hmac hid htag
  rcases h with ⟨-, rfl, rfl⟩ | ⟨keys, -, ⟨-, rfl, rfl⟩ | ⟨mac, -, ⟨-, rfl, rfl⟩ | ⟨_, -, h⟩⟩⟩
  iterate 3 exact ⟨by decide, .inr (.inr
    ⟨⟨.slice payload 32 32, .slice payload 16 16⟩, hgenuine, helig, hfresh, hroom, rfl⟩)⟩
  cases h

/-- **Success of `pq_resume_finish`.** -/
theorem finishBody_eq_ok {crypto : Crypto} {faults : Faults} {core core' : Core}
    {seen : Observation} {finish wire : Bytes}
    (h : finishBody crypto faults core seen finish = .ok (wire, core')) :
    Finished crypto core seen finish wire core' := by
  simp only [finishBody, except_bind_eq_ok_iff, require_eq_ok_iff, orFail_eq_ok_iff,
    requireEligible_eq_ok_iff, Prod.exists, exists_and_left, exists_const, Option.bind_eq_bind,
    Option.bind_eq_some_iff] at h
  obtain ⟨hlink, ⟨hwait, hintime⟩, subtype, payload, hparse, hsubtype, helig, mac,
    ⟨name, hname, hmac⟩, htag, wire', ⟨name', hname', mac', hmac', hwire⟩, hresult⟩ := h
  subst hsubtype
  obtain ⟨hknown, hsize, rfl⟩ := pqResumeParse_eq_some_iff.mp hparse
  rw [label_eq_some hknown (by decide)] at hname hname'
  cases hname
  cases hname'
  have hmac := pqV1Cp3VerifyData_eq_some hmac
  have hmac' := pqV1Cp3VerifyData_eq_some hmac'
  rw [pqResumeEncode_eq_some hknown (by simp; rfl) (by simp)] at hwire
  cases hwire
  obtain ⟨rfl, rfl⟩ := Prod.mk.inj (Except.ok.inj hresult)
  have hpayload : payload = (Block.slice payload 0 32).bytes :=
    (Block.ofBytes_eq_self (Option.some.inj hsize).symm).symm
  refine ⟨hwait, hintime, hlink, hknown, helig, ?_, ?_, rfl⟩
  · rw [finishCFrame, hpayload, ← htag, hmac]
    rfl
  · rw [finishPFrame, hmac']
    rfl

/-- **Failure of `pq_resume_finish`.** -/
theorem finishBody_eq_error {crypto : Crypto} {faults : Faults} {core : Core}
    {seen : Observation} {finish : Bytes} {reason : Reason} {ticket : Ticket}
    (h : finishBody crypto faults core seen finish = .error (reason, ticket)) :
    reason ≠ .ok ∧ (ticket = core.ticket ∨ ticket = core.ticket.checked seen.now) := by
  simp only [finishBody, except_bind_eq_error_iff, require_eq_ok_iff, require_eq_error_iff,
    orFail_eq_ok_iff, orFail_eq_error_iff, requireEligible_eq_ok_iff, Prod.exists,
    exists_and_left, exists_const, Prod.mk.injEq] at h
  rcases h with ⟨-, rfl, rfl⟩ | ⟨-, ⟨-, rfl, rfl⟩ | ⟨-, ⟨-, rfl, rfl⟩ | ⟨_, _, -, h⟩⟩⟩
  iterate 3 exact ⟨by decide, .inl rfl⟩
  rcases h with ⟨-, rfl, rfl⟩ | ⟨-, helig | ⟨-, h⟩⟩
  · exact ⟨by decide, .inl rfl⟩
  · obtain ⟨hne, heq⟩ := requireEligible_eq_error helig
    exact ⟨hne, .inr heq⟩
  rcases h with ⟨-, rfl, rfl⟩ | ⟨_, -, ⟨-, rfl, rfl⟩ | ⟨-, ⟨-, rfl, rfl⟩ | ⟨_, -, h⟩⟩⟩
  iterate 3 exact ⟨by decide, .inl rfl⟩
  cases h

/-- **Success of `pq_resume_commit`.** -/
theorem commitBody_eq_ok {core core' : Core} {seen : Observation} {wire : Bytes}
    (h : commitBody core seen = .ok (wire, core')) : Committed core seen core' := by
  simp only [commitBody, except_bind_eq_ok_iff, require_eq_ok_iff, requireEligible_eq_ok_iff,
    exists_and_left, exists_const] at h
  obtain ⟨hlink, ⟨hpending, hintime⟩, helig, hresult⟩ := h
  obtain ⟨-, rfl⟩ := Prod.mk.inj (Except.ok.inj hresult)
  exact ⟨hpending, hintime, hlink, helig, rfl, rfl⟩

/-- **Failure of `pq_resume_commit`.** -/
theorem commitBody_eq_error {core : Core} {seen : Observation} {reason : Reason} {ticket : Ticket}
    (h : commitBody core seen = .error (reason, ticket)) :
    reason ≠ .ok ∧ (ticket = core.ticket ∨ ticket = core.ticket.checked seen.now) := by
  simp only [commitBody, except_bind_eq_error_iff, require_eq_ok_iff, require_eq_error_iff,
    requireEligible_eq_ok_iff, exists_and_left, exists_const, Prod.mk.injEq] at h
  rcases h with ⟨-, rfl, rfl⟩ | ⟨-, ⟨-, rfl, rfl⟩ | ⟨-, helig | ⟨-, h⟩⟩⟩
  iterate 2 exact ⟨by decide, .inl rfl⟩
  · obtain ⟨hne, heq⟩ := requireEligible_eq_error helig
    exact ⟨hne, .inr heq⟩
  · cases h

/-! ## The calls as one machine -/

/-- One call on the ticket and the session. -/
inductive Call
  | accept (faults : Faults) (seen : Observation) (init : Bytes) (np : Block 32)
  | finish (faults : Faults) (seen : Observation) (finish : Bytes)
  | commit (seen : Observation)
  | disconnect

/-- The Peripheral core under any sequence of calls. -/
def peripheral (crypto : Crypto) : Machine Core Call Answer where
  step core
    | .accept faults seen init np => pqResumeAccept crypto faults core seen init np
    | .finish faults seen finish => pqResumeFinish crypto faults core seen finish
    | .commit seen => pqResumeCommit core seen
    | .disconnect => (⟨.ok, []⟩, { core with session := pqResumeDisconnect core.session })

section Cases

variable {crypto : Crypto} {faults : Faults} {core core' : Core} {seen : Observation}
  {answer : Answer}

/-- Both outcomes of `pq_resume_accept`. -/
theorem pqResumeAccept_cases {init : Bytes} {np : Block 32}
    (h : pqResumeAccept crypto faults core seen init np = (answer, core')) :
    (answer.reason = .ok ∧
        ∃ sid nc, Accepted crypto core seen init np answer.wire core' sid nc) ∨
      Failed 72 answer core' ∧
        (core'.ticket = core.ticket ∨ core'.ticket = core.ticket.checked seen.now ∨
          ∃ entry : ReplayEntry,
            init = initFrame crypto seen.profile core.ticket.root core.ticket.id entry.sid entry.nonce ∧
            Eligible core.ticket seen ∧
            (∀ old ∈ core.ticket.replay, old.nonce ≠ entry.nonce ∧ old.sid ≠ entry.sid) ∧
            core.ticket.replay.length < pqResumeReplayCapacity ∧
            core'.ticket = core.ticket.remember entry) := by
  rcases leave_eq_ok h with ⟨wire, hbody, rfl⟩ | ⟨reason, hbody, rfl, hsession⟩
  · exact .inl ⟨rfl, acceptBody_eq_ok hbody⟩
  · obtain ⟨hne, hticket⟩ := acceptBody_eq_error hbody
    exact .inr ⟨⟨hne, rfl, hsession⟩, hticket⟩

/-- Both outcomes of `pq_resume_finish`. -/
theorem pqResumeFinish_cases {finish : Bytes}
    (h : pqResumeFinish crypto faults core seen finish = (answer, core')) :
    (answer.reason = .ok ∧ Finished crypto core seen finish answer.wire core') ∨
      Failed 40 answer core' ∧
        (core'.ticket = core.ticket ∨ core'.ticket = core.ticket.checked seen.now) := by
  rcases leave_eq_ok h with ⟨wire, hbody, rfl⟩ | ⟨reason, hbody, rfl, hsession⟩
  · exact .inl ⟨rfl, finishBody_eq_ok hbody⟩
  · obtain ⟨hne, hticket⟩ := finishBody_eq_error hbody
    exact .inr ⟨⟨hne, rfl, hsession⟩, hticket⟩

/-- Both outcomes of `pq_resume_commit`. -/
theorem pqResumeCommit_cases (h : pqResumeCommit core seen = (answer, core')) :
    (answer.reason = .ok ∧ Committed core seen core') ∨
      Failed 0 answer core' ∧
        (core'.ticket = core.ticket ∨ core'.ticket = core.ticket.checked seen.now) := by
  rcases leave_eq_ok h with ⟨wire, hbody, rfl⟩ | ⟨reason, hbody, rfl, hsession⟩
  · exact .inl ⟨rfl, commitBody_eq_ok hbody⟩
  · obtain ⟨hne, hticket⟩ := commitBody_eq_error hbody
    exact .inr ⟨⟨hne, rfl, hsession⟩, hticket⟩

end Cases

end PqBleHandshake.Resumption
