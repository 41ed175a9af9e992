import PqBleHandshake.Resumption.Central
import PqBleHandshake.Resumption.TicketLifetime

/-!
# Agreement of the resume handshake

Any number of Python Centrals and one Peripheral core run over a network that the adversary owns:
every frame a party receives is an arbitrary byte string, and every call may come at any time and in
any order.  Tickets are provisioned to Centrals and issued to the Peripheral with arbitrary contents,
so a root may be shared, reused or held by one side alone.  The only guards on the steps are that the
random draws are fresh: the session id and nonce of a new Central, and the nonce the Peripheral draws
for an INIT.

Beside the parties' own state the system keeps a history of what each session saw and sent, and the
log of the cryptography used.  Agreement follows from the FINISH tags alone: a FINISH tag that was
accepted was computed by the other side over the same transcript hash under the same confirmation
key, and in an ideal run the key fixes the transcript and the root.
-/

namespace PqBleHandshake.Resumption

open Foundation

/-! ## The system -/

/-- What one INIT fixes: the root behind it, its fields, and the frame itself. -/
structure Opening where
  root : Block 32
  rid : Block 16
  sid : Block 16
  nc : Block 32
  init : Bytes
deriving DecidableEq

/-- What a Central got and sent once it accepted an ACCEPT. -/
structure Reply where
  np : Block 32
  accept : Bytes
  finishC : Bytes
  keys : Keys
deriving DecidableEq

/-- A Central session: the Python object, the ticket object it refers to, its random draws, and its
history. -/
structure CentralSession where
  ticket : ℕ
  central : Python.CentralResume
  sid : Block 16
  nc : Block 32
  opening : Option Opening
  reply : Option Reply

/-- The history of an attempt that the Peripheral accepted. -/
structure PeripheralSession where
  profile : UInt8
  opening : Opening
  np : Block 32
  accept : Bytes
  keys : Keys
  verified : Option Bytes
  committed : Bool
deriving DecidableEq

/-- All parties of a run.  Peripheral sessions are listed newest first. -/
structure System where
  tickets : List Python.Ticket
  centrals : List CentralSession
  core : Core
  sessions : List PeripheralSession
  drawn : List (Block 32)
  log : CryptoLog

/-- Nobody has a ticket and nothing has been sent. -/
def System.initial : System where
  tickets := []
  centrals := []
  core := { ticket := Ticket.zero, session := Session.zero }
  sessions := []
  drawn := []
  log := {}

/-- One step of the system; every byte string in it is the adversary's choice. -/
inductive Action
  | provision (ticket : Python.Ticket)
  | clearTicket (index : ℕ)
  | create (index : ℕ) (now : ℚ) (sid : Block 16) (nc : Block 32)
  | begin (index : ℕ)
  | receiveAccept (index : ℕ) (raw : Bytes)
  | receiveFinishP (index : ℕ) (raw : Bytes)
  | clearCentral (index : ℕ)
  | issue (faults : Faults) (profile : UInt8) (root th : Block 32) (peer : Block 7) (now : ℤ)
      (authenticated : Bool)
  | invalidate
  | call (call : Call)

/-- The derivation of one session, as the log records it. -/
def derivation (crypto : Crypto) (profile : UInt8) (root : Block 32) (input : Bytes) : CryptoLog :=
  { hashed := [input], derived := resumeQueries crypto profile root input }

/-- `begin` on one Central session. -/
def CentralSession.begin (crypto : Crypto) (c : CentralSession) (t : Python.Ticket) :
    CentralSession × CryptoLog :=
  match c.central.begin crypto t with
  | (.ok wire, central) =>
    let rid : Block 16 := .ofBytes 16 t.rid
    ({ c with central, opening := some { root := t.root, rid, sid := c.sid, nc := c.nc, init := wire } },
      { issued := [(t.root, initMessage central.profile rid c.sid c.nc)] })
  | (.error _, central) => ({ c with central }, {})

/-- `accept` on one Central session. -/
def CentralSession.receiveAccept (crypto : Crypto) (c : CentralSession) (t : Python.Ticket)
    (raw : Bytes) : CentralSession × CryptoLog :=
  match c.central.accept crypto t raw with
  | (.ok wire, central) =>
    let rid : Block 16 := .ofBytes 16 t.rid
    let np : Block 32 := .slice raw 8 32
    let input := transcriptBytes central.profile rid c.sid c.nc np
    let keys := resumeKeys crypto central.profile t.root input
    ({ c with central, reply := some { np, accept := raw, finishC := wire, keys } },
      derivation crypto central.profile t.root input ++
        { issued := [(keys.confirmC, finishMessage central.profile true keys.th)]
          relied := [(t.root, acceptMessage central.profile rid c.sid c.nc np)] })
  | (.error _, central) => ({ c with central }, {})

/-- `finish` on one Central session. -/
def CentralSession.receiveFinishP (crypto : Crypto) (c : CentralSession) (t : Python.Ticket)
    (raw : Bytes) : CentralSession × Python.Ticket × CryptoLog :=
  match c.central.finish crypto t raw with
  | (.ok _, central, t') =>
    let relied := c.central.keys.map fun keys ↦
      (keys.confirmP, finishMessage central.profile false keys.th)
    ({ c with central }, t', { relied := relied.toList })
  | (.error _, central, t') => ({ c with central }, t', {})

/-- One call on the Peripheral, with the history it adds. -/
def System.call (crypto : Crypto) (s : System) (call : Call) : Option System :=
  let result := (peripheral crypto).step s.core call
  let s' := { s with core := result.2 }
  match call with
  | .accept _ seen init np =>
    if np ∈ s.drawn then none
    else if result.1.reason = .ok then
      let t := s.core.ticket
      let entry := initEntry init
      let input := transcriptBytes seen.profile t.id entry.sid entry.nonce np
      let opening := { root := t.root, rid := t.id, sid := entry.sid, nc := entry.nonce, init }
      some { s' with
        drawn := np :: s.drawn
        sessions := { profile := seen.profile, opening, np, accept := result.1.wire
                      keys := result.2.session.keys, verified := none, committed := false } ::
          s.sessions
        log := s.log ++ (derivation crypto seen.profile t.root input ++
          { issued := [(t.root, acceptMessage seen.profile t.id entry.sid entry.nonce np)]
            relied := [(t.root, initMessage seen.profile t.id entry.sid entry.nonce)] }) }
    else some { s' with drawn := np :: s.drawn }
  | .finish _ seen finish =>
    if result.1.reason = .ok then
      let keys := s.core.session.keys
      some { s' with
        sessions := s.sessions.modifyHead fun p ↦ { p with verified := some finish }
        log := s.log ++
          { issued := [(keys.confirmP, finishMessage seen.profile false keys.th)]
            relied := [(keys.confirmC, finishMessage seen.profile true keys.th)] } }
    else some s'
  | .commit _ =>
    if result.1.reason = .ok then
      some { s' with sessions := s.sessions.modifyHead fun p ↦ { p with committed := true } }
    else some s'
  | .disconnect => some s'

/-- One step of the system, if its party exists and its draws are fresh. -/
def System.step (crypto : Crypto) (s : System) : Action → Option System
  | .provision ticket => some { s with tickets := s.tickets ++ [ticket] }
  | .clearTicket index => do
    let t ← s.tickets[index]?
    return { s with tickets := s.tickets.set index t.clear }
  | .create index now sid nc => do
    let t ← s.tickets[index]?
    if ∀ c ∈ s.centrals, c.sid ≠ sid ∧ c.nc ≠ nc then
      match Python.CentralResume.create t now sid nc with
      | .ok central =>
        some { s with
          centrals := s.centrals ++
            [{ ticket := index, central, sid, nc, opening := none, reply := none }] }
      | .error (_, t') => some { s with tickets := s.tickets.set index t' }
    else none
  | .begin index => do
    let c ← s.centrals[index]?
    let t ← s.tickets[c.ticket]?
    let (c', more) := c.begin crypto t
    return { s with centrals := s.centrals.set index c', log := s.log ++ more }
  | .receiveAccept index raw => do
    let c ← s.centrals[index]?
    let t ← s.tickets[c.ticket]?
    let (c', more) := c.receiveAccept crypto t raw
    return { s with centrals := s.centrals.set index c', log := s.log ++ more }
  | .receiveFinishP index raw => do
    let c ← s.centrals[index]?
    let t ← s.tickets[c.ticket]?
    let (c', t', more) := c.receiveFinishP crypto t raw
    return { s with
      centrals := s.centrals.set index c', tickets := s.tickets.set c.ticket t'
      log := s.log ++ more }
  | .clearCentral index => do
    let c ← s.centrals[index]?
    return { s with centrals := s.centrals.set index { c with central := c.central.clear } }
  | .issue faults profile root th peer now authenticated =>
    match pqResumeIssue crypto faults profile root th peer now authenticated with
    | some ticket => some { s with core := { s.core with ticket } }
    | none => some s
  | .invalidate => some { s with core := { s.core with ticket := pqResumeInvalidate s.core.ticket } }
  | .call call => s.call crypto call

/-! ## Tickets only fade

A ticket object never changes its id or root except that `clear` empties the id, after which it
authenticates nothing. -/

/-- The ticket is as it was, or its id is gone. -/
def Python.Ticket.Fades (t t' : Python.Ticket) : Prop :=
  t'.rid = t.rid ∧ t'.root = t.root ∨ t'.rid = []

theorem Python.Ticket.fades_refl (t : Python.Ticket) : t.Fades t := .inl ⟨rfl, rfl⟩

theorem Python.Ticket.fades_clear (t : Python.Ticket) : t.Fades t.clear := .inr rfl

theorem Python.Ticket.fades_used (t : Python.Ticket) : t.Fades t.used := by
  unfold used
  dsimp only
  split
  · exact .inr rfl
  · exact .inl ⟨rfl, rfl⟩

theorem Python.Ticket.fades_check {t t' : Python.Ticket} {profile : UInt8} {peer : Block 7}
    {now : ℚ} {reason : Reason} (h : t.check profile peer now = .error (reason, t')) :
    t.Fades t' := by
  unfold check at h
  split_ifs at h <;> cases h
  · exact t.fades_refl
  · exact t.fades_clear
  · exact t.fades_clear
  · exact t.fades_refl

/-- Every ticket of a store is still there, at most faded. -/
def TicketsFade (tickets tickets' : List Python.Ticket) : Prop :=
  ∀ (index : ℕ) (t : Python.Ticket), tickets[index]? = some t →
    ∃ t', tickets'[index]? = some t' ∧ t.Fades t'

theorem ticketsFade_refl (tickets : List Python.Ticket) : TicketsFade tickets tickets :=
  fun _ t h ↦ ⟨t, h, t.fades_refl⟩

theorem ticketsFade_append (tickets more : List Python.Ticket) :
    TicketsFade tickets (tickets ++ more) := by
  intro index t h
  have hlt := (List.getElem?_eq_some_iff.mp h).1
  exact ⟨t, by rw [List.getElem?_append_left hlt, h], t.fades_refl⟩

theorem ticketsFade_set {tickets : List Python.Ticket} {index : ℕ} {t t' : Python.Ticket}
    (h : tickets[index]? = some t) (hfades : t.Fades t') :
    TicketsFade tickets (tickets.set index t') := by
  intro i u hu
  obtain ⟨hlt, -⟩ := List.getElem?_eq_some_iff.mp hu
  by_cases hi : index = i
  · subst hi
    obtain rfl := Option.some.inj (h.symm.trans hu)
    exact ⟨t', List.getElem?_set_self hlt, hfades⟩
  · exact ⟨u, by rw [List.getElem?_set_ne hi, hu], u.fades_refl⟩

/-! ## The invariant -/

/-- The schedule input of an opening and the Peripheral nonce. -/
def Opening.input (opening : Opening) (profile : UInt8) (np : Block 32) : Bytes :=
  transcriptBytes profile opening.rid opening.sid opening.nc np

/-- The keys of an opening and the Peripheral nonce. -/
def Opening.keys (crypto : Crypto) (opening : Opening) (profile : UInt8) (np : Block 32) : Keys :=
  resumeKeys crypto profile opening.root (opening.input profile np)

/-- What is known of a Central that has sent its INIT. -/
structure CentralSession.Opened (crypto : Crypto) (tickets : List Python.Ticket)
    (c : CentralSession) (o : Opening) : Prop where
  sid_eq : o.sid = c.sid
  nc_eq : o.nc = c.nc
  known : KnownProfile c.central.profile
  init_eq : o.init = initFrame crypto c.central.profile o.root o.rid o.sid o.nc
  ticket : ∀ t, tickets[c.ticket]? = some t → t.rid = [] ∨ t.rid = o.rid.bytes ∧ t.root = o.root

/-- What is known of a Central that has sent its FINISH_C. -/
structure CentralSession.Replied (crypto : Crypto) (log : CryptoLog) (c : CentralSession)
    (o : Opening) (r : Reply) : Prop where
  opened : c.opening = some o
  accept_eq : r.accept = acceptFrame crypto c.central.profile o.root o.rid o.sid o.nc r.np
  keys_eq : r.keys = o.keys crypto c.central.profile r.np
  finishC_eq : r.finishC = finishCFrame crypto c.central.profile r.keys
  logged : Logged crypto log c.central.profile o.root (o.input c.central.profile r.np)

/-- The invariant of one Central session. -/
structure CentralSession.Inv (crypto : Crypto) (tickets : List Python.Ticket) (log : CryptoLog)
    (c : CentralSession) : Prop where
  has_ticket : ∃ t, tickets[c.ticket]? = some t
  opened : ∀ o, c.opening = some o → c.Opened crypto tickets o
  replied : ∀ r, c.reply = some r → ∃ o, c.Replied crypto log o r
  new : c.central.state = .new → c.central.sessionId = c.sid.bytes ∧ c.central.nc = c.nc.bytes ∧
    c.opening = none ∧ c.reply = none
  waiting : c.central.state = .waitAccept →
    c.central.sessionId = c.sid.bytes ∧ c.central.nc = c.nc.bytes ∧ c.reply = none ∧
      (c.opening = none → KnownProfile c.central.profile →
        ∀ t, tickets[c.ticket]? = some t → ∀ rid : Block 16, t.rid ≠ rid.bytes)
  confirming : c.central.state = .waitFinishP →
    ∃ r, c.reply = some r ∧ c.central.keys = some { r.keys with profile := c.central.profile }
  secure : c.central.state = .appSecure →
    ∃ r, c.reply = some r ∧
      c.central.keys = some { r.keys.clearConfirmation with profile := c.central.profile } ∧
      (r.keys.confirmP, finishMessage c.central.profile false r.keys.th) ∈ log.relied

/-- The invariant of one Peripheral session. -/
structure PeripheralSession.Inv (crypto : Crypto) (drawn : List (Block 32)) (log : CryptoLog)
    (p : PeripheralSession) : Prop where
  known : KnownProfile p.profile
  init_eq : p.opening.init =
    initFrame crypto p.profile p.opening.root p.opening.rid p.opening.sid p.opening.nc
  accept_eq : p.accept =
    acceptFrame crypto p.profile p.opening.root p.opening.rid p.opening.sid p.opening.nc p.np
  keys_eq : p.keys = p.opening.keys crypto p.profile p.np
  logged : Logged crypto log p.profile p.opening.root (p.opening.input p.profile p.np)
  drawn : p.np ∈ drawn
  verified : ∀ finish, p.verified = some finish → ∃ profile, KnownProfile profile ∧
    finish = finishCFrame crypto profile p.keys ∧
    (p.keys.confirmC, finishMessage profile true p.keys.th) ∈ log.relied
  committed : p.committed = true → p.verified ≠ none

/-- Who computed a tag of the log, and for which session. -/
inductive Origin (crypto : Crypto) (s : System) : MacQuery → Prop
  | init {c : CentralSession} {o : Opening} (hc : c ∈ s.centrals) (ho : c.opening = some o)
      (hknown : KnownProfile c.central.profile) :
      Origin crypto s (o.root, initMessage c.central.profile o.rid o.sid o.nc)
  | accept {p : PeripheralSession} (hp : p ∈ s.sessions) (hknown : KnownProfile p.profile) :
      Origin crypto s (p.opening.root,
        acceptMessage p.profile p.opening.rid p.opening.sid p.opening.nc p.np)
  | finishC {c : CentralSession} {r : Reply} (hc : c ∈ s.centrals) (hr : c.reply = some r)
      (hknown : KnownProfile c.central.profile) :
      Origin crypto s (r.keys.confirmC, finishMessage c.central.profile true r.keys.th)
  | finishP {p : PeripheralSession} {profile : UInt8} (hp : p ∈ s.sessions)
      (hknown : KnownProfile profile)
      (hverified : p.verified = some (finishCFrame crypto profile p.keys)) :
      Origin crypto s (p.keys.confirmP, finishMessage profile false p.keys.th)

/-- The Peripheral's current session belongs to its newest history entry. -/
structure Live (session : Session) (sessions : List PeripheralSession) : Prop where
  waiting : session.state = .waitC → ∃ p past, sessions = p :: past ∧ session.keys = p.keys ∧
    p.verified = none
  pending : session.state = .pendingP → ∃ p past, sessions = p :: past ∧ session.keys = p.keys ∧
    p.verified ≠ none
  secure : session.state = .secure → ∃ p past, sessions = p :: past ∧
    session.keys = p.keys.clearConfirmation ∧ p.committed = true

/-- The invariant of the system. -/
structure System.Inv (crypto : Crypto) (s : System) : Prop where
  centrals : ∀ c ∈ s.centrals, c.Inv crypto s.tickets s.log
  sessions : ∀ p ∈ s.sessions, p.Inv crypto s.drawn s.log
  issued : ∀ query ∈ s.log.issued, Origin crypto s query
  sids : (s.centrals.map CentralSession.sid).Nodup
  nps : (s.sessions.map PeripheralSession.np).Nodup
  live : Live s.core.session s.sessions

/-! ## Growth of the history -/

theorem CentralSession.Opened.fade {crypto : Crypto} {tickets tickets' : List Python.Ticket}
    {c : CentralSession} {o : Opening} (h : c.Opened crypto tickets o)
    (hticket : ∃ t, tickets[c.ticket]? = some t) (hfade : TicketsFade tickets tickets') :
    c.Opened crypto tickets' o := by
  refine { h with ticket := fun u hu ↦ ?_ }
  obtain ⟨t, ht⟩ := hticket
  obtain ⟨t', ht', hfades⟩ := hfade _ _ ht
  obtain rfl := Option.some.inj (ht'.symm.trans hu)
  rcases hfades with ⟨hrid, hroot⟩ | hempty
  · rw [hrid, hroot]
    exact h.ticket t ht
  · exact .inl hempty

theorem CentralSession.Replied.mono {crypto : Crypto} {log log' : CryptoLog} {c : CentralSession}
    {o : Opening} {r : Reply} (h : c.Replied crypto log o r) (hext : log.Extends log') :
    c.Replied crypto log' o r :=
  { h with logged := h.logged.mono hext }

/-- A Central session that takes no step keeps its invariant while tickets fade and the log grows. -/
theorem CentralSession.Inv.mono {crypto : Crypto} {tickets tickets' : List Python.Ticket}
    {log log' : CryptoLog} {c : CentralSession} (h : c.Inv crypto tickets log)
    (hfade : TicketsFade tickets tickets') (hext : log.Extends log') :
    c.Inv crypto tickets' log' where
  has_ticket := by
    obtain ⟨t, ht⟩ := h.has_ticket
    obtain ⟨t', ht', -⟩ := hfade _ _ ht
    exact ⟨t', ht'⟩
  opened o ho := (h.opened o ho).fade h.has_ticket hfade
  replied r hr := (h.replied r hr).imp fun _ ho ↦ ho.mono hext
  new := h.new
  waiting hstate := by
    obtain ⟨hsid, hnc, hreply, hrid⟩ := h.waiting hstate
    refine ⟨hsid, hnc, hreply, fun hnone hknown u hu rid hurid ↦ ?_⟩
    obtain ⟨t, ht⟩ := h.has_ticket
    obtain ⟨t', ht', hfades⟩ := hfade _ _ ht
    obtain rfl := Option.some.inj (ht'.symm.trans hu)
    rcases hfades with ⟨hsame, -⟩ | hempty
    · exact hrid hnone hknown t ht rid (hsame.symm.trans hurid)
    · have hlength := congrArg List.length (hempty.symm.trans hurid)
      simp at hlength
  confirming := h.confirming
  secure hstate := by
    obtain ⟨r, hr, hkeys, hrelied⟩ := h.secure hstate
    exact ⟨r, hr, hkeys, hext.relied hrelied⟩

theorem PeripheralSession.Inv.mono {crypto : Crypto} {drawn drawn' : List (Block 32)}
    {log log' : CryptoLog} {p : PeripheralSession} (h : p.Inv crypto drawn log)
    (hdrawn : drawn ⊆ drawn') (hext : log.Extends log') : p.Inv crypto drawn' log' :=
  { h with
    logged := h.logged.mono hext
    drawn := hdrawn h.drawn
    verified := fun finish hfinish ↦ by
      obtain ⟨profile, hknown, heq, hrelied⟩ := h.verified finish hfinish
      exact ⟨profile, hknown, heq, hext.relied hrelied⟩ }

/-- A Central session after some steps: the history it has stays. -/
structure CentralSession.Continues (c c' : CentralSession) : Prop where
  sid_eq : c'.sid = c.sid
  profile_eq : c'.central.profile = c.central.profile
  opening : ∀ o, c.opening = some o → c'.opening = some o
  reply : ∀ r, c.reply = some r → c'.reply = some r

theorem CentralSession.continues_refl (c : CentralSession) : c.Continues c :=
  ⟨rfl, rfl, fun _ h ↦ h, fun _ h ↦ h⟩

/-- A Peripheral session after some steps. -/
structure PeripheralSession.Continues (p p' : PeripheralSession) : Prop where
  profile_eq : p'.profile = p.profile
  opening_eq : p'.opening = p.opening
  np_eq : p'.np = p.np
  keys_eq : p'.keys = p.keys
  verified : ∀ finish, p.verified = some finish → p'.verified = some finish

theorem PeripheralSession.continues_refl (p : PeripheralSession) : p.Continues p :=
  ⟨rfl, rfl, rfl, rfl, fun _ h ↦ h⟩

/-- The origin of a tag survives every growth of the histories. -/
theorem Origin.mono {crypto : Crypto} {s s' : System} {query : MacQuery}
    (h : Origin crypto s query)
    (hcentrals : ∀ c ∈ s.centrals, ∃ c' ∈ s'.centrals, c.Continues c')
    (hsessions : ∀ p ∈ s.sessions, ∃ p' ∈ s'.sessions, p.Continues p') :
    Origin crypto s' query := by
  cases h with
  | init hc ho hknown =>
    obtain ⟨c', hc', hcont⟩ := hcentrals _ hc
    rw [← hcont.profile_eq] at hknown ⊢
    exact .init hc' (hcont.opening _ ho) hknown
  | accept hp hknown =>
    obtain ⟨p', hp', hcont⟩ := hsessions _ hp
    rw [← hcont.profile_eq] at hknown ⊢
    rw [← hcont.opening_eq, ← hcont.np_eq]
    exact .accept hp' hknown
  | finishC hc hr hknown =>
    obtain ⟨c', hc', hcont⟩ := hcentrals _ hc
    rw [← hcont.profile_eq] at hknown ⊢
    exact .finishC hc' (hcont.reply _ hr) hknown
  | finishP hp hknown hverified =>
    obtain ⟨p', hp', hcont⟩ := hsessions _ hp
    have hverified' := hcont.verified _ hverified
    rw [← hcont.keys_eq] at hverified' ⊢
    exact .finishP hp' hknown hverified'

/-! ## Steps of a Central -/

namespace CentralSession

variable {crypto : Crypto} {tickets : List Python.Ticket} {log : CryptoLog} {c : CentralSession}
  {t : Python.Ticket}

/-- Closing the object keeps the history and its invariant. -/
theorem Inv.clear (h : c.Inv crypto tickets log) :
    Inv crypto tickets log { c with central := c.central.clear } where
  has_ticket := h.has_ticket
  opened o ho := { h.opened o ho with }
  replied r hr := (h.replied r hr).imp fun _ ho ↦ { ho with }
  new hstate := nomatch hstate
  waiting hstate := nomatch hstate
  confirming hstate := nomatch hstate
  secure hstate := nomatch hstate

theorem continues_central (c : CentralSession) {central : Python.CentralResume}
    (h : central.profile = c.central.profile) : c.Continues { c with central } :=
  ⟨rfl, h, fun _ ho ↦ ho, fun _ hr ↦ hr⟩

/-- `begin` keeps the invariant and computes at most the tag of its own INIT. -/
theorem Inv.begin (h : c.Inv crypto tickets log) (ht : tickets[c.ticket]? = some t) :
    (c.begin crypto t).1.Inv crypto tickets (log ++ (c.begin crypto t).2) ∧
      c.Continues (c.begin crypto t).1 ∧
      ∀ query ∈ (c.begin crypto t).2.issued, ∃ o, (c.begin crypto t).1.opening = some o ∧
        KnownProfile (c.begin crypto t).1.central.profile ∧
        query = (o.root, initMessage (c.begin crypto t).1.central.profile o.rid o.sid o.nc) := by
  obtain ⟨⟨result, central⟩, hbegin⟩ : ∃ result, c.central.begin crypto t = result := ⟨_, rfl⟩
  unfold CentralSession.begin
  rw [hbegin]
  cases result with
  | ok wire =>
    obtain ⟨hnew, rfl, hknown, rid, sid, nc, hrid, hsid, hnc, hwire⟩ :=
      Python.CentralResume.begin_eq_ok hbegin
    obtain ⟨hsid', hnc', hopening, hreply⟩ := h.new hnew
    obtain rfl := Block.bytes_injective (hsid.symm.trans hsid')
    obtain rfl := Block.bytes_injective (hnc.symm.trans hnc')
    have hrid' : Block.ofBytes 16 t.rid = rid := by rw [hrid, Block.ofBytes_self]
    dsimp only
    rw [hrid']
    refine ⟨?_, ⟨rfl, rfl, ?_, ?_⟩, ?_⟩
    · exact {
        has_ticket := h.has_ticket
        opened := by
          rintro o ⟨⟩
          refine ⟨rfl, rfl, hknown, hwire, fun u hu ↦ .inr ?_⟩
          obtain rfl := Option.some.inj (ht.symm.trans hu)
          exact ⟨hrid, rfl⟩
        replied := by
          intro r hr
          rw [show c.reply = some r from hr] at hreply
          cases hreply
        new := fun hstate ↦ nomatch hstate
        waiting := fun _ ↦ ⟨hsid', hnc', hreply, fun hnone ↦ nomatch hnone⟩
        confirming := fun hstate ↦ nomatch hstate
        secure := fun hstate ↦ nomatch hstate }
    · intro o ho
      rw [ho] at hopening
      cases hopening
    · exact fun r hr ↦ hr
    · intro query hquery
      exact ⟨_, rfl, hknown, List.mem_singleton.mp hquery⟩
  | error reason =>
    dsimp only
    have hsame : ∀ log' : CryptoLog, log'.Extends (log' ++ ({} : CryptoLog)) :=
      fun log' ↦ log'.extends_append _
    rcases Python.CentralResume.begin_eq_error (fun hstate ↦ ⟨(h.new hstate).1, (h.new hstate).2.1⟩)
      hbegin with rfl | ⟨hnew, rfl, hbad⟩
    · exact ⟨h.clear.mono (ticketsFade_refl _) (hsame log), c.continues_central rfl,
        fun _ hq ↦ nomatch hq⟩
    · obtain ⟨hsid, hnc, hopening, hreply⟩ := h.new hnew
      refine ⟨Inv.mono ?_ (ticketsFade_refl _) (hsame log), c.continues_central rfl,
        fun _ hq ↦ nomatch hq⟩
      exact {
        has_ticket := h.has_ticket
        opened := fun o ho ↦ { h.opened o ho with }
        replied := fun r hr ↦ (h.replied r hr).imp fun _ ho ↦ { ho with }
        new := fun hstate ↦ nomatch hstate
        waiting := fun _ ↦ ⟨hsid, hnc, hreply, fun _ hknown u hu rid hrid ↦ by
          obtain rfl := Option.some.inj (ht.symm.trans hu)
          exact hbad ⟨hknown, rid, hrid⟩⟩
        confirming := fun hstate ↦ nomatch hstate
        secure := fun hstate ↦ nomatch hstate }

/-- The Peripheral nonce of an ACCEPT frame. -/
theorem slice_acceptFrame (crypto : Crypto) (profile : UInt8) (root : Block 32)
    (rid sid : Block 16) (nc np : Block 32) :
    Block.slice (acceptFrame crypto profile root rid sid nc np) 8 32 = np := by
  rw [acceptFrame, slice_frame _ _ _ 0, Block.slice_zero_append]

/-- `accept` keeps the invariant and computes at most the tag of its own FINISH_C. -/
theorem Inv.receiveAccept (h : c.Inv crypto tickets log) (ht : tickets[c.ticket]? = some t)
    (raw : Bytes) :
    (c.receiveAccept crypto t raw).1.Inv crypto tickets
        (log ++ (c.receiveAccept crypto t raw).2) ∧
      c.Continues (c.receiveAccept crypto t raw).1 ∧
      ∀ query ∈ (c.receiveAccept crypto t raw).2.issued,
        ∃ r, (c.receiveAccept crypto t raw).1.reply = some r ∧
          KnownProfile (c.receiveAccept crypto t raw).1.central.profile ∧
          query = (r.keys.confirmC,
            finishMessage (c.receiveAccept crypto t raw).1.central.profile true r.keys.th) := by
  obtain ⟨⟨result, central⟩, haccept⟩ : ∃ result, c.central.accept crypto t raw = result :=
    ⟨_, rfl⟩
  unfold CentralSession.receiveAccept
  rw [haccept]
  cases result with
  | ok wire =>
    obtain ⟨hstate, hknown, rid, sid, nc, np, hrid, hsid, hnc, hraw, hwire, rfl⟩ :=
      Python.CentralResume.accept_eq_ok haccept
    obtain ⟨hsid', hnc', hreply, hopened⟩ := h.waiting hstate
    obtain rfl := Block.bytes_injective (hsid.symm.trans hsid')
    obtain rfl := Block.bytes_injective (hnc.symm.trans hnc')
    obtain ⟨o, ho⟩ : ∃ o, c.opening = some o := by
      rw [← Option.ne_none_iff_exists']
      exact fun hnone ↦ hopened hnone hknown t ht rid hrid
    have hopen := h.opened o ho
    obtain ⟨hrid', hroot⟩ : rid = o.rid ∧ t.root = o.root := by
      rcases hopen.ticket t ht with hempty | ⟨hsame, hroot⟩
      · have hlength := congrArg List.length (hrid.symm.trans hempty)
        simp at hlength
      · exact ⟨Block.bytes_injective (hrid.symm.trans hsame), hroot⟩
    subst hrid'
    have hrid' : Block.ofBytes 16 t.rid = o.rid := by rw [hrid, Block.ofBytes_self]
    have hnp : Block.slice raw 8 32 = np := by rw [hraw, slice_acceptFrame]
    dsimp only
    rw [hrid', hnp]
    rw [hroot] at hraw hwire ⊢
    have hinput : transcriptBytes c.central.profile o.rid c.sid c.nc np =
        o.input c.central.profile np := by rw [Opening.input, hopen.sid_eq, hopen.nc_eq]
    rw [hinput] at hwire ⊢
    refine ⟨?_, ⟨rfl, rfl, fun _ ho ↦ ho, ?_⟩, ?_⟩
    · have hext := CryptoLog.extends_append log
      exact {
        has_ticket := h.has_ticket
        opened := fun o ho ↦ { h.opened o ho with }
        replied := by
          rintro r ⟨⟩
          refine ⟨o, ho, by rw [hopen.sid_eq, hopen.nc_eq]; exact hraw, rfl, hwire, ?_⟩
          exact ⟨by simp [derivation], fun query hq ↦ by
            simp only [CryptoLog.append_derived, derivation, List.mem_append]
            exact .inr (.inl hq)⟩
        new := fun hstate ↦ nomatch hstate
        waiting := fun hstate ↦ nomatch hstate
        confirming := fun _ ↦ ⟨_, rfl, rfl⟩
        secure := fun hstate ↦ nomatch hstate }
    · intro r hr
      rw [hr] at hreply
      cases hreply
    · intro query hquery
      exact ⟨_, rfl, hknown, List.mem_singleton.mp hquery⟩
  | error reason =>
    dsimp only
    rw [Python.CentralResume.accept_eq_error haccept]
    exact ⟨h.clear.mono (ticketsFade_refl _) (log.extends_append _), c.continues_central rfl,
      fun _ hq ↦ nomatch hq⟩

/-- `finish` keeps the invariant, computes no tag, and at most uses the ticket. -/
theorem Inv.receiveFinishP (h : c.Inv crypto tickets log) (raw : Bytes) :
    (c.receiveFinishP crypto t raw).1.Inv crypto tickets
        (log ++ (c.receiveFinishP crypto t raw).2.2) ∧
      c.Continues (c.receiveFinishP crypto t raw).1 ∧
      (c.receiveFinishP crypto t raw).2.2.issued = [] ∧
      t.Fades (c.receiveFinishP crypto t raw).2.1 := by
  obtain ⟨⟨result, central, t'⟩, hfinish⟩ : ∃ result, c.central.finish crypto t raw = result :=
    ⟨_, rfl⟩
  unfold CentralSession.receiveFinishP
  rw [hfinish]
  cases result with
  | ok _ =>
    obtain ⟨hstate, -, rfl, keys, hkeys, -, rfl⟩ := Python.CentralResume.finish_eq_ok hfinish
    obtain ⟨r, hr, hkeys'⟩ := h.confirming hstate
    obtain rfl := Option.some.inj (hkeys.symm.trans hkeys')
    refine ⟨?_, c.continues_central rfl, rfl, t.fades_used⟩
    exact {
      has_ticket := h.has_ticket
      opened := fun o ho ↦ { h.opened o ho with }
      replied := fun r hr ↦ (h.replied r hr).imp fun _ ho ↦
        { ho.mono (log.extends_append _) with }
      new := fun hstate ↦ nomatch hstate
      waiting := fun hstate ↦ nomatch hstate
      confirming := fun hstate ↦ nomatch hstate
      secure := fun _ ↦ ⟨r, hr, rfl, by simp [hkeys]⟩ }
  | error reason =>
    obtain ⟨rfl, rfl⟩ := Python.CentralResume.finish_eq_error hfinish
    exact ⟨h.clear.mono (ticketsFade_refl _) (log.extends_append _), c.continues_central rfl, rfl,
      t'.fades_refl⟩

end CentralSession

/-! ## Steps of the system -/

namespace System

variable {crypto : Crypto} {s s' : System}

/-- A wiped session makes no claim about the history. -/
theorem live_zero {session : Session} (h : session = Session.zero)
    (sessions : List PeripheralSession) : Live session sessions := by
  subst h
  constructor
  all_goals
    intro hstate
    cases hstate

theorem Inv.initial : System.Inv crypto System.initial where
  centrals _ hc := nomatch hc
  sessions _ hp := nomatch hp
  issued _ hq := nomatch hq
  sids := List.nodup_nil
  nps := List.nodup_nil
  live := live_zero rfl []

/-- A step of one Central: its session moves on, tickets may fade, and the log grows by tags that the
session can account for. -/
theorem Inv.setCentral (h : s.Inv crypto) {index : ℕ} {c c' : CentralSession}
    {tickets : List Python.Ticket} {more : CryptoLog} (hc : s.centrals[index]? = some c)
    (hinv : c'.Inv crypto tickets (s.log ++ more)) (hcont : c.Continues c')
    (hfade : TicketsFade s.tickets tickets)
    (hissued : ∀ query ∈ more.issued, ∀ system : System, c' ∈ system.centrals →
      Origin crypto system query) :
    System.Inv crypto { s with
      centrals := s.centrals.set index c', tickets, log := s.log ++ more } := by
  have hext := s.log.extends_append more
  obtain ⟨hlt, hget⟩ := List.getElem?_eq_some_iff.mp hc
  have hself : c' ∈ s.centrals.set index c' := List.mem_set hlt c'
  have hsids : (s.centrals.set index c').map CentralSession.sid =
      s.centrals.map CentralSession.sid := by
    rw [List.map_set, hcont.sid_eq, ← hget, ← List.getElem_map CentralSession.sid,
      List.set_getElem_self]
    simpa using hlt
  refine ⟨?_, fun p hp ↦ (h.sessions p hp).mono (List.Subset.refl _) hext, ?_, ?_, h.nps, h.live⟩
  · intro d hd
    rcases List.mem_or_eq_of_mem_set hd with hold | rfl
    · exact (h.centrals d hold).mono hfade hext
    · exact hinv
  · intro query hquery
    rcases List.mem_append.mp hquery with hold | hnew
    · refine (h.issued query hold).mono ?_ fun p hp ↦ ⟨p, hp, p.continues_refl⟩
      intro d hd
      obtain ⟨i, hi⟩ := List.mem_iff_getElem?.mp hd
      by_cases hindex : index = i
      · subst hindex
        obtain rfl := Option.some.inj (hc.symm.trans hi)
        exact ⟨c', hself, hcont⟩
      · refine ⟨d, List.mem_iff_getElem?.mpr ⟨i, ?_⟩, d.continues_refl⟩
        rw [List.getElem?_set_ne hindex, hi]
    · exact hissued query hnew _ hself
  · change ((s.centrals.set index c').map CentralSession.sid).Nodup
    rw [hsids]
    exact h.sids

/-- A step that only lets tickets fade. -/
theorem Inv.setTickets (h : s.Inv crypto) {tickets : List Python.Ticket}
    (hfade : TicketsFade s.tickets tickets) : System.Inv crypto { s with tickets } :=
  { h with
    centrals := fun c hc ↦ (h.centrals c hc).mono hfade (CryptoLog.Extends.refl _)
    issued := fun query hquery ↦ (h.issued query hquery).mono
      (fun c hc ↦ ⟨c, hc, c.continues_refl⟩) fun p hp ↦ ⟨p, hp, p.continues_refl⟩ }

/-- A new Central with fresh draws. -/
theorem Inv.addCentral (h : s.Inv crypto) {index : ℕ} {now : ℚ} {sid : Block 16} {nc : Block 32}
    {t : Python.Ticket} {central : Python.CentralResume} (ht : s.tickets[index]? = some t)
    (hcreate : Python.CentralResume.create t now sid nc = .ok central)
    (hfresh : ∀ c ∈ s.centrals, c.sid ≠ sid ∧ c.nc ≠ nc) :
    System.Inv crypto { s with
      centrals := s.centrals ++
        [{ ticket := index, central, sid, nc, opening := none, reply := none }] } := by
  obtain ⟨_, -, hcentral⟩ := except_bind_eq_ok_iff.mp hcreate
  cases hcentral
  refine { h with centrals := ?_, issued := ?_, sids := ?_ }
  · intro c hc
    rcases List.mem_append.mp hc with hold | hnew
    · exact h.centrals c hold
    · obtain rfl := List.mem_singleton.mp hnew
      exact {
        has_ticket := ⟨t, ht⟩
        opened := fun _ ho ↦ nomatch ho
        replied := fun _ hr ↦ nomatch hr
        new := fun _ ↦ ⟨rfl, rfl, rfl, rfl⟩
        waiting := fun hstate ↦ nomatch hstate
        confirming := fun hstate ↦ nomatch hstate
        secure := fun hstate ↦ nomatch hstate }
  · intro query hquery
    exact (h.issued query hquery).mono
      (fun c hc ↦ ⟨c, List.mem_append_left _ hc, c.continues_refl⟩)
      fun p hp ↦ ⟨p, hp, p.continues_refl⟩
  · rw [List.map_append, List.nodup_append]
    refine ⟨h.sids, List.nodup_singleton _, ?_⟩
    intro x hx y hy
    obtain ⟨c, hc, rfl⟩ := List.mem_map.mp hx
    rw [List.map_singleton, List.mem_singleton] at hy
    rw [hy]
    exact (hfresh c hc).1

/-- A call that only changes the core, and leaves its session idle or alone. -/
theorem Inv.setCore (h : s.Inv crypto) {core : Core} {drawn : List (Block 32)}
    (hdrawn : s.drawn ⊆ drawn) (hlive : Live core.session s.sessions) :
    System.Inv crypto { s with core, drawn } :=
  { h with
    sessions := fun p hp ↦ (h.sessions p hp).mono hdrawn (CryptoLog.Extends.refl _)
    issued := fun query hquery ↦ (h.issued query hquery).mono
      (fun c hc ↦ ⟨c, hc, c.continues_refl⟩) fun p hp ↦ ⟨p, hp, p.continues_refl⟩
    live := hlive }

/-- A step of the Peripheral that starts or moves on its newest session. -/
theorem Inv.setSessions (h : s.Inv crypto) {core : Core} {sessions : List PeripheralSession}
    {drawn : List (Block 32)} {more : CryptoLog}
    (hsessions : ∀ p ∈ sessions, p.Inv crypto drawn (s.log ++ more))
    (hcont : ∀ p ∈ s.sessions, ∃ p' ∈ sessions, p.Continues p')
    (hnps : (sessions.map PeripheralSession.np).Nodup) (hlive : Live core.session sessions)
    (hissued : ∀ query ∈ more.issued, ∀ system : System, system.sessions = sessions →
      Origin crypto system query) :
    System.Inv crypto { s with core, sessions, drawn, log := s.log ++ more } where
  centrals c hc := (h.centrals c hc).mono (ticketsFade_refl _) (s.log.extends_append more)
  sessions := hsessions
  issued query hquery := by
    rcases List.mem_append.mp hquery with hold | hnew
    · exact (h.issued query hold).mono (fun c hc ↦ ⟨c, hc, c.continues_refl⟩) hcont
    · exact hissued query hnew _ rfl
  sids := h.sids
  nps := hnps
  live := hlive

/-- An accepted INIT opens a new Peripheral session; a rejected one leaves no session. -/
theorem Inv.callAccept (h : s.Inv crypto) {faults : Faults} {seen : Observation} {init : Bytes}
    {np : Block 32} (hstep : s.call crypto (.accept faults seen init np) = some s') :
    s'.Inv crypto := by
  obtain ⟨⟨answer, core'⟩, hresult⟩ :
    ∃ result, pqResumeAccept crypto faults s.core seen init np = result := ⟨_, rfl⟩
  simp only [System.call, peripheral, hresult] at hstep
  split_ifs at hstep with hdrawn hok
  · -- The draw is fresh, so the new session's nonce occurs in no older one.
    cases hstep
    rcases pqResumeAccept_cases hresult with ⟨-, sid, nc, hacc⟩ | ⟨hfail, -⟩
    · have hentry : initEntry init = ⟨nc, sid⟩ := by rw [hacc.init_eq, initEntry_initFrame]
      rw [hentry]
      have hext := s.log.extends_append (derivation crypto seen.profile s.core.ticket.root
        (transcriptBytes seen.profile s.core.ticket.id sid nc np) ++
          { issued := [(s.core.ticket.root,
              acceptMessage seen.profile s.core.ticket.id sid nc np)]
            relied := [(s.core.ticket.root,
              initMessage seen.profile s.core.ticket.id sid nc)] })
      refine h.setSessions ?_ (fun p hp ↦ ⟨p, List.mem_cons_of_mem _ hp, p.continues_refl⟩) ?_ ?_ ?_
      · intro p hp
        rcases List.mem_cons.mp hp with rfl | hold
        · exact {
            known := hacc.known
            init_eq := hacc.init_eq
            accept_eq := hacc.wire_eq
            keys_eq := by
              rw [hacc.session_eq, Opening.keys, Opening.input, Ticket.keys,
                hacc.eligible.profile_eq]
            logged := ⟨by simp [derivation, Opening.input], fun query hquery ↦ by
              simp only [CryptoLog.append_derived, derivation, List.mem_append]
              exact .inr (.inl hquery)⟩
            drawn := List.mem_cons_self
            verified := fun _ hverified ↦ by cases hverified
            committed := fun hcommitted ↦ by cases hcommitted }
        · exact (h.sessions p hold).mono (List.subset_cons_self _ _) hext
      · rw [List.map_cons, List.nodup_cons]
        refine ⟨fun hmem ↦ ?_, h.nps⟩
        obtain ⟨p, hp, hnp⟩ := List.mem_map.mp hmem
        have hnp : p.np = np := hnp
        exact hdrawn (hnp ▸ (h.sessions p hp).drawn)
      · rw [hacc.session_eq]
        exact ⟨fun _ ↦ ⟨_, _, rfl, rfl, rfl⟩, fun hstate ↦ (by cases hstate),
          fun hstate ↦ (by cases hstate)⟩
      · intro query hquery system hsystem
        obtain rfl := List.mem_singleton.mp hquery
        exact .accept (p := {
          profile := seen.profile
          opening := {
            root := s.core.ticket.root, rid := s.core.ticket.id, sid, nc, init }
          np, accept := answer.wire, keys := core'.session.keys, verified := none
          committed := false }) (hsystem ▸ List.mem_cons_self) hacc.known
    · exact (hfail.reason_ne hok).elim
  · cases hstep
    rcases pqResumeAccept_cases hresult with ⟨hreason, -⟩ | ⟨hfail, -⟩
    · exact (hok hreason).elim
    · exact h.setCore (List.subset_cons_self _ _) (live_zero hfail.session_eq _)

/-- A verified FINISH_C is recorded in the newest Peripheral session. -/
theorem Inv.callFinish (h : s.Inv crypto) {faults : Faults} {seen : Observation} {finish : Bytes}
    (hstep : s.call crypto (.finish faults seen finish) = some s') : s'.Inv crypto := by
  obtain ⟨⟨answer, core'⟩, hresult⟩ :
    ∃ result, pqResumeFinish crypto faults s.core seen finish = result := ⟨_, rfl⟩
  simp only [System.call, peripheral, hresult] at hstep
  rcases pqResumeFinish_cases hresult with ⟨hok, hfin⟩ | ⟨hfail, -⟩
  · rw [if_pos hok] at hstep
    cases hstep
    obtain ⟨p, past, hsessions, hkeys, hnone⟩ := h.live.waiting hfin.waiting
    have hp : p ∈ s.sessions := hsessions ▸ List.mem_cons_self
    have hfinish : finish = finishCFrame crypto seen.profile p.keys := hkeys ▸ hfin.finish_eq
    rw [hsessions, List.modifyHead_cons, hkeys]
    have hext := s.log.extends_append
      { issued := [(p.keys.confirmP, finishMessage seen.profile false p.keys.th)]
        relied := [(p.keys.confirmC, finishMessage seen.profile true p.keys.th)] }
    refine h.setSessions ?_ ?_ ?_ ?_ ?_
    · intro q hq
      rcases List.mem_cons.mp hq with rfl | hold
      · exact { (h.sessions p hp).mono (List.Subset.refl _) hext with
          verified := by
            rintro _ ⟨⟩
            exact ⟨seen.profile, hfin.known, hfinish, by simp⟩
          committed := fun _ hnone ↦ nomatch hnone }
      · exact (h.sessions q (hsessions ▸ List.mem_cons_of_mem _ hold)).mono
          (List.Subset.refl _) hext
    · intro q hq
      rw [hsessions] at hq
      rcases List.mem_cons.mp hq with rfl | hold
      · refine ⟨_, List.mem_cons_self, rfl, rfl, rfl, rfl, fun f hf ↦ ?_⟩
        rw [hnone] at hf
        cases hf
      · exact ⟨q, List.mem_cons_of_mem _ hold, q.continues_refl⟩
    · have hnps := h.nps
      rwa [hsessions] at hnps
    · rw [hfin.core_eq]
      exact ⟨fun hstate ↦ (nomatch hstate),
        fun _ ↦ ⟨_, _, rfl, hkeys, fun hnone ↦ (nomatch hnone)⟩, fun hstate ↦ (nomatch hstate)⟩
    · intro query hquery system hsystem
      obtain rfl := List.mem_singleton.mp hquery
      exact .finishP (p := { p with verified := some finish }) (hsystem ▸ List.mem_cons_self)
        hfin.known (congrArg some hfinish)
  · rw [if_neg hfail.reason_ne] at hstep
    cases hstep
    exact h.setCore (List.Subset.refl _) (live_zero hfail.session_eq _)

/-- A commit is recorded in the newest Peripheral session. -/
theorem Inv.callCommit (h : s.Inv crypto) {seen : Observation}
    (hstep : s.call crypto (.commit seen) = some s') : s'.Inv crypto := by
  obtain ⟨⟨answer, core'⟩, hresult⟩ : ∃ result, pqResumeCommit s.core seen = result := ⟨_, rfl⟩
  simp only [System.call, peripheral, hresult] at hstep
  rcases pqResumeCommit_cases hresult with ⟨hok, hcom⟩ | ⟨hfail, -⟩
  · rw [if_pos hok] at hstep
    cases hstep
    obtain ⟨p, past, hsessions, hkeys, hverified⟩ := h.live.pending hcom.pending
    have hp : p ∈ s.sessions := hsessions ▸ List.mem_cons_self
    have hext := s.log.extends_append {}
    rw [hsessions, List.modifyHead_cons, ← s.log.append_empty]
    refine h.setSessions ?_ ?_ ?_ ?_ (fun query hquery ↦ (nomatch hquery))
    · intro q hq
      rcases List.mem_cons.mp hq with rfl | hold
      · exact { (h.sessions p hp).mono (List.Subset.refl _) hext with
          committed := fun _ ↦ hverified }
      · exact (h.sessions q (hsessions ▸ List.mem_cons_of_mem _ hold)).mono
          (List.Subset.refl _) hext
    · intro q hq
      rw [hsessions] at hq
      rcases List.mem_cons.mp hq with rfl | hold
      · exact ⟨_, List.mem_cons_self, rfl, rfl, rfl, rfl, fun f hf ↦ hf⟩
      · exact ⟨q, List.mem_cons_of_mem _ hold, q.continues_refl⟩
    · have hnps := h.nps
      rwa [hsessions] at hnps
    · rw [hcom.session_eq]
      exact ⟨fun hstate ↦ (nomatch hstate), fun hstate ↦ (nomatch hstate),
        fun _ ↦ ⟨_, _, rfl, congrArg Keys.clearConfirmation hkeys, rfl⟩⟩
  · rw [if_neg hfail.reason_ne] at hstep
    cases hstep
    exact h.setCore (List.Subset.refl _) (live_zero hfail.session_eq _)

/-- **Step lemma.**  Every enabled step keeps the invariant. -/
theorem Inv.step (h : s.Inv crypto) {action : Action}
    (hstep : System.step crypto s action = some s') : s'.Inv crypto := by
  cases action with
  | provision ticket =>
    cases hstep
    exact h.setTickets (ticketsFade_append _ _)
  | clearTicket index =>
    obtain ⟨t, ht, hresult⟩ := Option.bind_eq_some_iff.mp hstep
    cases hresult
    exact h.setTickets (ticketsFade_set ht t.fades_clear)
  | create index now sid nc =>
    obtain ⟨t, ht, hresult⟩ := Option.bind_eq_some_iff.mp hstep
    split_ifs at hresult with hfresh
    cases hcreate : Python.CentralResume.create t now sid nc with
    | ok central =>
      rw [hcreate] at hresult
      cases hresult
      exact h.addCentral ht hcreate hfresh
    | error failure =>
      obtain ⟨reason, t'⟩ := failure
      rw [hcreate] at hresult
      cases hresult
      rcases except_bind_eq_error_iff.mp hcreate with hcheck | ⟨_, -, hok⟩
      · exact h.setTickets (ticketsFade_set ht (Python.Ticket.fades_check hcheck))
      · cases hok
  | begin index =>
    obtain ⟨c, hc, hresult⟩ := Option.bind_eq_some_iff.mp hstep
    obtain ⟨t, ht, hresult⟩ := Option.bind_eq_some_iff.mp hresult
    cases hresult
    obtain ⟨hinv, hcont, hissued⟩ := (h.centrals c (List.mem_of_getElem? hc)).begin ht
    refine h.setCentral hc hinv hcont (ticketsFade_refl _) fun query hquery system hself ↦ ?_
    obtain ⟨o, ho, hknown, rfl⟩ := hissued query hquery
    exact .init hself ho hknown
  | receiveAccept index raw =>
    obtain ⟨c, hc, hresult⟩ := Option.bind_eq_some_iff.mp hstep
    obtain ⟨t, ht, hresult⟩ := Option.bind_eq_some_iff.mp hresult
    cases hresult
    obtain ⟨hinv, hcont, hissued⟩ := (h.centrals c (List.mem_of_getElem? hc)).receiveAccept ht raw
    refine h.setCentral hc hinv hcont (ticketsFade_refl _) fun query hquery system hself ↦ ?_
    obtain ⟨r, hr, hknown, rfl⟩ := hissued query hquery
    exact .finishC hself hr hknown
  | receiveFinishP index raw =>
    obtain ⟨c, hc, hresult⟩ := Option.bind_eq_some_iff.mp hstep
    obtain ⟨t, ht, hresult⟩ := Option.bind_eq_some_iff.mp hresult
    cases hresult
    obtain ⟨hinv, hcont, hissued, hfades⟩ :=
      (h.centrals c (List.mem_of_getElem? hc)).receiveFinishP (t := t) raw
    have hfade := ticketsFade_set ht hfades
    refine h.setCentral hc (hinv.mono hfade (CryptoLog.Extends.refl _)) hcont hfade
      fun query (hquery : query ∈ (c.receiveFinishP crypto t raw).2.2.issued) ↦ ?_
    rw [hissued] at hquery
    cases hquery
  | clearCentral index =>
    obtain ⟨c, hc, hresult⟩ := Option.bind_eq_some_iff.mp hstep
    cases hresult
    have hinv := (h.centrals c (List.mem_of_getElem? hc)).clear.mono (ticketsFade_refl _)
      (s.log.extends_append {})
    have hnext := h.setCentral hc hinv (c.continues_central rfl) (ticketsFade_refl _)
      fun query hquery ↦ (nomatch hquery)
    rwa [CryptoLog.append_empty] at hnext
  | issue faults profile root th peer now authenticated =>
    simp only [System.step] at hstep
    split at hstep
    · cases hstep
      exact h.setCore (List.Subset.refl _) h.live
    · cases hstep
      exact h
  | invalidate =>
    cases hstep
    exact h.setCore (List.Subset.refl _) h.live
  | call call =>
    cases call with
    | accept faults seen init np => exact h.callAccept hstep
    | finish faults seen finish => exact h.callFinish hstep
    | commit seen => exact h.callCommit hstep
    | disconnect =>
      cases hstep
      exact h.setCore (List.Subset.refl _) (live_zero rfl _)

/-- The invariant holds at the end of every run. -/
theorem inv_of_run {actions : List Action}
    (hrun : run (System.step crypto) System.initial actions = some s) : s.Inv crypto :=
  run_invariant (fun _ _ _ hinv hstep ↦ Inv.step hinv hstep) Inv.initial hrun

end System

/-! ## Agreement -/

/-- A Central session and a Peripheral session ran one handshake: the same INIT and ACCEPT under the
same root, the Central's FINISH_C is the one the Peripheral verified, and the keys are the same. -/
structure Agreement (c : CentralSession) (p : PeripheralSession) (o : Opening) (r : Reply) : Prop
    where
  opening : c.opening = some o
  reply : c.reply = some r
  profile_eq : p.profile = c.central.profile
  opening_eq : p.opening = o
  np_eq : p.np = r.np
  accept_eq : p.accept = r.accept
  verified_eq : p.verified = some r.finishC
  keys_eq : p.keys = r.keys

/-- Some INIT and reply of the Central make it agree with the Peripheral session. -/
def CentralSession.AgreesWith (c : CentralSession) (p : PeripheralSession) : Prop :=
  ∃ o r, Agreement c p o r

/-- Agreement at the end of a run. -/
structure System.Agrees (s : System) : Prop where
  /-- A Central in `APP_SECURE` agrees with a Peripheral session and holds its keys. -/
  central : ∀ c ∈ s.centrals, c.central.state = .appSecure →
    ∃ p ∈ s.sessions, c.AgreesWith p ∧
      c.central.keys = some { p.keys.clearConfirmation with profile := p.profile }
  /-- A committed Peripheral session agrees with a Central that holds the same root. -/
  peripheral : ∀ p ∈ s.sessions, p.committed = true → ∃ c ∈ s.centrals, c.AgreesWith p
  /-- No two Peripheral sessions belong to one Central session. -/
  unique_peripheral : ∀ (i j : ℕ) (p q : PeripheralSession) (c : CentralSession),
    s.sessions[i]? = some p → s.sessions[j]? = some q → c ∈ s.centrals →
      c.AgreesWith p → c.AgreesWith q → i = j
  /-- No two Central sessions belong to one Peripheral session. -/
  unique_central : ∀ (i j : ℕ) (c d : CentralSession) (p : PeripheralSession),
    s.centrals[i]? = some c → s.centrals[j]? = some d → p ∈ s.sessions →
      c.AgreesWith p → d.AgreesWith p → i = j
  /-- The keys the Peripheral uses are those of its newest session, which is committed. -/
  live : s.core.session.state = .secure → ∃ p past, s.sessions = p :: past ∧
    s.core.session.keys = p.keys.clearConfirmation ∧ p.committed = true

namespace System

variable {crypto : Crypto} {s : System}

/-- A FINISH_P tag comes from a Peripheral session that verified a FINISH_C under the same keys. -/
theorem origin_finishP {profile : UInt8} {key th : Block 32} (hknown : KnownProfile profile)
    (h : Origin crypto s (key, finishMessage profile false th)) :
    ∃ p ∈ s.sessions, p.keys.confirmP = key ∧
      p.verified = some (finishCFrame crypto profile p.keys) := by
  generalize hquery : (key, finishMessage profile false th) = query at h
  cases h with
  | init hc ho hknown' =>
    have hlength := congrArg (List.length ∘ Prod.snd) hquery
    simp [length_finishMessage hknown, length_initMessage hknown'] at hlength
  | accept hp hknown' =>
    have hlength := congrArg (List.length ∘ Prod.snd) hquery
    simp [length_finishMessage hknown, length_acceptMessage hknown'] at hlength
  | finishC hc hr hknown' =>
    obtain ⟨-, hmessage⟩ := Prod.mk.inj hquery
    obtain ⟨-, hside, -⟩ := (finishMessage_inj hknown hknown').mp hmessage
    cases hside
  | finishP hp hknown' hverified =>
    obtain ⟨hkey, hmessage⟩ := Prod.mk.inj hquery
    obtain ⟨rfl, -, -⟩ := (finishMessage_inj hknown hknown').mp hmessage
    exact ⟨_, hp, hkey.symm, hverified⟩

/-- A FINISH_C tag comes from a Central session that sent it under the same keys. -/
theorem origin_finishC {profile : UInt8} {key th : Block 32} (hknown : KnownProfile profile)
    (h : Origin crypto s (key, finishMessage profile true th)) :
    ∃ c ∈ s.centrals, ∃ r, c.reply = some r ∧ r.keys.confirmC = key ∧
      c.central.profile = profile := by
  generalize hquery : (key, finishMessage profile true th) = query at h
  cases h with
  | init hc ho hknown' =>
    have hlength := congrArg (List.length ∘ Prod.snd) hquery
    simp [length_finishMessage hknown, length_initMessage hknown'] at hlength
  | accept hp hknown' =>
    have hlength := congrArg (List.length ∘ Prod.snd) hquery
    simp [length_finishMessage hknown, length_acceptMessage hknown'] at hlength
  | finishC hc hr hknown' =>
    obtain ⟨hkey, hmessage⟩ := Prod.mk.inj hquery
    obtain ⟨rfl, -, -⟩ := (finishMessage_inj hknown hknown').mp hmessage
    exact ⟨_, hc, _, hr, hkey.symm, rfl⟩
  | finishP hp hknown' hverified =>
    obtain ⟨-, hmessage⟩ := Prod.mk.inj hquery
    obtain ⟨-, hside, -⟩ := (finishMessage_inj hknown hknown').mp hmessage
    cases hside

/-- Sessions that share one output of the schedule agree on everything the transcript holds. -/
theorem agreement_of_output (hideal : s.log.Ideal crypto) {c : CentralSession}
    {p : PeripheralSession} {o : Opening} {r : Reply} {suffix : String}
    (hsuffix : suffix ∈ outputSuffixes) (hopened : c.Opened crypto s.tickets o)
    (hreplied : c.Replied crypto s.log o r) (hr : c.reply = some r)
    (hp : p.Inv crypto s.drawn s.log)
    (houtput : resumeOutput crypto p.profile p.opening.root (p.opening.input p.profile p.np) suffix =
      resumeOutput crypto c.central.profile o.root (o.input c.central.profile r.np) suffix)
    (hverified : p.verified = some (finishCFrame crypto c.central.profile p.keys)) :
    Agreement c p o r := by
  obtain ⟨hinput, hroot⟩ := resumeOutput_binding hideal hp.known hopened.known hsuffix hp.logged
    hreplied.logged houtput
  obtain ⟨hprofile, hrid, hsid, hnc, hnp⟩ :=
    (transcriptBytes_inj hp.known hopened.known).mp hinput
  have hopening : p.opening = o := by
    have hinit : p.opening.init = o.init := by
      rw [hp.init_eq, hopened.init_eq, hprofile, hroot, hrid, hsid, hnc]
    obtain ⟨⟩ := o
    obtain ⟨_, ⟨⟩, _⟩ := p
    simp only [Opening.mk.injEq]
    exact ⟨hroot, hrid, hsid, hnc, hinit⟩
  have hkeys : p.keys = r.keys := by rw [hp.keys_eq, hreplied.keys_eq, hopening, hprofile, hnp]
  exact {
    opening := hreplied.opened
    reply := hr
    profile_eq := hprofile
    opening_eq := hopening
    np_eq := hnp
    accept_eq := by rw [hp.accept_eq, hreplied.accept_eq, hopening, hprofile, hnp]
    verified_eq := by rw [hverified, hreplied.finishC_eq, hkeys]
    keys_eq := hkeys }

/-- The invariant and ideal cryptography give agreement. -/
theorem Inv.agrees (h : s.Inv crypto) (hideal : s.log.Ideal crypto) : s.Agrees where
  central := by
    intro c hc hsecure
    have hcinv := h.centrals c hc
    obtain ⟨r, hr, hkeys, hrelied⟩ := hcinv.secure hsecure
    obtain ⟨o, hreplied⟩ := hcinv.replied r hr
    have hopened := hcinv.opened o hreplied.opened
    obtain ⟨p, hp, hkey, hverified⟩ :=
      origin_finishP hopened.known (h.issued _ (hideal.unforged _ hrelied))
    have hpinv := h.sessions p hp
    have houtput : resumeOutput crypto p.profile p.opening.root
          (p.opening.input p.profile p.np) "/RESUME-CONFIRM-P" =
        resumeOutput crypto c.central.profile o.root (o.input c.central.profile r.np)
          "/RESUME-CONFIRM-P" := by
      rw [hpinv.keys_eq, hreplied.keys_eq] at hkey
      exact hkey
    have hagree := agreement_of_output hideal (by decide) hopened hreplied hr hpinv houtput hverified
    refine ⟨p, hp, ⟨o, r, hagree⟩, ?_⟩
    rw [hkeys, hagree.keys_eq, hagree.profile_eq]
  peripheral := by
    intro p hp hcommitted
    have hpinv := h.sessions p hp
    obtain ⟨finish, hfinish⟩ := Option.ne_none_iff_exists'.mp (hpinv.committed hcommitted)
    obtain ⟨profile, hknown, rfl, hrelied⟩ := hpinv.verified finish hfinish
    obtain ⟨c, hc, r, hr, hkey, rfl⟩ :=
      origin_finishC hknown (h.issued _ (hideal.unforged _ hrelied))
    have hcinv := h.centrals c hc
    obtain ⟨o, hreplied⟩ := hcinv.replied r hr
    have hopened := hcinv.opened o hreplied.opened
    have houtput : resumeOutput crypto p.profile p.opening.root
          (p.opening.input p.profile p.np) "/RESUME-CONFIRM-C" =
        resumeOutput crypto c.central.profile o.root (o.input c.central.profile r.np)
          "/RESUME-CONFIRM-C" := by
      rw [hpinv.keys_eq, hreplied.keys_eq] at hkey
      exact hkey.symm
    exact ⟨c, hc, o, r,
      agreement_of_output hideal (by decide) hopened hreplied hr hpinv houtput hfinish⟩
  unique_peripheral := by
    rintro i j p q c hp hq - ⟨o, r, hagree⟩ ⟨o', r', hagree'⟩
    obtain rfl := Option.some.inj (hagree.reply.symm.trans hagree'.reply)
    exact eq_index_of_nodup_map h.nps hp hq (hagree.np_eq.trans hagree'.np_eq.symm)
  unique_central := by
    rintro i j c d p hc hd - ⟨o, r, hagree⟩ ⟨o', r', hagree'⟩
    have hsid := ((h.centrals c (List.mem_of_getElem? hc)).opened o hagree.opening).sid_eq
    have hsid' := ((h.centrals d (List.mem_of_getElem? hd)).opened o' hagree'.opening).sid_eq
    refine eq_index_of_nodup_map h.sids hc hd ?_
    rw [← hsid, ← hsid', ← hagree.opening_eq, ← hagree'.opening_eq]
  live := h.live.secure

/-- **Agreement of the resume handshake.** -/
theorem resume_agreement {actions : List Action}
    (hrun : run (System.step crypto) System.initial actions = some s)
    (hideal : s.log.Ideal crypto) : s.Agrees :=
  (inv_of_run hrun).agrees hideal

/-- One honest v1.1 resumption over an ideal link. -/
def honestRun : List Action :=
  let crypto := polynomialCrypto
  let profile := pqResumeV11
  let root : Block 32 := .zero 32
  let rid : Block 16 := ((pqResumeId crypto {} profile root (.zero 32)).getD (.zero 16))
  let sid : Block 16 := .ofBytes 16 [1]
  let nc : Block 32 := .ofBytes 32 [2]
  let np : Block 32 := .ofBytes 32 [3]
  let keys := resumeKeys crypto profile root (transcriptBytes profile rid sid nc np)
  let seen : Observation := { profile, peer := .zero 7, l4 := true, bonded := true, now := 5 }
  [.issue {} profile root (.zero 32) (.zero 7) 0 true,
    .provision { profile, peer := .zero 7, rid := rid.bytes, root, createdAt := 0,
                 successfulResumes := 0, replay := [], valid := true },
    .create 0 1 sid nc, .begin 0,
    .call (.accept {} seen (initFrame crypto profile root rid sid nc) np),
    .receiveAccept 0 (acceptFrame crypto profile root rid sid nc np),
    .call (.finish {} seen (finishCFrame crypto profile keys)), .call (.commit seen),
    .receiveFinishP 0 (finishPFrame crypto profile keys)]

/-- Agreement for the honest run, where both sides reach their final state. -/
theorem resume_agreement_honest :
    ∃ s, run (System.step polynomialCrypto) System.initial honestRun = some s ∧
      s.log.Ideal polynomialCrypto ∧ s.centrals.map (·.central.state) = [.appSecure] ∧
      s.core.session.state = .secure ∧ s.Agrees := by
  have hrun : ((run (System.step polynomialCrypto) System.initial honestRun).any fun s ↦
      s.log.Ideal polynomialCrypto ∧ s.centrals.map (·.central.state) = [.appSecure] ∧
        s.core.session.state = .secure) = true := by
    decide +kernel
  obtain ⟨s, hs, hcheck⟩ := (Option.any_eq_true _ _).mp hrun
  obtain ⟨hideal, hcentral, hcore⟩ := of_decide_eq_true hcheck
  exact ⟨s, hs, hideal, hcentral, hcore, resume_agreement hs hideal⟩

end System

end PqBleHandshake.Resumption
