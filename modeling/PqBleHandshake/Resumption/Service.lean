import PqBleHandshake.Application.Ledger
import PqBleHandshake.Link
import PqBleHandshake.Resumption.Peripheral

/-!
# The resumption service

`pq_resume_service.c`: the owner of the ticket and the session, with the application channel of v1.1.
Every function runs under `resume_lock`, so a call is one step.  The two builds differ where the
source has `#if`: `profile` is `PQ_APP_VERSION`, and a field that only one build has keeps its initial
value in the other.

`pq_resume_service_control` reports what it did with the application keys, for the ledger.
-/

namespace PqBleHandshake.Resumption

open Foundation

/-- The queries of one place in the service: also `has_bond` and `bt_conn_get_dst` of the owner. -/
structure PeerView extends LinkView where
  bonded : Bool
  peer : Block 7
deriving DecidableEq

/-- The file-scope state; `expiry` is the time at which `expiry_work` is due. -/
structure Service where
  core : Core
  owner : Option Conn
  rxC2p : UInt64
  txP2c : UInt64
  hybridPending : Bool
  bondAtConnect : Bool
  expiry : Option ℤ
deriving DecidableEq

/-- The state at boot. -/
def Service.zero : Service where
  core := { ticket := Ticket.zero, session := Session.zero }
  owner := none
  rxC2p := 0
  txP2c := 0
  hybridPending := false
  bondAtConnect := false
  expiry := none

namespace Service

variable (profile : UInt8)

/-- `protected_link` -/
def protectedLink (service : Service) (view : LinkView) : Bool :=
  service.owner.isSome && (profile ≠ pqResumeV11 || view.l4)

/-- `resume_bond` -/
def resumeBond (service : Service) (view : PeerView) : Bool :=
  profile ≠ pqResumeV11 || (service.owner.isSome && service.bondAtConnect && view.bonded)

/-- `peer_identity` -/
def peerIdentity (service : Service) (view : PeerView) : Block 7 :=
  if profile = pqResumeV11 ∧ service.owner.isSome then view.peer else .zero 7

/-- `clear_session` -/
def clearSession (service : Service) : Service :=
  { service with
    core := { service.core with session := pqResumeDisconnect service.core.session }
    rxC2p := 0, txP2c := 0, hybridPending := false }

/-- A handshake waits for its confirmation. -/
def pending (service : Service) : Bool :=
  service.core.session.state = .waitC ∨ service.core.session.state = .pendingP

/-- `schedule_expiry` -/
def scheduleExpiry (service : Service) (now : ℤ) : Service :=
  let ticket := service.core.ticket
  let delay := if ticket.valid then ticket.createdMs + pqResumeTtlMs - now else pqResumeTtlMs
  let left := service.core.session.deadlineMs - now
  let delay := if service.pending ∧ left < delay then left else delay
  { service with
    expiry := if ticket.valid ∨ service.pending then some (now + if 0 < delay then delay else 1)
      else none }

/-- The eligibility check whose only effect is on the ticket. -/
def checkTicket (service : Service) (clock : ℤ) : Service :=
  let ticket := service.core.ticket
  { service with
    core := { service.core with ticket := (pqResumeEligible ticket profile ticket.peer clock).2 } }

/-- `expire`; the three clocks are its three readings of the time. -/
def expire (service : Service) (clock₁ clock₂ clock₃ : ℤ) : Service :=
  let service := service.checkTicket profile clock₁
  let service :=
    if service.pending ∧ (service.core.session.deadlineMs ≤ clock₂ ∨ ¬service.core.ticket.valid) then
      service.clearSession
    else service
  service.scheduleExpiry clock₃

/-- `pq_resume_service_connected` -/
def connected (service : Service) (conn : Conn) (bonded : Bool) (clock now : ℤ) : Service :=
  let service := service.clearSession
  let service := { service with
    owner := some conn
    bondAtConnect := if profile = pqResumeV11 then bonded else service.bondAtConnect }
  (service.checkTicket profile clock).scheduleExpiry now

/-- `pq_resume_service_disconnected` -/
def disconnected (service : Service) (conn : Conn) (now : ℤ) : Service :=
  let service :=
    if service.owner = some conn then { service.clearSession with owner := none } else service
  service.scheduleExpiry now

/-- `pq_resume_service_abort` -/
def abort (service : Service) (conn : Option Conn) (now : ℤ) : Service :=
  let service := if service.owner = conn then service.clearSession else service
  service.scheduleExpiry now

/-- `pq_resume_service_bond_changed` -/
def bondChanged (service : Service) (now : ℤ) : Service :=
  let ticket := pqResumeInvalidate service.core.ticket
  let service := { service with core := { service.core with ticket } }.clearSession
  let service := { service with
    bondAtConnect := if profile = pqResumeV11 then false else service.bondAtConnect }
  service.scheduleExpiry now

/-- `pq_resume_service_busy` -/
def busy (service : Service) : Bool := service.core.session.state ≠ .idle

/-- The keys of the application channel. -/
def appKeys (service : Service) : AppKeys where
  c2p := service.core.session.keys.c2p
  p2c := service.core.session.keys.p2c
  ivC2p := service.core.session.keys.ivC2p
  ivP2c := service.core.session.keys.ivP2c
  sid := service.core.session.sid

end Service

/-- What a call of the service returns: success, the frame it queued, and what it did with the
application keys. -/
structure ServiceAnswer where
  ok : Bool
  queued : Option Bytes := none
  events : List AppEvent := []

/-- The keys and the results of one full handshake. -/
structure FullKeys where
  root : Block 32
  th : Block 32
  c2p : Block 32
  p2c : Block 32
  sid : Block 16
deriving DecidableEq

section Calls

variable (profile : UInt8) (crypto : Crypto) (aead : Aead)

/-- The keys that `pq_resume_service_full` installs in the session; those of v0.8 live elsewhere. -/
def fullSessionKeys (faults : Faults) (full : FullKeys) : Except Errno Keys :=
  if profile = pqResumeV11 then do
    let ivC2p ← pqV1Cp4Iv crypto faults profile full.c2p full.sid pqV1AppC2p
    let ivP2c ← pqV1Cp4Iv crypto faults profile full.p2c full.sid pqV1AppP2c
    return { Keys.zero with c2p := full.c2p, p2c := full.p2c, ivC2p, ivP2c }
  else .ok Keys.zero

/-- The body of `pq_resume_service_full` up to `out`. -/
def fullBody (faults : Faults) (service : Service) (full : FullKeys) (view : PeerView) :
    Except Errno Service := do
  let peer := service.peerIdentity profile view
  require (service.protectedLink profile view.toLinkView) .eacces
  require (profile = pqResumeV11 → view.bonded) .eacces
  let keys ← fullSessionKeys profile crypto faults full
  let ticket ← orFail .einval
    (pqResumeIssue crypto faults profile full.root full.th peer view.uptime true)
  return { service with
    core := { ticket, session := { Session.zero with state := .secure, sid := full.sid, keys } } }

/-- `pq_resume_service_full` -/
def pqResumeServiceFull (faults : Faults) (service : Service) (full : FullKeys) (view : PeerView)
    (now : ℤ) : ServiceAnswer × Service :=
  let service := service.clearSession
  match fullBody profile crypto faults service full view with
  | .ok service =>
    ({ ok := true, events := [.installed service.appKeys] }, service.scheduleExpiry now)
  | .error _ => ({ ok := false }, service.clearSession.scheduleExpiry now)

/-- `pq_resume_service_take_hybrid` -/
def pqResumeServiceTakeHybrid (service : Service) (view : LinkView) : Option AppKeys × Service :=
  if profile = pqResumeV08 ∧ service.protectedLink profile view ∧
      service.core.session.state = .secure ∧ service.hybridPending then
    (some service.appKeys,
      { service with
        core := { service.core with session := { service.core.session with keys := Keys.zero } }
        hybridPending := false })
  else (none, service)

/-- The queries and platform results of one control write, in the order the code makes them: at the
entry, at the call into the core, at `notify_current`, at the commit and in `schedule_expiry`. -/
structure ControlInput where
  entry : PeerView
  attempt : PeerView
  send : SendView
  commit : PeerView
  now : ℤ
  random : Option (Block 32)
  faults : Faults := {}
  decryptFault : Bool := false
  encryptFault : Bool := false

/-- `notify_current` -/
def notifyCurrent (service : Service) (conn : Conn) (view : SendView) (wire : Bytes) : Bool :=
  service.owner = some conn && service.protectedLink profile view.toLinkView &&
    view.subscribed && wire.length + 3 ≤ view.mtu && view.sent

/-- What the core observes at a call. -/
def observe (service : Service) (peer : Block 7) (view : PeerView) : Observation where
  profile := profile
  peer := peer
  l4 := service.protectedLink profile view.toLinkView
  bonded := service.resumeBond profile view
  now := view.uptime

/-- The answer of the core to a `PQRS` write. -/
def resumeAttempt (service : Service) (wire : Bytes) (input : ControlInput) : Answer × Core :=
  let seen := observe profile service (service.peerIdentity profile input.entry) input.attempt
  if wire.length = 104 ∧ wire.getD 5 0 = subtypeInit then
    match input.random with
    | none => (⟨.internalError, []⟩, service.core)
    | some nonce => pqResumeAccept crypto input.faults service.core seen wire nonce
  else if wire.length = 40 ∧ wire.getD 5 0 = subtypeFinishC then
    pqResumeFinish crypto input.faults service.core seen wire
  else (⟨.malformed, []⟩, service.core)

/-- The `PQRS` branch of `pq_resume_service_control`. -/
def controlResume (service : Service) (conn : Conn) (wire : Bytes) (input : ControlInput) :
    ServiceAnswer × Service :=
  let peer := service.peerIdentity profile input.entry
  let (answer, core) := resumeAttempt profile crypto service wire input
  let service := { service with core }
  if answer.reason = .ok then
    let events := if core.session.state = .waitC then [.installed service.appKeys] else []
    if notifyCurrent profile service conn input.send answer.wire then
      if core.session.state = .pendingP then
        let (committed, core) := pqResumeCommit core (observe profile service peer input.commit)
        let service := { service with core }
        if committed.reason = .ok then
          ({ ok := true, queued := some answer.wire, events },
            { service with
              rxC2p := 0, txP2c := 0
              hybridPending := if profile = pqResumeV08 then true else service.hybridPending })
        else ({ ok := false, queued := some answer.wire, events }, service)
      else ({ ok := true, queued := some answer.wire, events }, service)
    else ({ ok := false, events }, service)
  else
    let service := service.clearSession
    let reject := (pqResumeEncode profile subtypeReject [] 72).getD []
    if notifyCurrent profile service conn input.send reject then
      ({ ok := true, queued := some reject }, service)
    else ({ ok := false }, service)

/-- The application branch of `pq_resume_service_control`, which v0.8 does not have. -/
def controlApplication (service : Service) (conn : Conn) (wire : Bytes) (input : ControlInput) :
    ServiceAnswer × Service :=
  let keys := service.appKeys
  if profile = pqResumeV08 ∨ service.core.session.state ≠ .secure ∨ service.rxC2p = uint64Max ∨
      service.txP2c = uint64Max then
    ({ ok := false }, service)
  else
    match pqV1Cp4Decrypt aead input.decryptFault profile keys.c2p keys.ivC2p keys.sid wire pqV1AppC2p
        service.rxC2p 16 with
    | .error _ => ({ ok := false }, service)
    | .ok plain =>
      let opened := AppEvent.opened ⟨service.rxC2p, plain, wire⟩
      match pqV1Cp4Encrypt aead input.encryptFault profile keys.p2c keys.ivP2c keys.sid pqV1AppP2c
          service.txP2c pqV1Cp4Pong plain 72 with
      | .error _ => ({ ok := false, events := [opened] }, service)
      | .ok response =>
        let sealed := AppEvent.sealed ⟨service.txP2c, plain, response⟩
        if notifyCurrent profile service conn input.send response then
          ({ ok := true, queued := some response, events := [opened, sealed, .delivered, .committed] },
            { service with rxC2p := service.rxC2p + 1, txP2c := service.txP2c + 1 })
        else ({ ok := false, events := [opened, sealed] }, service)

/-- `pq_resume_service_control` -/
def pqResumeServiceControl (service : Service) (conn : Conn) (wire : Bytes) (input : ControlInput) :
    ServiceAnswer × Service :=
  let (answer, service) :=
    if service.owner ≠ some conn ∨ service.protectedLink profile input.entry.toLinkView = false ∨
        input.entry.mtu < wire.length + 3 then
      ({ ok := false }, service)
    else if 4 ≤ wire.length ∧ wire.take 4 = magic then
      controlResume profile crypto service conn wire input
    else controlApplication profile aead service conn wire input
  (answer, (if answer.ok then service else service.clearSession).scheduleExpiry input.now)

/-- One call of the service. -/
inductive ServiceCall
  | connected (conn : Conn) (bonded : Bool) (clock now : ℤ)
  | disconnected (conn : Conn) (now : ℤ)
  | abort (conn : Option Conn) (now : ℤ)
  | bondChanged (now : ℤ)
  | expire (clock₁ clock₂ clock₃ : ℤ)
  | full (faults : Faults) (keys : FullKeys) (view : PeerView) (now : ℤ)
  | takeHybrid (view : LinkView)
  | control (conn : Conn) (wire : Bytes) (input : ControlInput)

/-- The service under any sequence of calls. -/
def serviceMachine : Machine Service ServiceCall ServiceAnswer where
  step service
    | .connected conn bonded clock now => ({ ok := true }, service.connected profile conn bonded clock now)
    | .disconnected conn now => ({ ok := true }, service.disconnected conn now)
    | .abort conn now => ({ ok := true }, service.abort conn now)
    | .bondChanged now => ({ ok := true }, service.bondChanged profile now)
    | .expire clock₁ clock₂ clock₃ => ({ ok := true }, service.expire profile clock₁ clock₂ clock₃)
    | .full faults keys view now => pqResumeServiceFull profile crypto faults service keys view now
    | .takeHybrid view =>
      let (taken, service) := pqResumeServiceTakeHybrid profile service view
      ({ ok := taken.isSome }, service)
    | .control conn wire input => pqResumeServiceControl profile crypto aead service conn wire input

end Calls

end PqBleHandshake.Resumption
