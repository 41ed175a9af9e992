import PqBleHandshake.Foundation.Effect
import PqBleHandshake.Handshake.Central
import PqBleHandshake.Resumption.Central

/-!
# The resumption runner of the Central

`_exchange` and `run_session` of `central/resumption.py`, with the ticket store and the pairing run
`_run_v1` under v1.1, without the test modes.  Whatever the peer, the link, the operator and the platform
do is one sequence of answers: each wait and each look at the outside takes the next one.  The trace records
what the runner sent, verified and stored; no branch reads it.
-/

namespace PqBleHandshake.Python

open Foundation Resumption.Python
open Resumption hiding Ticket

/-! ## Exceptions, answers and the state -/

/-- What an outside call can raise: `TimeoutError`, another `Exception`, or a `BaseException` such as a
cancellation. -/
inductive Fault
  | timeout | other | base
deriving DecidableEq

/-- The exceptions of the runner; a `V1Error` has a `__cause__`. -/
inductive Exn
  | resume (reason : Reason)
  | timeout
  | v1 (cause : Option Exn)
  | other
  | base

/-- The exception of a fault. -/
def Fault.exn : Fault → Exn
  | .timeout => .timeout
  | .other => .other
  | .base => .base

/-- `isinstance(exc, (r.ResumeError, asyncio.TimeoutError))` -/
def Exn.retried : Exn → Bool
  | .resume _ | .timeout => true
  | _ => false

/-- One answer of the world outside. -/
structure Answer where
  raises : Option Fault := none
  /-- The disconnect callback of the current link ran meanwhile. -/
  lost : Bool := false
  /-- `client.is_connected` and `client.raw_client is link`. -/
  linked : Bool := true
  bytes : Bytes := []
  more : Bytes := []
  yes : Bool := true
  also : Bool := true
  time : ℚ := 0

/-- `Result.path` -/
inductive Path
  | full | resume
deriving DecidableEq

/-- `Result.fallback_reason` -/
inductive FallbackReason
  | named (reason : Reason)
  | resumeReject
  | timeout
deriving DecidableEq

/-- `Result`; its profile never changes and is left out. -/
structure Result where
  path : Path := .full
  bonded : Bool := false
  fallbackReason : Option FallbackReason := none
  rounds : ℕ := 0
  appSecure : Bool := false
  ticketSaved : Bool := false
  successfulResumes : ℕ := 0
deriving DecidableEq

/-- The file of one profile and peer in `TicketStore`. -/
inductive TicketFile
  | absent
  /-- Not the JSON of a ticket; with fields of a wrong size `load` deletes it. -/
  | malformed (wrongSize : Bool)
  | ticket (stored : Ticket)
deriving DecidableEq

/-- The object in `session` and `client._v1_cp3_session`. -/
inductive Session
  | resume (central : CentralResume)
  | full (handshake : FullHandshake)
deriving DecidableEq

namespace Session

/-- `session.clear()` -/
def clear : Session → Session
  | .resume central => .resume central.clear
  | .full handshake => .full handshake.clear

/-- `session.state == "CLOSED"` -/
def closed : Session → Bool
  | .resume central => central.state = .closed
  | .full handshake => handshake.state = .closed

/-- `session.state == "APP_SECURE"` -/
def secure : Session → Bool
  | .resume central => central.state = .appSecure
  | .full handshake => handshake.state = .appSecure

end Session

/-- What the trace records. -/
inductive Event
  /-- An attempt begins. -/
  | attempt (forceFull : Bool)
  /-- The link was paired in this attempt. -/
  | cold
  /-- `security_info` accepted a SEC_INFO. -/
  | attested (sec : Bytes)
  /-- No ticket was loaded. -/
  | unavailable
  /-- A control write. -/
  | sent (wire : Bytes)
  /-- The Peripheral answered with REJECT. -/
  | rejected
  | finishPVerified (central : CentralResume) (ticket : Ticket) (raw : Bytes)
  /-- The operator's answer to the SAS. -/
  | sas (accepted : Bool)
  | finishedPVerified (handshake : FullHandshake) (raw : Bytes) (peer : Block 7) (now : ℚ)
  /-- The ticket file was replaced, or deleted. -/
  | saved (ticket : Ticket)
  | deleted
  /-- `accept_pong` returned. -/
  | pong
  /-- A timeout or a `ResumeError` arose. -/
  | failed
  /-- `run_session` reconnects for the fallback. -/
  | fallback
deriving DecidableEq

/-- The variables of the run; the trace has its latest event first. -/
structure World where
  position : ℕ := 0
  trace : List Event := []
  file : TicketFile := .absent
  lastReason : Reason := .noTicket
  result : Result := {}
  session : Option Session := none
  app : Bool := false
  ticket : Option Ticket := none

/-- A coroutine of the runner. -/
abbrev Run := Effect World Exn

open Effect

/-- Record an event. -/
def emit (event : Event) : Run Unit := update fun w ↦ { w with trace := event :: w.trace }

/-- Raise, recording what `run_session` would retry. -/
def raise {α : Type} (e : Exn) : Run α := do
  onlyIf (e.retried = true) (emit .failed)
  fail e

/-- `raise` on `none`: a `ValueError`, or a `V1Error` without a cause where the caller says so. -/
def orRaise {α : Type} (e : Exn) : Option α → Run α
  | some value => pure value
  | none => raise e

/-- A `ResumeError` of a pure function. -/
def orResume {α : Type} : Except Reason α → Run α
  | .ok value => pure value
  | .error reason => raise (.resume reason)

/-- Change the result. -/
def setResult (f : Result → Result) : Run Unit := update fun w ↦ { w with result := f w.result }

/-- Replace `session`. -/
def setSession (session : Option Session) : Run Unit := update fun w ↦ { w with session }

/-- Replace `ticket`. -/
def setTicket (ticket : Option Ticket) : Run Unit := update fun w ↦ { w with ticket }

section Outside

variable (env : ℕ → Answer)

/-- Look at the outside. -/
def ask : Run Answer := do
  let position ← look World.position
  update fun w ↦ { w with position := w.position + 1 }
  return env position

/-- One `await`: the disconnect callback may clear the session meanwhile, and the call may raise. -/
def await : Run Answer := do
  let answer ← ask env
  onlyIf (answer.lost = true) (update fun w ↦ { w with session := w.session.map Session.clear })
  match answer.raises with
  | some fault => raise fault.exn
  | none => return answer

/-- `require_link` -/
def requireLink : Run Unit := do
  let answer ← ask env
  let session ← look World.session
  onlyIf (answer.linked = false ∨ session.any Session.closed) (raise (.v1 none))

/-- `receive` -/
def receive : Run Bytes := do
  let answer ← await env
  requireLink env
  return answer.bytes

/-- `client.send_control` -/
def sendControl (wire : Bytes) : Run Unit := do
  emit (.sent wire)
  let _ ← await env

/-! ## The ticket store -/

/-- `TicketStore.delete` -/
def storeDelete : Run Unit := do
  let _ ← await env
  update fun w ↦ { w with file := .absent }
  emit .deleted

/-- `TicketStore.load` -/
def storeLoad (profile : UInt8) (peer : Block 7) : Run (Option Ticket) := do
  let answer ← ask env
  let file ← look World.file
  let missing := fun reason : Reason ↦ update fun w : World ↦ { w with lastReason := reason }
  if answer.yes = false then do
    -- The file cannot be read.
    missing .malformed
    return none
  else match file with
    | .absent => do
      missing .noTicket
      return none
    | .malformed wrongSize => do
      missing .malformed
      onlyIf (wrongSize = true) (storeDelete env)
      return none
    | .ticket stored =>
      let ticket := { stored with profile, peer, replay := [], valid := true }
      match ticket.check profile peer answer.time with
      | .ok () => return some ticket
      | .error (reason, _) => do
        missing reason
        storeDelete env
        return none

/-- `TicketStore.save` of the ticket in hand; a check that fails may clear it. -/
def storeSave (ticket : Ticket) : Run Unit := do
  if ticket.valid = false then storeDelete env
  else do
    let answer ← ask env
    match ticket.check ticket.profile ticket.peer answer.time with
    | .error (reason, cleared) => do
      setTicket (some cleared)
      raise (.resume reason)
    | .ok () => do
      -- The file is replaced in one step; a failure before or after it raises.
      onlyIf (answer.yes = true) do
        update fun w ↦ { w with file := .ticket ticket }
        emit (.saved ticket)
      match answer.raises with
      | some fault => raise fault.exn
      | none => pure ()

/-! ## `_exchange` -/

variable (crypto : Crypto) (onCurve : Bytes → Bool) (profile : UInt8) (peer : Block 7)

/-- `attest` -/
def attest : Run Bytes := do
  let query ← orRaise .other (encodeFull onCurve pqResumeV11 pqV1SecQuery [])
  sendControl env query
  let sec ← receive env
  orRaise .other (securityInfo onCurve sec)
  emit (.attested sec)
  return sec

/-- The constructor of `HybridApplication` or `CentralApplication`. -/
def openApplication : Run Unit := do
  let session ← look World.session
  if session.any Session.secure = true then update fun w ↦ { w with app := true }
  else raise .other

/-- The reply to an INIT, which may be a REJECT: the Python `parse` without an expected subtype. -/
def parseReply (raw : Bytes) : Except Reason UInt8 :=
  if domain profile = none then .error .profileMismatch
  else if raw.length < 8 ∨ raw.take 4 ≠ magic then .error .malformed
  else if raw.getD 4 0 ≠ profile then .error .profileMismatch
  else if (payloadSize (raw.getD 5 0)).all fun size ↦
      raw.length ≠ 8 + size ∨ declaredLength raw ≠ size then .error .malformed
  else .ok (raw.getD 5 0)

/-- A method of `session`, which must be a `CentralResume`. -/
def onResume {α : Type} (method : CentralResume → Except Reason α × CentralResume) : Run α := do
  match ← look World.session with
  | some (.resume central) => do
    let (outcome, central) := method central
    setSession (some (.resume central))
    orResume outcome
  | _ => raise .other

/-- A method of `session`, which must be a `FullHandshake`; it clears itself before it raises. -/
def onFull {α : Type} (method : FullHandshake → Option (α × FullHandshake)) : Run α := do
  match ← look World.session with
  | some (.full handshake) =>
    match method handshake with
    | some (value, handshake) => do
      setSession (some (.full handshake))
      return value
    | none => do
      setSession (some (.full handshake.clear))
      raise .other
  | _ => raise .other

/-- Read from `session`, which must be a `FullHandshake`. -/
def readFull {α : Type} (method : FullHandshake → Option α) : Run α := do
  match ← look World.session with
  | some (.full handshake) => orRaise .other (method handshake)
  | _ => raise .other

/-- `session.finish(reply)`, which counts one use of the ticket, and its mark. -/
def finishResume (ticket : Ticket) (reply : Bytes) : Run Ticket := do
  match ← look World.session with
  | some (.resume central) =>
    match central.finish crypto ticket reply with
    | (.ok (), next, used) => do
      setSession (some (.resume next))
      setTicket (some used)
      emit (.finishPVerified central ticket reply)
      return used
    | (.error reason, next, _) => do
      setSession (some (.resume next))
      raise (.resume reason)
  | _ => raise .other

/-- The resumption of `_exchange`. -/
def resumeExchange (ticket : Ticket) : Run Unit := do
  let answer ← ask env
  match CentralResume.create ticket answer.time (.ofBytes 16 answer.bytes) (.ofBytes 32 answer.more) with
  | .error (reason, cleared) => do
    setTicket (some cleared)
    raise (.resume reason)
  | .ok central => do
    setSession (some (.resume central))
    let init ← onResume fun central ↦ central.begin crypto ticket
    sendControl env init
    let raw ← receive env
    let subtype ← orResume (parseReply profile raw)
    if subtype = subtypeReject then do
      setResult fun result ↦ { result with fallbackReason := some .resumeReject }
      setSession none
      emit .rejected
    else do
      let finished ← onResume fun central ↦ central.accept crypto ticket raw
      sendControl env finished
      let reply ← receive env
      let used ← finishResume crypto ticket reply
      storeSave env used
      setResult fun result ↦
        { result with path := .resume, successfulResumes := used.successfulResumes }
      openApplication

/-- `session.finish_p`, its mark, and the ticket that it issued. -/
def finishFull (raw : Bytes) (now : ℚ) : Run (Option Ticket) := do
  match ← look World.session with
  | some (.full handshake) =>
    match handshake.finishP crypto onCurve raw peer now with
    | some next => do
      setSession (some (.full next))
      emit (.finishedPVerified handshake raw peer now)
      return next.ticket
    | none => do
      setSession (some (.full handshake.clear))
      raise .other
  | _ => raise .other

/-- READY and what authenticates it: the operator in v0.8, whose session begins only now, and the
transcript hash in v1.1. -/
def confirm (subtype : UInt8) (payload : Bytes)
    (begin : Bytes → FullHandshake → Option (Unit × FullHandshake)) : Run Bool :=
  if profile = pqResumeV08 then do
    onlyIf (subtype ≠ pqPhase7Ready7Auth) (raise (.v1 none))
    -- `derive_p256_ecdh_shared_secret`
    let ecdh ← await env
    onFull (begin ecdh.bytes)
    let _ ← readFull fun handshake ↦ handshake.sas crypto
    let decision ← await env
    emit (.sas decision.yes)
    return decision.yes
  else do
    let ready ← readFull fun handshake ↦ some handshake.th.bytes
    onlyIf (subtype ≠ pqV1ReadyCp3 ∨ payload ≠ ready) (raise (.v1 none))
    return true

/-- The full handshake of `_exchange`. -/
def fullExchange (forceFull : Bool) : Run Unit := do
  update fun w ↦
    if w.result.fallbackReason = none ∧ forceFull = false ∧ w.ticket = none then
      { w with result := { w.result with fallbackReason := some (.named w.lastReason) } }
    else w
  setSession (some (.full { profile }))
  let pk ← await env
  requireLink env
  let pk ← orResume (sized 1184 pk.bytes)
  -- `encapsulate`: the ciphertext and the shared secret.
  let encapsulated ← await env
  let ct := encapsulated.bytes
  let secret := encapsulated.more
  let drawn ← ask env
  let sid : Block 16 := .ofBytes 16 drawn.bytes
  -- The public key of `generate_p256_private_key`, in v0.8.
  let publicKey := drawn.more
  let start ← orRaise .other (if profile = pqResumeV08 then
      encodeFull onCurve profile pqPhase7Start7Auth (sid.bytes ++ publicKey)
    else encodeFull onCurve profile pqV1StartCp3 sid.bytes)
  let _ ← await env
  onlyIf (profile = pqResumeV11) do
    let sec ← attest env onCurve
    onFull fun handshake ↦
      (handshake.begin crypto onCurve secret pk.bytes ct sid.bytes [] [] [] sec).map ((), ·)
  sendControl env start
  let raw ← receive env
  let (subtype, payload) ← orRaise .other (parseFull onCurve profile raw)
  let confirmed ← confirm env crypto profile subtype payload fun ecdh handshake ↦
    (handshake.begin crypto onCurve secret pk.bytes ct sid.bytes ecdh publicKey payload []).map ((), ·)
  let finishedC ← onFull fun handshake ↦ handshake.finishC crypto onCurve confirmed
  sendControl env finishedC
  let raw ← receive env
  let clock ← ask env
  let issued ← finishFull crypto onCurve peer raw clock.time
  setTicket issued
  let ticket ← orRaise .other issued
  storeSave env ticket
  openApplication

/-- One application round trip; what `encrypt_ping` and `accept_pong` do is part of the answer. -/
def applicationRound : Run Unit := do
  requireLink env
  let sealed ← ask env
  onlyIf (sealed.yes = false) (raise .other)
  let _ ← await env
  let _ ← receive env
  let opened ← ask env
  onlyIf (opened.yes = false) (raise .other)
  emit .pong
  setResult fun result ↦ { result with rounds := result.rounds + 1 }

/-- The application rounds and the last check of the queue. -/
def applicationRounds : ℕ → Run Unit
  | 0 => do
    let queue ← ask env
    onlyIf (queue.yes = false) (raise (.v1 none))
  | n + 1 => do
    applicationRound env
    applicationRounds n

/-- The ticket of an exchange that may resume. -/
def loadTicket (allowResume : Bool) : Run (Option Ticket) :=
  if allowResume = true then storeLoad env profile peer else pure none

/-- The resumption, with a ticket and unless a full handshake is forced. -/
def tryResume (forceFull : Bool) : Option Ticket → Run Unit
  | none => emit .unavailable
  | some ticket => onlyIf (forceFull = false) (resumeExchange env crypto profile ticket)

/-- The full handshake, where no resumption opened the application. -/
def orFull (forceFull : Bool) : Run Unit := do
  let app ← look World.app
  onlyIf (app = false) (fullExchange env crypto onCurve profile peer forceFull)

/-- The body of `_exchange`. -/
def exchangeBody (allowResume forceFull : Bool) : Run Unit := do
  let _ ← await env
  requireLink env
  onlyIf (profile = pqResumeV11) do
    let _ ← attest env onCurve
  onlyIf (allowResume = false) (storeDelete env)
  let ticket ← loadTicket env profile peer allowResume
  setTicket ticket
  tryResume env crypto profile forceFull ticket
  orFull env crypto onCurve profile peer forceFull
  setResult fun result ↦ { result with appSecure := true }
  let ticket ← look World.ticket
  setResult fun result ↦ { result with ticketSaved := ticket.any fun ticket ↦ ticket.valid }
  applicationRounds env (if profile = pqResumeV08 then 3 else 2)

/-- `_exchange` -/
def exchange (allowResume forceFull : Bool) : Run Unit := do
  update fun w ↦ { w with session := none, app := false, ticket := none }
  ensuring (exchangeBody env crypto onCurve profile peer allowResume forceFull) do
    update fun w ↦ { w with
      app := false, session := w.session.map Session.clear, ticket := w.ticket.map Ticket.clear }
    let _ ← await env

/-! ## `_run_v1` -/

/-- `_probe_denied`: the operation must raise a security denial, which the answer classifies. -/
def probeDenied : Run Unit := do
  let answer ← ask env
  match answer.raises with
  | none => raise (.v1 none)
  | some .base => raise .base
  | some fault =>
    onlyIf (answer.yes = false) do
      onlyIf (fault.exn.retried = true) (emit .failed)
      raise (.v1 (some fault.exn))

/-- `_run_pre_l4_probes` -/
def runPreL4Probes : Run Unit := do
  probeDenied env
  probeDenied env
  probeDenied env
  probeDenied env

/-- `_ensure_connected` -/
def ensureConnected : Run Unit := do
  let answer ← ask env
  onlyIf (answer.linked = false) do
    let reconnected ← await env
    onlyIf (reconnected.yes = false) (raise (.v1 none))

/-- The `except` clauses around the exchange. -/
def asV1Error (e : Exn) : Run Unit :=
  match e with
  | .v1 cause => fail (.v1 cause)
  | .base => fail .base
  | e => fail (.v1 (some e))

/-- The cleanup of `_run_v1`, which only logs an exception. -/
def stopNotifyQuietly : Run Unit := do
  let answer ← ask env
  onlyIf (answer.raises = some .base) (raise .base)

/-- `_run_v1` with `after_l4`. -/
def runV1 (forceFull : Bool) : Run Unit := do
  let answer ← ask env
  onlyIf (answer.linked = false) (raise (.v1 none))
  let state ← await env
  let bonded := state.yes
  onlyIf (bonded = false) do
    runPreL4Probes env
    let outcome ← await env
    onlyIf (outcome.yes = false ∨ outcome.also = false) (raise (.v1 none))
    emit .cold
    ensureConnected env
  ensuring
    (onError (do
        setResult fun result ↦ { result with bonded }
        exchange env crypto onCurve profile peer bonded forceFull)
      asV1Error)
    (stopNotifyQuietly env)

/-! ## `run_session` -/

/-- `raise exc.__cause__` -/
def unwrapCause (e : Exn) : Run Unit :=
  match e with
  | .v1 (some cause) => if cause.retried then fail cause else fail e
  | e => fail e

/-- `attempt` -/
def attempt (force : Bool) : Run Unit := do
  emit (.attempt force)
  if profile = pqResumeV08 then exchange env crypto onCurve profile peer true force
  else onError (runV1 env crypto onCurve profile peer force) unwrapCause

/-- The `fallback_reason` of an exception. -/
def Exn.fallbackReason : Exn → FallbackReason
  | .resume reason => .named reason
  | _ => .timeout

/-- `run_session` -/
def runSession (forceFull : Bool) : Run Unit :=
  onError (attempt env crypto onCurve profile peer forceFull) fun e ↦
    if e.retried = false ∨ forceFull = true then fail e
    else do
      setResult fun result ↦ { result with fallbackReason := some e.fallbackReason }
      emit .fallback
      let reconnected ← await env
      onlyIf (reconnected.yes = false) (raise (.v1 (some e)))
      attempt env crypto onCurve profile peer true

end Outside

end PqBleHandshake.Python
