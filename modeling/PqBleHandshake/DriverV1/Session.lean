import PqBleHandshake.Foundation.Effect
import PqBleHandshake.Fragmentation
import PqBleHandshake.Handshake.Central

/-!
# The runners of v1.0

`_exchange` of `central/v1_cp3.py`, `_cp4_exchange` of `central/v1_cp4.py` and `_run_v1` around them, without
the test modes.  A coroutine gives way at its awaits only: there the loop runs the callbacks that the Bluetooth
stack scheduled, the disconnect callback may come, and the call may raise.  All of it is one sequence of answers.
The trace records what the runner sent and accepted and when its keys went; no branch reads it.
-/

namespace PqBleHandshake.Python.V1

open Foundation Effect

/-! ## Exceptions, answers and the state -/

/-- What an outside call can raise: a timeout, a cancellation, or another `Exception`. -/
inductive Fault
  | timeout | cancelled | other
deriving DecidableEq

/-- The exceptions of the runner. -/
inductive Exn
  | v1 | timeout | cancelled | other
deriving DecidableEq

/-- The exception of a fault. -/
def Fault.exn : Fault → Exn
  | .timeout => .timeout
  | .cancelled => .cancelled
  | .other => .other

/-- A callback that `call_soon_threadsafe` has scheduled. -/
inductive Callback
  /-- `deliver_notification` -/
  | deliver (data : Bytes)
  /-- `notifications.put_nowait` -/
  | put (data : Bytes)
deriving DecidableEq

/-- What can happen while the coroutine waits. -/
inductive Arrival
  /-- The stack calls `on_notification`. -/
  | notification (data : Bytes)
  /-- The loop runs the next callback; `linked` is what it finds of the link. -/
  | turn (linked : Bool)
  /-- The disconnect callback of `client._v1_cp3_link`. -/
  | disconnected
deriving DecidableEq

/-- One answer of the world outside. -/
structure Answer where
  arrivals : List Arrival := []
  fault : Option Fault := none
  /-- `client.is_connected` -/
  connected : Bool := true
  /-- `client.raw_client is link` -/
  same : Bool := true
  bytes : Bytes := []
  more : Bytes := []
  number : ℕ := 0
  yes : Bool := true
  also : Bool := true

/-- `PRE_L4_PROBES` -/
inductive Probe
  | publicKeyRead | ciphertextWrite | controlWrite | secureDataCccd
deriving DecidableEq

/-- `PRE_L4_PROBES`, in the order of `_run_pre_l4_probes`. -/
def preL4Probes : List Probe := [.publicKeyRead, .ciphertextWrite, .controlWrite, .secureDataCccd]

/-- `V1CP4Result`; the texts and times of the pairing are left out. -/
structure Result where
  bonded : Bool := false
  securityInfo : Option SecurityInfo := none
  preL4Denials : List Probe := []
  publicKeyLen : ℕ := 0
  ciphertextFragments : ℕ := 0
  startSent : Bool := false
  transcriptMatch : Bool := false
  finishedCSent : Bool := false
  finishedPVerified : Bool := false
  appSecure : Bool := false
  authenticatedRounds : ℕ := 0
deriving DecidableEq

/-- What the trace records. -/
inductive Event
  /-- A protected operation was denied before Level 4. -/
  | denied (probe : Probe)
  /-- The pairing ended authenticated, or a bond was there. -/
  | paired
  | bonded
  /-- A control write. -/
  | sent (wire : Bytes)
  /-- The public key was read, and the fragments of the ciphertext were written. -/
  | read (pk : Bytes)
  | encapsulated (ct ss : Bytes)
  | transferred (fragments : List Bytes)
  /-- A notification was accepted: SEC_INFO, READY_CP3, FINISHED_P or a PONG. -/
  | accepted (raw : Bytes)
  /-- The session was cleared. -/
  | closed
deriving DecidableEq

/-- `client._v1_cp3_session`: none, that of an earlier run, or the session of this run; `_v1_cp3_link` is set and
reset with it. -/
inductive Held
  | none | earlier | mine
deriving DecidableEq

/-- The attributes of the client that a run sets. -/
structure Client where
  v1Cp3Session : Held := .none
  /-- `_v1_cp4_session` is the application of this run. -/
  v1Cp4Session : Bool := false
  /-- `_v1_notify_link is link` -/
  v1NotifyLink : Bool := false
deriving DecidableEq

/-- What a `CentralApplication` owns besides the buffers that it borrows from the handshake. -/
structure Channel where
  ivC2p : Block 12
  ivP2c : Block 12
  txC2p : ℕ
  rxP2c : ℕ
deriving DecidableEq

/-- The future `reply`. -/
inductive Reply
  | pending
  | answered (data : Bytes)
  | failed
  | cancelled
deriving DecidableEq

/-- The variables of the run; the trace has its latest event first. -/
structure World where
  position : ℕ := 0
  trace : List Event := []
  ready : List Callback := []
  notifications : List Bytes := []
  client : Client := {}
  session : CentralHandshake := {}
  secret : Bytes := []
  app : Option Channel := none
  applicationActive : Bool := false
  reply : Option Reply := none
  success : Bool := false
  result : Result := {}
deriving DecidableEq

/-! ## Clearing -/

/-- The handshake object as its application sees it. -/
def borrowed (session : CentralHandshake) : Handshake where
  profile := pqV10
  secure := session.state = .appSecure
  appC2p := session.appC2p
  appP2c := session.appP2c
  sessionId := session.sessionId

/-- The application over its handshake. -/
def Channel.over (channel : Channel) (session : CentralHandshake) : CentralApplication where
  handshake := borrowed session
  ivC2p := channel.ivC2p
  ivP2c := channel.ivP2c
  txC2p := channel.txC2p
  rxP2c := channel.rxP2c

/-- What an application owns. -/
def Channel.of (app : CentralApplication) : Channel where
  ivC2p := app.ivC2p
  ivP2c := app.ivP2c
  txC2p := app.txC2p
  rxP2c := app.rxP2c

/-- The buffers of `CentralApplication.clear`. -/
def Channel.clear (channel : Channel) : Channel :=
  { channel with ivC2p := .zero 12, ivP2c := .zero 12 }

/-- `clear` of `v1_cp3.py`. -/
def wipe (buffer : Bytes) : Bytes := List.replicate buffer.length 0

namespace World

/-- `session.clear()` -/
def clearSession (w : World) : World :=
  { w with
    session := w.session.clear
    trace := if w.session.state = .closed then w.trace else .closed :: w.trace }

/-- `app.clear()`, where there is one. -/
def clearApp (w : World) : World :=
  if w.app.isSome then { w.clearSession with app := w.app.map Channel.clear } else w

/-- `client.clear_v1_cp3()`, after its application. -/
def release (w : World) : World :=
  { if w.client.v1Cp3Session = .mine then w.clearSession else w with client := {} }

/-- `client.clear_v1_cp3()` -/
def clearV1Cp3 (w : World) : World :=
  if w.client.v1Cp4Session = true then w.clearApp.release else w.release

/-! ## Callbacks -/

/-- `require_live` holds. -/
def live (w : World) (linked : Bool) : Bool :=
  w.app.isSome && w.session.state = .appSecure && w.client.v1Cp3Session = .mine && linked && w.client.v1NotifyLink

/-- `on_application` -/
def onApplication (w : World) (linked : Bool) (data : Bytes) : World :=
  if w.live linked = true ∧ w.reply = some .pending then { w with reply := some (.answered data) }
  else { w.clearApp with reply := if w.reply = some .pending then some .failed else w.reply }

/-- `deliver_notification` -/
def deliverNotification (w : World) (linked : Bool) (data : Bytes) : World :=
  if w.applicationActive = true then w.onApplication linked data
  else
    let retired := if w.session.state = .appSecure ∨ linked = false then w.clearSession else w
    { retired with ready := retired.ready ++ [.put data] }

/-- What happens while the coroutine waits. -/
def arrive (w : World) : Arrival → World
  | .notification data => { w with ready := w.ready ++ [.deliver data] }
  | .turn linked =>
    match w.ready with
    | [] => w
    | .deliver data :: rest => { w with ready := rest }.deliverNotification linked data
    | .put data :: rest => { w with ready := rest, notifications := w.notifications ++ [data] }
  | .disconnected => if w.client.v1Cp3Session = .none then w else w.clearV1Cp3

/-- What happens before the exchange subscribes: notifications go straight to the queue. -/
def arriveBefore (w : World) : Arrival → World
  | .notification data => { w with ready := w.ready ++ [.put data] }
  | .turn _ =>
    match w.ready with
    | .put data :: rest => { w with ready := rest, notifications := w.notifications ++ [data] }
    | _ => w
  | .disconnected => if w.client.v1Cp3Session = .none then w else w.clearV1Cp3

end World

/-- A coroutine of the runner. -/
abbrev Run := Effect World Exn

/-- Record an event. -/
def emit (event : Event) : Run Unit := update fun w ↦ { w with trace := event :: w.trace }

/-- A `ValueError` on `none`. -/
def orRaise {α : Type} : Option α → Run α
  | some value => pure value
  | none => fail .other

/-- Change the result. -/
def setResult (f : Result → Result) : Run Unit := update fun w ↦ { w with result := f w.result }

section Outside

variable (env : ℕ → Answer)

/-- Look at the outside. -/
def ask : Run Answer := do
  let position ← look World.position
  update fun w ↦ { w with position := w.position + 1 }
  return env position

/-- What arrives during an await. -/
def wait : Run Answer := do
  let answer ← ask env
  update fun w ↦ answer.arrivals.foldl World.arrive w
  return answer

/-- One `await` of an outside call. -/
def await : Run Answer := do
  let answer ← wait env
  match answer.fault with
  | some fault => fail fault.exn
  | none => return answer

/-- An `await` that only a cancellation ends early: a sleep, or the end of the guard. -/
def rest : Run Unit := do
  let answer ← wait env
  onlyIf (answer.fault = some .cancelled) (fail .cancelled)

/-! ## `BLECentralClient` -/

/-- The check of every operation on the link. -/
def requireConnected : Run Answer := do
  let answer ← ask env
  onlyIf (answer.connected = false) (fail .other)
  return answer

/-- `send_control` -/
def sendControl (wire : Bytes) : Run Unit := do
  let _ ← requireConnected env
  emit (.sent wire)
  let _ ← await env

/-- `start_notify` -/
def startNotify : Run Unit := do
  let _ ← requireConnected env
  let answer ← await env
  update fun w ↦ { w with client := { w.client with v1NotifyLink := answer.same } }

/-- `read_fragmented_public_key` -/
def readFragmentedPublicKey : Run Bytes := do
  let _ ← requireConnected env
  let answer ← await env
  return answer.bytes

/-- The writes of the fragments. -/
def writeFragments : List Bytes → Run Unit
  | [] => pure ()
  | _ :: rest => do
    let _ ← await env
    writeFragments rest

/-- `write_fragmented_ciphertext`: the fragments. -/
def sendCiphertext (ct : Bytes) : Run (List Bytes) := do
  let answer ← requireConnected env
  let fragments ← orRaise (writeFragmentedCiphertext ct answer.number)
  writeFragments env fragments
  return fragments

/-! ## `_exchange` -/

/-- `require_same_link` -/
def requireSameLink : Run Unit := do
  let answer ← ask env
  let session ← look World.session
  onlyIf (answer.connected = false ∨ answer.same = false ∨ session.state = .closed) (fail .v1)

/-- The queue must be empty before a control write. -/
def requireQuiet : Run Unit := do
  let notifications ← look World.notifications
  onlyIf (notifications ≠ []) (fail .v1)

/-- `asyncio.wait_for(notifications.get(), …)` -/
def getNotification : Run Bytes := do
  let _ ← await env
  match ← look World.notifications with
  | [] => fail .timeout
  | raw :: later => do
    update fun w ↦ { w with notifications := later }
    return raw

/-- `receive` -/
def receive (subtype : UInt8) : Run Bytes := do
  requireSameLink env
  let raw ← onError (getNotification env) fun e ↦ fail (if e = .timeout then .v1 else e)
  requireSameLink env
  let frame ← orRaise (parseV1Frame raw)
  onlyIf (frame.1 = pqV1Error) (fail .v1)
  onlyIf (frame.1 ≠ subtype) (fail .v1)
  return raw

/-- `attest` -/
def attest : Run (Bytes × SecurityInfo) := do
  requireSameLink env
  requireQuiet
  let query ← orRaise (encodeV1Frame pqV1SecQuery [])
  sendControl env query
  let raw ← receive env pqV1SecInfo
  let info ← orRaise (parseSecInfo raw)
  onlyIf (isAuthenticatedLevel4 info = false) (fail .v1)
  emit (.accepted raw)
  return (raw, info)

/-- A method of `session`, which clears itself before it raises, and what the trace records of it. -/
def onSession {α : Type} (event : Option Event) (method : CentralHandshake → Option (α × CentralHandshake)) :
    Run α := do
  let session ← look World.session
  match method session with
  | some (value, session) => do
    update fun w ↦ { w with session, trace := event.toList ++ w.trace }
    return value
  | none => do
    update World.clearSession
    fail .other

/-- The link and the queue before a frame of the handshake is sent. -/
def requireSilence : Run Unit := do
  rest env
  requireSameLink env
  requireQuiet

variable (crypto : Crypto)

/-- The read of the public key, the encapsulation and the transfer; the public key and the ciphertext. -/
def establishSecret : Run (Bytes × Bytes) := do
  let pk ← readFragmentedPublicKey env
  requireSameLink env
  onlyIf (pk.length ≠ 1184) (fail .v1)
  emit (.read pk)
  setResult fun result ↦ { result with publicKeyLen := pk.length }
  let encapsulated ← ask env
  onlyIf (encapsulated.fault ≠ none) (fail .other)
  let ct := encapsulated.bytes
  update fun w ↦ { w with secret := encapsulated.more }
  onlyIf (ct.length ≠ 1088 ∨ encapsulated.more.length ≠ 32) (fail .v1)
  emit (.encapsulated ct encapsulated.more)
  requireSameLink env
  let fragments ← sendCiphertext env ct
  setResult fun result ↦ { result with ciphertextFragments := fragments.length }
  requireSameLink env
  emit (.transferred fragments)
  return (pk, ct)

/-- From `session.begin` to the reply to START_CP3. -/
def startHandshake (sec pk ct : Bytes) : Run Bytes := do
  let drawn ← ask env
  let start ← orRaise (encodeV1Frame pqV1StartCp3 (Block.ofBytes 16 drawn.bytes).bytes)
  let secret ← look World.secret
  onSession none fun session ↦ (session.begin crypto secret sec pk ct start).map ((), ·)
  requireSilence env
  sendControl env start
  requireSameLink env
  setResult fun result ↦ { result with startSent := true }
  receive env pqV1ReadyCp3

/-- From READY_CP3 to the reply to FINISHED_C. -/
def finishHandshake (ready : Bytes) : Run Bytes := do
  let finishedC ← onSession (some (.accepted ready)) fun session ↦ session.acceptReady crypto ready
  setResult fun result ↦ { result with transcriptMatch := true }
  requireSilence env
  sendControl env finishedC
  requireSameLink env
  setResult fun result ↦ { result with finishedCSent := true }
  receive env pqV1FinishedP

/-- From FINISHED_P to APP_SECURE; no other reply may follow. -/
def secureHandshake (finishedP : Bytes) : Run Unit := do
  onSession (some (.accepted finishedP)) fun session ↦ (session.acceptFinishedP crypto finishedP).map ((), ·)
  update fun w ↦ { w with secret := wipe w.secret }
  onError (do
      let _ ← getNotification env
      fail .v1)
    fun e ↦ if e = .timeout then pure () else fail e
  requireSameLink env
  setResult fun result ↦ { result with finishedPVerified := true, appSecure := true }

/-- The body of `_exchange`, until the application may begin. -/
def handshake : Run SecurityInfo := do
  requireSameLink env
  startNotify env
  let _ ← attest env
  let (pk, ct) ← establishSecret env
  let (sec, info) ← attest env
  let ready ← startHandshake env crypto sec pk ct
  let finishedP ← finishHandshake env crypto ready
  secureHandshake env crypto finishedP
  return info

/-- The application exchange of `_exchange`. -/
def applicationExchange : Option (Run Unit) → Run Unit
  | none => pure ()
  | some rounds => do
    update fun w ↦ { w with applicationActive := true }
    rounds
    requireSameLink env

/-- The body of `_exchange`. -/
def exchangeBody (application : Option (Run Unit)) : Run SecurityInfo := do
  let info ← handshake env crypto
  applicationExchange env application
  update fun w ↦ { w with success := true }
  return info

/-- `_exchange` -/
def exchange (application : Option (Run Unit)) : Run SecurityInfo := do
  update fun w ↦ { w with secret := [], session := {}, applicationActive := false, success := false }
  let held ← look fun w ↦ w.client.v1Cp3Session
  onlyIf (held ≠ .none) (fail .v1)
  update fun w ↦ { w with client := { w.client with v1Cp3Session := .mine } }
  ensuring
    (onError (exchangeBody env crypto application) fun e ↦
      if e = .cancelled then do
        -- A cancellation by the guard says that the link is gone.
        let guarded ← ask env
        fail (if guarded.yes = true then .v1 else .cancelled)
      else fail e)
    (do
      update fun w ↦ { w with secret := wipe w.secret }
      let success ← look World.success
      onlyIf (success = false) (update World.clearSession)
      rest env)

/-- `_cp3_exchange`; its deadline is a cancellation inside. -/
def cp3Exchange (application : Option (Run Unit)) : Run SecurityInfo :=
  onError (exchange env crypto application) fun e ↦ do
    let deadline ← ask env
    fail (if e = .timeout ∨ e = .cancelled ∧ deadline.yes = true then .v1 else e)

/-! ## `_cp4_exchange` -/

variable (aead : Aead)

/-- `require_live` -/
def requireLive : Run Unit := do
  let answer ← ask env
  let w ← look id
  onlyIf (w.live (answer.connected && answer.same) = false) (fail .v1)

/-- A method of `app`, which clears itself before it raises, and what the trace records of it. -/
def onApp {α : Type} (event : Option Event) (method : CentralApplication → Option α × CentralApplication) :
    Run α := do
  let w ← look id
  match w.app with
  | none => fail .other
  | some channel =>
    match method (channel.over w.session) with
    | (some value, app) => do
      update fun w ↦ { w with app := some (.of app), trace := event.toList ++ w.trace }
      return value
    | (none, _) => do
      update World.clearApp
      fail .other

/-- `asyncio.wait_for(reply, …)`; what ends the wait early cancels the future. -/
def awaitReply : Run Bytes := do
  let answer ← wait env
  let reply ← look World.reply
  match answer.fault, reply with
  | none, some (.answered data) => return data
  | none, some .failed => fail .v1
  | none, _ => do
    update fun w ↦ { w with reply := some .cancelled }
    fail .timeout
  | some fault, reply => do
    onlyIf (reply = some .pending) (update fun w ↦ { w with reply := some .cancelled })
    fail fault.exn

/-- One PING and its PONG; the challenge is wiped when the round is over. -/
def round : Run Unit := do
  requireLive env
  let drawn ← ask env
  let challenge := (Block.ofBytes 16 drawn.bytes).bytes
  let frame ← onApp none fun app ↦ app.encryptPing aead challenge drawn.number
  update fun w ↦ { w with reply := some .pending }
  sendControl env frame
  requireLive env
  let raw ← awaitReply env
  requireLive env
  let link ← ask env
  let _ ← onApp (some (.accepted raw)) fun app ↦ app.acceptPong aead raw challenge link.number
  update fun w ↦ { w with reply := none }
  setResult fun result ↦ { result with authenticatedRounds := result.authenticatedRounds + 1 }

/-- The rounds of the loop. -/
def roundLoop : ℕ → Run Unit
  | 0 => pure ()
  | n + 1 => do
    round env aead
    roundLoop n

/-- `CentralApplication(handshake)` -/
def createApp : Run Unit := do
  let session ← look World.session
  match CentralApplication.create crypto (borrowed session) none none with
  | some app => update fun w ↦ { w with app := some (.of app), client := { w.client with v1Cp4Session := true } }
  | none => do
    update World.clearSession
    fail .other

/-- `rounds` -/
def rounds (count : ℕ) : Run Unit := do
  createApp crypto
  ensuring
    (onError (do
        roundLoop env aead count
        rest env
        requireLive env)
      fun e ↦ do
        update World.clearApp
        fail e)
    (update fun w ↦ { w with reply := none })

/-- `_cp4_exchange` -/
def cp4Exchange : Run SecurityInfo :=
  onError (cp3Exchange env crypto (some (rounds env crypto aead 2))) fun e ↦ do
    update World.clearApp
    fail e

/-! ## `_run_v1` -/

/-- What arrives during an await before the exchange. -/
def waitBefore : Run Answer := do
  let answer ← ask env
  update fun w ↦ answer.arrivals.foldl World.arriveBefore w
  return answer

/-- One `await` of an outside call before the exchange. -/
def awaitBefore : Run Answer := do
  let answer ← waitBefore env
  match answer.fault with
  | some fault => fail fault.exn
  | none => return answer

/-- `_probe_denied`; the answer says whether the exception is a security denial. -/
def probeDenied (probe : Probe) : Run Unit := do
  let answer ← waitBefore env
  match answer.fault with
  | none => fail .v1
  | some .cancelled => fail .cancelled
  | some _ => do
    onlyIf (answer.yes = false) (fail .v1)
    emit (.denied probe)

/-- The probes, one after the other: the denials. -/
def runProbes : List Probe → Run (List Probe)
  | [] => pure []
  | probe :: later => do
    probeDenied env probe
    let denials ← runProbes later
    return probe :: denials

/-- The fragments that `_run_pre_l4_probes` takes its probe from. -/
@[irreducible]
def probeFragments (negotiatedMtu : ℕ) : Option (List Bytes) :=
  writeFragmentedCiphertext (List.replicate 1088 0) negotiatedMtu

/-- `_run_pre_l4_probes` -/
def runPreL4Probes : Run (List Probe) := do
  let answer ← ask env
  let _ ← orRaise (probeFragments answer.number)
  let denials ← runProbes env preL4Probes
  onlyIf (¬∀ probe ∈ preL4Probes, probe ∈ denials) (fail .v1)
  return denials

/-- `_ensure_connected`, with `reconnect_v1_peer`. -/
def ensureConnected : Run Unit := do
  let answer ← ask env
  onlyIf (answer.connected = false) do
    update World.clearV1Cp3
    let reconnected ← awaitBefore env
    onlyIf (reconnected.yes = false) (fail .v1)

/-- `inspect_pairing`, after `unpair` where it is asked for. -/
def inspectBond (unpairFirst : Bool) : Run Bool := do
  let state ← awaitBefore env
  if unpairFirst = true ∧ state.yes = true then do
    let _ ← awaitBefore env
    ensureConnected env
    let state ← awaitBefore env
    onlyIf (state.yes = true) (fail .v1)
    return false
  else return state.yes

/-- The probes and the pairing of a peer without a bond. -/
def pair : Run Unit := do
  let denials ← runPreL4Probes env
  setResult fun result ↦ { result with preL4Denials := denials }
  -- `outcome.paired and outcome.status == "PAIRED"`, and `outcome.authenticated`.
  let outcome ← awaitBefore env
  onlyIf (outcome.yes = false) (fail .v1)
  onlyIf (outcome.also = false) (fail .v1)
  emit .paired
  ensureConnected env

/-- The bond, or the pairing. -/
def prepare (bonded : Bool) : Run Unit := if bonded = true then emit .bonded else pair env

/-- The `except` clauses around the exchange. -/
def asV1Error (e : Exn) : Run SecurityInfo := fail (if e = .cancelled then .cancelled else .v1)

/-- The `finally` clause of a run that fails: `stop_notify`, whose exceptions are only logged. -/
def stopNotify : Run Unit := do
  update World.clearV1Cp3
  rest env

/-- `_run_v1`, which keeps the notifications of a run that returns. -/
def runV1 (unpairFirst : Bool) (postL4Exchange : Run SecurityInfo) : Run Unit := do
  let answer ← ask env
  onlyIf (answer.connected = false) (fail .v1)
  let bonded ← inspectBond env unpairFirst
  setResult fun result ↦ { result with bonded }
  prepare env bonded
  onError (do
      let info ← onError postL4Exchange asV1Error
      setResult fun result ↦ { result with securityInfo := some info })
    fun e ↦ do
      stopNotify env
      fail e

/-- What `run_v1_cp3` and `run_v1_cp4` clear when the run raises. -/
def World.clearHeld (w : World) : World :=
  let app := if w.client.v1Cp4Session = true then w.clearApp else w
  if app.client.v1Cp3Session = .mine then app.clearSession else app

/-- `run_v1_cp3` -/
def runV1Cp3 (unpairFirst : Bool) : Run Unit :=
  onError (runV1 env unpairFirst (cp3Exchange env crypto none)) fun e ↦ do
    update World.clearHeld
    fail e

/-- `run_v1_cp4` -/
def runV1Cp4 (unpairFirst : Bool) : Run Unit :=
  onError (runV1 env unpairFirst (cp4Exchange env crypto aead)) fun e ↦ do
    update World.clearHeld
    fail e

end Outside

end PqBleHandshake.Python.V1
