import PqBleHandshake.Driver.Session
import PqBleHandshake.Foundation.Heap

/-!
# The buffers of an exchange

`_exchange` of `central/resumption.py` with its test modes, once more, down to the `bytearray`s in which its
objects keep their secrets.  Objects hold the addresses of their buffers.  What the methods compute is what the
models of their classes compute from the contents.  The result that `_exchange` fills in for its caller holds no
secrets and is left out.  An empty or wiped `bytearray` reads as a block of zeros.
-/

namespace PqBleHandshake.Python.Buffers

open Foundation Resumption.Python Effect
open Resumption hiding Ticket

/-! ## Objects -/

/-- A `Ticket`, with the address of its root. -/
structure TicketObject where
  profile : UInt8
  peer : Block 7
  rid : Bytes
  root : ℕ
  createdAt : ℚ
  successfulResumes : ℕ
  valid : Bool

/-- A `SessionKeys`. -/
structure KeysObject where
  profile : UInt8
  th : ℕ
  confirmC : ℕ
  confirmP : ℕ
  c2p : ℕ
  p2c : ℕ
  ivC2p : ℕ
  ivP2c : ℕ

/-- A `CentralResume`, without the ticket it shares with `_exchange`. -/
structure ResumeObject where
  profile : UInt8
  state : CentralState
  sessionId : Bytes
  nc : Bytes
  keys : Option KeysObject

/-- The handshake keys of a `FullHandshake`; v0.8 adds the application and the SAS key. -/
structure HandshakeKeys where
  prk : ℕ
  th : ℕ
  confirmC : ℕ
  confirmP : ℕ
  hybrid : Option (ℕ × ℕ)

/-- A `FullHandshake`; buffers that are still empty have no address.  `_exchange` takes its ticket over as soon
as it is issued. -/
structure FullObject where
  profile : UInt8
  state : HandshakeState
  sessionId : Bytes
  keys : Option HandshakeKeys
  /-- `app_c2p` and `app_p2c` -/
  traffic : Option (ℕ × ℕ)

/-- The object in `session` and `client._v1_cp3_session`. -/
inductive SessionObject
  | resume (central : ResumeObject)
  | full (handshake : FullObject)

/-- The object in `app` and `client._v1_cp4_session`: a `HybridApplication` has immutable keys only, a
`CentralApplication` borrows the keys of the session and owns its IV bases. -/
inductive Application
  | hybrid
  | central (ivC2p ivP2c : ℕ)

/-- The buffers of a `SessionKeys`. -/
def KeysObject.addresses (keys : KeysObject) : List ℕ :=
  [keys.confirmC, keys.confirmP, keys.th, keys.c2p, keys.p2c, keys.ivC2p, keys.ivP2c]

/-- Two buffers, if they exist. -/
def pairAddresses (pair : Option (ℕ × ℕ)) : List ℕ := pair.elim [] fun pair ↦ [pair.1, pair.2]

/-- The buffers that `clear_handshake` wipes. -/
def HandshakeKeys.addresses (keys : HandshakeKeys) : List ℕ :=
  [keys.prk, keys.th, keys.confirmC, keys.confirmP] ++ pairAddresses keys.hybrid

namespace SessionObject

/-- The buffers that `session.clear()` wipes. -/
def addresses : SessionObject → List ℕ
  | .resume central => central.keys.elim [] KeysObject.addresses
  | .full handshake => handshake.keys.elim [] HandshakeKeys.addresses ++ pairAddresses handshake.traffic

/-- What else `session.clear()` does. -/
def close : SessionObject → SessionObject
  | .resume central => .resume { central with sessionId := [], nc := [], state := .closed }
  | .full handshake => .full { handshake with sessionId := [], state := .closed }

/-- `session.state == "CLOSED"` -/
def closed : SessionObject → Bool
  | .resume central => central.state = .closed
  | .full handshake => handshake.state = .closed

/-- `session.state == "APP_SECURE"` -/
def secure : SessionObject → Bool
  | .resume central => central.state = .appSecure
  | .full handshake => handshake.state = .appSecure

end SessionObject

/-- The buffers that an application owns. -/
def Application.addresses : Application → List ℕ
  | .hybrid => []
  | .central ivC2p ivP2c => [ivC2p, ivP2c]

/-! ## What the objects hold -/

/-- The ticket with the contents of its root. -/
def TicketObject.value (heap : Heap) (ticket : TicketObject) : Ticket where
  profile := ticket.profile
  peer := ticket.peer
  rid := ticket.rid
  root := heap.block 32 ticket.root
  createdAt := ticket.createdAt
  successfulResumes := ticket.successfulResumes
  replay := []
  valid := ticket.valid

/-- The keys with the contents of their buffers. -/
def KeysObject.value (heap : Heap) (keys : KeysObject) : SessionKeys where
  profile := keys.profile
  th := heap.block 32 keys.th
  confirmC := heap.block 32 keys.confirmC
  confirmP := heap.block 32 keys.confirmP
  c2p := heap.block 32 keys.c2p
  p2c := heap.block 32 keys.p2c
  ivC2p := heap.block 12 keys.ivC2p
  ivP2c := heap.block 12 keys.ivP2c

/-- The resumption with the contents of its buffers. -/
def ResumeObject.value (heap : Heap) (central : ResumeObject) : CentralResume where
  profile := central.profile
  state := central.state
  sessionId := central.sessionId
  nc := central.nc
  keys := central.keys.map (KeysObject.value heap)

/-- A buffer that may still be empty. -/
def blockOf (heap : Heap) (address : Option ℕ) : Block 32 := address.elim (.zero 32) (heap.block 32)

/-- The handshake with the contents of its buffers. -/
def FullObject.value (heap : Heap) (handshake : FullObject) : FullHandshake where
  profile := handshake.profile
  state := handshake.state
  sessionId := handshake.sessionId
  prk := blockOf heap (handshake.keys.map HandshakeKeys.prk)
  th := blockOf heap (handshake.keys.map HandshakeKeys.th)
  confirmC := blockOf heap (handshake.keys.map HandshakeKeys.confirmC)
  confirmP := blockOf heap (handshake.keys.map HandshakeKeys.confirmP)
  application := blockOf heap ((handshake.keys.bind HandshakeKeys.hybrid).map Prod.fst)
  sasKey := blockOf heap ((handshake.keys.bind HandshakeKeys.hybrid).map Prod.snd)
  appC2p := blockOf heap (handshake.traffic.map Prod.fst)
  appP2c := blockOf heap (handshake.traffic.map Prod.snd)

/-! ## The state -/

/-- The variables of `_exchange`; the trace records what was verified and what became of the ticket file. -/
structure Frame where
  position : ℕ := 0
  trace : List Event := []
  file : TicketFile := .absent
  heap : Heap := {}
  session : Option SessionObject := none
  app : Option Application := none
  ticket : Option TicketObject := none

/-- The buffers of the current objects. -/
def Frame.owned (w : Frame) : List ℕ :=
  w.session.elim [] SessionObject.addresses ++ (w.app.elim [] Application.addresses ++
    w.ticket.elim [] fun ticket ↦ [ticket.root])

/-- A step of `_exchange`. -/
abbrev Run := Effect Frame Exn

/-- Record an event. -/
def emit (event : Event) : Run Unit := update fun w ↦ { w with trace := event :: w.trace }

/-- `bytearray(content)` -/
def make (content : Bytes) : Run ℕ := do
  let address ← look fun w ↦ w.heap.size
  update fun w ↦ { w with heap := w.heap.make content }
  return address

/-- `clear` of `v1_cp3.py`, for several buffers. -/
def wipe (addresses : List ℕ) : Run Unit := update fun w ↦ { w with heap := w.heap.wipeAll addresses }

/-- A local buffer that a `finally` wipes. -/
def withBuffer {α : Type} (content : Bytes) (body : ℕ → Run α) : Run α := do
  let address ← make content
  ensuring (body address) (wipe [address])

/-- Replace `session`. -/
def setSession (session : Option SessionObject) : Run Unit := update fun w ↦ { w with session }

/-- Replace `ticket`. -/
def setTicket (ticket : Option TicketObject) : Run Unit := update fun w ↦ { w with ticket }

/-- Replace `app`. -/
def setApp (app : Option Application) : Run Unit := update fun w ↦ { w with app }

/-- `session.clear()` -/
def sessionClear : Run Unit := do
  match ← look Frame.session with
  | some session => do
    wipe session.addresses
    setSession (some session.close)
  | none => pure ()

/-- `app.clear()` -/
def appClear : Run Unit := do
  match ← look Frame.app with
  | some app => do
    sessionClear
    wipe app.addresses
  | none => pure ()

/-- `ticket.clear()` -/
def ticketClear : Run Unit := do
  match ← look Frame.ticket with
  | some ticket => do
    wipe [ticket.root]
    setTicket (some { ticket with rid := [], valid := false })
  | none => pure ()

/-- `except BaseException: self.clear(); raise`, in a method of `session`. -/
def closing {α : Type} (body : Run α) : Run α := onError body fun e ↦ do
  sessionClear
  fail e

/-- `fail` on `none`. -/
def orRaise {α : Type} (e : Exn) : Option α → Run α
  | some value => pure value
  | none => fail e

/-- A `ResumeError` of a pure function. -/
def orResume {α : Type} : Except Reason α → Run α
  | .ok value => pure value
  | .error reason => fail (.resume reason)

section Outside

variable (env : ℕ → Answer)

/-- Look at the outside. -/
def ask : Run Answer := do
  let position ← look Frame.position
  update fun w ↦ { w with position := w.position + 1 }
  return env position

/-- One `await`: the disconnect callback may clear the application and the session meanwhile, and the call
may raise. -/
def await : Run Answer := do
  let answer ← ask env
  onlyIf (answer.lost = true) do
    appClear
    sessionClear
  match answer.raises with
  | some fault => fail fault.exn
  | none => return answer

/-- `require_link` -/
def requireLink : Run Unit := do
  let answer ← ask env
  let session ← look Frame.session
  onlyIf (answer.linked = false ∨ session.any SessionObject.closed) (fail (.v1 none))

/-- `receive` -/
def receive : Run Bytes := do
  let answer ← await env
  requireLink env
  return answer.bytes

/-- `client.send_control` -/
def sendControl (wire : Bytes) : Run Unit := do
  emit (.sent wire)
  let _ ← await env

/-! ## The ticket and its store -/

/-- `ticket.check(profile, peer, clock())` on the current ticket. -/
def ticketCheck (profile : UInt8) (peer : Block 7) : Run Unit := do
  match ← look Frame.ticket with
  | some ticket => do
    let clock ← ask env
    let heap ← look Frame.heap
    match (ticket.value heap).check profile peer clock.time with
    | .ok () => pure ()
    | .error (reason, after) => do
      -- An expired or a used-up ticket is cleared.
      onlyIf (after.valid ≠ ticket.valid) ticketClear
      fail (.resume reason)
  | none => fail .other

/-- `ticket.used()` -/
def ticketUsed : Run Unit := do
  match ← look Frame.ticket with
  | some ticket => do
    setTicket (some { ticket with successfulResumes := ticket.successfulResumes + 1 })
    onlyIf (maxResumes ≤ ticket.successfulResumes + 1) ticketClear
  | none => fail .other

/-- `TicketStore.delete` -/
def storeDelete : Run Unit := do
  let answer ← ask env
  match answer.raises with
  | some fault => fail fault.exn
  | none => do
    update fun w ↦ { w with file := .absent }
    emit .deleted

/-- `TicketStore.load`; a file that it rejects is rejected before a root is made, or by `check`. -/
def storeLoad (profile : UInt8) (peer : Block 7) : Run (Option TicketObject) := do
  let answer ← ask env
  let file ← look Frame.file
  if answer.yes = false then return none
  else match file with
    | .absent => return none
    | .malformed wrongSize => do
      onlyIf (wrongSize = true) (storeDelete env)
      return none
    | .ticket stored => do
      let root ← make stored.root.bytes
      let ticket : TicketObject := {
        profile, peer, rid := stored.rid, root, createdAt := stored.createdAt
        successfulResumes := stored.successfulResumes, valid := true }
      let heap ← look Frame.heap
      match (ticket.value heap).check profile peer answer.time with
      | .ok () => return some ticket
      | .error _ => do
        wipe [root]
        storeDelete env
        return none

/-- `TicketStore.save` of the current ticket. -/
def storeSave : Run Unit := do
  match ← look Frame.ticket with
  | some ticket =>
    if ticket.valid = false then storeDelete env
    else do
      ticketCheck env ticket.profile ticket.peer
      let heap ← look Frame.heap
      let answer ← ask env
      -- The file is replaced in one step; a failure before or after it raises.
      onlyIf (answer.yes = true) do
        update fun w ↦ { w with file := .ticket (ticket.value heap) }
        emit (.saved (ticket.value heap))
      match answer.raises with
      | some fault => fail fault.exn
      | none => pure ()
  | none => fail .other

/-! ## The resumption -/

variable (crypto : Crypto) (onCurve : Bytes → Bool) (profile : UInt8) (peer : Block 7)

/-- A label of `SessionKeys`: a block is made, its head is kept and the block wiped. -/
def expandKey (prk th : Block 32) (label : Bytes) (length : ℕ) : Run ℕ := do
  let block ← make (expand crypto prk label th).bytes
  let key ← make ((expand crypto prk label th).bytes.take length)
  wipe [block]
  return key

/-- The constructor of `SessionKeys`; once its first buffer is made it does not raise. -/
def makeKeys (root : Block 32) (rid sid nc np : Bytes) (profile : UInt8) : Run KeysObject := do
  let input ← orResume (transcript profile rid sid nc np)
  let name ← orResume (domainOf profile)
  let th := crypto.hash input
  let thBuffer ← make th.bytes
  let prk := crypto.mac th root.bytes
  let prkBuffer ← make prk.bytes
  let confirmC ← expandKey crypto prk th (name ++ ascii "/RESUME-CONFIRM-C") 32
  let confirmP ← expandKey crypto prk th (name ++ ascii "/RESUME-CONFIRM-P") 32
  let c2p ← expandKey crypto prk th (name ++ ascii "/RESUME-APP-C2P") 32
  let p2c ← expandKey crypto prk th (name ++ ascii "/RESUME-APP-P2C") 32
  let ivC2p ← expandKey crypto prk th (name ++ ascii "/RESUME-IV-C2P") 12
  let ivP2c ← expandKey crypto prk th (name ++ ascii "/RESUME-IV-P2C") 12
  wipe [prkBuffer]
  return { profile, th := thBuffer, confirmC, confirmP, c2p, p2c, ivC2p, ivP2c }

/-- The session as a `CentralResume`, and its ticket. -/
def resumeObjects : Run (ResumeObject × TicketObject) := do
  match ← look Frame.session, ← look Frame.ticket with
  | some (.resume central), some ticket => return (central, ticket)
  | _, _ => fail .other

/-- `session.begin()` of a `CentralResume`. -/
def resumeBegin : Run Bytes := do
  let (central, ticket) ← resumeObjects
  let heap ← look Frame.heap
  if central.state ≠ .new then do
    sessionClear
    fail (.resume .malformed)
  else do
    setSession (some (.resume { central with state := .waitAccept }))
    orResume ((central.value heap).begin crypto (ticket.value heap)).1

/-- `session.accept(raw)` -/
def accept (raw : Bytes) : Run Bytes := closing do
  let (central, ticket) ← resumeObjects
  let heap ← look Frame.heap
  let root := heap.block 32 ticket.root
  onlyIf (central.state ≠ .waitAccept) (fail (.resume .malformed))
  let payload ← orResume (Resumption.parse raw central.profile subtypeAccept)
  let np := payload.take 32
  let expected ←
    orResume (authAccept crypto central.profile root ticket.rid central.sessionId central.nc np)
  onlyIf (expected.bytes ≠ payload.drop 32) (fail (.resume .badAuth))
  let keys ← makeKeys crypto root ticket.rid central.sessionId central.nc np central.profile
  setSession (some (.resume { central with keys := some keys, state := .waitFinishP }))
  let heap ← look Frame.heap
  orResume (Resumption.encode central.profile subtypeFinishC ((keys.value heap).finish crypto true).bytes)

/-- `session.finish(reply)`, and the event of the verification. -/
def resumeFinish (reply : Bytes) : Run Unit := closing do
  let (central, ticket) ← resumeObjects
  let heap ← look Frame.heap
  let _ ← orResume ((central.value heap).finishBody crypto reply)
  emit (.finishPVerified (central.value heap) (ticket.value heap) reply)
  wipe (central.keys.elim [] fun keys ↦ [keys.confirmC, keys.confirmP, keys.th])
  ticketUsed
  setSession (some (.resume { central with state := .appSecure }))

/-! ## The full handshake -/

/-- The session as a `FullHandshake`. -/
def fullObject : Run FullObject := do
  match ← look Frame.session with
  | some (.full handshake) => return handshake
  | _ => fail .other

/-- `FullHandshake(profile)` -/
def makeFull : Run Unit := do
  let _ ← orResume (domainOf profile)
  setSession (some (.full { profile, state := .new, sessionId := [], keys := none, traffic := none }))

/-- `session.begin`; whatever raises does so before the first buffer is made. -/
def fullBegin (ss pk ct sid ecdh centralPublic peripheralPublic sec : Bytes) : Run Unit := closing do
  let handshake ← fullObject
  let heap ← look Frame.heap
  let next ← orRaise .other
    ((handshake.value heap).begin crypto onCurve ss pk ct sid ecdh centralPublic peripheralPublic sec)
  let ikm ← make (if handshake.profile = pqResumeV08 then (buildHybridIkm ss ecdh).getD [] else ss)
  let th ← make next.th.bytes
  let prk ← make next.prk.bytes
  wipe [ikm]
  let opened := fun keys ↦ some (SessionObject.full { handshake with
    sessionId := next.sessionId, keys := some keys, state := .waitAuth })
  if handshake.profile = pqResumeV08 then do
    let block ← make (next.application.bytes ++ next.sasKey.bytes ++ next.confirmC.bytes ++
      next.confirmP.bytes)
    let application ← make next.application.bytes
    let sasKey ← make next.sasKey.bytes
    let confirmC ← make next.confirmC.bytes
    let confirmP ← make next.confirmP.bytes
    wipe [block]
    setSession (opened { prk, th, confirmC, confirmP, hybrid := some (application, sasKey) })
  else do
    let confirmC ← make next.confirmC.bytes
    let confirmP ← make next.confirmP.bytes
    setSession (opened { prk, th, confirmC, confirmP, hybrid := none })

/-- `session.sas()` -/
def fullSas : Run Unit := do
  let handshake ← fullObject
  let heap ← look Frame.heap
  let _ ← orRaise .other ((handshake.value heap).sas crypto)

/-- The chaining of the transcript hash under v1.1: the old buffer is wiped and a new one takes its place. -/
def chainTh (handshake : FullObject) (keys : HandshakeKeys) (wire : Bytes) : Run HandshakeKeys :=
  if handshake.profile = pqResumeV08 then return keys
  else do
    let heap ← look Frame.heap
    let th ← make (crypto.hash ((heap.block 32 keys.th).bytes ++ wire)).bytes
    wipe [keys.th]
    setSession (some (.full { handshake with keys := some { keys with th } }))
    return { keys with th }

/-- `session.finish_c` -/
def fullFinishC (authenticated : Bool) : Run Bytes := closing do
  let handshake ← fullObject
  let heap ← look Frame.heap
  let h := handshake.value heap
  onlyIf (h.state ≠ .waitAuth ∨ authenticated = false) (fail .other)
  let keys ← orRaise .other handshake.keys
  let d ← orRaise .other (domain h.profile)
  let hybrid : Bool := h.profile = pqResumeV08
  let tag := verifyData crypto h.confirmC (d ++ ascii (if hybrid then "/FINISHED/C" else "/VERIFY-C")) h.th
  let wire ← withBuffer tag.bytes fun _ ↦ orRaise .other
    (encodeFull onCurve h.profile (if hybrid then pqPhase7FinishedC else pqV1FinishedC) tag.bytes)
  let keys ← chainTh crypto handshake keys wire
  setSession (some (.full { handshake with keys := some keys, state := .waitFinishedP }))
  return wire

/-- What `finish_p` does once FINISHED_P is verified, with the new contents from the model of the class: the
traffic keys and the ticket are made, and the handshake keys wiped. -/
def openTraffic (handshake : FullObject) (keys : HandshakeKeys) (raw : Bytes) (next : FullHandshake)
    (ticket : Ticket) : Run TicketObject := do
  let keys ← chainTh crypto handshake keys raw
  let appC2p ← make next.appC2p.bytes
  let appP2c ← make next.appP2c.bytes
  let root ← make ticket.root.bytes
  wipe keys.addresses
  setSession (some (.full { handshake with
    keys := some keys, traffic := some (appC2p, appP2c), state := .appSecure }))
  return { profile := ticket.profile, peer := ticket.peer, rid := ticket.rid, root
           createdAt := ticket.createdAt, successfulResumes := ticket.successfulResumes, valid := true }

/-- `session.finish_p`, the event of the verification and the new `session.ticket`. -/
def fullFinishP (raw : Bytes) (now : ℚ) : Run TicketObject := closing do
  let handshake ← fullObject
  let heap ← look Frame.heap
  let h := handshake.value heap
  onlyIf (h.state ≠ .waitFinishedP) (fail .other)
  let keys ← orRaise .other handshake.keys
  let (subtype, payload) ← orRaise .other (parseFull onCurve h.profile raw)
  let hybrid : Bool := h.profile = pqResumeV08
  onlyIf (subtype ≠ if hybrid then pqPhase7FinishedP else pqV1FinishedP) (fail .other)
  let d ← orRaise .other (domain h.profile)
  let expected := verifyData crypto h.confirmP (d ++ ascii (if hybrid then "/FINISHED/P" else "/VERIFY-P")) h.th
  withBuffer expected.bytes fun _ ↦ do
    onlyIf (expected.bytes ≠ payload) (fail .other)
    let next ← orRaise .other (h.finishP crypto onCurve raw peer now)
    let ticket ← orRaise .other next.ticket
    let issued ← openTraffic crypto handshake keys raw next ticket
    emit (.finishedPVerified h raw peer now)
    return issued

/-! ## The application -/

/-- The IV base of one direction for a `CentralApplication`; a resumed session brings it along. -/
def ivBase (session : SessionObject) (heap : Heap) (c2p : Bool) : Option Bytes :=
  match session with
  | .resume central => central.keys.map fun keys ↦ heap.read (if c2p then keys.ivC2p else keys.ivP2c)
  | .full handshake =>
    let h := handshake.value heap
    (deriveIvBase crypto h.profile (if c2p then h.appC2p else h.appP2c) h.sessionId
      (if c2p then pqV1AppC2p else pqV1AppP2c)).map Block.bytes

/-- The constructor of `CentralApplication`, which clears itself before it raises. -/
def makeCentral (session : SessionObject) : Run Unit := closing do
  onlyIf (session.secure = false) (fail .other)
  let heap ← look Frame.heap
  let first ← orRaise .other (ivBase crypto session heap true)
  let ivC2p ← make first
  onError
    (do
      let second ← orRaise .other (ivBase crypto session heap false)
      let ivP2c ← make second
      setApp (some (.central ivC2p ivP2c)))
    fun e ↦ do
      wipe [ivC2p]
      fail e

/-- The constructor of `HybridApplication` or `CentralApplication`. -/
def openApplication : Run Unit := do
  match ← look Frame.session with
  | some session =>
    if profile = pqResumeV08 then do
      onlyIf (session.secure = false) (fail .other)
      setApp (some .hybrid)
    else makeCentral crypto session
  | none => fail .other

/-- A method of `app` raises; a `CentralApplication` clears itself first. -/
def appRaise : Run Unit := do
  match ← look Frame.app with
  | some (.central ..) => appClear
  | _ => pure ()
  fail .other

/-- `app.encrypt_ping`, which may raise. -/
def encryptPing : Run Unit := do
  let sealed ← ask env
  onlyIf (sealed.yes = false) appRaise

/-- `app.accept_pong`, which may raise before or after it has a plaintext. -/
def acceptPong : Run Unit := do
  let opened ← ask env
  onlyIf (opened.also = false) appRaise
  withBuffer opened.bytes fun _ ↦ onlyIf (opened.yes = false) appRaise

/-- One application round trip. -/
def applicationRound : Run Unit := do
  requireLink env
  encryptPing env
  let _ ← await env
  let _ ← receive env
  acceptPong env

/-- The application rounds and the last check of the queue. -/
def applicationRounds : ℕ → Run Unit
  | 0 => do
    let queue ← ask env
    onlyIf (queue.yes = false) (fail (.v1 none))
  | n + 1 => do
    applicationRound env
    applicationRounds n

/-! ## `_exchange` -/

/-- The test modes of `_exchange`; `pre-l4` ends before it. -/
inductive Negative
  | initMac | acceptMac | replayInit | replayFinish | expired | maxUses
deriving DecidableEq

/-- `tamper` -/
def tamper (raw : Bytes) : Bytes := raw.dropLast ++ [raw.getLastD 0 ^^^ 1]

/-- `attest` -/
def attest : Run Bytes := do
  let query ← orRaise .other (encodeFull onCurve pqResumeV11 pqV1SecQuery [])
  sendControl env query
  let sec ← receive env
  orRaise .other (securityInfo onCurve sec)
  return sec

variable (negative : Option Negative) (replayFinish : Option Bytes)

/-- The modes `expired` and `max-uses` on the loaded ticket. -/
def lifecycle : Run Unit :=
  onlyIf (negative = some .expired ∨ negative = some .maxUses) do
    match ← look Frame.ticket with
    | some ticket => do
      setTicket (some (if negative = some .expired then
          { ticket with createdAt := roundDouble (ticket.createdAt - ttl) }
        else { ticket with successfulResumes := maxResumes }))
      onError (ticketCheck env profile peer) fun
        | .resume _ => do
          storeDelete env
          setTicket none
        | e => fail e
    | none => fail (.v1 none)

/-- The mode `replay-init`: the second INIT must be rejected. -/
def replayInit (init : Bytes) : Run Unit := do
  sendControl env init
  let raw ← receive env
  let _ ← orResume (Resumption.parse raw profile subtypeReject)
  fail .other

/-- The mode `accept-mac`: the tampered ACCEPT must be refused. -/
def acceptTampered (raw : Bytes) : Run Unit := do
  let _ ← onError (accept crypto (tamper raw)) fun
    | .resume .badAuth => fail .other
    | e => fail e
  fail (.v1 none)

/-- After an ACCEPT. -/
def resumeAccepted (init raw : Bytes) : Run Unit := do
  onlyIf (negative = some .initMac) (fail (.v1 none))
  onlyIf (negative = some .replayInit) (replayInit env profile init)
  onlyIf (negative = some .acceptMac) (acceptTampered crypto raw)
  let finished ← accept crypto raw
  sendControl env (replayFinish.getD finished)
  let reply ← receive env
  onlyIf (replayFinish.isSome = true) do
    let _ ← orResume (Resumption.parse reply profile subtypeReject)
    fail .other
  resumeFinish crypto reply
  storeSave env
  openApplication crypto profile

/-- `CentralResume(ticket)` -/
def makeResume : Run Unit := do
  match ← look Frame.ticket with
  | some ticket => do
    ticketCheck env ticket.profile ticket.peer
    let drawn ← ask env
    setSession (some (.resume {
      profile := ticket.profile, state := .new, sessionId := (Block.ofBytes 16 drawn.bytes).bytes
      nc := (Block.ofBytes 32 drawn.more).bytes, keys := none }))
  | none => fail .other

/-- The resumption of `_exchange`. -/
def resumeExchange : Run Unit := do
  makeResume env
  let init ← resumeBegin crypto
  let init := if negative = some .initMac then tamper init else init
  sendControl env init
  let raw ← receive env
  let subtype ← orResume (parseReply profile raw)
  if subtype = subtypeReject then do
    onlyIf (negative = some .initMac) (fail .other)
    sessionClear
    setSession none
  else resumeAccepted env crypto profile negative replayFinish init raw

/-- READY and what authenticates it: the operator in v0.8, whose session begins only now, and the transcript
hash in v1.1.  Both shared secrets are wiped once the session has begun. -/
def confirm (secret : ℕ) (pk ct sid publicKey : Bytes) (subtype : UInt8) (payload : Bytes) : Run Bool :=
  if profile = pqResumeV08 then do
    onlyIf (subtype ≠ pqPhase7Ready7Auth) (fail (.v1 none))
    -- `derive_p256_ecdh_shared_secret`
    let shared ← ask env
    onlyIf (shared.yes = false) (fail .other)
    withBuffer shared.bytes fun ecdh ↦ do
      let heap ← look Frame.heap
      fullBegin crypto onCurve (heap.read secret) pk ct sid (heap.read ecdh) publicKey payload []
      wipe [secret]
      wipe [ecdh]
      fullSas crypto
      let decision ← await env
      return decision.yes
  else do
    let handshake ← fullObject
    let heap ← look Frame.heap
    onlyIf (subtype ≠ pqV1ReadyCp3 ∨ payload ≠ (handshake.value heap).th.bytes) (fail (.v1 none))
    return true

/-- The full handshake of `_exchange` from the encapsulation on. -/
def fullBody (pk ct : Bytes) (secret : ℕ) : Run Unit := do
  let drawn ← ask env
  let sid : Block 16 := .ofBytes 16 drawn.bytes
  -- The public key of `generate_p256_private_key`, in v0.8.
  let publicKey := drawn.more
  let start ← orRaise .other (if profile = pqResumeV08 then
      encodeFull onCurve profile pqPhase7Start7Auth (sid.bytes ++ publicKey)
    else encodeFull onCurve profile pqV1StartCp3 sid.bytes)
  let _ ← await env
  onlyIf (profile = pqResumeV11) do
    let sec ← attest env onCurve
    let heap ← look Frame.heap
    fullBegin crypto onCurve (heap.read secret) pk ct sid.bytes [] [] [] sec
  sendControl env start
  let raw ← receive env
  let (subtype, payload) ← orRaise .other (parseFull onCurve profile raw)
  let confirmed ← confirm env crypto onCurve profile secret pk ct sid.bytes publicKey subtype payload
  let finishedC ← fullFinishC crypto onCurve confirmed
  sendControl env finishedC
  let raw ← receive env
  let clock ← ask env
  let issued ← fullFinishP crypto onCurve peer raw clock.time
  ticketClear
  setTicket (some issued)
  storeSave env
  openApplication crypto profile

/-- The full handshake of `_exchange`; its `finally` clears the two shared secrets from where they are made. -/
def fullExchange : Run Unit := do
  onlyIf (negative = some .initMac ∨ negative = some .acceptMac ∨ negative = some .replayInit ∨
    negative = some .replayFinish) (fail (.v1 none))
  makeFull profile
  let pk ← await env
  requireLink env
  let pk ← orResume (sized 1184 pk.bytes)
  -- `encapsulate`: the ciphertext and the shared secret.
  let encapsulated ← ask env
  onlyIf (encapsulated.yes = false) (fail .other)
  withBuffer encapsulated.more
    (fullBody env crypto onCurve profile peer pk.bytes encapsulated.bytes)

/-- The body of `_exchange`. -/
def exchangeBody (allowResume forceFull : Bool) : Run Unit := do
  let _ ← await env
  requireLink env
  onlyIf (profile = pqResumeV11) do
    let _ ← attest env onCurve
  onlyIf (allowResume = false) (storeDelete env)
  let loaded ← (if allowResume = true then storeLoad env profile peer else pure none)
  setTicket loaded
  lifecycle env profile peer negative
  let ticket ← look Frame.ticket
  onlyIf (ticket.isSome = true ∧ forceFull = false)
    (resumeExchange env crypto profile negative replayFinish)
  let app ← look Frame.app
  onlyIf (app.isNone = true) (fullExchange env crypto onCurve profile peer negative)
  applicationRounds env (if profile = pqResumeV08 then 3 else 2)

/-- The final clear of `_exchange`. -/
def finalClear : Run Unit := do
  appClear
  sessionClear
  ticketClear

/-- `_exchange`, until its final clear has run. -/
def exchangeCleared (allowResume forceFull : Bool) : Run Unit := do
  update fun w ↦ { w with session := none, app := none, ticket := none }
  ensuring (exchangeBody env crypto onCurve profile peer negative replayFinish allowResume forceFull) finalClear

/-- `_exchange`, which stops the notifications last. -/
def exchange (allowResume forceFull : Bool) : Run Unit :=
  ensuring (exchangeCleared env crypto onCurve profile peer negative replayFinish allowResume forceFull) do
    let _ ← await env

end Outside

end PqBleHandshake.Python.Buffers
