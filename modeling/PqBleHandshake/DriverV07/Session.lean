import PqBleHandshake.Foundation.Effect
import PqBleHandshake.Fragmentation
import PqBleHandshake.SecureReceiver

/-!
# The runner of v0.7

`run_phase7_authenticated_hybrid` of `central/phase7_auth.py` with all of its test modes.  Notifications only go to
the queue, so an await appends what arrived and may raise.  The P-256 library answers like the outside.  The trace
records what the runner sent, accepted and agreed on, and what it saw of a refusal; no branch reads it.
-/

namespace PqBleHandshake.Python.V07

open Foundation Effect

/-! ## Test modes, exceptions and the state -/

/-- `PHASE7_NEGATIVE_MODES` -/
inductive NegativeTest
  | sasReject | finishedC | preAuth | c2pTamper | c2pReplay | p2cTamper | p2cReplay
deriving DecidableEq

/-- What an outside call can raise: a timeout, a cancellation, or another exception. -/
inductive Fault
  | timeout | cancelled | other
deriving DecidableEq

/-- The exceptions of the runner. -/
inductive Exn
  | phase7Auth | negativePassed | timeout | cancelled | other
deriving DecidableEq

/-- The exception of a fault. -/
def Fault.exn : Fault → Exn
  | .timeout => .timeout
  | .cancelled => .cancelled
  | .other => .other

/-- One answer of the world outside. -/
structure Answer where
  /-- The notifications that the loop put into the queue meanwhile. -/
  arrivals : List Bytes := []
  fault : Option Fault := none
  /-- `client.is_connected` -/
  connected : Bool := true
  bytes : Bytes := []
  more : Bytes := []
  number : ℕ := 0
  yes : Bool := true
  also : Bool := true
deriving DecidableEq

/-- What `decrypt` raises. -/
inductive DecryptError
  | replay | invalidTag | value
deriving DecidableEq

/-- What the trace records. -/
inductive Event
  | read (pk : Bytes)
  | encapsulated (ct ss : Bytes)
  | transferred (fragments : List Bytes)
  /-- A control write. -/
  | sent (wire : Bytes)
  /-- A notification was accepted. -/
  | accepted (raw : Bytes)
  /-- The P-256 secret. -/
  | agreed (ss : Bytes)
  | confirmed (sas : ℕ)
  | declined (sas : ℕ)
  /-- A write of Secure Data. -/
  | wrote (wire : Bytes)
  /-- How such a write ended that must be denied. -/
  | outcome (answer : Answer)
  /-- What was heard where nothing must be, and whether the link was up after it. -/
  | listened (heard : Option Bytes)
  | linked (connected : Bool)
  /-- A frame that `decrypt` raised for. -/
  | unopened (wire : Bytes) (error : DecryptError)
deriving DecidableEq

/-- The buffers that the runner wipes at its end. -/
structure Buffers where
  ssMlkem : Bytes := []
  ssEcdh : Bytes := []
  applicationKey : Bytes := []
  finishedC : Bytes := []
  expectedFinishedP : Bytes := []
  c2pKey : Bytes := []
  p2cKey : Bytes := []
deriving DecidableEq

/-- `buffer[:] = b"\x00" * len(buffer)` -/
def zeroed (buffer : Bytes) : Bytes := List.replicate buffer.length 0

/-- The `finally` clause. -/
def Buffers.wipe (buffers : Buffers) : Buffers where
  ssMlkem := zeroed buffers.ssMlkem
  ssEcdh := zeroed buffers.ssEcdh
  applicationKey := zeroed buffers.applicationKey
  finishedC := zeroed buffers.finishedC
  expectedFinishedP := zeroed buffers.expectedFinishedP
  c2pKey := zeroed buffers.c2pKey
  p2cKey := zeroed buffers.p2cKey

/-- The variables of the run; the trace has its latest event first. -/
structure World where
  position : ℕ := 0
  notifications : List Bytes := []
  trace : List Event := []
  buffers : Buffers := {}
  c2p : Option SecureChannel := none
  p2c : Option SecureChannel := none
  negativeChecked : Bool := false
  notifyStarted : Bool := false

/-- A coroutine of the runner. -/
abbrev Run := Effect World Exn

/-- Record an event. -/
def emit (event : Event) : Run Unit := update fun w ↦ { w with trace := event :: w.trace }

/-- Change the buffers. -/
def setBuffers (f : Buffers → Buffers) : Run Unit := update fun w ↦ { w with buffers := f w.buffers }

/-- A `ValueError` on `none`. -/
def orRaise {α : Type} : Option α → Run α
  | some value => pure value
  | none => fail .other

/-- A `ValueError` that becomes a `Phase7AuthError`. -/
def orAuthError {α : Type} : Option α → Run α
  | some value => pure value
  | none => fail .phase7Auth

/-- `_tamper_last_bit` -/
def tamperLastBit (wire : Bytes) : Bytes := wire.dropLast ++ [wire.getLastD 0 ^^^ 1]

/-! ## Frames -/

section Frames

variable (onCurve : Bytes → Bool)

/-- `load_p256_public_key` accepts the encoding. -/
def loadsP256PublicKey (encoded : Bytes) : Bool :=
  encoded.length = 65 && encoded.getD 0 0 = 0x04 && onCurve encoded

/-- `encode_start7_auth` -/
def encodeStart7Auth (sid centralPublicKey : Bytes) : Option Bytes := do
  let sid ← requireSize 16 sid
  let centralPublicKey ← requireSize 65 centralPublicKey
  guard (loadsP256PublicKey onCurve centralPublicKey.bytes = true)
  encodePhase7Frame onCurve pqPhase7Start7Auth (sid.bytes ++ centralPublicKey.bytes)

/-- `parse_ready7_auth` -/
def parseReady7Auth (data : Bytes) : Option Bytes := do
  let (subtype, payload) ← parsePhase7Frame onCurve data
  guard (subtype = pqPhase7Ready7Auth)
  return payload

/-- `_check_error_frame` -/
def checkErrorFrame (raw : Bytes) : Run Unit :=
  onlyIf (raw.take 4 = phase7Magic) do
    let frame ← orAuthError (parsePhase7Frame onCurve raw)
    onlyIf (frame.1 = pqPhase7Error) (fail .phase7Auth)

/-- `_require_error_status` -/
def requireErrorStatus (raw : Bytes) (expected : UInt8) : Run Unit := do
  let frame ← orAuthError (parsePhase7Frame onCurve raw)
  onlyIf (frame.1 ≠ pqPhase7Error ∨ frame.2 ≠ [expected]) (fail .phase7Auth)
  emit (.accepted raw)

end Frames

section Outside

variable (env : ℕ → Answer)

/-- Look at the outside. -/
def ask : Run Answer := do
  let position ← look World.position
  update fun w ↦ { w with position := w.position + 1 }
  return env position

/-- What arrives during an await. -/
def wait : Run Answer := do
  let answer ← ask env
  update fun w ↦ { w with notifications := w.notifications ++ answer.arrivals }
  return answer

/-- One `await` of an outside call. -/
def await : Run Answer := do
  let answer ← wait env
  match answer.fault with
  | some fault => fail fault.exn
  | none => return answer

/-- The check of every operation on the link. -/
def requireConnected : Run Answer := do
  let answer ← ask env
  onlyIf (answer.connected = false) (fail .other)
  return answer

/-- `send_control` -/
def sendControl (wire : Bytes) : Run Unit := do
  let _ ← requireConnected env
  emit (.sent wire)
  let _ ← await env

/-- `write_secure_data` -/
def writeSecureData (wire : Bytes) : Run Unit := do
  let _ ← requireConnected env
  emit (.wrote wire)
  let _ ← await env

/-- The writes of the fragments. -/
def writeFragments : List Bytes → Run Unit
  | [] => pure ()
  | _ :: rest => do
    let _ ← await env
    writeFragments rest

/-- `write_fragmented_ciphertext` -/
def sendCiphertext (ct : Bytes) : Run Unit := do
  let answer ← requireConnected env
  let fragments ← orRaise (writeFragmentedCiphertext ct answer.number)
  writeFragments env fragments
  emit (.transferred fragments)

/-- `notifications.get()` under `wait_for` -/
def getNotification : Run Bytes := do
  let _ ← await env
  match ← look World.notifications with
  | [] => fail .timeout
  | raw :: later => do
    update fun w ↦ { w with notifications := later }
    return raw

/-- `_receive` -/
def receive : Run Bytes :=
  onError (getNotification env) fun e ↦ fail (if e = .timeout then .phase7Auth else e)

/-- `_require_quiet` -/
def requireQuiet : Run Unit := do
  let heard ← onError (do
      let raw ← getNotification env
      return some raw)
    fun e ↦ if e = .timeout then return none else fail e
  emit (.listened heard)
  onlyIf (heard ≠ none) (fail .phase7Auth)
  let link ← ask env
  emit (.linked link.connected)
  onlyIf (link.connected = false) (fail .phase7Auth)

/-- `_require_preauth_rejection`; the answer says whether the exception is a `BleakError` or an `OSError`, and
whether it is a recognized denial. -/
def requirePreauthRejection (wire : Bytes) : Run Unit := do
  let _ ← requireConnected env
  emit (.wrote wire)
  let answer ← wait env
  emit (.outcome answer)
  match answer.fault with
  | none => fail .phase7Auth
  | some .cancelled => fail .cancelled
  | some fault => do
    onlyIf (answer.also = false) (fail .other)
    onlyIf (answer.connected = false ∨ fault = .timeout ∨ answer.yes = false) (fail .phase7Auth)
    requireQuiet env

variable (crypto : Crypto) (onCurve : Bytes → Bool)

/-! ## The handshake -/

/-- From the public key to the encapsulation: the public key, the P-256 key of the Central and the ciphertext. -/
def establishSecret : Run (Bytes × Bytes × Bytes) := do
  let _ ← requireConnected env
  let answer ← await env
  let pk := answer.bytes
  onlyIf (pk.length ≠ 1184) (fail .phase7Auth)
  emit (.read pk)
  let generated ← ask env
  let centralPublicKey := 0x04 :: (Block.ofBytes 64 generated.bytes).bytes
  let encapsulated ← ask env
  onlyIf (encapsulated.fault ≠ none) (fail .other)
  let ct := encapsulated.bytes
  setBuffers fun buffers ↦ { buffers with ssMlkem := encapsulated.more }
  onlyIf (ct.length ≠ 1088) (fail .phase7Auth)
  onlyIf (encapsulated.more.length ≠ 32) (fail .phase7Auth)
  emit (.encapsulated ct encapsulated.more)
  return (pk, centralPublicKey, ct)

/-- From START7_AUTH to READY7_AUTH: the session identifier and the P-256 key of the Peripheral. -/
def start (centralPublicKey ct : Bytes) : Run (Bytes × Bytes) := do
  let drawn ← ask env
  let sid := (Block.ofBytes 16 drawn.bytes).bytes
  let start7 ← orRaise (encodeStart7Auth onCurve sid centralPublicKey)
  sendCiphertext env ct
  sendControl env start7
  let raw ← receive env
  checkErrorFrame onCurve raw
  let peripheralPublicKey ← orAuthError (parseReady7Auth onCurve raw)
  emit (.accepted raw)
  return (sid, peripheralPublicKey)

/-- The P-256 agreement and the key schedule: the SAS. -/
def deriveSecrets (sid pk ct centralPublicKey peripheralPublicKey : Bytes) : Run ℕ := do
  let agreed ← ask env
  onlyIf (agreed.fault ≠ none) (fail .other)
  let ssEcdh ← orRaise (requireSize 32 agreed.bytes)
  setBuffers fun buffers ↦ { buffers with ssEcdh := ssEcdh.bytes }
  emit (.agreed ssEcdh.bytes)
  let hash ← orRaise (computePhase7TranscriptHash crypto sid pk ct centralPublicKey peripheralPublicKey)
  let buffers ← look World.buffers
  let keys ← orRaise (derivePhase7Keys crypto buffers.ssMlkem buffers.ssEcdh hash.bytes)
  setBuffers fun buffers ↦ { buffers with ssMlkem := zeroed buffers.ssMlkem, ssEcdh := zeroed buffers.ssEcdh }
  setBuffers fun buffers ↦ { buffers with applicationKey := keys.application.bytes }
  let finishedC ← orRaise (computePhase7FinishedC crypto keys.finishedC.bytes hash.bytes)
  setBuffers fun buffers ↦ { buffers with finishedC := finishedC.bytes }
  let expected ← orRaise (computePhase7FinishedP crypto keys.finishedP.bytes hash.bytes)
  setBuffers fun buffers ↦ { buffers with expectedFinishedP := expected.bytes }
  orRaise (computePhase7Sas crypto keys.sas.bytes hash.bytes)

variable (aead : Aead) (negativeTest : Option NegativeTest)

/-- `_preauth_probe` -/
def preauthProbe (sid : Bytes) : Run Bytes := do
  let buffers ← look World.buffers
  let keys ← orRaise (derivePhase7TrafficKeys crypto buffers.applicationKey)
  let channel ← orRaise (SecureChannel.create keys.centralToPeripheral.bytes (some sid) (some [pqSecureCentralRole]))
  let drawn ← ask env
  orRaise (channel.encrypt aead (.ofBytes 12 drawn.bytes) (ascii "PING 0") [pqSecureMsgTypeData]).1

/-- The probe of the test modes that need one. -/
def prepareProbe (sid : Bytes) : Run Bytes :=
  if negativeTest = some .sasReject ∨ negativeTest = some .finishedC ∨ negativeTest = some .preAuth then
    preauthProbe env crypto aead sid
  else pure []

/-- The early write of the mode `pre-auth`. -/
def probeEarly (probe : Bytes) : Run Unit :=
  onlyIf (negativeTest = some .preAuth) do
    requirePreauthRejection env probe
    update fun w ↦ { w with negativeChecked := true }

/-- `_confirm_sas`; the mode `sas-reject` without a callback declines. -/
def confirmSas (callback : Bool) : Run Bool :=
  if negativeTest = some .sasReject ∧ callback = false then pure false
  else do
    let answer ← await env
    return answer.yes

/-- The decision on the SAS; no other way leads to FINISHED_C. -/
def confirm (callback : Bool) (probe : Bytes) (sas : ℕ) : Run Unit := do
  let confirmed ← confirmSas env negativeTest callback
  if confirmed = false then do
    emit (.declined sas)
    onlyIf (negativeTest = some .sasReject) do
      requirePreauthRejection env probe
      fail .negativePassed
    fail .phase7Auth
  else do
    emit (.confirmed sas)
    onlyIf (negativeTest = some .sasReject) (fail .phase7Auth)

/-- FINISHED_C goes out. -/
def sendFinishedC : Run Unit := do
  onlyIf (negativeTest = some .finishedC)
    (setBuffers fun buffers ↦ { buffers with finishedC := tamperLastBit buffers.finishedC })
  let buffers ← look World.buffers
  let frame ← orRaise (encodePhase7FinishedC onCurve buffers.finishedC)
  sendControl env frame
  setBuffers fun buffers ↦ { buffers with finishedC := zeroed buffers.finishedC }

/-- FINISHED_P is verified, or the rejection of the mode `finished-c`. -/
def acceptFinishedP (probe : Bytes) : Run Unit := do
  let raw ← receive env
  onlyIf (negativeTest = some .finishedC) do
    requireErrorStatus onCurve raw 0x06
    requirePreauthRejection env probe
    fail .negativePassed
  checkErrorFrame onCurve raw
  let received ← orAuthError (parsePhase7FinishedP onCurve raw)
  let buffers ← look World.buffers
  onlyIf (received ≠ buffers.expectedFinishedP) (fail .phase7Auth)
  emit (.accepted raw)
  setBuffers fun buffers ↦ { buffers with expectedFinishedP := zeroed buffers.expectedFinishedP }

/-! ## The application -/

/-- The traffic keys and the two channels. -/
def openChannels (sid : Bytes) : Run Unit := do
  let buffers ← look World.buffers
  let keys ← orRaise (derivePhase7TrafficKeys crypto buffers.applicationKey)
  setBuffers fun buffers ↦ { buffers with
    c2pKey := keys.centralToPeripheral.bytes, p2cKey := keys.peripheralToCentral.bytes
    applicationKey := zeroed buffers.applicationKey }
  let buffers ← look World.buffers
  let c2p ← orRaise (SecureChannel.create buffers.c2pKey (some sid) (some [pqSecureCentralRole]))
  update fun w ↦ { w with c2p := some c2p }
  let p2c ← orRaise (SecureChannel.create buffers.p2cKey (some sid) (some [pqSecureCentralRole]))
  update fun w ↦ { w with p2c := some p2c }

/-- The first check of `decrypt` that fails. -/
def decryptError (channel : SecureChannel) (wire msgType : Bytes) : DecryptError :=
  if wire.length < 8 + 1 + 12 + 16 ∨ (wire.drop 8).take 1 ≠ msgType then .value
  else if (ofBigEndian (wire.take 8) : ℤ) ≤ channel.lastRecvSeq then .replay
  else .invalidTag

/-- `p2c_channel.decrypt` -/
def decryptPong (wire : Bytes) : Run (Except DecryptError Bytes) := do
  match ← look World.p2c with
  | none => fail .other
  | some channel =>
    match channel.decrypt aead wire [pqSecureMsgTypeData] with
    | (some plaintext, channel) => do
      update fun w ↦ { w with p2c := some channel }
      return .ok plaintext
    | (none, _) => do
      let error := decryptError channel wire [pqSecureMsgTypeData]
      emit (.unopened wire error)
      return .error error

/-- `p2c_channel.recv_count` -/
def recvCount : Run ℕ := look fun w ↦ w.p2c.elim 0 SecureChannel.recvCount

/-- The next PING of the channel. -/
def sealPing (index : ℕ) : Run Bytes := do
  let drawn ← ask env
  match ← look World.c2p with
  | none => fail .other
  | some channel =>
    match channel.encrypt aead (.ofBytes 12 drawn.bytes) (ascii s!"PING {index}") [pqSecureMsgTypeData] with
    | (some wire, channel) => do
      update fun w ↦ { w with c2p := some channel }
      return wire
    | (none, _) => fail .other

/-- The check of a test mode in the first round. -/
def inFirstRound (test : NegativeTest) (index : ℕ) (check : Run Unit) : Run Unit :=
  onlyIf (index = 0 ∧ negativeTest = some test) do
    check
    update fun w ↦ { w with negativeChecked := true }

/-- The Peripheral must refuse a write with the status, and send nothing else. -/
def requireRefusal (wire : Bytes) (status : UInt8) : Run Unit := do
  writeSecureData env wire
  let raw ← receive env
  requireErrorStatus onCurve raw status
  requireQuiet env

/-- The tampered copy of a PONG must fail with `InvalidTag`. -/
def requireTagFailure (raw : Bytes) : Run Unit := do
  let before ← recvCount
  match ← decryptPong aead (tamperLastBit raw) with
  | .ok _ => fail .phase7Auth
  | .error .invalidTag => do
    let after ← recvCount
    onlyIf (after ≠ before) (fail .phase7Auth)
  | .error _ => fail .other

/-- The second copy of a PONG must fail as a replay. -/
def requireReplayFailure (raw : Bytes) : Run Unit := do
  let before ← recvCount
  match ← decryptPong aead raw with
  | .ok _ => fail .phase7Auth
  | .error .replay => do
    let after ← recvCount
    onlyIf (after ≠ before) (fail .phase7Auth)
  | .error _ => fail .phase7Auth

/-- The PING of a round; the mode `pre-auth` sends its probe again. -/
def sendPing (probe : Bytes) (index : ℕ) : Run Bytes := do
  let fresh ← sealPing env aead index
  let wire := if index = 0 ∧ negativeTest = some .preAuth then probe else fresh
  onlyIf (ofBigEndian (wire.take 8) ≠ index) (fail .phase7Auth)
  onlyIf (wire.length ≠ 43) (fail .phase7Auth)
  inFirstRound negativeTest .c2pTamper index (requireRefusal env onCurve (tamperLastBit wire) 0x06)
  writeSecureData env wire
  return wire

/-- The PONG of a round. -/
def acceptPong (index : ℕ) : Run Bytes := do
  let raw ← receive env
  checkErrorFrame onCurve raw
  onlyIf (raw.length ≠ 43) (fail .phase7Auth)
  onlyIf (ofBigEndian (raw.take 8) ≠ index) (fail .phase7Auth)
  inFirstRound negativeTest .p2cTamper index (requireTagFailure aead raw)
  match ← decryptPong aead raw with
  | .error _ => fail .phase7Auth
  | .ok plaintext => do
    onlyIf (plaintext ≠ ascii s!"PONG {index}") (fail .phase7Auth)
    emit (.accepted raw)
    return raw

/-- One round. -/
def round (probe : Bytes) (index : ℕ) : Run Unit := do
  let wire ← sendPing env onCurve aead negativeTest probe index
  let raw ← acceptPong env onCurve aead negativeTest index
  inFirstRound negativeTest .c2pReplay index (requireRefusal env onCurve wire 0x04)
  inFirstRound negativeTest .p2cReplay index (requireReplayFailure aead raw)

/-- The rounds of the loop from an index on. -/
def roundLoop (probe : Bytes) (index : ℕ) : ℕ → Run Unit
  | 0 => pure ()
  | n + 1 => do
    round env onCurve aead negativeTest probe index
    roundLoop probe (index + 1) n

/-- A test mode never ends in a result. -/
def finishTest : Run Unit :=
  onlyIf (negativeTest ≠ none) do
    let checked ← look World.negativeChecked
    onlyIf (checked = false) (fail .phase7Auth)
    requireQuiet env
    fail .negativePassed

/-- `Phase7AuthResult` -/
structure Result where
  sas : ℕ
  rounds : ℕ
deriving DecidableEq

/-- `start_notify` -/
def startNotify : Run Unit := do
  let _ ← requireConnected env
  let _ ← await env
  update fun w ↦ { w with notifyStarted := true }

/-- The handshake up to the SAS: the session identifier and the SAS. -/
def negotiate : Run (Bytes × ℕ) := do
  let (pk, centralPublicKey, ct) ← establishSecret env
  let (sid, peripheralPublicKey) ← start env onCurve centralPublicKey ct
  let sas ← deriveSecrets env crypto sid pk ct centralPublicKey peripheralPublicKey
  return (sid, sas)

/-- From the SAS to the verified FINISHED_P: the probe. -/
def authenticate (callback : Bool) (sid : Bytes) (sas : ℕ) : Run Bytes := do
  let probe ← prepareProbe env crypto aead negativeTest sid
  probeEarly env negativeTest probe
  confirm env negativeTest callback probe sas
  sendFinishedC env onCurve negativeTest
  acceptFinishedP env onCurve negativeTest probe
  return probe

/-- The body of the `try` clause. -/
def runBody (callback : Bool) : Run Result := do
  startNotify env
  let (sid, sas) ← negotiate env crypto onCurve
  let probe ← authenticate env crypto onCurve aead negativeTest callback sid sas
  openChannels crypto sid
  roundLoop env onCurve aead negativeTest probe 0 3
  finishTest env negativeTest
  return { sas, rounds := 3 }

/-- The end of the notifications; a test mode does not ignore its failure. -/
def stopNotify : Run Unit := do
  let started ← look World.notifyStarted
  onlyIf (started = true) do
    let answer ← wait env
    onlyIf (answer.fault = some .cancelled) (fail .cancelled)
    onlyIf (answer.fault ≠ none ∧ negativeTest ≠ none) (fail .phase7Auth)

/-- `run_phase7_authenticated_hybrid` -/
def runPhase7AuthenticatedHybrid (callback : Bool) : Run Result := do
  let link ← ask env
  onlyIf (link.connected = false) (fail .phase7Auth)
  ensuring (runBody env crypto onCurve aead negativeTest callback) do
    update fun w ↦ { w with buffers := w.buffers.wipe, c2p := none, p2c := none }
    stopNotify env negativeTest

end Outside

end PqBleHandshake.Python.V07
