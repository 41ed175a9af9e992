import PqBleHandshake.Legacy.Main

/-!
# The crypto worker of v0.7 and v0.8 and its result callback

`crypto_worker` of `mlkem_session.c` with `mlkem_result_ready` of `main.c`, which runs on the same thread.
One step of the worker is one section under a lock or one stretch of code between two locks.  The
input buffers of a running job do not change, so a computation on them is part of the section that
stores its result.

`step` is one step of the firmware: the first section of a callback of the Bluetooth host, a later task of
it, the expiry timer of the service, or a step of the worker, in any order.
-/

namespace PqBleHandshake.Legacy

open Foundation

/-- The size of `secure_wire`. -/
def secureWireSize : ℕ := 105

/-- A fresh P-256 key pair: its encoded public key, and the secret that it shares with an encoded point, if that
is on the curve. -/
structure P256KeyPair where
  publicKey : Bytes
  agree : Bytes → Option (Block 32)

/-- The results of the libraries and the queries of one worker step: the failures of the decapsulation, of the
destruction of the P-256 key and of the frame ciphers, the key pair, the nonce, and what a delivery observes;
`resent` is the answer to a second notification and `peer` the view of the ticket's issue. -/
structure WorkerView where
  faults : Faults := {}
  decapsFault : Bool := false
  keyPair : Option P256KeyPair
  destroyFault : Bool := false
  decryptFault : Bool := false
  encryptFault : Bool := false
  iv : Option (Block 12)
  subscribed : Bool := true
  mtu : ℕ
  sent : Bool
  resent : Bool := true
  peer : Resumption.PeerView
  now : ℤ

namespace State

/-! ## Taking a job -/

/-- Whether the worker runs the pending job, by its mode. -/
def jobValid (store : Store) : Prop :=
  match store.pendingJobMode with
  | .phase7AuthStart => SameU32 store.pendingPhase7Epoch store.phase7Epoch
  | .phase7AuthFinishedC =>
    SameU32 store.pendingPhase7Epoch store.phase7Epoch ∧ store.phase7WaitFinished = true
  | .phase7AppC2p =>
    SameU32 store.pendingPhase7Epoch store.phase7Epoch ∧ store.phase7Authenticated = true ∧
      pqSecureFixedOverhead ≤ store.phase7RxWireJob.length ∧
      store.phase7RxWireJob.length ≤ pqSecureMaxWireSize
  | .phase7HybridCp2 => SameU32 store.pendingPhase5Epoch store.phase5Epoch
  | .phase5FinishedC =>
    SameU32 store.pendingPhase5Epoch store.phase5Epoch ∧ store.phase5WaitFinished = true
  | .phase5Data =>
    SameU32 store.pendingPhase5Epoch store.phase5Epoch ∧ store.phase5ApplicationReady = true
  | .phase6C2p =>
    SameU32 store.pendingPhase5Epoch store.phase5Epoch ∧
      (pqSecureFixedOverhead ≤ store.phase6RxWireJob.length ∧
        store.phase6RxWireJob.length ≤ pqSecureMaxWireSize) ∧
      (store.phase6Active = true ∨ store.phase5ApplicationReady = true)
  | _ => True

instance (store : Store) : Decidable (jobValid store) := by
  unfold jobValid
  cases store.pendingJobMode <;> infer_instance

/-- The epoch that the pending job was submitted under. -/
def pendingEpoch (store : Store) : ℕ :=
  if store.pendingJobMode.isPhase7 then store.pendingPhase7Epoch else store.pendingPhase5Epoch

/-- The snapshot of an application job. -/
def appSnapshot (store : Store) : AppSnapshot where
  keys := store.phase7TrafficKeys
  sid := store.phase7SessionId
  last := if store.phase7HasLastRecvSeq then some store.phase7LastRecvSeq else none
  sendSeq := store.phase7NextSendSeq
  wire := store.phase7RxWireJob

/-- The snapshot of an application job of Phase 6. -/
def phase6Snapshot (store : Store) : Phase6Snapshot :=
  let material := store.phase6Material
  if store.phase6Active then
    { active := true
      keys := ⟨material.centralToPeripheral, material.peripheralToCentral⟩
      application := .zero 32
      sid := material.sessionId
      last := if material.hasLastRecvSeq then some material.lastRecvSeq else none
      sendSeq := material.nextSendSeq
      wire := store.phase6RxWireJob }
  else
    { active := false
      keys := zeroTrafficKeys
      application := store.phase5Material.application
      sid := store.phase5Material.sessionId
      last := none
      sendSeq := 0
      wire := store.phase6RxWireJob }

/-- The snapshot of a FINISHED_C job of Phase 5. -/
def phase5Keys (store : Store) : Phase7Keys :=
  { zeroKeys with
    finishedC := store.phase5Material.finishedC, finishedP := store.phase5Material.finishedP }

/-- Where a valid job goes on. -/
def jobStart (store : Store) : Worker :=
  let epoch := pendingEpoch store
  match store.pendingJobMode with
  | .phase7AuthFinishedC =>
    .finished7 epoch store.phase7Keys store.phase7TranscriptHash store.phase7FinishedCJob
  | .phase7AppC2p => .app7 epoch (appSnapshot store)
  | .phase5FinishedC =>
    .finished5 epoch (phase5Keys store) store.phase5Material.transcriptHash store.finishedCJob
  | .phase5Data => .data5 epoch store.phase5Material.application store.phase5Material.sessionId
  | .phase6C2p => .app6 epoch (phase6Snapshot store)
  | mode => .decapsulate mode epoch

/-- The section in which the worker takes the pending job; a DATA job consumes the Phase 5 material. -/
def takeJob (state : State) : Option State :=
  let store := state.store
  if store.jobPending = false then none
  else if store.keypairReady = false then some { state with store := { store with jobPending := false } }
  else
    let taken := { store with jobPending := false, jobActive := true }
    let valid := decide (jobValid store)
    some { state with
      store := if valid ∧ store.pendingJobMode = .phase5Data then taken.clearPhase5 else taken
      worker := if valid then jobStart store
        else .jobDone store.pendingJobMode (pendingEpoch store) .invalidProtocolState []
      crc := 0
      workerGeneration := state.jobGeneration
      workerEpoch := pendingEpoch store }

/-! ## Running a job -/

/-- A job ends with a status and a frame. -/
def finish (state : State) (mode : JobMode) (epoch : ℕ) (status : JobStatus) (wire : Bytes) : State :=
  { state with worker := .jobDone mode epoch status wire }

/-- The status of a failed job, without a frame. -/
def failJob (state : State) (mode : JobMode) (epoch : ℕ) (status : JobStatus) : State :=
  state.finish mode epoch status []

/-- `pqble_mlkem_dec` with the secret key of this boot. -/
def decapsulate (platform : Platform) (view : WorkerView) (ct : Bytes) : Option (Block 32) :=
  if view.decapsFault then none else platform.decaps ct

/-- `phase7_auth_start_result` up to its commit. -/
def authStart (platform : Platform) (store : Store) (ss : Block 32) (view : WorkerView) :
    Option Phase7Start := do
  let pair ← view.keyPair
  let ssEcdh ← pair.agree store.phase7CentralPublicKeyJob
  phase7AuthStartResult platform.crypto view.faults platform.version ss ssEcdh store.sessionIdJob
    platform.publicKey store.ciphertextJob store.phase7CentralPublicKeyJob pair.publicKey secureWireSize

/-- `phase7_cp2_result` -/
def cp2Result (platform : Platform) (store : Store) (ss : Block 32) (view : WorkerView) : Option Bytes := do
  let pair ← view.keyPair
  let ssEcdh ← pair.agree store.phase7CentralPublicKeyJob
  let ready ← phase7Cp2Result platform.crypto view.faults platform.version ss ssEcdh store.sessionIdJob
    platform.publicKey store.ciphertextJob store.phase7CentralPublicKeyJob pair.publicKey secureWireSize
  guard (view.destroyFault = false)
  return ready

/-- The secure-channel test of Phase 3. -/
def testMessage (platform : Platform) (store : Store) (ss : Block 32) (view : WorkerView) : Option Bytes :=
  (pqSecureEncryptTestMessage platform.crypto platform.aead view.faults view.encryptFault view.iv ss
    store.sessionIdJob secureWireSize).toOption

/-- The transcript, the keys and the SAS of START5, and its answer. -/
def start5 (platform : Platform) (store : Store) (ss : Block 32) (view : WorkerView) : Option Phase5Start :=
  phase5StartResult platform.crypto view.faults ss store.sessionIdJob (.ofBytes 1184 platform.publicKey)
    (.ofBytes 1088 store.ciphertextJob) secureWireSize

/-- The bit loop of `crc32_ieee`. -/
def crc32Bit (crc : UInt32) : UInt32 := if crc &&& 1 = 1 then (crc >>> 1) ^^^ 0xEDB88320 else crc >>> 1

/-- `crc32_ieee` -/
def crc32Ieee (data : Bytes) : UInt32 :=
  ~~~data.foldl (fun crc byte ↦ crc32Bit^[8] (crc ^^^ byte.toUInt32)) (~~~0)

/-- The vector of `validate_diagnostic_crc`. -/
example : crc32Ieee (Block.zero 32).bytes = 0x190a55ad := by decide +kernel

/-- The jobs that decapsulate. -/
def runDecapsulate (platform : Platform) (state : State) (mode : JobMode) (epoch : ℕ)
    (view : WorkerView) : State :=
  let store := state.store
  match decapsulate platform view store.ciphertextJob with
  | none => state.failJob mode epoch .decapsulationFailure
  | some ss =>
    match mode with
    | .phase7AuthStart =>
      -- a failure after the keys are retained, in the destruction of the key pair, clears them again
      match if view.destroyFault then none else authStart platform store ss view with
      | none =>
        { state with store := store.discardStart epoch }.failJob mode epoch .secureChannelFailure
      | some start =>
        if SameU32 epoch store.phase7Epoch then
          { state with store := store.storeStart start store.sessionIdJob }.finish mode epoch .success
            start.ready
        else state.failJob mode epoch .secureChannelFailure
    | .phase7HybridCp2 =>
      match cp2Result platform store ss view with
      | none => state.failJob mode epoch .secureChannelFailure
      | some ready => state.finish mode epoch .success ready
    | .phase2Diagnostic => { state with crc := crc32Ieee ss.bytes }.finish mode epoch .success []
    | .phase3Secure =>
      match testMessage platform store ss view with
      | none => state.failJob mode epoch .secureChannelFailure
      | some wire => state.finish mode epoch .success wire
    | .phase5Start =>
      match start5 platform store ss view with
      | none => state.failJob mode epoch .secureChannelFailure
      | some start =>
        if SameU32 epoch store.phase5Epoch then
          { state with
            store := store.storePhase5 ⟨start.keys.application, start.keys.finishedC, start.keys.finishedP,
              start.hash, store.sessionIdJob⟩ }.finish mode epoch .success start.ready
        else state.failJob mode epoch .invalidProtocolState
    | _ => state.failJob mode epoch .invalidProtocolState

/-- The FINISHED_C job of Phase 7. -/
def runFinished7 (platform : Platform) (state : State) (epoch : ℕ) (keys : Phase7Keys)
    (hash received : Block 32) (view : WorkerView) : State :=
  let store := state.store
  let expected := pqPhase7ComputeFinishedC platform.crypto view.faults platform.version keys.finishedC hash
  if expected ≠ some received then state.failJob .phase7AuthFinishedC epoch .authenticationFailure
  else
    match phase7FinishedResult platform.crypto view.faults platform.version keys hash received
        secureWireSize with
    | none => state.failJob .phase7AuthFinishedC epoch .secureChannelFailure
    | some (wire, traffic) =>
      if SameU32 epoch store.phase7Epoch ∧ store.phase7WaitFinished then
        { state with store := store.storeTraffic traffic }.finish .phase7AuthFinishedC epoch .success wire
      else state.failJob .phase7AuthFinishedC epoch .invalidProtocolState

/-- The test responder of Phase 7: `PING d` with the digit of its sequence. -/
def testReply (accepted : UInt64) (plaintext : Bytes) : Option Bytes :=
  let digit := UInt8.ofNat (48 + accepted.toNat)
  if accepted ≤ 9 ∧ plaintext = ascii "PING " ++ [digit] then some (ascii "PONG " ++ [digit]) else none

/-- The test responder of Phase 6, which looks at the sequence number only. -/
def phase6Reply (accepted : UInt64) (_plaintext : Bytes) : Option Bytes :=
  if accepted ≤ 9 then some (ascii "PONG " ++ [UInt8.ofNat (48 + accepted.toNat)]) else none

/-- The decryption of an application frame. -/
def appDecrypt (platform : Platform) (view : WorkerView) (key : Block 32) (sid : Block 16)
    (last : Option UInt64) (wire : Bytes) : Except JobStatus (UInt64 × Bytes) :=
  (pqSecureDecryptWithKey platform.aead view.decryptFault key sid pqSecureCentralRole pqSecureMsgTypeData last
    wire 64).mapError fun
    | .ebadmsg => .authenticationFailure
    | .ealready => .invalidProtocolState
    | _ => .secureChannelFailure

/-- The encryption of its answer. -/
def appEncrypt (platform : Platform) (view : WorkerView) (key : Block 32) (sid : Block 16) (seq : UInt64)
    (plaintext : Bytes) : Option Bytes :=
  (pqSecureEncryptWithKey platform.aead view.encryptFault view.iv key sid pqSecurePeripheralRole seq
    pqSecureMsgTypeData plaintext secureWireSize).toOption

/-- The decryption of a frame, the check of its payload and the encryption of the answer. -/
def answerFrame (platform : Platform) (view : WorkerView) (reply : UInt64 → Bytes → Option Bytes)
    (keys : Phase7TrafficKeys) (sid : Block 16) (last : Option UInt64) (sendSeq : UInt64) (wire : Bytes) :
    Except JobStatus (UInt64 × Bytes) := do
  let (accepted, plaintext) ← appDecrypt platform view keys.centralToPeripheral sid last wire
  let payload ← orFail .invalidProtocolState (reply accepted plaintext)
  let answer ← orFail .secureChannelFailure
    (appEncrypt platform view keys.peripheralToCentral sid sendSeq payload)
  return (accepted, answer)

/-- The application job of Phase 7. -/
def runApp7 (platform : Platform) (state : State) (epoch : ℕ) (snapshot : AppSnapshot) (view : WorkerView) :
    State :=
  let store := state.store
  match answerFrame platform view testReply snapshot.keys snapshot.sid snapshot.last snapshot.sendSeq
      snapshot.wire with
  | .error status => state.failJob .phase7AppC2p epoch status
  | .ok (accepted, answer) =>
    if SameU32 epoch store.phase7Epoch ∧ store.phase7Authenticated then
      let state := { state with store := store.storeCounters accepted snapshot.sendSeq }
      if snapshot.sendSeq = uint64Max then state.failJob .phase7AppC2p epoch .invalidProtocolState
      else state.finish .phase7AppC2p epoch .success answer
    else state.failJob .phase7AppC2p epoch .invalidProtocolState

/-- The FINISHED_C job of Phase 5. -/
def runFinished5 (platform : Platform) (state : State) (epoch : ℕ) (keys : Phase7Keys) (hash received : Block 32)
    (view : WorkerView) : State :=
  let store := state.store
  if SameU32 epoch store.phase5Epoch ∧ store.phase5WaitFinished then
    match phase5FinishedResult platform.crypto view.faults keys hash received secureWireSize with
    | some wire =>
      { state with store := store.finishPhase5 }.finish .phase5FinishedC epoch .success wire
    | none =>
      { state with
        store := { store.clearPhase5 with phase5Epoch := store.phase5Epoch + 1 } }.failJob
          .phase5FinishedC epoch .authenticationFailure
  else state.failJob .phase5FinishedC epoch .invalidProtocolState

/-- The DATA job of Phase 5. -/
def runData5 (platform : Platform) (state : State) (epoch : ℕ) (key : Block 32) (sid : Block 16)
    (view : WorkerView) : State :=
  match (pqSecureEncryptTestMessageWithKey platform.aead view.encryptFault view.iv key sid
      secureWireSize).toOption with
  | some wire => state.finish .phase5Data epoch .success wire
  | none => state.failJob .phase5Data epoch .secureChannelFailure

/-- The traffic keys of an application job of Phase 6; those of the first frame are derived from the root. -/
def phase6Keys (platform : Platform) (view : WorkerView) (snapshot : Phase6Snapshot) :
    Option Phase7TrafficKeys :=
  if snapshot.active then some snapshot.keys
  else pqPhase6DeriveTrafficKeys platform.crypto view.faults snapshot.application

/-- The application job of Phase 6 up to its commit: the keys it used, the number it accepted, and the
answer. -/
def phase6Answer (platform : Platform) (view : WorkerView) (snapshot : Phase6Snapshot) :
    Except JobStatus (Phase7TrafficKeys × UInt64 × Bytes) := do
  let keys ← orFail .secureChannelFailure (phase6Keys platform view snapshot)
  let (accepted, answer) ← answerFrame platform view phase6Reply keys snapshot.sid snapshot.last
    snapshot.sendSeq snapshot.wire
  return (keys, accepted, answer)

/-- The application job of Phase 6: the first frame activates its traffic keys. -/
def runApp6 (platform : Platform) (state : State) (epoch : ℕ) (snapshot : Phase6Snapshot) (view : WorkerView) :
    State :=
  let store := state.store
  match phase6Answer platform view snapshot with
  | .error status => state.failJob .phase6C2p epoch status
  | .ok (keys, accepted, answer) =>
    if SameU32 epoch store.phase5Epoch ∧ (store.phase6Active ∨ store.phase5ApplicationReady) then
      let state := { state with store := store.storePhase6 keys snapshot.sid accepted snapshot.sendSeq }
      if snapshot.sendSeq = uint64Max then state.failJob .phase6C2p epoch .invalidProtocolState
      else state.finish .phase6C2p epoch .success answer
    else state.failJob .phase6C2p epoch .invalidProtocolState

/-- `job_done` up to the result callback: a CP2 or Phase 7 result of an older epoch is cancelled. -/
def finishJob (state : State) (mode : JobMode) (epoch : ℕ) (status : JobStatus) (wire : Bytes) :
    State :=
  let stale := (mode = .phase7HybridCp2 ∧ ¬SameU32 epoch state.store.phase5Epoch) ∨
    (mode.isPhase7 ∧ ¬SameU32 epoch state.store.phase7Epoch)
  { state with
    store := state.store.finishJob
    worker := if stale then .callback mode .invalidProtocolState [] else .callback mode status wire }

/-! ## The result callback -/

/-- A parsed frame has the subtype and the payload length that a result promises. -/
def isFrame (subtype : UInt8) (length : ℕ) : Except Errno (UInt8 × Bytes) → Bool
  | .ok (found, payload) => found = subtype && payload.length = length
  | .error _ => false

/-- Whether the frame of a successful job is the one its mode promises. -/
def resultValid (version : UInt8) (mode : JobMode) (status : JobStatus) (wire : Bytes) : Bool :=
  status = .success && wire ≠ [] &&
    match mode with
    | .phase5Start => isFrame pqPhase5ReadyForSas 0 (pqPhase5ParseFrame wire)
    | .phase5FinishedC => isFrame pqPhase5FinishedP 32 (pqPhase5ParseFrame wire)
    | .phase5Data => wire.length = pqSecureTestWireSize
    | .phase6C2p | .phase7AppC2p =>
      pqSecureFixedOverhead ≤ wire.length && wire.length ≤ pqSecureMaxWireSize
    | .phase7AuthStart => isFrame pqPhase7Ready7Auth 65 (pqPhase7ParseFrame version wire)
    | .phase7AuthFinishedC => isFrame pqPhase7FinishedP 32 (pqPhase7ParseFrame version wire)
    | _ => false

/-- The job's connection is the current one, with notifications enabled. -/
def jobCurrent (main : Main) : Bool :=
  main.cryptoJobConn.isSome && main.cryptoJobConn = main.currentConn &&
    SameU32 main.cryptoJobGeneration main.connectionGeneration && main.notifyEnabled

/-- `phase5_state` after the first section of `mlkem_result_ready`. -/
def nextPhase5 (mode : JobMode) (current valid : Bool) (before : Phase5State) : Phase5State :=
  match mode with
  | .phase6C2p => if current then .authenticated else .idle
  | .phase5Start => if current ∧ valid then .waitFinishedC else .idle
  | .phase5FinishedC => if current ∧ valid then .authenticated else .idle
  | .phase5Data => .idle
  | _ => before

/-- `phase7_state` after the first section of `mlkem_result_ready`. -/
def nextPhase7 (mode : JobMode) (current : Bool) (before : Phase7State) : Phase7State :=
  if mode = .phase7AppC2p then if current then .authenticated else .idle else before

/-- The first section of `mlkem_result_ready`: it takes the reference in `crypto_job_conn`, whichever job
that belongs to. -/
def resultReady (platform : Platform) (state : State) (mode : JobMode) (status : JobStatus)
    (wire : Bytes) : State :=
  let main := state.main
  let valid := resultValid platform.version mode status wire
  let current := jobCurrent main
  let transfer := main.transfer.clearStorage
  { state with
    main := { main with
      cryptoJobConn := none
      transfer := if transfer.state = .cryptoBusy then { transfer with state := .empty } else transfer
      phase5State := nextPhase5 mode current valid main.phase5State
      phase7State := nextPhase7 mode current main.phase7State }
    worker := match main.cryptoJobConn with
      | some conn => if current then .deliver mode valid status wire conn else .idle
      | none => .idle }

/-- `bt_gatt_notify` -/
def notify (state : State) (conn : Conn) (wire : Bytes) (view : WorkerView) : State :=
  { state with outbox := if view.sent then (conn, wire) :: state.outbox else state.outbox }

/-- The byte of a status in a report. -/
def statusCode : JobStatus → UInt8
  | .success => 0x00
  | .decapsulationFailure => 0x03
  | .invalidProtocolState => 0x04
  | .secureChannelFailure => 0x05
  | .authenticationFailure => 0x06

/-- The PQM2 result of Phase 2, and of a failed Phase 3. -/
def diagnosticResult (status : JobStatus) (crc : UInt32) : Bytes :=
  ascii "PQM2" ++ [statusCode status] ++ bigEndian 4 crc.toNat

/-- The ERROR frame of Phase 5. -/
def phase5Error (status : JobStatus) : Bytes :=
  ((pqPhase5EncodeFrame pqPhase5Error [statusCode status] 9).toOption).getD []

/-- The ERROR frame of Phase 6. -/
def phase6Error (status : JobStatus) : Bytes :=
  ((pqPhase6EncodeFrame pqPhase6Error [statusCode status] 9).toOption).getD []

/-- The ERROR frame of Phase 7. -/
def phase7Error (version : UInt8) (status : JobStatus) : Bytes :=
  ((pqPhase7EncodeFrame version pqPhase7Error [statusCode status] 9).toOption).getD []

/-- `pq_mlkem_session_commit_phase7_authenticated`; v0.8 issues the ticket in it. -/
def commitPhase7 (platform : Platform) (state : State) (view : WorkerView) : Bool × State :=
  match state.store.commitReady with
  | .error _ => (false, state)
  | .ok _ =>
    let store := state.store.promote
    let installed := store.phase7TrafficKeys
    if platform.resumption then
      let (answer, service) := Resumption.pqResumeServiceFull platform.version platform.crypto view.faults
        state.service ⟨store.phase8PendingRoot, store.phase8FullTh, installed.centralToPeripheral,
          installed.peripheralToCentral, store.phase7SessionId⟩ view.peer view.now
      let store := { store with phase8PendingRoot := .zero 32, phase8FullTh := .zero 32 }
      if answer.ok then (true, { state with store, service, installed })
      else (false, { state with store := store.clearPhase7, service })
    else (true, { state with store, installed })

/-- The delivery of an authentication result in v0.8: one section under `protocol_lock`. -/
def deliverSerialized (platform : Platform) (state : State) (mode : JobMode) (valid : Bool) (wire : Bytes)
    (conn : Conn) (view : WorkerView) : State :=
  let main := state.main
  let live := main.currentConn = some conn ∧
    SameU32 main.cryptoJobGeneration main.connectionGeneration ∧ main.notifyEnabled
  let fail (state : State) : State :=
    { state.resetToIdle with service := state.service.abort (some conn) view.now, worker := .idle }
  if live then
    if valid ∧ view.subscribed ∧ wire.length + 3 ≤ view.mtu ∧ view.sent then
      let state := state.notify conn wire view
      if mode = .phase7AuthStart then
        { state with main := { main with phase7State := .waitFinishedC }, worker := .idle }
      else
        let (ok, state) := state.commitPhase7 platform view
        if ok then { state with main := { main with phase7State := .authenticated }, worker := .idle }
        else fail state
    else fail state
  else { state with worker := .idle }

/-- The frame a result is delivered in: the job's own, or the error report of its phase. -/
def deliveryFrame (version : UInt8) (mode : JobMode) (valid : Bool) (status : JobStatus) (crc : UInt32)
    (wire : Bytes) : Bytes :=
  match mode with
  | .phase2Diagnostic => diagnosticResult status crc
  | .phase3Secure => if status = .success ∧ wire ≠ [] then wire else diagnosticResult status crc
  | .phase5Start | .phase5FinishedC | .phase5Data => if valid then wire else phase5Error status
  | .phase6C2p => if valid then wire else phase6Error status
  | _ => if valid then wire else phase7Error version status

/-- The frame that `notify_phase7_cp2_result` queues: READY7_CP2, or a report of what went wrong. -/
def cp2Delivery (version : UInt8) (status : JobStatus) (wire : Bytes) (view : WorkerView) : Option Bytes :=
  if status = .success then
    if isFrame pqPhase7Ready7Cp2 97 (pqPhase7ParseFrame version wire) ∧ 108 ≤ view.mtu then
      if view.sent then some wire
      else if view.resent then some (phase7Error version .secureChannelFailure) else none
    else if view.sent then some (phase7Error version .invalidProtocolState) else none
  else if view.sent then some (phase7Error version status) else none

/-- The frame that a delivery queues, if any. -/
def delivered (version : UInt8) (mode : JobMode) (valid : Bool) (status : JobStatus) (crc : UInt32)
    (wire : Bytes) (view : WorkerView) : Option Bytes :=
  if mode = .phase7HybridCp2 then cp2Delivery version status wire view
  else if view.sent then some (deliveryFrame version mode valid status crc wire) else none

/-- What is left of the callback after the notification, by the mode of the job. -/
def afterDelivery (mode : JobMode) (valid sent : Bool) (conn : Conn) : Worker :=
  match mode with
  | .phase7AuthStart => if sent ∧ valid then .ready7 conn else .failed7 conn
  | .phase7AuthFinishedC => if sent ∧ valid then .commit7 conn else .failed7 conn
  | .phase7AppC2p => if sent then .idle else .failed7 conn
  | .phase6C2p => if sent then .idle else .failed5 conn
  | .phase5Start | .phase5FinishedC | .phase5Data =>
    if sent = false then .failed5 conn else if valid then .idle else .reset5
  | _ => .idle

/-- The delivery of a result to the connection of its job. -/
def deliver (platform : Platform) (state : State) (mode : JobMode) (valid : Bool) (status : JobStatus)
    (wire : Bytes) (conn : Conn) (view : WorkerView) : State :=
  if platform.resumption ∧ (mode = .phase7AuthStart ∨ mode = .phase7AuthFinishedC) then
    state.deliverSerialized platform mode valid wire conn view
  else
    { state with
      outbox := ((delivered platform.version mode valid status state.crc wire view).map
        fun frame ↦ (conn, frame)).toList ++ state.outbox
      worker := afterDelivery mode valid view.sent conn }

/-- A later section of the callback writes `phase7_state` if its connection is still the current one. -/
def writePhase7 (state : State) (conn : Conn) (next : Phase7State) (worker : Worker) : State :=
  { state with
    main := { state.main with
      phase7State := if state.main.currentConn = some conn then next else state.main.phase7State }
    worker }

/-- One step of the worker thread; `none` when it waits for a job. -/
def workerStep (platform : Platform) (state : State) (view : WorkerView) : Option State :=
  match state.worker with
  | .idle => state.takeJob
  | .decapsulate mode epoch => some (state.runDecapsulate platform mode epoch view)
  | .finished7 epoch keys hash received =>
    some (state.runFinished7 platform epoch keys hash received view)
  | .app7 epoch snapshot => some (state.runApp7 platform epoch snapshot view)
  | .finished5 epoch keys hash received =>
    some (state.runFinished5 platform epoch keys hash received view)
  | .data5 epoch key sid => some (state.runData5 platform epoch key sid view)
  | .app6 epoch snapshot => some (state.runApp6 platform epoch snapshot view)
  | .jobDone mode epoch status wire => some (state.finishJob mode epoch status wire)
  | .callback mode status wire => some (state.resultReady platform mode status wire)
  | .deliver mode valid status wire conn =>
    some (state.deliver platform mode valid status wire conn view)
  | .ready7 conn => some (state.writePhase7 conn .waitFinishedC .idle)
  | .commit7 conn =>
    let (ok, state) := state.commitPhase7 platform view
    some { state with worker := if ok then .promoted7 conn else .failed7 conn }
  | .promoted7 conn => some (state.writePhase7 conn .authenticated .idle)
  | .failed7 conn => some (state.writePhase7 conn .idle .reset7)
  | .reset7 => some { state with store := state.store.resetPhase7, worker := .idle }
  | .failed5 conn =>
    some { state with
      main := { state.main with
        phase5State := if state.main.currentConn = some conn then .idle else state.main.phase5State }
      worker := .reset5 }
  | .reset5 => some { state with store := state.store.resetPhase5, worker := .idle }

end State

/-! ## The firmware -/

/-- The connection object that the result callback holds a reference to. -/
def Worker.conn : Worker → Option Conn
  | .deliver _ _ _ _ conn | .ready7 conn | .commit7 conn | .promoted7 conn | .failed7 conn
  | .failed5 conn => some conn
  | _ => none

/-- A connection object that the application holds a reference to. -/
def State.Referenced (state : State) (conn : Conn) : Prop :=
  state.main.currentConn = some conn ∨ state.main.cryptoJobConn = some conn ∨
    state.worker.conn = some conn

instance (state : State) (conn : Conn) : Decidable (state.Referenced conn) :=
  inferInstanceAs (Decidable (_ ∨ _))

/-- One step of the firmware. -/
inductive Action
  | connected (conn : Conn) (clock now : ℤ)
  | disconnected (conn : Conn) (now : ℤ)
  | ccc (enabled : Bool) (now : ℤ)
  | ciphertext (conn : Conn) (fragment : Fragment)
  | start (conn : Conn) (mode : JobMode) (sid : Block 16) (centralKey : Bytes) (mtu : ℕ)
  | phase5Command (conn : Conn) (mode : JobMode) (payload : Block 32)
  | finishedC (conn : Conn) (payload : Block 32)
  | secureData (conn : Conn) (data : Bytes) (offset : ℕ)
  | resume (conn : Conn) (data : Bytes) (input : Resumption.ControlInput) (view : LinkView)
  | abortBusy (conn : Conn) (now : ℤ)
  | abortOffset (conn : Conn) (now : ℤ)
  | expire (clock₁ clock₂ clock₃ : ℤ)
  | host
  | worker (view : WorkerView)

/-- The first section of a callback of the Bluetooth host. -/
def State.call (platform : Platform) (state : State) : Action → Option State
  | .connected conn clock now =>
    if state.Referenced conn then none else some (state.connected platform conn clock now)
  | .disconnected conn now => some (state.disconnected platform conn now)
  | .ccc enabled now => some (state.cccConfigChanged platform enabled now)
  | .ciphertext conn fragment => some (state.writeCiphertext conn fragment).2
  | .start conn mode sid centralKey mtu =>
    if mode.decapsulates ∧ (platform.resumption → mode = .phase7AuthStart) then
      some (state.handleStart conn mode sid centralKey mtu).2
    else none
  | .phase5Command conn mode payload =>
    if platform.resumption then none else some (state.handlePhase5WorkerCommand conn mode payload).2
  | .finishedC conn payload => some (state.handlePhase7FinishedC conn payload).2
  | .secureData conn data offset => some (state.writeSecureData conn data offset).2
  | .resume conn data input view =>
    if platform.resumption ∧ 4 ≤ data.length ∧ data.take 4 = Resumption.magic then
      some (state.handleResume platform conn data input view).2
    else none
  | .abortBusy conn now => if platform.resumption then some (state.abortBusy conn now) else none
  | .abortOffset conn now => if platform.resumption then some (state.abortOffset conn now) else none
  | _ => none

/-- One step of the firmware; `none` when the action is not enabled. -/
def step (platform : Platform) (state : State) : Action → Option State
  | .worker view => state.workerStep platform view
  | .host => state.hostStep
  | .expire clock₁ clock₂ clock₃ =>
    if platform.resumption then
      some { state with
        service := state.service.expire platform.version clock₁ clock₂ clock₃ }
    else none
  | action => if state.host = [] then state.call platform action else none

end PqBleHandshake.Legacy
