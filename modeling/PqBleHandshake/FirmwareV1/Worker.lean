import PqBleHandshake.FirmwareV1.Main

/-!
# The crypto worker of v1.0 and v1.1 and its result callbacks

`crypto_worker` of `mlkem_session.c` with the result callbacks of `main.c` that run on the same thread.
One step of the worker is one section under a lock or one stretch of code between two locks.  The
input buffers of a running job do not change, so a computation on them is part of the section that
stores its result.

`firmware` is the machine of all steps: attribute callbacks, link callbacks, calls into the service, the
timeout and the worker, in any order.
-/

namespace PqBleHandshake.FirmwareV1

open Foundation

/-- `PQ_V1_STATUS_CP2_CRYPTO_FAILURE` -/
def pqV1StatusCp2CryptoFailure : UInt8 := 0x15
/-- `PQ_V1_STATUS_CP3_FAILURE` -/
def pqV1StatusCp3Failure : UInt8 := 0x16
/-- The size of `secure_wire`. -/
def secureWireSize : ℕ := 105

/-- The queries and platform results of one worker step: the liveness check at its start, the
delivery, the liveness check at its end, and what the issue of a ticket observes. -/
structure WorkerView where
  first : LinkView
  send : SendView
  last : LinkView
  issue : Resumption.PeerView
  faults : Faults := {}
  aeadFault : Bool := false
  decapsFault : Bool := false

/-- The ERROR frame with a status byte. -/
def errorFrame (version status : UInt8) : Bytes := v1Frame version pqV1Error [status]

/-- `pq_v1_cp2_diagnostic` -/
def pqV1Cp2Diagnostic (crypto : Crypto) (faults : Faults) (ss : Block 32) (sid pk ct : Bytes) :
    Option (Block 32) := do
  guard (sid.length = 16 ∧ pk.length = 1184 ∧ ct.length = 1088)
  let hash ← pqCryptoHashParts crypto faults [pk, ct]
  pqCryptoMac crypto faults ss (ascii "PQ-BLE-HANDSHAKE-v1.0/CP2-DIAGNOSTIC" ++ sid ++ hash.bytes)

section Jobs

variable (platform : Platform)

/-- `pqble_mlkem_dec` on the submitted ciphertext. -/
def decapsulate (store : Store) (view : WorkerView) : Option (Block 32) :=
  if view.decapsFault then none else platform.decaps store.ciphertextJob

/-- The handshake and the READY_CP3 frame that `v1_cp3_start_result` computes. -/
def startResult (store : Store) (view : WorkerView) : Option (V1Handshake × Bytes) := do
  let ss ← decapsulate platform store view
  let th0 ← pqV1Cp3Transcript platform.crypto view.faults platform.version store.v1Cp3SecJob
    platform.publicKey store.ciphertextJob store.v1Cp3StartJob
  let handshake ← pqV1Cp3Derive platform.crypto view.faults platform.version ss th0
  let wire ← (pqV1EncodeFrame platform.version pqV1ReadyCp3 th0.bytes secureWireSize).toOption
  return (handshake, wire)

/-- The READY frame that `v1_cp2_result` computes. -/
def cp2Result (store : Store) (view : WorkerView) : Option Bytes := do
  let ss ← decapsulate platform store view
  let diagnostic ← pqV1Cp2Diagnostic platform.crypto view.faults ss store.sessionIdJob
    platform.publicKey store.ciphertextJob
  (pqV1EncodeFrame platform.version pqV1Ready diagnostic.bytes secureWireSize).toOption

/-- The decryption of the PING in `v1_cp4_result`. -/
def openPing (store : Store) (snapshot : Cp4Snapshot) (view : WorkerView) : Except Errno Bytes := do
  let iv ← pqV1Cp4Iv platform.crypto view.faults platform.version snapshot.app.c2p snapshot.sid pqV1AppC2p
  pqV1Cp4Decrypt platform.aead view.aeadFault platform.version snapshot.app.c2p iv snapshot.sid
    store.v1Cp4WireJob pqV1AppC2p snapshot.rx 16

/-- The encryption of the PONG in `v1_cp4_result`. -/
def sealPong (snapshot : Cp4Snapshot) (challenge : Bytes) (view : WorkerView) :
    Except Errno Bytes := do
  let iv ← pqV1Cp4Iv platform.crypto view.faults platform.version snapshot.app.p2c snapshot.sid pqV1AppP2c
  pqV1Cp4Encrypt platform.aead view.aeadFault platform.version snapshot.app.p2c iv snapshot.sid pqV1AppP2c
    snapshot.tx pqV1Cp4Pong challenge secureWireSize

end Jobs

/-- Whether the frame of a successful CP3 job has the subtype that its mode promises. -/
def validCp3Result (version : UInt8) (start : Bool) (wire : Bytes) : Bool :=
  match pqV1ParseFrame version wire with
  | .error _ => false
  | .ok (subtype, _) => subtype = if start then pqV1ReadyCp3 else pqV1FinishedP

/-- Whether the frame of a successful CP4 job is a PONG. -/
def validPong (version : UInt8) (wire : Bytes) : Bool :=
  match pqV1Cp4Parse version wire pqV1AppP2c with
  | .error _ => false
  | .ok frame => frame.msgType = pqV1Cp4Pong && frame.plaintextLen = 16

/-- Whether a frame of a given length can be notified at this moment, and is. -/
def notified (view : SendView) (wire : Bytes) : Bool :=
  view.l4 && view.subscribed && wire.length + 3 ≤ view.mtu && view.sent

/-- What `v1_cp3_result_ready` decides to deliver. -/
structure Cp3Delivery where
  deliver : Bool
  conn : Option Conn
  generation : ℕ
  status : JobStatus
  wire : Bytes

/-- The decision of `v1_cp3_result_ready` on a finished job. -/
def Main.cp3Delivery (main : Main) (version : UInt8) (start : Bool) (status : JobStatus)
    (wire : Bytes) (view : LinkView) : Cp3Delivery :=
  let deliver := main.v1Cp3Live main.v1Cp3Conn main.v1Cp3Generation view &&
    main.v1Cp3State = if start then .cryptoBusy else .finishedPBusy
  let status := if deliver ∧ status = .success ∧ validCp3Result version start wire = false then
      .invalidProtocolState
    else status
  { deliver
    conn := if deliver then main.v1Cp3Conn else none
    generation := main.v1Cp3Generation
    status
    wire := if deliver ∧ status ≠ .success then errorFrame version pqV1StatusCp3Failure else wire }

/-- The notification that a delivery queued. -/
def queuedTo (conn : Option Conn) (sent : Bool) (wire : Bytes) : Option (Conn × Bytes) :=
  if sent then conn.map fun conn ↦ (conn, wire) else none

namespace State

/-- The worker moves on; nothing else changes. -/
def goto (state : State) (worker : Worker) : State := { state with worker }

@[simp]
theorem goto_worker (state : State) (worker : Worker) : (state.goto worker).worker = worker := rfl

/-- Record what a step did with the application keys. -/
def report (state : State) (event : AppEvent) : State :=
  { state with ledger := recordEvent state.ledger event }

/-- The first section of the pending job; a job of an older epoch goes straight to its end. -/
def takenWorker (store : Store) : Worker :=
  let epoch := store.pendingV1Cp3Epoch
  match store.pendingJobMode with
  | .v1Cp2 =>
    if SameU32 store.pendingV1Cp2Epoch store.v1Cp2Epoch then .cp2Result store.pendingV1Cp2Epoch
    else .jobDone .v1Cp2 store.pendingV1Cp2Epoch .invalidProtocolState []
  | .v1Cp3 =>
    if SameU32 epoch store.v1Cp3Epoch then .startResult epoch
    else .jobDone .v1Cp3 epoch .invalidProtocolState []
  | .v1Cp3FinishedC =>
    if SameU32 epoch store.v1Cp3Epoch then .finishedTake epoch
    else .jobDone .v1Cp3FinishedC epoch .invalidProtocolState []
  | .v1Cp4C2p =>
    if SameU32 epoch store.v1Cp3Epoch then .cp4Live epoch
    else .jobDone .v1Cp4C2p epoch .invalidProtocolState []

/-- The worker takes a job. -/
def takeJob (state : State) : State :=
  if state.store.jobPending = false ∨ state.store.keypairReady = false then
    { state with store := { state.store with jobPending := false } }
  else { state with
    store := state.store.takeJob
    worker := takenWorker state.store
    workerGeneration := state.jobGeneration
    workerEpoch := state.store.pendingV1Cp3Epoch }

/-- The section of `v1_cp3_start_result` that stores its result. -/
def storeStart (platform : Platform) (state : State) (epoch : ℕ) (view : WorkerView) : State :=
  match startResult platform state.store view with
  | some (handshake, wire) =>
    if SameU32 epoch state.store.v1Cp3Epoch then
      { state with
        store := state.store.storeHandshake handshake
        worker := .jobDone .v1Cp3 epoch .success wire }
    else state.goto (.jobDone .v1Cp3 epoch .authenticationFailure [])
  | none => state.goto (.jobDone .v1Cp3 epoch .authenticationFailure [])

/-- The first section of `v1_cp3_finished_result`. -/
def takeHandshake (state : State) (epoch : ℕ) : State :=
  if SameU32 epoch state.store.v1Cp3Epoch ∧ state.store.v1Cp3WaitFinished then
    { state with
      store := state.store.takeHandshake
      worker := .finishedStore epoch state.store.v1Cp3Handshake }
  else state.goto (.jobDone .v1Cp3FinishedC epoch .authenticationFailure [])

/-- The section of `v1_cp3_finished_result` that stores the application keys. -/
def storeFinished (platform : Platform) (state : State) (epoch : ℕ) (handshake : V1Handshake)
    (view : WorkerView) : State :=
  match pqV1Cp3Finish platform.crypto view.faults platform.version handshake state.store.v1Cp3FinishedJob with
  | some (wire, app) =>
    if SameU32 epoch state.store.v1Cp3Epoch then
      { state with
        store := state.store.storeApplication app
        worker := .jobDone .v1Cp3FinishedC epoch .success wire
      }.report (.installed (appKeys platform.crypto platform.version app state.store.v1Cp3SessionId))
    else state.goto (.jobDone .v1Cp3FinishedC epoch .authenticationFailure [])
  | none => state.goto (.jobDone .v1Cp3FinishedC epoch .authenticationFailure [])

/-- The snapshot of `v1_cp4_result` and the decryption of the PING. -/
def snapshotCp4 (platform : Platform) (state : State) (epoch : ℕ) (view : WorkerView) : State :=
  let store := state.store
  if SameU32 epoch store.v1Cp3Epoch ∧ store.v1Cp3AppSecure ∧ store.v1Cp4Pending ∧
      store.v1Cp4Ready = false then
    let snapshot : Cp4Snapshot :=
      { app := store.v1Cp3Application, sid := store.v1Cp3SessionId
        rx := store.v1Cp4RxC2p, tx := store.v1Cp4TxP2c }
    match openPing platform store snapshot view with
    | .ok challenge =>
      (state.goto (.cp4Recheck epoch snapshot challenge)).report
        (.opened ⟨snapshot.rx, challenge, store.v1Cp4WireJob⟩)
    | .error _ => state.goto (.jobDone .v1Cp4C2p epoch .authenticationFailure [])
  else state.goto (.jobDone .v1Cp4C2p epoch .authenticationFailure [])

/-- The encryption of the PONG. -/
def encryptCp4 (platform : Platform) (state : State) (epoch : ℕ) (snapshot : Cp4Snapshot)
    (challenge : Bytes) (view : WorkerView) : State :=
  match sealPong platform snapshot challenge view with
  | .ok wire =>
    (state.goto (.cp4Ready epoch wire)).report (.sealed ⟨snapshot.tx, challenge, wire⟩)
  | .error _ => state.goto (.jobDone .v1Cp4C2p epoch .authenticationFailure [])

/-- The last section of `v1_cp4_result`: the counters stay as they are until the PONG is queued. -/
def readyCp4 (state : State) (epoch : ℕ) (wire : Bytes) : State :=
  let store := state.store
  if SameU32 epoch store.v1Cp3Epoch ∧ store.v1Cp3AppSecure ∧ store.v1Cp4Pending then
    { state with
      store := { store with v1Cp4Ready := true }
      worker := .jobDone .v1Cp4C2p epoch .success wire }
  else state.goto (.jobDone .v1Cp4C2p epoch .authenticationFailure [])

/-- `job_done` up to the result callback: a result of an older epoch is cancelled. -/
def finishJob (state : State) (mode : JobMode) (epoch : ℕ) (status : JobStatus) (wire : Bytes) :
    State :=
  let current := if mode = .v1Cp2 then state.store.v1Cp2Epoch else state.store.v1Cp3Epoch
  let (status, wire) :=
    if SameU32 epoch current then (status, wire) else (.invalidProtocolState, [])
  let worker := match mode with
    | .v1Cp2 => .cp2Callback status wire
    | .v1Cp3 => .cp3Callback true status wire
    | .v1Cp3FinishedC => .cp3Callback false status wire
    | .v1Cp4C2p => .cp4Callback status wire
  { state with store := state.store.finishJob mode, worker }

/-! ## Result callbacks -/

/-- A drained callback frees the transfer slot of a replacement connection. -/
def drain (state : State) : State :=
  let main := { state.main with v1Cp3DeliveryActive := false }
  { state with
    main := if main.v1Cp3State = .idle ∧ main.v1Cp2Active = false then
        { main with transfer := main.transfer.reset }
      else main
    worker := .idle }

/-- What v1.1 hands to the service when it commits. -/
def fullKeys (store : Store) : Resumption.FullKeys where
  root := store.v1Cp3Application.resumeRoot
  th := store.v1Cp3Application.fullTh
  c2p := store.v1Cp3Application.c2p
  p2c := store.v1Cp3Application.p2c
  sid := store.v1Cp3SessionId

/-- `pq_mlkem_session_commit_v1_cp3` with its call into the service. -/
def commitV1Cp3 (platform : Platform) (state : State) (view : WorkerView) : Bool × State :=
  match state.store.commitV1Cp3 with
  | .error _ => (false, state)
  | .ok store =>
    if platform.version = Resumption.pqResumeV11 then
      let (answer, service) := Resumption.pqResumeServiceFull platform.version platform.crypto
        view.faults state.service (fullKeys store) view.issue view.issue.uptime
      (answer.ok, { state with service, store := store.releaseApplication })
    else (true, { state with store })

/-- The last section of `v1_cp3_result_ready`.  A v1.1 commit also frees the consumed ciphertext slot. -/
def settleCp3 (platform : Platform) (state : State) (start : Bool) (status : JobStatus)
    (conn : Option Conn) (generation : ℕ) (sent : Bool) (view : WorkerView) : State :=
  let main := state.main
  let settled :=
    if conn.isSome ∧ conn = main.v1Cp3Conn ∧ SameU32 generation main.connectionGeneration then
      if sent = false ∨ status ≠ .success ∨ main.v1Cp3Live conn generation view.last = false then
        state.invalidateV1Cp3
      else if start then state
      else
        let (committed, state) := state.commitV1Cp3 platform view
        if committed then
          let transfer := state.main.transfer
          { state with main := { state.main with
              v1Cp3State := .appSecure
              transfer := if platform.version = Resumption.pqResumeV11 then
                  { transfer with state := .empty }
                else transfer } }
        else state.invalidateV1Cp3
    else if main.v1Cp3State ≠ .idle then state.invalidateV1Cp3
    else state
  settled.drain

/-- The first section of `v1_cp3_result_ready` with its delivery.  A successful FINISHED_P is delivered
and committed in the same section; every other result releases the lock for its delivery. -/
def callbackCp3 (platform : Platform) (state : State) (start : Bool) (status : JobStatus)
    (wire : Bytes) (view : WorkerView) : Output × State :=
  let delivery := state.main.cp3Delivery platform.version start status wire view.first
  let state := { state with main := { state.main with
    v1Cp3WorkerActive := false
    v1Cp3DeliveryActive := true
    v1Cp3State := if delivery.deliver ∧ start ∧ delivery.status = JobStatus.success then .waitFinishedC
      else state.main.v1Cp3State } }
  if start ∨ delivery.status ≠ .success then
    ({}, state.goto (.cp3Send start delivery.status delivery.deliver delivery.conn
      delivery.generation delivery.wire))
  else
    let sent := delivery.deliver && notified view.send delivery.wire
    ({ queued := queuedTo delivery.conn sent delivery.wire },
      state.settleCp3 platform start delivery.status delivery.conn delivery.generation sent view)

/-- The first section of `v1_cp4_result_ready`. -/
def callbackCp4 (platform : Platform) (state : State) (status : JobStatus) (wire : Bytes) (view : LinkView) : State :=
  let generation := state.main.v1Cp3Generation
  let deliver := state.main.v1Cp3WorkerActive ∧ status = .success ∧
    state.main.v1Cp4Live state.main.v1Cp3Conn generation view ∧ validPong platform.version wire
  let worker := match state.main.v1Cp3Conn with
    | some conn =>
      if deliver then .cp4Check conn generation wire else .cp4Settle none generation false
    | none => .cp4Settle none generation false
  let state := if deliver then state else state.invalidateV1Cp3
  { state with
    main := { state.main with v1Cp3WorkerActive := false, v1Cp3DeliveryActive := true }
    worker }

/-- The last section of `v1_cp4_result_ready`. -/
def settleCp4 (state : State) (conn : Option Conn) (generation : ℕ) (sent : Bool)
    (view : LinkView) : State :=
  let settled :=
    if sent ∧ state.main.v1Cp4Live conn generation view then
      match state.store.commitV1Cp4 with
      | .ok store => { state with store }.report .committed
      | .error _ => state.invalidateV1Cp3
    else state.invalidateV1Cp3
  settled.drain

/-- The first section of `v1_cp2_result_ready` with the validation of the frame. -/
def callbackCp2 (platform : Platform) (state : State) (status : JobStatus) (wire : Bytes) : State :=
  let main := state.main
  let conn := main.cryptoJobConn
  let deliver := main.v1Cp2Active && main.v1Cp2Valid && conn.isSome && conn = main.currentConn &&
    SameU32 main.cryptoJobGeneration main.connectionGeneration && main.notifyEnabled
  let valid := match pqV1ParseFrame platform.version wire with
    | .error _ => false
    | .ok (subtype, _) => subtype = pqV1Ready
  let status := if deliver ∧ status = .success ∧ valid = false then .invalidProtocolState else status
  let wire := if deliver ∧ status ≠ .success then errorFrame platform.version pqV1StatusCp2CryptoFailure
    else wire
  { state with
    main := { main with cryptoJobConn := none }
    worker := .cp2Check status deliver conn main.cryptoJobGeneration wire }

/-- The second section of `v1_cp2_result_ready`. -/
def checkCp2 (state : State) (deliver : Bool) (conn : Option Conn) (generation : ℕ)
    (wire : Bytes) : State :=
  let main := state.main
  let deliver := deliver && main.v1Cp2Valid && conn = main.currentConn &&
    SameU32 generation main.connectionGeneration && main.notifyEnabled
  state.goto (.cp2Send deliver conn wire)

/-- The last section of `v1_cp2_result_ready`. -/
def settleCp2 (state : State) : State :=
  { state with
    main := { state.main with
      v1Cp2Active := false, v1Cp2Valid := false, transfer := state.main.transfer.reset }
    worker := .cp2Release }

/-- One step of the worker thread. -/
def workerStep (platform : Platform) (state : State) (view : WorkerView) : Output × State :=
  match state.worker with
  | .idle => ({}, state.takeJob)
  | .startResult epoch => ({}, state.storeStart platform epoch view)
  | .finishedTake epoch => ({}, state.takeHandshake epoch)
  | .finishedStore epoch handshake => ({}, state.storeFinished platform epoch handshake view)
  | .cp4Live epoch =>
    let (live, state) := state.pqV1Cp4JobLive view.first
    ({}, state.goto (if live then .cp4Snapshot epoch
      else .jobDone .v1Cp4C2p epoch .authenticationFailure []))
  | .cp4Snapshot epoch => ({}, state.snapshotCp4 platform epoch view)
  | .cp4Recheck epoch snapshot challenge =>
    let (live, state) := state.pqV1Cp4JobLive view.first
    ({}, state.goto (if live then .cp4Encrypt epoch snapshot challenge
      else .jobDone .v1Cp4C2p epoch .authenticationFailure []))
  | .cp4Encrypt epoch snapshot challenge =>
    ({}, state.encryptCp4 platform epoch snapshot challenge view)
  | .cp4Ready epoch wire => ({}, state.readyCp4 epoch wire)
  | .cp2Result epoch =>
    ({}, state.goto (match cp2Result platform state.store view with
      | some wire => .jobDone .v1Cp2 epoch .success wire
      | none => .jobDone .v1Cp2 epoch .decapsulationFailure []))
  | .jobDone mode epoch status wire => ({}, state.finishJob mode epoch status wire)
  | .cp3Callback start status wire => state.callbackCp3 platform start status wire view
  | .cp3Send start status deliver conn generation wire =>
    let sent := deliver && notified view.send wire
    ({ queued := queuedTo conn sent wire },
      state.goto (.cp3Settle start status conn generation sent))
  | .cp3Settle start status conn generation sent =>
    ({}, state.settleCp3 platform start status conn generation sent view)
  | .cp4Callback status wire => ({}, state.callbackCp4 platform status wire view.first)
  | .cp4Check conn generation wire =>
    ({}, state.goto (.cp4Send conn generation
      (state.main.v1Cp4Live (some conn) generation view.first) wire))
  | .cp4Send conn generation live wire =>
    let sent := live && notified view.send wire
    let state := state.goto (.cp4Settle (some conn) generation sent)
    ({ queued := queuedTo (some conn) sent wire }, if sent then state.report .delivered else state)
  | .cp4Settle conn generation sent => ({}, state.settleCp4 conn generation sent view.first)
  | .cp2Callback status wire => ({}, state.callbackCp2 platform status wire)
  | .cp2Check _ deliver conn generation wire => ({}, state.checkCp2 deliver conn generation wire)
  | .cp2Send deliver conn wire =>
    let sent := deliver && notified view.send wire
    ({ queued := queuedTo conn sent wire }, state.goto .cp2Settle)
  | .cp2Settle => ({}, state.settleCp2)
  | .cp2Release =>
    ({}, { state with store := { state.store with jobActive := false }, worker := .idle })

end State

/-! ## The machine -/

/-- One step of the firmware: an attribute callback, a link callback, a call into the service, the
handshake timeout, or the worker. -/
inductive Action
  | readPublicKey (conn : Conn) (busy : Bool) (view : LinkView)
  | writeCiphertext (conn : Conn) (data : Bytes) (offset : ℕ) (busy : Bool) (view : LinkView)
  | writeSecureData (conn : Conn) (data : Bytes) (offset : ℕ) (view : LinkView)
  | writeControl (conn : Conn) (data : Bytes) (offset : ℕ) (view : ControlView)
  | readCcc (conn : Conn) (view : LinkView)
  | writeCcc (conn : Conn) (enabled : Bool) (view : LinkView)
  | cccConfigChanged (enabled : Bool) (now : ℤ)
  | serviceAbort (conn : Conn) (now : ℤ)
  | securityChanged (conn : Conn) (secured : Bool)
  | bondChanged (now : ℤ)
  | expire (clock₁ clock₂ clock₃ : ℤ)
  | timeout (view : LinkView)
  | connected (conn : Conn) (bonded : Bool) (clock now : ℤ)
  | disconnected (conn : Conn) (now : ℤ)
  | worker (view : WorkerView)

/-- `pq_resume_service_bond_changed` and the expiry work of the service. -/
def State.onService (platform : Platform) (state : State)
    (call : Resumption.Service → Resumption.Service) : State :=
  if platform.version = Resumption.pqResumeV11 then { state with service := call state.service }
  else state

/-- The firmware under every interleaving of its threads. -/
def firmware (platform : Platform) : Machine State Action Output where
  step state
    | .readPublicKey _ busy view => answered (state.readPublicKey platform busy view, state)
    | .writeCiphertext conn data offset busy view =>
      answered (state.writeCiphertext platform conn data offset busy view)
    | .writeSecureData conn data offset view =>
      answered (state.writeSecureData platform conn data offset view, state)
    | .writeControl conn data offset view => state.writeControl platform conn data offset view
    | .readCcc _ view => answered (State.gateCcc view, state)
    | .writeCcc _ enabled view => answered (state.writeCcc platform enabled view)
    | .cccConfigChanged enabled now => ({}, state.cccConfigChanged platform enabled now)
    | .serviceAbort conn now => ({}, state.serviceAbort platform (some conn) now)
    | .securityChanged conn secured => ({}, state.v1Cp2SecurityChanged conn secured)
    | .bondChanged now => ({}, state.onService platform fun service ↦
        service.bondChanged platform.version now)
    | .expire clock₁ clock₂ clock₃ => ({}, state.onService platform fun service ↦
        service.expire platform.version clock₁ clock₂ clock₃)
    | .timeout view => ({}, state.v1Cp3Timeout view)
    | .connected conn bonded clock now => ({}, state.connected platform conn bonded clock now)
    | .disconnected conn now => ({}, state.disconnected platform conn now)
    | .worker view => state.workerStep platform view

end PqBleHandshake.FirmwareV1
