import PqBleHandshake.CiphertextTransfer
import PqBleHandshake.FirmwareV1.Session
import PqBleHandshake.Resumption.Service

/-!
# The protocol state of v1.0 and v1.1 and its handlers

The part of `main.c` that v1.0 and v1.1 use; `version` is `PQ_APP_VERSION`.  A section under
`protocol_lock` is one step, and a handler that releases the lock in between is several.  What a handler
read in an earlier section (the security gate, `busy`, `application`, `ready`) is an input of the step
that uses it, and the abort of the service that v1.1 makes before a section is a step of its own.  The
states of Phase 5 and Phase 7 stay idle and are left out.

The ledger, the attempt, the generations of the jobs and the count of resets are bookkeeping that no code
reads.
-/

namespace PqBleHandshake.FirmwareV1

open Foundation

/-- `enum v1_cp3_state` -/
inductive Cp3State
  | idle | cryptoBusy | waitFinishedC | finishedPBusy | appSecure | failed
deriving DecidableEq, Repr

/-- The file-scope state of `main.c`; the generations are counted without wrapping. -/
structure Main where
  currentConn : Option Conn
  cryptoJobConn : Option Conn
  connectionGeneration : ℕ
  cryptoJobGeneration : ℕ
  notifyEnabled : Bool
  transfer : Transfer
  v1Cp2Active : Bool
  v1Cp2Valid : Bool
  v1Cp3State : Cp3State
  v1Cp3Conn : Option Conn
  v1Cp3Generation : ℕ
  v1Cp3WorkerActive : Bool
  v1Cp3DeliveryActive : Bool
  v1Cp3Deadline : ℤ
deriving DecidableEq

/-- The protocol state at boot. -/
def Main.boot : Main where
  currentConn := none
  cryptoJobConn := none
  connectionGeneration := 0
  cryptoJobGeneration := 0
  notifyEnabled := false
  transfer := Transfer.zero
  v1Cp2Active := false
  v1Cp2Valid := false
  v1Cp3State := .idle
  v1Cp3Conn := none
  v1Cp3Generation := 0
  v1Cp3WorkerActive := false
  v1Cp3DeliveryActive := false
  v1Cp3Deadline := 0

/-- What the worker copies out of the store for one PING. -/
structure Cp4Snapshot where
  app : V1Application
  sid : Block 16
  rx : UInt64
  tx : UInt64
deriving DecidableEq

/-- Where the worker thread stands: between jobs, inside a job, or inside the result callback.  A
constructor carries the local variables that the rest of the job uses. -/
inductive Worker
  | idle
  | startResult (epoch : ℕ)
  | finishedTake (epoch : ℕ)
  | finishedStore (epoch : ℕ) (handshake : V1Handshake)
  | cp4Live (epoch : ℕ)
  | cp4Snapshot (epoch : ℕ)
  | cp4Recheck (epoch : ℕ) (snapshot : Cp4Snapshot) (challenge : Bytes)
  | cp4Encrypt (epoch : ℕ) (snapshot : Cp4Snapshot) (challenge : Bytes)
  | cp4Ready (epoch : ℕ) (wire : Bytes)
  | cp2Result (epoch : ℕ)
  | jobDone (mode : JobMode) (epoch : ℕ) (status : JobStatus) (wire : Bytes)
  | cp3Callback (start : Bool) (status : JobStatus) (wire : Bytes)
  | cp3Send (start : Bool) (status : JobStatus) (deliver : Bool) (conn : Option Conn)
      (generation : ℕ) (wire : Bytes)
  | cp3Settle (start : Bool) (status : JobStatus) (conn : Option Conn) (generation : ℕ) (sent : Bool)
  | cp4Callback (status : JobStatus) (wire : Bytes)
  | cp4Check (conn : Conn) (generation : ℕ) (wire : Bytes)
  | cp4Send (conn : Conn) (generation : ℕ) (live : Bool) (wire : Bytes)
  | cp4Settle (conn : Option Conn) (generation : ℕ) (sent : Bool)
  | cp2Callback (status : JobStatus) (wire : Bytes)
  | cp2Check (status : JobStatus) (deliver : Bool) (conn : Option Conn) (generation : ℕ)
      (wire : Bytes)
  | cp2Send (deliver : Bool) (conn : Option Conn) (wire : Bytes)
  | cp2Settle
  | cp2Release
deriving DecidableEq

/-- The handshake attempt that the last accepted START began, with the FINISHED_C accepted for it. -/
structure Attempt where
  generation : ℕ
  ct : Bytes
  sec : Bytes
  start : Bytes
  finishedC : Option Bytes := none
deriving DecidableEq

/-- The firmware; v1.0 never touches the service.  `ledger`, `attempt`, `jobGeneration` and
`workerGeneration` (the generation that submitted the last job, and the job that the worker took last),
`workerEpoch` (the CP3 epoch of that job) and `jobResets` (the resets since the last CP3 or CP4 job was
submitted) are bookkeeping. -/
structure State where
  main : Main
  store : Store
  service : Resumption.Service
  worker : Worker
  ledger : List Installation
  attempt : Option Attempt
  jobGeneration : ℕ
  workerGeneration : ℕ
  workerEpoch : ℕ
  jobResets : ℕ
deriving DecidableEq

/-- The firmware when Bluetooth starts. -/
def State.boot : State where
  main := .boot
  store := .boot
  service := .zero
  worker := .idle
  ledger := []
  attempt := none
  jobGeneration := 0
  workerGeneration := 0
  workerEpoch := 0
  jobResets := 0

/-- The libraries and the key pair of one boot. -/
structure Platform where
  version : UInt8
  crypto : Crypto
  aead : Aead
  publicKey : Bytes
  decaps : Bytes → Option (Block 32)
  cp3TimeoutMs : ℤ

/-! ## Liveness and invalidation -/

namespace Main

/-- `v1_cp3_live_locked` -/
def v1Cp3Live (main : Main) (conn : Option Conn) (generation : ℕ) (view : LinkView) : Bool :=
  conn.isSome && conn = main.currentConn && conn = main.v1Cp3Conn &&
    SameU32 generation main.connectionGeneration && SameU32 generation main.v1Cp3Generation &&
    main.v1Cp3State ≠ .failed && main.notifyEnabled &&
    view.uptime < main.v1Cp3Deadline && view.l4 && view.subscribed

/-- `v1_cp4_live_locked` -/
def v1Cp4Live (main : Main) (conn : Option Conn) (generation : ℕ) (view : LinkView) : Bool :=
  conn.isSome && conn = main.currentConn && conn = main.v1Cp3Conn &&
    SameU32 generation main.connectionGeneration && SameU32 generation main.v1Cp3Generation &&
    main.v1Cp3State = .appSecure && main.notifyEnabled && view.l4 && view.subscribed &&
    pqV1Cp4FrameSize + 3 ≤ view.mtu

end Main

namespace State

/-- `invalidate_v1_cp2_locked` -/
def invalidateV1Cp2 (state : State) : State :=
  { state with main := { state.main with v1Cp2Valid := false }, store := state.store.resetV1Cp2 }

/-- `invalidate_v1_cp3_locked` -/
def invalidateV1Cp3 (state : State) : State :=
  { state with
    main := { state.main with
      v1Cp3State := if state.main.v1Cp3State ≠ .idle then .failed else .idle
      v1Cp3Conn := none }
    store := state.store.resetV1Cp3
    jobResets := state.jobResets + 1 }

/-- `v1_cp3_timeout`; the work item may also run after it was cancelled or when it was rescheduled. -/
def v1Cp3Timeout (state : State) (view : LinkView) : State :=
  if (state.main.v1Cp3State = .cryptoBusy ∨ state.main.v1Cp3State = .waitFinishedC ∨
      state.main.v1Cp3State = .finishedPBusy) ∧ state.main.v1Cp3Deadline ≤ view.uptime then
    state.invalidateV1Cp3
  else state

/-- `pq_v1_cp4_job_live` -/
def pqV1Cp4JobLive (state : State) (view : LinkView) : Bool × State :=
  if state.main.v1Cp3WorkerActive ∧
      state.main.v1Cp4Live state.main.v1Cp3Conn state.main.v1Cp3Generation view then (true, state)
  else (false, state.invalidateV1Cp3)

end State

/-! ## Write handlers -/

/-- The queries of one control write: at the security gate, in the dispatch, and in the handler, which
asks for the MTU again after its liveness check; `queried` and `queryL4` are the early checks of
SEC_QUERY, `referenced` is the success of `bt_conn_ref`, `sent` that of the SEC_INFO notification, and
`control` what a call into the service observes. -/
structure ControlView where
  gate : LinkView
  busy : Bool
  application : Bool
  ready : Bool
  queried : Bool
  queryL4 : Bool
  first : LinkView
  second : LinkView
  info : Option V1SecurityInfo
  referenced : Bool
  uptime : ℤ
  sent : Bool
  control : Resumption.ControlInput

/-- The answer of an attribute callback: an ATT error, or success. -/
abbrev WriteResult := Except AttError Unit

/-- What a step shows outside: the answer of an attribute callback and the notification it queued. -/
structure Output where
  result : Option WriteResult := none
  queued : Option (Conn × Bytes) := none

/-- The answer of a write that queues nothing. -/
def answered (result : WriteResult × State) : Output × State := ({ result := result.1 }, result.2)

namespace State

/-- `handle_v1_cp4` -/
def handleV1Cp4 (platform : Platform) (state : State) (conn : Conn) (wire : Bytes) (view : ControlView) :
    WriteResult × State :=
  let main := state.main
  if main.v1Cp4Live (some conn) main.v1Cp3Generation view.first = false ∨ main.v1Cp3WorkerActive ∨
      main.v1Cp3DeliveryActive ∨ main.v1Cp2Active ∨ main.cryptoJobConn.isSome ∨
      view.second.mtu < wire.length + 3 then
    (.error .valueNotAllowed, state.invalidateV1Cp3)
  else match state.store.submitV1Cp4 platform.version wire with
    | .error (_, store) => (.error .valueNotAllowed, { state with store }.invalidateV1Cp3)
    | .ok store =>
      (.ok (), { state with
        store
        main := { main with v1Cp3WorkerActive := true }
        jobGeneration := main.connectionGeneration
        jobResets := 0 })

/-- The checks of `handle_v1_cp3_start` up to the submission: the SEC_INFO frame of the link. -/
def cp3StartSecInfo (platform : Platform) (state : State) (conn : Conn) (view : ControlView) : Except AttError Bytes := do
  let main := state.main
  require (main.currentConn = some conn ∧ view.first.l4) .authentication
  require (main.v1Cp3State = .idle ∧ main.v1Cp3WorkerActive = false ∧
    main.v1Cp3DeliveryActive = false ∧ main.v1Cp2Active = false ∧ main.cryptoJobConn = none ∧
    main.transfer.state ≠ .cryptoBusy) .procedureInProgress
  require (main.notifyEnabled ∧ view.first.subscribed) .cccImproperConf
  require (43 ≤ view.first.mtu ∧ main.transfer.state = .ready ∧ state.store.keypairReady)
    .valueNotAllowed
  let info ← orFail .authentication view.info
  require info.gateOpen .authentication
  (pqV1EncodeSecInfo platform.version info).mapError fun _ ↦ .authentication

/-- `handle_v1_cp3_start` -/
def handleV1Cp3Start (platform : Platform) (state : State) (conn : Conn) (frame : Bytes)
    (view : ControlView) : WriteResult × State :=
  match state.cp3StartSecInfo platform conn view with
  | .error error => (.error error, state)
  | .ok sec =>
    let main := state.main
    if view.referenced = false then
      (.error .procedureInProgress, { state with main := { main with v1Cp3Conn := none } })
    else match state.store.submitV1Cp3 platform.version main.transfer.ciphertext sec frame with
    | .error (error, store) =>
      (.error (if error = .ebusy then .procedureInProgress else .valueNotAllowed),
        { state with store, main := { main with v1Cp3Conn := none } })
    | .ok store =>
      (.ok (), { state with
        store
        main := { main with
          v1Cp3Conn := some conn
          v1Cp3Generation := main.connectionGeneration
          v1Cp3State := .cryptoBusy
          v1Cp3WorkerActive := true
          v1Cp3Deadline := view.uptime + platform.cp3TimeoutMs
          transfer := { main.transfer.clearStorage with state := .cryptoBusy } }
        attempt := some
          { generation := main.connectionGeneration, ct := main.transfer.ciphertext, sec
            start := frame }
        jobGeneration := main.connectionGeneration
        jobResets := 0 })

/-- `handle_v1_cp3_finished_c` -/
def handleV1Cp3FinishedC (platform : Platform) (state : State) (conn : Conn) (frame : Bytes) (view : ControlView) :
    WriteResult × State :=
  let main := state.main
  if main.v1Cp3State ≠ .waitFinishedC ∨ main.v1Cp3WorkerActive then (.error .valueNotAllowed, state)
  else if main.v1Cp3Live (some conn) main.v1Cp3Generation view.first = false then
    (.error .authentication, if main.v1Cp3Conn = some conn then state.invalidateV1Cp3 else state)
  else match state.store.submitV1Cp3FinishedC platform.version frame with
    | .error (_, store) => (.error .valueNotAllowed, { state with store }.invalidateV1Cp3)
    | .ok store =>
      (.ok (), { state with
        store
        main := { main with v1Cp3State := .finishedPBusy, v1Cp3WorkerActive := true }
        attempt := state.attempt.map fun attempt ↦ { attempt with finishedC := some frame }
        jobGeneration := main.connectionGeneration
        jobResets := 0 })

/-- The checks of `handle_v1_cp2_start`. -/
def cp2StartReady (state : State) (conn : Conn) (view : ControlView) : Except AttError Unit := do
  let main := state.main
  require (main.currentConn = some conn ∧ view.first.l4) .authentication
  require (main.notifyEnabled ∧ view.first.subscribed) .cccImproperConf
  require (43 ≤ view.first.mtu) .invalidAttributeLen
  require state.store.keypairReady .unlikely
  require (main.v1Cp3State = .idle ∧ main.v1Cp3WorkerActive = false ∧
    main.v1Cp3DeliveryActive = false ∧ main.v1Cp2Active = false ∧
    main.transfer.state ≠ .cryptoBusy) .procedureInProgress
  require (main.transfer.state = .ready ∧ main.cryptoJobConn = none) .valueNotAllowed
  require view.referenced .writeReqRejected

/-- `handle_v1_cp2_start` -/
def handleV1Cp2Start (state : State) (conn : Conn) (sid : Bytes) (view : ControlView) :
    WriteResult × State :=
  if sid.length ≠ 16 then (.error .invalidAttributeLen, state)
  else match state.cp2StartReady conn view with
    | .error error => (.error error, state)
    | .ok _ =>
      match state.store.submitV1Cp2 state.main.transfer.ciphertext sid with
      | .error (error, store) =>
        (.error (if error = .ebusy then .procedureInProgress else .unlikely), { state with
          store
          main := { state.main with
            cryptoJobConn := none
            cryptoJobGeneration := state.main.connectionGeneration
            v1Cp2Active := false
            v1Cp2Valid := false
            transfer := { state.main.transfer with state := .ready } } })
      | .ok store =>
        (.ok (), { state with
          store
          main := { state.main with
            cryptoJobConn := some conn
            cryptoJobGeneration := state.main.connectionGeneration
            v1Cp2Active := true
            v1Cp2Valid := true
            transfer := { state.main.transfer.clearStorage with state := .cryptoBusy } }
          jobGeneration := state.main.connectionGeneration })

/-- The SEC_QUERY branch of `handle_v1_control` up to its notification. -/
def answerSecQuery (platform : Platform) (view : ControlView) : Except AttError Bytes := do
  require view.queried .cccImproperConf
  let info ← orFail .unlikely view.info
  require (info.gateOpen ∧ view.queryL4) .authentication
  let reply ← (pqV1EncodeSecInfo platform.version info).mapError fun _ ↦ .unlikely
  require view.first.l4 .authentication
  require view.sent .unlikely
  return reply

/-- `handle_v1_control` -/
def handleV1Control (platform : Platform) (state : State) (conn : Conn) (data : Bytes)
    (view : ControlView) : Output × State :=
  if view.ready ∨ (6 ≤ data.length ∧ IsApp (data.getD 5 0)) then
    answered (state.handleV1Cp4 platform conn data view)
  else match pqV1ParseFrame platform.version data with
    | .error _ => answered (.error .valueNotAllowed, state)
    | .ok (subtype, payload) =>
      if subtype = pqV1SecQuery then
        match answerSecQuery platform view with
        | .error error => answered (.error error, state)
        | .ok reply => ({ result := some (.ok ()), queued := some (conn, reply) }, state)
      else if subtype = pqV1StartCp3 then answered (state.handleV1Cp3Start platform conn data view)
      else if subtype = pqV1FinishedC then
        answered (state.handleV1Cp3FinishedC platform conn data view)
      else if subtype = pqV1Start then answered (state.handleV1Cp2Start conn payload view)
      else answered (.error .notSupported, state)

/-- The exit of `write_control` for a write that fails the security gate or has an offset. -/
def refuseControl (state : State) : State :=
  if state.main.v1Cp3State = .appSecure then state.invalidateV1Cp3 else state

/-- `pq_resume_service_abort` -/
def serviceAbort (platform : Platform) (state : State) (conn : Option Conn) (now : ℤ) : State :=
  if platform.version = Resumption.pqResumeV11 then
    { state with service := state.service.abort conn now }
  else state

/-- The state in which `write_control` hands a frame to the service. -/
def resumeReady (state : State) (conn : Conn) : Prop :=
  let main := state.main
  main.currentConn = some conn ∧ main.notifyEnabled = true ∧ main.cryptoJobConn = none ∧
    main.transfer.state ≠ .cryptoBusy ∧ main.v1Cp2Active = false ∧ main.v1Cp3WorkerActive = false ∧
    main.v1Cp3DeliveryActive = false ∧ (main.v1Cp3State = .idle ∨ main.v1Cp3State = .appSecure)

instance (state : State) (conn : Conn) : Decidable (state.resumeReady conn) :=
  inferInstanceAs (Decidable (_ ∧ _))

/-- The frames that v1.1 hands to the service. -/
def isServiceWire (data : Bytes) : Prop :=
  (4 ≤ data.length ∧ data.take 4 = Resumption.magic) ∨
    (6 ≤ data.length ∧ data.take 4 = v1Magic ∧ IsApp (data.getD 5 0))

instance (data : Bytes) : Decidable (isServiceWire data) := inferInstanceAs (Decidable (_ ∨ _))

/-- The service branch of `write_control`, one section under `protocol_lock`. -/
def handleService (platform : Platform) (state : State) (conn : Conn) (data : Bytes)
    (view : ControlView) : Output × State :=
  if state.resumeReady conn then
    let (answer, service) := Resumption.pqResumeServiceControl platform.version platform.crypto
      platform.aead state.service conn data view.control
    ({ result := some (if answer.ok then .ok () else .error .valueNotAllowed)
       queued := answer.queued.map fun wire ↦ (conn, wire) }, { state with service })
  else answered (.error .valueNotAllowed, state)

/-- The frames that v1.1 lets through to `handle_v1_control`. -/
def isFullWire (data : Bytes) : Prop :=
  8 ≤ data.length ∧ (data.getD 5 0 = pqV1SecQuery ∨ data.getD 5 0 = pqV1StartCp3 ∨
    data.getD 5 0 = pqV1FinishedC)

instance (data : Bytes) : Decidable (isFullWire data) := inferInstanceAs (Decidable (_ ∧ _))

/-- `write_control` -/
def writeControl (platform : Platform) (state : State) (conn : Conn) (data : Bytes) (offset : ℕ)
    (view : ControlView) : Output × State :=
  let resumption := platform.version = Resumption.pqResumeV11
  if view.gate.l4 = false then answered (.error .authentication, state.refuseControl)
  else if offset ≠ 0 then answered (.error .invalidOffset, state.refuseControl)
  else if resumption ∧ isServiceWire data then state.handleService platform conn data view
  else if resumption ∧ view.busy then
    answered (.error .valueNotAllowed, state.serviceAbort platform (some conn) view.uptime)
  else if resumption ∧ ¬isFullWire data then answered (.error .valueNotAllowed, state)
  else if view.application ∨ (4 ≤ data.length ∧ data.take 4 = v1Magic) then
    state.handleV1Control platform conn data view
  else answered (.error .valueNotAllowed, state)

/-- `read_public_key`; `busy` is `pq_resume_service_busy`. -/
def readPublicKey (platform : Platform) (state : State) (busy : Bool) (view : LinkView) :
    WriteResult := do
  require (platform.version ≠ Resumption.pqResumeV11 ∨ busy = false) .valueNotAllowed
  require view.l4 .authentication
  require state.store.keypairReady .unlikely

/-- `write_secure_data`: v1.1 refuses it, and v1.0 finds no Phase 5 or Phase 7 state that takes it. -/
def writeSecureData (platform : Platform) (state : State) (conn : Conn) (data : Bytes) (offset : ℕ)
    (view : LinkView) : WriteResult := do
  require (platform.version ≠ Resumption.pqResumeV11) .writeNotPermitted
  require view.l4 .authentication
  require (offset = 0) .invalidOffset
  require (pqSecureFixedOverhead ≤ data.length ∧ data.length ≤ pqSecureMaxWireSize)
    .invalidAttributeLen
  require (state.main.currentConn = some conn) .writeReqRejected
  require state.main.notifyEnabled .cccImproperConf
  throw .writeReqRejected

/-- `write_ciphertext` -/
def writeCiphertext (platform : Platform) (state : State) (conn : Conn) (data : Bytes) (offset : ℕ)
    (busy : Bool) (view : LinkView) : WriteResult × State :=
  if platform.version = Resumption.pqResumeV11 ∧ busy then (.error .valueNotAllowed, state)
  else if view.l4 = false then (.error .authentication, state)
  else match parseFragment data offset with
    | .error error => (.error error, state)
    | .ok fragment =>
      let main := state.main
      if main.currentConn ≠ some conn then (.error .writeReqRejected, state)
      else if main.v1Cp3State ≠ .idle ∨ main.v1Cp3WorkerActive ∨ main.v1Cp3DeliveryActive then
        (.error .procedureInProgress, state)
      else
        let (result, transfer) := main.transfer.write fragment
        (result, { state with main := { main with transfer } })

/-! ## Link callbacks -/

/-- `ccc_config_changed` -/
def cccConfigChanged (platform : Platform) (state : State) (enabled : Bool) (now : ℤ) : State :=
  let state := { state with main := { state.main with notifyEnabled := enabled } }
  if enabled then state
  else (state.serviceAbort platform state.main.currentConn now).invalidateV1Cp2.invalidateV1Cp3

/-- `read_v1_ccc` and `validate_v1_ccc`: the gate of a descriptor access. -/
def gateCcc (view : LinkView) : WriteResult := require view.l4 .authentication

/-- A write of the descriptor: the stack stores the value and calls `ccc_config_changed`. -/
def writeCcc (platform : Platform) (state : State) (enabled : Bool) (view : LinkView) :
    WriteResult × State :=
  match gateCcc view with
  | .error error => (.error error, state)
  | .ok _ => (.ok (), state.cccConfigChanged platform enabled view.uptime)

/-- `v1_cp2_security_changed` after its abort. -/
def v1Cp2SecurityChanged (state : State) (conn : Conn) (secured : Bool) : State :=
  if secured ∨ state.main.currentConn ≠ some conn then state
  else
    let state := state.invalidateV1Cp2.invalidateV1Cp3
    let transfer := state.main.transfer.clearStorage
    { state with main := { state.main with
        transfer := if state.main.v1Cp2Active then transfer else { transfer with state := .empty } } }

/-- `connected` with a referenced connection object. -/
def connected (platform : Platform) (state : State) (conn : Conn) (bonded : Bool) (clock now : ℤ) :
    State :=
  let state := { state with
    main := { state.main with currentConn := some conn }
    service := if platform.version = Resumption.pqResumeV11 then
        state.service.connected platform.version conn bonded clock now
      else state.service }
  let state := state.invalidateV1Cp2.invalidateV1Cp3
  let main := state.main
  let transfer :=
    if main.v1Cp2Active = false ∧ main.v1Cp3WorkerActive = false ∧
        main.v1Cp3DeliveryActive = false then { main.transfer with state := .empty }
    else main.transfer
  { state with main := { main with
      v1Cp3State := .idle
      connectionGeneration := main.connectionGeneration + 1
      notifyEnabled := false
      transfer := if transfer.state ≠ .cryptoBusy then transfer.reset else transfer } }

/-- The section of `disconnected` for the current connection. -/
def disconnectCurrent (platform : Platform) (state : State) (conn : Conn) (now : ℤ) : State :=
  let state := { state with
    service := if platform.version = Resumption.pqResumeV11 then state.service.disconnected conn now
      else state.service }
  let state := state.invalidateV1Cp2.invalidateV1Cp3
  let main := state.main
  let transfer := main.transfer.clearStorage
  { state with main := { main with
      v1Cp3State := .idle
      currentConn := none
      connectionGeneration := main.connectionGeneration + 1
      notifyEnabled := false
      transfer := if transfer.state ≠ .cryptoBusy then { transfer with state := .empty }
        else transfer } }

/-- `disconnected` -/
def disconnected (platform : Platform) (state : State) (conn : Conn) (now : ℤ) : State :=
  let state :=
    if state.main.currentConn = some conn then state.disconnectCurrent platform conn now else state
  { state with main := { state.main with
      cryptoJobConn :=
        if state.main.cryptoJobConn = some conn then none else state.main.cryptoJobConn } }

end State

end PqBleHandshake.FirmwareV1
