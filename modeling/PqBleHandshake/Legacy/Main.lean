import PqBleHandshake.Handshake.Phase5
import PqBleHandshake.Legacy.Session
import PqBleHandshake.Resumption.Service
import PqBleHandshake.SecureChannel

/-!
# The protocol state of v0.7 and v0.8 and its handlers

The part of `main.c` that the two hybrid profiles use; `version` is `PQ_APP_VERSION`.  A section under
`protocol_lock` is one step.  The Bluetooth host runs one callback at a time: what a callback still
has to do after its first section is a list of tasks, and the crypto worker may run between any two of
them.  The frame parsers in front of the handlers, the security gate (always open in these profiles) and
the reference counts are left out.

The outbox, the generations of the jobs, the epoch of the job that the worker took and the traffic keys
installed last are bookkeeping that no code reads.
-/

namespace PqBleHandshake.Legacy

open Foundation

/-- `enum phase5_state` -/
inductive Phase5State
  | idle | cryptoBusy | waitFinishedC | finishedBusy | authenticated | dataBusy | phase6RxBusy
deriving DecidableEq, Repr

/-- `enum phase7_state` -/
inductive Phase7State
  | idle | cryptoBusy | waitFinishedC | finishedBusy | authenticated | dataBusy
deriving DecidableEq, Repr

/-- The file-scope state of `main.c`; the generations are counted without wrapping. -/
structure Main where
  currentConn : Option Conn
  cryptoJobConn : Option Conn
  connectionGeneration : ℕ
  cryptoJobGeneration : ℕ
  notifyEnabled : Bool
  transfer : Transfer
  phase5State : Phase5State
  phase7State : Phase7State
deriving DecidableEq

/-- The protocol state at boot. -/
def Main.boot : Main where
  currentConn := none
  cryptoJobConn := none
  connectionGeneration := 0
  cryptoJobGeneration := 0
  notifyEnabled := false
  transfer := Transfer.zero
  phase5State := .idle
  phase7State := .idle

/-- What the worker copies out of the store for one application frame of Phase 7. -/
structure AppSnapshot where
  keys : Phase7TrafficKeys
  sid : Block 16
  last : Option UInt64
  sendSeq : UInt64
  wire : Bytes
deriving DecidableEq

/-- What the worker copies out of the store for one application frame of Phase 6: before the first frame the root
of Phase 5 and its session id, afterwards the retained keys and counters. -/
structure Phase6Snapshot where
  active : Bool
  keys : Phase7TrafficKeys
  application : Block 32
  sid : Block 16
  last : Option UInt64
  sendSeq : UInt64
  wire : Bytes
deriving DecidableEq

/-- Where the worker thread stands: between jobs, inside a job, or inside the result callback.  A
constructor carries the local variables that the rest of the job uses; in the callback `conn` is the
reference taken from `crypto_job_conn`. -/
inductive Worker
  | idle
  | decapsulate (mode : JobMode) (epoch : ℕ)
  | finished7 (epoch : ℕ) (keys : Phase7Keys) (hash received : Block 32)
  | app7 (epoch : ℕ) (snapshot : AppSnapshot)
  | finished5 (epoch : ℕ) (keys : Phase7Keys) (hash received : Block 32)
  | data5 (epoch : ℕ) (key : Block 32) (sid : Block 16)
  | app6 (epoch : ℕ) (snapshot : Phase6Snapshot)
  | jobDone (mode : JobMode) (epoch : ℕ) (status : JobStatus) (wire : Bytes)
  | callback (mode : JobMode) (status : JobStatus) (wire : Bytes)
  | deliver (mode : JobMode) (valid : Bool) (status : JobStatus) (wire : Bytes) (conn : Conn)
  | ready7 (conn : Conn)
  | commit7 (conn : Conn)
  | promoted7 (conn : Conn)
  | failed7 (conn : Conn)
  | reset7
  | failed5 (conn : Conn)
  | reset5
deriving DecidableEq

/-- What a callback of the Bluetooth host has left to do. -/
inductive HostTask
  | resetPhase5
  | resetPhase7
  | phase7Idle
  | offsetSection (conn : Conn)
deriving DecidableEq, Repr

/-- The firmware; v0.7 never touches the service.  `crc` is the variable of the worker's loop. -/
structure State where
  main : Main
  store : Store
  service : Resumption.Service
  worker : Worker
  host : List HostTask
  outbox : List (Conn × Bytes)
  crc : UInt32
  jobGeneration : ℕ
  workerGeneration : ℕ
  workerEpoch : ℕ
  installed : Phase7TrafficKeys
deriving DecidableEq

/-- The firmware when Bluetooth starts. -/
def State.boot : State where
  main := .boot
  store := .boot
  service := .zero
  worker := .idle
  host := []
  outbox := []
  crc := 0
  jobGeneration := 0
  workerGeneration := 0
  workerEpoch := 0
  installed := zeroTrafficKeys

/-- The libraries and the key pair of one boot. -/
structure Platform where
  version : UInt8
  crypto : Crypto
  aead : Aead
  publicKey : Bytes
  decaps : Bytes → Option (Block 32)

/-- The build has the resumption service. -/
def Platform.resumption (platform : Platform) : Prop := platform.version = Resumption.pqResumeV08

instance (platform : Platform) : Decidable platform.resumption := inferInstanceAs (Decidable (_ = _))

/-- The answer of an attribute callback: an ATT error, or success. -/
abbrev WriteResult := Except AttError Unit

/-! ## Write handlers -/

namespace State

/-- A handler that found the worker's slot free takes a reference for the job it submits. -/
def takeSlot (state : State) (conn : Conn) : State :=
  { state with
    main := { state.main with
      cryptoJobConn := some conn
      cryptoJobGeneration := state.main.connectionGeneration
      transfer := { state.main.transfer with state := .cryptoBusy } } }

/-- The submission went through: the generation that made it is recorded. -/
def submitted (state : State) (store : Store) : State :=
  { state with store, jobGeneration := state.main.connectionGeneration }

/-- The submission of `handle_start`, by its mode. -/
def submitStart (store : Store) (mode : JobMode) (ct : Bytes) (sid : Block 16) (centralKey : Bytes) :
    Except (Errno × Store) Store :=
  if mode = .phase7AuthStart then store.submitPhase7Auth ct sid centralKey
  else store.submitJob mode ct sid centralKey

/-- The checks of `handle_start`; `mtu` is `bt_gatt_get_mtu`. -/
def startReady (state : State) (conn : Conn) (mode : JobMode) (mtu : ℕ) : Except AttError Unit := do
  let main := state.main
  require (main.currentConn = some conn) .writeReqRejected
  require state.store.keypairReady .unlikely
  require main.notifyEnabled .cccImproperConf
  require (mode = .phase7HybridCp2 → 108 ≤ mtu) .invalidAttributeLen
  require (main.phase5State = .idle) .procedureInProgress
  require (main.phase7State = .idle) .procedureInProgress
  require (main.transfer.state ≠ .cryptoBusy) .procedureInProgress
  require (main.transfer.state = .ready) .valueNotAllowed
  require (main.cryptoJobConn = none) .unlikely

/-- `handle_start` -/
def handleStart (state : State) (conn : Conn) (mode : JobMode) (sid : Block 16) (centralKey : Bytes)
    (mtu : ℕ) : WriteResult × State :=
  match state.startReady conn mode mtu with
  | .error error => (.error error, state)
  | .ok _ =>
    match submitStart state.store mode state.main.transfer.ciphertext sid centralKey with
    | .error (error, store) =>
      let main := { state.main with
        cryptoJobGeneration := state.main.connectionGeneration
        transfer := { state.main.transfer with state := .ready } }
      (.error (if error = .ebusy then .procedureInProgress else .unlikely), { state with store, main })
    | .ok store =>
      let state := (state.takeSlot conn).submitted store
      (.ok (), { state with main := { state.main with
        phase7State := if mode = .phase7AuthStart then .cryptoBusy else state.main.phase7State
        phase5State := if mode = .phase5Start then .cryptoBusy else state.main.phase5State
        transfer := state.main.transfer.clearStorage } })

/-- The state `handle_phase5_worker_command` expects. -/
def expectedPhase5 (mode : JobMode) : Phase5State :=
  if mode = .phase5FinishedC then .waitFinishedC else .authenticated

/-- The state `handle_phase5_worker_command` enters. -/
def busyPhase5 (mode : JobMode) : Phase5State :=
  if mode = .phase5FinishedC then .finishedBusy else .dataBusy

/-- `handle_phase5_worker_command`, for FINISHED_C and DATA_REQUEST. -/
def handlePhase5WorkerCommand (state : State) (conn : Conn) (mode : JobMode) (payload : Block 32) :
    WriteResult × State :=
  let main := state.main
  if mode ≠ .phase5FinishedC ∧ mode ≠ .phase5Data then (.error .valueNotAllowed, state)
  else if main.currentConn ≠ some conn ∨ main.notifyEnabled = false then
    (.error .writeReqRejected, state)
  else if main.phase5State ≠ expectedPhase5 mode ∨ main.cryptoJobConn ≠ none then
    (.error .valueNotAllowed, state)
  else
    match state.store.submitPhase5Command mode payload with
    | .error (error, store) =>
      let main := { main with
        cryptoJobGeneration := main.connectionGeneration
        transfer := { main.transfer with state := .empty } }
      (.error (if error = .ebusy then .procedureInProgress else .valueNotAllowed), { state with store, main })
    | .ok store =>
      let state := (state.takeSlot conn).submitted store
      (.ok (), { state with main := { state.main with phase5State := busyPhase5 mode } })

/-- `handle_phase7_finished_c` -/
def handlePhase7FinishedC (state : State) (conn : Conn) (payload : Block 32) : WriteResult × State :=
  let main := state.main
  if main.currentConn ≠ some conn ∨ main.notifyEnabled = false then
    (.error .writeReqRejected, state)
  else if main.phase7State ≠ .waitFinishedC ∨ main.cryptoJobConn ≠ none then
    (.error .valueNotAllowed, state)
  else
    match state.store.submitPhase7FinishedC payload with
    | .error (error, store) =>
      let main := { main with
        cryptoJobGeneration := main.connectionGeneration
        transfer := { main.transfer with state := .empty } }
      (.error (if error = .ebusy then .procedureInProgress else .valueNotAllowed), { state with store, main })
    | .ok store =>
      let state := (state.takeSlot conn).submitted store
      (.ok (), { state with main := { state.main with phase7State := .finishedBusy } })

/-- The checks of `write_secure_data`; the answer is `use_phase7`. -/
def secureDataReady (state : State) (conn : Conn) (data : Bytes) (offset : ℕ) :
    Except AttError Bool := do
  let main := state.main
  require (offset = 0) .invalidOffset
  require (pqSecureFixedOverhead ≤ data.length ∧ data.length ≤ pqSecureMaxWireSize)
    .invalidAttributeLen
  require (main.currentConn = some conn) .writeReqRejected
  require main.notifyEnabled .cccImproperConf
  require (main.phase7State = .authenticated ∨ main.phase7State = .idle) .writeReqRejected
  require (main.phase7State = .authenticated ∨ main.phase5State = .authenticated) .writeReqRejected
  require (main.cryptoJobConn = none ∧ main.transfer.state ≠ .cryptoBusy) .procedureInProgress
  return main.phase7State = .authenticated

/-- `write_secure_data` -/
def writeSecureData (state : State) (conn : Conn) (data : Bytes) (offset : ℕ) : WriteResult × State :=
  match state.secureDataReady conn data offset with
  | .error error => (.error error, state)
  | .ok usePhase7 =>
    match if usePhase7 then state.store.submitPhase7C2p data else state.store.submitPhase6C2p data with
    | .error (error, store) =>
      let main := { state.main with
        cryptoJobGeneration := state.main.connectionGeneration
        transfer := { state.main.transfer with state := .empty } }
      (.error (if error = .ebusy then .procedureInProgress else .writeReqRejected), { state with store, main })
    | .ok store =>
      let state := (state.takeSlot conn).submitted store
      (.ok (), { state with main := { state.main with
        phase7State := if usePhase7 then .dataBusy else state.main.phase7State
        phase5State := if usePhase7 then state.main.phase5State else .phase6RxBusy } })

/-- `write_ciphertext` after its header checks. -/
def writeCiphertext (state : State) (conn : Conn) (fragment : Fragment) : WriteResult × State :=
  let main := state.main
  if main.currentConn ≠ some conn then (.error .writeReqRejected, state)
  else if main.phase5State ≠ .idle ∨ main.phase7State ≠ .idle then
    (.error .procedureInProgress, state)
  else
    let (result, transfer) := main.transfer.write fragment
    (result, { state with main := { main with transfer } })

/-! ## The control branches of v0.8 -/

/-- `pq_mlkem_session_reset_phase7` with its caller's `phase7_state = PHASE7_STATE_IDLE`. -/
def resetToIdle (state : State) : State :=
  { state with
    store := state.store.resetPhase7
    main := { state.main with phase7State := .idle } }

/-- The state in which `write_control` hands a frame to the service. -/
def resumeReady (state : State) (conn : Conn) : Prop :=
  let main := state.main
  main.currentConn = some conn ∧ main.notifyEnabled = true ∧ main.cryptoJobConn = none ∧
    main.transfer.state ≠ .cryptoBusy ∧
    (main.phase7State = .idle ∨ main.phase7State = .authenticated)

instance (state : State) (conn : Conn) : Decidable (state.resumeReady conn) :=
  inferInstanceAs (Decidable (_ ∧ _))

/-- The keys a committed resumption hands to the data path, and what becomes of them. -/
def installResumed (platform : Platform) (state : State) (conn : Conn) (view : LinkView) (now : ℤ) :
    WriteResult × State :=
  match Resumption.pqResumeServiceTakeHybrid platform.version state.service view with
  | (none, service) => (.ok (), { state with service })
  | (some keys, service) =>
    let traffic : Phase7TrafficKeys := ⟨keys.c2p, keys.p2c⟩
    match state.store.installPhase8Application traffic keys.sid with
    | .error _ =>
      (.error .valueNotAllowed, { state with service := service.abort (some conn) now })
    | .ok store =>
      (.ok (), { state with
        store, service, installed := traffic
        main := { state.main with phase7State := .authenticated } })

/-- The resume branch of `write_control`, one section under `protocol_lock`. -/
def handleResume (platform : Platform) (state : State) (conn : Conn) (data : Bytes)
    (input : Resumption.ControlInput) (view : LinkView) : WriteResult × State :=
  if state.resumeReady conn then
    let state := state.resetToIdle
    let (answer, service) := Resumption.pqResumeServiceControl platform.version platform.crypto
      platform.aead state.service conn data input
    let state := { state with
      service, outbox := (answer.queued.map fun wire ↦ (conn, wire)).toList ++ state.outbox }
    if answer.ok then state.installResumed platform conn view view.uptime
    else (.error .valueNotAllowed, state)
  else (.error .valueNotAllowed, state)

/-- A frame of the full handshake while the service is busy: the service gives up, and the resets
follow. -/
def abortBusy (state : State) (conn : Conn) (now : ℤ) : State :=
  { state with
    service := state.service.abort (some conn) now
    host := [.resetPhase7, .phase7Idle] }

/-- A control write with an offset. -/
def abortOffset (state : State) (conn : Conn) (now : ℤ) : State :=
  { state with
    service := state.service.abort (some conn) now
    host := [.offsetSection conn] }

/-! ## Link callbacks -/

/-- The first section of `ccc_config_changed`. -/
def cccConfigChanged (platform : Platform) (state : State) (enabled : Bool) (now : ℤ) : State :=
  let main := state.main
  if enabled then { state with main := { main with notifyEnabled := true } }
  else
    { state with
      main := { main with notifyEnabled := false, phase5State := .idle, phase7State := .idle }
      service := if platform.resumption then state.service.abort main.currentConn now
        else state.service
      host := (if main.phase5State ≠ .idle then [.resetPhase5] else []) ++
        if main.phase7State ≠ .idle then [.resetPhase7] else [] }

/-- The first section of `connected`, with a referenced connection object. -/
def connected (platform : Platform) (state : State) (conn : Conn) (clock now : ℤ) : State :=
  let main := state.main
  { state with
    main := { main with
      currentConn := some conn
      connectionGeneration := main.connectionGeneration + 1
      notifyEnabled := false
      phase5State := .idle
      phase7State := .idle
      transfer := if main.transfer.state ≠ .cryptoBusy then main.transfer.reset else main.transfer }
    service := if platform.resumption then
        state.service.connected platform.version conn false clock now
      else state.service
    host := [.resetPhase5, .resetPhase7] }

/-- The section of `disconnected` for the current connection. -/
def disconnectCurrent (platform : Platform) (state : State) (conn : Conn) (now : ℤ) : State :=
  let main := state.main
  let transfer := main.transfer.clearStorage
  { state with
    main := { main with
      currentConn := none
      connectionGeneration := main.connectionGeneration + 1
      notifyEnabled := false
      phase5State := .idle
      phase7State := .idle
      transfer := if transfer.state ≠ .cryptoBusy then { transfer with state := .empty }
        else transfer }
    service := if platform.resumption then state.service.disconnected conn now else state.service
    host := [.resetPhase5, .resetPhase7] }

/-- The first section of `disconnected`. -/
def disconnected (platform : Platform) (state : State) (conn : Conn) (now : ℤ) : State :=
  let state :=
    if state.main.currentConn = some conn then state.disconnectCurrent platform conn now else state
  if state.main.cryptoJobConn = some conn then
    { state with
      main := { state.main with cryptoJobConn := none }
      host := [.resetPhase5, .resetPhase7] }
  else state

/-- The next task of a host callback. -/
def hostStep (state : State) : Option State :=
  match state.host with
  | [] => none
  | .resetPhase5 :: rest => some { state with store := state.store.resetPhase5, host := rest }
  | .resetPhase7 :: rest => some { state with store := state.store.resetPhase7, host := rest }
  | .phase7Idle :: rest =>
    some { state with main := { state.main with phase7State := .idle }, host := rest }
  | .offsetSection conn :: rest =>
    some { (if state.main.currentConn = some conn then state.resetToIdle else state) with host := rest }

/-! ## What a write does

A write is refused, which leaves the states and the store alone, or submits one job. -/

/-- A refused write may only touch the transfer and the generation of the next job; it frees a busy
transfer only where a protocol is under way without a job. -/
def Refused (state next : State) : Prop :=
  ∃ generation transfer, next = { state with
      main := { state.main with cryptoJobGeneration := generation, transfer } } ∧
    (state.main.transfer.state = .cryptoBusy → transfer.state = .cryptoBusy ∨
      state.main.cryptoJobConn = none ∧
        (state.main.phase7State ≠ .idle ∨ state.main.phase5State ≠ .idle))

theorem Refused.refl (state : State) : state.Refused state := ⟨_, _, rfl, .inl⟩

/-- The state after a write that submitted a job. -/
def accepted (state : State) (conn : Conn) (store : Store) (phase5 : Phase5State) (phase7 : Phase7State)
    (transfer : Transfer) : State :=
  { state with
    store
    jobGeneration := state.main.connectionGeneration
    main := { state.main with
      cryptoJobConn := some conn
      cryptoJobGeneration := state.main.connectionGeneration
      phase5State := phase5
      phase7State := phase7
      transfer } }

/-- A job can be submitted: the link is current and subscribed, and no job waits for its delivery. -/
def Free (state : State) (conn : Conn) : Prop :=
  state.main.currentConn = some conn ∧ state.main.notifyEnabled = true ∧
    state.main.cryptoJobConn = none ∧ state.store.jobPending = false ∧ state.store.jobActive = false

variable {platform : Platform} {state : State} {conn : Conn} {mode : JobMode} {sid : Block 16}
  {centralKey data : Bytes} {mtu offset : ℕ} {payload : Block 32} {fragment : Fragment}

theorem startReady_eq_ok_iff {value : Unit} :
    state.startReady conn mode mtu = .ok value ↔
      state.main.currentConn = some conn ∧ state.store.keypairReady = true ∧
        state.main.notifyEnabled = true ∧ (mode = .phase7HybridCp2 → 108 ≤ mtu) ∧
        state.main.phase5State = .idle ∧ state.main.phase7State = .idle ∧
        state.main.transfer.state = .ready ∧ state.main.cryptoJobConn = none := by
  simp only [startReady, except_bind_eq_ok_iff, require_eq_ok_iff, exists_const]
  constructor
  · rintro ⟨hconn, hkey, hnotify, hmtu, hphase5, hphase7, -, hready, hjob⟩
    exact ⟨hconn, hkey, hnotify, hmtu, hphase5, hphase7, hready, hjob⟩
  · rintro ⟨hconn, hkey, hnotify, hmtu, hphase5, hphase7, hready, hjob⟩
    exact ⟨hconn, hkey, hnotify, hmtu, hphase5, hphase7, by simp [hready], hready, hjob⟩

theorem submitStart_failsIn {store : Store} {ct : Bytes} :
    FailsIn store (submitStart store mode ct sid centralKey) := by
  unfold submitStart
  split
  · exact submitPhase7Auth_failsIn
  · exact submitJob_failsIn

theorem submitStart_eq_ok {store store' : Store} {ct : Bytes}
    (h : submitStart store mode ct sid centralKey = .ok store') :
    store.jobPending = false ∧ store.jobActive = false ∧
      (mode = .phase7AuthStart ∧ store' = { store.resetPhase5.resetPhase7 with
          ciphertextJob := ct, sessionIdJob := sid, phase7CentralPublicKeyJob := centralKey
          pendingJobMode := .phase7AuthStart, pendingPhase7Epoch := store.phase7Epoch + 1
          jobPending := true } ∨
        mode ≠ .phase7AuthStart ∧ store' = store.queueJob mode ct sid centralKey) := by
  unfold submitStart at h
  split_ifs at h with hmode
  · obtain ⟨⟨-, -, -, hpending, hactive⟩, rfl⟩ := submitPhase7Auth_eq_ok_iff.mp h
    exact ⟨hpending, hactive, .inl ⟨hmode, rfl⟩⟩
  · obtain ⟨⟨-, hpending, hactive⟩, rfl⟩ := submitJob_eq_ok h
    exact ⟨hpending, hactive, .inr ⟨hmode, rfl⟩⟩

/-- A START is refused with an error, or submits its job. -/
theorem handleStart_answer_cases :
    ((state.handleStart conn mode sid centralKey mtu).1 ≠ .ok () ∧
        state.Refused (state.handleStart conn mode sid centralKey mtu).2) ∨
      (state.handleStart conn mode sid centralKey mtu).1 = .ok () ∧
        state.Free conn ∧ state.main.transfer.state = .ready ∧ state.main.phase5State = .idle ∧
        state.main.phase7State = .idle ∧
        ∃ store, submitStart state.store mode state.main.transfer.ciphertext sid centralKey = .ok store ∧
          (state.handleStart conn mode sid centralKey mtu).2 = state.accepted conn store
            (if mode = .phase5Start then .cryptoBusy else .idle)
            (if mode = .phase7AuthStart then .cryptoBusy else .idle)
            { state.main.transfer.clearStorage with state := .cryptoBusy } := by
  unfold handleStart
  split
  · exact .inl ⟨nofun, .refl state⟩
  rename_i hready
  obtain ⟨hconn, -, hnotify, -, hphase5, hphase7, htransfer, hjob⟩ := startReady_eq_ok_iff.mp hready
  split
  · rename_i store hsubmit
    obtain rfl := submitStart_failsIn _ store hsubmit
    exact .inl ⟨nofun, _, _, rfl, fun hbusy ↦ absurd (htransfer.symm.trans hbusy) nofun⟩
  rename_i store hsubmit
  obtain ⟨hpending, hactive, -⟩ := submitStart_eq_ok hsubmit
  refine .inr ⟨rfl, ⟨hconn, hnotify, hjob, hpending, hactive⟩, htransfer, hphase5, hphase7, store, hsubmit,
    ?_⟩
  simp only [accepted, submitted, takeSlot, hphase5, hphase7, Transfer.clearStorage]

theorem handleStart_cases :
    state.Refused (state.handleStart conn mode sid centralKey mtu).2 ∨
      state.Free conn ∧ state.main.transfer.state = .ready ∧ state.main.phase5State = .idle ∧
        state.main.phase7State = .idle ∧
        ∃ store, submitStart state.store mode state.main.transfer.ciphertext sid centralKey = .ok store ∧
          (state.handleStart conn mode sid centralKey mtu).2 = state.accepted conn store
            (if mode = .phase5Start then .cryptoBusy else .idle)
            (if mode = .phase7AuthStart then .cryptoBusy else .idle)
            { state.main.transfer.clearStorage with state := .cryptoBusy } :=
  handleStart_answer_cases.imp And.right And.right

theorem handlePhase5WorkerCommand_cases :
    state.Refused (state.handlePhase5WorkerCommand conn mode payload).2 ∨
      state.Free conn ∧ state.main.phase5State = expectedPhase5 mode ∧
        (mode = .phase5FinishedC ∨ mode = .phase5Data) ∧
        ∃ store, state.store.submitPhase5Command mode payload = .ok store ∧
          (state.handlePhase5WorkerCommand conn mode payload).2 = state.accepted conn store
            (busyPhase5 mode) state.main.phase7State
            { state.main.transfer with state := .cryptoBusy } := by
  unfold handlePhase5WorkerCommand
  dsimp only
  split_ifs with hmode hconn hstate
  · exact .inl (.refl state)
  · exact .inl (.refl state)
  · exact .inl (.refl state)
  push Not at hconn hstate hmode
  split
  · rename_i store hsubmit
    obtain rfl := submitPhase5Command_failsIn _ store hsubmit
    refine .inl ⟨_, _, rfl, fun _ ↦ .inr ⟨hstate.2, .inr ?_⟩⟩
    rw [hstate.1, expectedPhase5]
    split_ifs <;> exact nofun
  rename_i store hsubmit
  obtain ⟨⟨-, hpending, hactive, -⟩, -⟩ := submitPhase5Command_eq_ok hsubmit
  refine .inr ⟨⟨hconn.1, by simpa using hconn.2, hstate.2, hpending, hactive⟩, hstate.1, ?_, store,
    hsubmit, rfl⟩
  exact or_iff_not_imp_left.mpr hmode

theorem handlePhase7FinishedC_cases :
    state.Refused (state.handlePhase7FinishedC conn payload).2 ∨
      state.Free conn ∧ state.main.phase7State = .waitFinishedC ∧
        ∃ store, state.store.submitPhase7FinishedC payload = .ok store ∧
          (state.handlePhase7FinishedC conn payload).2 = state.accepted conn store
            state.main.phase5State .finishedBusy { state.main.transfer with state := .cryptoBusy } := by
  unfold handlePhase7FinishedC
  dsimp only
  split_ifs with hconn hstate
  · exact .inl (.refl state)
  · exact .inl (.refl state)
  push Not at hconn hstate
  split
  · rename_i store hsubmit
    obtain rfl := submitPhase7FinishedC_failsIn _ store hsubmit
    exact .inl ⟨_, _, rfl, fun _ ↦ .inr ⟨hstate.2, .inl (by rw [hstate.1]; exact nofun)⟩⟩
  rename_i store hsubmit
  obtain ⟨⟨-, -, hpending, hactive⟩, -⟩ := submitPhase7FinishedC_eq_ok_iff.mp hsubmit
  exact .inr ⟨⟨hconn.1, by simpa using hconn.2, hstate.2, hpending, hactive⟩, hstate.1, store, hsubmit,
    rfl⟩

theorem secureDataReady_eq_ok_iff {usePhase7 : Bool} :
    state.secureDataReady conn data offset = .ok usePhase7 ↔
      (offset = 0 ∧ pqSecureFixedOverhead ≤ data.length ∧ data.length ≤ pqSecureMaxWireSize ∧
        state.main.currentConn = some conn ∧ state.main.notifyEnabled = true ∧
        state.main.cryptoJobConn = none ∧ state.main.transfer.state ≠ .cryptoBusy) ∧
      (state.main.phase7State = .authenticated ∧ usePhase7 = true ∨
        state.main.phase7State = .idle ∧ state.main.phase5State = .authenticated ∧
          usePhase7 = false) := by
  simp only [secureDataReady, except_bind_eq_ok_iff, require_eq_ok_iff, exists_const]
  cases hphase7 : state.main.phase7State <;> cases usePhase7 <;>
    simp [pure, Except.pure, and_assoc, and_comm, and_left_comm]

theorem writeSecureData_cases :
    state.Refused (state.writeSecureData conn data offset).2 ∨
      state.Free conn ∧ (state.main.phase7State = .authenticated ∧
          (∃ store, state.store.submitPhase7C2p data = .ok store ∧
            (state.writeSecureData conn data offset).2 = state.accepted conn store
              state.main.phase5State .dataBusy { state.main.transfer with state := .cryptoBusy }) ∨
        state.main.phase7State = .idle ∧ state.main.phase5State = .authenticated ∧
          ∃ store, state.store.submitPhase6C2p data = .ok store ∧
            (state.writeSecureData conn data offset).2 = state.accepted conn store
              .phase6RxBusy .idle { state.main.transfer with state := .cryptoBusy }) := by
  unfold writeSecureData
  split
  · exact .inl (.refl state)
  rename_i usePhase7 hready
  obtain ⟨⟨-, -, -, hconn, hnotify, hjob, hfree⟩, ⟨hphase7, rfl⟩ | ⟨hphase7, hphase5, rfl⟩⟩ :=
    secureDataReady_eq_ok_iff.mp hready
  · simp only [if_true]
    split
    · rename_i store hsubmit
      obtain rfl := submitPhase7C2p_failsIn _ store hsubmit
      exact .inl ⟨_, _, rfl, fun hbusy ↦ absurd hbusy hfree⟩
    rename_i store hsubmit
    obtain ⟨⟨-, -, -, -, -, hpending, hactive⟩, -⟩ := submitPhase7C2p_eq_ok_iff.mp hsubmit
    exact .inr ⟨⟨hconn, hnotify, hjob, hpending, hactive⟩, .inl ⟨hphase7, store, hsubmit, rfl⟩⟩
  · simp only [Bool.false_eq_true, if_false]
    split
    · rename_i store hsubmit
      obtain rfl := submitPhase6C2p_failsIn _ store hsubmit
      exact .inl ⟨_, _, rfl, fun hbusy ↦ absurd hbusy hfree⟩
    rename_i store hsubmit
    obtain ⟨⟨-, hpending, hactive, -⟩, -⟩ := submitPhase6C2p_eq_ok hsubmit
    refine .inr ⟨⟨hconn, hnotify, hjob, hpending, hactive⟩, .inr ⟨hphase7, hphase5, store, hsubmit, ?_⟩⟩
    simp only [accepted, submitted, takeSlot, hphase7]

theorem writeCiphertext_refused : state.Refused (state.writeCiphertext conn fragment).2 := by
  unfold writeCiphertext
  dsimp only
  split_ifs
  · exact .refl state
  · exact .refl state
  · exact ⟨_, _, rfl, fun hbusy ↦ .inl ((Transfer.write_state_iff _ _).mpr hbusy)⟩

end State

end PqBleHandshake.Legacy
