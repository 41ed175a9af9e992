import PqBleHandshake.FirmwareV1.Worker

/-!
# The moves of the protocol core

The handshake and the v1.0 application channel live in a part of the firmware state, its `Core`.
`Move` lists once what a step can do to the core, with the checks that the step made; the invariants of
the following modules are proved by cases on it.  `move_step` shows that every step of the firmware is
a move, under every interleaving.
-/

namespace PqBleHandshake.FirmwareV1

open Foundation

/-- The part of the state that the handshake and the application channel depend on. -/
@[ext]
structure Core where
  state : Cp3State
  workerActive : Bool
  deliveryActive : Bool
  generation : ℕ
  store : Store
  worker : Worker
  ledger : List Installation
  attempt : Option Attempt
  jobResets : ℕ

/-- The store without the bookkeeping of CP2 jobs. -/
def Store.withoutCp2 (store : Store) : Store :=
  { store with v1Cp2Epoch := 0, pendingV1Cp2Epoch := 0, sessionIdJob := [] }

/-- The protocol core of a state. -/
def State.core (state : State) : Core where
  state := state.main.v1Cp3State
  workerActive := state.main.v1Cp3WorkerActive
  deliveryActive := state.main.v1Cp3DeliveryActive
  generation := state.main.connectionGeneration
  store := state.store.withoutCp2
  worker := state.worker
  ledger := state.ledger
  attempt := state.attempt
  jobResets := state.jobResets

namespace Worker

/-- The job that the worker runs, with its epoch, before `job_done`. -/
@[simp]
def running : Worker → Option (JobMode × ℕ)
  | .startResult epoch => some (.v1Cp3, epoch)
  | .finishedTake epoch => some (.v1Cp3FinishedC, epoch)
  | .finishedStore epoch _ => some (.v1Cp3FinishedC, epoch)
  | .cp4Live epoch => some (.v1Cp4C2p, epoch)
  | .cp4Snapshot epoch => some (.v1Cp4C2p, epoch)
  | .cp4Recheck epoch _ _ => some (.v1Cp4C2p, epoch)
  | .cp4Encrypt epoch _ _ => some (.v1Cp4C2p, epoch)
  | .cp4Ready epoch _ => some (.v1Cp4C2p, epoch)
  | _ => none

/-- The worker is inside a CP2 job or its callback. -/
def isCp2 : Worker → Bool
  | .cp2Result _ | .jobDone .v1Cp2 _ _ _ | .cp2Callback _ _ | .cp2Check _ _ _ _ _ | .cp2Send _ _ _
  | .cp2Settle | .cp2Release => true
  | _ => false

end Worker

/-- The callback that a job ends with. -/
def JobMode.callback (status : JobStatus) (wire : Bytes) : JobMode → Worker
  | .v1Cp2 => .cp2Callback status wire
  | .v1Cp3 => .cp3Callback true status wire
  | .v1Cp3FinishedC => .cp3Callback false status wire
  | .v1Cp4C2p => .cp4Callback status wire

/-- What the worker makes of the pending job: its first section, or its end if the epoch changed. -/
inductive Taken (store : Store) : Worker → Prop
  | start (mode : store.pendingJobMode = .v1Cp3) :
      Taken store (.startResult store.pendingV1Cp3Epoch)
  | finished (mode : store.pendingJobMode = .v1Cp3FinishedC) :
      Taken store (.finishedTake store.pendingV1Cp3Epoch)
  | ping (mode : store.pendingJobMode = .v1Cp4C2p) : Taken store (.cp4Live store.pendingV1Cp3Epoch)
  | stale (status : JobStatus) (mode : store.pendingJobMode ≠ .v1Cp2) (failed : status ≠ .success) :
      Taken store (.jobDone store.pendingJobMode store.pendingV1Cp3Epoch status [])
  | cp2 (worker : Worker) (mode : store.pendingJobMode = .v1Cp2) (isCp2 : worker.isCp2 = true) :
      Taken store worker

/-- `invalidate_v1_cp3_locked` on the core. -/
def Core.invalidate (core : Core) : Core :=
  { core with
    state := if core.state ≠ .idle then .failed else .idle
    store := core.store.resetV1Cp3
    jobResets := core.jobResets + 1 }

/-- The end of a result callback. -/
def Core.drained (core : Core) : Core :=
  { core with workerActive := false, deliveryActive := false, worker := .idle }

/-- The store after a commit: v1.1 hands the keys to the service. -/
def Committed (platform : Platform) (store store' : Store) : Prop :=
  ∃ committed, store.commitV1Cp3 = .ok committed ∧
    store' = if platform.version = Resumption.pqResumeV11 then committed.releaseApplication
      else committed

theorem Committed.withoutCp2 {platform : Platform} {store store' : Store}
    (h : Committed platform store store') :
    Committed platform store.withoutCp2 store'.withoutCp2 := by
  obtain ⟨committed, hcommit, rfl⟩ := h
  obtain ⟨hpending, rfl⟩ := commitV1Cp3_eq_ok_iff.mp hcommit
  refine ⟨_, commitV1Cp3_eq_ok_iff.mpr ⟨hpending, rfl⟩, ?_⟩
  split_ifs <;> rfl

theorem State.core_invalidateV1Cp3 (state : State) :
    state.invalidateV1Cp3.core = state.core.invalidate := rfl

/-- What one step of the firmware can do to the core. -/
inductive Move (platform : Platform) (core : Core) : Core → Prop
  | keep : Move platform core core
  | invalidate : Move platform core core.invalidate
  | reconnect :
      Move platform core { core.invalidate with state := .idle, generation := core.generation + 1 }
  | start (ct sec frame : Bytes) (store : Store) (idle : core.state = .idle)
      (free : core.workerActive = false) (submitted : core.store.submitV1Cp3 platform.version ct sec frame = .ok store) :
      Move platform core { core with
        state := .cryptoBusy, workerActive := true, store
        attempt := some { generation := core.generation, ct, sec, start := frame }
        jobResets := 0 }
  | finishedC (frame : Bytes) (store : Store) (waiting : core.state = .waitFinishedC)
      (free : core.workerActive = false) (submitted : core.store.submitV1Cp3FinishedC platform.version frame = .ok store) :
      Move platform core { core with
        state := .finishedPBusy, workerActive := true, store
        attempt := core.attempt.map fun attempt ↦ { attempt with finishedC := some frame }
        jobResets := 0 }
  | ping (wire : Bytes) (store : Store) (secure : core.state = .appSecure)
      (free : core.workerActive = false) (delivered : core.deliveryActive = false)
      (submitted : core.store.submitV1Cp4 platform.version wire = .ok store) :
      Move platform core { core with workerActive := true, store, jobResets := 0 }
  | cp2 (ct : Bytes) (idle : core.state = .idle) (free : core.workerActive = false)
      (slot : core.store.jobPending = false ∧ core.store.jobActive = false) :
      Move platform core { core with store := { core.store with
        ciphertextJob := ct, pendingJobMode := .v1Cp2, jobPending := true } }
  | take (worker : Worker) (idle : core.worker = .idle) (pending : core.store.jobPending = true)
      (taken : Taken core.store worker) :
      Move platform core { core with store := core.store.takeJob, worker }
  | dropJob (unready : core.store.keypairReady = false) :
      Move platform core { core with store := { core.store with jobPending := false } }
  | cp2Step (worker : Worker) (ct : Bytes) (before : core.worker.isCp2 = true)
      (after : worker.isCp2 = true) :
      Move platform core { core with worker, store := { core.store with ciphertextJob := ct } }
  | cp2Release (before : core.worker.isCp2 = true) :
      Move platform core { core with worker := .idle, store := { core.store with jobActive := false } }
  | jobFailed (mode : JobMode) (epoch : ℕ) (status : JobStatus)
      (running : core.worker.running = some (mode, epoch)) (failed : status ≠ .success) :
      Move platform core { core with worker := .jobDone mode epoch status [] }
  | startStored (epoch : ℕ) (handshake : V1Handshake) (wire : Bytes) (view : WorkerView)
      (worker : core.worker = .startResult epoch) (same : SameU32 epoch core.store.v1Cp3Epoch)
      (result : startResult platform core.store view = some (handshake, wire)) :
      Move platform core { core with
        store := core.store.storeHandshake handshake
        worker := .jobDone .v1Cp3 epoch .success wire }
  | handshakeTaken (epoch : ℕ) (worker : core.worker = .finishedTake epoch) :
      Move platform core { core with
        store := core.store.takeHandshake
        worker := .finishedStore epoch core.store.v1Cp3Handshake }
  | finishedStored (epoch : ℕ) (handshake : V1Handshake) (wire : Bytes) (app : V1Application)
      (faults : Faults) (worker : core.worker = .finishedStore epoch handshake)
      (same : SameU32 epoch core.store.v1Cp3Epoch)
      (result : pqV1Cp3Finish platform.crypto faults platform.version handshake core.store.v1Cp3FinishedJob =
        some (wire, app)) :
      Move platform core { core with
        store := core.store.storeApplication app
        worker := .jobDone .v1Cp3FinishedC epoch .success wire
        ledger := recordEvent core.ledger
          (.installed (appKeys platform.crypto platform.version app core.store.v1Cp3SessionId)) }
  | pingLive (epoch : ℕ) (worker : core.worker = .cp4Live epoch) :
      Move platform core { core with worker := .cp4Snapshot epoch }
  | pingDead (epoch : ℕ) (running : core.worker.running = some (.v1Cp4C2p, epoch)) :
      Move platform core { core.invalidate with
        worker := .jobDone .v1Cp4C2p epoch .authenticationFailure [] }
  | pingOpened (epoch : ℕ) (challenge : Bytes) (view : WorkerView)
      (worker : core.worker = .cp4Snapshot epoch) (secure : core.store.v1Cp3AppSecure = true)
      (opened : openPing platform core.store
        ⟨core.store.v1Cp3Application, core.store.v1Cp3SessionId, core.store.v1Cp4RxC2p,
          core.store.v1Cp4TxP2c⟩ view = .ok challenge) :
      Move platform core { core with
        worker := .cp4Recheck epoch ⟨core.store.v1Cp3Application, core.store.v1Cp3SessionId,
          core.store.v1Cp4RxC2p, core.store.v1Cp4TxP2c⟩ challenge
        ledger := recordEvent core.ledger
          (.opened ⟨core.store.v1Cp4RxC2p, challenge, core.store.v1Cp4WireJob⟩) }
  | pingRechecked (epoch : ℕ) (snapshot : Cp4Snapshot) (challenge : Bytes)
      (worker : core.worker = .cp4Recheck epoch snapshot challenge) :
      Move platform core { core with worker := .cp4Encrypt epoch snapshot challenge }
  | pongSealed (epoch : ℕ) (snapshot : Cp4Snapshot) (challenge wire : Bytes) (view : WorkerView)
      (worker : core.worker = .cp4Encrypt epoch snapshot challenge)
      (sealed : sealPong platform snapshot challenge view = .ok wire) :
      Move platform core { core with
        worker := .cp4Ready epoch wire
        ledger := recordEvent core.ledger (.sealed ⟨snapshot.tx, challenge, wire⟩) }
  | pongReady (epoch : ℕ) (wire : Bytes) (worker : core.worker = .cp4Ready epoch wire)
      (secure : core.store.v1Cp3AppSecure = true) :
      Move platform core { core with
        store := { core.store with v1Cp4Ready := true }
        worker := .jobDone .v1Cp4C2p epoch .success wire }
  | jobFinished (mode : JobMode) (epoch : ℕ) (status status' : JobStatus) (wire wire' : Bytes)
      (worker : core.worker = .jobDone mode epoch status wire) (hmode : mode ≠ .v1Cp2)
      (result : (status' = status ∧ SameU32 epoch core.store.v1Cp3Epoch) ∨ status' ≠ .success) :
      Move platform core { core with
        store := { core.store with
          ciphertextJob := [], v1Cp3SecJob := [], v1Cp3StartJob := [], v1Cp3FinishedJob := []
          v1Cp4WireJob := [], jobActive := false }
        worker := mode.callback status' wire' }
  | readyArmed (wire wire' : Bytes) (conn : Option Conn) (generation : ℕ)
      (worker : core.worker = .cp3Callback true .success wire) (busy : core.state = .cryptoBusy) :
      Move platform core { core with
        state := .waitFinishedC, workerActive := false, deliveryActive := true
        worker := .cp3Send true .success true conn generation wire' }
  | cp3Released (start deliver : Bool) (status status' : JobStatus) (wire wire' : Bytes)
      (conn : Option Conn) (generation : ℕ) (worker : core.worker = .cp3Callback start status wire)
      (released : start = true ∨ status' ≠ .success) :
      Move platform core { core with
        workerActive := false, deliveryActive := true
        worker := .cp3Send start status' deliver conn generation wire' }
  | finishedCommitted (wire : Bytes) (store : Store)
      (worker : core.worker = .cp3Callback false .success wire) (busy : core.state = .finishedPBusy)
      (committed : Committed platform core.store store) :
      Move platform core { core with state := .appSecure, store }.drained
  | finishedFailed (wire : Bytes) (worker : core.worker = .cp3Callback false .success wire) :
      Move platform core core.invalidate.drained
  | finishedStale (wire : Bytes) (worker : core.worker = .cp3Callback false .success wire)
      (idle : core.state = .idle) : Move platform core core.drained
  | cp3Sent (start deliver sent : Bool) (status : JobStatus) (conn : Option Conn) (generation : ℕ)
      (wire : Bytes) (worker : core.worker = .cp3Send start status deliver conn generation wire) :
      Move platform core { core with worker := .cp3Settle start status conn generation sent }
  | cp3Kept (start sent : Bool) (status : JobStatus) (conn : Option Conn) (generation : ℕ)
      (worker : core.worker = .cp3Settle start status conn generation sent)
      (kept : start = true ∨ core.state = .idle) :
      Move platform core { core with deliveryActive := false, worker := .idle }
  | cp3Failed (start sent : Bool) (status : JobStatus) (conn : Option Conn) (generation : ℕ)
      (worker : core.worker = .cp3Settle start status conn generation sent) :
      Move platform core { core.invalidate with deliveryActive := false, worker := .idle }
  | cp3Committed (sent : Bool) (conn : Option Conn) (generation : ℕ) (store : Store)
      (worker : core.worker = .cp3Settle false .success conn generation sent)
      (committed : Committed platform core.store store) :
      Move platform core { core with
        state := .appSecure, store, deliveryActive := false, worker := .idle }
  | pongReleased (wire : Bytes) (conn : Conn) (generation : ℕ)
      (worker : core.worker = .cp4Callback .success wire) (secure : core.state = .appSecure) :
      Move platform core { core with
        workerActive := false, deliveryActive := true, worker := .cp4Check conn generation wire }
  | pongDropped (status : JobStatus) (wire : Bytes) (generation : ℕ)
      (worker : core.worker = .cp4Callback status wire) :
      Move platform core { core.invalidate with
        workerActive := false, deliveryActive := true, worker := .cp4Settle none generation false }
  | pongChecked (conn : Conn) (generation : ℕ) (live : Bool) (wire : Bytes)
      (worker : core.worker = .cp4Check conn generation wire) :
      Move platform core { core with worker := .cp4Send conn generation live wire }
  | pongSent (conn : Conn) (generation : ℕ) (live : Bool) (wire : Bytes)
      (worker : core.worker = .cp4Send conn generation live wire) :
      Move platform core { core with
        worker := .cp4Settle (some conn) generation true
        ledger := recordEvent core.ledger .delivered }
  | pongUnsent (conn : Conn) (generation : ℕ) (live : Bool) (wire : Bytes)
      (worker : core.worker = .cp4Send conn generation live wire) :
      Move platform core { core with worker := .cp4Settle (some conn) generation false }
  | pongCommitted (conn : Option Conn) (generation : ℕ) (store : Store)
      (worker : core.worker = .cp4Settle conn generation true) (secure : core.state = .appSecure)
      (committed : core.store.commitV1Cp4 = .ok store) :
      Move platform core { core with
        store, deliveryActive := false, worker := .idle
        ledger := recordEvent core.ledger .committed }
  | pongFailed (conn : Option Conn) (generation : ℕ) (sent : Bool)
      (worker : core.worker = .cp4Settle conn generation sent) :
      Move platform core { core.invalidate with deliveryActive := false, worker := .idle }

/-! ## Every step of the worker is a move -/

section Worker

variable {platform : Platform} {state : State} {view : WorkerView} {epoch : ℕ}

theorem taken_takenWorker (store : Store) :
    Taken store.withoutCp2 (State.takenWorker store) := by
  unfold State.takenWorker
  dsimp only
  split
  · rename_i hmode
    refine .cp2 _ hmode ?_
    split_ifs <;> rfl
  all_goals
    rename_i hmode
    have hmode' : store.withoutCp2.pendingJobMode = store.pendingJobMode := rfl
    rw [hmode] at hmode'
    split_ifs
  · exact .start hmode'
  · exact hmode' ▸ Taken.stale .invalidProtocolState (by rw [hmode']; decide) (by decide)
  · exact .finished hmode'
  · exact hmode' ▸ Taken.stale .invalidProtocolState (by rw [hmode']; decide) (by decide)
  · exact .ping hmode'
  · exact hmode' ▸ Taken.stale .invalidProtocolState (by rw [hmode']; decide) (by decide)

theorem move_takeJob (hidle : state.worker = .idle) :
    Move platform state.core state.takeJob.core := by
  unfold State.takeJob
  split
  · rename_i hnone
    rcases hnone with hnone | hnone
    · have hsame : ({ state with store := { state.store with jobPending := false } } : State) =
          state := by rw [← hnone]
      rw [hsame]
      exact .keep
    · exact .dropJob hnone
  · rename_i hpending
    rw [not_or, Bool.not_eq_false] at hpending
    exact .take _ hidle hpending.1 (taken_takenWorker state.store)

theorem move_storeStart (hworker : state.worker = .startResult epoch) :
    Move platform state.core (state.storeStart platform epoch view).core := by
  have hfailed : Move platform state.core
      (state.goto (.jobDone .v1Cp3 epoch .authenticationFailure [])).core :=
    .jobFailed _ _ _ (by simp [State.core, hworker, Worker.running]) (by decide)
  unfold State.storeStart
  split
  · rename_i handshake wire hresult
    split_ifs with hsame
    · exact .startStored epoch handshake wire view hworker hsame hresult
    · exact hfailed
  · exact hfailed

theorem move_takeHandshake (hworker : state.worker = .finishedTake epoch) :
    Move platform state.core (state.takeHandshake epoch).core := by
  unfold State.takeHandshake
  split_ifs
  · exact .handshakeTaken epoch hworker
  · exact .jobFailed _ _ _ (by simp [State.core, hworker, Worker.running]) (by decide)

theorem move_storeFinished {handshake : V1Handshake}
    (hworker : state.worker = .finishedStore epoch handshake) :
    Move platform state.core (state.storeFinished platform epoch handshake view).core := by
  have hfailed : Move platform state.core
      (state.goto (.jobDone .v1Cp3FinishedC epoch .authenticationFailure [])).core :=
    .jobFailed _ _ _ (by simp [State.core, hworker, Worker.running]) (by decide)
  unfold State.storeFinished
  split
  · rename_i wire app hresult
    split_ifs with hsame
    · exact .finishedStored epoch handshake wire app view.faults hworker hsame hresult
    · exact hfailed
  · exact hfailed

theorem move_jobLive {running resumed : Worker} (hworker : state.worker = running)
    (hrunning : running.running = some (.v1Cp4C2p, epoch))
    (hmove : Move platform state.core (state.goto resumed).core) :
    let result := state.pqV1Cp4JobLive view.first
    Move platform state.core (result.2.goto (if result.1 then resumed
      else .jobDone .v1Cp4C2p epoch .authenticationFailure [])).core := by
  dsimp only
  unfold State.pqV1Cp4JobLive
  split_ifs
  · exact hmove
  · contradiction
  · contradiction
  · exact .pingDead epoch (by simpa [State.core, hworker] using hrunning)

theorem move_snapshotCp4 (hworker : state.worker = .cp4Snapshot epoch) :
    Move platform state.core (state.snapshotCp4 platform epoch view).core := by
  have hfailed : Move platform state.core
      (state.goto (.jobDone .v1Cp4C2p epoch .authenticationFailure [])).core :=
    .jobFailed _ _ _ (by simp [State.core, hworker, Worker.running]) (by decide)
  unfold State.snapshotCp4
  dsimp only
  split_ifs with hready
  · split
    · rename_i challenge hopened
      exact .pingOpened epoch challenge view hworker hready.2.1 hopened
    · exact hfailed
  · exact hfailed

theorem move_encryptCp4 {snapshot : Cp4Snapshot} {challenge : Bytes}
    (hworker : state.worker = .cp4Encrypt epoch snapshot challenge) :
    Move platform state.core (state.encryptCp4 platform epoch snapshot challenge view).core := by
  unfold State.encryptCp4
  split
  · rename_i wire hsealed
    exact .pongSealed epoch snapshot challenge wire view hworker hsealed
  · exact .jobFailed _ _ _ (by simp [State.core, hworker, Worker.running]) (by decide)

theorem move_readyCp4 {wire : Bytes} (hworker : state.worker = .cp4Ready epoch wire) :
    Move platform state.core (state.readyCp4 epoch wire).core := by
  unfold State.readyCp4
  dsimp only
  split_ifs with hready
  · exact .pongReady epoch wire hworker hready.2.1
  · exact .jobFailed _ _ _ (by simp [State.core, hworker, Worker.running]) (by decide)

theorem move_finishJob {mode : JobMode} {status : JobStatus} {wire : Bytes}
    (hworker : state.worker = .jobDone mode epoch status wire) :
    Move platform state.core (state.finishJob mode epoch status wire).core := by
  by_cases hmode : mode = .v1Cp2
  · subst hmode
    unfold State.finishJob
    dsimp only
    split_ifs
    all_goals exact .cp2Step _ [] (by simp [State.core, hworker, Worker.isCp2]) rfl
  have hmove := fun status' wire' hresult ↦ @Move.jobFinished platform
    state.core mode epoch status status' wire wire' hworker hmode hresult
  unfold State.finishJob Store.finishJob
  simp only [hmode, if_false]
  by_cases hsame : SameU32 epoch state.store.v1Cp3Epoch
  · simp only [hsame, if_true]
    have hnext := hmove status wire (.inl ⟨rfl, hsame⟩)
    cases mode <;> exact hnext
  · simp only [hsame, if_false]
    have hnext := hmove .invalidProtocolState [] (.inr (by decide))
    cases mode <;> exact hnext

theorem core_drain (state : State) :
    state.drain.core = { state.core with deliveryActive := false, worker := .idle } := by
  unfold State.drain
  dsimp only
  split_ifs <;> rfl

/-- A commit that succeeds changes the store and the service only. -/
theorem commitV1Cp3_eq_true (h : (state.commitV1Cp3 platform view).1 = true) :
    ∃ store, Committed platform state.store store ∧
      (state.commitV1Cp3 platform view).2 =
        { state with store, service := (state.commitV1Cp3 platform view).2.service } := by
  unfold State.commitV1Cp3 at h ⊢
  cases hcommit : state.store.commitV1Cp3 with
  | error e =>
    rw [hcommit] at h
    cases h
  | ok committed =>
    dsimp only
    split_ifs with hversion
    · exact ⟨_, ⟨committed, hcommit, (if_pos hversion).symm⟩, rfl⟩
    · exact ⟨_, ⟨committed, hcommit, (if_neg hversion).symm⟩, rfl⟩

/-- A commit that fails leaves nothing that the invalidation after it does not clear. -/
theorem commitV1Cp3_eq_false (h : (state.commitV1Cp3 platform view).1 = false) :
    (state.commitV1Cp3 platform view).2.core.invalidate = state.core.invalidate := by
  unfold State.commitV1Cp3 at h ⊢
  cases hcommit : state.store.commitV1Cp3 with
  | error e => rfl
  | ok committed =>
    obtain ⟨-, rfl⟩ := commitV1Cp3_eq_ok_iff.mp hcommit
    rw [hcommit] at h
    dsimp only at h ⊢
    split_ifs at h with hversion
    rw [if_pos hversion]
    rfl

/-- The three ends of a CP3 callback: the attempt is invalidated, kept, or committed on a live link. -/
theorem settleCp3_cases (state : State) (start : Bool) (status : JobStatus) (conn : Option Conn)
    (generation : ℕ) (sent : Bool) (view : WorkerView) :
    (state.settleCp3 platform start status conn generation sent view).core =
        { state.core.invalidate with deliveryActive := false, worker := .idle } ∨
      ((start = true ∨ state.main.v1Cp3State = .idle) ∧
        (state.settleCp3 platform start status conn generation sent view).core =
          { state.core with deliveryActive := false, worker := .idle }) ∨
      (start = false ∧ status = .success ∧ sent = true ∧ conn.isSome = true ∧
        state.main.v1Cp3Live conn generation view.last = true ∧
        ∃ store, Committed platform state.core.store store ∧
          (state.settleCp3 platform start status conn generation sent view).core =
            { state.core with
              state := .appSecure, store, deliveryActive := false, worker := .idle }) := by
  unfold State.settleCp3
  dsimp only
  rw [core_drain]
  by_cases howner : conn.isSome = true ∧ conn = state.main.v1Cp3Conn ∧
      SameU32 generation state.main.connectionGeneration
  · rw [if_pos howner]
    by_cases hfail : sent = false ∨ status ≠ .success ∨
        state.main.v1Cp3Live conn generation view.last = false
    · rw [if_pos hfail]
      exact .inl rfl
    rw [if_neg hfail]
    simp only [not_or, Bool.not_eq_false, not_not] at hfail
    by_cases hstart : start = true
    · rw [if_pos hstart]
      exact .inr (.inl ⟨.inl hstart, rfl⟩)
    rw [if_neg hstart]
    by_cases hcommit : (state.commitV1Cp3 platform view).1 = true
    · rw [if_pos hcommit]
      obtain ⟨store, hstore, hresult⟩ := commitV1Cp3_eq_true hcommit
      refine .inr (.inr ⟨by simpa using hstart, hfail.2.1, hfail.1, howner.1, hfail.2.2,
        store.withoutCp2, hstore.withoutCp2, ?_⟩)
      rw [hresult]
      rfl
    · rw [if_neg hcommit]
      rw [State.core_invalidateV1Cp3, commitV1Cp3_eq_false (by simpa using hcommit)]
      exact .inl rfl
  · rw [if_neg howner]
    split_ifs with hidle
    · exact .inl rfl
    · exact .inr (.inl ⟨.inr (not_not.mp hidle), rfl⟩)

theorem move_settleCp3 {start sent : Bool} {status : JobStatus} {conn : Option Conn}
    {generation : ℕ} (hworker : state.worker = .cp3Settle start status conn generation sent) :
    Move platform state.core (state.settleCp3 platform start status conn generation sent view).core := by
  rcases settleCp3_cases state start status conn generation sent view with
    h | ⟨hkept, h⟩ | ⟨rfl, rfl, -, -, -, store, hcommit, h⟩
  · exact h ▸ .cp3Failed start sent status conn generation hworker
  · exact h ▸ .cp3Kept start sent status conn generation hworker hkept
  · exact h ▸ .cp3Committed sent conn generation store hworker hcommit

/-- What is delivered comes from a live attempt in the state of its job. -/
theorem cp3Delivery_live {main : Main} {version : UInt8} {start : Bool} {status : JobStatus}
    {wire : Bytes} {seen : LinkView}
    (h : (main.cp3Delivery version start status wire seen).deliver = true) :
    main.v1Cp3Live main.v1Cp3Conn main.v1Cp3Generation seen = true ∧
      main.v1Cp3State = (if start then .cryptoBusy else .finishedPBusy) ∧
      (main.cp3Delivery version start status wire seen).conn = main.v1Cp3Conn := by
  have hconn : (main.cp3Delivery version start status wire seen).conn = main.v1Cp3Conn := if_pos h
  simp only [Main.cp3Delivery, Bool.and_eq_true, decide_eq_true_eq] at h
  exact ⟨h.1, h.2, hconn⟩

/-- What is not delivered has no connection. -/
theorem cp3Delivery_dead {main : Main} {version : UInt8} {start : Bool} {status : JobStatus}
    {wire : Bytes} {seen : LinkView}
    (h : (main.cp3Delivery version start status wire seen).deliver = false) :
    (main.cp3Delivery version start status wire seen).conn = none :=
  if_neg (ne_true_of_eq_false h)

/-- A delivery never turns a failed job into a successful one. -/
theorem cp3Delivery_success {main : Main} {version : UInt8} {start : Bool} {status : JobStatus}
    {wire : Bytes} {seen : LinkView}
    (h : (main.cp3Delivery version start status wire seen).status = .success) :
    status = .success := by
  by_contra hne
  have hsame : (main.cp3Delivery version start status wire seen).status = status :=
    if_neg fun hcheck ↦ hne hcheck.2.1
  exact hne (hsame.symm.trans h)

theorem move_callbackCp3 {start : Bool} {status : JobStatus} {wire : Bytes}
    (hworker : state.worker = .cp3Callback start status wire) :
    Move platform state.core (state.callbackCp3 platform start status wire view).2.core := by
  have hlive := @cp3Delivery_live state.main platform.version start status wire view.first
  have hdead := @cp3Delivery_dead state.main platform.version start status wire view.first
  have hsuccess := @cp3Delivery_success state.main platform.version start status wire view.first
  unfold State.callbackCp3
  generalize state.main.cp3Delivery platform.version start status wire view.first = delivery at *
  dsimp only
  cases start with
  | true =>
    rw [if_pos (.inl rfl)]
    by_cases harm : delivery.deliver = true ∧ delivery.status = .success
    · obtain ⟨hdeliver, hstatus⟩ := harm
      have hworker' := hworker
      rw [hsuccess hstatus] at hworker'
      simp only [hdeliver, hstatus, and_self, if_true]
      have hstate : state.main.v1Cp3State = .cryptoBusy := by
        simpa using (hlive hdeliver).2.1
      exact .readyArmed wire _ _ _ hworker' hstate
    · simp only [true_and, harm, if_false]
      exact .cp3Released true _ status _ wire _ _ _ hworker (.inl rfl)
  | false =>
    simp only [Bool.false_eq_true, false_and, and_false, if_false, false_or]
    by_cases hrelease : delivery.status ≠ .success
    · rw [if_pos hrelease]
      exact .cp3Released false _ status _ wire _ _ _ hworker (.inr hrelease)
    rw [if_neg hrelease]
    rw [not_not] at hrelease
    have hworker' := hworker
    rw [hsuccess hrelease] at hworker'
    rcases settleCp3_cases { state with main := { state.main with
        v1Cp3WorkerActive := false, v1Cp3DeliveryActive := true } } false delivery.status
        delivery.conn delivery.generation _ view with
      h | ⟨hidle, h⟩ | ⟨-, -, -, hconn, -, store, hcommit, h⟩
    · exact h ▸ .finishedFailed wire hworker'
    · have hstate : state.main.v1Cp3State = .idle := by simpa using hidle
      exact h ▸ .finishedStale wire hworker' hstate
    · have hdelivered : delivery.deliver = true := by
        by_contra hno
        simp [hdead (by simpa using hno)] at hconn
      have hstate : state.main.v1Cp3State = .finishedPBusy := by
        simpa using (hlive hdelivered).2.1
      exact h ▸ .finishedCommitted wire store hworker' hstate hcommit

theorem v1Cp4Live_eq_true {main : Main} {conn : Option Conn} {generation : ℕ} {seen : LinkView}
    (h : main.v1Cp4Live conn generation seen = true) :
    main.v1Cp3State = .appSecure ∧ ∃ owner, conn = some owner ∧ main.v1Cp3Conn = some owner := by
  simp only [Main.v1Cp4Live, Bool.and_eq_true, decide_eq_true_eq] at h
  obtain ⟨⟨⟨⟨⟨⟨⟨⟨⟨hsome, -⟩, howner⟩, -⟩, -⟩, hstate⟩, -⟩, -⟩, -⟩, -⟩ := h
  obtain ⟨owner, hconn⟩ := Option.isSome_iff_exists.mp hsome
  exact ⟨hstate, owner, hconn, howner ▸ hconn⟩

theorem move_callbackCp4 {status : JobStatus} {wire : Bytes} {seen : LinkView}
    (hworker : state.worker = .cp4Callback status wire) :
    Move platform state.core (state.callbackCp4 platform status wire seen).core := by
  unfold State.callbackCp4
  dsimp only
  by_cases hdeliver : state.main.v1Cp3WorkerActive = true ∧ status = .success ∧
      state.main.v1Cp4Live state.main.v1Cp3Conn state.main.v1Cp3Generation seen = true ∧
        validPong platform.version wire = true
  · simp only [hdeliver, and_self, if_true]
    obtain ⟨-, rfl, hlive, -⟩ := hdeliver
    obtain ⟨hstate, owner, hconn, -⟩ := v1Cp4Live_eq_true hlive
    simp only [hconn]
    exact .pongReleased wire owner state.main.v1Cp3Generation hworker hstate
  · simp only [hdeliver, if_false]
    have hmove := @Move.pongDropped platform state.core status wire
      state.main.v1Cp3Generation hworker
    split <;> exact hmove

theorem move_settleCp4 {conn : Option Conn} {generation : ℕ} {sent : Bool} {last : LinkView}
    (hworker : state.worker = .cp4Settle conn generation sent) :
    Move platform state.core (state.settleCp4 conn generation sent last).core := by
  have hfailed : Move platform state.core
      { state.invalidateV1Cp3.core with deliveryActive := false, worker := .idle } :=
    .pongFailed conn generation sent hworker
  unfold State.settleCp4
  dsimp only
  rw [core_drain]
  split_ifs with hsent
  · obtain ⟨rfl, hlive⟩ := hsent
    split
    · rename_i store hcommit
      obtain ⟨hready, rfl⟩ := commitV1Cp4_eq_ok_iff.mp hcommit
      exact .pongCommitted conn generation _ hworker (v1Cp4Live_eq_true hlive).1
        (commitV1Cp4_eq_ok_iff.mpr ⟨hready, rfl⟩)
    · exact hfailed
  · exact hfailed

/-- **Every step of the worker is a move.** -/
theorem move_workerStep (platform : Platform) (state : State) (view : WorkerView) :
    Move platform state.core (state.workerStep platform view).2.core := by
  unfold State.workerStep
  cases hworker : state.worker with
  | idle => exact move_takeJob hworker
  | startResult epoch => exact move_storeStart hworker
  | finishedTake epoch => exact move_takeHandshake hworker
  | finishedStore epoch handshake => exact move_storeFinished hworker
  | cp4Live epoch => exact move_jobLive hworker rfl (.pingLive epoch hworker)
  | cp4Snapshot epoch => exact move_snapshotCp4 hworker
  | cp4Recheck epoch snapshot challenge =>
    exact move_jobLive hworker rfl (.pingRechecked epoch snapshot challenge hworker)
  | cp4Encrypt epoch snapshot challenge => exact move_encryptCp4 hworker
  | cp4Ready epoch wire => exact move_readyCp4 hworker
  | cp2Result epoch =>
    dsimp only
    cases cp2Result platform state.store view
    all_goals
      exact Move.cp2Step _ state.store.ciphertextJob
        (by simp [State.core, hworker, Worker.isCp2]) rfl
  | jobDone mode epoch status wire => exact move_finishJob hworker
  | cp3Callback start status wire => exact move_callbackCp3 hworker
  | cp3Send start status deliver conn generation wire =>
    exact .cp3Sent start deliver _ status conn generation wire hworker
  | cp3Settle start status conn generation sent => exact move_settleCp3 hworker
  | cp4Callback status wire => exact move_callbackCp4 hworker
  | cp4Check conn generation wire => exact .pongChecked conn generation _ wire hworker
  | cp4Send conn generation live wire =>
    dsimp only
    split_ifs with hsent
    · simp only [hsent]
      exact .pongSent conn generation live wire hworker
    · rw [Bool.not_eq_true] at hsent
      simp only [hsent]
      exact .pongUnsent conn generation live wire hworker
  | cp4Settle conn generation sent => exact move_settleCp4 hworker
  | cp2Callback status wire =>
    exact Move.cp2Step _ state.store.ciphertextJob (by simp [State.core, hworker, Worker.isCp2]) rfl
  | cp2Check status deliver conn generation wire =>
    exact Move.cp2Step _ state.store.ciphertextJob (by simp [State.core, hworker, Worker.isCp2]) rfl
  | cp2Send deliver conn wire =>
    exact Move.cp2Step _ state.store.ciphertextJob (by simp [State.core, hworker, Worker.isCp2]) rfl
  | cp2Settle =>
    exact Move.cp2Step _ state.store.ciphertextJob (by simp [State.core, hworker, Worker.isCp2]) rfl
  | cp2Release => exact .cp2Release (by simp [State.core, hworker, Worker.isCp2])

end Worker

/-! ## Every write and every link callback is a move -/

section Handlers

variable {platform : Platform} {state : State} {conn : Conn} {view : ControlView}

theorem move_handleV1Cp4 (wire : Bytes) :
    Move platform state.core (state.handleV1Cp4 platform conn wire view).2.core := by
  unfold State.handleV1Cp4
  dsimp only
  split_ifs with hguard
  · exact .invalidate
  split
  · rename_i error store hsubmit
    obtain rfl : store = state.store := submitV1Cp4_failsIn _ _ hsubmit
    exact .invalidate
  · rename_i store hsubmit
    simp only [not_or, Bool.not_eq_false, Bool.not_eq_true] at hguard
    obtain ⟨hlive, hfree, hdelivered, -⟩ := hguard
    obtain ⟨sealed, hsealed, hwire, hready, rfl⟩ := submitV1Cp4_eq_ok_iff.mp hsubmit
    exact .ping wire _ (v1Cp4Live_eq_true hlive).1 hfree hdelivered
      (submitV1Cp4_eq_ok_iff.mpr ⟨sealed, hsealed, hwire, hready, rfl⟩)

theorem cp3StartSecInfo_eq_ok {sec : Bytes} (h : state.cp3StartSecInfo platform conn view = .ok sec) :
    state.main.v1Cp3State = .idle ∧ state.main.v1Cp3WorkerActive = false := by
  simp only [State.cp3StartSecInfo, except_bind_eq_ok_iff, require_eq_ok_iff, exists_and_left,
    exists_const] at h
  exact ⟨h.2.1.1, h.2.1.2.1⟩

theorem move_handleV1Cp3Start (frame : Bytes) :
    Move platform state.core (state.handleV1Cp3Start platform conn frame view).2.core := by
  unfold State.handleV1Cp3Start
  split
  · exact .keep
  rename_i sec hsec
  obtain ⟨hidle, hfree⟩ := cp3StartSecInfo_eq_ok hsec
  dsimp only
  split_ifs
  · exact .keep
  split
  · rename_i error store hsubmit
    obtain rfl : store = state.store := submitV1Cp3_failsIn _ _ hsubmit
    exact .keep
  · rename_i store hsubmit
    obtain ⟨hct, hstrict, payload, hvalid, hframe, hslot, rfl⟩ :=
      submitV1Cp3_eq_ok_iff.mp hsubmit
    exact .start state.main.transfer.ciphertext sec frame _ hidle hfree
      (submitV1Cp3_eq_ok_iff.mpr ⟨hct, hstrict, payload, hvalid, hframe, hslot, rfl⟩)

theorem move_handleV1Cp3FinishedC (frame : Bytes) :
    Move platform state.core (state.handleV1Cp3FinishedC platform conn frame view).2.core := by
  unfold State.handleV1Cp3FinishedC
  dsimp only
  split_ifs with hguard hlive howner
  · exact .keep
  · exact .invalidate
  · exact .keep
  split
  · rename_i error store hsubmit
    obtain rfl : store = state.store := submitV1Cp3FinishedC_failsIn _ _ hsubmit
    exact .invalidate
  · rename_i store hsubmit
    simp only [not_or, not_not, Bool.not_eq_true] at hguard
    obtain ⟨payload, hvalid, hframe, hslot, rfl⟩ := submitV1Cp3FinishedC_eq_ok_iff.mp hsubmit
    exact .finishedC frame _ hguard.1 hguard.2
      (submitV1Cp3FinishedC_eq_ok_iff.mpr ⟨payload, hvalid, hframe, hslot, rfl⟩)

theorem cp2StartReady_eq_ok {value : Unit} (h : state.cp2StartReady conn view = .ok value) :
    state.main.v1Cp3State = .idle ∧ state.main.v1Cp3WorkerActive = false := by
  simp only [State.cp2StartReady, except_bind_eq_ok_iff, require_eq_ok_iff, exists_and_left,
    exists_const] at h
  exact ⟨h.2.2.2.2.1.1, h.2.2.2.2.1.2.1⟩

theorem move_handleV1Cp2Start (sid : Bytes) :
    Move platform state.core (state.handleV1Cp2Start conn sid view).2.core := by
  unfold State.handleV1Cp2Start
  split_ifs
  · exact .keep
  split
  · exact .keep
  rename_i hready
  obtain ⟨hidle, hfree⟩ := cp2StartReady_eq_ok hready
  split
  · rename_i error store hsubmit
    obtain rfl : store = state.store := submitV1Cp2_failsIn _ _ hsubmit
    exact .keep
  · rename_i store hsubmit
    obtain ⟨-, -, hslot, rfl⟩ := submitV1Cp2_eq_ok_iff.mp hsubmit
    exact .cp2 state.main.transfer.ciphertext hidle hfree hslot

theorem core_onService (platform : Platform) (state : State)
    (call : Resumption.Service → Resumption.Service) :
    (state.onService platform call).core = state.core := by
  unfold State.onService
  split_ifs <;> rfl

theorem core_serviceAbort (platform : Platform) (state : State) (owner : Option Conn) (now : ℤ) :
    (state.serviceAbort platform owner now).core = state.core := by
  unfold State.serviceAbort
  split_ifs <;> rfl

theorem move_handleV1Control (data : Bytes) :
    Move platform state.core (state.handleV1Control platform conn data view).2.core := by
  unfold State.handleV1Control
  split_ifs
  · exact move_handleV1Cp4 data
  split
  · exact .keep
  split_ifs
  · split <;> exact .keep
  · exact move_handleV1Cp3Start data
  · exact move_handleV1Cp3FinishedC data
  · exact move_handleV1Cp2Start _
  · exact .keep

theorem move_writeControl (data : Bytes) (offset : ℕ) :
    Move platform state.core (state.writeControl platform conn data offset view).2.core := by
  have hrefuse : Move platform state.core state.refuseControl.core := by
    unfold State.refuseControl
    split_ifs
    · exact .invalidate
    · exact .keep
  unfold State.writeControl
  dsimp only
  split_ifs
  · exact hrefuse
  · exact hrefuse
  · unfold State.handleService
    split_ifs <;> exact .keep
  · exact core_serviceAbort platform state (some conn) view.uptime ▸ .keep
  · exact .keep
  · exact move_handleV1Control data
  · exact .keep

theorem move_writeCiphertext (data : Bytes) (offset : ℕ) (busy : Bool) (seen : LinkView) :
    Move platform state.core
      (state.writeCiphertext platform conn data offset busy seen).2.core := by
  unfold State.writeCiphertext
  split_ifs
  · exact .keep
  · exact .keep
  split
  · exact .keep
  · dsimp only
    split_ifs <;> exact .keep

theorem move_cccConfigChanged (enabled : Bool) (now : ℤ) :
    Move platform state.core (state.cccConfigChanged platform enabled now).core := by
  unfold State.cccConfigChanged State.serviceAbort
  dsimp only
  split_ifs
  · exact .keep
  · exact .invalidate
  · exact .invalidate

theorem move_disconnected (now : ℤ) :
    Move platform state.core (state.disconnected platform conn now).core := by
  unfold State.disconnected
  dsimp only
  split_ifs <;> first | exact .reconnect | exact .keep

/-- **Every step of the firmware is a move of its protocol core.** -/
theorem move_step (platform : Platform) (state : State) (action : Action) :
    Move platform state.core ((firmware platform).step state action).2.core := by
  cases action with
  | readPublicKey conn busy view => exact .keep
  | writeCiphertext conn data offset busy view => exact move_writeCiphertext data offset busy view
  | writeSecureData conn data offset view => exact .keep
  | writeControl conn data offset view => exact move_writeControl data offset
  | readCcc conn view => exact .keep
  | writeCcc conn enabled view =>
    simp only [firmware, answered, State.writeCcc]
    split
    · exact .keep
    · exact move_cccConfigChanged enabled view.uptime
  | cccConfigChanged enabled now => exact move_cccConfigChanged enabled now
  | serviceAbort conn now =>
    exact core_serviceAbort platform state (some conn) now ▸ .keep
  | securityChanged conn secured =>
    simp only [firmware, State.v1Cp2SecurityChanged]
    split_ifs <;> first | exact .keep | exact .invalidate
  | bondChanged now =>
    exact core_onService platform state _ ▸ .keep
  | expire clock₁ clock₂ clock₃ =>
    exact core_onService platform state _ ▸ .keep
  | timeout view =>
    simp only [firmware, State.v1Cp3Timeout]
    split_ifs
    · exact .invalidate
    · exact .keep
  | connected conn bonded clock now => exact .reconnect
  | disconnected conn now => exact move_disconnected now
  | worker view => exact move_workerStep platform state view

end Handlers

end PqBleHandshake.FirmwareV1
