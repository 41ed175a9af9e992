import PqBleHandshake.Foundation.SingleSlot
import PqBleHandshake.FirmwareV1.Worker

/-!
# What the jobs of v1.0 and v1.1 make of their bytes

A submission copies its bytes into the buffers of the job, and the worker reads them while it runs.  `program`
says what a job makes of the bytes of its submission, in a store whose buffers are wiped; every step of the
worker that commits a job is the run of its program.  A PING is opened in one step and answered in a later one,
so its program ends with the challenge, and `Yields` says what the answer comes to.
-/

namespace PqBleHandshake.FirmwareV1

open Foundation

/-- The sessions that a reset ends: `v1_cp2_epoch` and `v1_cp3_epoch` count their resets. -/
inductive SessionKind
  | cp2 | cp3
deriving DecidableEq, Repr

/-- The session whose epoch a job is submitted under. -/
def JobMode.session : JobMode → Option SessionKind
  | .v1Cp2 => some .cp2
  | _ => some .cp3

/-- The bytes that a submission passes. -/
inductive JobInput
  | cp2 (ct sid : Bytes)
  | cp3 (ct sec start : Bytes)
  | frame (frame : Bytes)
deriving DecidableEq

/-- What `result_callback` is called with. -/
structure JobResult where
  status : JobStatus
  wire : Bytes
deriving DecidableEq

/-- A failure without output. -/
def JobResult.Failed (result : JobResult) : Prop := result.status ≠ .success ∧ result.wire = []

/-- What a job comes to: its result, or the challenge of a PING that the worker still has to answer. -/
inductive JobOutcome
  | ended (result : JobResult)
  | opened (snapshot : Cp4Snapshot) (challenge : Bytes)

/-- What a job leaves: its outcome, and the store without the buffers of the job. -/
structure JobProduct where
  outcome : JobOutcome
  store : Store

namespace Store

/-- The bytes in the job buffers that a mode reads. -/
def jobInput (store : Store) : JobMode → JobInput
  | .v1Cp2 => .cp2 store.ciphertextJob store.sessionIdJob
  | .v1Cp3 => .cp3 store.ciphertextJob store.v1Cp3SecJob store.v1Cp3StartJob
  | .v1Cp3FinishedC => .frame store.v1Cp3FinishedJob
  | .v1Cp4C2p => .frame store.v1Cp4WireJob

/-- The store with its job buffers wiped. -/
def withoutInput (store : Store) : Store :=
  { store with
    ciphertextJob := [], sessionIdJob := [], v1Cp3SecJob := [], v1Cp3StartJob := []
    v1Cp3FinishedJob := [], v1Cp4WireJob := [] }

/-- The condition under which `v1_cp4_result` takes its snapshot. -/
def Cp4Live (store : Store) : Prop :=
  store.v1Cp3AppSecure = true ∧ store.v1Cp4Pending = true ∧ store.v1Cp4Ready = false

instance (store : Store) : Decidable store.Cp4Live := inferInstanceAs (Decidable (_ ∧ _))

end Store

namespace Worker

/-- The mode of the job that the worker is about to run. -/
def job : Worker → Option JobMode
  | .startResult _ => some .v1Cp3
  | .finishedStore _ _ => some .v1Cp3FinishedC
  | .cp4Snapshot _ => some .v1Cp4C2p
  | .cp2Result _ => some .v1Cp2
  | _ => none

end Worker

namespace State

/-- What a job finds besides its bytes. -/
def reads (state : State) : Store × Worker := (state.store.withoutInput, state.worker)

/-- The session of the job is the one that it was submitted for, so what it makes is stored. -/
def Commits (state : State) : Prop :=
  match state.worker with
  | .startResult epoch | .finishedStore epoch _ => SameU32 epoch state.store.v1Cp3Epoch
  | .cp4Snapshot epoch => SameU32 epoch state.store.v1Cp3Epoch ∧ state.store.Cp4Live
  | _ => True

instance (state : State) : Decidable state.Commits := by
  unfold Commits
  split <;> infer_instance

/-- What the job that has just run leaves. -/
def product (state : State) : JobProduct where
  outcome := match state.worker with
    | .jobDone _ _ status wire => .ended ⟨status, wire⟩
    | .cp4Recheck _ snapshot challenge => .opened snapshot challenge
    | _ => .ended ⟨.invalidProtocolState, []⟩
  store := state.store.withoutInput

end State

/-! ## The programs -/

section Programs

variable (platform : Platform) (store : Store) (view : WorkerView)

/-- The job stores something and answers with a frame. -/
def answers (store : Store) (wire : Bytes) : JobProduct := ⟨.ended ⟨.success, wire⟩, store⟩

/-- The job stores something and fails. -/
def fails (store : Store) (status : JobStatus) : JobProduct := ⟨.ended ⟨status, []⟩, store⟩

/-- START_CP3: the handshake waits for FINISHED_C. -/
def startProgram (ct sec start : Bytes) : JobProduct :=
  let result := do
    let ss ← (if view.decapsFault then none else platform.decaps ct)
    let th0 ← pqV1Cp3Transcript platform.crypto view.faults platform.version sec platform.publicKey ct start
    let handshake ← pqV1Cp3Derive platform.crypto view.faults platform.version ss th0
    let wire ← (pqV1EncodeFrame platform.version pqV1ReadyCp3 th0.bytes secureWireSize).toOption
    return (handshake, wire)
  match result with
  | none => fails store .authenticationFailure
  | some (handshake, wire) => answers (store.storeHandshake handshake) wire

/-- FINISHED_C: the answer proves the keys, which wait for its delivery. -/
def finishedProgram (handshake : V1Handshake) (frame : Bytes) : JobProduct :=
  match pqV1Cp3Finish platform.crypto view.faults platform.version handshake frame with
  | none => fails store .authenticationFailure
  | some (wire, app) => answers (store.storeApplication app) wire

/-- The CP2 check, which stores nothing. -/
def cp2Program (ct sid : Bytes) : JobProduct :=
  let result := do
    let ss ← (if view.decapsFault then none else platform.decaps ct)
    let diagnostic ← pqV1Cp2Diagnostic platform.crypto view.faults ss sid platform.publicKey ct
    (pqV1EncodeFrame platform.version pqV1Ready diagnostic.bytes secureWireSize).toOption
  match result with
  | none => fails store .decapsulationFailure
  | some wire => answers store wire

/-- A PING, opened under the keys and with the counters of the session. -/
def cp4Program (wire : Bytes) : JobProduct :=
  let app := store.v1Cp3Application
  let sid := store.v1Cp3SessionId
  let challenge := do
    let iv ← pqV1Cp4Iv platform.crypto view.faults platform.version app.c2p sid pqV1AppC2p
    pqV1Cp4Decrypt platform.aead view.aeadFault platform.version app.c2p iv sid wire pqV1AppC2p
      store.v1Cp4RxC2p 16
  match challenge with
  | .error _ => fails store .authenticationFailure
  | .ok challenge => ⟨.opened ⟨app, sid, store.v1Cp4RxC2p, store.v1Cp4TxP2c⟩ challenge, store⟩

/-- What a job of a mode makes of the bytes that it was submitted with; no other bytes fit the mode. -/
def program (reads : Store × Worker) (mode : JobMode) (input : JobInput) : JobProduct :=
  match mode, input, reads.2 with
  | .v1Cp2, .cp2 ct sid, _ => cp2Program platform reads.1 view ct sid
  | .v1Cp3, .cp3 ct sec start, _ => startProgram platform reads.1 view ct sec start
  | .v1Cp3FinishedC, .frame frame, .finishedStore _ handshake =>
    finishedProgram platform reads.1 view handshake frame
  | .v1Cp4C2p, .frame wire, _ => cp4Program platform reads.1 view wire
  | _, _, _ => fails reads.1 .invalidProtocolState

/-- The answer to a PING. -/
def pong (snapshot : Cp4Snapshot) (challenge : Bytes) : JobResult :=
  let wire := do
    let iv ← pqV1Cp4Iv platform.crypto view.faults platform.version snapshot.app.p2c snapshot.sid pqV1AppP2c
    pqV1Cp4Encrypt platform.aead view.aeadFault platform.version snapshot.app.p2c iv snapshot.sid pqV1AppP2c
      snapshot.tx pqV1Cp4Pong challenge secureWireSize
  match wire with
  | .error _ => ⟨.authenticationFailure, []⟩
  | .ok wire => ⟨.success, wire⟩

end Programs

/-- The results that a product comes to: its own, or an answer to its PING. -/
def Yields (platform : Platform) (product : JobProduct) (result : JobResult) : Prop :=
  match product.outcome with
  | .ended own => own = result
  | .opened snapshot challenge => ∃ view, pong platform view snapshot challenge = result

/-! ## The worker runs them -/

section Runs

variable {platform : Platform} {state : State} {view : WorkerView} {mode : JobMode} {epoch : ℕ}

theorem storeStart_product (hcommits : SameU32 epoch state.store.v1Cp3Epoch) :
    (state.storeStart platform epoch view).product =
      startProgram platform state.store.withoutInput view state.store.ciphertextJob state.store.v1Cp3SecJob
        state.store.v1Cp3StartJob := by
  have hprogram : startProgram platform state.store.withoutInput view state.store.ciphertextJob
      state.store.v1Cp3SecJob state.store.v1Cp3StartJob =
    match startResult platform state.store view with
    | none => fails state.store.withoutInput .authenticationFailure
    | some (handshake, wire) => answers (state.store.withoutInput.storeHandshake handshake) wire := rfl
  rw [hprogram]
  unfold State.storeStart
  cases startResult platform state.store view with
  | none => rfl
  | some result =>
    dsimp only
    rw [if_pos hcommits]
    rfl

theorem storeFinished_product {handshake : V1Handshake} (hcommits : SameU32 epoch state.store.v1Cp3Epoch) :
    (state.storeFinished platform epoch handshake view).product =
      finishedProgram platform state.store.withoutInput view handshake state.store.v1Cp3FinishedJob := by
  unfold State.storeFinished finishedProgram
  cases pqV1Cp3Finish platform.crypto view.faults platform.version handshake state.store.v1Cp3FinishedJob with
  | none => rfl
  | some result =>
    dsimp only
    rw [if_pos hcommits]
    rfl

theorem snapshotCp4_product (hcommits : SameU32 epoch state.store.v1Cp3Epoch ∧ state.store.Cp4Live) :
    (state.snapshotCp4 platform epoch view).product =
      cp4Program platform state.store.withoutInput view state.store.v1Cp4WireJob := by
  have hcheck : SameU32 epoch state.store.v1Cp3Epoch ∧ state.store.v1Cp3AppSecure = true ∧
      state.store.v1Cp4Pending = true ∧ state.store.v1Cp4Ready = false := hcommits
  unfold State.snapshotCp4 cp4Program openPing
  dsimp only
  rw [if_pos hcheck]
  dsimp only [Store.withoutInput]
  cases pqV1Cp4Iv platform.crypto view.faults platform.version state.store.v1Cp3Application.c2p
      state.store.v1Cp3SessionId pqV1AppC2p with
  | error error => rfl
  | ok iv =>
    dsimp only [Bind.bind, Except.bind]
    cases pqV1Cp4Decrypt platform.aead view.aeadFault platform.version state.store.v1Cp3Application.c2p iv
      state.store.v1Cp3SessionId state.store.v1Cp4WireJob pqV1AppC2p state.store.v1Cp4RxC2p 16 <;> rfl

/-- **A job that commits runs its program** on the bytes in its buffers. -/
theorem run_product (hjob : state.worker.job = some mode) (hcommits : state.Commits) :
    (state.workerStep platform view).2.product =
      program platform view state.reads mode (state.store.jobInput mode) := by
  unfold State.Commits at hcommits
  cases hworker : state.worker <;> rw [hworker] at hjob hcommits <;> cases hjob
  case startResult epoch =>
    have hrun := @storeStart_product platform state view epoch hcommits
    simpa only [State.workerStep, program, State.reads, Store.jobInput, hworker] using hrun
  case finishedStore epoch handshake =>
    have hrun := @storeFinished_product platform state view epoch handshake hcommits
    simpa only [State.workerStep, program, State.reads, Store.jobInput, hworker] using hrun
  case cp4Snapshot epoch =>
    have hrun := @snapshotCp4_product platform state view epoch hcommits
    simpa only [State.workerStep, program, State.reads, Store.jobInput, hworker] using hrun
  case cp2Result epoch =>
    have hprogram : cp2Program platform state.store.withoutInput view state.store.ciphertextJob
        state.store.sessionIdJob =
      match cp2Result platform state.store view with
      | none => fails state.store.withoutInput .decapsulationFailure
      | some wire => answers state.store.withoutInput wire := rfl
    simp only [State.workerStep, program, State.reads, Store.jobInput, hworker]
    rw [hprogram]
    cases cp2Result platform state.store view <;> rfl

/-- The encryption of the PONG answers the PING. -/
theorem encryptCp4_pong {snapshot : Cp4Snapshot} {challenge : Bytes} :
    (∃ wire, pong platform view snapshot challenge = ⟨.success, wire⟩ ∧
      (state.encryptCp4 platform epoch snapshot challenge view).worker = .cp4Ready epoch wire) ∨
    pong platform view snapshot challenge = ⟨.authenticationFailure, []⟩ ∧
      (state.encryptCp4 platform epoch snapshot challenge view).worker =
        .jobDone .v1Cp4C2p epoch .authenticationFailure [] := by
  have hsealed : pong platform view snapshot challenge =
      match sealPong platform snapshot challenge view with
      | .error _ => ⟨.authenticationFailure, []⟩
      | .ok wire => ⟨.success, wire⟩ := rfl
  unfold State.encryptCp4
  rw [hsealed]
  cases sealPong platform snapshot challenge view with
  | error error => exact .inr ⟨rfl, rfl⟩
  | ok wire => exact .inl ⟨wire, rfl, rfl⟩

/-- **A job whose session is gone** fails without output, and stores nothing. -/
theorem run_uncommitted (hjob : state.worker.job = some mode) (hcommits : ¬state.Commits) :
    ∃ epoch status, status ≠ .success ∧
      (state.workerStep platform view).2 = state.goto (.jobDone mode epoch status []) := by
  unfold State.Commits at hcommits
  unfold State.workerStep
  cases hworker : state.worker <;> rw [hworker] at hjob hcommits <;> cases hjob
  case startResult epoch =>
    refine ⟨epoch, .authenticationFailure, nofun, ?_⟩
    unfold State.storeStart
    dsimp only at hcommits ⊢
    split
    · exact if_neg hcommits
    · rfl
  case finishedStore epoch handshake =>
    refine ⟨epoch, .authenticationFailure, nofun, ?_⟩
    unfold State.storeFinished
    dsimp only at hcommits ⊢
    split
    · exact if_neg hcommits
    · rfl
  case cp4Snapshot epoch =>
    exact ⟨epoch, .authenticationFailure, nofun, if_neg hcommits⟩
  case cp2Result epoch => exact absurd trivial hcommits

end Runs

end PqBleHandshake.FirmwareV1
