import PqBleHandshake.Foundation.SingleSlot
import PqBleHandshake.Legacy.Slot

/-!
# What the jobs of v0.7 and v0.8 make of their bytes

A submission copies its bytes into the buffers of the job, and the worker reads them there: some when it takes
the job, some while it runs.  `program` says what a job makes of the bytes of its submission, in a state that
holds none of them any more; every step of the worker that commits a job is the run of its program.
-/

namespace PqBleHandshake.Legacy

open Foundation

/-- The sessions that a reset ends: `phase5_epoch` and `phase7_epoch` count their resets. -/
inductive SessionKind
  | phase5 | phase7
deriving DecidableEq, Repr

/-- The session whose epoch a job is submitted under. -/
def JobMode.session : JobMode → Option SessionKind
  | .phase2Diagnostic | .phase3Secure => none
  | .phase7AuthStart | .phase7AuthFinishedC | .phase7AppC2p => some .phase7
  | _ => some .phase5

/-- The bytes that a submission passes. -/
inductive JobInput
  | ciphertext (ct : Bytes)
  | session (ct : Bytes) (sid : Block 16)
  | hybrid (ct : Bytes) (sid : Block 16) (centralKey : Bytes)
  | finished (payload : Block 32)
  | command
  | wire (wire : Bytes)
deriving DecidableEq

/-- What `result_callback` is called with. -/
structure JobResult where
  status : JobStatus
  crc : UInt32
  wire : Bytes
deriving DecidableEq

/-- A failure without output. -/
def JobResult.Failed (result : JobResult) : Prop := result.status ≠ .success ∧ result.crc = 0 ∧ result.wire = []

/-- What a job leaves: its result, and the store without the buffers of the job. -/
structure JobProduct where
  result : JobResult
  store : Store

/-- The bytes in the job buffers that a mode reads. -/
def Store.jobInput (store : Store) : JobMode → JobInput
  | .phase2Diagnostic => .ciphertext store.ciphertextJob
  | .phase3Secure | .phase5Start => .session store.ciphertextJob store.sessionIdJob
  | .phase7HybridCp2 | .phase7AuthStart =>
    .hybrid store.ciphertextJob store.sessionIdJob store.phase7CentralPublicKeyJob
  | .phase5FinishedC => .finished store.finishedCJob
  | .phase5Data => .command
  | .phase6C2p => .wire store.phase6RxWireJob
  | .phase7AuthFinishedC => .finished store.phase7FinishedCJob
  | .phase7AppC2p => .wire store.phase7RxWireJob

/-- The store with its job buffers wiped. -/
def Store.withoutInput (store : Store) : Store :=
  { store with
    ciphertextJob := [], sessionIdJob := .zero 16, finishedCJob := .zero 32, phase6RxWireJob := []
    phase7CentralPublicKeyJob := [], phase7FinishedCJob := .zero 32, phase7RxWireJob := [] }

namespace Worker

/-- The worker without the bytes that it copied out of a job buffer. -/
def withoutInput : Worker → Worker
  | .finished7 epoch keys hash _ => .finished7 epoch keys hash (.zero 32)
  | .finished5 epoch keys hash _ => .finished5 epoch keys hash (.zero 32)
  | .app7 epoch snapshot => .app7 epoch { snapshot with wire := [] }
  | .app6 epoch snapshot => .app6 epoch { snapshot with wire := [] }
  | worker => worker

/-- The mode of the job that the worker is about to run. -/
def job : Worker → Option JobMode
  | .decapsulate mode _ => if mode.decapsulates then some mode else none
  | .finished7 _ _ _ _ => some .phase7AuthFinishedC
  | .app7 _ _ => some .phase7AppC2p
  | .finished5 _ _ _ _ => some .phase5FinishedC
  | .data5 _ _ _ => some .phase5Data
  | .app6 _ _ => some .phase6C2p
  | _ => none

end Worker

namespace State

/-- What a job finds besides its bytes. -/
def reads (state : State) : State :=
  { state with store := state.store.withoutInput, worker := state.worker.withoutInput }

/-- The bytes that the worker is about to run its job on. -/
def jobInput (state : State) : JobInput :=
  match state.worker with
  | .decapsulate mode _ => state.store.jobInput mode
  | .finished7 _ _ _ received | .finished5 _ _ _ received => .finished received
  | .app7 _ snapshot => .wire snapshot.wire
  | .app6 _ snapshot => .wire snapshot.wire
  | _ => .command

/-- The session of the job is the one that it was submitted for, so what it makes is stored. -/
def Commits (state : State) : Prop :=
  let store := state.store
  match state.worker with
  | .decapsulate .phase7AuthStart epoch => SameU32 epoch store.phase7Epoch
  | .decapsulate .phase5Start epoch => SameU32 epoch store.phase5Epoch
  | .finished7 epoch _ _ _ => SameU32 epoch store.phase7Epoch ∧ store.phase7WaitFinished = true
  | .app7 epoch _ => SameU32 epoch store.phase7Epoch ∧ store.phase7Authenticated = true
  | .finished5 epoch _ _ _ => SameU32 epoch store.phase5Epoch ∧ store.phase5WaitFinished = true
  | .app6 epoch _ =>
    SameU32 epoch store.phase5Epoch ∧ (store.phase6Active = true ∨ store.phase5ApplicationReady = true)
  | _ => True

instance (state : State) : Decidable state.Commits := by
  rcases state with ⟨main, store, service, worker, _⟩
  dsimp only [Commits]
  split <;> infer_instance

/-- What the job that has just run leaves. -/
def product (state : State) : JobProduct where
  result := match state.worker with
    | .jobDone _ _ status wire => ⟨status, state.crc, wire⟩
    | _ => ⟨.invalidProtocolState, state.crc, []⟩
  store := state.store.withoutInput

end State

/-! ## The programs -/

section Programs

variable (platform : Platform) (state : State) (view : WorkerView)

/-- The job stores something and answers with a frame. -/
def State.answers (store : Store) (wire : Bytes) : JobProduct := ⟨⟨.success, state.crc, wire⟩, store⟩

/-- The job stores something and fails. -/
def State.fails (store : Store) (status : JobStatus) : JobProduct := ⟨⟨status, state.crc, []⟩, store⟩

/-- A job that decapsulates its ciphertext first. -/
def decapsulated (ct : Bytes) (rest : Block 32 → JobProduct) : JobProduct :=
  match if view.decapsFault then none else platform.decaps ct with
  | none => state.fails state.store .decapsulationFailure
  | some ss => rest ss

/-- The Phase 7 START, with an ephemeral key pair. -/
def authStartProgram (ct : Bytes) (sid : Block 16) (centralKey : Bytes) (ss : Block 32) : JobProduct :=
  let start := do
    let pair ← view.keyPair
    let ssEcdh ← pair.agree centralKey
    phase7AuthStartResult platform.crypto view.faults platform.version ss ssEcdh sid platform.publicKey ct
      centralKey pair.publicKey secureWireSize
  match if view.destroyFault then none else start with
  | none => state.fails state.store.clearPhase7 .secureChannelFailure
  | some start => state.answers (state.store.storeStart start sid) start.ready

/-- The CP2 check of Phase 7, which stores nothing. -/
def cp2Program (ct : Bytes) (sid : Block 16) (centralKey : Bytes) (ss : Block 32) : JobProduct :=
  let ready := do
    let pair ← view.keyPair
    let ssEcdh ← pair.agree centralKey
    phase7Cp2Result platform.crypto view.faults platform.version ss ssEcdh sid platform.publicKey ct centralKey
      pair.publicKey secureWireSize
  match if view.destroyFault then none else ready with
  | none => state.fails state.store .secureChannelFailure
  | some ready => state.answers state.store ready

/-- The test message of Phase 3, under a key of the shared secret. -/
def testProgram (sid : Block 16) (ss : Block 32) : JobProduct :=
  match pqSecureEncryptTestMessage platform.crypto platform.aead view.faults view.encryptFault view.iv ss sid
      secureWireSize with
  | .error _ => state.fails state.store .secureChannelFailure
  | .ok wire => state.answers state.store wire

/-- The START5 of Phase 5. -/
def start5Program (ct : Bytes) (sid : Block 16) (ss : Block 32) : JobProduct :=
  match phase5StartResult platform.crypto view.faults ss sid (.ofBytes 1184 platform.publicKey)
      (.ofBytes 1088 ct) secureWireSize with
  | none => state.fails state.store .secureChannelFailure
  | some start =>
    state.answers (state.store.storePhase5 ⟨start.keys.application, start.keys.finishedC,
      start.keys.finishedP, start.hash, sid⟩) start.ready

/-- FINISHED_C of Phase 7: the answer proves the keys, which wait for its delivery. -/
def finished7Program (keys : Phase7Keys) (hash received : Block 32) : JobProduct :=
  if pqPhase7ComputeFinishedC platform.crypto view.faults platform.version keys.finishedC hash =
      some received then
    match phase7FinishedResult platform.crypto view.faults platform.version keys hash received
        secureWireSize with
    | none => state.fails state.store .secureChannelFailure
    | some (wire, traffic) => state.answers (state.store.storeTraffic traffic) wire
  else state.fails state.store .authenticationFailure

/-- FINISHED_C of Phase 5; a wrong one ends the session. -/
def finished5Program (keys : Phase7Keys) (hash received : Block 32) : JobProduct :=
  match phase5FinishedResult platform.crypto view.faults keys hash received secureWireSize with
  | none =>
    state.fails { state.store.clearPhase5 with phase5Epoch := state.store.phase5Epoch + 1 }
      .authenticationFailure
  | some wire => state.answers state.store.finishPhase5 wire

/-- A protected frame is opened under one key, and its answer sealed under the other. -/
def openedAndSealed (reply : UInt64 → Bytes → Option Bytes) (keys : Phase7TrafficKeys) (sid : Block 16)
    (last : Option UInt64) (sendSeq : UInt64) (wire : Bytes) : Except JobStatus (UInt64 × Bytes) :=
  match pqSecureDecryptWithKey platform.aead view.decryptFault keys.centralToPeripheral sid pqSecureCentralRole
      pqSecureMsgTypeData last wire 64 with
  | .error .ebadmsg => .error .authenticationFailure
  | .error .ealready => .error .invalidProtocolState
  | .error _ => .error .secureChannelFailure
  | .ok (accepted, plaintext) =>
    match reply accepted plaintext with
    | none => .error .invalidProtocolState
    | some payload =>
      match pqSecureEncryptWithKey platform.aead view.encryptFault view.iv keys.peripheralToCentral sid
          pqSecurePeripheralRole sendSeq pqSecureMsgTypeData payload secureWireSize with
      | .error _ => .error .secureChannelFailure
      | .ok answer => .ok (accepted, answer)

/-- The end of an application job: at the last send sequence the answer is held back. -/
def applicationProgram (store : UInt64 → Store) (sendSeq : UInt64)
    (opened : Except JobStatus (UInt64 × Bytes)) : JobProduct :=
  match opened with
  | .error status => state.fails state.store status
  | .ok (accepted, answer) =>
    if sendSeq = uint64Max then state.fails (store accepted) .invalidProtocolState
    else state.answers (store accepted) answer

/-- A protected frame of Phase 7. -/
def app7Program (snapshot : AppSnapshot) (wire : Bytes) : JobProduct :=
  applicationProgram state (state.store.storeCounters · snapshot.sendSeq) snapshot.sendSeq
    (openedAndSealed platform view State.testReply snapshot.keys snapshot.sid snapshot.last snapshot.sendSeq wire)

/-- A protected frame of Phase 6; the first one derives the traffic keys. -/
def app6Program (snapshot : Phase6Snapshot) (wire : Bytes) : JobProduct :=
  let keys := if snapshot.active then some snapshot.keys
    else pqPhase6DeriveTrafficKeys platform.crypto view.faults snapshot.application
  match keys with
  | none => state.fails state.store .secureChannelFailure
  | some keys =>
    applicationProgram state (state.store.storePhase6 keys snapshot.sid · snapshot.sendSeq) snapshot.sendSeq
      (openedAndSealed platform view State.phase6Reply keys snapshot.sid snapshot.last snapshot.sendSeq wire)

/-- What a job of a mode makes of the bytes that it was submitted with; no other bytes fit the mode. -/
def program (mode : JobMode) (input : JobInput) : JobProduct :=
  match mode, input, state.worker with
  | .phase2Diagnostic, .ciphertext ct, _ => decapsulated platform state view ct fun ss ↦
    ⟨⟨.success, State.crc32Ieee ss.bytes, []⟩, state.store⟩
  | .phase3Secure, .session ct sid, _ =>
    decapsulated platform state view ct (testProgram platform state view sid)
  | .phase5Start, .session ct sid, _ =>
    decapsulated platform state view ct (start5Program platform state view ct sid)
  | .phase7HybridCp2, .hybrid ct sid centralKey, _ =>
    decapsulated platform state view ct (cp2Program platform state view ct sid centralKey)
  | .phase7AuthStart, .hybrid ct sid centralKey, _ =>
    decapsulated platform state view ct (authStartProgram platform state view ct sid centralKey)
  | .phase7AuthFinishedC, .finished received, .finished7 _ keys hash _ =>
    finished7Program platform state view keys hash received
  | .phase7AppC2p, .wire wire, .app7 _ snapshot => app7Program platform state view snapshot wire
  | .phase5FinishedC, .finished received, .finished5 _ keys hash _ =>
    finished5Program platform state view keys hash received
  | .phase5Data, .command, .data5 _ key sid =>
    match pqSecureEncryptTestMessageWithKey platform.aead view.encryptFault view.iv key sid secureWireSize with
    | .error _ => state.fails state.store .secureChannelFailure
    | .ok wire => state.answers state.store wire
  | .phase6C2p, .wire wire, .app6 _ snapshot => app6Program platform state view snapshot wire
  | _, _, _ => state.fails state.store .invalidProtocolState

end Programs

/-! ## The worker runs them -/

section Runs

variable {platform : Platform} {state next : State} {view : WorkerView} {mode : JobMode} {epoch : ℕ}

theorem answerFrame_eq {reply : UInt64 → Bytes → Option Bytes} {keys : Phase7TrafficKeys} {sid : Block 16}
    {last : Option UInt64} {sendSeq : UInt64} {wire : Bytes} :
    State.answerFrame platform view reply keys sid last sendSeq wire =
      openedAndSealed platform view reply keys sid last sendSeq wire := by
  unfold State.answerFrame State.appDecrypt State.appEncrypt openedAndSealed
  cases pqSecureDecryptWithKey platform.aead view.decryptFault keys.centralToPeripheral sid pqSecureCentralRole
      pqSecureMsgTypeData last wire 64 with
  | error error => cases error <;> rfl
  | ok opened =>
    obtain ⟨accepted, plaintext⟩ := opened
    dsimp only [Except.mapError, Bind.bind, Except.bind]
    cases reply accepted plaintext with
    | none => rfl
    | some payload =>
      dsimp only [orFail]
      cases pqSecureEncryptWithKey platform.aead view.encryptFault view.iv keys.peripheralToCentral sid
        pqSecurePeripheralRole sendSeq pqSecureMsgTypeData payload secureWireSize <;> rfl

theorem openedAndSealed_ne_success {reply : UInt64 → Bytes → Option Bytes} {keys : Phase7TrafficKeys}
    {sid : Block 16} {last : Option UInt64} {sendSeq : UInt64} {wire : Bytes} {status : JobStatus}
    (h : openedAndSealed platform view reply keys sid last sendSeq wire = .error status) :
    status ≠ .success := by
  rintro rfl
  unfold openedAndSealed at h
  repeat' split at h
  all_goals cases h

theorem runDecapsulate_product (hworker : state.worker = .decapsulate mode epoch)
    (hmode : mode.decapsulates = true) (hcommits : state.Commits) :
    (state.runDecapsulate platform mode epoch view).product =
      program platform state.reads view mode (state.store.jobInput mode) := by
  unfold State.Commits at hcommits
  rw [hworker] at hcommits
  unfold State.runDecapsulate State.decapsulate
  dsimp only
  cases mode <;> try cases hmode
  case phase2Diagnostic =>
    unfold program Store.jobInput decapsulated
    dsimp only
    cases if view.decapsFault then none else platform.decaps state.store.ciphertextJob <;> rfl
  case phase3Secure =>
    unfold program Store.jobInput decapsulated testProgram State.testMessage
    dsimp only
    cases if view.decapsFault then none else platform.decaps state.store.ciphertextJob with
    | none => rfl
    | some ss =>
      dsimp only
      cases pqSecureEncryptTestMessage platform.crypto platform.aead view.faults view.encryptFault view.iv ss
        state.store.sessionIdJob secureWireSize <;> rfl
  case phase5Start =>
    unfold program Store.jobInput decapsulated start5Program State.start5
    dsimp only at hcommits ⊢
    cases if view.decapsFault then none else platform.decaps state.store.ciphertextJob with
    | none => rfl
    | some ss =>
      dsimp only
      cases phase5StartResult platform.crypto view.faults ss state.store.sessionIdJob
        (.ofBytes 1184 platform.publicKey) (.ofBytes 1088 state.store.ciphertextJob) secureWireSize with
      | none => rfl
      | some start =>
        dsimp only
        rw [if_pos hcommits]
        rfl
  case phase7HybridCp2 =>
    unfold program Store.jobInput decapsulated cp2Program State.cp2Result
    dsimp only
    cases if view.decapsFault then none else platform.decaps state.store.ciphertextJob with
    | none => rfl
    | some ss =>
      cases view.keyPair with
      | none => cases view.destroyFault <;> rfl
      | some pair =>
        dsimp only [Option.bind_eq_bind, Option.bind_some]
        cases pair.agree state.store.phase7CentralPublicKeyJob with
        | none => cases view.destroyFault <;> rfl
        | some ssEcdh =>
          dsimp only [Option.bind_some]
          cases phase7Cp2Result platform.crypto view.faults platform.version ss ssEcdh state.store.sessionIdJob
              platform.publicKey state.store.ciphertextJob state.store.phase7CentralPublicKeyJob pair.publicKey
              secureWireSize <;>
            cases view.destroyFault <;> rfl
  case phase7AuthStart =>
    unfold program Store.jobInput decapsulated authStartProgram State.authStart Store.discardStart
    dsimp only at hcommits ⊢
    rw [if_pos hcommits]
    cases if view.decapsFault then none else platform.decaps state.store.ciphertextJob with
    | none => rfl
    | some ss =>
      dsimp only
      cases hstart : (if view.destroyFault = true then none else do
        let pair ← view.keyPair
        let ssEcdh ← pair.agree state.store.phase7CentralPublicKeyJob
        phase7AuthStartResult platform.crypto view.faults platform.version ss ssEcdh state.store.sessionIdJob
          platform.publicKey state.store.ciphertextJob state.store.phase7CentralPublicKeyJob pair.publicKey
          secureWireSize) with
      | none => rfl
      | some start =>
        dsimp only
        rw [if_pos hcommits]
        rfl

theorem runFinished7_product {keys : Phase7Keys} {hash received : Block 32}
    (hcommits : SameU32 epoch state.store.phase7Epoch ∧ state.store.phase7WaitFinished = true) :
    (state.runFinished7 platform epoch keys hash received view).product =
      finished7Program platform state.reads view keys hash received := by
  unfold State.runFinished7 finished7Program
  by_cases hexpected : pqPhase7ComputeFinishedC platform.crypto view.faults platform.version keys.finishedC hash =
      some received
  · rw [if_neg (not_not_intro hexpected), if_pos hexpected]
    cases phase7FinishedResult platform.crypto view.faults platform.version keys hash received
      secureWireSize with
    | none => rfl
    | some answer =>
      dsimp only
      rw [if_pos hcommits]
      rfl
  · rw [if_pos hexpected, if_neg hexpected]
    rfl

theorem runApp7_product {snapshot : AppSnapshot}
    (hcommits : SameU32 epoch state.store.phase7Epoch ∧ state.store.phase7Authenticated = true) :
    (state.runApp7 platform epoch snapshot view).product =
      app7Program platform state.reads view { snapshot with wire := [] } snapshot.wire := by
  unfold State.runApp7 app7Program applicationProgram
  rw [answerFrame_eq]
  cases openedAndSealed platform view State.testReply snapshot.keys snapshot.sid snapshot.last snapshot.sendSeq
    snapshot.wire with
  | error status => rfl
  | ok answer =>
    dsimp only
    rw [if_pos hcommits]
    split <;> rfl

theorem runFinished5_product {keys : Phase7Keys} {hash received : Block 32}
    (hcommits : SameU32 epoch state.store.phase5Epoch ∧ state.store.phase5WaitFinished = true) :
    (state.runFinished5 platform epoch keys hash received view).product =
      finished5Program platform state.reads view keys hash received := by
  unfold State.runFinished5 finished5Program
  dsimp only
  rw [if_pos hcommits]
  cases phase5FinishedResult platform.crypto view.faults keys hash received secureWireSize <;> rfl

theorem runApp6_product {snapshot : Phase6Snapshot} (hcommits : SameU32 epoch state.store.phase5Epoch ∧
      (state.store.phase6Active = true ∨ state.store.phase5ApplicationReady = true)) :
    (state.runApp6 platform epoch snapshot view).product =
      app6Program platform state.reads view { snapshot with wire := [] } snapshot.wire := by
  unfold State.runApp6 app6Program State.phase6Answer State.phase6Keys applicationProgram
  dsimp only
  cases if snapshot.active then some snapshot.keys
    else pqPhase6DeriveTrafficKeys platform.crypto view.faults snapshot.application with
  | none => rfl
  | some keys =>
    dsimp only [orFail, Bind.bind, Except.bind]
    rw [answerFrame_eq]
    cases openedAndSealed platform view State.phase6Reply keys snapshot.sid snapshot.last snapshot.sendSeq
      snapshot.wire with
    | error status => rfl
    | ok answer =>
      dsimp only [pure, Except.pure]
      rw [if_pos hcommits]
      split <;> rfl

/-- **A job that commits runs its program** on the bytes that the worker holds for it. -/
theorem run_product (hjob : state.worker.job = some mode) (hcommits : state.Commits)
    (hstep : state.workerStep platform view = some next) :
    next.product = program platform state.reads view mode state.jobInput := by
  have hbefore := hcommits
  unfold State.Commits at hcommits
  unfold State.workerStep at hstep
  cases hworker : state.worker <;> rw [hworker] at hjob hcommits hstep
  case decapsulate own epoch =>
    obtain ⟨hmode, rfl⟩ : own.decapsulates = true ∧ own = mode := by
      simpa [Worker.job] using hjob
    cases hstep
    rw [runDecapsulate_product hworker hmode hbefore, State.jobInput, hworker]
  case finished7 epoch keys hash received =>
    cases hjob
    cases hstep
    rw [runFinished7_product hcommits]
    simp only [program, State.jobInput, State.reads, Worker.withoutInput, hworker]
  case app7 epoch snapshot =>
    cases hjob
    cases hstep
    rw [runApp7_product hcommits]
    simp only [program, State.jobInput, State.reads, Worker.withoutInput, hworker]
  case finished5 epoch keys hash received =>
    cases hjob
    cases hstep
    rw [runFinished5_product hcommits]
    simp only [program, State.jobInput, State.reads, Worker.withoutInput, hworker]
  case data5 epoch key sid =>
    cases hjob
    cases hstep
    unfold State.runData5
    simp only [program, State.jobInput, State.reads, Worker.withoutInput, hworker]
    cases pqSecureEncryptTestMessageWithKey platform.aead view.encryptFault view.iv key sid
      secureWireSize <;> rfl
  case app6 epoch snapshot =>
    cases hjob
    cases hstep
    rw [runApp6_product hcommits]
    simp only [program, State.jobInput, State.reads, Worker.withoutInput, hworker]
  all_goals cases hjob

/-- A step that ends the computation of a job. -/
structure Ended (mode : JobMode) (state next : State) : Prop where
  worker : ∃ epoch status wire, state.worker.epoch = some epoch ∧ next.worker = .jobDone mode epoch status wire
  queue : next.store.jobPending = state.store.jobPending ∧ next.store.jobActive = state.store.jobActive ∧
    next.store.keypairReady = state.store.keypairReady
  phase7 : next.store.phase7Epoch = state.store.phase7Epoch
  phase5 : mode ≠ .phase5FinishedC → next.store.phase5Epoch = state.store.phase5Epoch
  crc : mode ≠ .phase2Diagnostic → next.crc = state.crc

theorem runDecapsulate_ended (hworker : state.worker = .decapsulate mode epoch) :
    Ended mode state (state.runDecapsulate platform mode epoch view) := by
  have hepoch : state.worker.epoch = some epoch := by rw [hworker]; rfl
  have hfailed : ∀ status, Ended mode state (state.failJob mode epoch status) := fun status ↦
    ⟨⟨epoch, status, [], hepoch, rfl⟩, ⟨rfl, rfl, rfl⟩, rfl, fun _ ↦ rfl, fun _ ↦ rfl⟩
  unfold State.runDecapsulate
  dsimp only
  split
  · exact hfailed _
  cases mode <;> dsimp only
  case phase7AuthStart =>
    split
    · unfold Store.discardStart
      split <;> exact ⟨⟨_, _, _, hepoch, rfl⟩, ⟨rfl, rfl, rfl⟩, rfl, fun _ ↦ rfl, fun _ ↦ rfl⟩
    · split
      · exact ⟨⟨_, _, _, hepoch, rfl⟩, ⟨rfl, rfl, rfl⟩, rfl, fun _ ↦ rfl, fun _ ↦ rfl⟩
      · exact hfailed _
  case phase7HybridCp2 | phase3Secure =>
    split
    · exact hfailed _
    · exact ⟨⟨_, _, _, hepoch, rfl⟩, ⟨rfl, rfl, rfl⟩, rfl, fun _ ↦ rfl, fun _ ↦ rfl⟩
  case phase2Diagnostic =>
    exact ⟨⟨_, _, _, hepoch, rfl⟩, ⟨rfl, rfl, rfl⟩, rfl, fun _ ↦ rfl, fun hmode ↦ absurd rfl hmode⟩
  case phase5Start =>
    split
    · exact hfailed _
    · split
      · exact ⟨⟨_, _, _, hepoch, rfl⟩, ⟨rfl, rfl, rfl⟩, rfl, fun _ ↦ rfl, fun _ ↦ rfl⟩
      · exact hfailed _
  all_goals exact hfailed _

theorem run_ended (hjob : state.worker.job = some mode) :
    ∃ next, state.workerStep platform view = some next ∧ Ended mode state next := by
  unfold State.workerStep
  cases hworker : state.worker <;> rw [hworker] at hjob
  case decapsulate own epoch =>
    obtain ⟨-, rfl⟩ : own.decapsulates = true ∧ own = mode := by simpa [Worker.job] using hjob
    exact ⟨_, rfl, runDecapsulate_ended hworker⟩
  case finished7 epoch keys hash received =>
    cases hjob
    have hepoch : state.worker.epoch = some epoch := by rw [hworker]; rfl
    refine ⟨_, rfl, ?_⟩
    unfold State.runFinished7
    dsimp only
    split
    · exact ⟨⟨_, _, _, hepoch, rfl⟩, ⟨rfl, rfl, rfl⟩, rfl, fun _ ↦ rfl, fun _ ↦ rfl⟩
    · split
      · exact ⟨⟨_, _, _, hepoch, rfl⟩, ⟨rfl, rfl, rfl⟩, rfl, fun _ ↦ rfl, fun _ ↦ rfl⟩
      · split <;> exact ⟨⟨_, _, _, hepoch, rfl⟩, ⟨rfl, rfl, rfl⟩, rfl, fun _ ↦ rfl, fun _ ↦ rfl⟩
  case app7 epoch snapshot =>
    cases hjob
    have hepoch : state.worker.epoch = some epoch := by rw [hworker]; rfl
    refine ⟨_, rfl, ?_⟩
    unfold State.runApp7
    dsimp only
    split
    · exact ⟨⟨_, _, _, hepoch, rfl⟩, ⟨rfl, rfl, rfl⟩, rfl, fun _ ↦ rfl, fun _ ↦ rfl⟩
    · split
      · split <;> exact ⟨⟨_, _, _, hepoch, rfl⟩, ⟨rfl, rfl, rfl⟩, rfl, fun _ ↦ rfl, fun _ ↦ rfl⟩
      · exact ⟨⟨_, _, _, hepoch, rfl⟩, ⟨rfl, rfl, rfl⟩, rfl, fun _ ↦ rfl, fun _ ↦ rfl⟩
  case finished5 epoch keys hash received =>
    cases hjob
    have hepoch : state.worker.epoch = some epoch := by rw [hworker]; rfl
    refine ⟨_, rfl, ?_⟩
    unfold State.runFinished5
    dsimp only
    split
    · split <;> exact ⟨⟨_, _, _, hepoch, rfl⟩, ⟨rfl, rfl, rfl⟩, rfl, fun hmode ↦ absurd rfl hmode, fun _ ↦ rfl⟩
    · exact ⟨⟨_, _, _, hepoch, rfl⟩, ⟨rfl, rfl, rfl⟩, rfl, fun _ ↦ rfl, fun _ ↦ rfl⟩
  case data5 epoch key sid =>
    cases hjob
    have hepoch : state.worker.epoch = some epoch := by rw [hworker]; rfl
    refine ⟨_, rfl, ?_⟩
    unfold State.runData5
    split <;> exact ⟨⟨_, _, _, hepoch, rfl⟩, ⟨rfl, rfl, rfl⟩, rfl, fun _ ↦ rfl, fun _ ↦ rfl⟩
  case app6 epoch snapshot =>
    cases hjob
    have hepoch : state.worker.epoch = some epoch := by rw [hworker]; rfl
    refine ⟨_, rfl, ?_⟩
    unfold State.runApp6
    dsimp only
    split
    · exact ⟨⟨_, _, _, hepoch, rfl⟩, ⟨rfl, rfl, rfl⟩, rfl, fun _ ↦ rfl, fun _ ↦ rfl⟩
    · split
      · split <;> exact ⟨⟨_, _, _, hepoch, rfl⟩, ⟨rfl, rfl, rfl⟩, rfl, fun _ ↦ rfl, fun _ ↦ rfl⟩
      · exact ⟨⟨_, _, _, hepoch, rfl⟩, ⟨rfl, rfl, rfl⟩, rfl, fun _ ↦ rfl, fun _ ↦ rfl⟩
  all_goals cases hjob

/-- **A job whose session is gone** fails without output, and stores nothing. -/
theorem run_uncommitted (hjob : state.worker.job = some mode) (hcommits : ¬state.Commits) :
    ∃ epoch status, status ≠ .success ∧ state.workerStep platform view = some (state.failJob mode epoch status) := by
  unfold State.Commits at hcommits
  unfold State.workerStep
  cases hworker : state.worker <;> rw [hworker] at hjob hcommits <;> dsimp only at hcommits ⊢
  case decapsulate own epoch =>
    obtain ⟨-, rfl⟩ : own.decapsulates = true ∧ own = mode := by simpa [Worker.job] using hjob
    unfold State.runDecapsulate
    dsimp only
    cases hss : State.decapsulate platform view state.store.ciphertextJob with
    | none => exact ⟨epoch, .decapsulationFailure, nofun, rfl⟩
    | some ss =>
      cases own <;> dsimp only at hcommits ⊢
      case phase7AuthStart =>
        cases if view.destroyFault then none else State.authStart platform state.store ss view with
        | none =>
          unfold Store.discardStart
          rw [if_neg hcommits]
          exact ⟨epoch, .secureChannelFailure, nofun, rfl⟩
        | some start =>
          dsimp only
          rw [if_neg hcommits]
          exact ⟨epoch, .secureChannelFailure, nofun, rfl⟩
      case phase5Start =>
        cases State.start5 platform state.store ss view with
        | none => exact ⟨epoch, .secureChannelFailure, nofun, rfl⟩
        | some start =>
          dsimp only
          rw [if_neg hcommits]
          exact ⟨epoch, .invalidProtocolState, nofun, rfl⟩
      all_goals exact absurd trivial hcommits
  case finished7 epoch keys hash received =>
    cases hjob
    unfold State.runFinished7
    dsimp only
    split
    · exact ⟨epoch, .authenticationFailure, nofun, rfl⟩
    · split
      · exact ⟨epoch, .secureChannelFailure, nofun, rfl⟩
      · exact ⟨epoch, .invalidProtocolState, nofun, rfl⟩
  case app7 epoch snapshot =>
    cases hjob
    unfold State.runApp7
    rw [answerFrame_eq]
    dsimp only
    split
    · rename_i status hopened
      exact ⟨epoch, status, openedAndSealed_ne_success hopened, rfl⟩
    · rw [if_neg hcommits]
      exact ⟨epoch, .invalidProtocolState, nofun, rfl⟩
  case finished5 epoch keys hash received =>
    cases hjob
    unfold State.runFinished5
    dsimp only
    rw [if_neg hcommits]
    exact ⟨epoch, .invalidProtocolState, nofun, rfl⟩
  case app6 epoch snapshot =>
    cases hjob
    unfold State.runApp6 State.phase6Answer
    dsimp only
    cases State.phase6Keys platform view snapshot with
    | none => exact ⟨epoch, .secureChannelFailure, nofun, rfl⟩
    | some keys =>
      dsimp only [orFail, Bind.bind, Except.bind]
      rw [answerFrame_eq]
      cases hopened : openedAndSealed platform view State.phase6Reply keys snapshot.sid snapshot.last
          snapshot.sendSeq snapshot.wire with
      | error status => exact ⟨epoch, status, openedAndSealed_ne_success hopened, rfl⟩
      | ok answer =>
        dsimp only [pure, Except.pure]
        rw [if_neg hcommits]
        exact ⟨epoch, .invalidProtocolState, nofun, rfl⟩
  all_goals exact absurd trivial hcommits

end Runs

end PqBleHandshake.Legacy
