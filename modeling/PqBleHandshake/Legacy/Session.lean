import PqBleHandshake.Handshake.Phase7
import PqBleHandshake.Application.Cp4
import PqBleHandshake.CiphertextTransfer
import PqBleHandshake.Link

/-!
# The session store of v0.7 and v0.8

The part of `mlkem_session.c` that the two hybrid profiles use.  Every function runs under `session_lock`,
so a call is one step.  Epochs are counted without wrapping and compared as `uint32_t`.
-/

namespace PqBleHandshake.Legacy

open Foundation

/-- `enum pq_mlkem_job_mode` -/
inductive JobMode
  | phase2Diagnostic | phase3Secure | phase5Start | phase5FinishedC | phase5Data | phase6C2p
  | phase7HybridCp2 | phase7AuthStart | phase7AuthFinishedC | phase7AppC2p
deriving DecidableEq, Repr

namespace JobMode

/-- The modes whose epoch is `phase7_epoch`. -/
def isPhase7 (mode : JobMode) : Bool :=
  mode = .phase7AuthStart || mode = .phase7AuthFinishedC || mode = .phase7AppC2p

/-- The modes that begin with a decapsulation. -/
def decapsulates (mode : JobMode) : Bool :=
  mode = .phase2Diagnostic || mode = .phase3Secure || mode = .phase5Start ||
    mode = .phase7HybridCp2 || mode = .phase7AuthStart

end JobMode

/-- `enum pq_mlkem_diagnostic_status` -/
inductive JobStatus
  | success | decapsulationFailure | invalidProtocolState | secureChannelFailure
  | authenticationFailure
deriving DecidableEq, Repr

/-- Keys of zeros. -/
def zeroKeys : Phase7Keys := ⟨.zero 32, .zero 32, .zero 32, .zero 32⟩

/-- Traffic keys of zeros. -/
def zeroTrafficKeys : Phase7TrafficKeys := ⟨.zero 32, .zero 32⟩

/-- The bytes that Phase 5 retains between its jobs. -/
structure Phase5Material where
  application : Block 32
  finishedC : Block 32
  finishedP : Block 32
  transcriptHash : Block 32
  sessionId : Block 16
deriving DecidableEq

/-- The bytes and counters that Phase 6 retains between its jobs. -/
structure Phase6Material where
  centralToPeripheral : Block 32
  peripheralToCentral : Block 32
  sessionId : Block 16
  hasLastRecvSeq : Bool
  lastRecvSeq : UInt64
  nextSendSeq : UInt64
deriving DecidableEq

/-- Phase 5 retains nothing. -/
def Phase5Material.zero : Phase5Material := ⟨.zero 32, .zero 32, .zero 32, .zero 32, .zero 16⟩

/-- Phase 6 retains nothing. -/
def Phase6Material.zero : Phase6Material := ⟨.zero 32, .zero 32, .zero 16, false, 0, 0⟩

/-- The file-scope state of `mlkem_session.c`. -/
structure Store where
  keypairReady : Bool
  pendingJobMode : JobMode
  jobPending : Bool
  jobActive : Bool
  phase5Epoch : ℕ
  pendingPhase5Epoch : ℕ
  phase5Material : Phase5Material
  phase5WaitFinished : Bool
  phase5ApplicationReady : Bool
  phase6Material : Phase6Material
  phase6Active : Bool
  phase7Epoch : ℕ
  pendingPhase7Epoch : ℕ
  phase7Keys : Phase7Keys
  phase7TranscriptHash : Block 32
  phase7SessionId : Block 16
  phase7WaitFinished : Bool
  phase7Authenticated : Bool
  phase7TrafficPending : Bool
  phase7PendingTrafficKeys : Phase7TrafficKeys
  phase7TrafficKeys : Phase7TrafficKeys
  phase7HasLastRecvSeq : Bool
  phase7LastRecvSeq : UInt64
  phase7NextSendSeq : UInt64
  phase8PendingRoot : Block 32
  phase8FullTh : Block 32
  ciphertextJob : Bytes
  sessionIdJob : Block 16
  finishedCJob : Block 32
  phase6RxWireJob : Bytes
  phase7CentralPublicKeyJob : Bytes
  phase7FinishedCJob : Block 32
  phase7RxWireJob : Bytes
deriving DecidableEq

/-- The store once the key pair of this boot exists. -/
def Store.boot : Store where
  keypairReady := true
  pendingJobMode := .phase2Diagnostic
  jobPending := false
  jobActive := false
  phase5Epoch := 0
  pendingPhase5Epoch := 0
  phase5Material := .zero
  phase5WaitFinished := false
  phase5ApplicationReady := false
  phase6Material := .zero
  phase6Active := false
  phase7Epoch := 0
  pendingPhase7Epoch := 0
  phase7Keys := zeroKeys
  phase7TranscriptHash := .zero 32
  phase7SessionId := .zero 16
  phase7WaitFinished := false
  phase7Authenticated := false
  phase7TrafficPending := false
  phase7PendingTrafficKeys := zeroTrafficKeys
  phase7TrafficKeys := zeroTrafficKeys
  phase7HasLastRecvSeq := false
  phase7LastRecvSeq := 0
  phase7NextSendSeq := 0
  phase8PendingRoot := .zero 32
  phase8FullTh := .zero 32
  ciphertextJob := []
  sessionIdJob := .zero 16
  finishedCJob := .zero 32
  phase6RxWireJob := []
  phase7CentralPublicKeyJob := []
  phase7FinishedCJob := .zero 32
  phase7RxWireJob := []

namespace Store

/-! ## Clearing -/

/-- `clear_phase5_material_locked` -/
def clearPhase5 (store : Store) : Store :=
  { store with
    phase5Material := .zero, phase5WaitFinished := false, phase5ApplicationReady := false }

/-- `clear_phase6_material_locked` -/
def clearPhase6 (store : Store) : Store :=
  { store with phase6Material := .zero, phase6RxWireJob := [], phase6Active := false }

/-- `clear_phase7_material_locked` -/
def clearPhase7 (store : Store) : Store :=
  { store with
    phase8PendingRoot := .zero 32
    phase8FullTh := .zero 32
    phase7Keys := zeroKeys
    phase7PendingTrafficKeys := zeroTrafficKeys
    phase7TrafficKeys := zeroTrafficKeys
    phase7TranscriptHash := .zero 32
    phase7SessionId := .zero 16
    phase7FinishedCJob := .zero 32
    phase7RxWireJob := []
    phase7WaitFinished := false
    phase7Authenticated := false
    phase7TrafficPending := false
    phase7HasLastRecvSeq := false
    phase7LastRecvSeq := 0
    phase7NextSendSeq := 0 }

/-- `pq_mlkem_session_reset_phase5` -/
def resetPhase5 (store : Store) : Store :=
  { store.clearPhase5.clearPhase6 with phase5Epoch := store.phase5Epoch + 1 }

/-- `pq_mlkem_session_reset_phase7` -/
def resetPhase7 (store : Store) : Store :=
  { store.clearPhase7 with phase7Epoch := store.phase7Epoch + 1 }

/-! ## Submissions

A submission that is refused says in which state it leaves the store. -/

/-- The slot can take a job. -/
def SlotFree (store : Store) : Prop := store.jobPending = false ∧ store.jobActive = false

instance (store : Store) : Decidable store.SlotFree := inferInstanceAs (Decidable (_ ∧ _))

/-- What `submit_job` writes; START5 and START7 invalidate the retained Phase 5 and Phase 6 material. -/
def queueJob (store : Store) (mode : JobMode) (ct : Bytes) (sid : Block 16) (centralKey : Bytes) : Store :=
  let store := { store with
    ciphertextJob := ct, pendingJobMode := mode, pendingPhase5Epoch := 0, jobPending := true
    sessionIdJob := if mode = .phase2Diagnostic then .zero 16 else sid
    phase7CentralPublicKeyJob :=
      if mode = .phase7HybridCp2 then centralKey else store.phase7CentralPublicKeyJob }
  if mode = .phase5Start ∨ mode = .phase7HybridCp2 then
    { store.resetPhase5 with pendingPhase5Epoch := store.phase5Epoch + 1 }
  else store

/-- `submit_job`, for the four modes of Phases 2, 3, 5 and the CP2 check of Phase 7. -/
def submitJob (store : Store) (mode : JobMode) (ct : Bytes) (sid : Block 16) (centralKey : Bytes) :
    Except (Errno × Store) Store := do
  require (ct.length = 1088) (.einval, store)
  require (mode = .phase7HybridCp2 → centralKey.getD 0 0 = 0x04) (.einval, store)
  require store.keypairReady (.eacces, store)
  require store.SlotFree (.ebusy, store)
  return store.queueJob mode ct sid centralKey

/-- `pq_mlkem_session_submit_phase5_finished_c` and `pq_mlkem_session_submit_phase5_data` -/
def submitPhase5Command (store : Store) (mode : JobMode) (payload : Block 32) : Except (Errno × Store) Store := do
  require (store.keypairReady ∧ (if mode = .phase5FinishedC then store.phase5WaitFinished
    else store.phase5ApplicationReady)) (.eacces, store)
  require store.SlotFree (.ebusy, store)
  return { store with
    finishedCJob := if mode = .phase5FinishedC then payload else store.finishedCJob
    pendingJobMode := mode, pendingPhase5Epoch := store.phase5Epoch, jobPending := true }

/-- `pq_mlkem_session_submit_phase6_c2p` -/
def submitPhase6C2p (store : Store) (wire : Bytes) : Except (Errno × Store) Store := do
  require (pqSecureFixedOverhead ≤ wire.length ∧ wire.length ≤ pqSecureMaxWireSize) (.einval, store)
  require (store.keypairReady ∧ (store.phase5ApplicationReady ∨ store.phase6Active)) (.eacces, store)
  require store.SlotFree (.ebusy, store)
  return { store with
    phase6RxWireJob := wire, pendingJobMode := .phase6C2p, pendingPhase5Epoch := store.phase5Epoch
    jobPending := true }

/-- `pq_mlkem_session_submit_phase7_auth`; it invalidates every session that was retained. -/
def submitPhase7Auth (store : Store) (ct : Bytes) (sid : Block 16) (centralKey : Bytes) :
    Except (Errno × Store) Store := do
  require (ct.length = 1088 ∧ centralKey.getD 0 0 = 0x04) (.einval, store)
  require store.keypairReady (.eacces, store)
  require store.SlotFree (.ebusy, store)
  return { store.resetPhase5.resetPhase7 with
    ciphertextJob := ct, sessionIdJob := sid, phase7CentralPublicKeyJob := centralKey
    pendingJobMode := .phase7AuthStart, pendingPhase7Epoch := store.phase7Epoch + 1
    jobPending := true }

/-- `pq_mlkem_session_submit_phase7_finished_c` -/
def submitPhase7FinishedC (store : Store) (finishedC : Block 32) : Except (Errno × Store) Store := do
  require (store.keypairReady ∧ store.phase7WaitFinished) (.eacces, store)
  require store.SlotFree (.ebusy, store)
  return { store with
    phase7FinishedCJob := finishedC, pendingJobMode := .phase7AuthFinishedC
    pendingPhase7Epoch := store.phase7Epoch, jobPending := true }

/-- `pq_mlkem_session_submit_phase7_c2p` -/
def submitPhase7C2p (store : Store) (wire : Bytes) : Except (Errno × Store) Store := do
  require (pqSecureFixedOverhead ≤ wire.length ∧ wire.length ≤ pqSecureMaxWireSize) (.einval, store)
  require (store.keypairReady ∧ store.phase7Authenticated ∧ store.phase7TrafficPending = false) (.eacces, store)
  require store.SlotFree (.ebusy, store)
  return { store with
    phase7RxWireJob := wire, pendingJobMode := .phase7AppC2p
    pendingPhase7Epoch := store.phase7Epoch, jobPending := true }

/-! ## The sections of the worker and the commit -/

/-- What the START5 job retains for FINISHED_C. -/
def storePhase5 (store : Store) (material : Phase5Material) : Store :=
  { store.clearPhase5 with phase5Material := material, phase5WaitFinished := true }

/-- A verified FINISHED_C of Phase 5 leaves the application key and the session id. -/
def finishPhase5 (store : Store) : Store :=
  { store with
    phase5Material := { store.phase5Material with
      finishedC := .zero 32, finishedP := .zero 32, transcriptHash := .zero 32 }
    phase5WaitFinished := false
    phase5ApplicationReady := true }

/-- The first application frame of Phase 6 installs its traffic keys, and every frame moves the counters;
the last send sequence is not passed. -/
def storePhase6 (store : Store) (keys : Phase7TrafficKeys) (sid : Block 16) (accepted sendSeq : UInt64) : Store :=
  let material := if store.phase6Active then store.phase6Material
    else { store.phase6Material with
      centralToPeripheral := keys.centralToPeripheral
      peripheralToCentral := keys.peripheralToCentral
      sessionId := sid }
  { store with
    phase5Material := if store.phase6Active then store.phase5Material
      else { store.phase5Material with application := .zero 32, sessionId := .zero 16 }
    phase5ApplicationReady := store.phase6Active && store.phase5ApplicationReady
    phase6Material := { material with
      hasLastRecvSeq := true
      lastRecvSeq := accepted
      nextSendSeq := if sendSeq = uint64Max then material.nextSendSeq else sendSeq + 1 }
    phase6Active := true }

/-- What `phase7_auth_start_result` leaves when it fails. -/
def discardStart (store : Store) (epoch : ℕ) : Store :=
  if SameU32 epoch store.phase7Epoch then store.clearPhase7 else store

/-- What `phase7_auth_start_result` retains for FINISHED_C. -/
def storeStart (store : Store) (start : Phase7Start) (sid : Block 16) : Store :=
  { store with
    phase8PendingRoot := start.resumeRoot
    phase8FullTh := start.hash
    phase7Keys := { start.keys with sas := .zero 32 }
    phase7TranscriptHash := start.hash
    phase7SessionId := sid
    phase7WaitFinished := true
    phase7Authenticated := false }

/-- The traffic keys of a verified FINISHED_C, pending until FINISHED_P is queued. -/
def storeTraffic (store : Store) (traffic : Phase7TrafficKeys) : Store :=
  { store with
    phase7PendingTrafficKeys := traffic
    phase7Keys := zeroKeys
    phase7TranscriptHash := .zero 32
    phase7WaitFinished := false
    phase7Authenticated := false
    phase7TrafficPending := true }

/-- The counters after an application frame; the last send sequence is not passed. -/
def storeCounters (store : Store) (accepted sendSeq : UInt64) : Store :=
  { store with
    phase7LastRecvSeq := accepted
    phase7HasLastRecvSeq := true
    phase7NextSendSeq := if sendSeq = uint64Max then store.phase7NextSendSeq else sendSeq + 1 }

/-- The job buffers are cleared at `job_done`, and the slot is free again. -/
def finishJob (store : Store) : Store :=
  { store with
    ciphertextJob := [], sessionIdJob := .zero 16, finishedCJob := .zero 32, phase6RxWireJob := []
    phase7CentralPublicKeyJob := [], phase7FinishedCJob := .zero 32, phase7RxWireJob := []
    jobActive := false }

/-- The checks of `pq_mlkem_session_commit_phase7_authenticated`. -/
def commitReady (store : Store) : Except Errno Unit := do
  require (store.keypairReady ∧ store.phase7TrafficPending ∧ store.phase7WaitFinished = false ∧
    store.phase7Authenticated = false) .eacces
  require store.SlotFree .ebusy

/-- The pending traffic keys become the active ones, with fresh sequence spaces. -/
def promote (store : Store) : Store :=
  { store with
    phase7TrafficKeys := store.phase7PendingTrafficKeys
    phase7PendingTrafficKeys := zeroTrafficKeys
    phase7TrafficPending := false
    phase7Authenticated := true
    phase7HasLastRecvSeq := false
    phase7LastRecvSeq := 0
    phase7NextSendSeq := 0 }

/-- `pq_mlkem_session_install_phase8_application` -/
def installPhase8Application (store : Store) (keys : Phase7TrafficKeys) (sid : Block 16) :
    Except Errno Store := do
  require (store.keypairReady ∧ store.jobPending = false ∧ store.jobActive = false) .ebusy
  return { store.clearPhase7 with
    phase7TrafficKeys := keys, phase7SessionId := sid, phase7Authenticated := true }

end Store

/-! ## What a submission did -/

section Submissions

variable {store store' : Store} {mode : JobMode} {ct wire centralKey : Bytes} {sid : Block 16}
  {finishedC : Block 32}

theorem submitJob_eq_ok (h : store.submitJob mode ct sid centralKey = .ok store') :
    (store.keypairReady = true ∧ store.jobPending = false ∧ store.jobActive = false) ∧
      store' = store.queueJob mode ct sid centralKey := by
  simp only [Store.submitJob, except_bind_eq_ok_iff, require_eq_ok_iff, exists_and_left,
    exists_const] at h
  obtain ⟨-, -, hkey, ⟨hpending, hactive⟩, hresult⟩ := h
  exact ⟨⟨hkey, hpending, hactive⟩, (Except.ok.inj hresult).symm⟩

theorem submitJob_failsIn : FailsIn store (store.submitJob mode ct sid centralKey) :=
  .bind .require fun _ ↦ .bind .require fun _ ↦ .bind .require fun _ ↦ .bind .require fun _ ↦ .ok

theorem submitPhase5Command_failsIn : FailsIn store (store.submitPhase5Command mode finishedC) :=
  .bind .require fun _ ↦ .bind .require fun _ ↦ .ok

theorem submitPhase6C2p_failsIn : FailsIn store (store.submitPhase6C2p wire) :=
  .bind .require fun _ ↦ .bind .require fun _ ↦ .bind .require fun _ ↦ .ok

theorem submitPhase7Auth_failsIn : FailsIn store (store.submitPhase7Auth ct sid centralKey) :=
  .bind .require fun _ ↦ .bind .require fun _ ↦ .bind .require fun _ ↦ .ok

theorem submitPhase7FinishedC_failsIn : FailsIn store (store.submitPhase7FinishedC finishedC) :=
  .bind .require fun _ ↦ .bind .require fun _ ↦ .ok

theorem submitPhase7C2p_failsIn : FailsIn store (store.submitPhase7C2p wire) :=
  .bind .require fun _ ↦ .bind .require fun _ ↦ .bind .require fun _ ↦ .ok

theorem submitPhase5Command_eq_ok (h : store.submitPhase5Command mode finishedC = .ok store') :
    (store.keypairReady = true ∧ store.jobPending = false ∧ store.jobActive = false ∧
      (if mode = .phase5FinishedC then store.phase5WaitFinished else store.phase5ApplicationReady) =
        true) ∧
      store' = { store with
        finishedCJob := if mode = .phase5FinishedC then finishedC else store.finishedCJob
        pendingJobMode := mode, pendingPhase5Epoch := store.phase5Epoch, jobPending := true } := by
  simp only [Store.submitPhase5Command, except_bind_eq_ok_iff, require_eq_ok_iff,
    exists_and_left, exists_const] at h
  obtain ⟨⟨hkey, hphase⟩, ⟨hpending, hactive⟩, hresult⟩ := h
  refine ⟨⟨hkey, hpending, hactive, ?_⟩, (Except.ok.inj hresult).symm⟩
  split_ifs at hphase ⊢ <;> exact hphase

theorem submitPhase6C2p_eq_ok (h : store.submitPhase6C2p wire = .ok store') :
    (store.keypairReady = true ∧ store.jobPending = false ∧ store.jobActive = false ∧
      (store.phase5ApplicationReady = true ∨ store.phase6Active = true) ∧
      pqSecureFixedOverhead ≤ wire.length ∧ wire.length ≤ pqSecureMaxWireSize) ∧
      store' = { store with
        phase6RxWireJob := wire, pendingJobMode := .phase6C2p, pendingPhase5Epoch := store.phase5Epoch
        jobPending := true } := by
  simp only [Store.submitPhase6C2p, except_bind_eq_ok_iff, require_eq_ok_iff,
    exists_and_left, exists_const] at h
  obtain ⟨hsize, ⟨hkey, hphase⟩, ⟨hpending, hactive⟩, hresult⟩ := h
  exact ⟨⟨hkey, hpending, hactive, hphase, hsize⟩, (Except.ok.inj hresult).symm⟩

theorem submitPhase7Auth_eq_ok_iff :
    store.submitPhase7Auth ct sid centralKey = .ok store' ↔
      (ct.length = 1088 ∧ centralKey.getD 0 0 = 0x04 ∧ store.keypairReady = true ∧
        store.jobPending = false ∧ store.jobActive = false) ∧
      store' = { store.resetPhase5.resetPhase7 with
        ciphertextJob := ct, sessionIdJob := sid, phase7CentralPublicKeyJob := centralKey
        pendingJobMode := .phase7AuthStart, pendingPhase7Epoch := store.phase7Epoch + 1
        jobPending := true } := by
  simp only [Store.submitPhase7Auth, except_bind_eq_ok_iff, require_eq_ok_iff,
    exists_and_left, exists_const]
  constructor
  · rintro ⟨⟨hct, hkey⟩, hready, ⟨hpending, hactive⟩, hresult⟩
    exact ⟨⟨hct, hkey, hready, hpending, hactive⟩, (Except.ok.inj hresult).symm⟩
  · rintro ⟨⟨hct, hkey, hready, hpending, hactive⟩, rfl⟩
    exact ⟨⟨hct, hkey⟩, hready, ⟨hpending, hactive⟩, rfl⟩

theorem submitPhase7FinishedC_eq_ok_iff :
    store.submitPhase7FinishedC finishedC = .ok store' ↔
      (store.keypairReady = true ∧ store.phase7WaitFinished = true ∧ store.jobPending = false ∧
        store.jobActive = false) ∧
      store' = { store with
        phase7FinishedCJob := finishedC, pendingJobMode := .phase7AuthFinishedC
        pendingPhase7Epoch := store.phase7Epoch, jobPending := true } := by
  simp only [Store.submitPhase7FinishedC, except_bind_eq_ok_iff, require_eq_ok_iff,
    exists_and_left, exists_const]
  constructor
  · rintro ⟨⟨hready, hwait⟩, ⟨hpending, hactive⟩, hresult⟩
    exact ⟨⟨hready, hwait, hpending, hactive⟩, (Except.ok.inj hresult).symm⟩
  · rintro ⟨⟨hready, hwait, hpending, hactive⟩, rfl⟩
    exact ⟨⟨hready, hwait⟩, ⟨hpending, hactive⟩, rfl⟩

theorem submitPhase7C2p_eq_ok_iff :
    store.submitPhase7C2p wire = .ok store' ↔
      (pqSecureFixedOverhead ≤ wire.length ∧ wire.length ≤ pqSecureMaxWireSize ∧
        store.keypairReady = true ∧ store.phase7Authenticated = true ∧
        store.phase7TrafficPending = false ∧ store.jobPending = false ∧ store.jobActive = false) ∧
      store' = { store with
        phase7RxWireJob := wire, pendingJobMode := .phase7AppC2p
        pendingPhase7Epoch := store.phase7Epoch, jobPending := true } := by
  simp only [Store.submitPhase7C2p, except_bind_eq_ok_iff, require_eq_ok_iff,
    exists_and_left, exists_const]
  constructor
  · rintro ⟨⟨hmin, hmax⟩, ⟨hready, hauth, htraffic⟩, ⟨hpending, hactive⟩, hresult⟩
    exact ⟨⟨hmin, hmax, hready, hauth, htraffic, hpending, hactive⟩, (Except.ok.inj hresult).symm⟩
  · rintro ⟨⟨hmin, hmax, hready, hauth, htraffic, hpending, hactive⟩, rfl⟩
    exact ⟨⟨hmin, hmax⟩, ⟨hready, hauth, htraffic⟩, ⟨hpending, hactive⟩, rfl⟩

theorem commitReady_eq_ok_iff {value : Unit} :
    store.commitReady = .ok value ↔
      store.keypairReady = true ∧ store.phase7TrafficPending = true ∧
        store.phase7WaitFinished = false ∧ store.phase7Authenticated = false ∧
        store.jobPending = false ∧ store.jobActive = false := by
  simp only [Store.commitReady, except_bind_eq_ok_iff, require_eq_ok_iff,
    exists_and_left, exists_const]
  unfold Store.SlotFree
  tauto

theorem installPhase8Application_eq_ok_iff {keys : Phase7TrafficKeys} :
    store.installPhase8Application keys sid = .ok store' ↔
      (store.keypairReady = true ∧ store.jobPending = false ∧ store.jobActive = false) ∧
        store' = { store.clearPhase7 with
          phase7TrafficKeys := keys, phase7SessionId := sid, phase7Authenticated := true } := by
  simp only [Store.installPhase8Application, except_bind_eq_ok_iff, require_eq_ok_iff, exists_and_left,
    exists_const]
  exact and_congr_right fun _ ↦ ⟨fun h ↦ (Except.ok.inj h).symm, fun h ↦ h ▸ rfl⟩

end Submissions

end PqBleHandshake.Legacy
