import PqBleHandshake.Application.Ledger
import PqBleHandshake.Link
import PqBleHandshake.V1Handshake

/-!
# The session store of v1.0 and v1.1

The part of `mlkem_session.c` that v1.0 and v1.1 use: the single job slot with its input buffers, the
handshake and application keys, the CP4 counters, and the functions that submit, commit and reset.
Every function runs under `session_lock`.

The epochs are counted without wrapping; the code compares them as `uint32_t`, which is `SameU32`.
-/

namespace PqBleHandshake.FirmwareV1

open Foundation

/-- The values of `enum pq_mlkem_job_mode` that v1.0 and v1.1 use. -/
inductive JobMode
  | v1Cp2 | v1Cp3 | v1Cp3FinishedC | v1Cp4C2p
deriving DecidableEq, Repr

/-- The values of `enum pq_mlkem_diagnostic_status` that these jobs end with. -/
inductive JobStatus
  | success | decapsulationFailure | invalidProtocolState | authenticationFailure
deriving DecidableEq, Repr

/-- The file-scope state of `mlkem_session.c`. -/
structure Store where
  keypairReady : Bool
  pendingJobMode : JobMode
  jobPending : Bool
  jobActive : Bool
  v1Cp2Epoch : ℕ
  pendingV1Cp2Epoch : ℕ
  v1Cp3Epoch : ℕ
  pendingV1Cp3Epoch : ℕ
  ciphertextJob : Bytes
  sessionIdJob : Bytes
  v1Cp3SecJob : Bytes
  v1Cp3StartJob : Bytes
  v1Cp3FinishedJob : Bytes
  v1Cp3SessionId : Block 16
  v1Cp3Handshake : V1Handshake
  v1Cp3Application : V1Application
  v1Cp3WaitFinished : Bool
  v1Cp3KeysPending : Bool
  v1Cp3AppSecure : Bool
  v1Cp4RxC2p : UInt64
  v1Cp4TxP2c : UInt64
  v1Cp4Pending : Bool
  v1Cp4Ready : Bool
  v1Cp4WireJob : Bytes
deriving DecidableEq

/-- The store once the key pair is generated, which is when Bluetooth starts. -/
def Store.boot : Store where
  keypairReady := true
  pendingJobMode := .v1Cp2
  jobPending := false
  jobActive := false
  v1Cp2Epoch := 0
  pendingV1Cp2Epoch := 0
  v1Cp3Epoch := 0
  pendingV1Cp3Epoch := 0
  ciphertextJob := []
  sessionIdJob := []
  v1Cp3SecJob := []
  v1Cp3StartJob := []
  v1Cp3FinishedJob := []
  v1Cp3SessionId := .zero 16
  v1Cp3Handshake := .zero
  v1Cp3Application := .zero
  v1Cp3WaitFinished := false
  v1Cp3KeysPending := false
  v1Cp3AppSecure := false
  v1Cp4RxC2p := 0
  v1Cp4TxP2c := 0
  v1Cp4Pending := false
  v1Cp4Ready := false
  v1Cp4WireJob := []

namespace Store

/-- `pq_mlkem_session_reset_v1_cp3` -/
def resetV1Cp3 (store : Store) : Store :=
  { store with
    v1Cp3Epoch := store.v1Cp3Epoch + 1
    v1Cp3WaitFinished := false
    v1Cp3KeysPending := false
    v1Cp3AppSecure := false
    v1Cp4Pending := false
    v1Cp4Ready := false
    v1Cp4RxC2p := 0
    v1Cp4TxP2c := 0
    v1Cp3Handshake := .zero
    v1Cp3Application := .zero
    v1Cp3SessionId := .zero 16 }

/-- `pq_mlkem_session_submit_v1_cp3` -/
def submitV1Cp3 (store : Store) (version : UInt8) (ct sec start : Bytes) :
    Except (Errno × Store) Store := do
  require (ct.length = 1088 ∧ sec = strictSec version) (.einval, store)
  let (subtype, payload) ← (pqV1ParseFrame version start).mapError fun _ ↦ (.einval, store)
  require (subtype = pqV1StartCp3) (.einval, store)
  require (store.keypairReady = true ∧ store.jobPending = false ∧ store.jobActive = false ∧
    store.v1Cp3WaitFinished = false ∧ store.v1Cp3KeysPending = false ∧
    store.v1Cp3AppSecure = false) (.ebusy, store)
  return { store with
    ciphertextJob := ct
    v1Cp3SecJob := sec
    v1Cp3StartJob := start
    v1Cp3SessionId := .ofBytes 16 payload
    v1Cp3Epoch := store.v1Cp3Epoch + 1
    pendingV1Cp3Epoch := store.v1Cp3Epoch + 1
    pendingJobMode := .v1Cp3
    jobPending := true }

/-- `pq_mlkem_session_submit_v1_cp3_finished_c` -/
def submitV1Cp3FinishedC (store : Store) (version : UInt8) (frame : Bytes) :
    Except (Errno × Store) Store := do
  let (subtype, _) ← (pqV1ParseFrame version frame).mapError fun _ ↦ (.einval, store)
  require (subtype = pqV1FinishedC) (.einval, store)
  require (store.jobPending = false ∧ store.jobActive = false ∧ store.v1Cp3WaitFinished = true) (.ebusy, store)
  return { store with
    v1Cp3FinishedJob := frame
    pendingV1Cp3Epoch := store.v1Cp3Epoch
    pendingJobMode := .v1Cp3FinishedC
    jobPending := true }

/-- `pq_mlkem_session_commit_v1_cp3` up to the call into the resumption service. -/
def commitV1Cp3 (store : Store) : Except Errno Store := do
  require (store.v1Cp3KeysPending = true ∧ store.v1Cp3AppSecure = false) .ecanceled
  return { store with
    v1Cp3KeysPending := false
    v1Cp3AppSecure := true
    v1Cp4RxC2p := 0
    v1Cp4TxP2c := 0
    v1Cp4Pending := false
    v1Cp4Ready := false }

/-- The rest of `pq_mlkem_session_commit_v1_cp3` in v1.1, where the service owns the keys. -/
def releaseApplication (store : Store) : Store :=
  { store with v1Cp3Application := .zero, v1Cp3AppSecure := false }

/-- `pq_mlkem_session_submit_v1_cp4` -/
def submitV1Cp4 (store : Store) (version : UInt8) (wire : Bytes) : Except (Errno × Store) Store := do
  let frame ← (pqV1Cp4Parse version wire pqV1AppC2p).mapError fun _ ↦ (.einval, store)
  require (frame.msgType = pqV1Cp4Ping ∧ frame.plaintextLen = 16) (.einval, store)
  require (store.v1Cp3AppSecure = true ∧ store.jobPending = false ∧ store.jobActive = false ∧
    store.v1Cp4Pending = false ∧ frame.seq = store.v1Cp4RxC2p ∧ store.v1Cp4RxC2p ≠ uint64Max ∧
    store.v1Cp4TxP2c ≠ uint64Max) (.eacces, store)
  return { store with
    v1Cp4WireJob := wire
    v1Cp4Pending := true
    v1Cp4Ready := false
    pendingV1Cp3Epoch := store.v1Cp3Epoch
    pendingJobMode := .v1Cp4C2p
    jobPending := true }

/-- `pq_mlkem_session_commit_v1_cp4` -/
def commitV1Cp4 (store : Store) : Except Errno Store := do
  require (store.v1Cp3AppSecure = true ∧ store.v1Cp4Pending = true ∧ store.v1Cp4Ready = true ∧
    SameU32 store.pendingV1Cp3Epoch store.v1Cp3Epoch ∧ store.v1Cp4RxC2p ≠ uint64Max ∧
    store.v1Cp4TxP2c ≠ uint64Max) .ecanceled
  return { store with
    v1Cp4RxC2p := store.v1Cp4RxC2p + 1
    v1Cp4TxP2c := store.v1Cp4TxP2c + 1
    v1Cp4Pending := false
    v1Cp4Ready := false }

/-- `pq_mlkem_session_submit_v1_cp2` -/
def submitV1Cp2 (store : Store) (ct sid : Bytes) : Except (Errno × Store) Store := do
  require (ct.length = 1088 ∧ sid.length = 16) (.einval, store)
  require (store.keypairReady = true) (.eacces, store)
  require (store.jobPending = false ∧ store.jobActive = false) (.ebusy, store)
  return { store with
    ciphertextJob := ct
    sessionIdJob := sid
    pendingJobMode := .v1Cp2
    v1Cp2Epoch := store.v1Cp2Epoch + 1
    pendingV1Cp2Epoch := store.v1Cp2Epoch + 1
    jobPending := true }

/-- `pq_mlkem_session_reset_v1_cp2` -/
def resetV1Cp2 (store : Store) : Store := { store with v1Cp2Epoch := store.v1Cp2Epoch + 1 }

/-- The worker takes the pending job. -/
def takeJob (store : Store) : Store := { store with jobPending := false, jobActive := true }

/-- `v1_cp3_start_result` stores the handshake. -/
def storeHandshake (store : Store) (handshake : V1Handshake) : Store :=
  { store with v1Cp3Handshake := handshake, v1Cp3WaitFinished := true }

/-- `v1_cp3_finished_result` takes the handshake out of the store. -/
def takeHandshake (store : Store) : Store :=
  { store with v1Cp3Handshake := .zero, v1Cp3WaitFinished := false }

/-- `v1_cp3_finished_result` stores the application keys. -/
def storeApplication (store : Store) (app : V1Application) : Store :=
  { store with v1Cp3Application := app, v1Cp3KeysPending := true }

/-- The job buffers are cleared at `job_done`; a CP2 job keeps the slot until its result is
delivered. -/
def finishJob (store : Store) (mode : JobMode) : Store :=
  let store := { store with ciphertextJob := [], sessionIdJob := [] }
  if mode = .v1Cp2 then store
  else { store with
    v1Cp3SecJob := [], v1Cp3StartJob := [], v1Cp3FinishedJob := [], v1Cp4WireJob := []
    jobActive := false }

end Store

/-! ## What the submissions check -/

section Submissions

variable {store store' : Store} {version : UInt8} {ct sec sid frame wire : Bytes}

theorem submitV1Cp3_failsIn : FailsIn store (store.submitV1Cp3 version ct sec frame) :=
  .bind .require fun _ ↦ .bind .mapError fun _ ↦ .bind .require fun _ ↦ .bind .require fun _ ↦ .ok

theorem submitV1Cp3FinishedC_failsIn : FailsIn store (store.submitV1Cp3FinishedC version frame) :=
  .bind .mapError fun _ ↦ .bind .require fun _ ↦ .bind .require fun _ ↦ .ok

theorem submitV1Cp4_failsIn : FailsIn store (store.submitV1Cp4 version wire) :=
  .bind .mapError fun _ ↦ .bind .require fun _ ↦ .bind .require fun _ ↦ .ok

theorem submitV1Cp2_failsIn : FailsIn store (store.submitV1Cp2 ct sid) :=
  .bind .require fun _ ↦ .bind .require fun _ ↦ .bind .require fun _ ↦ .ok

theorem submitV1Cp3_eq_ok_iff :
    store.submitV1Cp3 version ct sec frame = .ok store' ↔
      ct.length = 1088 ∧ sec = strictSec version ∧
        ∃ payload, ValidPayload pqV1StartCp3 payload ∧ frame = v1Frame version pqV1StartCp3 payload ∧
          (store.keypairReady = true ∧ store.jobPending = false ∧ store.jobActive = false ∧
            store.v1Cp3WaitFinished = false ∧ store.v1Cp3KeysPending = false ∧
            store.v1Cp3AppSecure = false) ∧
          store' = { store with
            ciphertextJob := ct
            v1Cp3SecJob := sec
            v1Cp3StartJob := frame
            v1Cp3SessionId := .ofBytes 16 payload
            v1Cp3Epoch := store.v1Cp3Epoch + 1
            pendingV1Cp3Epoch := store.v1Cp3Epoch + 1
            pendingJobMode := .v1Cp3
            jobPending := true } := by
  simp only [Store.submitV1Cp3, except_bind_eq_ok_iff, require_eq_ok_iff, mapError_eq_ok_iff,
    Prod.exists, pqV1ParseFrame_eq_ok_iff, exists_and_left, exists_const]
  constructor
  · rintro ⟨⟨hct, hsec⟩, subtype, payload, ⟨hvalid, rfl⟩, rfl, hfree, hresult⟩
    exact ⟨hct, hsec, payload, hvalid, rfl, hfree, (Except.ok.inj hresult).symm⟩
  · rintro ⟨hct, hsec, payload, hvalid, rfl, hfree, rfl⟩
    exact ⟨⟨hct, hsec⟩, _, payload, ⟨hvalid, rfl⟩, rfl, hfree, rfl⟩

theorem submitV1Cp3FinishedC_eq_ok_iff :
    store.submitV1Cp3FinishedC version frame = .ok store' ↔
      ∃ payload, ValidPayload pqV1FinishedC payload ∧ frame = v1Frame version pqV1FinishedC payload ∧
        (store.jobPending = false ∧ store.jobActive = false ∧ store.v1Cp3WaitFinished = true) ∧
        store' = { store with
          v1Cp3FinishedJob := frame
          pendingV1Cp3Epoch := store.v1Cp3Epoch
          pendingJobMode := .v1Cp3FinishedC
          jobPending := true } := by
  simp only [Store.submitV1Cp3FinishedC, except_bind_eq_ok_iff, require_eq_ok_iff,
    mapError_eq_ok_iff, Prod.exists, pqV1ParseFrame_eq_ok_iff, exists_and_left, exists_const]
  constructor
  · rintro ⟨subtype, payload, ⟨hvalid, rfl⟩, rfl, hfree, hresult⟩
    exact ⟨payload, hvalid, rfl, hfree, (Except.ok.inj hresult).symm⟩
  · rintro ⟨payload, hvalid, rfl, hfree, rfl⟩
    exact ⟨_, payload, ⟨hvalid, rfl⟩, rfl, hfree, rfl⟩

theorem commitV1Cp3_eq_ok_iff :
    store.commitV1Cp3 = .ok store' ↔
      (store.v1Cp3KeysPending = true ∧ store.v1Cp3AppSecure = false) ∧
        store' = { store with
          v1Cp3KeysPending := false
          v1Cp3AppSecure := true
          v1Cp4RxC2p := 0
          v1Cp4TxP2c := 0
          v1Cp4Pending := false
          v1Cp4Ready := false } := by
  simp only [Store.commitV1Cp3, except_bind_eq_ok_iff, require_eq_ok_iff, exists_and_left,
    exists_const]
  exact and_congr_right fun _ ↦ ⟨fun h ↦ (Except.ok.inj h).symm, fun h ↦ h ▸ rfl⟩

theorem submitV1Cp4_eq_ok_iff :
    store.submitV1Cp4 version wire = .ok store' ↔
      ∃ sealed : Bytes, sealed.length = 32 ∧
        wire = cp4Wire version pqV1AppC2p store.v1Cp4RxC2p pqV1Cp4Ping sealed ∧
        (store.v1Cp3AppSecure = true ∧ store.jobPending = false ∧ store.jobActive = false ∧
          store.v1Cp4Pending = false ∧ store.v1Cp4RxC2p ≠ uint64Max ∧
          store.v1Cp4TxP2c ≠ uint64Max) ∧
        store' = { store with
          v1Cp4WireJob := wire
          v1Cp4Pending := true
          v1Cp4Ready := false
          pendingV1Cp3Epoch := store.v1Cp3Epoch
          pendingJobMode := .v1Cp4C2p
          jobPending := true } := by
  simp only [Store.submitV1Cp4, except_bind_eq_ok_iff, require_eq_ok_iff, mapError_eq_ok_iff,
    exists_and_left, exists_const, pqV1Cp4Parse_eq_ok_iff]
  constructor
  · rintro ⟨⟨seq, msgType, len, sealed⟩, ⟨-, -, hsealed, rfl⟩, ⟨rfl, rfl⟩,
      ⟨hsecure, hpending, hactive, hfree, rfl, hrx, htx⟩, hresult⟩
    exact ⟨sealed, hsealed, rfl, ⟨hsecure, hpending, hactive, hfree, hrx, htx⟩,
      (Except.ok.inj hresult).symm⟩
  · rintro ⟨sealed, hsealed, rfl, ⟨hsecure, hpending, hactive, hfree, hrx, htx⟩, rfl⟩
    have hfits : 16 ≤ pqV1Cp4MaxPlaintext := by decide
    exact ⟨⟨_, _, 16, sealed⟩, ⟨.inl rfl, hfits, hsealed, rfl⟩, ⟨rfl, rfl⟩,
      ⟨hsecure, hpending, hactive, hfree, rfl, hrx, htx⟩, rfl⟩

theorem commitV1Cp4_eq_ok_iff :
    store.commitV1Cp4 = .ok store' ↔
      (store.v1Cp3AppSecure = true ∧ store.v1Cp4Pending = true ∧ store.v1Cp4Ready = true ∧
        SameU32 store.pendingV1Cp3Epoch store.v1Cp3Epoch ∧ store.v1Cp4RxC2p ≠ uint64Max ∧
        store.v1Cp4TxP2c ≠ uint64Max) ∧
        store' = { store with
          v1Cp4RxC2p := store.v1Cp4RxC2p + 1
          v1Cp4TxP2c := store.v1Cp4TxP2c + 1
          v1Cp4Pending := false
          v1Cp4Ready := false } := by
  simp only [Store.commitV1Cp4, except_bind_eq_ok_iff, require_eq_ok_iff, exists_and_left,
    exists_const]
  exact and_congr_right fun _ ↦ ⟨fun h ↦ (Except.ok.inj h).symm, fun h ↦ h ▸ rfl⟩

theorem submitV1Cp2_eq_ok_iff :
    store.submitV1Cp2 ct sid = .ok store' ↔
      (ct.length = 1088 ∧ sid.length = 16) ∧ store.keypairReady = true ∧
        (store.jobPending = false ∧ store.jobActive = false) ∧
        store' = { store with
          ciphertextJob := ct
          sessionIdJob := sid
          pendingJobMode := .v1Cp2
          v1Cp2Epoch := store.v1Cp2Epoch + 1
          pendingV1Cp2Epoch := store.v1Cp2Epoch + 1
          jobPending := true } := by
  simp only [Store.submitV1Cp2, except_bind_eq_ok_iff, require_eq_ok_iff, exists_and_left,
    exists_const]
  exact and_congr_right fun _ ↦ and_congr_right fun _ ↦ and_congr_right fun _ ↦
    ⟨fun h ↦ (Except.ok.inj h).symm, fun h ↦ h ▸ rfl⟩

end Submissions

/-- The keys of the application channel: the IV bases are derived again for every frame. -/
def appKeys (crypto : Crypto) (version : UInt8) (app : V1Application) (sid : Block 16) : AppKeys where
  c2p := app.c2p
  p2c := app.p2c
  ivC2p := .ofBytes 12
    (crypto.mac app.c2p (appDomain version ++ ascii "/IV-C2P" ++ sid.bytes ++ [1])).bytes
  ivP2c := .ofBytes 12
    (crypto.mac app.p2c (appDomain version ++ ascii "/IV-P2C" ++ sid.bytes ++ [1])).bytes
  sid := sid

theorem pqV1Cp4Iv_c2p_eq_ok {crypto : Crypto} {faults : Faults} {version : UInt8} {app : V1Application}
    {sid : Block 16} {iv : Block 12}
    (h : pqV1Cp4Iv crypto faults version app.c2p sid pqV1AppC2p = .ok iv) :
    iv = (appKeys crypto version app sid).ivC2p := by
  simp only [pqV1Cp4Iv, except_bind_eq_ok_iff, require_eq_ok_iff, orFail_eq_ok_iff] at h
  obtain ⟨_, -, block, hblock, hiv⟩ := h
  cases hiv
  rw [pqCryptoMac_eq_some hblock]
  rfl

theorem pqV1Cp4Iv_p2c_eq_ok {crypto : Crypto} {faults : Faults} {version : UInt8} {app : V1Application}
    {sid : Block 16} {iv : Block 12}
    (h : pqV1Cp4Iv crypto faults version app.p2c sid pqV1AppP2c = .ok iv) :
    iv = (appKeys crypto version app sid).ivP2c := by
  simp only [pqV1Cp4Iv, except_bind_eq_ok_iff, require_eq_ok_iff, orFail_eq_ok_iff] at h
  obtain ⟨_, -, block, hblock, hiv⟩ := h
  cases hiv
  rw [pqCryptoMac_eq_some hblock]
  rfl

end PqBleHandshake.FirmwareV1
