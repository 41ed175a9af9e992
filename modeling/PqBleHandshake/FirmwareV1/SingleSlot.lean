import PqBleHandshake.FirmwareV1.Jobs

/-!
# The single slot of the worker in v1.0 and v1.1

The four submissions of `mlkem_session.c` and both resets, called by any thread in any order, against the
steps of the worker.  `elsewhere` changes whatever lies outside the store and the worker.  Every call is one
event sequence of the slot, and a job that runs makes what its program makes of its bytes.
-/

namespace PqBleHandshake.FirmwareV1

open Foundation

/-- A call of a submit function. -/
inductive Submission
  | v1Cp3 (ct sec start : Bytes)
  | v1Cp3FinishedC (frame : Bytes)
  | v1Cp4 (wire : Bytes)
  | v1Cp2 (ct sid : Bytes)

namespace Submission

/-- The mode of the job that it submits. -/
def mode : Submission → JobMode
  | v1Cp3 _ _ _ => .v1Cp3
  | v1Cp3FinishedC _ => .v1Cp3FinishedC
  | v1Cp4 _ => .v1Cp4C2p
  | v1Cp2 _ _ => .v1Cp2

/-- The bytes that it passes. -/
def input : Submission → JobInput
  | v1Cp3 ct sec start => .cp3 ct sec start
  | v1Cp3FinishedC frame | v1Cp4 frame => .frame frame
  | v1Cp2 ct sid => .cp2 ct sid

/-- The submit function. -/
def submit (version : UInt8) (store : Store) : Submission → Except (Errno × Store) Store
  | v1Cp3 ct sec start => store.submitV1Cp3 version ct sec start
  | v1Cp3FinishedC frame => store.submitV1Cp3FinishedC version frame
  | v1Cp4 wire => store.submitV1Cp4 version wire
  | v1Cp2 ct sid => store.submitV1Cp2 ct sid

end Submission

/-- The other calls: both resets, a step of the worker, and a change of everything but the store and the
worker. -/
inductive SlotCall
  | resetV1Cp2
  | resetV1Cp3
  | elsewhere (other : State)
  | worker (view : WorkerView)

namespace Store

/-- The pending job belongs to the current epoch of its session. -/
def JobCurrent (store : Store) : Prop :=
  if store.pendingJobMode = .v1Cp2 then SameU32 store.pendingV1Cp2Epoch store.v1Cp2Epoch
  else SameU32 store.pendingV1Cp3Epoch store.v1Cp3Epoch

instance (store : Store) : Decidable store.JobCurrent := inferInstanceAs (Decidable (ite _ _ _))

/-- The resets between two states of the store. -/
def resets (store next : Store) : List (SlotEvent SessionKind JobMode JobInput JobProduct JobResult) :=
  List.replicate (next.v1Cp2Epoch - store.v1Cp2Epoch) (.reset .cp2) ++
    List.replicate (next.v1Cp3Epoch - store.v1Cp3Epoch) (.reset .cp3)

end Store

/-- The result that the worker still has to report. -/
def Worker.owed : Worker → Option (JobMode × JobResult)
  | .cp2Callback status wire => some (.v1Cp2, ⟨status, wire⟩)
  | .cp3Callback start status wire => some (if start then .v1Cp3 else .v1Cp3FinishedC, ⟨status, wire⟩)
  | .cp4Callback status wire => some (.v1Cp4C2p, ⟨status, wire⟩)
  | _ => none

namespace State

/-- The effect of a call. -/
def slotCall (platform : Platform) (state : State) : SlotCall → State
  | .resetV1Cp2 => { state with store := state.store.resetV1Cp2 }
  | .resetV1Cp3 => { state with store := state.store.resetV1Cp3 }
  | .elsewhere other => { other with store := state.store, worker := state.worker }
  | .worker view => (state.workerStep platform view).2

/-- What a step of the worker does with its job. -/
def jobEvents (state next : State) : List (SlotEvent SessionKind JobMode JobInput JobProduct JobResult) :=
  let store := state.store
  match state.worker with
  | .idle =>
    if store.jobPending = false then []
    else if store.JobCurrent then [.taken store.pendingJobMode]
    else [.discarded store.pendingJobMode]
  | .finishedTake epoch =>
    if SameU32 epoch store.v1Cp3Epoch ∧ store.v1Cp3WaitFinished then []
    else [.discarded .v1Cp3FinishedC]
  | .cp4Live _ =>
    match next.worker with
    | .cp4Snapshot _ => []
    | _ => [.discarded .v1Cp4C2p]
  | .jobDone mode _ _ _ => next.worker.owed.toList.map fun result ↦ .finished mode result.2
  | worker =>
    match worker.job with
    | some mode => if state.Commits then [.ran mode (store.jobInput mode) next.product] else [.discarded mode]
    | none => []

/-- The events of a call: a callback begins with its report, and an abandoned job ends after the reset. -/
def slotEvents (platform : Platform) (state : State) (call : SlotCall) :
    List (SlotEvent SessionKind JobMode JobInput JobProduct JobResult) :=
  let next := state.slotCall platform call
  match call with
  | .worker _ =>
    (state.worker.owed.toList.map fun result ↦ .reported result.1 result.2) ++
      (state.store.resets next.store ++ state.jobEvents next)
  | _ => state.store.resets next.store

end State

/-- The session store with its worker, as a server. -/
def slotServer (platform : Platform) :
    Server Errno SessionKind JobMode JobInput JobProduct JobResult (Store × Worker) State Submission SlotCall where
  rules := ⟨JobMode.session, Yields platform, JobResult.Failed, 2 ^ 32⟩
  submit state request := match request.submit platform.version state.store with
    | .ok store => .ok { state with store }
    | .error (error, store) => .error (error, { state with store })
  mode := Submission.mode
  input := Submission.input
  act state call := state.slotCall platform call
  log state call := state.slotEvents platform call
  works call := match call with
    | .worker _ => true
    | _ => false
  reads := State.reads
  program reads call := match call with
    | .worker view => program platform view reads
    | _ => fun _ _ ↦ fails reads.1 .invalidProtocolState

/-! ## What the desk says about the state -/

namespace Worker

/-- The worker has taken a job and not ended it. -/
def holdsJob : Worker → Bool
  | .startResult _ | .finishedTake _ | .finishedStore _ _ | .cp4Live _ | .cp4Snapshot _
  | .cp4Recheck _ _ _ | .cp4Encrypt _ _ _ | .cp4Ready _ _ | .cp2Result _ | .jobDone _ _ _ _ => true
  | _ => false

/-- The worker delivers a CP2 result, during which the slot stays taken. -/
def holdsCp2 : Worker → Bool
  | .cp2Callback _ _ | .cp2Check _ _ _ _ _ | .cp2Send _ _ _ | .cp2Settle | .cp2Release => true
  | _ => false

/-- The mode of a job that the worker has taken and not run. -/
def runs : Worker → Option JobMode
  | .finishedTake _ => some .v1Cp3FinishedC
  | .cp4Live _ => some .v1Cp4C2p
  | worker => worker.job

/-- The epoch that the worker's job was submitted under. -/
def jobEpoch : Worker → Option ℕ
  | .startResult epoch | .finishedTake epoch | .finishedStore epoch _ | .cp4Live epoch | .cp4Snapshot epoch
  | .cp4Recheck epoch _ _ | .cp4Encrypt epoch _ _ | .cp4Ready epoch _ | .cp2Result epoch
  | .jobDone _ epoch _ _ => some epoch
  | _ => none

/-- The steps of the worker up to the end of its job, at most. -/
def rank : Worker → ℕ
  | .jobDone _ _ _ _ => 1
  | .startResult _ | .finishedStore _ _ | .cp2Result _ | .cp4Ready _ _ => 2
  | .finishedTake _ | .cp4Encrypt _ _ _ => 3
  | .cp4Recheck _ _ _ => 4
  | .cp4Snapshot _ => 5
  | .cp4Live _ => 6
  | .idle => 7
  | .cp3Settle _ _ _ _ _ | .cp4Settle _ _ _ | .cp2Release => 8
  | .cp3Send _ _ _ _ _ _ | .cp4Send _ _ _ _ | .cp2Settle => 9
  | .cp3Callback _ _ _ | .cp4Check _ _ _ | .cp2Send _ _ _ => 10
  | .cp4Callback _ _ | .cp2Check _ _ _ _ _ => 11
  | .cp2Callback _ _ => 12

end Worker

/-- What a job needs of its session. -/
def Store.JobReady (store : Store) : JobMode → Prop
  | .v1Cp3FinishedC => store.v1Cp3WaitFinished = true
  | .v1Cp4C2p => store.Cp4Live
  | _ => True

/-- The job that waits in the slot, with the resets since it was accepted. -/
structure QueuedJob (mode : JobMode) (input : JobInput) (resets : ℕ) (store : Store) : Prop where
  pending : store.pendingJobMode = mode
  epoch2 : mode.session = some .cp2 → store.v1Cp2Epoch = store.pendingV1Cp2Epoch + resets
  epoch3 : mode.session = some .cp3 → store.v1Cp3Epoch = store.pendingV1Cp3Epoch + resets
  fresh : resets = 0 → store.JobReady mode
  held : store.jobInput mode = input

/-- What the worker finds of a session that was not reset. -/
def Store.RunReady (store : Store) : Worker → Prop
  | .finishedTake _ => store.v1Cp3WaitFinished = true
  | .cp4Live _ | .cp4Snapshot _ => store.Cp4Live
  | _ => True

/-- The resets of its session since the worker's job was submitted. -/
def Counted (mode : JobMode) (resets : ℕ) (store : Store) (worker : Worker) : Prop :=
  ∀ epoch, worker.jobEpoch = some epoch →
    (mode.session = some .cp2 → store.v1Cp2Epoch = epoch + resets) ∧
      (mode.session = some .cp3 → store.v1Cp3Epoch = epoch + resets)

/-- The job that the worker has taken, with the bytes that it was accepted with. -/
structure RunningJob (mode : JobMode) (input : JobInput) (early resets : ℕ) (store : Store) (worker : Worker) :
    Prop where
  runs : worker.runs = some mode
  held : store.jobInput mode = input
  early_le : early ≤ resets
  checked : early % 2 ^ 32 = 0
  counted : Counted mode resets store worker
  fresh : resets = 0 → store.RunReady worker

/-- The worker holds what its job came to: the challenge that it has yet to answer, the answer, or the result. -/
def ComesTo (platform : Platform) (mode : JobMode) (resets : ℕ) (product : JobProduct) (store : Store) :
    Worker → Prop
  | .cp4Recheck _ snapshot challenge | .cp4Encrypt _ snapshot challenge =>
    mode = .v1Cp4C2p ∧ product.outcome = .opened snapshot challenge ∧
      (resets = 0 → store.v1Cp3AppSecure = true ∧ store.v1Cp4Pending = true)
  | .cp4Ready _ wire =>
    mode = .v1Cp4C2p ∧ Yields platform product ⟨.success, wire⟩ ∧
      (resets = 0 → store.v1Cp3AppSecure = true ∧ store.v1Cp4Pending = true)
  | .jobDone m _ status wire =>
    m = mode ∧ (Yields platform product ⟨status, wire⟩ ∨ resets ≠ 0 ∧ JobResult.Failed ⟨status, wire⟩)
  | _ => False

/-- The slot as the store and the worker show it. -/
def SlotMatches (platform : Platform) (store : Store) (worker : Worker) : SlotJob JobMode JobInput JobProduct → Prop
  | .free => store.jobPending = false ∧ worker.holdsJob = false
  | .queued mode input resets =>
    store.jobPending = true ∧ worker.holdsJob = false ∧ QueuedJob mode input resets store
  | .running mode input early resets =>
    store.jobPending = false ∧ RunningJob mode input early resets store worker
  | .done mode resets product =>
    store.jobPending = false ∧ Counted mode resets store worker ∧
      ComesTo platform mode resets product store worker
  | .dropped mode =>
    store.jobPending = false ∧ ∃ epoch status, status ≠ .success ∧ worker = .jobDone mode epoch status []

/-- The desk matches the state. -/
structure Matches (platform : Platform) (desk : Desk JobMode JobInput JobProduct JobResult) (state : State) :
    Prop where
  ready : state.store.keypairReady = true
  active : state.store.jobActive = (state.worker.holdsJob || state.worker.holdsCp2)
  owed : desk.owed = state.worker.owed
  job : SlotMatches platform state.store state.worker desk.job

/-- A section that leaves the slot alone. -/
structure SlotSame (store next : Store) : Prop where
  pending : next.jobPending = store.jobPending
  active : next.jobActive = store.jobActive
  ready : next.keypairReady = store.keypairReady
  epoch2 : next.v1Cp2Epoch = store.v1Cp2Epoch
  epoch3 : next.v1Cp3Epoch = store.v1Cp3Epoch

theorem SlotSame.refl (store : Store) : SlotSame store store := ⟨rfl, rfl, rfl, rfl, rfl⟩

/-- The slot, the job buffers and what a queued FINISHED_C needs stay. -/
structure SlotKept (store next : Store) : Prop where
  slot : SlotSame store next
  mode : next.pendingJobMode = store.pendingJobMode
  pending2 : next.pendingV1Cp2Epoch = store.pendingV1Cp2Epoch
  pending3 : next.pendingV1Cp3Epoch = store.pendingV1Cp3Epoch
  input : next.jobInput = store.jobInput
  wait : next.v1Cp3WaitFinished = store.v1Cp3WaitFinished

theorem SlotKept.refl (store : Store) : SlotKept store store := ⟨.refl store, rfl, rfl, rfl, rfl, rfl⟩

/-! ## Submissions and resets -/

section Calls

variable {platform : Platform} {version : UInt8} {store store' : Store} {worker : Worker} {mode : JobMode}
  {input : JobInput} {early resets : ℕ} {product : JobProduct} {job : SlotJob JobMode JobInput JobProduct}

/-- A refused submission ends in the store that it found. -/
theorem Submission.submit_failsIn (request : Submission) : FailsIn store (request.submit version store) := by
  cases request with
  | v1Cp3 ct sec start => exact submitV1Cp3_failsIn
  | v1Cp3FinishedC frame => exact submitV1Cp3FinishedC_failsIn
  | v1Cp4 wire => exact submitV1Cp4_failsIn
  | v1Cp2 ct sid => exact submitV1Cp2_failsIn

/-- An accepted submission found the slot free, and its job waits with the bytes that it passed. -/
theorem Submission.submit_eq_ok {request : Submission} (h : request.submit version store = .ok store') :
    (store.jobPending = false ∧ store.jobActive = false) ∧
      store'.keypairReady = store.keypairReady ∧ store'.jobPending = true ∧ store'.jobActive = false ∧
      QueuedJob request.mode request.input 0 store' := by
  cases request with
  | v1Cp3 ct sec start =>
    obtain ⟨-, -, payload, -, -, ⟨-, hpending, hactive, -⟩, rfl⟩ := submitV1Cp3_eq_ok_iff.mp h
    exact ⟨⟨hpending, hactive⟩, rfl, rfl, hactive, rfl, nofun, fun _ ↦ rfl, fun _ ↦ trivial, rfl⟩
  | v1Cp3FinishedC frame =>
    obtain ⟨payload, -, -, ⟨hpending, hactive, hwait⟩, rfl⟩ := submitV1Cp3FinishedC_eq_ok_iff.mp h
    exact ⟨⟨hpending, hactive⟩, rfl, rfl, hactive, rfl, nofun, fun _ ↦ rfl, fun _ ↦ hwait, rfl⟩
  | v1Cp4 wire =>
    obtain ⟨_, -, -, ⟨hsecure, hpending, hactive, -⟩, rfl⟩ := submitV1Cp4_eq_ok_iff.mp h
    exact ⟨⟨hpending, hactive⟩, rfl, rfl, hactive, rfl, nofun, fun _ ↦ rfl, fun _ ↦ ⟨hsecure, rfl, rfl⟩, rfl⟩
  | v1Cp2 ct sid =>
    obtain ⟨-, -, ⟨hpending, hactive⟩, rfl⟩ := submitV1Cp2_eq_ok_iff.mp h
    exact ⟨⟨hpending, hactive⟩, rfl, rfl, hactive, rfl, fun _ ↦ rfl, nofun, fun _ ↦ trivial, rfl⟩

theorem QueuedJob.resetV1Cp2 (h : QueuedJob mode input resets store) :
    QueuedJob mode input (if mode.session = some .cp2 then resets + 1 else resets) store.resetV1Cp2 := by
  have hheld : store.resetV1Cp2.jobInput mode = input := by
    cases mode <;> exact h.held
  by_cases hsession : mode.session = some .cp2
  · rw [if_pos hsession]
    refine ⟨h.pending, fun _ ↦ congrArg (· + 1) (h.epoch2 hsession), fun h3 ↦ ?_, nofun, hheld⟩
    rw [hsession] at h3
    cases h3
  · rw [if_neg hsession]
    refine ⟨h.pending, fun h2 ↦ absurd h2 hsession, h.epoch3, fun hzero ↦ ?_, hheld⟩
    have hfresh := h.fresh hzero
    cases mode <;> exact hfresh

/-- A reset of CP3, also right after a commit. -/
theorem QueuedJob.resetV1Cp3 (h : QueuedJob mode input resets store) (hkept : SlotKept store store') :
    QueuedJob mode input (if mode.session = some .cp3 then resets + 1 else resets) store'.resetV1Cp3 := by
  have hheld : store'.resetV1Cp3.jobInput mode = input := by
    have hinput : store'.jobInput mode = input := by rw [hkept.input, h.held]
    cases mode <;> exact hinput
  have hmode : store'.resetV1Cp3.pendingJobMode = mode := hkept.mode.trans h.pending
  have hepoch2 : mode.session = some .cp2 → store'.v1Cp2Epoch = store'.pendingV1Cp2Epoch + resets := by
    rw [hkept.slot.epoch2, hkept.pending2]
    exact h.epoch2
  by_cases hsession : mode.session = some .cp3
  · rw [if_pos hsession]
    refine ⟨hmode, fun h2 ↦ ?_, fun _ ↦ ?_, nofun, hheld⟩
    · rw [hsession] at h2
      cases h2
    · have hepoch3 := h.epoch3 hsession
      rw [← hkept.slot.epoch3, ← hkept.pending3] at hepoch3
      exact congrArg (· + 1) hepoch3
  · rw [if_neg hsession]
    refine ⟨hmode, hepoch2, fun h3 ↦ absurd h3 hsession, fun _ ↦ ?_, hheld⟩
    cases mode <;> first | exact trivial | exact absurd rfl hsession

/-- A commit leaves the job in the slot, unless it is a PING that could still run. -/
theorem QueuedJob.committed (h : QueuedJob mode input resets store) (hkept : SlotKept store store')
    (hidle : ¬store.Cp4Live) : QueuedJob mode input resets store' := by
  refine ⟨hkept.mode.trans h.pending, ?_, ?_, fun hzero ↦ ?_, by rw [hkept.input, h.held]⟩
  · rw [hkept.slot.epoch2, hkept.pending2]
    exact h.epoch2
  · rw [hkept.slot.epoch3, hkept.pending3]
    exact h.epoch3
  · have hfresh := h.fresh hzero
    cases mode with
    | v1Cp3FinishedC => exact hkept.wait.trans hfresh
    | v1Cp4C2p => exact absurd hfresh hidle
    | v1Cp2 => exact trivial
    | v1Cp3 => exact trivial

theorem Counted.resetV1Cp2 (h : Counted mode resets store worker) :
    Counted mode (if mode.session = some .cp2 then resets + 1 else resets) store.resetV1Cp2 worker := by
  intro epoch hepoch
  obtain ⟨h2, h3⟩ := h epoch hepoch
  by_cases hsession : mode.session = some .cp2
  · rw [if_pos hsession]
    refine ⟨fun _ ↦ congrArg (· + 1) (h2 hsession), fun hother ↦ ?_⟩
    rw [hsession] at hother
    cases hother
  · rw [if_neg hsession]
    exact ⟨fun hother ↦ absurd hother hsession, h3⟩

theorem Counted.resetV1Cp3 (h : Counted mode resets store worker) :
    Counted mode (if mode.session = some .cp3 then resets + 1 else resets) store.resetV1Cp3 worker := by
  intro epoch hepoch
  obtain ⟨h2, h3⟩ := h epoch hepoch
  by_cases hsession : mode.session = some .cp3
  · rw [if_pos hsession]
    refine ⟨fun hother ↦ ?_, fun _ ↦ congrArg (· + 1) (h3 hsession)⟩
    rw [hsession] at hother
    cases hother
  · rw [if_neg hsession]
    exact ⟨h2, fun hother ↦ absurd hother hsession⟩

/-- A job without a reset is of the current epoch. -/
theorem Counted.same (h : Counted mode 0 store worker) {epoch : ℕ} (hepoch : worker.jobEpoch = some epoch) :
    (mode.session = some .cp2 → SameU32 epoch store.v1Cp2Epoch) ∧
      (mode.session = some .cp3 → SameU32 epoch store.v1Cp3Epoch) :=
  ⟨fun hsession ↦ congrArg (· % 2 ^ 32) ((h epoch hepoch).1 hsession).symm,
    fun hsession ↦ congrArg (· % 2 ^ 32) ((h epoch hepoch).2 hsession).symm⟩

/-- A job that is about to run keeps its input through a reset. -/
theorem RunningJob.resetV1Cp2 (h : RunningJob mode input early resets store worker) :
    RunningJob mode input early (if mode.session = some .cp2 then resets + 1 else resets) store.resetV1Cp2
      worker := by
  refine ⟨h.runs, ?_, h.early_le.trans (by split_ifs <;> omega), h.checked, h.counted.resetV1Cp2, fun hzero ↦ ?_⟩
  · have hheld := h.held
    cases mode <;> exact hheld
  · split_ifs at hzero
    have hfresh := h.fresh hzero
    cases worker <;> exact hfresh

theorem RunningJob.resetV1Cp3 (h : RunningJob mode input early resets store worker) :
    RunningJob mode input early (if mode.session = some .cp3 then resets + 1 else resets) store.resetV1Cp3
      worker := by
  refine ⟨h.runs, ?_, h.early_le.trans (by split_ifs <;> omega), h.checked, h.counted.resetV1Cp3, fun hzero ↦ ?_⟩
  · have hheld := h.held
    cases mode <;> exact hheld
  · -- only a CP2 job is left alone by this reset, and it needs nothing of its session
    split_ifs at hzero with hsession
    have hruns := h.runs
    cases worker <;> first | trivial | (cases hruns; exact absurd rfl hsession)

theorem ComesTo.resetV1Cp2 (h : ComesTo platform mode resets product store worker) :
    ComesTo platform mode (if mode.session = some .cp2 then resets + 1 else resets) product store.resetV1Cp2
      worker := by
  cases worker <;> try exact h.elim
  case cp4Recheck | cp4Encrypt | cp4Ready =>
    obtain ⟨rfl, hproduct, hfresh⟩ := h
    exact ⟨rfl, hproduct, hfresh⟩
  case jobDone =>
    refine ⟨h.1, h.2.imp_right fun hfailed ↦ ⟨?_, hfailed.2⟩⟩
    have hreset := hfailed.1
    split_ifs <;> omega

theorem ComesTo.resetV1Cp3 (h : ComesTo platform mode resets product store worker) :
    ComesTo platform mode (if mode.session = some .cp3 then resets + 1 else resets) product store.resetV1Cp3
      worker := by
  cases worker <;> try exact h.elim
  case cp4Recheck | cp4Encrypt | cp4Ready =>
    obtain ⟨rfl, hproduct, -⟩ := h
    exact ⟨rfl, hproduct, nofun⟩
  case jobDone =>
    refine ⟨h.1, h.2.imp_right fun hfailed ↦ ⟨?_, hfailed.2⟩⟩
    have hreset := hfailed.1
    split_ifs <;> omega

theorem SlotMatches.resetV1Cp2 (h : SlotMatches platform store worker job) :
    SlotMatches platform store.resetV1Cp2 worker (job.reset JobMode.session .cp2) := by
  cases job with
  | free => exact h
  | queued mode input resets => exact ⟨h.1, h.2.1, h.2.2.resetV1Cp2⟩
  | running mode input early resets => exact ⟨h.1, h.2.resetV1Cp2⟩
  | done mode resets product => exact ⟨h.1, h.2.1.resetV1Cp2, h.2.2.resetV1Cp2⟩
  | dropped mode => exact h

theorem SlotMatches.resetV1Cp3 (h : SlotMatches platform store worker job) :
    SlotMatches platform store.resetV1Cp3 worker (job.reset JobMode.session .cp3) := by
  cases job with
  | free => exact h
  | queued mode input resets => exact ⟨h.1, h.2.1, h.2.2.resetV1Cp3 (.refl store)⟩
  | running mode input early resets => exact ⟨h.1, h.2.resetV1Cp3⟩
  | done mode resets product => exact ⟨h.1, h.2.1.resetV1Cp3, h.2.2.resetV1Cp3⟩
  | dropped mode => exact h

/-- A worker that has taken a job and not run it holds the slot. -/
theorem holds_of_runs (h : worker.runs = some mode) : worker.holdsJob = true ∧ worker.owed = none := by
  cases worker <;> first | exact ⟨rfl, rfl⟩ | cases h

theorem ComesTo.holds (h : ComesTo platform mode resets product store worker) :
    worker.holdsJob = true ∧ worker.owed = none := by
  cases worker <;> first | exact h.elim | exact ⟨rfl, rfl⟩

/-- The worker holds the slot from the taking of its job to its end. -/
theorem SlotMatches.eq_free (h : SlotMatches platform store worker job) (hpending : store.jobPending = false)
    (hworker : worker.holdsJob = false) : job = .free := by
  cases job with
  | free => rfl
  | queued mode input resets => exact absurd (h.1.symm.trans hpending) Bool.false_ne_true.symm
  | running mode input early resets => exact absurd (hworker.symm.trans (holds_of_runs h.2.runs).1) Bool.false_ne_true
  | done mode resets product => exact absurd (hworker.symm.trans h.2.2.holds.1) Bool.false_ne_true
  | dropped mode =>
    obtain ⟨-, epoch, status, -, rfl⟩ := h
    cases hworker

/-- Between two jobs of the worker the slot is free, or a job waits in it. -/
theorem SlotMatches.cases (h : SlotMatches platform store worker job) (hworker : worker.holdsJob = false) :
    (job = .free ∧ store.jobPending = false) ∨
      ∃ mode input resets, job = .queued mode input resets ∧ store.jobPending = true ∧
        QueuedJob mode input resets store := by
  by_cases hpending : store.jobPending = false
  · exact .inl ⟨h.eq_free hpending hworker, hpending⟩
  · cases job with
    | queued mode input resets => exact .inr ⟨mode, input, resets, rfl, h.1, h.2.2⟩
    | _ => exact absurd h.1 hpending

/-- A worker between two jobs does not change the slot by moving on. -/
theorem SlotMatches.moved {next : Worker} (h : SlotMatches platform store worker job)
    (hworker : worker.holdsJob = false) (hnext : next.holdsJob = false) : SlotMatches platform store next job := by
  obtain ⟨rfl, hpending⟩ | ⟨mode, input, resets, rfl, hpending, hqueued⟩ := h.cases hworker
  · exact ⟨hpending, hnext⟩
  · exact ⟨hpending, hnext, hqueued⟩

/-! ## The resets between two states -/

theorem Store.mem_resets {event : SlotEvent SessionKind JobMode JobInput JobProduct JobResult}
    (h : event ∈ store.resets store') : ∃ kind, event = .reset kind := by
  rcases List.mem_append.mp h with h | h
  · exact ⟨_, List.eq_of_mem_replicate h⟩
  · exact ⟨_, List.eq_of_mem_replicate h⟩

theorem Store.resets_eq_nil (h2 : store'.v1Cp2Epoch = store.v1Cp2Epoch)
    (h3 : store'.v1Cp3Epoch = store.v1Cp3Epoch) : store.resets store' = [] := by
  simp [Store.resets, h2, h3]

theorem Store.resets_eq_cp3 (h2 : store'.v1Cp2Epoch = store.v1Cp2Epoch)
    (h3 : store'.v1Cp3Epoch = store.v1Cp3Epoch + 1) : store.resets store' = [.reset .cp3] := by
  simp [Store.resets, h2, h3]

theorem Store.resets_takeJob (store : Store) : store.resets store.takeJob = [] :=
  Store.resets_eq_nil rfl rfl

theorem Store.resets_resetV1Cp2 (store : Store) : store.resets store.resetV1Cp2 = [.reset .cp2] := by
  simp [Store.resets, Store.resetV1Cp2]

theorem Store.resets_resetV1Cp3 (store : Store) : store.resets store.resetV1Cp3 = [.reset .cp3] :=
  Store.resets_eq_cp3 rfl rfl

end Calls

/-! ## The steps of the worker -/

section Steps

variable {platform : Platform} {state next : State} {view : WorkerView}
  {desk : Desk JobMode JobInput JobProduct JobResult} {store store' : Store} {worker : Worker} {mode : JobMode}
  {input : JobInput} {early resets epoch : ℕ} {product : JobProduct} {job : SlotJob JobMode JobInput JobProduct}
  {owed : Option (JobMode × JobResult)}

/-- What a step of the worker does to a desk that matches. -/
structure Advanced (platform : Platform) (view : WorkerView) (desk : Desk JobMode JobInput JobProduct JobResult)
    (state : State) : Prop where
  reported : ∀ mode result, desk.owed = some (mode, result) →
    .reported mode result ∈ state.slotEvents platform (.worker view)
  last : ∃ last, (slotServer platform).rules.Follows desk (state.slotEvents platform (.worker view)) last ∧
    Matches platform last (state.slotCall platform (.worker view)) ∧
    ∀ mode, desk.job.mode = some mode →
      (last.job.mode = some mode ∧
        (state.slotCall platform (.worker view)).worker.rank < state.worker.rank) ∨
        ∃ result, last.owed = some (mode, result) ∧ 0 < state.worker.rank

theorem SlotSame.resets_eq_nil (h : SlotSame store store') : store.resets store' = [] :=
  Store.resets_eq_nil h.epoch2 h.epoch3

/-- Without a result to report, the events are the resets and the fate of the job. -/
theorem slotEvents_worker (howed : state.worker.owed = none)
    (hnext : (state.workerStep platform view).2 = next) :
    state.slotEvents platform (.worker view) = state.store.resets next.store ++ state.jobEvents next := by
  simp only [State.slotEvents, State.slotCall, hnext, howed, Option.toList_none, List.map_nil,
    List.nil_append]

/-- The worker has run its job, or opened its PING. -/
structure HasRun (mode : JobMode) (state next : State) : Prop where
  same : SlotSame state.store next.store
  epoch : next.worker.jobEpoch = state.worker.jobEpoch
  worker : (∃ epoch status wire, next.worker = .jobDone mode epoch status wire) ∨
    (∃ epoch, state.worker = .cp4Snapshot epoch) ∧ next.store = state.store ∧
      ∃ epoch snapshot challenge, next.worker = .cp4Recheck epoch snapshot challenge

theorem run_hasRun (hjob : state.worker.job = some mode) :
    HasRun mode state (state.workerStep platform view).2 := by
  unfold State.workerStep
  cases hworker : state.worker <;> rw [hworker] at hjob <;> cases hjob
  case startResult epoch =>
    have hepoch : state.worker.jobEpoch = some epoch := by rw [hworker]; rfl
    dsimp only [State.storeStart, State.goto]
    repeat' split
    all_goals exact ⟨⟨rfl, rfl, rfl, rfl, rfl⟩, hepoch.symm, .inl ⟨_, _, _, rfl⟩⟩
  case finishedStore epoch handshake =>
    have hepoch : state.worker.jobEpoch = some epoch := by rw [hworker]; rfl
    dsimp only [State.storeFinished, State.goto, State.report]
    repeat' split
    all_goals exact ⟨⟨rfl, rfl, rfl, rfl, rfl⟩, hepoch.symm, .inl ⟨_, _, _, rfl⟩⟩
  case cp4Snapshot epoch =>
    have hepoch : state.worker.jobEpoch = some epoch := by rw [hworker]; rfl
    dsimp only [State.snapshotCp4, State.goto, State.report]
    split
    · split
      · exact ⟨.refl _, hepoch.symm, .inr ⟨⟨epoch, hworker⟩, rfl, _, _, _, rfl⟩⟩
      · exact ⟨.refl _, hepoch.symm, .inl ⟨_, _, _, rfl⟩⟩
    · exact ⟨.refl _, hepoch.symm, .inl ⟨_, _, _, rfl⟩⟩
  case cp2Result epoch =>
    have hepoch : state.worker.jobEpoch = some epoch := by rw [hworker]; rfl
    dsimp only [State.goto]
    split
    all_goals exact ⟨.refl _, hepoch.symm, .inl ⟨_, _, _, rfl⟩⟩

/-- A job of a session that was not reset commits. -/
theorem RunningJob.commits (h : RunningJob mode input early 0 state.store state.worker)
    (hjob : state.worker.job = some mode) : state.Commits := by
  have hfresh := h.fresh rfl
  have hsame := fun {epoch : ℕ} ↦ @Counted.same state.store state.worker mode h.counted epoch
  unfold State.Commits
  cases hworker : state.worker <;> rw [hworker] at hjob hfresh hsame <;> cases hjob
  case startResult epoch => exact (hsame rfl).2 rfl
  case finishedStore epoch handshake => exact (hsame rfl).2 rfl
  case cp4Snapshot epoch => exact ⟨(hsame rfl).2 rfl, hfresh⟩
  case cp2Result epoch => trivial

theorem HasRun.counted (h : HasRun mode state next) (hcounted : Counted mode resets state.store state.worker) :
    Counted mode resets next.store next.worker := by
  intro epoch hepoch
  rw [h.epoch] at hepoch
  rw [h.same.epoch2, h.same.epoch3]
  exact hcounted epoch hepoch

theorem HasRun.comesTo (h : HasRun mode state next) (platform : Platform) (hjob : state.worker.job = some mode)
    (hready : resets = 0 → state.store.RunReady state.worker) :
    ComesTo platform mode resets next.product next.store next.worker := by
  rcases h.worker with ⟨epoch, status, wire, hnext⟩ | ⟨⟨epoch, hworker⟩, hstore, epoch', snapshot, challenge, hnext⟩
  · rw [hnext]
    refine ⟨rfl, .inl ?_⟩
    simp only [Yields, State.product, hnext]
  · rw [hworker] at hjob hready
    cases hjob
    rw [hnext]
    refine ⟨rfl, ?_, fun hzero ↦ ?_⟩
    · simp only [State.product, hnext]
    · rw [hstore]
      exact ⟨(hready hzero).1, (hready hzero).2.1⟩

theorem HasRun.rank_lt (h : HasRun mode state next) (hjob : state.worker.job = some mode) :
    next.worker.rank < state.worker.rank := by
  rcases h.worker with ⟨epoch, status, wire, hnext⟩ | ⟨⟨epoch, hworker⟩, -, epoch', snapshot, challenge, hnext⟩
  · rw [hnext]
    cases hworker : state.worker <;> rw [hworker] at hjob <;> cases hjob <;> simp [Worker.rank]
  · rw [hnext, hworker]
    simp [Worker.rank]

theorem jobEvents_job (hjob : state.worker.job = some mode) : state.jobEvents next =
    if state.Commits then [.ran mode (state.store.jobInput mode) next.product] else [.discarded mode] := by
  unfold State.jobEvents
  cases hworker : state.worker <;> rw [hworker] at hjob <;> cases hjob <;> rfl

/-- The worker runs its job. -/
theorem advanced_ran (h : Matches platform ⟨.running mode input early resets, none⟩ state)
    (hjob : state.worker.job = some mode) (hcommits : state.Commits) :
    Advanced platform view ⟨.running mode input early resets, none⟩ state := by
  obtain ⟨hpending, hruns⟩ := h.job
  have hrun := @run_hasRun platform state view mode hjob
  have hholds := holds_of_runs hruns.runs
  have hcomes := hrun.comesTo platform hjob hruns.fresh
  refine ⟨nofun, ⟨.done mode resets (state.workerStep platform view).2.product, none⟩, ?_, ?_, ?_⟩
  · rw [slotEvents_worker hholds.2 rfl, jobEvents_job hjob, if_pos hcommits, hrun.same.resets_eq_nil, hruns.held]
    refine SlotRules.Next.follows (.run fun hearly ↦ ?_)
    -- the epoch was checked when the job was taken, so it has gone round
    have hle := hruns.early_le
    have hmod := hruns.checked
    change 2 ^ 32 ≤ resets
    omega
  · have hactive := h.active
    rw [hholds.1, Bool.true_or] at hactive
    have hbusy : state.store.jobActive = ((state.workerStep platform view).2.worker.holdsJob ||
        (state.workerStep platform view).2.worker.holdsCp2) := by
      rw [hactive, hcomes.holds.1, Bool.true_or]
    exact ⟨hrun.same.ready.trans h.ready, hrun.same.active.trans hbusy, hcomes.holds.2.symm, hrun.same.pending.trans hpending, hrun.counted hruns.counted, hcomes⟩
  · rintro _ ⟨⟩
    exact .inl ⟨rfl, hrun.rank_lt hjob⟩

/-- The worker gives its job up without running it, after a reset. -/
theorem advanced_discarded {later : ℕ} {status : JobStatus}
    (h : Matches platform ⟨.running mode input early resets, none⟩ state)
    (hnext : (state.workerStep platform view).2 = next)
    (hevents : state.jobEvents next = [.discarded mode])
    (hfollows : (slotServer platform).rules.Follows ⟨.running mode input early resets, none⟩
      (state.store.resets next.store) ⟨.running mode input early later, none⟩)
    (hlater : later ≠ 0) (hpending : next.store.jobPending = state.store.jobPending)
    (hactive : next.store.jobActive = state.store.jobActive)
    (hready : next.store.keypairReady = state.store.keypairReady)
    (hworker : next.worker = .jobDone mode epoch status []) (hstatus : status ≠ .success)
    (hrank : 1 < state.worker.rank) :
    Advanced platform view ⟨.running mode input early resets, none⟩ state := by
  obtain ⟨hfree, hruns⟩ := h.job
  have hholds := holds_of_runs hruns.runs
  refine ⟨nofun, ⟨.dropped mode, none⟩, ?_, ?_, ?_⟩
  · rw [slotEvents_worker hholds.2 hnext, hevents]
    exact hfollows.append (SlotRules.Next.follows (.discardRunning hlater))
  · have htaken := h.active
    rw [hholds.1, Bool.true_or] at htaken
    simp only [State.slotCall, hnext]
    exact ⟨hready.trans h.ready, by rw [hactive, htaken, hworker]; rfl, by rw [hworker]; rfl,
      hpending.trans hfree, epoch, status, hstatus, hworker⟩
  · rintro _ ⟨⟩
    simp only [State.slotCall, hnext, hworker]
    exact .inl ⟨rfl, hrank⟩

/-- The worker goes on with a job that it has not run, or has run. -/
theorem advanced_same (h : Matches platform ⟨job, none⟩ state)
    (hnext : (state.workerStep platform view).2 = next) (hevents : state.jobEvents next = [])
    (hsame : SlotSame state.store next.store) (hholds : state.worker.holdsJob = true)
    (howed : state.worker.owed = none) (hnextHolds : next.worker.holdsJob = true)
    (hnextOwed : next.worker.owed = none) (hmatches : SlotMatches platform next.store next.worker job)
    (hrank : next.worker.rank < state.worker.rank) : Advanced platform view ⟨job, none⟩ state := by
  refine ⟨nofun, ⟨job, none⟩, ?_, ?_, ?_⟩
  · rw [slotEvents_worker howed hnext, hevents, hsame.resets_eq_nil]
    rfl
  · have hactive := h.active
    rw [hholds, Bool.true_or] at hactive
    simp only [State.slotCall, hnext]
    exact ⟨hsame.ready.trans h.ready, by rw [hsame.active, hactive, hnextHolds, Bool.true_or],
      hnextOwed.symm, hmatches⟩
  · intro mode hmode
    simp only [State.slotCall, hnext]
    exact .inl ⟨hmode, hrank⟩

/-- The liveness check of a PING goes on, or resets the session. -/
theorem cp4Live_cases (state : State) (view : LinkView) :
    state.pqV1Cp4JobLive view = (true, state) ∨
      state.pqV1Cp4JobLive view = (false, state.invalidateV1Cp3) := by
  unfold State.pqV1Cp4JobLive
  split
  · exact .inl rfl
  · exact .inr rfl

/-- The worker has taken a job that it has not run yet. -/
theorem advanced_running (h : Matches platform ⟨.running mode input early resets, none⟩ state) :
    Advanced platform view ⟨.running mode input early resets, none⟩ state := by
  obtain ⟨hpending, hruns⟩ := h.job
  have hholds := holds_of_runs hruns.runs
  have hstay : (slotServer platform).rules.Follows ⟨.running mode input early resets, none⟩
      (state.store.resets state.store) ⟨.running mode input early resets, none⟩ := by
    rw [(SlotSame.refl state.store).resets_eq_nil]
    rfl
  by_cases hjob : state.worker.job = some mode
  · by_cases hcommits : state.Commits
    · exact advanced_ran h hjob hcommits
    · obtain ⟨epoch, status, hstatus, hnext⟩ := @run_uncommitted platform state view mode hjob hcommits
      have hrank : 1 < state.worker.rank := by
        cases hworker : state.worker <;> rw [hworker] at hjob <;> cases hjob <;> simp [Worker.rank]
      refine advanced_discarded h hnext ?_ hstay ?_ rfl rfl rfl rfl hstatus hrank
      · rw [jobEvents_job hjob, if_neg hcommits]
      · rintro rfl
        exact hcommits (hruns.commits hjob)
  have hrun := hruns.runs
  have hcounted := hruns.counted
  have hfresh := hruns.fresh
  cases hstate : state.worker <;> rw [hstate] at hjob hrun hcounted hfresh <;> try exact absurd hrun hjob
  case finishedTake epoch =>
    cases hrun
    by_cases hlive : SameU32 epoch state.store.v1Cp3Epoch ∧ state.store.v1Cp3WaitFinished = true
    · have hstep : (state.workerStep platform view).2 = { state with
          store := state.store.takeHandshake
          worker := .finishedStore epoch state.store.v1Cp3Handshake } := by
        simp only [State.workerStep, hstate]
        exact if_pos hlive
      refine advanced_same h hstep (by simp only [State.jobEvents, hstate]; exact if_pos hlive)
        ⟨rfl, rfl, rfl, rfl, rfl⟩ hholds.1 hholds.2 rfl rfl ⟨hpending, ?_⟩ (by simp [Worker.rank, hstate])
      exact ⟨rfl, hruns.held, hruns.early_le, hruns.checked, hcounted, fun _ ↦ trivial⟩
    · have hstep : (state.workerStep platform view).2 =
          state.goto (.jobDone .v1Cp3FinishedC epoch .authenticationFailure []) := by
        simp only [State.workerStep, hstate]
        exact if_neg hlive
      refine advanced_discarded h hstep (by simp only [State.jobEvents, hstate]; exact if_neg hlive) hstay
        ?_ rfl rfl rfl rfl (fun hstatus ↦ JobStatus.noConfusion hstatus) (by simp [Worker.rank, hstate])
      rintro rfl
      exact hlive ⟨(hcounted.same rfl).2 rfl, hfresh rfl⟩
  case cp4Live epoch =>
    cases hrun
    rcases cp4Live_cases state view.first with hlive | hlive
    · have hstep : (state.workerStep platform view).2 = state.goto (.cp4Snapshot epoch) := by
        simp only [State.workerStep, hstate, hlive, if_true]
      exact advanced_same h hstep (by simp only [State.jobEvents, hstate, State.goto_worker]) (.refl _)
        hholds.1 hholds.2 rfl rfl
        ⟨hpending, rfl, hruns.held, hruns.early_le, hruns.checked, hcounted, hfresh⟩ (by simp [Worker.rank, hstate])
    · have hstep : (state.workerStep platform view).2 =
          state.invalidateV1Cp3.goto (.jobDone .v1Cp4C2p epoch .authenticationFailure []) := by
        simp only [State.workerStep, hstate, hlive, Bool.false_eq_true, if_false]
      -- the reset comes before the job is given up
      have hreset : (slotServer platform).rules.Follows ⟨.running .v1Cp4C2p input early resets, none⟩
          (state.store.resets (state.invalidateV1Cp3.goto
            (.jobDone .v1Cp4C2p epoch .authenticationFailure [])).store)
          ⟨.running .v1Cp4C2p input early (resets + 1), none⟩ := by
        change (slotServer platform).rules.Follows _ (state.store.resets state.store.resetV1Cp3) _
        rw [Store.resets_resetV1Cp3]
        exact SlotRules.Next.follows .reset
      exact advanced_discarded h hstep (by simp only [State.jobEvents, hstate, State.goto_worker]) hreset
        (Nat.succ_ne_zero _) rfl rfl rfl rfl (fun hstatus ↦ JobStatus.noConfusion hstatus)
        (by simp [Worker.rank, hstate])

/-- The worker has run its job and has not ended it. -/
theorem advanced_done (h : Matches platform ⟨.done mode resets product, none⟩ state)
    (hworker : ∀ epoch status wire, state.worker ≠ .jobDone mode epoch status wire) :
    Advanced platform view ⟨.done mode resets product, none⟩ state := by
  obtain ⟨hpending, hcounted, hcomes⟩ := h.job
  have hholds := hcomes.holds
  cases hstate : state.worker <;> rw [hstate] at hcomes hcounted <;> try exact hcomes.elim
  case cp4Recheck epoch snapshot challenge =>
    obtain ⟨rfl, hproduct, hfresh⟩ := hcomes
    rcases cp4Live_cases state view.first with hlive | hlive
    · have hstep : (state.workerStep platform view).2 = state.goto (.cp4Encrypt epoch snapshot challenge) := by
        simp only [State.workerStep, hstate, hlive, if_true]
      exact advanced_same h hstep (by simp only [State.jobEvents, Worker.job, hstate]) (.refl _) hholds.1 hholds.2
        rfl rfl ⟨hpending, hcounted, rfl, hproduct, hfresh⟩ (by simp [Worker.rank, hstate])
    · have hstep : (state.workerStep platform view).2 =
          state.invalidateV1Cp3.goto (.jobDone .v1Cp4C2p epoch .authenticationFailure []) := by
        simp only [State.workerStep, hstate, hlive, Bool.false_eq_true, if_false]
      refine ⟨fun _ _ howed ↦ absurd howed.symm (Option.some_ne_none _),
        ⟨.done .v1Cp4C2p (resets + 1) product, none⟩, ?_, ?_, ?_⟩
      · rw [slotEvents_worker hholds.2 hstep]
        change (slotServer platform).rules.Follows _ (state.store.resets state.store.resetV1Cp3 ++ _) _
        rw [Store.resets_resetV1Cp3]
        simp only [State.jobEvents, Worker.job, hstate, List.append_nil]
        exact SlotRules.Next.follows .reset
      · have hactive := h.active
        rw [hholds.1, Bool.true_or] at hactive
        simp only [State.slotCall, hstep]
        exact ⟨h.ready, hactive, rfl, hpending, hcounted.resetV1Cp3, rfl, .inr ⟨Nat.succ_ne_zero _, fun hstatus ↦ JobStatus.noConfusion hstatus, rfl⟩⟩
      · rintro _ ⟨⟩
        simp only [State.slotCall, hstep]
        exact .inl ⟨rfl, by simp [Worker.rank, hstate]⟩
  case cp4Encrypt epoch snapshot challenge =>
    obtain ⟨rfl, hproduct, hfresh⟩ := hcomes
    have hyields : ∀ result, pong platform view snapshot challenge = result → Yields platform product result := by
      intro result hresult
      unfold Yields
      rw [hproduct]
      exact ⟨view, hresult⟩
    have hstep : (state.workerStep platform view).2 = state.encryptCp4 platform epoch snapshot challenge view := by
      simp only [State.workerStep, hstate]
    have hstore : (state.encryptCp4 platform epoch snapshot challenge view).store = state.store := by
      unfold State.encryptCp4
      split <;> rfl
    have hevents : ∀ next, state.jobEvents next = [] := fun _ ↦ by simp only [State.jobEvents, Worker.job, hstate]
    rcases @encryptCp4_pong platform state view epoch snapshot challenge with ⟨wire, hpong, hnext⟩ | ⟨hpong, hnext⟩
    · refine advanced_same h hstep (hevents _) (by rw [hstore]; exact .refl _) hholds.1 hholds.2
        (by rw [hnext]; rfl) (by rw [hnext]; rfl) ?_ (by simp [Worker.rank, hnext, hstate])
      rw [hstore, hnext]
      exact ⟨hpending, hcounted, rfl, hyields _ hpong, hfresh⟩
    · refine advanced_same h hstep (hevents _) (by rw [hstore]; exact .refl _) hholds.1 hholds.2
        (by rw [hnext]; rfl) (by rw [hnext]; rfl) ?_ (by simp [Worker.rank, hnext, hstate])
      rw [hstore, hnext]
      exact ⟨hpending, hcounted, rfl, .inl (hyields _ hpong)⟩
  case cp4Ready epoch wire =>
    obtain ⟨rfl, hyields, hfresh⟩ := hcomes
    have hevents : ∀ next, state.jobEvents next = [] := fun _ ↦ by simp only [State.jobEvents, Worker.job, hstate]
    by_cases hlive : SameU32 epoch state.store.v1Cp3Epoch ∧ state.store.v1Cp3AppSecure = true ∧
        state.store.v1Cp4Pending = true
    · have hstep : (state.workerStep platform view).2 = { state with
          store := { state.store with v1Cp4Ready := true }
          worker := .jobDone .v1Cp4C2p epoch .success wire } := by
        simp only [State.workerStep, hstate]
        exact if_pos hlive
      exact advanced_same h hstep (hevents _) ⟨rfl, rfl, rfl, rfl, rfl⟩ hholds.1 hholds.2 rfl rfl
        ⟨hpending, hcounted, rfl, .inl hyields⟩ (by simp [Worker.rank, hstate])
    · have hstep : (state.workerStep platform view).2 =
          state.goto (.jobDone .v1Cp4C2p epoch .authenticationFailure []) := by
        simp only [State.workerStep, hstate]
        exact if_neg hlive
      refine advanced_same h hstep (hevents _) (.refl _) hholds.1 hholds.2 rfl rfl
        ⟨hpending, hcounted, rfl, .inr ⟨?_, fun hstatus ↦ JobStatus.noConfusion hstatus, rfl⟩⟩
        (by simp [Worker.rank, hstate])
      rintro rfl
      exact hlive ⟨(hcounted.same rfl).2 rfl, hfresh rfl⟩
  case jobDone m epoch status wire =>
    obtain rfl : m = mode := hcomes.1
    exact absurd hstate (hworker epoch status wire)

/-- The epoch that the end of a job compares. -/
def Store.epochAt (store : Store) (mode : JobMode) : ℕ :=
  if mode = .v1Cp2 then store.v1Cp2Epoch else store.v1Cp3Epoch

/-- The callback of a mode; a result of an older epoch is cancelled. -/
theorem finishJob_step {status : JobStatus} {wire : Bytes} :
    ∃ result, (state.finishJob mode epoch status wire).worker.owed = some (mode, result) ∧
      (state.finishJob mode epoch status wire).store = state.store.finishJob mode ∧
      (state.finishJob mode epoch status wire).worker.holdsJob = false ∧
      ((state.finishJob mode epoch status wire).worker.holdsCp2 = decide (mode = .v1Cp2)) ∧
      (result = ⟨status, wire⟩ ∨
        result = ⟨.invalidProtocolState, []⟩ ∧ ¬SameU32 epoch (state.store.epochAt mode)) := by
  unfold State.finishJob
  dsimp only
  by_cases hcurrent : SameU32 epoch (state.store.epochAt mode)
  · rw [Store.epochAt] at hcurrent
    simp only [if_pos hcurrent]
    refine ⟨⟨status, wire⟩, ?_, trivial, ?_, ?_, .inl rfl⟩ <;> cases mode <;> rfl
  · have hstale := hcurrent
    rw [Store.epochAt] at hstale
    simp only [if_neg hstale]
    refine ⟨⟨.invalidProtocolState, []⟩, ?_, trivial, ?_, ?_, .inr ⟨rfl, hcurrent⟩⟩ <;> cases mode <;> rfl

/-- A job of an older epoch was reset. -/
theorem Counted.stale (h : Counted mode resets state.store state.worker)
    (hepoch : state.worker.jobEpoch = some epoch) (hstale : ¬SameU32 epoch (state.store.epochAt mode)) :
    resets ≠ 0 := by
  rintro rfl
  obtain ⟨h2, h3⟩ := h.same hepoch
  refine hstale ?_
  unfold Store.epochAt
  cases mode
  case v1Cp2 => exact h2 rfl
  all_goals exact h3 rfl

/-- The worker ends a job that has run, or that it has given up. -/
theorem advanced_finish {status : JobStatus} {wire : Bytes}
    (h : Matches platform ⟨job, none⟩ state) (hmode : job.mode = some mode)
    (hpending : state.store.jobPending = false)
    (hworker : state.worker = .jobDone mode epoch status wire)
    (hfinish : ∀ result, (result = ⟨status, wire⟩ ∨
        result = ⟨.invalidProtocolState, []⟩ ∧ ¬SameU32 epoch (state.store.epochAt mode)) →
      (slotServer platform).rules.Next ⟨job, none⟩ (.finished mode result) ⟨.free, some (mode, result)⟩) :
    Advanced platform view ⟨job, none⟩ state := by
  obtain ⟨result, howed, hstore, hholds, hcp2, hresult⟩ := @finishJob_step state mode epoch status wire
  have hstep : (state.workerStep platform view).2 = state.finishJob mode epoch status wire := by
    simp only [State.workerStep, hworker]
  have hactive := h.active
  rw [hworker] at hactive
  refine ⟨fun _ _ howed ↦ absurd howed.symm (Option.some_ne_none _), ⟨.free, some (mode, result)⟩, ?_, ?_, ?_⟩
  · rw [slotEvents_worker (by rw [hworker]; rfl) hstep, hstore]
    have hresets : state.store.resets (state.store.finishJob mode) = [] := by
      cases mode <;> exact Store.resets_eq_nil rfl rfl
    simp only [hresets, State.jobEvents, hworker, howed, Option.toList_some, List.map_cons, List.map_nil,
      List.nil_append]
    exact SlotRules.Next.follows (hfinish result hresult)
  · simp only [State.slotCall, hstep]
    refine ⟨?_, ?_, howed.symm, ?_, hholds⟩
    · rw [hstore]
      cases mode <;> exact h.ready
    · rw [hstore, hholds, hcp2]
      cases mode <;> first | rfl | exact hactive
    · rw [hstore]
      cases mode <;> exact hpending
  · intro other hother
    obtain rfl : mode = other := Option.some.inj (hmode.symm.trans hother)
    exact .inr ⟨_, rfl, by rw [hworker]; exact Nat.zero_lt_one⟩

/-! ## Between two jobs -/

/-- The worker takes the pending job. -/
theorem takeJob_of_current (hready : state.store.keypairReady = true)
    (hpending : state.store.jobPending = true) (hcurrent : state.store.JobCurrent)
    (hjob : QueuedJob mode input resets state.store) :
    RunningJob mode input resets resets state.takeJob.store state.takeJob.worker ∧
      state.takeJob.store = state.store.takeJob ∧ state.takeJob.worker.rank < 7 := by
  have htake : state.takeJob = { state with
      store := state.store.takeJob
      worker := State.takenWorker state.store
      workerGeneration := state.jobGeneration
      workerEpoch := state.store.pendingV1Cp3Epoch } :=
    if_neg (by rw [hpending, hready]; simp)
  have hmode := hjob.pending
  have hfresh := hjob.fresh
  have hinput : state.store.takeJob.jobInput mode = input := by
    cases mode <;> exact hjob.held
  have hmod : ∀ {pending current : ℕ}, SameU32 pending current → current = pending + resets →
      resets % 2 ^ 32 = 0 := by
    intro pending current hsame hepoch
    unfold SameU32 at hsame
    omega
  -- the worker takes the epoch that the job was submitted under
  have hcounted : ∀ {worker : Worker}, worker.jobEpoch = some (if mode = .v1Cp2 then
        state.store.pendingV1Cp2Epoch else state.store.pendingV1Cp3Epoch) →
      Counted mode resets state.store.takeJob worker := by
    intro worker hepoch epoch hown
    obtain rfl := Option.some.inj (hepoch.symm.trans hown)
    refine ⟨fun hsession ↦ ?_, fun hsession ↦ ?_⟩
    · have hmode2 : mode = .v1Cp2 := by cases mode <;> first | rfl | cases hsession
      rw [if_pos hmode2]
      exact hjob.epoch2 hsession
    · have hmode2 : mode ≠ .v1Cp2 := by
        rintro rfl
        cases hsession
      rw [if_neg hmode2]
      exact hjob.epoch3 hsession
  unfold Store.JobCurrent at hcurrent
  rw [hmode] at hcurrent
  rw [htake]
  dsimp only
  cases mode with
  | v1Cp2 =>
    rw [if_pos rfl] at hcurrent
    have htaken : State.takenWorker state.store = .cp2Result state.store.pendingV1Cp2Epoch := by
      unfold State.takenWorker
      rw [hmode]
      exact if_pos hcurrent
    rw [htaken]
    exact ⟨⟨rfl, hinput, le_rfl, hmod hcurrent (hjob.epoch2 rfl),
      hcounted rfl, fun _ ↦ trivial⟩, rfl, by simp [Worker.rank]⟩
  | v1Cp3 =>
    rw [if_neg nofun] at hcurrent
    have htaken : State.takenWorker state.store = .startResult state.store.pendingV1Cp3Epoch := by
      unfold State.takenWorker
      rw [hmode]
      exact if_pos hcurrent
    rw [htaken]
    exact ⟨⟨rfl, hinput, le_rfl, hmod hcurrent (hjob.epoch3 rfl),
      hcounted rfl, fun _ ↦ trivial⟩, rfl, by simp [Worker.rank]⟩
  | v1Cp3FinishedC =>
    rw [if_neg nofun] at hcurrent
    have htaken : State.takenWorker state.store = .finishedTake state.store.pendingV1Cp3Epoch := by
      unfold State.takenWorker
      rw [hmode]
      exact if_pos hcurrent
    rw [htaken]
    exact ⟨⟨rfl, hinput, le_rfl, hmod hcurrent (hjob.epoch3 rfl),
      hcounted rfl, hfresh⟩, rfl, by simp [Worker.rank]⟩
  | v1Cp4C2p =>
    rw [if_neg nofun] at hcurrent
    have htaken : State.takenWorker state.store = .cp4Live state.store.pendingV1Cp3Epoch := by
      unfold State.takenWorker
      rw [hmode]
      exact if_pos hcurrent
    rw [htaken]
    exact ⟨⟨rfl, hinput, le_rfl, hmod hcurrent (hjob.epoch3 rfl),
      hcounted rfl, hfresh⟩, rfl, by simp [Worker.rank]⟩

/-- The worker gives up a job of an older epoch. -/
theorem takeJob_of_stale (hready : state.store.keypairReady = true)
    (hpending : state.store.jobPending = true) (hcurrent : ¬state.store.JobCurrent) :
    state.takeJob.store = state.store.takeJob ∧
      ∃ epoch, state.takeJob.worker =
        .jobDone state.store.pendingJobMode epoch .invalidProtocolState [] := by
  have htake : state.takeJob = { state with
      store := state.store.takeJob
      worker := State.takenWorker state.store
      workerGeneration := state.jobGeneration
      workerEpoch := state.store.pendingV1Cp3Epoch } :=
    if_neg (by rw [hpending, hready]; simp)
  unfold Store.JobCurrent at hcurrent
  rw [htake]
  refine ⟨rfl, ?_⟩
  unfold State.takenWorker
  dsimp only
  cases hmode : state.store.pendingJobMode <;> rw [hmode] at hcurrent
  case v1Cp2 =>
    rw [if_pos rfl] at hcurrent
    exact ⟨_, if_neg hcurrent⟩
  all_goals
    rw [if_neg nofun] at hcurrent
    exact ⟨_, if_neg hcurrent⟩

/-- The worker looks for a job. -/
theorem advanced_idle (h : Matches platform desk state) (hworker : state.worker = .idle) :
    Advanced platform view desk state := by
  have hidle : state.worker.owed = none := by rw [hworker]; rfl
  have hstep : (state.workerStep platform view).2 = state.takeJob := by
    simp only [State.workerStep, hworker]
  obtain ⟨job, owed⟩ := desk
  obtain rfl : owed = none := h.owed.trans hidle
  have hjob := h.job
  cases job with
  | free =>
    have htake : state.takeJob = { state with store := { state.store with jobPending := false } } :=
      if_pos (.inl hjob.1)
    refine ⟨by rintro _ _ ⟨⟩, ⟨.free, none⟩, ?_, ?_, by rintro _ ⟨⟩⟩
    · have hresets : state.store.resets state.takeJob.store = [] := by
        rw [htake]
        exact Store.resets_eq_nil rfl rfl
      rw [slotEvents_worker hidle hstep, hresets]
      simp only [State.jobEvents, hworker, hjob.1, if_true, List.append_nil]
      rfl
    · simp only [State.slotCall, hstep, htake]
      exact ⟨h.ready, h.active, h.owed, rfl, hjob.2⟩
  | queued mode input resets =>
    obtain ⟨hpending, -, hqueued⟩ := hjob
    by_cases hcurrent : state.store.JobCurrent
    · obtain ⟨hruns, hstore, hrank⟩ := takeJob_of_current h.ready hpending hcurrent hqueued
      have hholds := holds_of_runs hruns.runs
      refine ⟨by rintro _ _ ⟨⟩, ⟨.running mode input resets resets, none⟩, ?_, ?_, ?_⟩
      · rw [slotEvents_worker hidle hstep, hstore, Store.resets_takeJob]
        simp only [State.jobEvents, hworker, hpending, hcurrent, Bool.true_eq_false, if_false, if_true,
          hqueued.pending, List.nil_append]
        exact SlotRules.Next.follows .take
      · simp only [State.slotCall, hstep]
        refine ⟨by rw [hstore]; exact h.ready, ?_, hholds.2.symm, by rw [hstore]; rfl, hruns⟩
        rw [hstore, hholds.1]
        rfl
      · rintro _ ⟨⟩
        simp only [State.slotCall, hstep]
        exact .inl ⟨rfl, hrank.trans_le (by rw [hworker]; exact le_rfl)⟩
    · obtain ⟨hstore, epoch, hnext⟩ := takeJob_of_stale h.ready hpending hcurrent
      rw [hqueued.pending] at hnext
      -- without a reset the job would be of the current epoch
      have hresets : resets ≠ 0 := by
        rintro rfl
        refine hcurrent ?_
        unfold Store.JobCurrent
        rw [hqueued.pending]
        have h2 := hqueued.epoch2
        have h3 := hqueued.epoch3
        cases mode
        case v1Cp2 => exact congrArg (· % 2 ^ 32) (h2 rfl).symm
        all_goals exact congrArg (· % 2 ^ 32) (h3 rfl).symm
      refine ⟨by rintro _ _ ⟨⟩, ⟨.dropped mode, none⟩, ?_, ?_, ?_⟩
      · rw [slotEvents_worker hidle hstep, hstore, Store.resets_takeJob]
        simp only [State.jobEvents, hworker, hpending, hcurrent, Bool.true_eq_false, if_false,
          hqueued.pending, List.nil_append]
        exact SlotRules.Next.follows (.discardQueued hresets)
      · simp only [State.slotCall, hstep]
        exact ⟨by rw [hstore]; exact h.ready, by rw [hstore, hnext]; rfl, by rw [hnext]; rfl,
          by rw [hstore]; rfl, epoch, .invalidProtocolState, by rintro ⟨⟩, hnext⟩
      · rintro _ ⟨⟩
        simp only [State.slotCall, hstep]
        exact .inl ⟨rfl, by simp [Worker.rank, hnext, hworker]⟩
  | running mode input early resets =>
    have hruns := hjob.2.runs
    rw [hworker] at hruns
    cases hruns
  | done mode resets product =>
    obtain ⟨-, -, hcomes⟩ := hjob
    rw [hworker] at hcomes
    exact hcomes.elim
  | dropped mode =>
    obtain ⟨-, epoch, status, -, hnext⟩ := hjob
    rw [hworker] at hnext
    cases hnext

/-- What a step of the worker between two jobs does to the store: a commit never overtakes a queued PING. -/
inductive RestMove (store next : Store) : Prop
  | kept (h : next = store)
  | reset (h : next = store.resetV1Cp3)
  | committed (kept : SlotKept store next) (idle : ¬store.Cp4Live)
  | undone (mid : Store) (kept : SlotKept store mid) (h : next = mid.resetV1Cp3)

theorem commitV1Cp3_move (state : State) :
    RestMove state.store (state.commitV1Cp3 platform view).2.store ∧
      RestMove state.store (state.commitV1Cp3 platform view).2.store.resetV1Cp3 := by
  unfold State.commitV1Cp3
  cases hcommit : state.store.commitV1Cp3 with
  | error error => exact ⟨.kept rfl, .reset rfl⟩
  | ok store =>
    obtain ⟨⟨-, hsecure⟩, rfl⟩ := commitV1Cp3_eq_ok_iff.mp hcommit
    have hidle : ¬state.store.Cp4Live := fun hlive ↦ by
      have happ := hlive.1
      rw [hsecure] at happ
      cases happ
    have hsame : ∀ {next : Store}, next.jobInput = state.store.jobInput → SlotSame state.store next →
        next.pendingJobMode = state.store.pendingJobMode →
        next.pendingV1Cp2Epoch = state.store.pendingV1Cp2Epoch →
        next.pendingV1Cp3Epoch = state.store.pendingV1Cp3Epoch →
        next.v1Cp3WaitFinished = state.store.v1Cp3WaitFinished →
        RestMove state.store next ∧ RestMove state.store next.resetV1Cp3 :=
      fun hinput hslot hmode h2 h3 hwait ↦
        ⟨.committed ⟨hslot, hmode, h2, h3, hinput, hwait⟩ hidle,
          .undone _ ⟨hslot, hmode, h2, h3, hinput, hwait⟩ rfl⟩
    dsimp only
    split
    · exact hsame (funext fun mode ↦ by cases mode <;> rfl) ⟨rfl, rfl, rfl, rfl, rfl⟩ rfl rfl rfl rfl
    · exact hsame (funext fun mode ↦ by cases mode <;> rfl) ⟨rfl, rfl, rfl, rfl, rfl⟩ rfl rfl rfl rfl

/-- A drained callback leaves the store alone. -/
theorem drain_rest (state : State) : state.drain.store = state.store ∧ state.drain.worker = .idle := by
  unfold State.drain
  exact ⟨rfl, rfl⟩

theorem settleCp3_move {start : Bool} {status : JobStatus} {conn : Option Conn} {generation : ℕ}
    {sent : Bool} :
    RestMove state.store (state.settleCp3 platform start status conn generation sent view).store ∧
      (state.settleCp3 platform start status conn generation sent view).worker = .idle := by
  unfold State.settleCp3
  dsimp only
  refine ⟨?_, (drain_rest _).2⟩
  rw [(drain_rest _).1]
  split
  · split
    · exact .reset rfl
    · split
      · exact .kept rfl
      · split
        · exact (commitV1Cp3_move state).1
        · exact (commitV1Cp3_move state).2
  · split
    · exact .reset rfl
    · exact .kept rfl

theorem settleCp4_move {conn : Option Conn} {generation : ℕ} {sent : Bool} {link : LinkView} :
    RestMove state.store (state.settleCp4 conn generation sent link).store ∧
      (state.settleCp4 conn generation sent link).worker = .idle := by
  unfold State.settleCp4
  dsimp only
  refine ⟨?_, (drain_rest _).2⟩
  rw [(drain_rest _).1]
  split
  · cases hcommit : state.store.commitV1Cp4 with
    | error error => exact .reset rfl
    | ok store =>
      obtain ⟨⟨-, -, hready, -⟩, rfl⟩ := commitV1Cp4_eq_ok_iff.mp hcommit
      refine .committed ⟨⟨rfl, rfl, rfl, rfl, rfl⟩, rfl, rfl, rfl, funext fun mode ↦ by cases mode <;> rfl, rfl⟩
        fun hlive ↦ ?_
      have hidle := hlive.2.2
      rw [hready] at hidle
      cases hidle
  · exact .reset rfl

/-- A move between two jobs is at most one reset. -/
theorem RestMove.follows {next : Worker} (h : RestMove store store')
    (hmatches : SlotMatches platform store worker job) (hworker : worker.holdsJob = false)
    (hnext : next.holdsJob = false) :
    store'.keypairReady = store.keypairReady ∧ store'.jobActive = store.jobActive ∧
      ∃ last, (slotServer platform).rules.Follows ⟨job, none⟩ (store.resets store') ⟨last, none⟩ ∧
        SlotMatches platform store' next last ∧ last.mode = job.mode := by
  cases h with
  | kept h =>
    subst h
    rw [Store.resets_eq_nil rfl rfl]
    exact ⟨rfl, rfl, job, rfl, hmatches.moved hworker hnext, rfl⟩
  | reset h =>
    subst h
    rw [Store.resets_resetV1Cp3]
    exact ⟨rfl, rfl, _, SlotRules.Next.follows .reset, hmatches.resetV1Cp3.moved hworker hnext,
      SlotJob.mode_reset _ _ _⟩
  | committed hkept hidle =>
    rw [hkept.slot.resets_eq_nil]
    refine ⟨hkept.slot.ready, hkept.slot.active, job, rfl, ?_, rfl⟩
    obtain ⟨rfl, hpending⟩ | ⟨mode, input, resets, rfl, hpending, hqueued⟩ := hmatches.cases hworker
    · exact ⟨hkept.slot.pending.trans hpending, hnext⟩
    · exact ⟨hkept.slot.pending.trans hpending, hnext, hqueued.committed hkept hidle⟩
  | undone mid hkept h =>
    subst h
    have hresets : store.resets mid.resetV1Cp3 = [.reset .cp3] :=
      Store.resets_eq_cp3 hkept.slot.epoch2 (congrArg (· + 1) hkept.slot.epoch3)
    rw [hresets]
    refine ⟨hkept.slot.ready, hkept.slot.active, job.reset JobMode.session .cp3,
      SlotRules.Next.follows .reset, ?_, SlotJob.mode_reset _ _ _⟩
    obtain ⟨rfl, hpending⟩ | ⟨mode, input, resets, rfl, hpending, hqueued⟩ := hmatches.cases hworker
    · exact ⟨hkept.slot.pending.trans hpending, hnext⟩
    · exact ⟨hkept.slot.pending.trans hpending, hnext, hqueued.resetV1Cp3 hkept⟩

/-- A step of the worker between two jobs that does not look for one. -/
structure Rested (state next : State) : Prop where
  holds : next.worker.holdsJob = false
  cp2 : next.worker.holdsCp2 = state.worker.holdsCp2
  owed : next.worker.owed = none
  rank : next.worker.rank < state.worker.rank
  move : RestMove state.store next.store

theorem Rested.of_settled {before settled : State}
    (h : RestMove before.store settled.store ∧ settled.worker = .idle) (hstore : before.store = state.store)
    (hcp2 : state.worker.holdsCp2 = false) (hrank : 7 < state.worker.rank) : Rested state settled := by
  obtain ⟨hmove, hnext⟩ := h
  rw [hstore] at hmove
  exact ⟨by rw [hnext]; rfl, by rw [hnext, hcp2]; rfl, by rw [hnext]; rfl, by rw [hnext]; exact hrank, hmove⟩

theorem callbackCp3_rest {start : Bool} {status : JobStatus} {wire : Bytes}
    (hworker : state.worker = .cp3Callback start status wire) :
    Rested state (state.callbackCp3 platform start status wire view).2 := by
  unfold State.callbackCp3
  dsimp only
  split
  · exact ⟨rfl, by rw [hworker]; rfl, rfl, by simp [Worker.rank, hworker], .kept rfl⟩
  · exact .of_settled settleCp3_move rfl (by rw [hworker]; rfl) (by simp [Worker.rank, hworker])

theorem callbackCp4_rest {status : JobStatus} {wire : Bytes} {link : LinkView}
    (hworker : state.worker = .cp4Callback status wire) :
    Rested state (state.callbackCp4 platform status wire link) := by
  have hrest : ∀ {next : State}, RestMove state.store next.store →
      (∃ conn generation frame, next.worker = .cp4Check conn generation frame) ∨
        (∃ generation, next.worker = .cp4Settle none generation false) → Rested state next := by
    rintro next hmove (⟨conn, generation, frame, hnext⟩ | ⟨generation, hnext⟩)
    · exact ⟨by rw [hnext]; rfl, by rw [hnext, hworker]; rfl, by rw [hnext]; rfl,
        by simp [Worker.rank, hnext, hworker], hmove⟩
    · exact ⟨by rw [hnext]; rfl, by rw [hnext, hworker]; rfl, by rw [hnext]; rfl,
        by simp [Worker.rank, hnext, hworker], hmove⟩
  unfold State.callbackCp4
  dsimp only
  refine hrest ?_ ?_
  · split
    · exact .kept rfl
    · exact .reset rfl
  · cases state.main.v1Cp3Conn with
    | none => exact .inr ⟨_, rfl⟩
    | some conn =>
      dsimp only
      split
      · exact .inl ⟨_, _, _, rfl⟩
      · exact .inr ⟨_, rfl⟩

/-- Every other step of a callback moves the store at most by a commit or a reset. -/
theorem rest_step (hidle : state.worker ≠ .idle) (hrelease : state.worker ≠ .cp2Release)
    (hholds : state.worker.holdsJob = false) : Rested state (state.workerStep platform view).2 := by
  obtain ⟨worker, hworker⟩ : ∃ worker, state.worker = worker := ⟨_, rfl⟩
  unfold State.workerStep
  rw [hworker] at hidle hrelease hholds ⊢
  cases worker with
  | idle => exact absurd rfl hidle
  | cp2Release => exact absurd rfl hrelease
  | cp3Callback start status wire => exact callbackCp3_rest hworker
  | cp3Send start status deliver conn generation wire =>
    exact ⟨rfl, by rw [hworker]; rfl, rfl, by simp [Worker.rank, hworker], .kept rfl⟩
  | cp3Settle start status conn generation sent =>
    exact .of_settled settleCp3_move rfl (by rw [hworker]; rfl) (by simp [Worker.rank, hworker])
  | cp4Callback status wire => exact callbackCp4_rest hworker
  | cp4Check conn generation wire =>
    exact ⟨rfl, by rw [hworker]; rfl, rfl, by simp [Worker.rank, hworker], .kept rfl⟩
  | cp4Send conn generation live wire =>
    dsimp only
    split
    · exact ⟨rfl, by rw [hworker]; rfl, rfl, by simp [Worker.rank, hworker, State.report, State.goto], .kept rfl⟩
    · exact ⟨rfl, by rw [hworker]; rfl, rfl, by simp [Worker.rank, hworker], .kept rfl⟩
  | cp4Settle conn generation sent =>
    exact .of_settled settleCp4_move rfl (by rw [hworker]; rfl) (by simp [Worker.rank, hworker])
  | cp2Callback status wire =>
    exact ⟨rfl, by rw [hworker]; rfl, rfl, by simp [Worker.rank, hworker, State.callbackCp2], .kept rfl⟩
  | cp2Check status deliver conn generation wire =>
    exact ⟨rfl, by rw [hworker]; rfl, rfl, by simp [Worker.rank, hworker, State.checkCp2], .kept rfl⟩
  | cp2Send deliver conn wire =>
    exact ⟨rfl, by rw [hworker]; rfl, rfl, by simp [Worker.rank, hworker], .kept rfl⟩
  | cp2Settle => exact ⟨rfl, by rw [hworker]; rfl, rfl, by simp [Worker.rank, hworker, State.settleCp2], .kept rfl⟩
  | _ => cases hholds

/-- The worker moves on in a callback, or reports a result. -/
theorem advanced_rest (h : Matches platform desk state) (hidle : state.worker ≠ .idle)
    (hrelease : state.worker ≠ .cp2Release) (hholds : state.worker.holdsJob = false) :
    Advanced platform view desk state := by
  have hrest := @rest_step platform state view hidle hrelease hholds
  obtain ⟨hready, hactive, last, hfollows, hlast, hmode⟩ :=
    @RestMove.follows platform _ _ _ _ _ hrest.move h.job hholds hrest.holds
  have hevents : state.jobEvents (state.workerStep platform view).2 = [] := by
    unfold State.jobEvents
    cases hworker : state.worker <;> rw [hworker] at hidle hholds
    case idle => exact absurd rfl hidle
    all_goals first
      | rfl
      | cases hholds
  have hmatched : Matches platform ⟨last, none⟩ (state.slotCall platform (.worker view)) := by
    refine ⟨hready.trans h.ready, hactive.trans (h.active.trans ?_), hrest.owed.symm, hlast⟩
    simp only [State.slotCall, hrest.holds, hholds, hrest.cp2]
  have hlog : state.slotEvents platform (.worker view) =
      (state.worker.owed.toList.map fun result ↦ .reported result.1 result.2) ++
        state.store.resets (state.workerStep platform view).2.store := by
    simp only [State.slotEvents, State.slotCall, hevents, List.append_nil]
  obtain ⟨job, owed⟩ := desk
  obtain rfl : owed = state.worker.owed := h.owed
  refine ⟨?_, ⟨last, none⟩, ?_, hmatched, fun mode hdesk ↦ .inl ⟨hmode.trans hdesk, hrest.rank⟩⟩
  · intro mode result howed
    rw [hlog, show state.worker.owed = some (mode, result) from howed]
    exact List.mem_append_left _ List.mem_cons_self
  · rw [hlog]
    cases state.worker.owed with
    | none => exact hfollows
    | some result => exact (SlotRules.Next.follows .report).append hfollows

/-- The slot is free again once a CP2 result is delivered. -/
theorem advanced_release (h : Matches platform desk state) (hworker : state.worker = .cp2Release) :
    Advanced platform view desk state := by
  have hidle : state.worker.owed = none := by rw [hworker]; rfl
  have hholds : state.worker.holdsJob = false := by rw [hworker]; rfl
  have hstep : (state.workerStep platform view).2 =
      { state with store := { state.store with jobActive := false }, worker := .idle } := by
    simp only [State.workerStep, hworker]
  obtain ⟨job, owed⟩ := desk
  obtain rfl : owed = none := h.owed.trans hidle
  refine ⟨fun _ _ howed ↦ absurd howed.symm (Option.some_ne_none _), ⟨job, none⟩, ?_, ?_, ?_⟩
  · have hresets : state.store.resets { state.store with jobActive := false } = [] :=
      Store.resets_eq_nil rfl rfl
    rw [slotEvents_worker hidle hstep]
    simp only [State.jobEvents, hworker, hresets]
    rfl
  · simp only [State.slotCall, hstep]
    refine ⟨h.ready, rfl, rfl, ?_⟩
    obtain ⟨rfl, hpending⟩ | ⟨mode, input, resets, rfl, hpending, hqueued⟩ := h.job.cases hholds
    · exact ⟨hpending, rfl⟩
    · refine ⟨hpending, rfl, hqueued.pending, hqueued.epoch2, hqueued.epoch3, ?_, ?_⟩
      · have hfresh := hqueued.fresh
        cases mode <;> exact hfresh
      · have hheld := hqueued.held
        cases mode <;> exact hheld
  · intro mode hmode
    simp only [State.slotCall, hstep]
    exact .inl ⟨hmode, by simp [Worker.rank, hworker]⟩

/-- Every step of the worker advances the desk. -/
theorem advanced (h : Matches platform desk state) : Advanced platform view desk state := by
  by_cases hidle : state.worker = .idle
  · exact advanced_idle h hidle
  by_cases hrelease : state.worker = .cp2Release
  · exact advanced_release h hrelease
  by_cases hholds : state.worker.holdsJob = true
  · have howed : state.worker.owed = none := by
      cases hworker : state.worker <;> rw [hworker] at hholds <;> first | rfl | cases hholds
    obtain ⟨job, owed⟩ := desk
    obtain rfl : owed = none := h.owed.trans howed
    have hmatches := h.job
    cases job with
    | free => exact absurd hholds (by rw [hmatches.2]; exact Bool.false_ne_true)
    | queued mode input resets => exact absurd hholds (by rw [hmatches.2.1]; exact Bool.false_ne_true)
    | running mode input early resets => exact advanced_running h
    | done mode resets product =>
      by_cases hdone : ∃ epoch status wire, state.worker = .jobDone mode epoch status wire
      · obtain ⟨epoch, status, wire, hworker⟩ := hdone
        obtain ⟨hpending, hcounted, hcomes⟩ := hmatches
        refine advanced_finish h rfl hpending hworker ?_
        rintro result (rfl | ⟨rfl, hstale⟩)
        · rw [hworker] at hcomes
          exact .finish hcomes.2
        · exact .finish (.inr ⟨hcounted.stale (by rw [hworker]; rfl) hstale, nofun, rfl⟩)
      · push Not at hdone
        exact advanced_done h hdone
    | dropped mode =>
      obtain ⟨hpending, epoch, status, hstatus, hworker⟩ := hmatches
      refine advanced_finish h rfl hpending hworker ?_
      rintro result (rfl | ⟨rfl, -⟩)
      · exact .drop ⟨hstatus, rfl⟩
      · exact .drop ⟨nofun, rfl⟩
  · exact advanced_rest h hidle hrelease (Bool.eq_false_iff.mpr hholds)

/-- The run of a job is the only event of its kind in the log. -/
theorem log_ran {call : SlotCall} (h : .ran mode input product ∈ state.slotEvents platform call) :
    ∃ view, call = .worker view ∧ state.Commits ∧ state.worker.job = some mode ∧
      input = state.store.jobInput mode ∧ product = (state.workerStep platform view).2.product := by
  have hresets : ∀ {store store' : Store}, .ran mode input product ∉ store.resets store' := by
    intro store store' hmem
    obtain ⟨kind, hkind⟩ := Store.mem_resets hmem
    cases hkind
  cases call with
  | worker view =>
    have hevents : .ran mode input product ∈ state.jobEvents (state.workerStep platform view).2 := by
      rcases List.mem_append.mp h with hreported | hlater
      · obtain ⟨result, -, hresult⟩ := List.mem_map.mp hreported
        cases hresult
      · exact (List.mem_append.mp hlater).resolve_left hresets
    cases hjob : state.worker.job with
    | none =>
      unfold State.jobEvents at hevents
      cases hworker : state.worker <;> rw [hworker] at hevents hjob <;> dsimp only at hevents
      case idle => split_ifs at hevents <;> simp at hevents
      case finishedTake => split_ifs at hevents <;> simp at hevents
      case cp4Live => split at hevents <;> simp at hevents
      case jobDone => simp at hevents
      all_goals
        rw [hjob] at hevents
        simp at hevents
    | some own =>
      rw [jobEvents_job hjob] at hevents
      split at hevents
      · rename_i hcommits
        obtain ⟨rfl, rfl, rfl⟩ : mode = own ∧ input = state.store.jobInput own ∧
            product = (state.workerStep platform view).2.product := by
          simpa using hevents
        exact ⟨view, rfl, hcommits, rfl, rfl, rfl⟩
      · simp at hevents
  | _ => exact absurd h hresets

/-- A submission that is accepted changes the store. -/
theorem slotServer_accepted {request : Submission}
    (h : (slotServer platform).submit state request = .ok next) :
    ∃ store, request.submit platform.version state.store = .ok store ∧ { state with store } = next := by
  simp only [slotServer] at h
  cases hrequest : request.submit platform.version state.store with
  | error refusal =>
    rw [hrequest] at h
    cases h
  | ok store =>
    rw [hrequest] at h
    exact ⟨store, rfl, Except.ok.inj h⟩

/-- A submission that is refused ends in the state that it found. -/
theorem slotServer_refused {request : Submission} {error : Errno}
    (h : (slotServer platform).submit state request = .error (error, next)) : next = state := by
  simp only [slotServer] at h
  cases hrequest : request.submit platform.version state.store with
  | error refusal =>
    rw [hrequest] at h
    obtain ⟨rfl, rfl⟩ := Prod.mk.inj (Except.error.inj h)
    rw [request.submit_failsIn refusal.1 refusal.2 hrequest]
  | ok store =>
    rw [hrequest] at h
    cases h

theorem Matches.accepted {store : Store} {request : Submission} (h : Matches platform desk state)
    (hsubmit : request.submit platform.version state.store = .ok store) :
    desk.job = .free ∧
      Matches platform ⟨.queued request.mode request.input 0, desk.owed⟩ { state with store } := by
  obtain ⟨⟨hpending, hactive⟩, hready, hpending', hactive', hqueued⟩ := Submission.submit_eq_ok hsubmit
  have hidle : state.worker.holdsJob = false ∧ state.worker.holdsCp2 = false := by
    have hworker := h.active
    rw [hactive] at hworker
    exact Bool.or_eq_false_iff.mp hworker.symm
  refine ⟨h.job.eq_free hpending hidle.1, hready.trans h.ready, ?_, h.owed, hpending', hidle.1, hqueued⟩
  dsimp only
  rw [hactive', hidle.1, hidle.2]
  rfl

/-- A call that is not a step of the worker only resets. -/
theorem Matches.aside {call : SlotCall} (h : Matches platform desk state)
    (hcall : (slotServer platform).works call = false) :
    ∃ next, (slotServer platform).rules.Follows desk (state.slotEvents platform call) next ∧
      Matches platform next (state.slotCall platform call) := by
  obtain ⟨job, owed⟩ := desk
  cases call with
  | worker view => cases hcall
  | resetV1Cp2 =>
    refine ⟨⟨job.reset JobMode.session .cp2, owed⟩, ?_, h.ready, h.active, h.owed, h.job.resetV1Cp2⟩
    simp only [State.slotEvents, State.slotCall, Store.resets_resetV1Cp2]
    exact SlotRules.Next.follows .reset
  | resetV1Cp3 =>
    refine ⟨⟨job.reset JobMode.session .cp3, owed⟩, ?_, h.ready, h.active, h.owed, h.job.resetV1Cp3⟩
    simp only [State.slotEvents, State.slotCall, Store.resets_resetV1Cp3]
    exact SlotRules.Next.follows .reset
  | elsewhere other =>
    refine ⟨⟨job, owed⟩, ?_, h.ready, h.active, h.owed, h.job⟩
    simp only [State.slotEvents, State.slotCall, Store.resets_eq_nil rfl rfl]
    rfl

/-- Every call is a sequence of events of the slot, and every job that runs computes its program. -/
theorem slotServer_simulation (platform : Platform) :
    (slotServer platform).Simulation State.boot 13 (Matches platform) (fun state ↦ state.worker.rank) where
  start := ⟨rfl, rfl, rfl, rfl, rfl⟩
  rank_lt state := by cases state.worker <;> simp [Worker.rank]
  accept {desk state request next} h hsubmit := by
    obtain ⟨store, hstore, rfl⟩ := slotServer_accepted hsubmit
    exact h.accepted hstore
  refuse hsubmit := slotServer_refused hsubmit
  compute {desk state call mode input product} _ hran := by
    obtain ⟨view, rfl, hcommits, hjob, rfl, rfl⟩ := log_ran hran
    exact run_product hjob hcommits
  other {desk state call} h hcall := by
    refine ⟨fun event hevent ↦ ?_, ?_, h.aside hcall⟩
    · cases call with
      | worker view => cases hcall
      | _ => exact Store.mem_resets hevent
    · cases call with
      | worker view => cases hcall
      | _ => exact le_rfl
  work {desk state call} h hcall := by
    cases call with
    | worker view =>
      have hadvanced := @advanced platform state view desk h
      exact ⟨hadvanced.reported, hadvanced.last⟩
    | _ => cases hcall

end Steps

/-! ## The runs of the firmware -/

section Firmware

variable {platform : Platform} {state next : State} {conn : Conn} {view : ControlView} {store : Store}

/-- Some calls lead from one state to another. -/
def Called (platform : Platform) (state next : State) : Prop := (slotServer platform).Reaches state next

theorem Called.trans {mid : State} (h : Called platform state mid) (hnext : Called platform mid next) :
    Called platform state next := Server.Reaches.trans h hnext

/-- A step that leaves the store and the worker alone. -/
theorem Called.aside (hstore : next.store = state.store) (hworker : next.worker = state.worker) :
    Called platform state next := by
  refine ⟨[.inr (.elsewhere next)], ?_⟩
  change { next with store := state.store, worker := state.worker } = next
  rw [← hstore, ← hworker]

theorem Called.submitted {request : Submission}
    (hsubmit : request.submit platform.version state.store = .ok store) (hstore : next.store = store)
    (hworker : next.worker = state.worker) : Called platform state next := by
  have hcall : Called platform state { state with store } := by
    refine ⟨[.inl request], ?_⟩
    simp only [Server.run, Server.step, slotServer, hsubmit]
  exact hcall.trans (.aside hstore hworker)

theorem Called.resetV1Cp3 (hstore : next.store = state.store.resetV1Cp3)
    (hworker : next.worker = state.worker) : Called platform state next :=
  Called.trans ⟨[.inr .resetV1Cp3], rfl⟩ (.aside hstore hworker)

theorem Called.resets (hstore : next.store = state.store.resetV1Cp2.resetV1Cp3)
    (hworker : next.worker = state.worker) : Called platform state next :=
  Called.trans ⟨[.inr .resetV1Cp2, .inr .resetV1Cp3], rfl⟩ (.aside hstore hworker)

theorem handleV1Cp4_called (wire : Bytes) :
    Called platform state (state.handleV1Cp4 platform conn wire view).2 := by
  unfold State.handleV1Cp4
  dsimp only
  split_ifs
  · exact .resetV1Cp3 rfl rfl
  cases hsubmit : state.store.submitV1Cp4 platform.version wire with
  | error refusal =>
    have hkept := submitV1Cp4_failsIn refusal.1 refusal.2 hsubmit
    exact .resetV1Cp3 (congrArg Store.resetV1Cp3 hkept) rfl
  | ok store => exact @Called.submitted _ _ _ _ (.v1Cp4 wire) hsubmit rfl rfl

theorem handleV1Cp3Start_called (frame : Bytes) :
    Called platform state (state.handleV1Cp3Start platform conn frame view).2 := by
  unfold State.handleV1Cp3Start
  cases state.cp3StartSecInfo platform conn view with
  | error error => exact .aside rfl rfl
  | ok sec =>
    dsimp only
    split_ifs
    · exact .aside rfl rfl
    cases hsubmit : state.store.submitV1Cp3 platform.version state.main.transfer.ciphertext sec frame with
    | error refusal =>
      have hkept := submitV1Cp3_failsIn refusal.1 refusal.2 hsubmit
      exact .aside hkept rfl
    | ok store =>
      exact @Called.submitted _ _ _ _ (.v1Cp3 state.main.transfer.ciphertext sec frame) hsubmit rfl rfl

theorem handleV1Cp3FinishedC_called (frame : Bytes) :
    Called platform state (state.handleV1Cp3FinishedC platform conn frame view).2 := by
  unfold State.handleV1Cp3FinishedC
  dsimp only
  split_ifs
  · exact .aside rfl rfl
  · exact .resetV1Cp3 rfl rfl
  · exact .aside rfl rfl
  cases hsubmit : state.store.submitV1Cp3FinishedC platform.version frame with
  | error refusal =>
    have hkept := submitV1Cp3FinishedC_failsIn refusal.1 refusal.2 hsubmit
    exact .resetV1Cp3 (congrArg Store.resetV1Cp3 hkept) rfl
  | ok store => exact @Called.submitted _ _ _ _ (.v1Cp3FinishedC frame) hsubmit rfl rfl

theorem handleV1Cp2Start_called (sid : Bytes) :
    Called platform state (state.handleV1Cp2Start conn sid view).2 := by
  unfold State.handleV1Cp2Start
  split_ifs
  · exact .aside rfl rfl
  cases state.cp2StartReady conn view with
  | error error => exact .aside rfl rfl
  | ok _ =>
    dsimp only
    cases hsubmit : state.store.submitV1Cp2 state.main.transfer.ciphertext sid with
    | error refusal =>
      have hkept := submitV1Cp2_failsIn refusal.1 refusal.2 hsubmit
      exact .aside hkept rfl
    | ok store => exact @Called.submitted _ _ _ _ (.v1Cp2 state.main.transfer.ciphertext sid) hsubmit rfl rfl

theorem writeControl_called (data : Bytes) (offset : ℕ) :
    Called platform state (state.writeControl platform conn data offset view).2 := by
  have hrefuse : Called platform state state.refuseControl := by
    unfold State.refuseControl
    split_ifs
    · exact .resetV1Cp3 rfl rfl
    · exact .aside rfl rfl
  unfold State.writeControl
  dsimp only
  split_ifs
  · exact hrefuse
  · exact hrefuse
  · unfold State.handleService
    split_ifs <;> exact .aside rfl rfl
  · unfold State.serviceAbort answered
    dsimp only
    split_ifs <;> exact .aside rfl rfl
  · exact .aside rfl rfl
  · unfold State.handleV1Control
    split_ifs
    · exact handleV1Cp4_called data
    split
    · exact .aside rfl rfl
    split_ifs
    · split <;> exact .aside rfl rfl
    · exact handleV1Cp3Start_called data
    · exact handleV1Cp3FinishedC_called data
    · exact handleV1Cp2Start_called _
    · exact .aside rfl rfl
  · exact .aside rfl rfl

theorem writeCiphertext_called (data : Bytes) (offset : ℕ) (busy : Bool) (seen : LinkView) :
    Called platform state (state.writeCiphertext platform conn data offset busy seen).2 := by
  unfold State.writeCiphertext
  split_ifs
  · exact .aside rfl rfl
  · exact .aside rfl rfl
  split
  · exact .aside rfl rfl
  · dsimp only
    split_ifs <;> exact .aside rfl rfl

theorem cccConfigChanged_called (enabled : Bool) (now : ℤ) :
    Called platform state (state.cccConfigChanged platform enabled now) := by
  unfold State.cccConfigChanged State.serviceAbort
  dsimp only
  split_ifs
  · exact .aside rfl rfl
  · exact .resets rfl rfl
  · exact .resets rfl rfl

/-- Every step of the firmware is a sequence of calls. -/
theorem step_called (platform : Platform) (state : State) (action : Action) :
    Called platform state ((firmware platform).step state action).2 := by
  cases action with
  | readPublicKey conn busy view => exact .aside rfl rfl
  | writeCiphertext conn data offset busy view => exact writeCiphertext_called data offset busy view
  | writeSecureData conn data offset view => exact .aside rfl rfl
  | writeControl conn data offset view => exact writeControl_called data offset
  | readCcc conn view => exact .aside rfl rfl
  | writeCcc conn enabled view =>
    simp only [firmware, answered, State.writeCcc]
    split
    · exact .aside rfl rfl
    · exact cccConfigChanged_called enabled view.uptime
  | cccConfigChanged enabled now => exact cccConfigChanged_called enabled now
  | serviceAbort conn now =>
    simp only [firmware, State.serviceAbort]
    split_ifs <;> exact .aside rfl rfl
  | securityChanged conn secured =>
    simp only [firmware, State.v1Cp2SecurityChanged]
    split_ifs
    · exact .aside rfl rfl
    · exact .resets rfl rfl
    · exact .resets rfl rfl
  | bondChanged now =>
    simp only [firmware, State.onService]
    split_ifs <;> exact .aside rfl rfl
  | expire clock₁ clock₂ clock₃ =>
    simp only [firmware, State.onService]
    split_ifs <;> exact .aside rfl rfl
  | timeout view =>
    simp only [firmware, State.v1Cp3Timeout]
    split_ifs
    · exact .resetV1Cp3 rfl rfl
    · exact .aside rfl rfl
  | connected conn bonded clock now => exact .resets rfl rfl
  | disconnected conn now =>
    simp only [firmware, State.disconnected]
    split_ifs
    · exact .resets rfl rfl
    · exact .resets rfl rfl
    · exact .aside rfl rfl
    · exact .aside rfl rfl
  | worker view => exact ⟨[.inr (.worker view)], rfl⟩

/-- Every run of the firmware is a run of the server, so its slot is sound. -/
theorem run_called (platform : Platform) (actions : List Action) :
    Called platform .boot ((firmware platform).run .boot actions) :=
  (firmware platform).run_invariant (fun state action hstate ↦ hstate.trans (step_called platform state action))
    ⟨[], rfl⟩ actions

end Firmware

end PqBleHandshake.FirmwareV1
