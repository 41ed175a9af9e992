import PqBleHandshake.Legacy.Jobs

/-!
# The single slot of the worker in v0.7 and v0.8

The functions of `mlkem_session.c` that any thread may call, in any order, against the steps of the worker:
the ten submissions, both resets and the installation of a resumed session.  `elsewhere` changes whatever
lies outside the store and the worker.  Every call is one event sequence of the slot.
-/

namespace PqBleHandshake.Legacy

open Foundation

/-- A call of a submit function. -/
inductive Submission
  | diagnostic (ct : Bytes)
  | secure (ct : Bytes) (sid : Block 16)
  | phase5 (ct : Bytes) (sid : Block 16)
  | phase7Cp2 (ct : Bytes) (sid : Block 16) (centralKey : Bytes)
  | phase5FinishedC (finishedC : Block 32)
  | phase5Data
  | phase6C2p (wire : Bytes)
  | phase7Auth (ct : Bytes) (sid : Block 16) (centralKey : Bytes)
  | phase7FinishedC (finishedC : Block 32)
  | phase7C2p (wire : Bytes)

namespace Submission

/-- The mode of the job that it submits. -/
def mode : Submission → JobMode
  | diagnostic _ => .phase2Diagnostic
  | secure _ _ => .phase3Secure
  | phase5 _ _ => .phase5Start
  | phase7Cp2 _ _ _ => .phase7HybridCp2
  | phase5FinishedC _ => .phase5FinishedC
  | phase5Data => .phase5Data
  | phase6C2p _ => .phase6C2p
  | phase7Auth _ _ _ => .phase7AuthStart
  | phase7FinishedC _ => .phase7AuthFinishedC
  | phase7C2p _ => .phase7AppC2p

/-- The bytes that it passes. -/
def input : Submission → JobInput
  | diagnostic ct => .ciphertext ct
  | secure ct sid | phase5 ct sid => .session ct sid
  | phase7Cp2 ct sid centralKey | phase7Auth ct sid centralKey => .hybrid ct sid centralKey
  | phase5FinishedC finishedC | phase7FinishedC finishedC => .finished finishedC
  | phase5Data => .command
  | phase6C2p wire | phase7C2p wire => .wire wire

/-- The submit function. -/
def submit (store : Store) : Submission → Except (Errno × Store) Store
  | diagnostic ct => store.submitJob .phase2Diagnostic ct (.zero 16) []
  | secure ct sid => store.submitJob .phase3Secure ct sid []
  | phase5 ct sid => store.submitJob .phase5Start ct sid []
  | phase7Cp2 ct sid centralKey => store.submitJob .phase7HybridCp2 ct sid centralKey
  | phase5FinishedC finishedC => store.submitPhase5Command .phase5FinishedC finishedC
  | phase5Data => store.submitPhase5Command .phase5Data (.zero 32)
  | phase6C2p wire => store.submitPhase6C2p wire
  | phase7Auth ct sid centralKey => store.submitPhase7Auth ct sid centralKey
  | phase7FinishedC finishedC => store.submitPhase7FinishedC finishedC
  | phase7C2p wire => store.submitPhase7C2p wire

end Submission

/-- The other calls: both resets, the installation of a resumed session, a step of the worker, and a change
of everything but the store, the worker and the checksum of its job. -/
inductive SlotCall
  | resetPhase5
  | resetPhase7
  | installPhase8Application (keys : Phase7TrafficKeys) (sid : Block 16)
  | elsewhere (other : State)
  | worker (view : WorkerView)

namespace State

/-- The effect of a call. -/
def slotCall (platform : Platform) (state : State) : SlotCall → State
  | .resetPhase5 => { state with store := state.store.resetPhase5 }
  | .resetPhase7 => { state with store := state.store.resetPhase7 }
  | .installPhase8Application keys sid =>
    match state.store.installPhase8Application keys sid with
    | .ok store => { state with store }
    | .error _ => state
  | .elsewhere other => { other with store := state.store, worker := state.worker, crc := state.crc }
  | .worker view => (state.workerStep platform view).getD state

/-- The result that the worker still has to report. -/
def owed (state : State) : Option (JobMode × JobResult) :=
  match state.worker with
  | .callback mode status wire => some (mode, ⟨status, state.crc, wire⟩)
  | _ => none

/-- What a step of the worker does with its job. -/
def jobEvents (state next : State) : List (SlotEvent SessionKind JobMode JobInput JobProduct JobResult) :=
  let store := state.store
  match state.worker with
  | .idle =>
    if store.jobPending = false then []
    else if jobValid store then [.taken store.pendingJobMode]
    else [.discarded store.pendingJobMode]
  | .jobDone mode _ _ _ =>
    match next.owed with
    | some (_, result) => [.finished mode result]
    | none => []
  | .callback mode status wire => [.reported mode ⟨status, state.crc, wire⟩]
  | worker =>
    match worker.job with
    | some mode => if state.Commits then [.ran mode state.jobInput next.product] else [.discarded mode]
    | none => []

end State

/-- The resets between two states of the store. -/
def Store.resets (store next : Store) : List (SlotEvent SessionKind JobMode JobInput JobProduct JobResult) :=
  List.replicate (next.phase5Epoch - store.phase5Epoch) (.reset .phase5) ++
    List.replicate (next.phase7Epoch - store.phase7Epoch) (.reset .phase7)

/-- The events of a call. -/
def State.slotEvents (platform : Platform) (state : State) (call : SlotCall) :
    List (SlotEvent SessionKind JobMode JobInput JobProduct JobResult) :=
  let next := state.slotCall platform call
  match call with
  | .worker _ => state.jobEvents next ++ state.store.resets next.store
  | _ => state.store.resets next.store

/-- The session store with its worker, as a server. -/
def slotServer (platform : Platform) :
    Server Errno SessionKind JobMode JobInput JobProduct JobResult State State Submission SlotCall where
  rules := ⟨JobMode.session, fun product result ↦ product.result = result, JobResult.Failed, 2 ^ 32⟩
  submit state request := match request.submit state.store with
    | .ok store => .ok { state with store }
    | .error (error, store) => .error (error, { state with store })
  mode := Submission.mode
  input := Submission.input
  act state call := state.slotCall platform call
  log state call := state.slotEvents platform call
  works call := match call with
    | .worker _ => true
    | _ => false
  reads := State.reads
  program state call := match call with
    | .worker view => program platform state view
    | _ => fun _ _ ↦ state.product

/-! ## What the desk says about the state -/

/-- The frame buffer of a queued job is cleared together with the flag that the job needs. -/
def Store.Spoiled (store : Store) : JobMode → Prop
  | .phase7AuthFinishedC => store.phase7WaitFinished = false
  | .phase7AppC2p => store.phase7Authenticated = false
  | .phase6C2p => store.phase6Active = false ∧ store.phase5ApplicationReady = false
  | _ => False

/-- The job that waits in the slot, with the resets since it was accepted. -/
structure QueuedJob (mode : JobMode) (input : JobInput) (resets : ℕ) (store : Store) : Prop where
  pending : store.pendingJobMode = mode
  epoch5 : mode.session = some .phase5 → store.phase5Epoch = store.pendingPhase5Epoch + resets
  epoch7 : mode.session = some .phase7 → store.phase7Epoch = store.pendingPhase7Epoch + resets
  timeless : mode.session = none → resets = 0
  fresh : resets = 0 → State.jobValid store
  held : store.jobInput mode = input ∨ store.Spoiled mode

/-- The resets of its session since the worker's job was submitted. -/
def Counted (mode : JobMode) (resets : ℕ) (state : State) : Prop :=
  ∀ epoch, state.worker.epoch = some epoch →
    (mode.session = some .phase5 → state.store.phase5Epoch = epoch + resets) ∧
      (mode.session = some .phase7 → state.store.phase7Epoch = epoch + resets)

/-- The job that the worker has taken, with the bytes that it was accepted with; only START5 is not checked
against its epoch then. -/
structure RunningJob (mode : JobMode) (input : JobInput) (early resets : ℕ) (state : State) : Prop where
  job : state.worker.job = some mode
  input : state.jobInput = input
  early_le : early ≤ resets
  checked : mode ≠ .phase5Start → early % 2 ^ 32 = 0
  counted : Counted mode resets state
  fresh : resets = 0 → state.Commits
  crc : state.crc = 0

/-- The job that has run, with what it made. -/
structure DoneJob (mode : JobMode) (resets : ℕ) (product : JobProduct) (state : State) : Prop where
  worker : ∃ epoch, state.worker = .jobDone mode epoch product.result.status product.result.wire
  result : state.crc = product.result.crc
  counted : mode ≠ .phase5FinishedC → Counted mode resets state
  crc : mode ≠ .phase2Diagnostic → state.crc = 0

/-- The job that was given up. -/
structure DroppedJob (mode : JobMode) (state : State) : Prop where
  worker : ∃ epoch status, status ≠ .success ∧ state.worker = .jobDone mode epoch status []
  crc : state.crc = 0

/-- The slot as the store and the worker show it. -/
def SlotMatches (state : State) : SlotJob JobMode JobInput JobProduct → Prop
  | .free => state.store.jobPending = false ∧ state.store.jobActive = false ∧ state.worker.inJob = false
  | .queued mode input resets =>
    state.store.jobPending = true ∧ state.store.jobActive = false ∧ state.worker.inJob = false ∧
      QueuedJob mode input resets state.store
  | .running mode input early resets =>
    state.store.jobPending = false ∧ state.store.jobActive = true ∧ RunningJob mode input early resets state
  | .done mode resets product =>
    state.store.jobPending = false ∧ state.store.jobActive = true ∧ DoneJob mode resets product state
  | .dropped mode =>
    state.store.jobPending = false ∧ state.store.jobActive = true ∧ DroppedJob mode state

/-- The desk matches the state. -/
structure Matches (desk : Desk JobMode JobInput JobProduct JobResult) (state : State) : Prop where
  ready : state.store.keypairReady = true
  owed : desk.owed = state.owed
  job : SlotMatches state desk.job

/-- The steps of the worker up to the end of its job, at most. -/
def Worker.rank : Worker → ℕ
  | .jobDone _ _ _ _ => 1
  | .decapsulate _ _ | .finished7 _ _ _ _ | .app7 _ _ | .finished5 _ _ _ _ | .data5 _ _ _ | .app6 _ _ => 2
  | .idle => 3
  | .reset7 | .reset5 | .ready7 _ | .promoted7 _ => 4
  | .failed7 _ | .failed5 _ => 5
  | .commit7 _ => 6
  | .deliver _ _ _ _ _ => 7
  | .callback _ _ _ => 8

/-! ## Submissions and resets -/

section Calls

variable {platform : Platform} {store store' : Store} {state next : State} {mode : JobMode} {input : JobInput}
  {early resets : ℕ} {product : JobProduct} {job : SlotJob JobMode JobInput JobProduct}

/-- A refused submission ends in the store that it found. -/
theorem Submission.submit_failsIn (request : Submission) : FailsIn store (request.submit store) := by
  cases request with
  | diagnostic ct => exact submitJob_failsIn
  | secure ct sid => exact submitJob_failsIn
  | phase5 ct sid => exact submitJob_failsIn
  | phase7Cp2 ct sid centralKey => exact submitJob_failsIn
  | phase5FinishedC finishedC => exact submitPhase5Command_failsIn
  | phase5Data => exact submitPhase5Command_failsIn
  | phase6C2p wire => exact submitPhase6C2p_failsIn
  | phase7Auth ct sid centralKey => exact submitPhase7Auth_failsIn
  | phase7FinishedC finishedC => exact submitPhase7FinishedC_failsIn
  | phase7C2p wire => exact submitPhase7C2p_failsIn

/-- An accepted submission found the slot free, and its job waits with the bytes that it passed. -/
theorem Submission.submit_eq_ok {request : Submission} (h : request.submit store = .ok store') :
    (store.jobPending = false ∧ store.jobActive = false) ∧
      store'.keypairReady = store.keypairReady ∧ store'.jobPending = true ∧ store'.jobActive = false ∧
      QueuedJob request.mode request.input 0 store' := by
  cases request with
  | diagnostic ct =>
    obtain ⟨⟨-, hpending, hactive⟩, rfl⟩ := submitJob_eq_ok h
    exact ⟨⟨hpending, hactive⟩, rfl, rfl, hactive, rfl, nofun, nofun, fun _ ↦ rfl, fun _ ↦ trivial, .inl rfl⟩
  | secure ct sid =>
    obtain ⟨⟨-, hpending, hactive⟩, rfl⟩ := submitJob_eq_ok h
    exact ⟨⟨hpending, hactive⟩, rfl, rfl, hactive, rfl, nofun, nofun, fun _ ↦ rfl, fun _ ↦ trivial, .inl rfl⟩
  | phase5 ct sid =>
    obtain ⟨⟨-, hpending, hactive⟩, rfl⟩ := submitJob_eq_ok h
    exact ⟨⟨hpending, hactive⟩, rfl, rfl, hactive, rfl, fun _ ↦ rfl, nofun, nofun, fun _ ↦ trivial, .inl rfl⟩
  | phase7Cp2 ct sid centralKey =>
    obtain ⟨⟨-, hpending, hactive⟩, rfl⟩ := submitJob_eq_ok h
    exact ⟨⟨hpending, hactive⟩, rfl, rfl, hactive, rfl, fun _ ↦ rfl, nofun, nofun, fun _ ↦ SameU32.refl _,
      .inl rfl⟩
  | phase5FinishedC finishedC =>
    obtain ⟨⟨-, hpending, hactive, hwait⟩, rfl⟩ := submitPhase5Command_eq_ok h
    exact ⟨⟨hpending, hactive⟩, rfl, rfl, hactive, rfl, fun _ ↦ rfl, nofun, nofun,
      fun _ ↦ ⟨SameU32.refl _, hwait⟩, .inl rfl⟩
  | phase5Data =>
    obtain ⟨⟨-, hpending, hactive, hready⟩, rfl⟩ := submitPhase5Command_eq_ok h
    exact ⟨⟨hpending, hactive⟩, rfl, rfl, hactive, rfl, fun _ ↦ rfl, nofun, nofun,
      fun _ ↦ ⟨SameU32.refl _, hready⟩, .inl rfl⟩
  | phase6C2p wire =>
    obtain ⟨⟨-, hpending, hactive, hready, hsize⟩, rfl⟩ := submitPhase6C2p_eq_ok h
    exact ⟨⟨hpending, hactive⟩, rfl, rfl, hactive, rfl, fun _ ↦ rfl, nofun, nofun,
      fun _ ↦ ⟨SameU32.refl _, hsize, hready.symm⟩, .inl rfl⟩
  | phase7Auth ct sid centralKey =>
    obtain ⟨⟨-, -, -, hpending, hactive⟩, rfl⟩ := submitPhase7Auth_eq_ok_iff.mp h
    exact ⟨⟨hpending, hactive⟩, rfl, rfl, hactive, rfl, nofun, fun _ ↦ rfl, nofun, fun _ ↦ SameU32.refl _,
      .inl rfl⟩
  | phase7FinishedC finishedC =>
    obtain ⟨⟨-, hwait, hpending, hactive⟩, rfl⟩ := submitPhase7FinishedC_eq_ok_iff.mp h
    exact ⟨⟨hpending, hactive⟩, rfl, rfl, hactive, rfl, nofun, fun _ ↦ rfl, nofun,
      fun _ ↦ ⟨SameU32.refl _, hwait⟩, .inl rfl⟩
  | phase7C2p wire =>
    obtain ⟨⟨hmin, hmax, -, hauth, -, hpending, hactive⟩, rfl⟩ := submitPhase7C2p_eq_ok_iff.mp h
    exact ⟨⟨hpending, hactive⟩, rfl, rfl, hactive, rfl, nofun, fun _ ↦ rfl, nofun,
      fun _ ↦ ⟨SameU32.refl _, hauth, hmin, hmax⟩, .inl rfl⟩

/-- A reset of Phases 5 and 6 counts for the jobs of these phases, and clears the frame of Phase 6. -/
theorem QueuedJob.resetPhase5 (h : QueuedJob mode input resets store) :
    QueuedJob mode input (if mode.session = some .phase5 then resets + 1 else resets)
      store.resetPhase5 := by
  by_cases hsession : mode.session = some .phase5
  · rw [if_pos hsession]
    refine ⟨h.pending, fun _ ↦ ?_, fun h7 ↦ ?_, fun hnone ↦ ?_, nofun, ?_⟩
    · exact congrArg (· + 1) (h.epoch5 hsession)
    · rw [hsession] at h7
      cases h7
    · rw [hsession] at hnone
      cases hnone
    · cases mode
      case phase6C2p => exact .inr ⟨rfl, rfl⟩
      all_goals exact h.held
  · rw [if_neg hsession]
    refine ⟨h.pending, fun h5 ↦ absurd h5 hsession, h.epoch7, h.timeless, fun hzero ↦ ?_, ?_⟩
    · have hvalid := h.fresh hzero
      have hpending := h.pending
      have hpending' : store.resetPhase5.pendingJobMode = mode := hpending
      unfold State.jobValid at hvalid ⊢
      rw [hpending] at hvalid
      rw [hpending']
      cases mode <;> first | exact hvalid | exact absurd rfl hsession
    · cases mode <;> first | exact h.held | exact absurd rfl hsession

/-- A reset of Phase 7 counts for the jobs of Phase 7, and clears FINISHED_C and the frame. -/
theorem QueuedJob.resetPhase7 (h : QueuedJob mode input resets store) :
    QueuedJob mode input (if mode.session = some .phase7 then resets + 1 else resets)
      store.resetPhase7 := by
  by_cases hsession : mode.session = some .phase7
  · rw [if_pos hsession]
    refine ⟨h.pending, fun h5 ↦ ?_, fun _ ↦ ?_, fun hnone ↦ ?_, nofun, ?_⟩
    · rw [hsession] at h5
      cases h5
    · exact congrArg (· + 1) (h.epoch7 hsession)
    · rw [hsession] at hnone
      cases hnone
    · cases mode
      case phase7AuthFinishedC | phase7AppC2p => exact .inr rfl
      all_goals exact h.held
  · rw [if_neg hsession]
    refine ⟨h.pending, h.epoch5, fun h7 ↦ absurd h7 hsession, h.timeless, fun hzero ↦ ?_, ?_⟩
    · have hvalid := h.fresh hzero
      have hpending := h.pending
      have hpending' : store.resetPhase7.pendingJobMode = mode := hpending
      unfold State.jobValid at hvalid ⊢
      rw [hpending] at hvalid
      rw [hpending']
      cases mode <;> first | exact hvalid | exact absurd rfl hsession
    · cases mode <;> first | exact h.held | exact absurd rfl hsession

/-- A reset of another session leaves a job of this one where it was. -/
theorem Counted.resetPhase5 (h : Counted mode resets state) :
    Counted mode (if mode.session = some .phase5 then resets + 1 else resets)
      { state with store := state.store.resetPhase5 } := by
  intro epoch hepoch
  obtain ⟨h5, h7⟩ := h epoch hepoch
  by_cases hsession : mode.session = some .phase5
  · rw [if_pos hsession]
    refine ⟨fun _ ↦ congrArg (· + 1) (h5 hsession), fun hother ↦ ?_⟩
    rw [hsession] at hother
    cases hother
  · rw [if_neg hsession]
    exact ⟨fun hother ↦ absurd hother hsession, h7⟩

theorem Counted.resetPhase7 (h : Counted mode resets state) :
    Counted mode (if mode.session = some .phase7 then resets + 1 else resets)
      { state with store := state.store.resetPhase7 } := by
  intro epoch hepoch
  obtain ⟨h5, h7⟩ := h epoch hepoch
  by_cases hsession : mode.session = some .phase7
  · rw [if_pos hsession]
    refine ⟨fun hother ↦ ?_, fun _ ↦ congrArg (· + 1) (h7 hsession)⟩
    rw [hsession] at hother
    cases hother
  · rw [if_neg hsession]
    exact ⟨h5, fun hother ↦ absurd hother hsession⟩

/-- The worker holds the bytes of a running job, or they are in a buffer that no reset touches. -/
theorem RunningJob.jobInput_resetPhase5 (h : RunningJob mode input early resets state) :
    State.jobInput { state with store := state.store.resetPhase5 } = input := by
  rw [← h.input]
  have hjob := h.job
  unfold State.jobInput
  dsimp only
  cases hworker : state.worker <;> try rfl
  rename_i own epoch
  rw [hworker] at hjob
  obtain ⟨hmode, -⟩ : own.decapsulates = true ∧ own = mode := by simpa [Worker.job] using hjob
  cases own <;> first | rfl | cases hmode

theorem RunningJob.jobInput_resetPhase7 (h : RunningJob mode input early resets state) :
    State.jobInput { state with store := state.store.resetPhase7 } = input := by
  rw [← h.input]
  have hjob := h.job
  unfold State.jobInput
  dsimp only
  cases hworker : state.worker <;> try rfl
  rename_i own epoch
  rw [hworker] at hjob
  obtain ⟨hmode, -⟩ : own.decapsulates = true ∧ own = mode := by simpa [Worker.job] using hjob
  cases own <;> first | rfl | cases hmode

/-- A job of one session commits whether or not the other one was reset. -/
theorem commits_resetPhase5 (hjob : state.worker.job = some mode) (hsession : mode.session ≠ some .phase5)
    (h : state.Commits) : State.Commits { state with store := state.store.resetPhase5 } := by
  unfold State.Commits at h ⊢
  cases hworker : state.worker <;> rw [hworker] at hjob h <;> dsimp only at h ⊢
  case decapsulate own epoch =>
    obtain ⟨-, rfl⟩ : own.decapsulates = true ∧ own = mode := by simpa [Worker.job] using hjob
    cases own <;> first | exact h | exact absurd rfl hsession
  case finished5 | app6 =>
    cases hjob
    exact absurd rfl hsession
  all_goals exact h

theorem commits_resetPhase7 (hjob : state.worker.job = some mode) (hsession : mode.session ≠ some .phase7)
    (h : state.Commits) : State.Commits { state with store := state.store.resetPhase7 } := by
  unfold State.Commits at h ⊢
  cases hworker : state.worker <;> rw [hworker] at hjob h <;> dsimp only at h ⊢
  case decapsulate own epoch =>
    obtain ⟨-, rfl⟩ : own.decapsulates = true ∧ own = mode := by simpa [Worker.job] using hjob
    cases own <;> first | exact h | exact absurd rfl hsession
  case finished7 | app7 =>
    cases hjob
    exact absurd rfl hsession
  all_goals exact h

/-- A job that runs keeps its input through a reset. -/
theorem RunningJob.resetPhase5 (h : RunningJob mode input early resets state) :
    RunningJob mode input early (if mode.session = some .phase5 then resets + 1 else resets)
      { state with store := state.store.resetPhase5 } := by
  refine ⟨h.job, h.jobInput_resetPhase5, ?_, h.checked, h.counted.resetPhase5, ?_, h.crc⟩
  · have hle := h.early_le
    split_ifs <;> omega
  · by_cases hsession : mode.session = some .phase5
    · rw [if_pos hsession]
      exact nofun
    · rw [if_neg hsession]
      exact fun hzero ↦ commits_resetPhase5 h.job hsession (h.fresh hzero)

theorem RunningJob.resetPhase7 (h : RunningJob mode input early resets state) :
    RunningJob mode input early (if mode.session = some .phase7 then resets + 1 else resets)
      { state with store := state.store.resetPhase7 } := by
  refine ⟨h.job, h.jobInput_resetPhase7, ?_, h.checked, h.counted.resetPhase7, ?_, h.crc⟩
  · have hle := h.early_le
    split_ifs <;> omega
  · by_cases hsession : mode.session = some .phase7
    · rw [if_pos hsession]
      exact nofun
    · rw [if_neg hsession]
      exact fun hzero ↦ commits_resetPhase7 h.job hsession (h.fresh hzero)

theorem SlotMatches.resetPhase5 (h : SlotMatches state job) :
    SlotMatches { state with store := state.store.resetPhase5 } (job.reset JobMode.session .phase5) := by
  cases job with
  | free => exact h
  | queued mode input resets =>
    obtain ⟨hpending, hactive, hworker, hjob⟩ := h
    exact ⟨hpending, hactive, hworker, hjob.resetPhase5⟩
  | running mode input early resets =>
    obtain ⟨hpending, hactive, hjob⟩ := h
    exact ⟨hpending, hactive, hjob.resetPhase5⟩
  | done mode resets product =>
    obtain ⟨hpending, hactive, hworker, hresult, hcounted, hcrc⟩ := h
    exact ⟨hpending, hactive, hworker, hresult, fun hmode ↦ (hcounted hmode).resetPhase5, hcrc⟩
  | dropped mode =>
    obtain ⟨hpending, hactive, hworker, hcrc⟩ := h
    exact ⟨hpending, hactive, hworker, hcrc⟩

theorem SlotMatches.resetPhase7 (h : SlotMatches state job) :
    SlotMatches { state with store := state.store.resetPhase7 } (job.reset JobMode.session .phase7) := by
  cases job with
  | free => exact h
  | queued mode input resets =>
    obtain ⟨hpending, hactive, hworker, hjob⟩ := h
    exact ⟨hpending, hactive, hworker, hjob.resetPhase7⟩
  | running mode input early resets =>
    obtain ⟨hpending, hactive, hjob⟩ := h
    exact ⟨hpending, hactive, hjob.resetPhase7⟩
  | done mode resets product =>
    obtain ⟨hpending, hactive, hworker, hresult, hcounted, hcrc⟩ := h
    exact ⟨hpending, hactive, hworker, hresult, fun hmode ↦ (hcounted hmode).resetPhase7, hcrc⟩
  | dropped mode =>
    obtain ⟨hpending, hactive, hworker, hcrc⟩ := h
    exact ⟨hpending, hactive, hworker, hcrc⟩

/-- What lies outside the store, the worker and the checksum of its job does not show in the slot. -/
theorem SlotMatches.elsewhere (h : SlotMatches state job) (other : State) :
    SlotMatches { other with store := state.store, worker := state.worker, crc := state.crc } job := by
  cases job with
  | free => exact h
  | queued mode input resets => exact h
  | running mode input early resets =>
    obtain ⟨hpending, hactive, hjob, hinput, hle, hchecked, hcounted, hfresh, hcrc⟩ := h
    exact ⟨hpending, hactive, hjob, hinput, hle, hchecked, hcounted, hfresh, hcrc⟩
  | done mode resets product =>
    obtain ⟨hpending, hactive, hworker, hresult, hcounted, hcrc⟩ := h
    exact ⟨hpending, hactive, hworker, hresult, hcounted, hcrc⟩
  | dropped mode =>
    obtain ⟨hpending, hactive, hworker, hcrc⟩ := h
    exact ⟨hpending, hactive, hworker, hcrc⟩

/-- A worker that is about to run a job holds the slot. -/
theorem inJob_of_job (h : state.worker.job = some mode) : state.worker.inJob = true := by
  revert h
  cases state.worker <;> first | exact fun _ ↦ rfl | exact nofun

/-- Nothing but a free slot or a queued job matches a worker between two jobs. -/
theorem SlotMatches.cases (h : SlotMatches state job) (hworker : state.worker.inJob = false) :
    job = .free ∨ ∃ mode input resets, job = .queued mode input resets := by
  cases job with
  | free => exact .inl rfl
  | queued mode input resets => exact .inr ⟨mode, input, resets, rfl⟩
  | running mode input early resets =>
    exact Bool.noConfusion ((inJob_of_job h.2.2.job).symm.trans hworker)
  | done mode resets product =>
    obtain ⟨-, -, ⟨epoch, hdone⟩, -⟩ := h
    rw [hdone] at hworker
    cases hworker
  | dropped mode =>
    obtain ⟨-, -, ⟨epoch, status, -, hdone⟩, -⟩ := h
    rw [hdone] at hworker
    cases hworker

/-- A worker between two jobs does not change the slot by moving on. -/
theorem SlotMatches.moved (h : SlotMatches state job) (hstore : next.store = state.store)
    (hworker : state.worker.inJob = false) (hnext : next.worker.inJob = false) : SlotMatches next job := by
  obtain rfl | ⟨mode, input, resets, rfl⟩ := h.cases hworker
  · unfold SlotMatches
    rw [hstore]
    exact ⟨h.1, h.2.1, hnext⟩
  · unfold SlotMatches
    rw [hstore]
    exact ⟨h.1, h.2.1, hnext, h.2.2.2⟩

/-- A job in the slot shows in its flags. -/
theorem SlotMatches.eq_free (h : SlotMatches state job) (hpending : state.store.jobPending = false)
    (hactive : state.store.jobActive = false) : job = .free := by
  cases job with
  | free => rfl
  | queued mode input resets => exact absurd (h.1.symm.trans hpending) Bool.false_ne_true.symm
  | running mode input early resets => exact absurd (h.2.1.symm.trans hactive) Bool.false_ne_true.symm
  | done mode resets product => exact absurd (h.2.1.symm.trans hactive) Bool.false_ne_true.symm
  | dropped mode => exact absurd (h.2.1.symm.trans hactive) Bool.false_ne_true.symm

/-- A worker between two jobs holds none. -/
theorem SlotMatches.active_eq_false (h : SlotMatches state job) (hworker : state.worker.inJob = false) :
    state.store.jobActive = false := by
  obtain rfl | ⟨mode, input, resets, rfl⟩ := h.cases hworker
  · exact h.2.1
  · exact h.2.1

/-! ## The resets between two states -/

theorem Store.mem_resets {event : SlotEvent SessionKind JobMode JobInput JobProduct JobResult}
    (h : event ∈ store.resets store') : ∃ kind, event = .reset kind := by
  rcases List.mem_append.mp h with h | h
  · exact ⟨_, List.eq_of_mem_replicate h⟩
  · exact ⟨_, List.eq_of_mem_replicate h⟩

theorem Store.resets_eq_nil (h5 : store'.phase5Epoch = store.phase5Epoch)
    (h7 : store'.phase7Epoch = store.phase7Epoch) : store.resets store' = [] := by
  simp [Store.resets, h5, h7]

@[simp]
theorem Store.resets_resetPhase5 (store : Store) : store.resets store.resetPhase5 = [.reset .phase5] := by
  simp [Store.resets, Store.resetPhase5, Store.clearPhase5, Store.clearPhase6]

@[simp]
theorem Store.resets_resetPhase7 (store : Store) : store.resets store.resetPhase7 = [.reset .phase7] := by
  simp [Store.resets, Store.resetPhase7, Store.clearPhase7]

end Calls

/-! ## The steps of the worker -/

section Steps

variable {platform : Platform} {state next : State} {view : WorkerView} {desk : Desk JobMode JobInput JobProduct JobResult}
  {store store' : Store} {mode : JobMode} {input : JobInput} {early resets epoch : ℕ} {product : JobProduct}
  {job : SlotJob JobMode JobInput JobProduct} {owed : Option (JobMode × JobResult)}

/-- The worker takes a job only in the epoch of its submission, except for START5. -/
theorem QueuedJob.mod_eq_zero (h : QueuedJob mode input resets store) (hvalid : State.jobValid store)
    (hmode : mode ≠ .phase5Start) : resets % 2 ^ 32 = 0 := by
  have hadd : ∀ {pending current : ℕ}, SameU32 pending current → current = pending + resets →
      resets % 2 ^ 32 = 0 := by
    intro pending current hsame hcurrent
    unfold SameU32 at hsame
    omega
  unfold State.jobValid at hvalid
  rw [h.pending] at hvalid
  cases mode
  case phase2Diagnostic | phase3Secure =>
    rw [h.timeless rfl]
    rfl
  case phase5Start => exact absurd rfl hmode
  case phase5FinishedC | phase5Data | phase6C2p => exact hadd hvalid.1 (h.epoch5 rfl)
  case phase7HybridCp2 => exact hadd hvalid (h.epoch5 rfl)
  case phase7AuthStart => exact hadd hvalid (h.epoch7 rfl)
  case phase7AuthFinishedC | phase7AppC2p => exact hadd hvalid.1 (h.epoch7 rfl)

/-- The worker has taken a job: it runs on the bytes in the job buffers. -/
def Taken (store next : Store) : Prop :=
  next.jobPending = false ∧ next.jobActive = true ∧ next.keypairReady = store.keypairReady ∧
    next.phase5Epoch = store.phase5Epoch ∧ next.phase7Epoch = store.phase7Epoch

/-- A valid job goes on with its bytes, and its session is the one it was submitted for. -/
theorem jobStart_valid (hvalid : State.jobValid state.store) (hmode : state.store.pendingJobMode = mode)
    (hworker : state.worker = State.jobStart state.store) :
    state.worker.job = some mode ∧ state.jobInput = state.store.jobInput mode ∧
      (mode ≠ .phase5Start → state.Commits) := by
  unfold State.jobValid at hvalid
  rw [hmode] at hvalid
  have hepoch : State.pendingEpoch state.store =
      if mode.isPhase7 then state.store.pendingPhase7Epoch else state.store.pendingPhase5Epoch := by
    rw [State.pendingEpoch, hmode]
  unfold State.jobStart at hworker
  dsimp only at hworker
  rw [hmode, hepoch] at hworker
  unfold State.Commits State.jobInput
  rw [hworker]
  cases mode
  case phase5Start => exact ⟨rfl, rfl, fun hne ↦ absurd rfl hne⟩
  case phase2Diagnostic | phase3Secure | phase7HybridCp2 | phase5Data =>
    exact ⟨rfl, rfl, fun _ ↦ trivial⟩
  case phase7AppC2p => exact ⟨rfl, rfl, fun _ ↦ ⟨hvalid.1, hvalid.2.1⟩⟩
  case phase6C2p =>
    refine ⟨rfl, ?_, fun _ ↦ ⟨hvalid.1, hvalid.2.2⟩⟩
    dsimp only
    unfold State.phase6Snapshot
    split <;> rfl
  all_goals exact ⟨rfl, rfl, fun _ ↦ hvalid⟩

theorem jobStart_epoch_eq (store : Store) :
    (State.jobStart store).epoch = some (State.pendingEpoch store) := by
  unfold State.jobStart
  dsimp only
  cases store.pendingJobMode <;> rfl

theorem takeJob_valid_eq (hready : state.store.keypairReady = true) (hpending : state.store.jobPending = true)
    (hvalid : State.jobValid state.store) :
    state.takeJob = some { state with
      store := if state.store.pendingJobMode = .phase5Data
        then { state.store with jobPending := false, jobActive := true }.clearPhase5
        else { state.store with jobPending := false, jobActive := true }
      worker := State.jobStart state.store
      crc := 0
      workerGeneration := state.jobGeneration
      workerEpoch := State.pendingEpoch state.store } := by
  unfold State.takeJob
  dsimp only
  rw [if_neg (by simp [hpending]), if_neg (by simp [hready])]
  simp only [hvalid, decide_true, true_and, if_true]

/-- The taking of a job touches neither its bytes nor what its commit looks at. -/
theorem taken_keeps {store : Store} (hstore : store = if state.store.pendingJobMode = .phase5Data
        then { state.store with jobPending := false, jobActive := true }.clearPhase5
        else { state.store with jobPending := false, jobActive := true })
    (hnext : next.store = store) (hworker : next.worker = State.jobStart state.store) :
    Taken state.store next.store ∧
      next.jobInput = State.jobInput { state with worker := State.jobStart state.store } ∧
      (State.Commits { state with worker := State.jobStart state.store } → next.Commits) := by
  unfold State.jobInput State.Commits
  rw [hworker, hnext, hstore]
  by_cases hdata : state.store.pendingJobMode = .phase5Data
  · have hbegun : State.jobStart state.store = .data5 (State.pendingEpoch state.store)
        state.store.phase5Material.application state.store.phase5Material.sessionId := by
      simp only [State.jobStart, hdata]
    rw [if_pos hdata, hbegun]
    exact ⟨⟨rfl, rfl, rfl, rfl, rfl⟩, rfl, id⟩
  · rw [if_neg hdata]
    refine ⟨⟨rfl, rfl, rfl, rfl, rfl⟩, ?_, ?_⟩
    · cases State.jobStart state.store <;> dsimp only
      rename_i own epoch
      cases own <;> rfl
    · exact id

/-- The job in the queue is the one that the worker takes, with the bytes that were submitted. -/
theorem takeJob_of_valid (hworker : state.worker = .idle) (hready : state.store.keypairReady = true)
    (hpending : state.store.jobPending = true) (hvalid : State.jobValid state.store)
    (hjob : QueuedJob mode input resets state.store) :
    ∃ next, state.workerStep platform view = some next ∧ Taken state.store next.store ∧
      RunningJob mode input resets resets next := by
  have hunspoiled : state.store.jobInput mode = input := by
    refine hjob.held.resolve_right fun hspoiled ↦ ?_
    unfold State.jobValid at hvalid
    rw [hjob.pending] at hvalid
    cases mode <;> simp_all [Store.Spoiled]
  have hmode := hjob.pending
  obtain ⟨hstart, hinput, hcommits⟩ :=
    @jobStart_valid { state with worker := State.jobStart state.store } mode hvalid hmode rfl
  have hstep : state.workerStep platform view = state.takeJob := by
    unfold State.workerStep
    rw [hworker]
  obtain ⟨next, hnext, hstarted, hcrc, htaken, hkept, hcommitted⟩ : ∃ next, state.takeJob = some next ∧
      next.worker = State.jobStart state.store ∧ next.crc = 0 ∧ Taken state.store next.store ∧
      next.jobInput = State.jobInput { state with worker := State.jobStart state.store } ∧
      (State.Commits { state with worker := State.jobStart state.store } → next.Commits) :=
    ⟨_, takeJob_valid_eq hready hpending hvalid, rfl, rfl, taken_keeps rfl rfl rfl⟩
  have hcounted : Counted mode resets next := by
    intro epoch hown
    rw [hstarted, jobStart_epoch_eq] at hown
    obtain rfl := Option.some.inj hown
    rw [State.pendingEpoch, hmode, htaken.2.2.2.1, htaken.2.2.2.2]
    constructor
    · intro hsession
      rw [hjob.epoch5 hsession, if_neg (by cases mode <;> first | decide | cases hsession)]
    · intro hsession
      rw [hjob.epoch7 hsession, if_pos (by cases mode <;> first | rfl | cases hsession)]
  refine ⟨next, hstep.trans hnext, htaken, hstarted ▸ hstart, hkept.trans (hinput.trans hunspoiled), le_rfl,
    hjob.mod_eq_zero hvalid, hcounted, ?_, hcrc⟩
  rintro rfl
  by_cases hstart5 : mode = .phase5Start
  · -- START5 is not checked when it is taken, but no reset came in between
    subst hstart5
    have hbegun : next.worker = .decapsulate .phase5Start (State.pendingEpoch state.store) := by
      rw [hstarted]
      simp only [State.jobStart, hmode]
    have hsame := (hcounted (State.pendingEpoch state.store) (by rw [hbegun]; rfl)).1 rfl
    unfold State.Commits
    rw [hbegun]
    dsimp only
    rw [hsame]
    exact SameU32.refl _
  · exact hcommitted (hcommits hstart5)

/-- The worker gives up a job of an older epoch. -/
theorem takeJob_of_invalid (hworker : state.worker = .idle) (hready : state.store.keypairReady = true)
    (hpending : state.store.jobPending = true) (hvalid : ¬State.jobValid state.store) :
    ∃ next, state.workerStep platform view = some next ∧ Taken state.store next.store ∧
      DroppedJob state.store.pendingJobMode next := by
  simp only [State.workerStep, hworker, State.takeJob, hpending, hready, Bool.true_eq_false, if_false,
    hvalid, decide_false, Option.some.injEq, exists_eq_left']
  exact ⟨⟨rfl, rfl, hready.symm, rfl, rfl⟩, ⟨_, .invalidProtocolState, nofun, rfl⟩, rfl⟩

/-- A worker that is about to run a job owes no result. -/
theorem owed_of_inJob (h : state.worker.inJob = true) : state.owed = none := by
  unfold State.owed
  revert h
  cases state.worker <;> first | exact fun _ ↦ rfl | exact nofun

theorem rank_of_job (h : state.worker.job = some mode) : state.worker.rank = 2 := by
  revert h
  cases state.worker <;> first | exact fun _ ↦ rfl | exact nofun

/-- A job that commits although its session was reset before the worker took it: the epoch has gone round. -/
theorem RunningJob.period_le (h : RunningJob mode input early resets state) (hcommits : state.Commits)
    (hearly : early ≠ 0) : 2 ^ 32 ≤ resets := by
  have hle := h.early_le
  by_cases hmode : mode = .phase5Start
  · subst hmode
    have hjob := h.job
    have hcounted := h.counted
    unfold State.Commits at hcommits
    unfold Counted at hcounted
    cases hworker : state.worker <;> rw [hworker] at hjob hcommits hcounted <;> try cases hjob
    rename_i own epoch
    obtain ⟨-, rfl⟩ : own.decapsulates = true ∧ own = .phase5Start := by simpa [Worker.job] using hjob
    have hsame : SameU32 epoch state.store.phase5Epoch := hcommits
    rw [(hcounted epoch rfl).1 rfl] at hsame
    unfold SameU32 at hsame
    omega
  · have hmod := h.checked hmode
    omega

/-- The product of a job that has run, as the worker goes on with it. -/
theorem Ended.done (h : Ended mode state next)
    (hcounted : Counted mode resets state) (hcrc : state.crc = 0) : DoneJob mode resets next.product next := by
  obtain ⟨⟨epoch, status, wire, hepoch, hworker⟩, -, hphase7, hphase5, hkept⟩ := h
  have hproduct : next.product.result = ⟨status, next.crc, wire⟩ := by
    simp only [State.product, hworker]
  refine ⟨⟨epoch, ?_⟩, ?_, fun hmode own hown ↦ ?_, fun hmode ↦ (hkept hmode).trans hcrc⟩
  · rw [hproduct]
    exact hworker
  · rw [hproduct]
  · rw [hworker] at hown
    obtain rfl : epoch = own := Option.some.inj hown
    obtain ⟨h5, h7⟩ := hcounted epoch hepoch
    rw [hphase5 hmode, hphase7]
    exact ⟨h5, h7⟩

/-- What a step of the worker between two jobs does to the store: the commit finds the slot free. -/
inductive RestMove (store next : Store) : Prop
  | kept (h : next = store)
  | reset5 (h : next = store.resetPhase5)
  | reset7 (h : next = store.resetPhase7)
  | committed (free : store.jobPending = false) (pending : next.jobPending = false)
    (active : next.jobActive = store.jobActive) (ready : next.keypairReady = store.keypairReady)

theorem commitPhase7_move (state : State) :
    RestMove state.store (state.commitPhase7 platform view).2.store ∧
      RestMove state.store (state.commitPhase7 platform view).2.store.resetPhase7 := by
  unfold State.commitPhase7
  cases hready : state.store.commitReady with
  | error error => exact ⟨.kept rfl, .reset7 rfl⟩
  | ok value =>
    obtain ⟨-, -, -, -, hpending, -⟩ := commitReady_eq_ok_iff.mp hready
    dsimp only
    repeat' split
    all_goals exact ⟨.committed hpending hpending rfl rfl, .committed hpending hpending rfl rfl⟩

theorem deliverSerialized_move {valid : Bool} {wire : Bytes} {conn : Conn} :
    RestMove state.store (state.deliverSerialized platform mode valid wire conn view).store ∧
      (state.deliverSerialized platform mode valid wire conn view).worker = .idle := by
  unfold State.deliverSerialized
  dsimp only
  split
  · split
    · split
      · exact ⟨.kept rfl, rfl⟩
      · split
        · exact ⟨(commitPhase7_move (state.notify conn wire view)).1, rfl⟩
        · exact ⟨(commitPhase7_move (state.notify conn wire view)).2, rfl⟩
    · exact ⟨.reset7 rfl, rfl⟩
  · exact ⟨.kept rfl, rfl⟩

/-- A step of the worker between two jobs that does not look for one. -/
structure Rested (state next : State) : Prop where
  job : next.worker.inJob = false
  owed : next.owed = none
  rank : next.worker.rank < state.worker.rank
  move : RestMove state.store next.store

theorem owed_eq_none_of (h : next.worker.atResult = false) : next.owed = none := by
  unfold State.owed
  revert h
  cases next.worker <;> first | exact fun _ ↦ rfl | exact nofun

/-- The code after the notification is at most `commit7`. -/
theorem afterDelivery_rest {valid sent : Bool} {conn : Conn} :
    (State.afterDelivery mode valid sent conn).inJob = false ∧
      (State.afterDelivery mode valid sent conn).atResult = false ∧
      (State.afterDelivery mode valid sent conn).rank < 7 := by
  unfold State.afterDelivery
  cases mode <;> dsimp only
  all_goals repeat' split
  all_goals exact ⟨rfl, rfl, by simp [Worker.rank]⟩

/-- The worker leaves its callback, or goes on in it. -/
theorem Rested.moved (hmove : RestMove state.store next.store) (hjob : next.worker.inJob = false)
    (hresult : next.worker.atResult = false) (hrank : next.worker.rank < state.worker.rank) : Rested state next :=
  ⟨hjob, owed_eq_none_of hresult, hrank, hmove⟩

theorem rest_step (hidle : state.worker ≠ .idle) (hjob : state.worker.inJob = false) :
    ∃ next, state.workerStep platform view = some next ∧ Rested state next := by
  obtain ⟨worker, hworker⟩ : ∃ worker, state.worker = worker := ⟨_, rfl⟩
  unfold State.workerStep
  rw [hworker] at hidle hjob ⊢
  cases worker with
  | callback mode status wire =>
    refine ⟨_, rfl, ?_⟩
    rcases @resultReady_worker platform state mode status wire with hnext | ⟨conn, -, -, hnext⟩
    · exact .moved (.kept rfl) (by rw [hnext]; rfl) (by rw [hnext]; rfl) (by simp [Worker.rank, hnext, hworker])
    · exact .moved (.kept rfl) (by rw [hnext]; rfl) (by rw [hnext]; rfl) (by simp [Worker.rank, hnext, hworker])
  | deliver mode valid status wire conn =>
    refine ⟨_, rfl, ?_⟩
    unfold State.deliver
    split
    · obtain ⟨hmove, hnext⟩ := @deliverSerialized_move platform state view mode valid wire conn
      exact .moved hmove (by rw [hnext]; rfl) (by rw [hnext]; rfl) (by simp [Worker.rank, hnext, hworker])
    · obtain ⟨hnext, hresult, hlt⟩ := @afterDelivery_rest mode valid view.sent conn
      exact .moved (.kept rfl) hnext hresult (by rw [hworker]; exact hlt)
  | ready7 conn => exact ⟨_, rfl, .moved (.kept rfl) rfl rfl (by simp [Worker.rank, State.writePhase7, hworker])⟩
  | promoted7 conn =>
    exact ⟨_, rfl, .moved (.kept rfl) rfl rfl (by simp [Worker.rank, State.writePhase7, hworker])⟩
  | commit7 conn =>
    have hmove := (@commitPhase7_move platform view state).1
    rcases hcommit : state.commitPhase7 platform view with ⟨ok, committed⟩
    rw [hcommit] at hmove
    refine ⟨_, rfl, ?_⟩
    cases ok
    · exact .moved hmove rfl rfl (by simp [Worker.rank, hworker])
    · exact .moved hmove rfl rfl (by simp [Worker.rank, hworker])
  | failed7 conn =>
    exact ⟨_, rfl, .moved (.kept rfl) rfl rfl (by simp [Worker.rank, State.writePhase7, hworker])⟩
  | failed5 conn => exact ⟨_, rfl, .moved (.kept rfl) rfl rfl (by simp [Worker.rank, hworker])⟩
  | reset7 => exact ⟨_, rfl, .moved (.reset7 rfl) rfl rfl (by simp [Worker.rank, hworker])⟩
  | reset5 => exact ⟨_, rfl, .moved (.reset5 rfl) rfl rfl (by simp [Worker.rank, hworker])⟩
  | idle => exact absurd rfl hidle
  | _ => cases hjob

/-- A move between two jobs is a sequence of resets. -/
theorem RestMove.follows (h : RestMove state.store next.store) (hmatches : SlotMatches state job)
    (hworker : state.worker.inJob = false) (hnext : next.worker.inJob = false) :
    next.store.keypairReady = state.store.keypairReady ∧
      ∃ last, (slotServer platform).rules.Follows ⟨job, none⟩ (state.store.resets next.store) ⟨last, none⟩ ∧
        SlotMatches next last ∧ last.mode = job.mode := by
  cases h with
  | kept h =>
    rw [Store.resets_eq_nil (by rw [h]) (by rw [h])]
    exact ⟨by rw [h], job, rfl, hmatches.moved h hworker hnext, rfl⟩
  | reset5 h =>
    rw [h, Store.resets_resetPhase5]
    exact ⟨rfl, _, SlotRules.Next.follows .reset, hmatches.resetPhase5.moved h hworker hnext,
      SlotJob.mode_reset _ _ _⟩
  | reset7 h =>
    rw [h, Store.resets_resetPhase7]
    exact ⟨rfl, _, SlotRules.Next.follows .reset, hmatches.resetPhase7.moved h hworker hnext,
      SlotJob.mode_reset _ _ _⟩
  | committed hfree hpending hactive hready =>
    -- a commit finds the slot free
    obtain rfl : job = .free := hmatches.eq_free hfree (hmatches.active_eq_false hworker)
    obtain ⟨last, hfollows, rfl⟩ := @SlotRules.follows_resets _ _ _ _ _ _ (slotServer platform).rules
      (state.store.resets next.store) (· = .free) .free none rfl (by rintro _ kind rfl; rfl)
      fun _ ↦ Store.mem_resets
    exact ⟨hready, .free, hfollows, ⟨hpending, hactive.trans hmatches.2.1, hnext⟩, rfl⟩

theorem owed_eq_none (h : Matches desk state) (hworker : state.owed = none) :
    desk = ⟨desk.job, none⟩ := by
  obtain ⟨job, owed⟩ := desk
  rw [show owed = none from h.owed.trans hworker]

/-- What a step of the worker does to a desk that matches. -/
structure Advanced (platform : Platform) (view : WorkerView) (desk : Desk JobMode JobInput JobProduct JobResult)
    (state : State) : Prop where
  reported : ∀ mode result, desk.owed = some (mode, result) →
    .reported mode result ∈ state.slotEvents platform (.worker view)
  last : ∃ last, (slotServer platform).rules.Follows desk (state.slotEvents platform (.worker view)) last ∧
    Matches last (state.slotCall platform (.worker view)) ∧
    ∀ mode, desk.job.mode = some mode →
      (last.job.mode = some mode ∧
        (state.slotCall platform (.worker view)).worker.rank < state.worker.rank) ∨
        ∃ result, last.owed = some (mode, result) ∧ 0 < state.worker.rank

theorem slotCall_worker (hstep : state.workerStep platform view = some next) :
    state.slotCall platform (.worker view) = next := by
  simp only [State.slotCall, hstep, Option.getD_some]

theorem slotEvents_worker (hstep : state.workerStep platform view = some next) :
    state.slotEvents platform (.worker view) = state.jobEvents next ++ state.store.resets next.store := by
  simp only [State.slotEvents, slotCall_worker hstep]

/-- The worker looks for a job. -/
theorem advanced_idle (h : Matches desk state) (hworker : state.worker = .idle) :
    Advanced platform view desk state := by
  have howed : desk = ⟨desk.job, none⟩ := owed_eq_none h (by unfold State.owed; rw [hworker])
  have hbetween : state.worker.inJob = false := by rw [hworker]; rfl
  obtain ⟨job, owed⟩ := desk
  obtain rfl : owed = none := congrArg Desk.owed howed
  refine ⟨by rintro _ _ ⟨⟩, ?_⟩
  have hjob := h.job
  obtain hfree | ⟨mode, input, resets, hqueued⟩ := hjob.cases hbetween
  · obtain rfl : job = .free := hfree
    have hstep : state.workerStep platform view = none := by
      simp only [State.workerStep, hworker, State.takeJob, hjob.1, if_true]
    have hnext : state.slotCall platform (.worker view) = state := by
      simp only [State.slotCall, hstep, Option.getD_none]
    refine ⟨⟨.free, none⟩, ?_, by rw [hnext]; exact h, by rintro _ ⟨⟩⟩
    simp only [State.slotEvents, hnext, State.jobEvents, hworker, hjob.1, if_true,
      Store.resets_eq_nil rfl rfl, List.append_nil]
    rfl
  · obtain rfl : job = .queued mode input resets := hqueued
    obtain ⟨hpending, -, -, hqueued⟩ := hjob
    by_cases hvalid : State.jobValid state.store
    · obtain ⟨next, hstep, ⟨hpending', hactive', hready, h5, h7⟩, hrunning⟩ :=
        @takeJob_of_valid platform state view mode input resets hworker h.ready hpending hvalid hqueued
      rw [slotEvents_worker hstep, slotCall_worker hstep, Store.resets_eq_nil h5 h7, List.append_nil]
      refine ⟨⟨.running mode input resets resets, none⟩, ?_, ⟨hready.trans h.ready,
        (owed_of_inJob (inJob_of_job hrunning.job)).symm, hpending', hactive', hrunning⟩, ?_⟩
      · simp only [State.jobEvents, hworker, hpending, hvalid, Bool.true_eq_false, if_false, if_true,
          hqueued.pending]
        exact SlotRules.Next.follows .take
      · rintro _ ⟨⟩
        exact .inl ⟨rfl, by rw [rank_of_job hrunning.job, hworker]; decide⟩
    · obtain ⟨next, hstep, ⟨hpending', hactive', hready, h5, h7⟩, hdropped⟩ :=
        @takeJob_of_invalid platform state view hworker h.ready hpending hvalid
      rw [hqueued.pending] at hdropped
      obtain ⟨epoch, status, hstatus, hnext⟩ := hdropped.worker
      rw [slotEvents_worker hstep, slotCall_worker hstep, Store.resets_eq_nil h5 h7, List.append_nil]
      refine ⟨⟨.dropped mode, none⟩, ?_, ⟨hready.trans h.ready,
        (owed_of_inJob (by rw [hnext]; rfl)).symm, hpending', hactive', hdropped⟩, ?_⟩
      · simp only [State.jobEvents, hworker, hpending, hvalid, Bool.true_eq_false, if_false,
          hqueued.pending]
        exact SlotRules.Next.follows (.discardQueued fun hzero ↦ hvalid (hqueued.fresh hzero))
      · rintro _ ⟨⟩
        exact .inl ⟨rfl, by simp [Worker.rank, hnext, hworker]⟩

/-- The events of a step that runs a job. -/
theorem jobEvents_job (hjob : state.worker.job = some mode) :
    state.jobEvents next =
      if state.Commits then [.ran mode state.jobInput next.product] else [.discarded mode] := by
  unfold State.jobEvents
  cases hworker : state.worker <;> rw [hworker] at hjob <;> dsimp only
  all_goals first
    | rw [hjob]
    | cases hjob

/-- A failed FINISHED_C of Phase 5 resets its session as it ends; no other job resets one. -/
theorem Ended.follows (h : Ended mode state next) :
    ∃ later, (slotServer platform).rules.Follows ⟨.done mode resets next.product, none⟩
      (state.store.resets next.store) ⟨.done mode later next.product, none⟩ ∧
      (mode ≠ .phase5FinishedC → later = resets) := by
  by_cases hmode : mode = .phase5FinishedC
  · have hreset : ∀ (job : SlotJob JobMode JobInput JobProduct) kind,
        (∃ later, job = .done mode later next.product) →
        ∃ later, job.reset JobMode.session kind = .done mode later next.product := by
      rintro _ kind ⟨later, rfl⟩
      exact ⟨_, rfl⟩
    obtain ⟨_, hfollows, later, rfl⟩ := @SlotRules.follows_resets _ _ _ _ _ _ (slotServer platform).rules
      (state.store.resets next.store) (∃ later, · = .done mode later next.product)
      (.done mode resets next.product) none ⟨resets, rfl⟩ hreset fun _ ↦ Store.mem_resets
    exact ⟨later, hfollows, fun hne ↦ absurd hmode hne⟩
  · rw [Store.resets_eq_nil (h.phase5 hmode) h.phase7]
    exact ⟨resets, rfl, fun _ ↦ rfl⟩

/-- The worker runs its job. -/
theorem advanced_running (h : Matches ⟨.running mode input early resets, none⟩ state) :
    Advanced platform view ⟨.running mode input early resets, none⟩ state := by
  obtain ⟨hpending, hactive, hrunning⟩ := h.job
  have hrank := rank_of_job hrunning.job
  obtain ⟨next, hstep, hended⟩ := @run_ended platform state view mode hrunning.job
  have hevents := @jobEvents_job state next mode hrunning.job
  by_cases hcommits : state.Commits
  · rw [if_pos hcommits, hrunning.input] at hevents
    have hdone := hended.done hrunning.counted hrunning.crc
    obtain ⟨epoch, hworker⟩ := hdone.worker
    obtain ⟨later, hfollows, hlater⟩ := @Ended.follows platform state next mode resets hended
    refine ⟨nofun, ⟨.done mode later next.product, none⟩, ?_, ?_, ?_⟩
    · rw [slotEvents_worker hstep, hevents]
      exact (SlotRules.Next.follows (.run (hrunning.period_le hcommits))).append hfollows
    · rw [slotCall_worker hstep]
      refine ⟨hended.queue.2.2.trans h.ready, (owed_of_inJob (by rw [hworker]; rfl)).symm,
        hended.queue.1.trans hpending, hended.queue.2.1.trans hactive, hdone.worker, hdone.result, ?_, hdone.crc⟩
      intro hmode
      rw [hlater hmode]
      exact hdone.counted hmode
    · rintro _ ⟨⟩
      exact .inl ⟨rfl, by rw [slotCall_worker hstep, hworker, hrank]; exact Nat.one_lt_two⟩
  · rw [if_neg hcommits] at hevents
    obtain ⟨epoch, status, hstatus, hfailed⟩ := @run_uncommitted platform state view mode hrunning.job hcommits
    obtain rfl : next = state.failJob mode epoch status := Option.some.inj (hstep.symm.trans hfailed)
    refine ⟨nofun, ⟨.dropped mode, none⟩, ?_, ?_, ?_⟩
    · have hresets : state.store.resets (state.failJob mode epoch status).store = [] :=
        Store.resets_eq_nil rfl rfl
      rw [slotEvents_worker hstep, hevents, hresets]
      exact SlotRules.Next.follows (.discardRunning fun hzero ↦ hcommits (hrunning.fresh hzero))
    · rw [slotCall_worker hstep]
      exact ⟨h.ready, rfl, hpending, hactive, ⟨epoch, status, hstatus, rfl⟩, hrunning.crc⟩
    · rintro _ ⟨⟩
      exact .inl ⟨rfl, by rw [slotCall_worker hstep, hrank]; exact Nat.one_lt_two⟩

/-- The worker ends its job: the slot is free, and the callback is next. -/
theorem finishJob_step {status : JobStatus} {wire : Bytes} (hworker : state.worker = .jobDone mode epoch status wire)
    (hpending : state.store.jobPending = false) :
    ∃ next result, state.workerStep platform view = some next ∧
      next.owed = some (mode, result) ∧ next.worker.inJob = false ∧
      next.store.keypairReady = state.store.keypairReady ∧ next.store.jobPending = false ∧
      next.store.jobActive = false ∧ state.store.resets next.store = [] ∧
      state.jobEvents next = [.finished mode result] ∧
      (result = ⟨status, state.crc, wire⟩ ∨ result = ⟨.invalidProtocolState, state.crc, []⟩ ∧
        (mode = .phase7HybridCp2 ∧ ¬SameU32 epoch state.store.phase5Epoch ∨
          mode.isPhase7 = true ∧ ¬SameU32 epoch state.store.phase7Epoch)) := by
  by_cases hstale : (mode = .phase7HybridCp2 ∧ ¬SameU32 epoch state.store.phase5Epoch) ∨
      (mode.isPhase7 ∧ ¬SameU32 epoch state.store.phase7Epoch)
  · have hnext : (state.finishJob mode epoch status wire).worker = .callback mode .invalidProtocolState [] :=
      if_pos hstale
    have howed : (state.finishJob mode epoch status wire).owed =
        some (mode, ⟨.invalidProtocolState, state.crc, []⟩) := by
      simp only [State.owed, hnext]
      rfl
    refine ⟨_, _, by simp only [State.workerStep, hworker], howed, by rw [hnext]; rfl, rfl, hpending, rfl,
      Store.resets_eq_nil rfl rfl, ?_, .inr ⟨rfl, hstale⟩⟩
    simp only [State.jobEvents, hworker, howed]
  · have hnext : (state.finishJob mode epoch status wire).worker = .callback mode status wire :=
      if_neg hstale
    have howed : (state.finishJob mode epoch status wire).owed = some (mode, ⟨status, state.crc, wire⟩) := by
      simp only [State.owed, hnext]
      rfl
    refine ⟨_, _, by simp only [State.workerStep, hworker], howed, by rw [hnext]; rfl, rfl, hpending, rfl,
      Store.resets_eq_nil rfl rfl, ?_, .inl rfl⟩
    simp only [State.jobEvents, hworker, howed]

/-- The worker ends a job that has run, or that it has given up. -/
theorem advanced_finish {status : JobStatus} {wire : Bytes} (h : Matches ⟨job, none⟩ state)
    (hmode : job.mode = some mode) (hpending : state.store.jobPending = false)
    (hworker : state.worker = .jobDone mode epoch status wire)
    (hnext : ∀ {result : JobResult}, (result = ⟨status, state.crc, wire⟩ ∨
      result = ⟨.invalidProtocolState, state.crc, []⟩ ∧
        (mode = .phase7HybridCp2 ∧ ¬SameU32 epoch state.store.phase5Epoch ∨
          mode.isPhase7 = true ∧ ¬SameU32 epoch state.store.phase7Epoch)) →
      (slotServer platform).rules.Next ⟨job, none⟩ (.finished mode result) ⟨.free, some (mode, result)⟩) :
    Advanced platform view ⟨job, none⟩ state := by
  obtain ⟨next, result, hstep, howed, hended, hready, hfree, hactive, hresets, hevents, hresult⟩ :=
    @finishJob_step platform state view mode epoch status wire hworker hpending
  refine ⟨nofun, ⟨.free, some (mode, result)⟩, ?_, ?_, ?_⟩
  · rw [slotEvents_worker hstep, hevents, hresets]
    exact SlotRules.Next.follows (hnext hresult)
  · rw [slotCall_worker hstep]
    exact ⟨hready.trans h.ready, howed.symm, hfree, hactive, hended⟩
  · intro other hother
    obtain rfl : mode = other := Option.some.inj (hmode.symm.trans hother)
    exact .inr ⟨_, rfl, by rw [hworker]; exact Nat.zero_lt_one⟩

/-- A result that is cancelled at the end of its job comes after a reset, and without output. -/
theorem DoneJob.cancelled {status : JobStatus} {wire : Bytes} (h : DoneJob mode resets product state)
    (hworker : state.worker = .jobDone mode epoch status wire)
    (hstale : mode = .phase7HybridCp2 ∧ ¬SameU32 epoch state.store.phase5Epoch ∨
      mode.isPhase7 = true ∧ ¬SameU32 epoch state.store.phase7Epoch) :
    resets ≠ 0 ∧ JobResult.Failed ⟨.invalidProtocolState, state.crc, []⟩ := by
  have hepoch : state.worker.epoch = some epoch := by rw [hworker]; rfl
  rcases hstale with ⟨rfl, hother⟩ | ⟨hphase7, hother⟩
  · refine ⟨?_, nofun, h.crc nofun, rfl⟩
    rintro rfl
    rw [(h.counted nofun epoch hepoch).1 rfl] at hother
    exact hother (SameU32.refl _)
  · have hsession : mode.session = some .phase7 := by
      cases mode <;> first | rfl | cases hphase7
    refine ⟨?_, nofun, h.crc (by rintro rfl; cases hphase7), rfl⟩
    rintro rfl
    rw [(h.counted (by rintro rfl; cases hphase7) epoch hepoch).2 hsession] at hother
    exact hother (SameU32.refl _)

/-- The worker moves on in the callback, or reports a result. -/
theorem advanced_rest (h : Matches desk state) (hidle : state.worker ≠ .idle)
    (hjob : state.worker.inJob = false) : Advanced platform view desk state := by
  obtain ⟨next, hstep, hrest⟩ := @rest_step platform state view hidle hjob
  obtain ⟨hready, last, hfollows, hlast, hmode⟩ :=
    @RestMove.follows platform _ _ _ hrest.move h.job hjob hrest.job
  have hmatched : Matches ⟨last, none⟩ (state.slotCall platform (.worker view)) := by
    rw [slotCall_worker hstep]
    exact ⟨hready.trans h.ready, hrest.owed.symm, hlast⟩
  have hprogress : ∀ mode, desk.job.mode = some mode →
      last.mode = some mode ∧
        (state.slotCall platform (.worker view)).worker.rank < state.worker.rank := by
    intro mode hdesk
    rw [slotCall_worker hstep]
    exact ⟨hmode.trans hdesk, hrest.rank⟩
  cases howed : state.owed with
  | none =>
    have hevents : state.jobEvents next = [] := by
      unfold State.jobEvents
      unfold State.owed at howed
      cases hworker : state.worker <;> rw [hworker] at hidle hjob howed
      all_goals first
        | exact absurd rfl hidle
        | exact absurd hjob Bool.false_ne_true.symm
        | exact absurd howed (Option.some_ne_none _)
        | rfl
    rw [owed_eq_none h howed]
    refine ⟨nofun, ⟨last, none⟩, ?_, hmatched, fun mode hdesk ↦ .inl (hprogress mode hdesk)⟩
    rw [slotEvents_worker hstep, hevents]
    exact hfollows
  | some result =>
    obtain ⟨mode, result⟩ := result
    have hevents : state.jobEvents next = [.reported mode result] := by
      unfold State.jobEvents
      unfold State.owed at howed
      cases hworker : state.worker <;> rw [hworker] at howed <;> cases howed
      rfl
    obtain ⟨job, owed⟩ := desk
    obtain rfl : owed = some (mode, result) := h.owed.trans howed
    refine ⟨?_, ⟨last, none⟩, ?_, hmatched, fun mode hdesk ↦ .inl (hprogress mode hdesk)⟩
    · rintro _ _ ⟨⟩
      rw [slotEvents_worker hstep, hevents]
      exact List.mem_append_left _ List.mem_cons_self
    · rw [slotEvents_worker hstep, hevents]
      exact (SlotRules.Next.follows .report).append hfollows

/-- Every step of the worker advances the desk. -/
theorem advanced (h : Matches desk state) : Advanced platform view desk state := by
  by_cases hidle : state.worker = .idle
  · exact advanced_idle h hidle
  by_cases hjob : state.worker.inJob = true
  · have hdesk := owed_eq_none h (owed_of_inJob hjob)
    obtain ⟨job, owed⟩ := desk
    obtain rfl : owed = none := congrArg Desk.owed hdesk
    have hmatches := h.job
    cases job with
    | free => exact absurd hjob (by rw [hmatches.2.2]; exact Bool.false_ne_true)
    | queued mode input resets => exact absurd hjob (by rw [hmatches.2.2.1]; exact Bool.false_ne_true)
    | running mode input early resets => exact advanced_running h
    | done mode resets product =>
      obtain ⟨hpending, -, hdone⟩ := hmatches
      obtain ⟨epoch, hworker⟩ := hdone.worker
      refine advanced_finish h rfl hpending hworker ?_
      rintro result (rfl | ⟨rfl, hstale⟩)
      · rw [hdone.result]
        exact .finish (.inl rfl)
      · exact .finish (.inr (hdone.cancelled hworker hstale))
    | dropped mode =>
      obtain ⟨hpending, -, ⟨epoch, status, hstatus, hworker⟩, hcrc⟩ := hmatches
      refine advanced_finish h rfl hpending hworker ?_
      rintro result (rfl | ⟨rfl, -⟩)
      · exact .drop ⟨hstatus, hcrc, rfl⟩
      · exact .drop ⟨nofun, hcrc, rfl⟩
  · exact advanced_rest h hidle (Bool.eq_false_iff.mpr hjob)

/-- The run of a job is the only event of its kind in the log. -/
theorem log_ran {call : SlotCall} (h : .ran mode input product ∈ state.slotEvents platform call) :
    ∃ view next, call = .worker view ∧ state.workerStep platform view = some next ∧ state.Commits ∧
      state.worker.job = some mode ∧ input = state.jobInput ∧ product = next.product := by
  have hresets : ∀ {store store' : Store}, .ran mode input product ∉ store.resets store' := by
    intro store store' hmem
    obtain ⟨kind, hkind⟩ := Store.mem_resets hmem
    cases hkind
  cases call with
  | worker view =>
    have hevents := (List.mem_append.mp h).resolve_right hresets
    cases hjob : state.worker.job with
    | none =>
      unfold State.jobEvents at hevents
      cases hworker : state.worker <;> rw [hworker] at hevents hjob <;> dsimp only at hevents
      case idle => split_ifs at hevents <;> simp at hevents
      case jobDone => split at hevents <;> simp at hevents
      case callback => simp at hevents
      all_goals
        rw [hjob] at hevents
        simp at hevents
    | some own =>
      rw [jobEvents_job hjob] at hevents
      obtain ⟨next, hstep, -⟩ := @run_ended platform state view own hjob
      rw [slotCall_worker hstep] at hevents
      split at hevents
      · rename_i hcommits
        obtain ⟨rfl, rfl, rfl⟩ : mode = own ∧ input = state.jobInput ∧ product = next.product := by
          simpa using hevents
        exact ⟨view, next, rfl, hstep, hcommits, rfl, rfl, rfl⟩
      · simp at hevents
  | _ => exact absurd h hresets

/-- A submission that is accepted changes the store. -/
theorem slotServer_accepted {request : Submission}
    (h : (slotServer platform).submit state request = .ok next) :
    ∃ store, request.submit state.store = .ok store ∧ { state with store } = next := by
  simp only [slotServer] at h
  cases hrequest : request.submit state.store with
  | error refusal =>
    rw [hrequest] at h
    cases h
  | ok store =>
    rw [hrequest] at h
    exact ⟨store, rfl, Except.ok.inj h⟩

/-- A submission that is refused ends in the state that it found. -/
theorem slotServer_refused {request : Submission} {error : Errno}
    (h : (slotServer platform).submit state request = .error (error, next)) : next = state := by
  simp only [slotServer] at h
  cases hrequest : request.submit state.store with
  | error refusal =>
    rw [hrequest] at h
    obtain ⟨rfl, rfl⟩ := Prod.mk.inj (Except.error.inj h)
    rw [request.submit_failsIn refusal.1 refusal.2 hrequest]
  | ok store =>
    rw [hrequest] at h
    cases h

theorem Matches.accepted {store : Store} {request : Submission} (h : Matches desk state)
    (hsubmit : request.submit state.store = .ok store) :
    desk.job = .free ∧ Matches ⟨.queued request.mode request.input 0, desk.owed⟩ { state with store } := by
  obtain ⟨⟨hpending, hactive⟩, hready, hpending', hactive', hqueued⟩ := Submission.submit_eq_ok hsubmit
  have hjob := h.job.eq_free hpending hactive
  have hworker := h.job
  rw [hjob] at hworker
  exact ⟨hjob, hready.trans h.ready, h.owed, hpending', hactive', hworker.2.2, hqueued⟩

/-- The installation of a resumed session finds a free slot, and leaves it free. -/
theorem Matches.installed {keys : Phase7TrafficKeys} {sid : Block 16} (h : Matches ⟨job, owed⟩ state) :
    (slotServer platform).rules.Follows ⟨job, owed⟩
        (state.slotEvents platform (.installPhase8Application keys sid)) ⟨job, owed⟩ ∧
      Matches ⟨job, owed⟩ (state.slotCall platform (.installPhase8Application keys sid)) := by
  simp only [State.slotEvents, State.slotCall]
  cases hinstall : state.store.installPhase8Application keys sid with
  | error error =>
    refine ⟨?_, h⟩
    simp only [Store.resets_eq_nil rfl rfl]
    rfl
  | ok store =>
    obtain ⟨⟨-, hpending, hactive⟩, hstore⟩ := installPhase8Application_eq_ok_iff.mp hinstall
    obtain rfl : job = .free := h.job.eq_free hpending hactive
    have hresets : state.store.resets store = [] := by
      rw [hstore]
      exact Store.resets_eq_nil rfl rfl
    constructor
    · dsimp only
      rw [hresets]
      rfl
    · subst hstore
      exact ⟨h.ready, h.owed, h.job⟩

/-- A call that is not a step of the worker only resets. -/
theorem Matches.aside {call : SlotCall} (h : Matches desk state) (hcall : (slotServer platform).works call = false) :
    ∃ next, (slotServer platform).rules.Follows desk (state.slotEvents platform call) next ∧
      Matches next (state.slotCall platform call) := by
  obtain ⟨job, owed⟩ := desk
  cases call with
  | worker view => cases hcall
  | resetPhase5 =>
    refine ⟨⟨job.reset JobMode.session .phase5, owed⟩, ?_, h.ready, h.owed, h.job.resetPhase5⟩
    simp only [State.slotEvents, State.slotCall, Store.resets_resetPhase5]
    exact SlotRules.Next.follows .reset
  | resetPhase7 =>
    refine ⟨⟨job.reset JobMode.session .phase7, owed⟩, ?_, h.ready, h.owed, h.job.resetPhase7⟩
    simp only [State.slotEvents, State.slotCall, Store.resets_resetPhase7]
    exact SlotRules.Next.follows .reset
  | elsewhere other =>
    refine ⟨⟨job, owed⟩, ?_, h.ready, h.owed, h.job.elsewhere other⟩
    simp only [State.slotEvents, State.slotCall, Store.resets_eq_nil rfl rfl]
    rfl
  | installPhase8Application keys sid => exact ⟨⟨job, owed⟩, h.installed⟩

/-- Every call is a sequence of events of the slot. -/
theorem slotServer_simulation (platform : Platform) :
    (slotServer platform).Simulation State.boot 9 Matches (fun state ↦ state.worker.rank) where
  start := ⟨rfl, rfl, rfl, rfl, rfl⟩
  rank_lt state := by cases state.worker <;> simp [Worker.rank]
  accept {desk state request next} h hsubmit := by
    obtain ⟨store, hstore, rfl⟩ := slotServer_accepted hsubmit
    exact h.accepted hstore
  refuse hsubmit := slotServer_refused hsubmit
  compute {desk state call mode input product} _ hran := by
    obtain ⟨view, next, rfl, hstep, hcommits, hjob, rfl, rfl⟩ := log_ran hran
    exact run_product hjob hcommits hstep
  other {desk state call} h hcall := by
    refine ⟨fun event hevent ↦ ?_, ?_, h.aside hcall⟩
    · cases call with
      | worker view => cases hcall
      | _ => exact Store.mem_resets hevent
    · cases call with
      | worker view => cases hcall
      | installPhase8Application keys sid =>
        simp only [slotServer, State.slotCall]
        split <;> exact le_rfl
      | _ => exact le_rfl
  work {desk state call} h hcall := by
    cases call with
    | worker view =>
      have hadvanced := @advanced platform state view desk h
      exact ⟨hadvanced.reported, hadvanced.last⟩
    | _ => cases hcall

end Steps

/-! ## The runs of the firmware -/

section Firmware

variable {platform : Platform} {state next : State} {action : Action} {store : Store}

/-- Some calls lead from one state to another. -/
def Called (platform : Platform) (state next : State) : Prop := (slotServer platform).Reaches state next

theorem Called.trans {mid : State} (h : Called platform state mid) (hnext : Called platform mid next) :
    Called platform state next := Server.Reaches.trans h hnext

/-- A step that leaves the store and the worker alone. -/
theorem Called.aside (hstore : next.store = state.store) (hworker : next.worker = state.worker)
    (hcrc : next.crc = state.crc) : Called platform state next := by
  refine ⟨[.inr (.elsewhere next)], ?_⟩
  change { next with store := state.store, worker := state.worker, crc := state.crc } = next
  rw [← hstore, ← hworker, ← hcrc]

theorem Called.submitted {request : Submission} (hsubmit : request.submit state.store = .ok store)
    (hstore : next.store = store) (hworker : next.worker = state.worker)
    (hcrc : next.crc = state.crc) : Called platform state next := by
  have hcall : Called platform state { state with store } := by
    refine ⟨[.inl request], ?_⟩
    simp only [Server.run, Server.step, slotServer, hsubmit]
  exact hcall.trans (.aside hstore hworker hcrc)

theorem Called.resetPhase5 (hstore : next.store = state.store.resetPhase5)
    (hworker : next.worker = state.worker)
    (hcrc : next.crc = state.crc) : Called platform state next :=
  Called.trans ⟨[.inr .resetPhase5], rfl⟩ (.aside hstore hworker hcrc)

theorem Called.resetPhase7 (hstore : next.store = state.store.resetPhase7)
    (hworker : next.worker = state.worker)
    (hcrc : next.crc = state.crc) : Called platform state next :=
  Called.trans ⟨[.inr .resetPhase7], rfl⟩ (.aside hstore hworker hcrc)

theorem Called.refused (h : state.Refused next) : Called platform state next := by
  obtain ⟨generation, transfer, rfl, -⟩ := h
  exact .aside rfl rfl rfl

/-- The submission of `handle_start` is one of the submit functions. -/
theorem submitStart_request {store store' : Store} {mode : JobMode} {ct centralKey : Bytes} {sid : Block 16}
    (hmode : mode.decapsulates = true)
    (h : State.submitStart store mode ct sid centralKey = .ok store') :
    ∃ request : Submission, request.submit store = .ok store' := by
  unfold State.submitStart at h
  cases mode
  case phase2Diagnostic =>
    refine ⟨.diagnostic ct, ?_⟩
    simpa [Submission.submit, Store.submitJob, Store.queueJob] using h
  case phase3Secure =>
    refine ⟨.secure ct sid, ?_⟩
    simpa [Submission.submit, Store.submitJob, Store.queueJob] using h
  case phase5Start =>
    refine ⟨.phase5 ct sid, ?_⟩
    simpa [Submission.submit, Store.submitJob, Store.queueJob] using h
  case phase7HybridCp2 => exact ⟨.phase7Cp2 ct sid centralKey, h⟩
  case phase7AuthStart => exact ⟨.phase7Auth ct sid centralKey, h⟩
  all_goals cases hmode

theorem handleResume_called (conn : Conn) (data : Bytes) (input : Resumption.ControlInput)
    (link : LinkView) : Called platform state (state.handleResume platform conn data input link).2 := by
  unfold State.handleResume
  split
  · dsimp only
    split
    · unfold State.installResumed
      split
      · exact .resetPhase7 rfl rfl rfl
      · dsimp only
        split
        · exact .resetPhase7 rfl rfl rfl
        · rename_i keys _ _ _ store hinstall
          have hreset : Called platform state state.resetToIdle := .resetPhase7 rfl rfl rfl
          have hcall : Called platform state.resetToIdle { state.resetToIdle with store } := by
            refine ⟨[.inr (.installPhase8Application ⟨keys.c2p, keys.p2c⟩ keys.sid)], ?_⟩
            have hresult : state.resetToIdle.store.installPhase8Application ⟨keys.c2p, keys.p2c⟩ keys.sid =
                .ok store := hinstall
            simp only [Server.run, Server.step, slotServer, State.slotCall, hresult]
          exact hreset.trans (hcall.trans (.aside rfl rfl rfl))
    · exact .resetPhase7 rfl rfl rfl
  · exact .aside rfl rfl rfl

theorem call_called (hcall : state.call platform action = some next) : Called platform state next := by
  unfold State.call at hcall
  split at hcall
  · split at hcall <;> cases hcall
    exact .aside rfl rfl rfl
  · cases hcall
    unfold State.disconnected
    dsimp only
    split <;> split <;> exact .aside rfl rfl rfl
  · cases hcall
    unfold State.cccConfigChanged
    dsimp only
    split <;> exact .aside rfl rfl rfl
  · cases hcall
    exact .refused State.writeCiphertext_refused
  · split at hcall <;> cases hcall
    rename_i conn mode sid centralKey mtu hmode
    obtain hrefused | ⟨-, -, -, -, store, hsubmit, hnext⟩ :=
      @State.handleStart_cases state conn mode sid centralKey mtu
    · exact .refused hrefused
    rw [hnext]
    obtain ⟨request, hrequest⟩ := submitStart_request hmode.1 hsubmit
    exact .submitted hrequest rfl rfl rfl
  · split at hcall <;> cases hcall
    rename_i conn mode payload _
    obtain hrefused | ⟨-, -, rfl | rfl, store, hsubmit, hnext⟩ :=
      @State.handlePhase5WorkerCommand_cases state conn mode payload
    · exact .refused hrefused
    · rw [hnext]
      exact @Called.submitted _ _ _ _ (.phase5FinishedC payload) hsubmit rfl rfl rfl
    · rw [hnext]
      exact @Called.submitted _ _ _ _ .phase5Data hsubmit rfl rfl rfl
  · cases hcall
    rename_i conn payload
    obtain hrefused | ⟨-, -, store, hsubmit, hnext⟩ := @State.handlePhase7FinishedC_cases state conn payload
    · exact .refused hrefused
    rw [hnext]
    exact @Called.submitted _ _ _ _ (.phase7FinishedC payload) hsubmit rfl rfl rfl
  · cases hcall
    rename_i conn data offset
    obtain hrefused | ⟨-, ⟨-, store, hsubmit, hnext⟩ | ⟨-, -, store, hsubmit, hnext⟩⟩ :=
      @State.writeSecureData_cases state conn data offset
    · exact .refused hrefused
    · rw [hnext]
      exact @Called.submitted _ _ _ _ (.phase7C2p data) hsubmit rfl rfl rfl
    · rw [hnext]
      exact @Called.submitted _ _ _ _ (.phase6C2p data) hsubmit rfl rfl rfl
  · split at hcall <;> cases hcall
    exact handleResume_called _ _ _ _
  · split at hcall <;> cases hcall
    exact .aside rfl rfl rfl
  · split at hcall <;> cases hcall
    exact .aside rfl rfl rfl
  · cases hcall

theorem hostStep_called (hstep : state.hostStep = some next) : Called platform state next := by
  unfold State.hostStep at hstep
  split at hstep <;> cases hstep
  · exact .resetPhase5 rfl rfl rfl
  · exact .resetPhase7 rfl rfl rfl
  · exact .aside rfl rfl rfl
  · split
    · exact .resetPhase7 rfl rfl rfl
    · exact .aside rfl rfl rfl

/-- Every step of the firmware is a sequence of calls. -/
theorem step_called (hstep : step platform state action = some next) : Called platform state next := by
  unfold step at hstep
  split at hstep
  · rename_i view
    refine ⟨[.inr (.worker view)], ?_⟩
    simp only [Server.run, Server.step, slotServer, State.slotCall, hstep, Option.getD_some]
  · exact hostStep_called hstep
  · split at hstep <;> cases hstep
    exact .aside rfl rfl rfl
  · split at hstep
    · exact call_called hstep
    · cases hstep

/-- Every run of the firmware is a run of the server, so its slot is sound. -/
theorem run_called {actions : List Action} (hrun : run (step platform) .boot actions = some state) :
    Called platform .boot state :=
  run_invariant (fun _ _ _ hstate hstep ↦ Server.Reaches.trans hstate (step_called hstep)) ⟨[], rfl⟩ hrun

end Firmware

end PqBleHandshake.Legacy
