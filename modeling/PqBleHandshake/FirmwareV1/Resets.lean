import PqBleHandshake.FirmwareV1.Isolation

/-!
# Resets of v1.0 and v1.1 and the jobs they overtake

While the worker holds a CP3 or CP4 job from before a reset, the store retains no handshake and no keys: the
job stores its result only under the epoch it was submitted in, and the commits after its delivery need
flags that the reset cleared.
-/

namespace PqBleHandshake.FirmwareV1

open Foundation

/-- What the store retains of a handshake and of the application channel, with the flags. -/
structure Session where
  handshake : V1Handshake
  application : V1Application
  waitFinished : Bool
  keysPending : Bool
  appSecure : Bool
  cp4Pending : Bool
  cp4Ready : Bool
deriving DecidableEq

/-- Nothing is retained, and nothing is waiting, pending, ready or secure. -/
def Session.zero : Session := ⟨.zero, .zero, false, false, false, false, false⟩

def Store.session (store : Store) : Session :=
  ⟨store.v1Cp3Handshake, store.v1Cp3Application, store.v1Cp3WaitFinished, store.v1Cp3KeysPending,
    store.v1Cp3AppSecure, store.v1Cp4Pending, store.v1Cp4Ready⟩

/-- No handshake and no application channel is under way. -/
structure Store.Idle (store : Store) : Prop where
  wait : store.v1Cp3WaitFinished = false
  keysPending : store.v1Cp3KeysPending = false
  appSecure : store.v1Cp3AppSecure = false

/-- Each secret is in the store only while its flag is set. -/
structure Store.Flagged (store : Store) : Prop where
  handshake : store.v1Cp3WaitFinished = false → store.v1Cp3Handshake = .zero
  application : store.v1Cp3KeysPending = false → store.v1Cp3AppSecure = false →
    store.v1Cp3Application = .zero
  cp4 : store.v1Cp3AppSecure = false → store.v1Cp4Pending = false ∧ store.v1Cp4Ready = false

theorem Store.Idle.session {store : Store} (h : store.Idle) (hflagged : store.Flagged) :
    store.session = .zero := by
  obtain ⟨hwait, hkeys, hsecure⟩ := h
  obtain ⟨hpending, hready⟩ := hflagged.cp4 hsecure
  rw [Store.session, hflagged.handshake hwait, hflagged.application hkeys hsecure, hwait, hkeys, hsecure,
    hpending, hready]
  rfl

/-- The reset leaves nothing in the store. -/
theorem Store.resetV1Cp3_session (store : Store) :
    store.resetV1Cp3.session = .zero ∧ store.resetV1Cp3.v1Cp3Epoch = store.v1Cp3Epoch + 1 := ⟨rfl, rfl⟩

/-- The worker runs a CP3 or CP4 job or delivers its result. -/
def Worker.holdsCp3 (worker : Worker) : Bool := worker.inJob || worker.inDelivery

theorem Worker.running_of_isCp2 {worker : Worker} (h : worker.isCp2 = true) :
    worker.running = none ∧ worker.holdsCp3 = false := by
  cases worker <;> try exact Bool.noConfusion h
  case jobDone mode _ _ _ => cases mode <;> first | exact ⟨rfl, rfl⟩ | exact Bool.noConfusion h
  all_goals exact ⟨rfl, rfl⟩

/-- The epochs of the job that the worker holds, which is `epoch`, and of the queued one: once such a job is
outdated, the store is idle. -/
structure Dated (core : Core) (epoch : ℕ) : Prop where
  flagged : core.store.Flagged
  alone : core.worker.running.isSome = true →
    core.store.jobActive = true ∧ core.store.jobPending = false
  carried : ∀ mode own, core.worker.running = some (mode, own) → own = epoch
  taken : core.worker.holdsCp3 = true → Fenced epoch core.store.v1Cp3Epoch core.store.Idle
  queued : core.store.jobPending = true → core.store.pendingJobMode ≠ .v1Cp2 →
    Fenced core.store.pendingV1Cp3Epoch core.store.v1Cp3Epoch core.store.Idle

theorem dated_boot : Dated State.boot.core State.boot.workerEpoch :=
  ⟨⟨fun _ ↦ rfl, fun _ _ ↦ rfl, fun _ ↦ ⟨rfl, rfl⟩⟩, nofun, nofun, nofun, nofun⟩

section Moves

variable {platform : Platform} {core core' : Core} {epoch : ℕ}

/-- What a move that takes no job does to the worker and the queued job. -/
structure Kept (core core' : Core) : Prop where
  running : ∀ job, core'.worker.running = some job → core.worker.running = some job
  holds : core'.worker.holdsCp3 = true → core.worker.holdsCp3 = true
  slot : core.worker.running.isSome = true → core'.worker.running.isSome = true →
    core.store.jobActive = true ∧ core.store.jobPending = false →
    core'.store.jobActive = true ∧ core'.store.jobPending = false
  queued : core'.store.jobPending = true → core'.store.pendingJobMode ≠ .v1Cp2 →
    core'.store.pendingV1Cp3Epoch = core'.store.v1Cp3Epoch ∨
      core.store.jobPending = true ∧ core.store.pendingJobMode ≠ .v1Cp2 ∧
        core'.store.pendingV1Cp3Epoch = core.store.pendingV1Cp3Epoch

/-- What a move does to the flags: a running job stores its result under its own epoch, or an idle store
stays idle and a new epoch begins with one. -/
def Settles (core core' : Core) : Prop :=
  (∃ job, core.worker.running = some job ∧ SameU32 job.2 core.store.v1Cp3Epoch ∧
      core'.store.v1Cp3Epoch = core.store.v1Cp3Epoch) ∨
    core.store.v1Cp3Epoch ≤ core'.store.v1Cp3Epoch ∧
      (core.store.Idle ∨ core.store.v1Cp3Epoch < core'.store.v1Cp3Epoch → core'.store.Idle)

/-- A commit touches no job. -/
theorem Committed.slot {store store' : Store} (h : Committed platform store store') :
    store'.jobActive = store.jobActive ∧ store'.jobPending = store.jobPending ∧
      store'.pendingJobMode = store.pendingJobMode ∧
      store'.pendingV1Cp3Epoch = store.pendingV1Cp3Epoch := by
  obtain ⟨committed, hcommitted, rfl⟩ := h
  obtain ⟨-, rfl⟩ := commitV1Cp3_eq_ok_iff.mp hcommitted
  split <;> exact ⟨rfl, rfl, rfl, rfl⟩

theorem Committed.eq {store store' : Store} (h : Committed platform store store') :
    store.v1Cp3KeysPending = true ∧ store'.v1Cp3Epoch = store.v1Cp3Epoch ∧
      (store.Flagged → store'.Flagged) := by
  obtain ⟨committed, hcommitted, rfl⟩ := h
  obtain ⟨⟨hpending, -⟩, rfl⟩ := commitV1Cp3_eq_ok_iff.mp hcommitted
  refine ⟨hpending, by split <;> rfl, fun h ↦ ?_⟩
  split
  · exact ⟨h.handshake, fun _ _ ↦ rfl, fun _ ↦ ⟨rfl, rfl⟩⟩
  · exact ⟨h.handshake, fun _ hsecure ↦ Bool.noConfusion hsecure, fun _ ↦ ⟨rfl, rfl⟩⟩

theorem Move.flagged (move : Move platform core core') (h : core.store.Flagged) :
    core'.store.Flagged := by
  cases move
  case startStored => exact ⟨fun hwait ↦ Bool.noConfusion hwait, h.application, h.cp4⟩
  case finishedStored => exact ⟨h.handshake, fun hpending ↦ Bool.noConfusion hpending, h.cp4⟩
  case handshakeTaken => exact ⟨fun _ ↦ rfl, h.application, h.cp4⟩
  case start submitted =>
    obtain ⟨-, -, payload, -, -, -, rfl⟩ := submitV1Cp3_eq_ok_iff.mp submitted
    exact ⟨h.handshake, h.application, h.cp4⟩
  case finishedC submitted =>
    obtain ⟨payload, -, -, -, rfl⟩ := submitV1Cp3FinishedC_eq_ok_iff.mp submitted
    exact ⟨h.handshake, h.application, h.cp4⟩
  case ping submitted =>
    obtain ⟨-, -, -, ⟨hsecure, -⟩, rfl⟩ := submitV1Cp4_eq_ok_iff.mp submitted
    exact ⟨h.handshake, h.application, fun hclear ↦ Bool.noConfusion (hclear.symm.trans hsecure)⟩
  case pongReady secure =>
    exact ⟨h.handshake, h.application, fun hclear ↦ Bool.noConfusion (hclear.symm.trans secure)⟩
  case pongCommitted committed =>
    obtain ⟨-, rfl⟩ := commitV1Cp4_eq_ok_iff.mp committed
    exact ⟨h.handshake, h.application, fun _ ↦ ⟨rfl, rfl⟩⟩
  case finishedCommitted committed => exact committed.eq.2.2 h
  case cp3Committed committed => exact committed.eq.2.2 h
  all_goals first
    | exact ⟨h.handshake, h.application, h.cp4⟩
    | exact ⟨fun _ ↦ rfl, fun _ _ ↦ rfl, fun _ ↦ ⟨rfl, rfl⟩⟩

theorem Move.settles (move : Move platform core core') : Settles core core' := by
  have hsame : ∀ {store : Store}, store.v1Cp3Epoch = core.store.v1Cp3Epoch →
      (core.store.Idle → store.Idle) → core.store.v1Cp3Epoch ≤ store.v1Cp3Epoch ∧
        (core.store.Idle ∨ core.store.v1Cp3Epoch < store.v1Cp3Epoch → store.Idle) := by
    intro store hepoch hidle
    exact ⟨hepoch.ge, fun h ↦ h.elim hidle fun hlt ↦ absurd hlt (by rw [hepoch]; exact lt_irrefl _)⟩
  cases move
  case startStored own handshake wire view worker same result =>
    exact .inl ⟨(.v1Cp3, own), by rw [worker]; rfl, same, rfl⟩
  case finishedStored own handshake wire app faults worker same result =>
    exact .inl ⟨(.v1Cp3FinishedC, own), by rw [worker]; rfl, same, rfl⟩
  case start submitted =>
    obtain ⟨-, -, payload, -, -, ⟨-, -, -, hwait, hkeys, hsecure⟩, rfl⟩ := submitV1Cp3_eq_ok_iff.mp submitted
    exact .inr ⟨Nat.le_succ _, fun _ ↦ ⟨hwait, hkeys, hsecure⟩⟩
  case finishedC submitted =>
    obtain ⟨payload, -, -, ⟨-, -, hwait⟩, rfl⟩ := submitV1Cp3FinishedC_eq_ok_iff.mp submitted
    exact .inr (hsame rfl fun h ↦ Bool.noConfusion (h.wait.symm.trans hwait))
  case ping submitted =>
    obtain ⟨-, -, -, ⟨hsecure, -⟩, rfl⟩ := submitV1Cp4_eq_ok_iff.mp submitted
    exact .inr (hsame rfl fun h ↦ Bool.noConfusion (h.appSecure.symm.trans hsecure))
  case pongCommitted committed =>
    obtain ⟨⟨hsecure, -⟩, rfl⟩ := commitV1Cp4_eq_ok_iff.mp committed
    exact .inr (hsame rfl fun h ↦ Bool.noConfusion (h.appSecure.symm.trans hsecure))
  case finishedCommitted committed =>
    exact .inr (hsame committed.eq.2.1 fun h ↦ Bool.noConfusion (h.keysPending.symm.trans committed.eq.1))
  case cp3Committed committed =>
    exact .inr (hsame committed.eq.2.1 fun h ↦ Bool.noConfusion (h.keysPending.symm.trans committed.eq.1))
  case handshakeTaken => exact .inr (hsame rfl fun h ↦ ⟨rfl, h.keysPending, h.appSecure⟩)
  all_goals first
    | exact .inr (hsame rfl fun h ↦ ⟨h.wait, h.keysPending, h.appSecure⟩)
    | exact .inr ⟨Nat.le_succ _, fun _ ↦ ⟨rfl, rfl, rfl⟩⟩

/-- A move that takes no job. -/
theorem Move.kept (move : Move platform core core')
    (htaken : core.worker = .idle → core'.worker = .idle) : Kept core core' := by
  have hjob : ∀ {next : Core}, (∀ job, next.worker.running = some job →
        core.worker.running = some job ∧ next.store.jobActive = core.store.jobActive) →
      (next.worker.holdsCp3 = true → core.worker.holdsCp3 = true) →
      next.store.jobPending = core.store.jobPending →
      next.store.pendingJobMode = core.store.pendingJobMode →
      next.store.pendingV1Cp3Epoch = core.store.pendingV1Cp3Epoch → Kept core next := by
    intro next hrunning hholds hpending hmode hepoch
    refine ⟨fun job h ↦ (hrunning job h).1, hholds, fun _ hnext halone ↦ ?_,
      fun hnext hother ↦ .inr ⟨hpending ▸ hnext, hmode ▸ hother, hepoch⟩⟩
    obtain ⟨job, hsome⟩ := Option.isSome_iff_exists.mp hnext
    rw [(hrunning job hsome).2, hpending]
    exact halone
  have hsame : ∀ {next : Core}, next.worker = core.worker → next.store.jobActive = core.store.jobActive →
      next.store.jobPending = core.store.jobPending →
      next.store.pendingJobMode = core.store.pendingJobMode →
      next.store.pendingV1Cp3Epoch = core.store.pendingV1Cp3Epoch → Kept core next := by
    intro next hworker hactive
    exact hjob (fun job h ↦ ⟨hworker ▸ h, hactive⟩) (fun h ↦ hworker ▸ h)
  have hended : ∀ {next : Core}, next.worker.running = none →
      (next.worker.holdsCp3 = true → core.worker.holdsCp3 = true) →
      next.store.jobPending = core.store.jobPending →
      next.store.pendingJobMode = core.store.pendingJobMode →
      next.store.pendingV1Cp3Epoch = core.store.pendingV1Cp3Epoch → Kept core next := by
    intro next hnone
    exact hjob fun job h ↦ absurd (hnone.symm.trans h) nofun
  have hidle : ∀ {next : Core}, next.worker = .idle →
      next.store.jobPending = core.store.jobPending →
      next.store.pendingJobMode = core.store.pendingJobMode →
      next.store.pendingV1Cp3Epoch = core.store.pendingV1Cp3Epoch → Kept core next := by
    intro next hworker
    exact hended (by rw [hworker]; rfl) (by rw [hworker]; exact fun h ↦ Bool.noConfusion h)
  have hsubmitted : ∀ {next : Core}, next.worker = core.worker → core.store.jobActive = false →
      (next.store.pendingJobMode ≠ .v1Cp2 → next.store.pendingV1Cp3Epoch = next.store.v1Cp3Epoch) →
      Kept core next := by
    intro next hworker hfree hepoch
    exact ⟨fun job h ↦ hworker ▸ h, fun h ↦ hworker ▸ h,
      fun _ _ halone ↦ Bool.noConfusion (hfree.symm.trans halone.1), fun _ hmode ↦ .inl (hepoch hmode)⟩
  cases move
  case take worker idle pending taken =>
    have hnone := htaken idle
    dsimp only at hnone
    rw [hnone] at taken
    cases taken
    rename_i hisCp2
    cases hisCp2
  case start submitted =>
    obtain ⟨-, -, payload, -, -, ⟨-, -, hactive, -⟩, rfl⟩ := submitV1Cp3_eq_ok_iff.mp submitted
    exact hsubmitted rfl hactive fun _ ↦ rfl
  case finishedC submitted =>
    obtain ⟨payload, -, -, ⟨-, hactive, -⟩, rfl⟩ := submitV1Cp3FinishedC_eq_ok_iff.mp submitted
    exact hsubmitted rfl hactive fun _ ↦ rfl
  case ping submitted =>
    obtain ⟨-, -, -, ⟨-, -, hactive, -⟩, rfl⟩ := submitV1Cp4_eq_ok_iff.mp submitted
    exact hsubmitted rfl hactive fun _ ↦ rfl
  case cp2 slot => exact hsubmitted rfl slot.2 fun hmode ↦ absurd rfl hmode
  case dropJob => exact ⟨fun _ h ↦ h, fun h ↦ h, fun _ _ h ↦ ⟨h.1, rfl⟩, fun h ↦ Bool.noConfusion h⟩
  case cp2Step worker ct before after =>
    obtain ⟨hnone, hholds⟩ := Worker.running_of_isCp2 after
    exact hended hnone (fun h ↦ Bool.noConfusion (hholds.symm.trans h)) rfl rfl rfl
  case jobFailed running _ =>
    exact hended rfl (fun _ ↦ by rw [Worker.holdsCp3, Worker.running_inJob running]; rfl) rfl rfl rfl
  case pingDead running =>
    exact hended rfl (fun _ ↦ by rw [Worker.holdsCp3, Worker.running_inJob running]; rfl) rfl rfl rfl
  case jobFinished mode own status status' wire wire' worker hmode result =>
    refine hended ?_ (fun _ ↦ ?_) rfl rfl rfl
    · cases mode <;> rfl
    · rw [worker]
      cases mode <;> first | rfl | exact absurd rfl hmode
  case pongCommitted worker _ committed =>
    obtain ⟨-, rfl⟩ := commitV1Cp4_eq_ok_iff.mp committed
    exact hidle rfl rfl rfl rfl
  case finishedCommitted committed =>
    obtain ⟨-, hpending, hmode, hepoch⟩ := committed.slot
    exact hidle rfl hpending hmode hepoch
  case cp3Committed committed =>
    obtain ⟨-, hpending, hmode, hepoch⟩ := committed.slot
    exact hidle rfl hpending hmode hepoch
  all_goals first
    | exact hsame rfl rfl rfl rfl rfl
    | exact hidle rfl rfl rfl rfl
    | exact hended rfl (fun _ ↦ by rw [‹core.worker = _›]; rfl) rfl rfl rfl
    | exact hjob (fun _ h ↦ ⟨by rw [‹core.worker = _›]; exact h, rfl⟩)
        (fun _ ↦ by rw [‹core.worker = _›]; rfl) rfl rfl rfl

/-- A move that takes no job keeps the invariant: a job stores its result only while it is not outdated. -/
theorem Dated.move (h : Dated core epoch) (move : Move platform core core')
    (htaken : core.worker = .idle → core'.worker = .idle) : Dated core' epoch := by
  obtain ⟨hrunning, hholds, hslot, hqueued⟩ := move.kept htaken
  have hfenced : ∀ {own : ℕ}, Fenced own core.store.v1Cp3Epoch core.store.Idle →
      (∀ job, core.worker.running = some job → SameU32 job.2 core.store.v1Cp3Epoch →
        Fenced own core.store.v1Cp3Epoch core'.store.Idle) →
      Fenced own core'.store.v1Cp3Epoch core'.store.Idle := by
    intro own hbefore hstored
    rcases move.settles with ⟨job, hjob, hsame, hepoch⟩ | ⟨hle, hidle⟩
    · rw [hepoch]
      exact hstored job hjob hsame
    · exact hbefore.later hle hidle
  refine ⟨move.flagged h.flagged, fun hnext ↦ ?_, fun mode own hnext ↦ h.carried mode own (hrunning _ hnext),
    fun hnext ↦ ?_, fun hpending hmode ↦ ?_⟩
  · obtain ⟨job, hsome⟩ := Option.isSome_iff_exists.mp hnext
    have hbefore : core.worker.running.isSome = true := by rw [hrunning job hsome]; rfl
    exact hslot hbefore hnext (h.alone hbefore)
  · have hbefore := h.taken (hholds hnext)
    refine hfenced hbefore fun job hjob hsame ↦ hbefore.committed ?_
    exact h.carried job.1 job.2 hjob ▸ hsame
  · rcases hqueued hpending hmode with hcurrent | ⟨hbefore, hother, hsame⟩
    · rw [hcurrent]
      exact .submitted
    · rw [hsame]
      refine hfenced (h.queued hbefore hother) fun job hjob _ ↦ ?_
      have halone := (h.alone (by rw [hjob]; rfl)).2
      exact Bool.noConfusion (halone.symm.trans hbefore)

/-- While the worker holds an outdated job, nothing is retained, and so it is after the job's next step. -/
theorem Dated.session_eq_zero (h : Dated core epoch) (hholds : core.worker.holdsCp3 = true)
    (hold : Outdated epoch core.store.v1Cp3Epoch) (move : Move platform core core') :
    core.store.session = .zero ∧ core'.store.session = .zero := by
  have hidle := (h.taken hholds).2 hold
  refine ⟨hidle.session h.flagged, ?_⟩
  rcases move.settles with ⟨job, hjob, hsame, -⟩ | ⟨-, hkeep⟩
  · exact absurd (h.carried job.1 job.2 hjob ▸ hsame) hold.not_sameU32
  · exact (hkeep (.inl hidle)).session (move.flagged h.flagged)

end Moves

/-! ## Steps -/

section Steps

variable {platform : Platform} {state : State} {action : Action} {view : WorkerView}

theorem commitV1Cp3_workerEpoch :
    (state.commitV1Cp3 platform view).2.workerEpoch = state.workerEpoch := by
  unfold State.commitV1Cp3
  dsimp only
  split
  · rfl
  · split <;> rfl

/-- Only the taking of a job changes the epoch of the job in the worker. -/
theorem workerStep_workerEpoch (hbusy : state.worker ≠ .idle) :
    (state.workerStep platform view).2.workerEpoch = state.workerEpoch := by
  have hsettle : ∀ (state : State) start status conn generation sent,
      (state.settleCp3 platform start status conn generation sent view).workerEpoch = state.workerEpoch := by
    intro state start status conn generation sent
    have hcommit := @commitV1Cp3_workerEpoch platform state view
    unfold State.settleCp3
    dsimp only
    split_ifs <;> first | rfl | exact hcommit
  unfold State.workerStep
  cases hworker : state.worker
  case idle => exact absurd hworker hbusy
  case cp3Callback start status wire =>
    dsimp only
    unfold State.callbackCp3
    dsimp only
    repeat' split
    all_goals first | rfl | exact hsettle _ _ _ _ _ _
  case cp3Settle => exact hsettle _ _ _ _ _ _
  case startResult epoch =>
    unfold State.storeStart
    dsimp only
    repeat' split
    all_goals rfl
  case finishedTake epoch =>
    unfold State.takeHandshake
    dsimp only
    split <;> rfl
  case finishedStore epoch handshake =>
    unfold State.storeFinished
    dsimp only
    repeat' split
    all_goals rfl
  case cp4Live epoch =>
    unfold State.pqV1Cp4JobLive
    dsimp only
    split_ifs <;> rfl
  case cp4Recheck epoch snapshot challenge =>
    unfold State.pqV1Cp4JobLive
    dsimp only
    split_ifs <;> rfl
  case cp4Snapshot epoch =>
    unfold State.snapshotCp4
    dsimp only
    repeat' split
    all_goals rfl
  case cp4Encrypt epoch snapshot challenge =>
    unfold State.encryptCp4
    dsimp only
    split <;> rfl
  case cp4Ready epoch wire =>
    unfold State.readyCp4
    dsimp only
    split <;> rfl
  case cp4Callback status wire =>
    unfold State.callbackCp4
    dsimp only
    split_ifs <;> rfl
  case cp4Settle conn generation sent =>
    unfold State.settleCp4 State.drain
    dsimp only
    repeat' split
    all_goals rfl
  case cp4Send conn generation live wire =>
    dsimp only
    split <;> rfl
  all_goals rfl

/-- A step outside the worker leaves the worker alone. -/
theorem step_worker (hother : ∀ view, action ≠ .worker view) :
    ((firmware platform).step state action).2.worker = state.worker ∧
      ((firmware platform).step state action).2.workerEpoch = state.workerEpoch := by
  have habort : ∀ (state : State) conn now, (state.serviceAbort platform conn now).worker = state.worker ∧
      (state.serviceAbort platform conn now).workerEpoch = state.workerEpoch := by
    intro state conn now
    unfold State.serviceAbort
    split <;> exact ⟨rfl, rfl⟩
  have hccc : ∀ enabled now, (state.cccConfigChanged platform enabled now).worker = state.worker ∧
      (state.cccConfigChanged platform enabled now).workerEpoch = state.workerEpoch := by
    intro enabled now
    unfold State.cccConfigChanged
    dsimp only
    split
    · exact ⟨rfl, rfl⟩
    · exact habort _ _ _
  have hcontrol : ∀ conn data view,
      (state.handleV1Control platform conn data view).2.worker = state.worker ∧
        (state.handleV1Control platform conn data view).2.workerEpoch = state.workerEpoch := by
    intro conn data view
    unfold State.handleV1Control State.handleV1Cp4 State.handleV1Cp3Start State.handleV1Cp3FinishedC
      State.handleV1Cp2Start
    dsimp only [answered]
    repeat' split
    all_goals exact ⟨rfl, rfl⟩
  cases action
  case worker view => exact absurd rfl (hother view)
  case writeCiphertext =>
    simp only [firmware, answered]
    unfold State.writeCiphertext
    repeat' split
    all_goals first | exact ⟨rfl, rfl⟩ | (dsimp only; split_ifs <;> exact ⟨rfl, rfl⟩)
  case writeControl conn data offset view =>
    simp only [firmware]
    unfold State.writeControl State.handleService State.refuseControl
    dsimp only [answered]
    repeat' split
    all_goals first | exact ⟨rfl, rfl⟩ | exact hcontrol _ _ _ | exact habort _ _ _
  case writeCcc conn enabled view =>
    simp only [firmware, answered]
    unfold State.writeCcc
    split
    · exact ⟨rfl, rfl⟩
    · exact hccc _ _
  case cccConfigChanged enabled now => exact hccc enabled now
  case serviceAbort conn now => exact habort state (some conn) now
  case bondChanged now =>
    simp only [firmware, State.onService]
    split <;> exact ⟨rfl, rfl⟩
  case expire clock₁ clock₂ clock₃ =>
    simp only [firmware, State.onService]
    split <;> exact ⟨rfl, rfl⟩
  case securityChanged conn secured =>
    simp only [firmware, State.v1Cp2SecurityChanged]
    split <;> exact ⟨rfl, rfl⟩
  case timeout view =>
    simp only [firmware, State.v1Cp3Timeout]
    split <;> exact ⟨rfl, rfl⟩
  case disconnected conn now =>
    simp only [firmware, State.disconnected]
    split <;> exact ⟨rfl, rfl⟩
  all_goals exact ⟨rfl, rfl⟩

theorem Dated.takeJob (platform : Platform) (h : Dated state.core state.workerEpoch) (hidle : state.worker = .idle) :
    Dated state.takeJob.core state.takeJob.workerEpoch := by
  by_cases hnone : state.store.jobPending = false ∨ state.store.keypairReady = false
  · have hnext : state.takeJob = { state with store := { state.store with jobPending := false } } :=
      if_pos hnone
    have hepoch : state.takeJob.workerEpoch = state.workerEpoch := by rw [hnext]
    rw [hepoch]
    exact h.move (@move_takeJob platform state hidle) fun _ ↦ by rw [hnext]; exact hidle
  have hnext : state.takeJob = { state with
      store := state.store.takeJob
      worker := State.takenWorker state.store
      workerGeneration := state.jobGeneration
      workerEpoch := state.store.pendingV1Cp3Epoch } := if_neg hnone
  rw [not_or, Bool.not_eq_false] at hnone
  have hqueued : state.store.pendingJobMode ≠ .v1Cp2 → Fenced state.store.pendingV1Cp3Epoch
      state.store.v1Cp3Epoch state.store.takeJob.withoutCp2.Idle := by
    intro hmode
    obtain ⟨hle, hidle⟩ := h.queued hnone.1 hmode
    exact ⟨hle, fun hold ↦ ⟨(hidle hold).wait, (hidle hold).keysPending, (hidle hold).appSecure⟩⟩
  have htaken := taken_takenWorker state.store
  rw [hnext]
  refine ⟨⟨h.flagged.handshake, h.flagged.application, h.flagged.cp4⟩, fun _ ↦ ⟨rfl, rfl⟩,
    fun mode own hjob ↦ ?_, fun hholds ↦ ?_, nofun⟩
  · change (State.takenWorker state.store).running = some (mode, own) at hjob
    generalize State.takenWorker state.store = worker at htaken hjob
    cases htaken
    case cp2 _ hcp2 => exact absurd ((Worker.running_of_isCp2 hcp2).1.symm.trans hjob) nofun
    all_goals cases hjob
    all_goals rfl
  · change (State.takenWorker state.store).holdsCp3 = true at hholds
    generalize State.takenWorker state.store = worker at htaken hholds
    have hmode : state.store.pendingJobMode = .v1Cp2 → False := by
      intro hmode
      have hcore : state.store.withoutCp2.pendingJobMode = .v1Cp2 := hmode
      cases htaken
      case cp2 _ hcp2 => exact Bool.noConfusion ((Worker.running_of_isCp2 hcp2).2.symm.trans hholds)
      case stale hother _ => exact hother hcore
      all_goals exact JobMode.noConfusion (hcore.symm.trans ‹_›)
    exact hqueued hmode

/-- **Every step of the firmware keeps the invariant.** -/
theorem Dated.step (h : Dated state.core state.workerEpoch) :
    Dated ((firmware platform).step state action).2.core
      ((firmware platform).step state action).2.workerEpoch := by
  have hmove := move_step platform state action
  by_cases hworker : ∃ view, action = .worker view
  · obtain ⟨view, rfl⟩ := hworker
    by_cases hidle : state.worker = .idle
    · have hnext : ((firmware platform).step state (.worker view)).2 = state.takeJob := by
        simp only [firmware, State.workerStep, hidle]
      rw [hnext]
      exact h.takeJob platform hidle
    · have hepoch : ((firmware platform).step state (.worker view)).2.workerEpoch = state.workerEpoch :=
        workerStep_workerEpoch hidle
      rw [hepoch]
      exact h.move hmove fun hbefore ↦ absurd hbefore hidle
  · obtain ⟨hsame, hepoch⟩ := @step_worker platform state action fun view hview ↦ hworker ⟨view, hview⟩
    rw [hepoch]
    exact h.move hmove fun hbefore ↦ hsame.trans hbefore

theorem run_dated (actions : List Action) :
    Dated ((firmware platform).run State.boot actions).core
      ((firmware platform).run State.boot actions).workerEpoch :=
  (firmware platform).run_invariant (P := fun state : State ↦ Dated state.core state.workerEpoch)
    (fun _ _ h ↦ h.step) dated_boot actions

/-- The epoch never goes back. -/
theorem epoch_run (actions : List Action) :
    state.store.v1Cp3Epoch ≤ ((firmware platform).run state actions).store.v1Cp3Epoch := by
  refine (firmware platform).run_invariant
    (P := fun next : State ↦ state.store.v1Cp3Epoch ≤ next.store.v1Cp3Epoch) (fun next action h ↦ ?_) le_rfl
    actions
  refine h.trans ?_
  rcases (move_step platform next action).settles with ⟨-, -, -, hepoch⟩ | ⟨hle, -⟩
  · exact hepoch.ge
  · exact hle

/-! ## What an older job can still do -/

/-- The CP3 or CP4 job that the worker holds was submitted before a reset that started at `before`, and its
epoch has not come round again. -/
def State.Older (state before : State) : Prop :=
  state.worker.holdsCp3 = true → state.workerEpoch ≤ before.store.v1Cp3Epoch ∧
    state.store.v1Cp3Epoch < state.workerEpoch + 2 ^ 32

/-- What a job from before a reset does after it: it leaves what is retained as it is or clears it. -/
structure Spares (state next : State) : Prop where
  session : next.store.session = state.store.session ∨ next.store.session = .zero

/-- Taking a job and the steps of a CP2 job install nothing. -/
theorem workerStep_spares (hother : state.worker.holdsCp3 = false) :
    (state.workerStep platform view).2.store.session = state.store.session := by
  unfold State.workerStep
  cases hworker : state.worker <;> rw [hworker] at hother
  all_goals try exact Bool.noConfusion hother
  case idle =>
    dsimp only
    unfold State.takeJob
    split <;> rfl
  case jobDone mode epoch status wire =>
    dsimp only
    unfold State.finishJob Store.finishJob
    dsimp only
    split <;> rfl
  all_goals rfl

/-- **After a reset**, a job from before it installs nothing. -/
theorem older_job_spares (past later : List Action) (reset : Action)
    (hmoved : ((firmware platform).run State.boot past).store.v1Cp3Epoch <
      ((firmware platform).step ((firmware platform).run State.boot past) reset).2.store.v1Cp3Epoch)
    (hstate : state = (firmware platform).run State.boot (past ++ reset :: later))
    (holder : state.Older ((firmware platform).run State.boot past)) :
    Spares state (state.workerStep platform view).2 := by
  by_cases hholds : state.worker.holdsCp3 = true
  · obtain ⟨hsubmitted, hturn⟩ := holder hholds
    have hdated : Dated state.core state.workerEpoch := hstate ▸ run_dated (past ++ reset :: later)
    have hlater : ((firmware platform).step ((firmware platform).run State.boot past) reset).2.store.v1Cp3Epoch ≤
        state.store.v1Cp3Epoch := by
      rw [hstate, Machine.run_append, Machine.run_cons]
      exact epoch_run later
    have hold : Outdated state.workerEpoch state.store.v1Cp3Epoch :=
      ⟨(hsubmitted.trans_lt hmoved).trans_le hlater, hturn⟩
    exact ⟨.inr (hdated.session_eq_zero hholds hold (move_workerStep platform state view)).2⟩
  · exact ⟨.inl (workerStep_spares (by simpa using hholds))⟩

end Steps

end PqBleHandshake.FirmwareV1
