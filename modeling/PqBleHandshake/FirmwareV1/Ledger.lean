import PqBleHandshake.FirmwareV1.Isolation
import PqBleHandshake.Resumption.Channel

/-!
# The ledger of the v1.0 worker

One job at a time decrypts a PING, encrypts its PONG, delivers it and commits the counters; a reset may cut in
between any two of these steps.  The invariant has three layers: the job slot, the flags of the store, and the
last installation of the ledger, whose progress is told by where the worker stands.
-/

namespace PqBleHandshake.FirmwareV1

open Foundation

variable {platform : Platform} {core core' : Core}

/-! ## The job slot -/

namespace Worker

/-- A successful FINISHED_P is committed in the section that queues it, so that no later section commits one. -/
def Tagged : Worker → Prop
  | .cp3Send start status _ _ _ _ | .cp3Settle start status _ _ _ => start = true ∨ status ≠ .success
  | _ => True

/-- The worker computes on a handshake. -/
def handshaking : Worker → Bool
  | .startResult _ | .finishedTake _ | .finishedStore _ _ => true
  | _ => false

/-- A PING was accepted, and the job that answers it has not failed. -/
def answering : Worker → Bool
  | .cp4Recheck _ _ _ | .cp4Encrypt _ _ _ | .cp4Ready _ _ | .cp4Check _ _ _ | .cp4Send _ _ _ _ => true
  | .jobDone .v1Cp4C2p _ .success _ | .cp4Callback .success _ | .cp4Settle _ _ true => true
  | _ => false

theorem of_isCp2 {worker : Worker} (h : worker.isCp2 = true) :
    worker.inJob = false ∧ worker.Tagged ∧ worker.handshaking = false ∧ worker.answering = false := by
  cases worker <;> try exact Bool.noConfusion h
  case jobDone mode _ _ _ =>
    cases mode <;> first | exact ⟨rfl, trivial, rfl, rfl⟩ | exact Bool.noConfusion h
  all_goals exact ⟨rfl, trivial, rfl, rfl⟩

theorem answering_failed (mode : JobMode) (epoch : ℕ) {status : JobStatus} (wire : Bytes) (h : status ≠ .success) :
    (Worker.jobDone mode epoch status wire).answering = false := by
  cases mode <;> cases status <;> first | rfl | exact absurd rfl h

end Worker

/-- What holds about the queued job and the one in flight. -/
structure Slotted (core : Core) : Prop where
  job : core.worker.inJob = true → core.workerActive = true ∧ core.store.jobPending = false
  queued : core.store.jobPending = true → core.store.pendingJobMode ≠ .v1Cp2 → core.workerActive = true
  tagged : core.worker.Tagged

theorem slotted_boot : Slotted State.boot.core := ⟨nofun, nofun, trivial⟩

theorem Committed.jobPending {store store' : Store} (h : Committed platform store store') :
    store'.jobPending = store.jobPending ∧ store'.pendingJobMode = store.pendingJobMode := by
  obtain ⟨committed, hcommitted, rfl⟩ := h
  obtain ⟨-, rfl⟩ := commitV1Cp3_eq_ok_iff.mp hcommitted
  split <;> exact ⟨rfl, rfl⟩

/-- The worker that takes a job is in it. -/
theorem Taken.slotted {store : Store} {worker : Worker} (h : Taken store worker) :
    (worker.inJob = true → store.pendingJobMode ≠ .v1Cp2) ∧ worker.Tagged ∧ worker.answering = false := by
  cases h with
  | start mode => exact ⟨fun _ ↦ by simp [mode], trivial, rfl⟩
  | finished mode => exact ⟨fun _ ↦ by simp [mode], trivial, rfl⟩
  | ping mode => exact ⟨fun _ ↦ by simp [mode], trivial, rfl⟩
  | stale status mode failed => exact ⟨fun _ ↦ mode, trivial, Worker.answering_failed _ _ _ failed⟩
  | cp2 worker mode isCp2 =>
    obtain ⟨hjob, htagged, -, hanswering⟩ := Worker.of_isCp2 isCp2
    exact ⟨fun h ↦ Bool.noConfusion (hjob.symm.trans h), htagged, hanswering⟩

/-- A job ends in its callback. -/
theorem Worker.callback_inJob {mode : JobMode} (hmode : mode ≠ .v1Cp2) (status : JobStatus) (wire : Bytes) :
    (mode.callback status wire).inJob = true ∧ (mode.callback status wire).Tagged := by
  cases mode <;> first | exact ⟨rfl, trivial⟩ | exact absurd rfl hmode

theorem Move.slotted (move : Move platform core core') (h : Slotted core) : Slotted core' := by
  -- A submission finds no job in flight; the end of a callback finds none queued.
  have hsubmitted (hfree : core.workerActive = false) : core.worker.inJob = false := by
    by_contra hjob
    exact Bool.noConfusion (hfree.symm.trans (h.job (Bool.eq_true_of_not_eq_false hjob)).1)
  have hclear (hjob : core.worker.inJob = true) : core.store.jobPending = false := (h.job hjob).2
  cases move
  case start free submitted =>
    obtain ⟨-, -, payload, -, -, -, rfl⟩ := submitV1Cp3_eq_ok_iff.mp submitted
    exact ⟨fun hjob ↦ Bool.noConfusion ((hsubmitted free).symm.trans hjob), fun _ _ ↦ rfl, h.tagged⟩
  case finishedC free submitted =>
    obtain ⟨payload, -, -, -, rfl⟩ := submitV1Cp3FinishedC_eq_ok_iff.mp submitted
    exact ⟨fun hjob ↦ Bool.noConfusion ((hsubmitted free).symm.trans hjob), fun _ _ ↦ rfl, h.tagged⟩
  case ping free _ submitted =>
    obtain ⟨-, -, -, -, rfl⟩ := submitV1Cp4_eq_ok_iff.mp submitted
    exact ⟨fun hjob ↦ Bool.noConfusion ((hsubmitted free).symm.trans hjob), fun _ _ ↦ rfl, h.tagged⟩
  case cp2 free _ =>
    exact ⟨fun hjob ↦ Bool.noConfusion ((hsubmitted free).symm.trans hjob), fun _ hmode ↦ absurd rfl hmode, h.tagged⟩
  case take pending taken =>
    obtain ⟨hmode, htagged, -⟩ := taken.slotted
    exact ⟨fun hjob ↦ ⟨h.queued pending (hmode hjob), rfl⟩, nofun, htagged⟩
  case dropJob => exact ⟨fun hjob ↦ ⟨(h.job hjob).1, rfl⟩, nofun, h.tagged⟩
  case cp2Step after =>
    obtain ⟨hjob, htagged, -⟩ := Worker.of_isCp2 after
    exact ⟨fun hnow ↦ Bool.noConfusion (hjob.symm.trans hnow), h.queued, htagged⟩
  case jobFailed running failed => exact ⟨fun _ ↦ h.job (Worker.running_inJob running), h.queued, trivial⟩
  case pingDead running => exact ⟨fun _ ↦ h.job (Worker.running_inJob running), h.queued, trivial⟩
  case jobFinished mode epoch status status' wire wire' worker hmode result =>
    have hjob : core.worker.inJob = true := by
      rw [worker]
      cases mode <;> first | rfl | exact absurd rfl hmode
    exact ⟨fun _ ↦ h.job hjob, h.queued, (Worker.callback_inJob hmode status' wire').2⟩
  case readyArmed worker _ =>
    have hpending := hclear (by rw [worker]; rfl)
    exact ⟨nofun, fun hnow ↦ Bool.noConfusion (hpending.symm.trans hnow), .inl rfl⟩
  case cp3Released worker released =>
    have hpending := hclear (by rw [worker]; rfl)
    exact ⟨nofun, fun hnow ↦ Bool.noConfusion (hpending.symm.trans hnow), released⟩
  case finishedCommitted worker _ committed =>
    have hpending := hclear (by rw [worker]; rfl)
    exact ⟨nofun, fun hnow ↦ Bool.noConfusion ((committed.jobPending.1.trans hpending).symm.trans hnow), trivial⟩
  case finishedFailed worker =>
    have hpending := hclear (by rw [worker]; rfl)
    exact ⟨nofun, fun hnow ↦ Bool.noConfusion (hpending.symm.trans hnow), trivial⟩
  case finishedStale worker _ =>
    have hpending := hclear (by rw [worker]; rfl)
    exact ⟨nofun, fun hnow ↦ Bool.noConfusion (hpending.symm.trans hnow), trivial⟩
  case pongReleased worker _ =>
    have hpending := hclear (by rw [worker]; rfl)
    exact ⟨nofun, fun hnow ↦ Bool.noConfusion (hpending.symm.trans hnow), trivial⟩
  case pongDropped worker =>
    have hpending := hclear (by rw [worker]; rfl)
    exact ⟨nofun, fun hnow ↦ Bool.noConfusion (hpending.symm.trans hnow), trivial⟩
  case cp3Sent worker =>
    have htagged := h.tagged
    rw [worker] at htagged
    exact ⟨nofun, h.queued, htagged⟩
  case cp3Committed committed =>
    refine ⟨nofun, fun hnow hmode ↦ ?_, trivial⟩
    obtain ⟨hpending, hother⟩ := committed.jobPending
    exact h.queued (hpending ▸ hnow) (hother ▸ hmode)
  case pongCommitted committed =>
    obtain ⟨-, rfl⟩ := commitV1Cp4_eq_ok_iff.mp committed
    exact ⟨nofun, h.queued, trivial⟩
  case startStored worker _ _ => exact ⟨fun _ ↦ h.job (by rw [worker]; rfl), h.queued, trivial⟩
  case handshakeTaken worker => exact ⟨fun _ ↦ h.job (by rw [worker]; rfl), h.queued, trivial⟩
  case finishedStored worker _ _ => exact ⟨fun _ ↦ h.job (by rw [worker]; rfl), h.queued, trivial⟩
  case pingLive worker => exact ⟨fun _ ↦ h.job (by rw [worker]; rfl), h.queued, trivial⟩
  case pingOpened worker _ _ => exact ⟨fun _ ↦ h.job (by rw [worker]; rfl), h.queued, trivial⟩
  case pingRechecked worker => exact ⟨fun _ ↦ h.job (by rw [worker]; rfl), h.queued, trivial⟩
  case pongSealed worker _ => exact ⟨fun _ ↦ h.job (by rw [worker]; rfl), h.queued, trivial⟩
  case pongReady worker _ => exact ⟨fun _ ↦ h.job (by rw [worker]; rfl), h.queued, trivial⟩
  all_goals first
    | exact ⟨h.job, h.queued, h.tagged⟩
    | exact ⟨nofun, h.queued, trivial⟩

/-! ## The flags of the store -/

/-- No application keys are pending or in use. -/
def Store.Unkeyed (store : Store) : Prop := store.v1Cp3AppSecure = false ∧ store.v1Cp3KeysPending = false

/-- What holds about the flags, the counters and the phases of the worker. -/
structure Phased (core : Core) : Prop where
  waiting : core.store.v1Cp3WaitFinished = true → core.store.Unkeyed
  pendingKeys : core.store.v1Cp3KeysPending = true →
    core.store.v1Cp3AppSecure = false ∧ core.worker.answering = false
  queued : core.store.jobPending = true →
    core.store.pendingJobMode = .v1Cp3 ∨ core.store.pendingJobMode = .v1Cp3FinishedC → core.store.Unkeyed
  running : core.worker.handshaking = true → core.store.Unkeyed
  finishing : ∀ epoch handshake, core.worker = .finishedStore epoch handshake →
    core.store.v1Cp3WaitFinished = false
  inactive : core.store.v1Cp3AppSecure = false → core.store.v1Cp4TxP2c = 0
  counters : core.store.v1Cp4RxC2p = core.store.v1Cp4TxP2c

theorem phased_boot : Phased State.boot.core := ⟨nofun, nofun, nofun, nofun, nofun, fun _ ↦ rfl, rfl⟩

/-- The worker moves on within the same phase of the store. -/
theorem Phased.goTo (h : Phased core) {core' : Core} (hstore : core'.store = core.store)
    (hhandshaking : core'.worker.handshaking = false)
    (hanswering : core'.worker.answering = true → core.worker.answering = true) : Phased core' where
  waiting hwait := by rw [hstore] at hwait ⊢; exact h.waiting hwait
  pendingKeys hpending := by
    rw [hstore] at hpending ⊢
    obtain ⟨hsecure, hquiet⟩ := h.pendingKeys hpending
    exact ⟨hsecure, Bool.eq_false_of_not_eq_true fun hnow ↦ Bool.noConfusion (hquiet.symm.trans (hanswering hnow))⟩
  queued := by rw [hstore]; exact h.queued
  running hnow := Bool.noConfusion (hhandshaking.symm.trans hnow)
  finishing epoch handshake hworker := by rw [hworker] at hhandshaking; cases hhandshaking
  inactive := by rw [hstore]; exact h.inactive
  counters := by rw [hstore]; exact h.counters

/-- A reset clears every flag. -/
theorem Phased.reset {core' : Core} (hstore : core'.store = core.store.resetV1Cp3) : Phased core' := by
  constructor <;> rw [hstore]
  · exact nofun
  · exact nofun
  · exact fun _ _ ↦ ⟨rfl, rfl⟩
  · exact fun _ ↦ ⟨rfl, rfl⟩
  · exact fun _ _ _ ↦ rfl
  · exact fun _ ↦ rfl
  · rfl

/-- A commit finds no job queued for a handshake. -/
theorem Phased.committed (h : Phased core) {core' : Core} (hcommitted : Committed platform core.store core'.store)
    (hqueued : core.store.jobPending = false) (hworker : core'.worker = .idle) : Phased core' := by
  obtain ⟨committed, hcommit, hstore⟩ := hcommitted
  obtain ⟨⟨hpending, -⟩, rfl⟩ := commitV1Cp3_eq_ok_iff.mp hcommit
  have hwaiting : core.store.v1Cp3WaitFinished = false :=
    Bool.eq_false_of_not_eq_true fun hwait ↦ Bool.noConfusion ((h.waiting hwait).2.symm.trans hpending)
  have hidle (epoch : ℕ) (handshake : V1Handshake) : core'.worker ≠ .finishedStore epoch handshake := by
    rw [hworker]
    exact nofun
  have hquiet : core'.worker.handshaking = false := by rw [hworker]; rfl
  by_cases hversion : platform.version = Resumption.pqResumeV11
  · rw [if_pos hversion] at hstore
    exact {
      waiting := by rw [hstore]; exact fun _ ↦ ⟨rfl, rfl⟩
      pendingKeys := by rw [hstore]; exact nofun
      queued := by rw [hstore]; exact fun _ _ ↦ ⟨rfl, rfl⟩
      running := fun hnow ↦ Bool.noConfusion (hquiet.symm.trans hnow)
      finishing := fun epoch handshake hnow ↦ absurd hnow (hidle epoch handshake)
      inactive := by rw [hstore]; exact fun _ ↦ rfl
      counters := by rw [hstore]; rfl }
  · rw [if_neg hversion] at hstore
    exact {
      waiting := by rw [hstore]; exact fun hwait ↦ Bool.noConfusion (hwaiting.symm.trans hwait)
      pendingKeys := by rw [hstore]; exact nofun
      queued := by rw [hstore]; exact fun hnow ↦ Bool.noConfusion (hqueued.symm.trans hnow)
      running := fun hnow ↦ Bool.noConfusion (hquiet.symm.trans hnow)
      finishing := fun epoch handshake hnow ↦ absurd hnow (hidle epoch handshake)
      inactive := by rw [hstore]; exact nofun
      counters := by rw [hstore] }

/-- The worker takes a job; one of a handshake finds no keys. -/
theorem Phased.take (h : Phased core) {worker : Worker} (hpending : core.store.jobPending = true)
    (taken : Taken core.store worker) : Phased { core with store := core.store.takeJob, worker } where
  waiting := h.waiting
  pendingKeys hkeys := ⟨(h.pendingKeys hkeys).1, taken.slotted.2.2⟩
  queued := nofun
  running hhandshaking := by
    have hunkeyed := h.queued hpending
    cases taken with
    | start mode => exact hunkeyed (.inl mode)
    | finished mode => exact hunkeyed (.inr mode)
    | ping mode => cases hhandshaking
    | stale status mode failed => cases hhandshaking
    | cp2 worker mode isCp2 => exact Bool.noConfusion ((Worker.of_isCp2 isCp2).2.2.1.symm.trans hhandshaking)
  finishing epoch handshake hworker := by
    have hworker : worker = .finishedStore epoch handshake := hworker
    subst hworker
    cases taken with
    | cp2 worker mode isCp2 => cases isCp2
  inactive := h.inactive
  counters := h.counters

/-- The keys of a FINISHED_C are pending; no other job is queued. -/
theorem Phased.stored (h : Phased core) (hslot : Slotted core) {epoch : ℕ} {handshake : V1Handshake} {wire : Bytes}
    {ledger : List Installation} (app : V1Application) (hworker : core.worker = .finishedStore epoch handshake) :
    Phased { core with
      store := core.store.storeApplication app, worker := .jobDone .v1Cp3FinishedC epoch .success wire, ledger } where
  waiting hnow := Bool.noConfusion ((h.finishing _ _ hworker).symm.trans hnow)
  pendingKeys _ := ⟨(h.running (by rw [hworker]; rfl)).1, rfl⟩
  queued hnow := Bool.noConfusion ((hslot.job (by rw [hworker]; rfl)).2.symm.trans hnow)
  running := nofun
  finishing := nofun
  inactive := h.inactive
  counters := h.counters

/-- A job that ends goes to its callback, with its result or a failure. -/
theorem Phased.jobFinished (h : Phased core) {mode : JobMode} {epoch : ℕ} {status status' : JobStatus}
    {wire wire' : Bytes} (hworker : core.worker = .jobDone mode epoch status wire) (hmode : mode ≠ .v1Cp2)
    (hresult : status' = status ∨ status' ≠ .success) :
    Phased { core with
      store := { core.store with
        ciphertextJob := [], v1Cp3SecJob := [], v1Cp3StartJob := [], v1Cp3FinishedJob := []
        v1Cp4WireJob := [], jobActive := false }
      worker := mode.callback status' wire' } where
  waiting := h.waiting
  pendingKeys hpending := by
    obtain ⟨hsecure, hquiet⟩ := h.pendingKeys hpending
    rw [hworker] at hquiet
    refine ⟨hsecure, ?_⟩
    rcases hresult with rfl | hfailed
    · cases mode <;> cases status' <;> first | rfl | exact absurd rfl hmode | exact hquiet
    · cases mode <;> cases status' <;> first | rfl | exact absurd rfl hfailed
  queued := h.queued
  running hnow := by cases mode <;> cases hnow
  finishing own handshake hnow := by cases mode <;> cases hnow
  inactive := h.inactive
  counters := h.counters

/-- **Every move keeps the flags of the store in their phases.** -/
theorem Move.phased (move : Move platform core core') (hslot : Slotted core) (h : Phased core) : Phased core' := by
  have hsubmitted (hfree : core.workerActive = false) : core.worker.inJob = false := by
    by_contra hjob
    exact Bool.noConfusion (hfree.symm.trans (hslot.job (Bool.eq_true_of_not_eq_false hjob)).1)
  have hquiet {worker : Worker} (hworker : core.worker = worker) (hhandshaking : worker.handshaking = true)
      (hpending : core.store.v1Cp3KeysPending = true) : False :=
    Bool.noConfusion ((h.running (hworker ▸ hhandshaking)).2.symm.trans hpending)
  cases move
  case keep => exact h
  case start free submitted =>
    obtain ⟨-, -, payload, -, -, ⟨-, -, -, -, hkeys, hsecure⟩, rfl⟩ := submitV1Cp3_eq_ok_iff.mp submitted
    exact ⟨h.waiting, h.pendingKeys, fun _ _ ↦ ⟨hsecure, hkeys⟩, h.running, h.finishing, h.inactive, h.counters⟩
  case finishedC submitted =>
    obtain ⟨payload, -, -, ⟨-, -, hwait⟩, rfl⟩ := submitV1Cp3FinishedC_eq_ok_iff.mp submitted
    exact ⟨h.waiting, h.pendingKeys, fun _ _ ↦ h.waiting hwait, h.running, h.finishing, h.inactive, h.counters⟩
  case ping submitted =>
    obtain ⟨-, -, -, -, rfl⟩ := submitV1Cp4_eq_ok_iff.mp submitted
    exact ⟨h.waiting, h.pendingKeys, fun _ hmode ↦ (by cases hmode <;> contradiction), h.running, h.finishing,
      h.inactive, h.counters⟩
  case cp2 =>
    exact ⟨h.waiting, h.pendingKeys, fun _ hmode ↦ (by cases hmode <;> contradiction), h.running, h.finishing,
      h.inactive, h.counters⟩
  case take pending taken => exact h.take pending taken
  case dropJob => exact ⟨h.waiting, h.pendingKeys, nofun, h.running, h.finishing, h.inactive, h.counters⟩
  case cp2Step worker ct before after =>
    obtain ⟨-, -, hhandshaking, hanswering⟩ := Worker.of_isCp2 after
    exact ⟨h.waiting, fun hpending ↦ ⟨(h.pendingKeys hpending).1, hanswering⟩, h.queued,
      fun hnow ↦ Bool.noConfusion (hhandshaking.symm.trans hnow),
      fun epoch handshake hworker ↦ (by subst hworker; cases after), h.inactive, h.counters⟩
  case cp2Release =>
    exact ⟨h.waiting, fun hpending ↦ ⟨(h.pendingKeys hpending).1, rfl⟩, h.queued, nofun, nofun, h.inactive, h.counters⟩
  case jobFailed mode epoch status running failed =>
    exact h.goTo rfl rfl fun hnow ↦ Bool.noConfusion ((Worker.answering_failed mode epoch [] failed).symm.trans hnow)
  case startStored epoch handshake wire view worker same result =>
    exact ⟨fun _ ↦ h.running (by rw [worker]; rfl), fun hpending ↦ (hquiet worker rfl hpending).elim,
      h.queued, nofun, nofun, h.inactive, h.counters⟩
  case handshakeTaken epoch worker =>
    exact ⟨nofun, fun hpending ↦ (hquiet worker rfl hpending).elim, h.queued,
      fun _ ↦ h.running (by rw [worker]; rfl), fun _ _ _ ↦ rfl, h.inactive, h.counters⟩
  case finishedStored app _ worker _ _ => exact h.stored hslot app worker
  case pingOpened epoch challenge view worker secure opened =>
    exact ⟨h.waiting, fun hpending ↦ Bool.noConfusion ((h.pendingKeys hpending).1.symm.trans secure), h.queued, nofun,
      nofun, h.inactive, h.counters⟩
  case pongReady epoch wire worker secure =>
    exact ⟨h.waiting, fun hpending ↦ Bool.noConfusion ((h.pendingKeys hpending).1.symm.trans secure), h.queued, nofun,
      nofun, h.inactive, h.counters⟩
  case jobFinished worker hmode result => exact h.jobFinished worker hmode (result.imp_left And.left)
  case finishedCommitted worker _ committed =>
    exact h.committed committed (hslot.job (by rw [worker]; rfl)).2 rfl
  case cp3Committed worker committed =>
    -- No such delivery is ever under way.
    have htagged := hslot.tagged
    rw [worker] at htagged
    rcases htagged with hstart | hstatus
    · cases hstart
    · exact absurd rfl hstatus
  case pongCommitted worker secure committed =>
    obtain ⟨⟨hsecure, -⟩, rfl⟩ := commitV1Cp4_eq_ok_iff.mp committed
    exact ⟨h.waiting, fun hpending ↦ ⟨(h.pendingKeys hpending).1, rfl⟩, h.queued, nofun, nofun,
      fun hclear ↦ Bool.noConfusion (hclear.symm.trans hsecure), congrArg (· + 1) h.counters⟩
  case pingLive worker => exact h.goTo rfl rfl nofun
  case pingRechecked worker => exact h.goTo rfl rfl fun _ ↦ by rw [worker]; rfl
  case pongSealed worker _ => exact h.goTo rfl rfl fun _ ↦ by rw [worker]; rfl
  case readyArmed => exact h.goTo rfl rfl nofun
  case cp3Released => exact h.goTo rfl rfl nofun
  case finishedStale => exact h.goTo rfl rfl nofun
  case cp3Sent => exact h.goTo rfl rfl nofun
  case cp3Kept => exact h.goTo rfl rfl nofun
  case pongReleased worker _ => exact h.goTo rfl rfl fun _ ↦ by rw [worker]; rfl
  case pongChecked worker => exact h.goTo rfl rfl fun _ ↦ by rw [worker]; rfl
  case pongSent worker => exact h.goTo rfl rfl fun _ ↦ by rw [worker]; rfl
  case pongUnsent worker => exact h.goTo rfl rfl nofun
  all_goals exact @Phased.reset core _ rfl

/-! ## The last installation -/

/-- The PONG of the last PING is encrypted, and `shown` of it is delivered. -/
structure Answered (inst : Installation) (seq : UInt64) (shown : ℕ) : Prop where
  pings : inst.pings.length = seq.toNat + 1
  pongs : inst.pongs.length = seq.toNat + 1
  delivered : inst.delivered = seq.toNat + shown
  committed : inst.committed = seq.toNat

/-- The application keys of the store. -/
def Store.appKeys (platform : Platform) (store : Store) : AppKeys :=
  FirmwareV1.appKeys platform.crypto platform.version store.v1Cp3Application store.v1Cp3SessionId

/-- How far the last installation is, by where the worker stands; a failed PING says nothing, since its session is
invalidated before the worker is free again. -/
def Stage (platform : Platform) (inst : Installation) (seq : UInt64) : Worker → Prop
  | .cp4Recheck _ snapshot challenge | .cp4Encrypt _ snapshot challenge =>
    inst.keys = appKeys platform.crypto platform.version snapshot.app snapshot.sid ∧ snapshot.tx = seq ∧
      ∃ ping, ping.plaintext = challenge ∧ inst.Answering ping seq ∧ inst.pings.length = seq.toNat + 1
  | .cp4Ready _ _ | .cp4Check _ _ _ | .cp4Send _ _ _ _ => Answered inst seq 0
  | .jobDone .v1Cp4C2p _ status _ | .cp4Callback status _ => status = .success → Answered inst seq 0
  | .cp4Settle _ _ sent => sent = true → Answered inst seq 1
  | _ => inst.Settled seq

/-- The ledger invariant: every installation is sound, the last one is as far as the worker is with it, and it is
that of the store when the store's keys are in use or pending. -/
structure Recorded (platform : Platform) (core : Core) : Prop where
  sound : ∀ inst ∈ core.ledger, inst.Sound platform.aead platform.version
  current : core.store.v1Cp3AppSecure = true ∨ core.worker.answering = true →
    ∃ inst earlier seq, core.ledger = inst :: earlier ∧ Stage platform inst seq core.worker ∧
      (core.store.v1Cp3AppSecure = true → inst.keys = core.store.appKeys platform ∧ seq = core.store.v1Cp4TxP2c)
  pendingKeys : core.store.v1Cp3KeysPending = true →
    ∃ earlier, core.ledger = { keys := core.store.appKeys platform } :: earlier

theorem recorded_boot : Recorded platform State.boot.core where
  sound := nofun
  current h := by rcases h with h | h <;> cases h
  pendingKeys := nofun

/-- The ledger, the keys in use and the counters stay, and the worker stays at the same stage. -/
theorem Recorded.carry (h : Recorded platform core) (hledger : core'.ledger = core.ledger)
    (hanswering : core'.worker.answering = true → core.worker.answering = true)
    (hsecure : core'.store.v1Cp3AppSecure = true → core.store.v1Cp3AppSecure = true ∧
      core'.store.appKeys platform = core.store.appKeys platform ∧ core'.store.v1Cp4TxP2c = core.store.v1Cp4TxP2c)
    (hstage : ∀ inst seq, Stage platform inst seq core.worker → Stage platform inst seq core'.worker)
    (hpending : core'.store.v1Cp3KeysPending = true → core.store.v1Cp3KeysPending = true ∧
      core'.store.appKeys platform = core.store.appKeys platform) : Recorded platform core' where
  sound := by rw [hledger]; exact h.sound
  current hnow := by
    obtain ⟨inst, earlier, seq, hlist, hold, hkeys⟩ := h.current (hnow.imp (fun hs ↦ (hsecure hs).1) hanswering)
    refine ⟨inst, earlier, seq, hledger.trans hlist, hstage inst seq hold, fun hs ↦ ?_⟩
    obtain ⟨hbefore, hsame, htx⟩ := hsecure hs
    exact ⟨(hkeys hbefore).1.trans hsame.symm, (hkeys hbefore).2.trans htx.symm⟩
  pendingKeys hnow := by
    obtain ⟨hbefore, hsame⟩ := hpending hnow
    obtain ⟨earlier, hlist⟩ := h.pendingKeys hbefore
    exact ⟨earlier, by rw [hledger, hlist, hsame]⟩

/-- The worker moves on without a change of the store's keys. -/
theorem Recorded.goTo (h : Recorded platform core) (hledger : core'.ledger = core.ledger)
    (hsecure : core'.store.v1Cp3AppSecure = core.store.v1Cp3AppSecure)
    (hpending : core'.store.v1Cp3KeysPending = core.store.v1Cp3KeysPending)
    (hkeys : core'.store.appKeys platform = core.store.appKeys platform)
    (htx : core'.store.v1Cp4TxP2c = core.store.v1Cp4TxP2c)
    (hanswering : core'.worker.answering = true → core.worker.answering = true)
    (hstage : ∀ inst seq, Stage platform inst seq core.worker → Stage platform inst seq core'.worker) :
    Recorded platform core' :=
  h.carry hledger hanswering (fun hnow ↦ ⟨hsecure ▸ hnow, hkeys, htx⟩) hstage fun hnow ↦ ⟨hpending ▸ hnow, hkeys⟩

/-- After a reset only an answer under way still speaks of the last installation. -/
theorem Recorded.reset (h : Recorded platform core) (hledger : core'.ledger = core.ledger)
    (hstore : core'.store = core.store.resetV1Cp3)
    (hworker : core'.worker = core.worker ∨ core'.worker.answering = false) : Recorded platform core' where
  sound := by rw [hledger]; exact h.sound
  current hnow := by
    rw [hstore] at hnow ⊢
    rcases hnow with hsecure | hanswering
    · cases hsecure
    · rcases hworker with hsame | hquiet
      · rw [hsame] at hanswering ⊢
        obtain ⟨inst, earlier, seq, hlist, hstage, -⟩ := h.current (.inr hanswering)
        exact ⟨inst, earlier, seq, hledger.trans hlist, hstage, nofun⟩
      · exact Bool.noConfusion (hquiet.symm.trans hanswering)
  pendingKeys hnow := by
    rw [hstore] at hnow
    cases hnow

/-- A commit of new keys settles their installation at zero. -/
theorem Recorded.committed (h : Recorded platform core) (hcommitted : Committed platform core.store core'.store)
    (hledger : core'.ledger = core.ledger) (hworker : core'.worker = .idle) : Recorded platform core' := by
  obtain ⟨committed, hcommit, hstore⟩ := hcommitted
  obtain ⟨⟨hpending, -⟩, rfl⟩ := commitV1Cp3_eq_ok_iff.mp hcommit
  obtain ⟨earlier, hlist⟩ := h.pendingKeys hpending
  refine ⟨by rw [hledger]; exact h.sound, fun hnow ↦ ?_, fun hnow ↦ ?_⟩
  · refine ⟨_, earlier, 0, hledger.trans hlist, ?_, fun hsecure ↦ ?_⟩
    · rw [hworker]
      exact Installation.settled_fresh _
    · rw [hstore] at hsecure ⊢
      split at hsecure
      · cases hsecure
      · exact ⟨by rw [if_neg (by assumption)]; rfl, by rw [if_neg (by assumption)]⟩
  · rw [hstore] at hnow
    split at hnow <;> cases hnow

/-- An event of the answer under way concerns the last installation, which is not pending. -/
theorem Recorded.event (h : Recorded platform core) {event : AppEvent}
    {inst : Installation} {earlier : List Installation} {seq : UInt64} (hlist : core.ledger = inst :: earlier)
    (hevent : recordEvent core.ledger event = inst.record event :: earlier)
    (hledger : core'.ledger = recordEvent core.ledger event)
    (hsound : (inst.record event).Sound platform.aead platform.version)
    (hstage : Stage platform (inst.record event) seq core'.worker)
    (hsecure : core'.store.v1Cp3AppSecure = true →
      inst.keys = core'.store.appKeys platform ∧ seq = core'.store.v1Cp4TxP2c)
    (hpending : core'.store.v1Cp3KeysPending = false) : Recorded platform core' where
  sound := by
    rw [hledger, hevent]
    have hrest := (List.forall_mem_cons.mp (hlist ▸ h.sound)).2
    exact List.forall_mem_cons.mpr ⟨hsound, hrest⟩
  current _ := by
    refine ⟨_, earlier, seq, hledger.trans hevent, hstage, fun hnow ↦ ?_⟩
    rw [Installation.record_keys]
    exact hsecure hnow
  pendingKeys hnow := Bool.noConfusion (hpending.symm.trans hnow)

theorem openPing_eq_ok {store : Store} {snapshot : Cp4Snapshot} {view : WorkerView} {challenge : Bytes}
    (h : openPing platform store snapshot view = .ok challenge) :
    IsPing platform.aead platform.version
      (appKeys platform.crypto platform.version snapshot.app snapshot.sid)
      ⟨snapshot.rx, challenge, store.v1Cp4WireJob⟩ := by
  obtain ⟨iv, hiv, hopen⟩ := except_bind_eq_ok_iff.mp h
  obtain ⟨-, hopened⟩ := (pqV1Cp4Decrypt_eq_ok_iff le_rfl).mp hopen
  rw [pqV1Cp4Iv_c2p_eq_ok hiv] at hopened
  exact hopened

theorem sealPong_eq_ok {snapshot : Cp4Snapshot} {view : WorkerView} {challenge wire : Bytes}
    (h : sealPong platform snapshot challenge view = .ok wire) (hlength : challenge.length = 16) :
    IsPong platform.aead platform.version
      (appKeys platform.crypto platform.version snapshot.app snapshot.sid) ⟨snapshot.tx, challenge, wire⟩ := by
  obtain ⟨iv, hiv, hseal⟩ := except_bind_eq_ok_iff.mp h
  obtain ⟨-, -, -, -, sealed, rfl, -, hwire⟩ := pqV1Cp4Encrypt_eq_ok_iff.mp hseal
  rw [pqV1Cp4Iv_p2c_eq_ok hiv] at hwire
  exact ⟨hlength, by rw [hwire, hlength]; rfl⟩

theorem Stage.of_isCp2 {worker : Worker} (h : worker.isCp2 = true) (inst : Installation) (seq : UInt64) :
    Stage platform inst seq worker ↔ inst.Settled seq := by
  cases worker <;> try exact Bool.noConfusion h
  case jobDone mode _ _ _ => cases mode <;> first | exact Iff.rfl | exact Bool.noConfusion h
  all_goals exact Iff.rfl

/-- The worker takes a job with the last installation settled. -/
theorem Taken.stage {store : Store} {worker : Worker} (h : Taken store worker) {inst : Installation} {seq : UInt64}
    (hsettled : inst.Settled seq) : Stage platform inst seq worker := by
  cases h with
  | start mode => exact hsettled
  | finished mode => exact hsettled
  | ping mode => exact hsettled
  | stale status mode failed =>
    generalize store.pendingJobMode = mode
    cases mode <;> first | exact hsettled | exact fun hok ↦ absurd hok failed
  | cp2 worker mode isCp2 => exact (Stage.of_isCp2 isCp2 inst seq).mpr hsettled

/-- A job that fails settles nothing. -/
theorem stage_jobFailed {worker : Worker} {mode : JobMode} {epoch : ℕ} {status : JobStatus}
    (hrunning : worker.running = some (mode, epoch)) (hfailed : status ≠ .success) {inst : Installation}
    {seq : UInt64} (h : Stage platform inst seq worker) : Stage platform inst seq (.jobDone mode epoch status []) := by
  cases worker <;> cases hrunning <;> first | exact h | exact fun hok ↦ absurd hok hfailed

theorem stage_jobFinished {mode : JobMode} {epoch : ℕ} {status status' : JobStatus} {wire wire' : Bytes}
    (hresult : status' = status ∨ status' ≠ .success) (hmode : mode ≠ .v1Cp2) {inst : Installation} {seq : UInt64}
    (h : Stage platform inst seq (.jobDone mode epoch status wire)) :
    Stage platform inst seq (mode.callback status' wire') := by
  cases mode with
  | v1Cp2 => exact absurd rfl hmode
  | v1Cp3 => exact h
  | v1Cp3FinishedC => exact h
  | v1Cp4C2p =>
    intro hok
    rcases hresult with rfl | hfailed
    · exact h hok
    · exact absurd hok hfailed

theorem answering_jobFinished {mode : JobMode} {epoch : ℕ} {status status' : JobStatus} {wire wire' : Bytes}
    (hresult : status' = status ∨ status' ≠ .success) (hmode : mode ≠ .v1Cp2)
    (h : (mode.callback status' wire').answering = true) : (Worker.jobDone mode epoch status wire).answering = true := by
  cases mode with
  | v1Cp2 => exact absurd rfl hmode
  | v1Cp3 => cases h
  | v1Cp3FinishedC => cases h
  | v1Cp4C2p =>
    rcases hresult with rfl | hfailed
    · cases status' <;> exact h
    · cases status' <;> first | exact absurd rfl hfailed | cases h

/-- Keys in use, or an answer under way: no other keys are pending. -/
theorem Phased.not_pending (h : Phased core) (hused : core.store.v1Cp3AppSecure = true ∨ core.worker.answering = true) :
    core.store.v1Cp3KeysPending = false := by
  rw [← Bool.not_eq_true]
  intro hnow
  obtain ⟨hsecure, hquiet⟩ := h.pendingKeys hnow
  rcases hused with hused | hused
  · exact Bool.noConfusion (hsecure.symm.trans hused)
  · exact Bool.noConfusion (hquiet.symm.trans hused)

/-- New keys are pending, and their installation is the last one. -/
theorem Recorded.installed (h : Recorded platform core) (hphase : Phased core) {epoch : ℕ} {handshake : V1Handshake}
    {wire : Bytes} (app : V1Application) (hworker : core.worker = .finishedStore epoch handshake) :
    Recorded platform { core with
      store := core.store.storeApplication app
      worker := .jobDone .v1Cp3FinishedC epoch .success wire
      ledger := recordEvent core.ledger
        (.installed (appKeys platform.crypto platform.version app core.store.v1Cp3SessionId)) } where
  sound := by
    rw [recordEvent_installed]
    exact List.forall_mem_cons.mpr ⟨Installation.sound_fresh _, h.sound⟩
  current hnow := by
    have hunkeyed := hphase.running (by rw [hworker]; rfl)
    rcases hnow with hsecure | hanswering
    · exact Bool.noConfusion (hunkeyed.1.symm.trans hsecure)
    · cases hanswering
  pendingKeys _ := ⟨core.ledger, recordEvent_installed _ _⟩

/-- A PING that opens is the next one of the last installation. -/
theorem Recorded.pingOpened (h : Recorded platform core) (hphase : Phased core) {epoch : ℕ} {challenge : Bytes}
    {view : WorkerView} (hworker : core.worker = .cp4Snapshot epoch) (hsecure : core.store.v1Cp3AppSecure = true)
    (hopened : openPing platform core.store ⟨core.store.v1Cp3Application, core.store.v1Cp3SessionId,
      core.store.v1Cp4RxC2p, core.store.v1Cp4TxP2c⟩ view = .ok challenge) :
    Recorded platform { core with
      worker := .cp4Recheck epoch ⟨core.store.v1Cp3Application, core.store.v1Cp3SessionId,
        core.store.v1Cp4RxC2p, core.store.v1Cp4TxP2c⟩ challenge
      ledger := recordEvent core.ledger
        (.opened ⟨core.store.v1Cp4RxC2p, challenge, core.store.v1Cp4WireJob⟩) } := by
  obtain ⟨inst, earlier, seq, hlist, hstage, hkeys⟩ := h.current (.inl hsecure)
  obtain ⟨hown, rfl⟩ := hkeys hsecure
  rw [hworker] at hstage
  have hsettled : inst.Settled core.store.v1Cp4TxP2c := hstage
  have hping := openPing_eq_ok hopened
  have hsound : (inst.record (.opened ⟨core.store.v1Cp4RxC2p, challenge, core.store.v1Cp4WireJob⟩)).Sound
      platform.aead platform.version :=
    (h.sound inst (by rw [hlist]; exact List.mem_cons_self)).opened_ping hsettled hphase.counters (hown ▸ hping)
  refine h.event hlist (by rw [hlist]; rfl) rfl hsound ⟨hown, rfl, _, rfl, hsettled.answering _, ?_⟩
    (fun _ ↦ ⟨hown, rfl⟩) (hphase.not_pending (.inl hsecure))
  simp [Installation.record, hsettled.pings]

/-- A PONG is encrypted for the PING that was opened last. -/
theorem Recorded.pongSealed (h : Recorded platform core) (hphase : Phased core) {epoch : ℕ} {snapshot : Cp4Snapshot}
    {challenge wire : Bytes} {view : WorkerView} (hworker : core.worker = .cp4Encrypt epoch snapshot challenge)
    (hsealed : sealPong platform snapshot challenge view = .ok wire) :
    Recorded platform { core with
      worker := .cp4Ready epoch wire
      ledger := recordEvent core.ledger (.sealed ⟨snapshot.tx, challenge, wire⟩) } := by
  have hanswering : core.worker.answering = true := by rw [hworker]; rfl
  obtain ⟨inst, earlier, seq, hlist, hstage, hkeys⟩ := h.current (.inr hanswering)
  rw [hworker] at hstage
  obtain ⟨hown, rfl, ping, rfl, hping, hpings⟩ := hstage
  have hmem : inst ∈ core.ledger := by rw [hlist]; exact List.mem_cons_self
  have hopened := (h.sound inst hmem).opened ping (List.mem_of_getElem? hping.last)
  have hpong := sealPong_eq_ok hsealed hopened.choose_spec.length_plaintext
  have hnext : inst.pings[inst.pongs.length]? = some ping := by rw [hping.pongs]; exact hping.last
  have hsound : (inst.record (.sealed ⟨snapshot.tx, ping.plaintext, wire⟩)).Sound platform.aead platform.version :=
    (h.sound inst hmem).sealed_pong hnext rfl hping.pongs.symm (hown ▸ hpong)
  refine h.event hlist (by rw [hlist]; rfl) rfl hsound ⟨hpings, ?_, hping.delivered, hping.committed⟩ hkeys
    (hphase.not_pending (.inr hanswering))
  simp [Installation.record, hping.pongs]

/-- The PONG that was encrypted last is delivered. -/
theorem Recorded.pongSent (h : Recorded platform core) (hphase : Phased core) {conn : Conn} {generation : ℕ}
    {live : Bool} {wire : Bytes} (hworker : core.worker = .cp4Send conn generation live wire) :
    Recorded platform { core with
      worker := .cp4Settle (some conn) generation true
      ledger := recordEvent core.ledger .delivered } := by
  have hanswering : core.worker.answering = true := by rw [hworker]; rfl
  obtain ⟨inst, earlier, seq, hlist, hstage, hkeys⟩ := h.current (.inr hanswering)
  rw [hworker] at hstage
  have hanswered : Answered inst seq 0 := hstage
  have hlt : inst.delivered < inst.pongs.length := by rw [hanswered.delivered, hanswered.pongs]; omega
  have hsound := (h.sound inst (by rw [hlist]; exact List.mem_cons_self)).delivered_pong hlt
  refine h.event hlist (by rw [hlist]; rfl) rfl hsound
    (fun _ ↦ ⟨hanswered.pings, hanswered.pongs, ?_, hanswered.committed⟩) hkeys (hphase.not_pending (.inr hanswering))
  simp [Installation.record, hanswered.delivered]

/-- The commit of a delivered PONG settles the installation at the next number. -/
theorem Recorded.pongCommitted (h : Recorded platform core) (hphase : Phased core) {conn : Option Conn}
    {generation : ℕ} {store : Store} (hworker : core.worker = .cp4Settle conn generation true)
    (hcommit : core.store.commitV1Cp4 = .ok store) :
    Recorded platform { core with
      store, deliveryActive := false, worker := .idle
      ledger := recordEvent core.ledger .committed } := by
  obtain ⟨⟨hsecure, -, -, -, -, hmax⟩, rfl⟩ := commitV1Cp4_eq_ok_iff.mp hcommit
  obtain ⟨inst, earlier, seq, hlist, hstage, hkeys⟩ := h.current (.inl hsecure)
  obtain ⟨hown, rfl⟩ := hkeys hsecure
  rw [hworker] at hstage
  have hshown : Answered inst core.store.v1Cp4TxP2c 1 := hstage rfl
  have hnext := toNat_add_one_of_ne hmax
  have hlt : inst.committed < inst.delivered := by rw [hshown.committed, hshown.delivered]; omega
  have hsound := (h.sound inst (by rw [hlist]; exact List.mem_cons_self)).committed_pong hlt
  have hcommitted : (inst.record .committed).committed = inst.committed + 1 := rfl
  have hsettled : (inst.record .committed).Settled (core.store.v1Cp4TxP2c + 1) :=
    ⟨hshown.pings.trans hnext.symm, hshown.pongs.trans hnext.symm, hshown.delivered.trans hnext.symm, by
      rw [hcommitted, hshown.committed, hnext]⟩
  exact h.event hlist (by rw [hlist]; rfl) rfl hsound hsettled (fun _ ↦ ⟨hown, rfl⟩) (hphase.not_pending (.inl hsecure))

/-- The worker moves from a place where the last installation is settled to another such place. -/
theorem Recorded.settled (h : Recorded platform core) {worker : Worker} {store : Store} {state : Cp3State}
    {workerActive deliveryActive : Bool} (hsecure : store.v1Cp3AppSecure = core.store.v1Cp3AppSecure)
    (hpending : store.v1Cp3KeysPending = core.store.v1Cp3KeysPending)
    (hkeys : store.appKeys platform = core.store.appKeys platform) (htx : store.v1Cp4TxP2c = core.store.v1Cp4TxP2c)
    (hquiet : worker.answering = false)
    (hbefore : ∀ inst seq, Stage platform inst seq core.worker → inst.Settled seq)
    (hafter : ∀ inst seq, inst.Settled seq → Stage platform inst seq worker) :
    Recorded platform { core with state, workerActive, deliveryActive, store, worker } :=
  h.goTo rfl hsecure hpending hkeys htx (fun hnow ↦ Bool.noConfusion (hquiet.symm.trans hnow))
    fun inst seq hold ↦ hafter inst seq (hbefore inst seq hold)

/-- **Every move keeps the ledger invariant.** -/
theorem Move.recorded (move : Move platform core core') (hphase : Phased core)
    (h : Recorded platform core) : Recorded platform core' := by
  -- Most places of the worker say no more than that the last installation is settled.
  have hsettled {worker : Worker} (hworker : core.worker = worker)
      (hplace : ∀ inst seq, Stage platform inst seq worker → inst.Settled seq) :
      ∀ inst seq, Stage platform inst seq core.worker → inst.Settled seq := by
    rw [hworker]
    exact hplace
  cases move
  case keep => exact h
  case start submitted =>
    obtain ⟨-, -, payload, -, -, ⟨-, -, -, -, hkeys, hsecure⟩, rfl⟩ := submitV1Cp3_eq_ok_iff.mp submitted
    exact h.carry rfl id (fun hnow ↦ Bool.noConfusion (hsecure.symm.trans hnow)) (fun _ _ ↦ id)
      fun hnow ↦ Bool.noConfusion (hkeys.symm.trans hnow)
  case finishedC submitted =>
    obtain ⟨payload, -, -, -, rfl⟩ := submitV1Cp3FinishedC_eq_ok_iff.mp submitted
    exact h.goTo rfl rfl rfl rfl rfl id fun _ _ ↦ id
  case ping submitted =>
    obtain ⟨-, -, -, -, rfl⟩ := submitV1Cp4_eq_ok_iff.mp submitted
    exact h.goTo rfl rfl rfl rfl rfl id fun _ _ ↦ id
  case cp2 => exact h.goTo rfl rfl rfl rfl rfl id fun _ _ ↦ id
  case dropJob => exact h.goTo rfl rfl rfl rfl rfl id fun _ _ ↦ id
  case take idle pending taken =>
    exact h.settled rfl rfl rfl rfl taken.slotted.2.2 (hsettled idle fun _ _ ↦ id) fun _ _ ↦ taken.stage
  case cp2Step before after =>
    exact h.settled rfl rfl rfl rfl (Worker.of_isCp2 after).2.2.2 (fun inst seq ↦ (Stage.of_isCp2 before inst seq).mp)
      fun inst seq ↦ (Stage.of_isCp2 after inst seq).mpr
  case cp2Release before =>
    exact h.settled rfl rfl rfl rfl rfl (fun inst seq ↦ (Stage.of_isCp2 before inst seq).mp) fun _ _ ↦ id
  case jobFailed mode epoch status running failed =>
    exact h.goTo rfl rfl rfl rfl rfl
      (fun hnow ↦ Bool.noConfusion ((Worker.answering_failed mode epoch [] failed).symm.trans hnow))
      fun inst seq hold ↦ stage_jobFailed running failed hold
  case startStored worker _ _ =>
    exact h.settled rfl rfl rfl rfl rfl (hsettled worker fun _ _ ↦ id) fun _ _ ↦ id
  case handshakeTaken worker =>
    exact h.settled rfl rfl rfl rfl rfl (hsettled worker fun _ _ ↦ id) fun _ _ ↦ id
  case finishedStored app _ worker _ _ => exact h.installed hphase app worker
  case pingLive worker => exact h.settled rfl rfl rfl rfl rfl (hsettled worker fun _ _ ↦ id) fun _ _ ↦ id
  case pingOpened worker secure opened => exact h.pingOpened hphase worker secure opened
  case pingRechecked worker =>
    exact h.goTo rfl rfl rfl rfl rfl (fun _ ↦ by rw [worker]; rfl) fun inst seq hold ↦ by rwa [worker] at hold
  case pongSealed worker sealed => exact h.pongSealed hphase worker sealed
  case pongReady worker secure =>
    refine h.goTo rfl rfl rfl rfl rfl (fun _ ↦ by rw [worker]; rfl) fun inst seq hold ↦ ?_
    rw [worker] at hold
    exact fun _ ↦ hold
  case jobFinished worker hmode result =>
    refine h.goTo rfl rfl rfl rfl rfl (fun hnow ↦ ?_) fun inst seq hold ↦ ?_
    · rw [worker]
      exact answering_jobFinished (result.imp_left And.left) hmode hnow
    · rw [worker] at hold
      exact stage_jobFinished (result.imp_left And.left) hmode hold
  case readyArmed worker _ => exact h.settled rfl rfl rfl rfl rfl (hsettled worker fun _ _ ↦ id) fun _ _ ↦ id
  case cp3Released worker _ => exact h.settled rfl rfl rfl rfl rfl (hsettled worker fun _ _ ↦ id) fun _ _ ↦ id
  case finishedCommitted committed => exact h.committed committed rfl rfl
  case finishedFailed => exact h.reset rfl rfl (.inr rfl)
  case finishedStale worker _ => exact h.settled rfl rfl rfl rfl rfl (hsettled worker fun _ _ ↦ id) fun _ _ ↦ id
  case cp3Sent worker => exact h.settled rfl rfl rfl rfl rfl (hsettled worker fun _ _ ↦ id) fun _ _ ↦ id
  case cp3Kept worker _ => exact h.settled rfl rfl rfl rfl rfl (hsettled worker fun _ _ ↦ id) fun _ _ ↦ id
  case cp3Committed committed => exact h.committed committed rfl rfl
  case pongReleased worker _ =>
    refine h.goTo rfl rfl rfl rfl rfl (fun _ ↦ by rw [worker]; rfl) fun inst seq hold ↦ ?_
    rw [worker] at hold
    exact hold rfl
  case pongChecked worker =>
    exact h.goTo rfl rfl rfl rfl rfl (fun _ ↦ by rw [worker]; rfl) fun inst seq hold ↦ by rwa [worker] at hold
  case pongSent worker => exact h.pongSent hphase worker
  case pongUnsent worker => exact h.goTo rfl rfl rfl rfl rfl nofun fun inst seq hold ↦ nofun
  case pongCommitted worker secure committed => exact h.pongCommitted hphase worker committed
  case invalidate => exact h.reset rfl rfl (.inl rfl)
  case reconnect => exact h.reset rfl rfl (.inl rfl)
  case pingDead => exact h.reset rfl rfl (.inr rfl)
  case cp3Failed => exact h.reset rfl rfl (.inr rfl)
  case pongDropped => exact h.reset rfl rfl (.inr rfl)
  case pongFailed => exact h.reset rfl rfl (.inr rfl)

/-! ## Runs -/

/-- The three layers. -/
structure Ledgered (platform : Platform) (core : Core) : Prop where
  slotted : Slotted core
  phased : Phased core
  recorded : Recorded platform core

theorem Move.ledgered (move : Move platform core core') (h : Ledgered platform core) : Ledgered platform core' :=
  ⟨move.slotted h.slotted, move.phased h.slotted h.phased, move.recorded h.phased h.recorded⟩

/-- The ledger invariant holds after every run of the firmware. -/
theorem ledgered_run (platform : Platform) (actions : List Action) :
    Ledgered platform ((firmware platform).run .boot actions).core :=
  (firmware platform).run_invariant (P := fun state ↦ Ledgered platform state.core)
    (fun state action h ↦ (move_step platform state action).ledgered h)
    ⟨slotted_boot, phased_boot, recorded_boot⟩ actions

/-- The transmit counter returns to zero only when the keys are wiped. -/
theorem Move.wiped (move : Move platform core core') (hphase : Phased core) (htx : core.store.v1Cp4TxP2c ≠ 0)
    (hzero : core'.store.v1Cp4TxP2c = 0) : core'.store.v1Cp3Application = .zero := by
  cases move
  case start submitted =>
    obtain ⟨-, -, payload, -, -, -, rfl⟩ := submitV1Cp3_eq_ok_iff.mp submitted
    exact absurd hzero htx
  case finishedC submitted =>
    obtain ⟨payload, -, -, -, rfl⟩ := submitV1Cp3FinishedC_eq_ok_iff.mp submitted
    exact absurd hzero htx
  case ping submitted =>
    obtain ⟨-, -, -, -, rfl⟩ := submitV1Cp4_eq_ok_iff.mp submitted
    exact absurd hzero htx
  case finishedCommitted committed =>
    obtain ⟨_, hcommit, -⟩ := committed
    exact absurd (hphase.inactive (commitV1Cp3_eq_ok_iff.mp hcommit).1.2) htx
  case cp3Committed committed =>
    obtain ⟨_, hcommit, -⟩ := committed
    exact absurd (hphase.inactive (commitV1Cp3_eq_ok_iff.mp hcommit).1.2) htx
  case pongCommitted committed =>
    obtain ⟨⟨-, -, -, -, -, hmax⟩, rfl⟩ := commitV1Cp4_eq_ok_iff.mp committed
    have hnext := toNat_add_one_of_ne hmax
    rw [show core.store.v1Cp4TxP2c + 1 = 0 from hzero] at hnext
    cases hnext
  all_goals first
    | exact absurd hzero htx
    | rfl

/-- The service's transmit counter returns to zero only with a wiped session or with keys that the step installed. -/
theorem wiped_or_installed {aead : Aead} {channel channel' : Resumption.Channel} {ledger : List Installation}
    {events : List AppEvent} (hinv : channel.Inv aead ledger)
    (hstep : Resumption.ChannelStep aead channel events channel') (htx : channel.txP2c ≠ 0)
    (hzero : channel'.txP2c = 0) :
    channel'.session = .zero ∨ recordEvents ledger events = { keys := channel'.session.appKeys } :: ledger := by
  cases hstep with
  | keep => exact absurd hzero htx
  | close => exact .inl rfl
  | accept session idle waiting => exact absurd hzero htx
  | acceptLost keys => exact .inl rfl
  | confirm waiting => exact absurd (hinv.inactive (by simp [waiting])) htx
  | full session secure => exact .inr (by simp)
  | pingLost ping accepts => exact .inl rfl
  | pongLost ping pong accepts answers => exact .inl rfl
  | exchange ping pong accepts answers =>
    have hnext := toNat_add_one_of_ne accepts.room
    rw [show channel.txP2c + 1 = 0 from hzero] at hnext
    cases hnext

/-- **No two encryptions under one installation share a nonce**, on the v1.0 worker and on the v1.1 service. -/
theorem cp4_nonce_uniqueness :
    (∀ iv, Function.Injective (pqV1Cp4Nonce iv)) ∧
    (∀ (platform : Platform) (actions : List Action),
      let state := (firmware platform).run .boot actions
      (∀ inst ∈ state.ledger,
        inst.NonceDiscipline platform.aead platform.version ∧ inst.committed ≤ inst.delivered) ∧
      ∀ action, let next := ((firmware platform).step state action).2
        state.store.v1Cp4TxP2c ≠ 0 → next.store.v1Cp4TxP2c = 0 → next.store.v1Cp3Application = .zero) ∧
    ∀ (crypto : Crypto) (aead : Aead) (calls : List Resumption.ServiceCall),
      let current := (Resumption.serviceRun crypto aead).run .boot calls
      (∀ inst ∈ current.ledger,
        inst.NonceDiscipline aead Resumption.pqResumeV11 ∧ inst.committed ≤ inst.delivered) ∧
      ∀ call, let next := ((Resumption.serviceRun crypto aead).step current call).2
        current.service.txP2c ≠ 0 → next.service.txP2c = 0 → next.service.core.session = .zero ∨
          next.ledger = { keys := next.service.core.session.appKeys } :: current.ledger := by
  refine ⟨pqV1Cp4Nonce_injective, fun platform actions ↦ ?_, fun crypto aead calls ↦ ?_⟩
  · have h := ledgered_run platform actions
    refine ⟨fun inst hmem ↦ ?_, fun action htx hzero ↦ ?_⟩
    · have hsound := h.recorded.sound inst hmem
      exact ⟨hsound.nonceDiscipline, hsound.committed_le⟩
    · exact (move_step platform _ action).wiped h.phased htx hzero
  · have h := Resumption.ServiceRun.inv crypto aead calls
    refine ⟨fun inst hmem ↦ ?_, fun call htx hzero ↦ ?_⟩
    · have hsound := h.sound inst hmem
      exact ⟨hsound.nonceDiscipline, hsound.committed_le⟩
    · exact wiped_or_installed h (Resumption.channelStep_step _ call) htx hzero

end PqBleHandshake.FirmwareV1
