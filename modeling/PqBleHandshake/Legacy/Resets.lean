import PqBleHandshake.Legacy.Isolation

/-!
# Resets of v0.7 and v0.8 and the jobs they overtake

A reset clears a session and moves its epoch.  A job commits only under the epoch it was submitted in, and
the commit after its delivery needs keys that are pending; both are gone after a reset.  So what an older
job still does leaves the retained sessions as they are, or clears them.
-/

namespace PqBleHandshake.Legacy

open Foundation

/-! ## The retained sessions -/

/-- What the store retains of Phase 5, with its flags. -/
structure Session5 where
  material : Phase5Material
  waitFinished : Bool
  applicationReady : Bool
deriving DecidableEq

/-- What the store retains of Phase 6, with its flag. -/
structure Session6 where
  material : Phase6Material
  active : Bool
deriving DecidableEq

/-- What the store retains of Phase 7, with the resumption secrets of v0.8, the counters and the flags. -/
structure Session7 where
  keys : Phase7Keys
  transcriptHash : Block 32
  sessionId : Block 16
  pendingTrafficKeys : Phase7TrafficKeys
  trafficKeys : Phase7TrafficKeys
  pendingRoot : Block 32
  fullTh : Block 32
  waitFinished : Bool
  authenticated : Bool
  trafficPending : Bool
  hasLastRecvSeq : Bool
  lastRecvSeq : UInt64
  nextSendSeq : UInt64
deriving DecidableEq

/-- Nothing of Phase 5 is retained, and nothing is awaited. -/
def Session5.zero : Session5 := ⟨.zero, false, false⟩

/-- Nothing of Phase 6 is retained. -/
def Session6.zero : Session6 := ⟨.zero, false⟩

/-- Nothing of Phase 7 is retained, and nothing is awaited. -/
def Session7.zero : Session7 :=
  ⟨zeroKeys, .zero 32, .zero 16, zeroTrafficKeys, zeroTrafficKeys, .zero 32, .zero 32, false, false, false,
    false, 0, 0⟩

namespace Store

def session5 (store : Store) : Session5 :=
  ⟨store.phase5Material, store.phase5WaitFinished, store.phase5ApplicationReady⟩

def session6 (store : Store) : Session6 := ⟨store.phase6Material, store.phase6Active⟩

def session7 (store : Store) : Session7 :=
  ⟨store.phase7Keys, store.phase7TranscriptHash, store.phase7SessionId, store.phase7PendingTrafficKeys,
    store.phase7TrafficKeys, store.phase8PendingRoot, store.phase8FullTh, store.phase7WaitFinished,
    store.phase7Authenticated, store.phase7TrafficPending, store.phase7HasLastRecvSeq,
    store.phase7LastRecvSeq, store.phase7NextSendSeq⟩

/-- No handshake of Phase 7 is under way. -/
def Quiet (store : Store) : Prop :=
  store.phase7WaitFinished = false ∧ store.phase7TrafficPending = false

/-- The reset leaves nothing of Phases 5 and 6 in the store. -/
theorem resetPhase5_sessions (store : Store) :
    store.resetPhase5.session5 = .zero ∧ store.resetPhase5.session6 = .zero ∧
      store.resetPhase5.phase5Epoch = store.phase5Epoch + 1 := ⟨rfl, rfl, rfl⟩

/-- The reset leaves nothing of Phase 7 in the store. -/
theorem resetPhase7_session (store : Store) :
    store.resetPhase7.session7 = .zero ∧ store.resetPhase7.phase7Epoch = store.phase7Epoch + 1 :=
  ⟨rfl, rfl⟩

end Store

/-! ## The job that the worker holds -/

/-- The modes that retain something of Phase 5 or Phase 6. -/
def JobMode.isPhase5 (mode : JobMode) : Bool :=
  mode = .phase5Start || mode = .phase5FinishedC || mode = .phase5Data || mode = .phase6C2p

namespace Worker

/-- The worker runs a job of Phase 5 or Phase 6 or delivers its result. -/
def isPhase5 : Worker → Bool
  | .decapsulate mode _ | .jobDone mode _ _ _ | .callback mode _ _ | .deliver mode _ _ _ _ => mode.isPhase5
  | .finished5 _ _ _ _ | .data5 _ _ _ | .app6 _ _ | .failed5 _ | .reset5 => true
  | _ => false

/-- The worker runs an authenticated job of Phase 7 or delivers its result. -/
def isPhase7 : Worker → Bool
  | .decapsulate mode _ | .jobDone mode _ _ _ | .callback mode _ _ | .deliver mode _ _ _ _ => mode.isPhase7
  | .finished7 _ _ _ _ | .app7 _ _ | .ready7 _ | .commit7 _ | .promoted7 _ | .failed7 _ | .reset7 => true
  | _ => false

end Worker

/-! ## What a step of the worker does to the sessions -/

/-- What a step of the worker does to the session of Phase 7. -/
inductive WorkerMove7 (state next : State) : Prop
  | kept (session : next.store.session7 = state.store.session7)
    (epoch : next.store.phase7Epoch = state.store.phase7Epoch)
  | wiped (session : next.store.session7 = .zero)
    (epoch : state.store.phase7Epoch ≤ next.store.phase7Epoch)
  | stored (epoch : ℕ) (carried : state.worker.epoch = some epoch) (job : state.worker.isPhase7 = true)
    (same : SameU32 epoch state.store.phase7Epoch)
    (current : next.store.phase7Epoch = state.store.phase7Epoch)
  | promoted (job : state.worker.isPhase7 = true) (pending : state.store.phase7TrafficPending = true)
    (quiet : next.store.Quiet) (epoch : next.store.phase7Epoch = state.store.phase7Epoch)

/-- What a step of the worker does to the sessions of Phases 5 and 6. -/
inductive WorkerMove5 (state next : State) : Prop
  | kept (session5 : next.store.session5 = state.store.session5)
    (session6 : next.store.session6 = state.store.session6)
    (epoch : state.store.phase5Epoch ≤ next.store.phase5Epoch)
  | consumed (session5 : next.store.session5 = .zero)
    (session6 : next.store.session6 = state.store.session6)
    (epoch : state.store.phase5Epoch ≤ next.store.phase5Epoch)
  | wiped (session5 : next.store.session5 = .zero) (session6 : next.store.session6 = .zero)
    (epoch : state.store.phase5Epoch ≤ next.store.phase5Epoch)
  | stored (epoch : ℕ) (carried : state.worker.epoch = some epoch) (job : state.worker.isPhase5 = true)
    (same : SameU32 epoch state.store.phase5Epoch)
    (current : state.store.phase5Epoch ≤ next.store.phase5Epoch)

/-- What a step of the worker inside a job or a callback does. -/
structure Worked (state next : State) : Prop where
  epoch : next.workerEpoch = state.workerEpoch
  carried : ∀ epoch, next.worker.epoch = some epoch → state.worker.epoch = some epoch
  job : next.worker.isPhase7 = true → state.worker.isPhase7 = true
  pending : next.store.jobPending = state.store.jobPending
  mode : next.store.pendingJobMode = state.store.pendingJobMode
  submitted : next.store.pendingPhase7Epoch = state.store.pendingPhase7Epoch
  move7 : WorkerMove7 state next
  move5 : WorkerMove5 state next

section Steps

variable {platform : Platform} {state next : State} {view : WorkerView} {action : Action}

/-- A step that leaves the sessions alone. -/
theorem Worked.quiet (hepoch : next.workerEpoch = state.workerEpoch)
    (hcarried : ∀ epoch, next.worker.epoch = some epoch → state.worker.epoch = some epoch)
    (hjob : next.worker.isPhase7 = true → state.worker.isPhase7 = true)
    (hstore : next.store = state.store) : Worked state next where
  epoch := hepoch
  carried := hcarried
  job := hjob
  pending := by rw [hstore]
  mode := by rw [hstore]
  submitted := by rw [hstore]
  move7 := .kept (by rw [hstore]) (by rw [hstore])
  move5 := .kept (by rw [hstore]) (by rw [hstore]) (by rw [hstore])

/-- A step that ends the computation of a job. -/
theorem Worked.ended {mode : JobMode} {epoch : ℕ} {status : JobStatus} {wire : Bytes}
    (hcarried : state.worker.epoch = some epoch)
    (hjob : mode.isPhase7 = true → state.worker.isPhase7 = true)
    (hworker : next.worker = .jobDone mode epoch status wire) (hepoch : next.workerEpoch = state.workerEpoch)
    (hpending : next.store.jobPending = state.store.jobPending ∧
      next.store.pendingJobMode = state.store.pendingJobMode ∧
      next.store.pendingPhase7Epoch = state.store.pendingPhase7Epoch)
    (hmove7 : WorkerMove7 state next) (hmove5 : WorkerMove5 state next) : Worked state next where
  epoch := hepoch
  carried own hnext := by
    rw [hworker] at hnext
    exact hcarried.trans hnext
  job hphase7 := by
    rw [hworker] at hphase7
    exact hjob hphase7
  pending := hpending.1
  mode := hpending.2.1
  submitted := hpending.2.2
  move7 := hmove7
  move5 := hmove5

theorem runDecapsulate_worked {mode : JobMode} {epoch : ℕ} (hworker : state.worker = .decapsulate mode epoch) :
    Worked state (state.runDecapsulate platform mode epoch view) := by
  have hcarried : state.worker.epoch = some epoch := by rw [hworker]; rfl
  have hjob : mode.isPhase7 = true → state.worker.isPhase7 = true := by
    rw [hworker]
    exact id
  have hfailed : ∀ status, Worked state (state.failJob mode epoch status) := fun status ↦
    .ended hcarried hjob rfl rfl ⟨rfl, rfl, rfl⟩ (.kept rfl rfl) (.kept rfl rfl le_rfl)
  unfold State.runDecapsulate
  dsimp only
  split
  · exact hfailed _
  cases mode <;> dsimp only
  case phase7AuthStart =>
    split
    · refine .ended hcarried hjob rfl rfl ?_ ?_ ?_ <;> unfold Store.discardStart State.failJob State.finish <;>
        dsimp only <;> split
      · exact ⟨rfl, rfl, rfl⟩
      · exact ⟨rfl, rfl, rfl⟩
      · exact .wiped rfl le_rfl
      · exact .kept rfl rfl
      · exact .kept rfl rfl le_rfl
      · exact .kept rfl rfl le_rfl
    · split
      · rename_i hsame
        exact .ended hcarried hjob rfl rfl ⟨rfl, rfl, rfl⟩ (.stored epoch hcarried (hjob rfl) hsame rfl)
          (.kept rfl rfl le_rfl)
      · exact hfailed _
  case phase7HybridCp2 =>
    split
    · exact hfailed _
    · exact .ended hcarried hjob rfl rfl ⟨rfl, rfl, rfl⟩ (.kept rfl rfl) (.kept rfl rfl le_rfl)
  case phase2Diagnostic =>
    exact .ended hcarried hjob rfl rfl ⟨rfl, rfl, rfl⟩ (.kept rfl rfl) (.kept rfl rfl le_rfl)
  case phase3Secure =>
    split
    · exact hfailed _
    · exact .ended hcarried hjob rfl rfl ⟨rfl, rfl, rfl⟩ (.kept rfl rfl) (.kept rfl rfl le_rfl)
  case phase5Start =>
    split
    · exact hfailed _
    · split
      · rename_i hsame
        exact .ended hcarried hjob rfl rfl ⟨rfl, rfl, rfl⟩ (.kept rfl rfl)
          (.stored epoch hcarried (by rw [hworker]; rfl) hsame le_rfl)
      · exact hfailed _
  all_goals exact hfailed _

theorem runFinished7_worked {epoch : ℕ} {keys : Phase7Keys} {hash received : Block 32}
    (hworker : state.worker = .finished7 epoch keys hash received) :
    Worked state (state.runFinished7 platform epoch keys hash received view) := by
  have hcarried : state.worker.epoch = some epoch := by rw [hworker]; rfl
  have hphase7 : state.worker.isPhase7 = true := by rw [hworker]; rfl
  have hfailed : ∀ status, Worked state (state.failJob .phase7AuthFinishedC epoch status) := fun status ↦
    .ended hcarried (fun _ ↦ hphase7) rfl rfl ⟨rfl, rfl, rfl⟩ (.kept rfl rfl) (.kept rfl rfl le_rfl)
  unfold State.runFinished7
  dsimp only
  split
  · exact hfailed _
  split
  · exact hfailed _
  split
  · rename_i hsame
    exact .ended hcarried (fun _ ↦ hphase7) rfl rfl ⟨rfl, rfl, rfl⟩ (.stored epoch hcarried hphase7 hsame.1 rfl)
      (.kept rfl rfl le_rfl)
  · exact hfailed _

theorem runApp7_worked {epoch : ℕ} {snapshot : AppSnapshot} (hworker : state.worker = .app7 epoch snapshot) :
    Worked state (state.runApp7 platform epoch snapshot view) := by
  have hcarried : state.worker.epoch = some epoch := by rw [hworker]; rfl
  have hphase7 : state.worker.isPhase7 = true := by rw [hworker]; rfl
  have hfailed : ∀ status, Worked state (state.failJob .phase7AppC2p epoch status) := fun status ↦
    .ended hcarried (fun _ ↦ hphase7) rfl rfl ⟨rfl, rfl, rfl⟩ (.kept rfl rfl) (.kept rfl rfl le_rfl)
  unfold State.runApp7
  dsimp only
  split
  · exact hfailed _
  split
  · rename_i hsame
    split <;> exact .ended hcarried (fun _ ↦ hphase7) rfl rfl ⟨rfl, rfl, rfl⟩
      (.stored epoch hcarried hphase7 hsame.1 rfl) (.kept rfl rfl le_rfl)
  · exact hfailed _

theorem runFinished5_worked {epoch : ℕ} {keys : Phase7Keys} {hash received : Block 32}
    (hworker : state.worker = .finished5 epoch keys hash received) :
    Worked state (state.runFinished5 platform epoch keys hash received view) := by
  have hcarried : state.worker.epoch = some epoch := by rw [hworker]; rfl
  have hphase5 : state.worker.isPhase5 = true := by rw [hworker]; rfl
  unfold State.runFinished5
  dsimp only
  split
  · rename_i hsame
    split
    · exact .ended hcarried Bool.noConfusion rfl rfl ⟨rfl, rfl, rfl⟩ (.kept rfl rfl)
        (.stored epoch hcarried hphase5 hsame.1 le_rfl)
    · exact .ended hcarried Bool.noConfusion rfl rfl ⟨rfl, rfl, rfl⟩ (.kept rfl rfl)
        (.stored epoch hcarried hphase5 hsame.1 (Nat.le_succ _))
  · exact .ended hcarried Bool.noConfusion rfl rfl ⟨rfl, rfl, rfl⟩ (.kept rfl rfl) (.kept rfl rfl le_rfl)

theorem runData5_worked {epoch : ℕ} {key : Block 32} {sid : Block 16}
    (hworker : state.worker = .data5 epoch key sid) :
    Worked state (state.runData5 platform epoch key sid view) := by
  have hcarried : state.worker.epoch = some epoch := by rw [hworker]; rfl
  unfold State.runData5
  split <;> exact .ended hcarried Bool.noConfusion rfl rfl ⟨rfl, rfl, rfl⟩ (.kept rfl rfl) (.kept rfl rfl le_rfl)

theorem runApp6_worked {epoch : ℕ} {snapshot : Phase6Snapshot} (hworker : state.worker = .app6 epoch snapshot) :
    Worked state (state.runApp6 platform epoch snapshot view) := by
  have hcarried : state.worker.epoch = some epoch := by rw [hworker]; rfl
  have hphase5 : state.worker.isPhase5 = true := by rw [hworker]; rfl
  unfold State.runApp6
  dsimp only
  split
  · exact .ended hcarried Bool.noConfusion rfl rfl ⟨rfl, rfl, rfl⟩ (.kept rfl rfl) (.kept rfl rfl le_rfl)
  split
  · rename_i hsame
    split <;> exact .ended hcarried Bool.noConfusion rfl rfl ⟨rfl, rfl, rfl⟩ (.kept rfl rfl)
      (.stored epoch hcarried hphase5 hsame.1 le_rfl)
  · exact .ended hcarried Bool.noConfusion rfl rfl ⟨rfl, rfl, rfl⟩ (.kept rfl rfl) (.kept rfl rfl le_rfl)

theorem inJob_worked (hjob : state.worker.inJob = true)
    (hstep : state.workerStep platform view = some next) : Worked state next := by
  unfold State.workerStep at hstep
  cases hworker : state.worker <;> rw [hworker] at hstep hjob
  all_goals try cases hjob
  case decapsulate mode epoch =>
    cases hstep
    exact runDecapsulate_worked hworker
  case finished7 epoch keys hash received =>
    cases hstep
    exact runFinished7_worked hworker
  case app7 epoch snapshot =>
    cases hstep
    exact runApp7_worked hworker
  case finished5 epoch keys hash received =>
    cases hstep
    exact runFinished5_worked hworker
  case data5 epoch key sid =>
    cases hstep
    exact runData5_worked hworker
  case app6 epoch snapshot =>
    cases hstep
    exact runApp6_worked hworker
  case jobDone mode epoch status wire =>
    cases hstep
    unfold State.finishJob
    dsimp only
    split
    · exact ⟨rfl, nofun, fun h ↦ by rw [hworker]; exact h, rfl, rfl, rfl, .kept rfl rfl,
        .kept rfl rfl le_rfl⟩
    · exact ⟨rfl, nofun, fun h ↦ by rw [hworker]; exact h, rfl, rfl, rfl, .kept rfl rfl,
        .kept rfl rfl le_rfl⟩

/-- The commit touches no job, and it installs only keys that were pending. -/
theorem commitPhase7_store :
    let store := (state.commitPhase7 platform view).2.store
    (store.jobPending = state.store.jobPending ∧ store.pendingJobMode = state.store.pendingJobMode ∧
        store.pendingPhase7Epoch = state.store.pendingPhase7Epoch) ∧
      (store.session5 = state.store.session5 ∧ store.session6 = state.store.session6 ∧
        store.phase5Epoch = state.store.phase5Epoch) ∧
      store.phase7Epoch = state.store.phase7Epoch ∧
      (store.session7 = state.store.session7 ∨ store.session7 = .zero ∨
        state.store.phase7TrafficPending = true ∧ store.Quiet) := by
  unfold State.commitPhase7
  split
  · exact ⟨⟨rfl, rfl, rfl⟩, ⟨rfl, rfl, rfl⟩, rfl, .inl rfl⟩
  rename_i hready
  obtain ⟨-, hpending, hwait, -⟩ := commitReady_eq_ok_iff.mp hready
  dsimp only
  split
  · split
    · exact ⟨⟨rfl, rfl, rfl⟩, ⟨rfl, rfl, rfl⟩, rfl, .inr (.inr ⟨hpending, hwait, rfl⟩)⟩
    · exact ⟨⟨rfl, rfl, rfl⟩, ⟨rfl, rfl, rfl⟩, rfl, .inr (.inl rfl)⟩
  · exact ⟨⟨rfl, rfl, rfl⟩, ⟨rfl, rfl, rfl⟩, rfl, .inr (.inr ⟨hpending, hwait, rfl⟩)⟩

/-- The step of a callback that commits. -/
theorem Worked.commit {before : State} (hjob : state.worker.isPhase7 = true)
    (hbefore : before.store = state.store)
    (hstore : next.store = (before.commitPhase7 platform view).2.store)
    (hepoch : next.workerEpoch = state.workerEpoch) (hworker : next.worker.epoch = none) :
    Worked state next := by
  obtain ⟨⟨hpending, hmode, hsubmitted⟩, ⟨hsession5, hsession6, hphase5⟩, hphase7, hsession⟩ :=
    @commitPhase7_store platform before view
  rw [← hstore, hbefore] at hpending hmode hsubmitted hsession5 hsession6 hphase5 hphase7 hsession
  refine ⟨hepoch, fun epoch hnext ↦ absurd (hworker.symm.trans hnext) nofun, fun _ ↦ hjob, hpending,
    hmode, hsubmitted, ?_, .kept hsession5 hsession6 hphase5.ge⟩
  rcases hsession with hkept | hwiped | ⟨htraffic, hquiet⟩
  · exact .kept hkept hphase7
  · exact .wiped hwiped hphase7.ge
  · exact .promoted hjob htraffic hquiet hphase7

/-- The step of a callback that resets Phase 7. -/
theorem Worked.reset7 (hjob : next.worker.isPhase7 = true → state.worker.isPhase7 = true)
    {store : Store} (hstore : next.store = store.resetPhase7)
    (hepoch : next.workerEpoch = state.workerEpoch) (hworker : next.worker.epoch = none)
    (hqueued : store.jobPending = state.store.jobPending ∧
      store.pendingJobMode = state.store.pendingJobMode ∧
      store.pendingPhase7Epoch = state.store.pendingPhase7Epoch)
    (hsessions : store.session5 = state.store.session5 ∧ store.session6 = state.store.session6 ∧
      store.phase5Epoch = state.store.phase5Epoch)
    (hphase7 : store.phase7Epoch = state.store.phase7Epoch) : Worked state next := by
  refine ⟨hepoch, fun epoch hnext ↦ absurd (hworker.symm.trans hnext) nofun, hjob, ?_, ?_, ?_,
    .wiped ?_ ?_, .kept ?_ ?_ ?_⟩ <;> rw [hstore]
  · exact hqueued.1
  · exact hqueued.2.1
  · exact hqueued.2.2
  · rfl
  · exact hphase7.ge.trans (Nat.le_succ _)
  · exact hsessions.1
  · exact hsessions.2.1
  · exact hsessions.2.2.ge

theorem deliverSerialized_worked {mode : JobMode} {valid : Bool} {status : JobStatus} {wire : Bytes}
    {conn : Conn} (hworker : state.worker = .deliver mode valid status wire conn)
    (hmode : mode.isPhase7 = true) :
    Worked state (state.deliverSerialized platform mode valid wire conn view) := by
  have hjob : state.worker.isPhase7 = true := by rw [hworker]; exact hmode
  obtain ⟨hqueued, hsessions, hphase7, -⟩ :=
    @commitPhase7_store platform (state.notify conn wire view) view
  unfold State.deliverSerialized
  dsimp only
  split
  · split
    · split
      · exact .quiet rfl nofun nofun rfl
      · split
        · refine @Worked.commit platform _ _ view (state.notify conn wire view) hjob rfl rfl ?_ rfl
          rw [(@commitPhase7_frame platform (state.notify conn wire view) view).1]
          rfl
        · refine .reset7 nofun rfl ?_ rfl hqueued hsessions hphase7
          rw [(@commitPhase7_frame platform (state.notify conn wire view) view).1]
          rfl
    · exact .reset7 nofun rfl rfl rfl ⟨rfl, rfl, rfl⟩ ⟨rfl, rfl, rfl⟩ rfl
  · exact .quiet rfl nofun nofun rfl

theorem afterDelivery_isPhase7 (mode : JobMode) (valid sent : Bool) (conn : Conn) :
    (State.afterDelivery mode valid sent conn).epoch = none ∧
      ((State.afterDelivery mode valid sent conn).isPhase7 = true → mode.isPhase7 = true) := by
  cases mode <;> cases valid <;> cases sent <;>
    simp [State.afterDelivery, Worker.epoch, Worker.isPhase7, JobMode.isPhase7]

/-- **Every step of the worker** but the taking of a job. -/
theorem workerStep_worked (hbusy : state.worker ≠ .idle)
    (hstep : state.workerStep platform view = some next) : Worked state next := by
  by_cases hjob : state.worker.inJob = true
  · exact inJob_worked hjob hstep
  unfold State.workerStep at hstep
  cases hworker : state.worker <;> rw [hworker] at hstep hjob
  all_goals try exact absurd rfl hjob
  case idle => exact absurd hworker hbusy
  case callback mode status wire =>
    cases hstep
    rcases @resultReady_worker platform state mode status wire with hidle | ⟨conn, -, -, hdeliver⟩
    · refine .quiet rfl ?_ ?_ rfl <;> rw [hidle] <;> exact nofun
    · refine .quiet rfl ?_ ?_ rfl <;> rw [hdeliver]
      · exact nofun
      · rw [hworker]
        exact fun h ↦ h
  case deliver mode valid status wire conn =>
    cases hstep
    unfold State.deliver
    split
    · rename_i hserial
      refine deliverSerialized_worked hworker ?_
      rcases hserial.2 with rfl | rfl <;> rfl
    · obtain ⟨hepoch, hphase7⟩ := afterDelivery_isPhase7 mode valid view.sent conn
      refine .quiet rfl (fun epoch h ↦ absurd (hepoch.symm.trans h) nofun) (fun h ↦ ?_) rfl
      rw [hworker]
      exact hphase7 h
  case ready7 conn =>
    cases hstep
    exact .quiet rfl nofun nofun rfl
  case commit7 conn =>
    have hnext : next = { (state.commitPhase7 platform view).2 with
        worker := if (state.commitPhase7 platform view).1 then .promoted7 conn else .failed7 conn } :=
      (Option.some.inj hstep).symm
    refine @Worked.commit platform _ _ view state (by rw [hworker]; rfl) rfl ?_ ?_ ?_ <;> rw [hnext]
    · rw [(@commitPhase7_frame platform state view).1]
    · dsimp only
      split <;> rfl
  case promoted7 conn =>
    cases hstep
    exact .quiet rfl nofun nofun rfl
  case failed7 conn =>
    cases hstep
    exact .quiet rfl nofun (fun _ ↦ by rw [hworker]; rfl) rfl
  case reset7 =>
    cases hstep
    exact .reset7 nofun rfl rfl rfl ⟨rfl, rfl, rfl⟩ ⟨rfl, rfl, rfl⟩ rfl
  case failed5 conn =>
    cases hstep
    exact .quiet rfl nofun nofun rfl
  case reset5 =>
    cases hstep
    exact ⟨rfl, nofun, nofun, rfl, rfl, rfl, .kept rfl rfl, .wiped rfl rfl (Nat.le_succ _)⟩

/-! ## What the Bluetooth host does -/

/-- What a step outside the worker does to the epochs and the queued job. -/
structure Hosted (state next : State) : Prop where
  worker : next.worker = state.worker
  epoch : next.workerEpoch = state.workerEpoch
  phase5 : state.store.phase5Epoch ≤ next.store.phase5Epoch
  phase7 : state.store.phase7Epoch ≤ next.store.phase7Epoch
  quiet : state.store.Quiet ∨ state.store.phase7Epoch < next.store.phase7Epoch → next.store.Quiet
  queued : next.store.jobPending = true → next.store.pendingJobMode.isPhase7 = true →
    next.store.pendingPhase7Epoch = next.store.phase7Epoch ∨
      state.store.jobPending = true ∧ state.store.pendingJobMode.isPhase7 = true ∧
        next.store.pendingPhase7Epoch = state.store.pendingPhase7Epoch

/-- A step that leaves the store alone. -/
theorem Hosted.same (hworker : next.worker = state.worker)
    (hepoch : next.workerEpoch = state.workerEpoch) (hstore : next.store = state.store) :
    Hosted state next where
  worker := hworker
  epoch := hepoch
  phase5 := by rw [hstore]
  phase7 := by rw [hstore]
  quiet := by
    rw [hstore]
    exact fun h ↦ h.elim id fun hlt ↦ absurd hlt (lt_irrefl _)
  queued hpending hmode := by
    rw [hstore] at hpending hmode ⊢
    exact .inr ⟨hpending, hmode, rfl⟩

/-- A step that moves the epoch of Phase 7 and leaves no handshake under way. -/
theorem Hosted.renewed (hworker : next.worker = state.worker)
    (hepoch : next.workerEpoch = state.workerEpoch)
    (hphase5 : state.store.phase5Epoch ≤ next.store.phase5Epoch)
    (hphase7 : next.store.phase7Epoch = state.store.phase7Epoch + 1) (hquiet : next.store.Quiet)
    (hqueued : next.store.pendingPhase7Epoch = next.store.phase7Epoch ∨
      next.store.jobPending = state.store.jobPending ∧
        next.store.pendingJobMode = state.store.pendingJobMode ∧
        next.store.pendingPhase7Epoch = state.store.pendingPhase7Epoch) : Hosted state next where
  worker := hworker
  epoch := hepoch
  phase5 := hphase5
  phase7 := hphase7.ge.trans' (Nat.le_succ _)
  quiet _ := hquiet
  queued hpending hmode := hqueued.imp id fun ⟨hsame, hkept, hsubmitted⟩ ↦
    ⟨hsame ▸ hpending, hkept ▸ hmode, hsubmitted⟩

/-- A step that leaves Phase 7 alone; a Phase 7 job that it queues carries the current epoch. -/
theorem Hosted.aside (hworker : next.worker = state.worker)
    (hepoch : next.workerEpoch = state.workerEpoch)
    (hphase5 : state.store.phase5Epoch ≤ next.store.phase5Epoch)
    (hphase7 : next.store.phase7Epoch = state.store.phase7Epoch)
    (hsession : next.store.session7 = state.store.session7)
    (hqueued : next.store.pendingJobMode.isPhase7 = true →
      next.store.pendingPhase7Epoch = next.store.phase7Epoch ∨
        next.store.jobPending = state.store.jobPending ∧
          next.store.pendingJobMode = state.store.pendingJobMode ∧
          next.store.pendingPhase7Epoch = state.store.pendingPhase7Epoch) : Hosted state next where
  worker := hworker
  epoch := hepoch
  phase5 := hphase5
  phase7 := hphase7.ge
  quiet := by
    rw [hphase7]
    rintro (⟨hwait, htraffic⟩ | hlt)
    · exact ⟨(congrArg Session7.waitFinished hsession).trans hwait,
        (congrArg Session7.trafficPending hsession).trans htraffic⟩
    · exact absurd hlt (lt_irrefl _)
  queued hpending hmode := (hqueued hmode).imp id fun ⟨hsame, hkept, hsubmitted⟩ ↦
    ⟨hsame ▸ hpending, hkept ▸ hmode, hsubmitted⟩

theorem Hosted.refused (h : state.Refused next) : Hosted state next := by
  obtain ⟨generation, transfer, rfl, -⟩ := h
  exact .same rfl rfl rfl

theorem handleResume_hosted (conn : Conn) (data : Bytes) (input : Resumption.ControlInput)
    (link : LinkView) : Hosted state (state.handleResume platform conn data input link).2 := by
  have hreset : ∀ {next : State}, next.worker = state.worker →
      next.workerEpoch = state.workerEpoch → next.store = state.store.resetPhase7 →
      Hosted state next := by
    intro next hworker hepoch hstore
    refine .renewed hworker hepoch ?_ ?_ ?_ (.inr ⟨?_, ?_, ?_⟩) <;> rw [hstore]
    all_goals first | rfl | exact le_rfl | exact ⟨rfl, rfl⟩
  unfold State.handleResume
  split
  · dsimp only
    split
    · unfold State.installResumed
      split
      · exact hreset rfl rfl rfl
      dsimp only
      split
      · exact hreset rfl rfl rfl
      rename_i store hinstall
      obtain ⟨-, rfl⟩ := installPhase8Application_eq_ok_iff.mp hinstall
      exact .renewed rfl rfl le_rfl rfl ⟨rfl, rfl⟩ (.inr ⟨rfl, rfl, rfl⟩)
    · exact hreset rfl rfl rfl
  · exact .same rfl rfl rfl

/-- The jobs of the older phases leave Phase 7 alone. -/
theorem queueJob_frame (store : Store) (mode : JobMode) (ct : Bytes) (sid : Block 16) (centralKey : Bytes) :
    (store.queueJob mode ct sid centralKey).pendingJobMode = mode ∧
      (store.queueJob mode ct sid centralKey).phase7Epoch = store.phase7Epoch ∧
      (store.queueJob mode ct sid centralKey).session7 = store.session7 ∧
      store.phase5Epoch ≤ (store.queueJob mode ct sid centralKey).phase5Epoch := by
  unfold Store.queueJob
  dsimp only
  split
  · exact ⟨rfl, rfl, rfl, Nat.le_succ _⟩
  · exact ⟨rfl, rfl, rfl, le_rfl⟩

theorem not_isPhase7 {mode : JobMode} (hdecapsulates : mode.decapsulates = true)
    (hother : mode ≠ .phase7AuthStart) : ¬mode.isPhase7 = true := by
  revert hdecapsulates hother
  cases mode <;> decide

theorem call_hosted (hcall : state.call platform action = some next) : Hosted state next := by
  unfold State.call at hcall
  split at hcall
  · split at hcall <;> cases hcall
    exact .same rfl rfl rfl
  · cases hcall
    unfold State.disconnected
    dsimp only
    split <;> split <;> exact .same rfl rfl rfl
  · cases hcall
    unfold State.cccConfigChanged
    dsimp only
    split <;> exact .same rfl rfl rfl
  · cases hcall
    exact .refused State.writeCiphertext_refused
  · split at hcall <;> cases hcall
    rename_i conn mode sid centralKey mtu hmode
    obtain hrefused | ⟨-, -, -, -, store, hsubmit, hnext⟩ :=
      @State.handleStart_cases state conn mode sid centralKey mtu
    · exact .refused hrefused
    rw [hnext]
    obtain ⟨-, -, ⟨-, rfl⟩ | ⟨hother, rfl⟩⟩ := State.submitStart_eq_ok hsubmit
    · exact .renewed rfl rfl (Nat.le_succ _) rfl ⟨rfl, rfl⟩ (.inl rfl)
    · obtain ⟨hpending, hphase7, hsession, hphase5⟩ := queueJob_frame state.store mode
        state.main.transfer.ciphertext sid centralKey
      refine .aside rfl rfl hphase5 hphase7 hsession fun hjob ↦ ?_
      exact absurd (hpending ▸ hjob) (not_isPhase7 hmode.1 hother)
  · split at hcall <;> cases hcall
    rename_i conn mode payload _
    obtain hrefused | ⟨-, -, hmode, store, hsubmit, hnext⟩ :=
      @State.handlePhase5WorkerCommand_cases state conn mode payload
    · exact .refused hrefused
    rw [hnext]
    obtain ⟨-, rfl⟩ := submitPhase5Command_eq_ok hsubmit
    refine .aside rfl rfl le_rfl rfl rfl fun hphase7 ↦ ?_
    rcases hmode with rfl | rfl <;> exact Bool.noConfusion hphase7
  · cases hcall
    rename_i conn payload
    obtain hrefused | ⟨-, -, store, hsubmit, hnext⟩ := @State.handlePhase7FinishedC_cases state conn payload
    · exact .refused hrefused
    rw [hnext]
    obtain ⟨-, rfl⟩ := submitPhase7FinishedC_eq_ok_iff.mp hsubmit
    exact .aside rfl rfl le_rfl rfl rfl fun _ ↦ .inl rfl
  · cases hcall
    rename_i conn data offset
    obtain hrefused | ⟨-, ⟨-, store, hsubmit, hnext⟩ | ⟨-, -, store, hsubmit, hnext⟩⟩ :=
      @State.writeSecureData_cases state conn data offset
    · exact .refused hrefused
    · rw [hnext]
      obtain ⟨-, rfl⟩ := submitPhase7C2p_eq_ok_iff.mp hsubmit
      exact .aside rfl rfl le_rfl rfl rfl fun _ ↦ .inl rfl
    · rw [hnext]
      obtain ⟨-, rfl⟩ := submitPhase6C2p_eq_ok hsubmit
      exact .aside rfl rfl le_rfl rfl rfl nofun
  · split at hcall <;> cases hcall
    exact handleResume_hosted _ _ _ _
  · split at hcall <;> cases hcall
    exact .same rfl rfl rfl
  · split at hcall <;> cases hcall
    exact .same rfl rfl rfl
  · cases hcall

theorem hostStep_hosted (hstep : state.hostStep = some next) : Hosted state next := by
  unfold State.hostStep at hstep
  split at hstep <;> cases hstep
  · exact .aside rfl rfl (Nat.le_succ _) rfl rfl fun _ ↦ .inr ⟨rfl, rfl, rfl⟩
  · exact .renewed rfl rfl le_rfl rfl ⟨rfl, rfl⟩ (.inr ⟨rfl, rfl, rfl⟩)
  · exact .same rfl rfl rfl
  · split
    · exact .renewed rfl rfl le_rfl rfl ⟨rfl, rfl⟩ (.inr ⟨rfl, rfl, rfl⟩)
    · exact .same rfl rfl rfl

/-! ## The invariant -/

/-- The epochs of the job that the worker holds and of the queued one: once such a job is outdated, no
handshake of Phase 7 is under way. -/
structure Dated (state : State) : Prop where
  carried : ∀ epoch, state.worker.epoch = some epoch → epoch = state.workerEpoch
  taken : state.worker.isPhase7 = true →
    Fenced state.workerEpoch state.store.phase7Epoch state.store.Quiet
  queued : state.store.jobPending = true → state.store.pendingJobMode.isPhase7 = true →
    Fenced state.store.pendingPhase7Epoch state.store.phase7Epoch state.store.Quiet

theorem dated_boot : Dated State.boot := ⟨nofun, nofun, nofun⟩

theorem Dated.hosted (h : Dated state) (hhosted : Hosted state next) : Dated next where
  carried epoch hepoch := by
    rw [hhosted.worker] at hepoch
    exact (h.carried epoch hepoch).trans hhosted.epoch.symm
  taken hjob := by
    rw [hhosted.worker] at hjob
    rw [hhosted.epoch]
    exact (h.taken hjob).later hhosted.phase7 hhosted.quiet
  queued hpending hmode := by
    rcases hhosted.queued hpending hmode with hcurrent | ⟨hbefore, hphase7, hsame⟩
    · rw [hcurrent]
      exact .submitted
    · rw [hsame]
      exact (h.queued hbefore hphase7).later hhosted.phase7 hhosted.quiet

/-- A job starts with its mode and the epoch it was submitted under. -/
theorem jobStart_epoch (store : Store) :
    (State.jobStart store).epoch = some (State.pendingEpoch store) ∧
      (State.jobStart store).isPhase7 = store.pendingJobMode.isPhase7 := by
  unfold State.jobStart
  dsimp only
  cases store.pendingJobMode <;> exact ⟨rfl, rfl⟩

theorem Dated.takeJob (h : Dated state) (hidle : state.worker = .idle)
    (hstep : state.takeJob = some next) : Dated next := by
  unfold State.takeJob at hstep
  dsimp only at hstep
  split at hstep
  · cases hstep
  rename_i hpending
  split at hstep <;> cases hstep
  · refine ⟨fun epoch hepoch ↦ ?_, fun hjob ↦ ?_, nofun⟩
    · rw [hidle] at hepoch
      cases hepoch
    · rw [hidle] at hjob
      cases hjob
  obtain ⟨hepoch, hphase7⟩ := jobStart_epoch state.store
  have hquiet : ∀ {store : Store}, store = { state.store with jobPending := false, jobActive := true } ∨
      store = { state.store with jobPending := false, jobActive := true }.clearPhase5 →
      state.store.pendingJobMode.isPhase7 = true →
      Fenced (State.pendingEpoch state.store) store.phase7Epoch store.Quiet := by
    intro store hstore hmode
    rw [State.pendingEpoch, if_pos hmode]
    have hfenced := h.queued (by simpa using hpending) hmode
    rcases hstore with rfl | rfl <;> exact hfenced
  refine ⟨fun epoch hcarried ↦ ?_, fun hjob ↦ hquiet ?_ ?_, fun hagain ↦ ?_⟩
  · dsimp only at hcarried ⊢
    split at hcarried
    · exact Option.some.inj (hcarried.symm.trans hepoch)
    · exact (Option.some.inj hcarried).symm
  · dsimp only
    split
    · exact .inr rfl
    · exact .inl rfl
  · dsimp only at hjob
    split at hjob
    · exact hphase7 ▸ hjob
    · exact hjob
  · dsimp only at hagain
    split at hagain <;> cases hagain

/-- The steps of a job keep the invariant: a job commits only while it is not outdated. -/
theorem Dated.worked (h : Dated state) (hslot : Slot state) (hworked : Worked state next) : Dated next := by
  have hfenced : ∀ {epoch : ℕ}, Fenced epoch state.store.phase7Epoch state.store.Quiet →
      (state.worker.inJob = true → SameU32 state.workerEpoch state.store.phase7Epoch →
        Fenced epoch state.store.phase7Epoch next.store.Quiet) →
      Fenced epoch next.store.phase7Epoch next.store.Quiet := by
    intro epoch hbefore hcommit
    rcases hworked.move7 with ⟨hsession, hepoch⟩ | ⟨hsession, hepoch⟩ | ⟨own, hcarried, hjob, hsame, hepoch⟩ |
      ⟨hjob, hpending, hquiet, hepoch⟩
    · refine hbefore.later hepoch.ge ?_
      rw [hepoch]
      rintro (⟨hwait, htraffic⟩ | hlt)
      · exact ⟨(congrArg Session7.waitFinished hsession).trans hwait,
          (congrArg Session7.trafficPending hsession).trans htraffic⟩
      · exact absurd hlt (lt_irrefl _)
    · exact hbefore.later hepoch fun _ ↦
        ⟨congrArg Session7.waitFinished hsession, congrArg Session7.trafficPending hsession⟩
    · rw [hepoch]
      have hrunning : state.worker.inJob = true := by
        revert hcarried
        cases state.worker <;> first | exact fun _ ↦ rfl | exact nofun
      exact hcommit hrunning (h.carried own hcarried ▸ hsame)
    · exact hbefore.later hepoch.ge fun _ ↦ hquiet
  refine ⟨fun epoch hcarried ↦ ?_, fun hjob ↦ ?_, fun hpending hmode ↦ ?_⟩
  · rw [hworked.epoch]
    exact h.carried epoch (hworked.carried epoch hcarried)
  · have hbefore := h.taken (hworked.job hjob)
    rw [hworked.epoch]
    exact hfenced hbefore fun _ hsame ↦ hbefore.committed hsame
  · rw [hworked.pending] at hpending
    rw [hworked.mode] at hmode
    rw [hworked.submitted]
    refine hfenced (h.queued hpending hmode) fun hrunning _ ↦ ?_
    exact Bool.noConfusion ((hslot.alone (.inl hrunning)).1.symm.trans hpending)

/-- **Every step of the firmware keeps the invariant.** -/
theorem Dated.step (h : Dated state) (hslot : Slot state)
    (hstep : step platform state action = some next) : Dated next := by
  unfold Legacy.step at hstep
  split at hstep
  · rename_i view
    by_cases hidle : state.worker = .idle
    · rw [State.workerStep, hidle] at hstep
      exact h.takeJob hidle hstep
    · exact h.worked hslot (workerStep_worked hidle hstep)
  · exact h.hosted (hostStep_hosted hstep)
  · split at hstep <;> cases hstep
    exact h.hosted (.same rfl rfl rfl)
  · split at hstep
    · exact h.hosted (call_hosted hstep)
    · cases hstep

/-- The epochs never go back. -/
theorem epochs_step (hstep : step platform state action = some next) :
    state.store.phase5Epoch ≤ next.store.phase5Epoch ∧
      state.store.phase7Epoch ≤ next.store.phase7Epoch := by
  have hhosted : Hosted state next → state.store.phase5Epoch ≤ next.store.phase5Epoch ∧
      state.store.phase7Epoch ≤ next.store.phase7Epoch := fun h ↦ ⟨h.phase5, h.phase7⟩
  unfold Legacy.step at hstep
  split at hstep
  · by_cases hidle : state.worker = .idle
    · rw [State.workerStep, hidle] at hstep
      unfold State.takeJob at hstep
      dsimp only at hstep
      split at hstep
      · cases hstep
      split at hstep <;> cases hstep
      · exact ⟨le_rfl, le_rfl⟩
      · dsimp only
        split <;> exact ⟨le_rfl, le_rfl⟩
    · obtain ⟨-, -, -, -, -, -, hmove7, hmove5⟩ := workerStep_worked hidle hstep
      constructor
      · rcases hmove5 with ⟨-, -, h⟩ | ⟨-, -, h⟩ | ⟨-, -, h⟩ | ⟨_, -, -, -, h⟩ <;> exact h
      · rcases hmove7 with ⟨-, h⟩ | ⟨-, h⟩ | ⟨_, -, -, -, h⟩ | ⟨-, -, -, h⟩
        · exact h.ge
        · exact h
        · exact h.ge
        · exact h.ge
  · exact hhosted (hostStep_hosted hstep)
  · split at hstep <;> cases hstep
    exact ⟨le_rfl, le_rfl⟩
  · split at hstep
    · exact hhosted (call_hosted hstep)
    · cases hstep

theorem epochs_run {actions : List Action} (hrun : run (step platform) state actions = some next) :
    state.store.phase5Epoch ≤ next.store.phase5Epoch ∧
      state.store.phase7Epoch ≤ next.store.phase7Epoch :=
  run_frame (R := fun (state next : State) ↦ state.store.phase5Epoch ≤ next.store.phase5Epoch ∧
      state.store.phase7Epoch ≤ next.store.phase7Epoch) (fun _ ↦ ⟨le_rfl, le_rfl⟩)
    (fun _ _ _ h h' ↦ ⟨h.1.trans h'.1, h.2.trans h'.2⟩) (fun _ _ _ h ↦ epochs_step h) hrun

theorem run_dated {actions : List Action} (hrun : run (step platform) State.boot actions = some state) :
    Slot state ∧ Dated state :=
  run_invariant (P := fun state ↦ Slot state ∧ Dated state)
    (fun _ _ _ h hstep ↦ ⟨h.1.step hstep, h.2.step h.1 hstep⟩) ⟨slot_boot, dated_boot⟩ hrun

end Steps

/-! ## What an older job can still do -/

/-- The Phase 7 job that the worker holds was submitted before a reset that started at `before`, and its
epoch has not come round again. -/
def State.Older7 (state before : State) : Prop :=
  state.worker.isPhase7 = true → state.workerEpoch ≤ before.store.phase7Epoch ∧
    state.store.phase7Epoch < state.workerEpoch + 2 ^ 32

/-- The Phase 5 or Phase 6 job that the worker holds was submitted before such a reset. -/
def State.Older5 (state before : State) : Prop :=
  state.worker.isPhase5 = true → state.workerEpoch ≤ before.store.phase5Epoch ∧
    state.store.phase5Epoch < state.workerEpoch + 2 ^ 32

/-- What a job from before a reset of Phase 7 does after it: it leaves the session as it is or clears it. -/
structure Spares7 (state next : State) : Prop where
  session : next.store.session7 = state.store.session7 ∨ next.store.session7 = .zero

/-- What a job from before a reset of Phases 5 and 6 does after it. -/
structure Spares5 (state next : State) : Prop where
  session5 : next.store.session5 = state.store.session5 ∨ next.store.session5 = .zero
  session6 : next.store.session6 = state.store.session6 ∨ next.store.session6 = .zero

section Older

variable {platform : Platform} {before after state next : State} {reset : Action} {view : WorkerView}
  {past later : List Action}

/-- The taking of a job installs nothing. -/
theorem takeJob_spares (hstep : state.takeJob = some next) : Spares7 state next ∧ Spares5 state next := by
  unfold State.takeJob at hstep
  dsimp only at hstep
  split at hstep
  · cases hstep
  split at hstep <;> cases hstep
  · exact ⟨⟨.inl rfl⟩, ⟨.inl rfl, .inl rfl⟩⟩
  · refine ⟨⟨.inl ?_⟩, ⟨?_, .inl ?_⟩⟩ <;> dsimp only <;> split
    · rfl
    · rfl
    · exact .inr rfl
    · exact .inl rfl
    · rfl
    · rfl

/-- An outdated job of Phase 7 installs nothing. -/
theorem Dated.spares7 (h : Dated state) (hold : state.worker.isPhase7 = true →
      Outdated state.workerEpoch state.store.phase7Epoch)
    (hstep : state.workerStep platform view = some next) : Spares7 state next := by
  by_cases hidle : state.worker = .idle
  · rw [State.workerStep, hidle] at hstep
    exact (takeJob_spares hstep).1
  rcases (workerStep_worked hidle hstep).move7 with ⟨hsession, -⟩ | ⟨hsession, -⟩ |
    ⟨epoch, hcarried, hjob, hsame, -⟩ | ⟨hjob, hpending, -, -⟩
  · exact ⟨.inl hsession⟩
  · exact ⟨.inr hsession⟩
  · exact absurd (h.carried epoch hcarried ▸ hsame) (hold hjob).not_sameU32
  · have hquiet := (h.taken hjob).2 (hold hjob)
    exact Bool.noConfusion (hquiet.2.symm.trans hpending)

/-- An outdated job of Phase 5 or 6 installs nothing. -/
theorem Dated.spares5 (h : Dated state) (hold : state.worker.isPhase5 = true →
      Outdated state.workerEpoch state.store.phase5Epoch)
    (hstep : state.workerStep platform view = some next) : Spares5 state next := by
  by_cases hidle : state.worker = .idle
  · rw [State.workerStep, hidle] at hstep
    exact (takeJob_spares hstep).2
  rcases (workerStep_worked hidle hstep).move5 with ⟨hsession5, hsession6, -⟩ | ⟨hsession5, hsession6, -⟩ |
    ⟨hsession5, hsession6, -⟩ | ⟨epoch, hcarried, hjob, hsame, -⟩
  · exact ⟨.inl hsession5, .inl hsession6⟩
  · exact ⟨.inr hsession5, .inl hsession6⟩
  · exact ⟨.inr hsession5, .inr hsession6⟩
  · exact absurd (h.carried epoch hcarried ▸ hsame) (hold hjob).not_sameU32

/-- **After a reset**, a job from before it installs nothing. -/
theorem older_job_spares (hpast : run (step platform) State.boot past = some before)
    (hreset : step platform before reset = some after)
    (hlater : run (step platform) after later = some state)
    (hstep : state.workerStep platform view = some next) :
    (before.store.phase7Epoch < after.store.phase7Epoch → state.Older7 before → Spares7 state next) ∧
      (before.store.phase5Epoch < after.store.phase5Epoch → state.Older5 before →
        Spares5 state next) := by
  have hrun : run (step platform) State.boot (past ++ reset :: later) = some state := by
    rw [run_append, hpast, Option.bind_some, run_cons, hreset, Option.bind_some, hlater]
  obtain ⟨-, hdated⟩ := run_dated hrun
  obtain ⟨hphase5, hphase7⟩ := epochs_run hlater
  constructor
  · intro hmoved holder
    refine hdated.spares7 (fun hjob ↦ ?_) hstep
    obtain ⟨hsubmitted, hturn⟩ := holder hjob
    exact ⟨(hsubmitted.trans_lt hmoved).trans_le hphase7, hturn⟩
  · intro hmoved holder
    refine hdated.spares5 (fun hjob ↦ ?_) hstep
    obtain ⟨hsubmitted, hturn⟩ := holder hjob
    exact ⟨(hsubmitted.trans_lt hmoved).trans_le hphase5, hturn⟩

end Older

end PqBleHandshake.Legacy
