import PqBleHandshake.Legacy.Worker

/-!
# The worker's slot in v0.7 and v0.8

What holds between any two steps about the job in flight: it owns the slot, the transfer stays busy until
its result is taken up, and unless its connection is gone the current connection waits for it.  A later
connection therefore never submits before the first section of an overtaken callback.
-/

namespace PqBleHandshake.Legacy

open Foundation

/-- The modes of Phase 7, its CP2 check included. -/
def JobMode.isHybrid (mode : JobMode) : Bool := mode.isPhase7 || mode = .phase7HybridCp2

namespace Worker

/-- The worker runs a Phase 7 job or delivers its result. -/
def isHybrid : Worker → Bool
  | .decapsulate mode _ | .jobDone mode _ _ _ | .callback mode _ _ | .deliver mode _ _ _ _ => mode.isHybrid
  | .finished7 _ _ _ _ | .app7 _ _ | .ready7 _ | .commit7 _ | .promoted7 _ | .failed7 _ | .reset7 => true
  | _ => false

/-- The worker holds the slot: it has taken a job and not released it. -/
def inJob : Worker → Bool
  | .decapsulate _ _ | .finished7 _ _ _ _ | .app7 _ _ | .finished5 _ _ _ _ | .data5 _ _ _ | .app6 _ _
  | .jobDone _ _ _ _ => true
  | _ => false

/-- The epoch that a running job was submitted under. -/
def epoch : Worker → Option ℕ
  | .decapsulate _ epoch | .finished7 epoch _ _ _ | .app7 epoch _ | .finished5 epoch _ _ _
  | .data5 epoch _ _ | .app6 epoch _ | .jobDone _ epoch _ _ => some epoch
  | _ => none

/-- The worker is about to run the first section of the result callback. -/
def atResult : Worker → Bool
  | .callback _ _ _ => true
  | _ => false

end Worker

namespace State

/-- A job is queued or running, or its result is not taken up yet. -/
def InFlight (state : State) : Prop :=
  state.store.jobPending = true ∨ state.worker.inJob = true ∨ state.worker.atResult = true

/-- The current connection waits for the result of its job. -/
def Waits (state : State) : Prop :=
  state.main.cryptoJobConn.isSome = true ∧ state.main.cryptoJobConn = state.main.currentConn

end State

/-- What holds between any two steps about the job in flight. -/
structure Slot (state : State) : Prop where
  active : state.store.jobActive = state.worker.inJob
  alone : state.worker.inJob = true ∨ state.worker.atResult = true →
    state.store.jobPending = false ∧ state.jobGeneration = state.workerGeneration
  busy : state.InFlight → state.main.transfer.state = .cryptoBusy
  stale : state.InFlight → state.jobGeneration ≠ state.main.connectionGeneration →
    state.main.phase7State = .idle ∧ state.main.phase5State = .idle
  waits : state.InFlight → state.jobGeneration = state.main.connectionGeneration → state.Waits
  owner : state.Waits → state.jobGeneration = state.main.connectionGeneration
  order : state.workerGeneration ≤ state.jobGeneration ∧
    state.jobGeneration ≤ state.main.connectionGeneration
  conn : ∀ conn, state.worker.conn = some conn →
    state.workerGeneration = state.main.connectionGeneration ∨ state.main.currentConn ≠ some conn

theorem slot_boot : Slot State.boot := by
  constructor <;> simp [State.boot, Main.boot, Store.boot, Worker.inJob, Worker.atResult, Worker.conn,
    State.InFlight, State.Waits]

section Calls

variable {platform : Platform} {state next : State} {conn : Conn}

theorem Slot.refused (h : Slot state) (hrefused : state.Refused next) : Slot next := by
  obtain ⟨generation, transfer, rfl, htransfer⟩ := hrefused
  refine ⟨h.active, h.alone, fun hflight ↦ ?_, h.stale, h.waits, h.owner, h.order, h.conn⟩
  rcases htransfer (h.busy hflight) with hbusy | ⟨hnone, hphase⟩
  · exact hbusy
  · by_cases hgeneration : state.jobGeneration = state.main.connectionGeneration
    · exact absurd (h.waits hflight hgeneration).1 (by rw [hnone]; exact Bool.false_ne_true)
    · obtain ⟨hphase7, hphase5⟩ := h.stale hflight hgeneration
      exact hphase.elim (absurd hphase7) (absurd hphase5)

/-- Nothing is in flight when a job can be submitted. -/
theorem Slot.not_inFlight (h : Slot state) (hfree : state.Free conn)
    (hready : state.main.transfer.state ≠ .cryptoBusy ∨ state.main.phase7State ≠ .idle ∨
      state.main.phase5State ≠ .idle) : ¬state.InFlight := by
  obtain ⟨-, -, hnone, -⟩ := hfree
  intro hflight
  by_cases hgeneration : state.jobGeneration = state.main.connectionGeneration
  · exact absurd (h.waits hflight hgeneration).1 (by rw [hnone]; exact Bool.false_ne_true)
  · obtain ⟨hphase7, hphase5⟩ := h.stale hflight hgeneration
    exact hready.elim (absurd (h.busy hflight)) (fun hne ↦ hne.elim (absurd hphase7) (absurd hphase5))

/-- The connection submits a job: the slot was free, so nothing else is in flight. -/
theorem Slot.accepted {store : Store} {phase5 : Phase5State} {phase7 : Phase7State} {transfer : Transfer}
    (h : Slot state) (hfree : state.Free conn) (hready : state.main.transfer.state ≠ .cryptoBusy ∨
      state.main.phase7State ≠ .idle ∨ state.main.phase5State ≠ .idle)
    (hactive : store.jobActive = state.store.jobActive)
    (htransfer : transfer.state = .cryptoBusy) :
    Slot (state.accepted conn store phase5 phase7 transfer) := by
  have hflight := h.not_inFlight hfree hready
  exact ⟨hactive.trans h.active, fun hjob ↦ absurd (.inr hjob) hflight, fun _ ↦ htransfer,
    fun _ hne ↦ absurd rfl hne, fun _ _ ↦ ⟨rfl, hfree.1.symm⟩, fun _ ↦ rfl,
    ⟨h.order.1.trans h.order.2, le_rfl⟩, h.conn⟩

theorem Slot.handleStart (h : Slot state) (mode : JobMode) (sid : Block 16) (centralKey : Bytes)
    (mtu : ℕ) : Slot (state.handleStart conn mode sid centralKey mtu).2 := by
  obtain hrefused | ⟨hfree, hready, -, -, store, hsubmit, hnext⟩ := @State.handleStart_cases state conn
    mode sid centralKey mtu
  · exact h.refused hrefused
  rw [hnext]
  have hnotBusy : state.main.transfer.state ≠ .cryptoBusy := by rw [hready]; exact nofun
  obtain ⟨-, -, ⟨-, rfl⟩ | ⟨-, rfl⟩⟩ := State.submitStart_eq_ok hsubmit
  · exact h.accepted hfree (.inl hnotBusy) rfl rfl
  · exact h.accepted hfree (.inl hnotBusy) (by unfold Store.queueJob; split_ifs <;> rfl) rfl

theorem Slot.handlePhase5WorkerCommand (h : Slot state) (mode : JobMode) (payload : Block 32) :
    Slot (state.handlePhase5WorkerCommand conn mode payload).2 := by
  obtain hrefused | ⟨hfree, hphase5, -, store, hsubmit, hnext⟩ :=
    @State.handlePhase5WorkerCommand_cases state conn mode payload
  · exact h.refused hrefused
  rw [hnext]
  obtain ⟨-, rfl⟩ := submitPhase5Command_eq_ok hsubmit
  refine h.accepted hfree (.inr (.inr ?_)) rfl rfl
  rw [hphase5, State.expectedPhase5]
  split_ifs <;> rintro ⟨⟩

theorem Slot.handlePhase7FinishedC (h : Slot state) (payload : Block 32) :
    Slot (state.handlePhase7FinishedC conn payload).2 := by
  obtain hrefused | ⟨hfree, hphase7, store, hsubmit, hnext⟩ :=
    @State.handlePhase7FinishedC_cases state conn payload
  · exact h.refused hrefused
  rw [hnext]
  obtain ⟨-, rfl⟩ := submitPhase7FinishedC_eq_ok_iff.mp hsubmit
  exact h.accepted hfree (.inr (.inl (by rw [hphase7]; exact nofun))) rfl rfl

theorem Slot.writeSecureData (h : Slot state) (data : Bytes) (offset : ℕ) :
    Slot (state.writeSecureData conn data offset).2 := by
  obtain hrefused | ⟨hfree, ⟨hphase7, store, hsubmit, hnext⟩ | ⟨-, hphase5, store, hsubmit, hnext⟩⟩ :=
    @State.writeSecureData_cases state conn data offset
  · exact h.refused hrefused
  · rw [hnext]
    obtain ⟨-, rfl⟩ := submitPhase7C2p_eq_ok_iff.mp hsubmit
    exact h.accepted hfree (.inr (.inl (by rw [hphase7]; exact nofun))) rfl rfl
  · rw [hnext]
    obtain ⟨-, rfl⟩ := submitPhase6C2p_eq_ok hsubmit
    exact h.accepted hfree (.inr (.inr (by rw [hphase5]; exact nofun))) rfl rfl

/-- What keeps the link, and takes up no job and no result, keeps the invariant. -/
theorem Slot.kept (h : Slot state) (hmain : next.main = { state.main with
      notifyEnabled := next.main.notifyEnabled, phase5State := next.main.phase5State
      phase7State := next.main.phase7State })
    (hphase7 : next.main.phase7State = state.main.phase7State ∨ next.main.phase7State = .idle ∨
      state.jobGeneration = state.main.connectionGeneration)
    (hphase5 : next.main.phase5State = state.main.phase5State ∨ next.main.phase5State = .idle ∨
      state.jobGeneration = state.main.connectionGeneration)
    (hactive : next.store.jobActive = next.worker.inJob)
    (hpending : next.store.jobPending = state.store.jobPending)
    (hjob : next.jobGeneration = state.jobGeneration)
    (htaken : next.workerGeneration = state.workerGeneration)
    (hworker : next.worker.inJob = true ∨ next.worker.atResult = true →
      state.worker.inJob = true ∨ state.worker.atResult = true)
    (hconn : ∀ conn, next.worker.conn = some conn → state.worker.conn = some conn) : Slot next := by
  have hcurrent : next.main.currentConn = state.main.currentConn := by rw [hmain]
  have hcrypto : next.main.cryptoJobConn = state.main.cryptoJobConn := by rw [hmain]
  have hgeneration : next.main.connectionGeneration = state.main.connectionGeneration := by rw [hmain]
  have htransfer : next.main.transfer = state.main.transfer := by rw [hmain]
  have hflies : next.InFlight → state.InFlight := fun hflight ↦
    hflight.imp (hpending.symm.trans ·) hworker
  have hwaiting : next.Waits ↔ state.Waits := by
    unfold State.Waits
    rw [hcrypto, hcurrent]
  refine ⟨hactive, fun hruns ↦ ?alone, fun hflight ↦ ?busy, fun hflight hne ↦ ?stale, fun hflight heq ↦ ?waits,
    fun hwaits ↦ ?owner, ?order, fun held hheld ↦ ?conn⟩
  case alone =>
    obtain ⟨hnone, hsame⟩ := h.alone (hworker hruns)
    exact ⟨hpending.trans hnone, hjob.trans (hsame.trans htaken.symm)⟩
  case busy =>
    rw [htransfer]
    exact h.busy (hflies hflight)
  case stale =>
    rw [hjob, hgeneration] at hne
    obtain ⟨hidle7, hidle5⟩ := h.stale (hflies hflight) hne
    constructor
    · rcases hphase7 with hsame | hidle | hown
      · exact hsame.trans hidle7
      · exact hidle
      · exact absurd hown hne
    · rcases hphase5 with hsame | hidle | hown
      · exact hsame.trans hidle5
      · exact hidle
      · exact absurd hown hne
  case waits =>
    rw [hjob, hgeneration] at heq
    exact hwaiting.mpr (h.waits (hflies hflight) heq)
  case owner =>
    rw [hjob, hgeneration]
    exact h.owner (hwaiting.mp hwaits)
  case order =>
    rw [htaken, hjob, hgeneration]
    exact h.order
  case conn =>
    rw [htaken, hgeneration, hcurrent]
    exact h.conn held (hconn held hheld)

/-- What changes neither the jobs nor the link keeps the invariant. -/
theorem Slot.frame (h : Slot state) (hmain : next.main = { state.main with
      notifyEnabled := next.main.notifyEnabled, phase5State := next.main.phase5State
      phase7State := next.main.phase7State })
    (hphase7 : next.main.phase7State = state.main.phase7State ∨ next.main.phase7State = .idle ∨
      state.jobGeneration = state.main.connectionGeneration)
    (hphase5 : next.main.phase5State = state.main.phase5State ∨ next.main.phase5State = .idle ∨
      state.jobGeneration = state.main.connectionGeneration)
    (hactive : next.store.jobActive = state.store.jobActive)
    (hpending : next.store.jobPending = state.store.jobPending)
    (hworker : next.worker = state.worker) (hjob : next.jobGeneration = state.jobGeneration)
    (htaken : next.workerGeneration = state.workerGeneration) : Slot next := by
  refine h.kept hmain hphase7 hphase5 ?_ hpending hjob htaken ?_ ?_
  · rw [hactive, hworker]
    exact h.active
  · rw [hworker]
    exact id
  · rw [hworker]
    exact fun _ ↦ id

theorem Slot.cccConfigChanged (h : Slot state) (enabled : Bool) (now : ℤ) :
    Slot (state.cccConfigChanged platform enabled now) := by
  unfold State.cccConfigChanged
  dsimp only
  split
  · exact h.frame rfl (.inl rfl) (.inl rfl) rfl rfl rfl rfl rfl
  · exact h.frame rfl (.inr (.inl rfl)) (.inr (.inl rfl)) rfl rfl rfl rfl rfl

/-- A new generation makes every job in flight stale. -/
theorem Slot.renewed (h : Slot state) (hstore : next.store = state.store)
    (hworker : next.worker = state.worker) (hphase7 : next.main.phase7State = .idle)
    (hphase5 : next.main.phase5State = .idle) (hjob : next.jobGeneration = state.jobGeneration)
    (htaken : next.workerGeneration = state.workerGeneration)
    (hlater : next.main.connectionGeneration = state.main.connectionGeneration + 1)
    (htransfer : state.main.transfer.state = .cryptoBusy → next.main.transfer.state = .cryptoBusy)
    (hconn : ∀ conn, next.main.currentConn = some conn →
      state.worker.conn ≠ some conn ∧ next.main.cryptoJobConn ≠ some conn) : Slot next := by
  have hnone : ¬next.Waits := by
    rintro ⟨hsome, hwaits⟩
    obtain ⟨held, hheld⟩ := Option.isSome_iff_exists.mp hsome
    exact (hconn held (hwaits ▸ hheld)).2 hheld
  have hflies : next.InFlight → state.InFlight := by
    unfold State.InFlight
    rw [hstore, hworker]
    exact id
  have hbehind : next.jobGeneration < next.main.connectionGeneration := by
    rw [hjob, hlater]
    exact Nat.lt_succ_of_le h.order.2
  refine ⟨?active, fun hruns ↦ ?alone, fun hflight ↦ htransfer (h.busy (hflies hflight)),
    fun _ _ ↦ ⟨hphase7, hphase5⟩, fun _ heq ↦ absurd heq hbehind.ne, fun hwaits ↦ absurd hwaits hnone,
    ⟨?taken, hbehind.le⟩, fun held hheld ↦ .inr fun hcurrent ↦ (hconn held hcurrent).1 (hworker ▸ hheld)⟩
  case active =>
    rw [hstore, hworker]
    exact h.active
  case alone =>
    rw [hworker] at hruns
    rw [hstore, hjob, htaken]
    exact h.alone hruns
  case taken =>
    rw [htaken, hjob]
    exact h.order.1

theorem Slot.connected (h : Slot state) (hfresh : ¬state.Referenced conn) (clock now : ℤ) :
    Slot (state.connected platform conn clock now) := by
  refine h.renewed rfl rfl rfl rfl rfl rfl rfl (fun hbusy ↦ ?_) fun held hheld ↦ ?_
  · simp only [State.connected, hbusy, ne_eq, not_true_eq_false, if_false]
  · cases hheld
    exact ⟨fun hworker ↦ hfresh (.inr (.inr hworker)), fun hjob ↦ hfresh (.inr (.inl hjob))⟩

theorem Slot.disconnectCurrent (h : Slot state) (now : ℤ) :
    Slot (state.disconnectCurrent platform conn now) := by
  refine h.renewed rfl rfl rfl rfl rfl rfl rfl (fun hbusy ↦ ?_) fun held hheld ↦ ?_
  · simp only [State.disconnectCurrent, Transfer.clearStorage_state, hbusy, ne_eq, not_true_eq_false,
      if_false]
  · exact absurd hheld (by simp [State.disconnectCurrent])

theorem Slot.disconnected (h : Slot state) (now : ℤ) :
    Slot (state.disconnected platform conn now) := by
  have hreleased : ∀ {state : State}, Slot state → state.main.currentConn ≠ some conn →
      state.main.cryptoJobConn = some conn → Slot { state with
        main := { state.main with cryptoJobConn := none }, host := [.resetPhase5, .resetPhase7] } := by
    intro state h hcurrent hjob
    refine ⟨h.active, h.alone, h.busy, h.stale, fun hflight heq ↦ ?_, fun hwaits ↦ absurd hwaits.1 nofun,
      h.order, h.conn⟩
    exact absurd ((h.waits hflight heq).2.symm.trans hjob) hcurrent
  unfold State.disconnected
  by_cases hcurrent : state.main.currentConn = some conn
  · rw [if_pos hcurrent]
    dsimp only
    split
    · rename_i hjob
      exact hreleased (h.disconnectCurrent now) (by simp [State.disconnectCurrent]) hjob
    · exact h.disconnectCurrent now
  · rw [if_neg hcurrent]
    dsimp only
    split
    · rename_i hjob
      exact hreleased h hcurrent hjob
    · exact h

theorem Slot.resetToIdle (h : Slot state) : Slot state.resetToIdle :=
  h.frame rfl (.inr (.inl rfl)) (.inl rfl) rfl rfl rfl rfl rfl

theorem Slot.hostStep (h : Slot state) (hstep : state.hostStep = some next) : Slot next := by
  unfold State.hostStep at hstep
  split at hstep
  · cases hstep
  · cases hstep
    exact h.frame rfl (.inl rfl) (.inl rfl) rfl rfl rfl rfl rfl
  · cases hstep
    exact h.frame rfl (.inl rfl) (.inl rfl) rfl rfl rfl rfl rfl
  · cases hstep
    exact h.frame rfl (.inr (.inl rfl)) (.inl rfl) rfl rfl rfl rfl rfl
  · cases hstep
    split
    · exact h.resetToIdle.frame rfl (.inl rfl) (.inl rfl) rfl rfl rfl rfl rfl
    · exact h.frame rfl (.inl rfl) (.inl rfl) rfl rfl rfl rfl rfl

/-- What a committed resumption installs for the data path leaves the jobs alone. -/
theorem Slot.installResumed (h : Slot state) (hfree : state.main.transfer.state ≠ .cryptoBusy)
    (view : LinkView) (now : ℤ) : Slot (state.installResumed platform conn view now).2 := by
  have hidle : ¬state.InFlight := fun hflight ↦ hfree (h.busy hflight)
  unfold State.installResumed
  split
  · exact h.frame rfl (.inl rfl) (.inl rfl) rfl rfl rfl rfl rfl
  dsimp only
  split
  · exact h.frame rfl (.inl rfl) (.inl rfl) rfl rfl rfl rfl rfl
  rename_i store hinstall
  obtain ⟨-, rfl⟩ := installPhase8Application_eq_ok_iff.mp hinstall
  exact ⟨h.active, h.alone, fun hflight ↦ absurd hflight hidle, fun hflight ↦ absurd hflight hidle,
    fun hflight ↦ absurd hflight hidle, h.owner, h.order, h.conn⟩

theorem Slot.handleResume (h : Slot state) (data : Bytes) (input : Resumption.ControlInput)
    (view : LinkView) : Slot (state.handleResume platform conn data input view).2 := by
  unfold State.handleResume
  split
  · rename_i hready
    obtain ⟨-, -, -, hfree, -⟩ := hready
    have hcontrolled : ∀ service outbox, Slot { state.resetToIdle with service, outbox } :=
      fun _ _ ↦ h.resetToIdle.frame rfl (.inl rfl) (.inl rfl) rfl rfl rfl rfl rfl
    dsimp only
    split
    · exact (hcontrolled _ _).installResumed hfree view view.uptime
    · exact hcontrolled _ _
  · exact h

/-- Every callback of the Bluetooth host keeps the invariant. -/
theorem Slot.call (h : Slot state) {action : Action} (hcall : state.call platform action = some next) :
    Slot next := by
  unfold State.call at hcall
  split at hcall
  · split at hcall
    · cases hcall
    · rename_i hfresh
      cases hcall
      exact h.connected hfresh _ _
  · cases hcall
    exact h.disconnected _
  · cases hcall
    exact h.cccConfigChanged _ _
  · cases hcall
    exact h.refused State.writeCiphertext_refused
  · split at hcall
    · cases hcall
      exact h.handleStart _ _ _ _
    · cases hcall
  · split at hcall
    · cases hcall
    · cases hcall
      exact h.handlePhase5WorkerCommand _ _
  · cases hcall
    exact h.handlePhase7FinishedC _
  · cases hcall
    exact h.writeSecureData _ _
  · split at hcall
    · cases hcall
      exact h.handleResume _ _ _
    · cases hcall
  · split at hcall
    · cases hcall
      exact h.frame rfl (.inl rfl) (.inl rfl) rfl rfl rfl rfl rfl
    · cases hcall
  · split at hcall
    · cases hcall
      exact h.frame rfl (.inl rfl) (.inl rfl) rfl rfl rfl rfl rfl
    · cases hcall
  · cases hcall

end Calls

/-! ## Steps of the worker -/

section WorkerSteps

variable {platform : Platform} {state next : State} {view : WorkerView}

/-- A step of the worker that takes up no job and no result. -/
theorem Slot.move (h : Slot state) (hmain : next.main = { state.main with
      phase5State := next.main.phase5State, phase7State := next.main.phase7State })
    (hphase7 : next.main.phase7State = state.main.phase7State ∨ next.main.phase7State = .idle ∨
      state.jobGeneration = state.main.connectionGeneration)
    (hphase5 : next.main.phase5State = state.main.phase5State ∨ next.main.phase5State = .idle)
    (hactive : next.store.jobActive = next.worker.inJob)
    (hpending : next.store.jobPending = state.store.jobPending)
    (hjob : next.jobGeneration = state.jobGeneration)
    (htaken : next.workerGeneration = state.workerGeneration)
    (hinJob : next.worker.inJob = true ∨ next.worker.atResult = true → state.worker.inJob = true)
    (hconn : ∀ conn, next.worker.conn = some conn → state.worker.conn = some conn) : Slot next := by
  refine h.kept ?_ hphase7 (hphase5.imp_right .inl) hactive hpending hjob htaken
    (fun hruns ↦ .inl (hinJob hruns)) hconn
  have hnotify : next.main.notifyEnabled = state.main.notifyEnabled := by rw [hmain]
  rw [hnotify]
  exact hmain

theorem jobStart_cases (store : Store) :
    (State.jobStart store).inJob = true ∧ (State.jobStart store).conn = none := by
  unfold State.jobStart
  dsimp only
  split <;> exact ⟨rfl, rfl⟩

theorem Slot.takeJob (h : Slot state)
    (hstep : state.takeJob = some next) : Slot next := by
  unfold State.takeJob at hstep
  dsimp only at hstep
  split at hstep
  · cases hstep
  rename_i hpending
  have hflight : state.InFlight := .inl (by simpa using hpending)
  split at hstep
  · cases hstep
    exact ⟨h.active, fun hruns ↦ ⟨rfl, (h.alone hruns).2⟩, fun _ ↦ h.busy hflight, fun _ ↦ h.stale hflight,
      fun _ ↦ h.waits hflight, h.owner, h.order, h.conn⟩
  cases hstep
  obtain ⟨hstart, hconn⟩ := jobStart_cases state.store
  obtain ⟨worker, hnext, hinJob, hnone⟩ : ∃ worker, (if decide (State.jobValid state.store) = true then
      State.jobStart state.store else Worker.jobDone state.store.pendingJobMode
        (State.pendingEpoch state.store) .invalidProtocolState []) = worker ∧
      worker.inJob = true ∧ worker.conn = none := by
    refine ⟨_, rfl, ?_⟩
    split
    · exact ⟨hstart, hconn⟩
    · exact ⟨rfl, rfl⟩
  rw [hnext]
  refine ⟨?_, fun _ ↦ ⟨?_, rfl⟩, fun _ ↦ h.busy hflight, fun _ ↦ h.stale hflight,
    fun _ ↦ h.waits hflight, h.owner, ⟨le_rfl, h.order.2⟩, fun held hheld ↦ ?_⟩
  · dsimp only
    split <;> exact hinJob.symm
  · dsimp only
    split <;> rfl
  · exact absurd (hnone.symm.trans hheld) nofun

/-- A step inside a job changes the store and the worker only. -/
theorem inJob_step (hjob : state.worker.inJob = true) (hactive : state.store.jobActive = true)
    (hstep : state.workerStep platform view = some next) :
    next = { state with store := next.store, worker := next.worker, crc := next.crc } ∧
      next.store.jobPending = state.store.jobPending ∧ next.store.jobActive = next.worker.inJob ∧
      next.worker.conn = none ∧ next.worker.isHybrid = state.worker.isHybrid := by
  unfold State.workerStep at hstep
  cases hworker : state.worker <;> rw [hworker] at hstep hjob
  all_goals try cases hjob
  all_goals cases hstep
  · unfold State.runDecapsulate Store.discardStart
    dsimp only [State.failJob, State.finish]
    repeat' split
    all_goals exact ⟨rfl, rfl, hactive, rfl, rfl⟩
  · unfold State.runFinished7
    dsimp only [State.failJob, State.finish]
    repeat' split
    all_goals exact ⟨rfl, rfl, hactive, rfl, rfl⟩
  · unfold State.runApp7
    dsimp only [State.failJob, State.finish]
    repeat' split
    all_goals exact ⟨rfl, rfl, hactive, rfl, rfl⟩
  · unfold State.runFinished5
    dsimp only [State.failJob, State.finish]
    repeat' split
    all_goals exact ⟨rfl, rfl, hactive, rfl, rfl⟩
  · unfold State.runData5
    dsimp only [State.failJob, State.finish]
    split
    all_goals exact ⟨rfl, rfl, hactive, rfl, rfl⟩
  · unfold State.runApp6
    dsimp only [State.failJob, State.finish]
    repeat' split
    all_goals exact ⟨rfl, rfl, hactive, rfl, rfl⟩
  · unfold State.finishJob
    dsimp only
    split
    all_goals exact ⟨rfl, rfl, rfl, rfl, rfl⟩

/-- A job found in the first section of the callback is the one of the current connection. -/
theorem waits_of_jobCurrent (h : State.jobCurrent state.main = true) : state.Waits := by
  simp only [State.jobCurrent, Bool.and_eq_true, decide_eq_true_eq] at h
  exact ⟨h.1.1.1, h.1.1.2⟩

/-- After its first section the callback holds the connection of its job, or has ended. -/
theorem resultReady_worker (mode : JobMode) (status : JobStatus) (wire : Bytes) :
    (state.resultReady platform mode status wire).worker = .idle ∨
      ∃ conn, State.jobCurrent state.main = true ∧ state.main.currentConn = some conn ∧
        (state.resultReady platform mode status wire).worker =
          .deliver mode (State.resultValid platform.version mode status wire) status wire conn := by
  dsimp only [State.resultReady]
  split
  · rename_i conn hconn
    split
    · rename_i hcurrent
      exact .inr ⟨conn, hcurrent, ((waits_of_jobCurrent hcurrent).2.symm.trans hconn), rfl⟩
    · exact .inl rfl
  · exact .inl rfl

theorem Slot.resultReady (h : Slot state) {mode : JobMode} {status : JobStatus} {wire : Bytes}
    (hworker : state.worker = .callback mode status wire) :
    Slot (state.resultReady platform mode status wire) := by
  have hresult : state.worker.atResult = true := by rw [hworker]; rfl
  have hactive : state.store.jobActive = false := by rw [h.active, hworker]; rfl
  obtain ⟨hpending, hsame⟩ := h.alone (.inr hresult)
  have hstored : (state.resultReady platform mode status wire).store = state.store := rfl
  have hquiet : (state.resultReady platform mode status wire).worker.inJob = false ∧
      (state.resultReady platform mode status wire).worker.atResult = false := by
    rcases resultReady_worker mode status wire with hidle | ⟨conn, -, -, hdeliver⟩
    · rw [hidle]
      exact ⟨rfl, rfl⟩
    · rw [hdeliver]
      exact ⟨rfl, rfl⟩
  have hflight : ¬(state.resultReady platform mode status wire).InFlight := by
    rintro (hpend | hjob | hat)
    · exact Bool.noConfusion (hpending.symm.trans hpend)
    · exact Bool.noConfusion (hquiet.1.symm.trans hjob)
    · exact Bool.noConfusion (hquiet.2.symm.trans hat)
  refine ⟨hactive.trans hquiet.1.symm, fun hjob ↦ absurd (.inr hjob) hflight,
    fun hflies ↦ absurd hflies hflight, fun hflies ↦ absurd hflies hflight,
    fun hflies ↦ absurd hflies hflight, fun hwaits ↦ absurd hwaits.1 Bool.false_ne_true, h.order,
    fun held hheld ↦ ?_⟩
  rcases resultReady_worker mode status wire with hidle | ⟨conn, hcurrent, -, -⟩
  · rw [hidle] at hheld
    exact absurd hheld nofun
  · exact .inl (hsame.symm.trans (h.owner (waits_of_jobCurrent hcurrent)))

/-- A Phase 7 callback that holds the current connection belongs to the current generation. -/
theorem Slot.generation_eq (h : Slot state) {conn : Conn} (hconn : state.worker.conn = some conn)
    (hcurrent : state.main.currentConn = some conn) :
    state.workerGeneration = state.main.connectionGeneration ∧
      state.jobGeneration = state.main.connectionGeneration := by
  have htaken := (h.conn conn hconn).resolve_right (fun hne ↦ hne hcurrent)
  exact ⟨htaken, le_antisymm h.order.2 (htaken ▸ h.order.1)⟩

theorem afterDelivery_cases (mode : JobMode) (valid sent : Bool) (conn : Conn) :
    (State.afterDelivery mode valid sent conn).inJob = false ∧
      (State.afterDelivery mode valid sent conn).atResult = false ∧
      ∀ held, (State.afterDelivery mode valid sent conn).conn = some held → held = conn := by
  cases mode <;> cases valid <;> cases sent <;>
    simp [State.afterDelivery, Worker.inJob, Worker.atResult, Worker.conn, eq_comm]

/-- The commit touches neither the jobs nor the protocol state. -/
theorem commitPhase7_frame :
    (state.commitPhase7 platform view).2 = { state with
        store := (state.commitPhase7 platform view).2.store
        service := (state.commitPhase7 platform view).2.service
        installed := (state.commitPhase7 platform view).2.installed } ∧
      (state.commitPhase7 platform view).2.store.jobPending = state.store.jobPending ∧
      (state.commitPhase7 platform view).2.store.jobActive = state.store.jobActive := by
  unfold State.commitPhase7
  split
  · exact ⟨rfl, rfl, rfl⟩
  dsimp only
  split
  · split
    · exact ⟨rfl, rfl, rfl⟩
    · exact ⟨rfl, rfl, rfl⟩
  · exact ⟨rfl, rfl, rfl⟩

theorem Slot.deliverSerialized (h : Slot state) {mode : JobMode} {valid : Bool} {status : JobStatus}
    {wire : Bytes} {conn : Conn} (hworker : state.worker = .deliver mode valid status wire conn) :
    Slot (state.deliverSerialized platform mode valid wire conn view) := by
  have hactive : state.store.jobActive = false := by rw [h.active, hworker]; rfl
  have hended : ∀ {next : State}, next.worker = .idle → next.store.jobActive = false →
      next.store.jobPending = state.store.jobPending → next.main = { state.main with
        phase7State := next.main.phase7State } → next.jobGeneration = state.jobGeneration →
      next.workerGeneration = state.workerGeneration →
      (next.main.phase7State = state.main.phase7State ∨ next.main.phase7State = .idle ∨
        state.jobGeneration = state.main.connectionGeneration) → Slot next := by
    intro next hidle hfree hpending hmain hjob htaken hphase7
    refine h.move ?_ hphase7 (.inl (by rw [hmain])) (by rw [hidle, hfree]; rfl) hpending hjob htaken
      (by rw [hidle]; exact fun hjob ↦ (hjob.elim nofun nofun)) (by rw [hidle]; exact nofun)
    rw [hmain]
  obtain ⟨hframe, hpending, hcommit⟩ := @commitPhase7_frame platform (state.notify conn wire view) view
  unfold State.deliverSerialized
  dsimp only
  split
  · rename_i hlive
    have hgeneration := (h.generation_eq (by rw [hworker]; rfl) hlive.1).2
    split
    · split
      · exact hended rfl hactive rfl rfl rfl rfl (.inr (.inr hgeneration))
      · split
        · refine hended rfl (hcommit.trans hactive) hpending rfl ?_ ?_ (.inr (.inr hgeneration))
          · rw [hframe]
            rfl
          · rw [hframe]
            rfl
        · refine hended rfl (hcommit.trans hactive) hpending ?_ ?_ ?_ (.inr (.inl rfl))
          · rw [hframe]
            rfl
          · rw [hframe]
            rfl
          · rw [hframe]
            rfl
    · exact hended rfl hactive rfl rfl rfl rfl (.inr (.inl rfl))
  · exact hended rfl hactive rfl rfl rfl rfl (.inl rfl)

/-- A later section of the callback writes `phase7_state` for its own generation only. -/
theorem Slot.writePhase7 (h : Slot state) {conn : Conn} {worker : Worker} (phase7 : Phase7State)
    (hactive : state.store.jobActive = false) (hconn : state.worker.conn = some conn)
    (hworker : worker = .idle ∨ worker = .reset7) : Slot (state.writePhase7 conn phase7 worker) := by
  refine h.move rfl ?_ (.inl rfl) ?_ rfl rfl rfl ?_ ?_
  · dsimp only [State.writePhase7]
    split
    · rename_i hcurrent
      exact .inr (.inr (h.generation_eq hconn hcurrent).2)
    · exact .inl rfl
  · rcases hworker with rfl | rfl <;> exact hactive
  · rcases hworker with rfl | rfl <;> exact fun hjob ↦ hjob.elim nofun nofun
  · rcases hworker with rfl | rfl <;> exact nofun

theorem Slot.commit7 (h : Slot state) {conn : Conn} (hworker : state.worker = .commit7 conn) :
    Slot { (state.commitPhase7 platform view).2 with
      worker := if (state.commitPhase7 platform view).1 then .promoted7 conn else .failed7 conn } := by
  obtain ⟨hframe, hpending, hactive⟩ := @commitPhase7_frame platform state view
  have hmain : (state.commitPhase7 platform view).2.main = state.main := by rw [hframe]
  refine h.move (by rw [hmain]) (.inl (by rw [hmain])) (.inl (by rw [hmain])) ?_ hpending
    (by rw [hframe]) (by rw [hframe]) ?_ ?_
  · rw [hactive, h.active, hworker]
    dsimp only
    split <;> rfl
  · dsimp only
    split <;> exact fun hjob ↦ hjob.elim nofun nofun
  · rw [hworker]
    dsimp only
    split <;> exact fun held hheld ↦ hheld

/-- **Every step of the worker keeps the invariant.** -/
theorem Slot.workerStep (h : Slot state) (hstep : state.workerStep platform view = some next) :
    Slot next := by
  by_cases hjob : state.worker.inJob = true
  · obtain ⟨hnext, hpending, hactive, hconn, -⟩ := inJob_step hjob (h.active.trans hjob) hstep
    rw [hnext]
    exact h.move rfl (.inl rfl) (.inl rfl) hactive hpending rfl rfl (fun _ ↦ hjob)
      (fun held hheld ↦ absurd (hconn.symm.trans hheld) nofun)
  have hactive : state.store.jobActive = false := by rw [h.active]; simpa using hjob
  unfold State.workerStep at hstep
  cases hworker : state.worker <;> rw [hworker] at hstep hjob
  all_goals try exact absurd rfl hjob
  case idle => exact h.takeJob hstep
  case callback mode status wire =>
    cases hstep
    exact h.resultReady hworker
  case deliver mode valid status wire conn =>
    cases hstep
    unfold State.deliver
    split
    · exact h.deliverSerialized hworker
    · obtain ⟨hafter, hresult, hconn⟩ := afterDelivery_cases mode valid view.sent conn
      refine h.move rfl (.inl rfl) (.inl rfl) (hactive.trans hafter.symm) rfl rfl rfl ?_ ?_
      · rintro (hinJob | hat)
        · exact Bool.noConfusion (hafter.symm.trans hinJob)
        · exact Bool.noConfusion (hresult.symm.trans hat)
      · intro held hheld
        rw [hworker, hconn held hheld]
        rfl
  case ready7 conn =>
    cases hstep
    exact h.writePhase7 _ hactive (by rw [hworker]; rfl) (.inl rfl)
  case promoted7 conn =>
    cases hstep
    exact h.writePhase7 _ hactive (by rw [hworker]; rfl) (.inl rfl)
  case failed7 conn =>
    cases hstep
    exact h.writePhase7 _ hactive (by rw [hworker]; rfl) (.inr rfl)
  case commit7 conn =>
    have hnext : next = { (state.commitPhase7 platform view).2 with
        worker := if (state.commitPhase7 platform view).1 then .promoted7 conn else .failed7 conn } :=
      (Option.some.inj hstep).symm
    rw [hnext]
    exact h.commit7 hworker
  case reset7 =>
    cases hstep
    exact h.move rfl (.inl rfl) (.inl rfl) hactive rfl rfl rfl (fun hjob ↦ hjob.elim nofun nofun) nofun
  case failed5 conn =>
    cases hstep
    refine h.move rfl (.inl rfl) ?_ hactive rfl rfl rfl (fun hjob ↦ hjob.elim nofun nofun) nofun
    dsimp only
    split
    · exact .inr rfl
    · exact .inl rfl
  case reset5 =>
    cases hstep
    exact h.move rfl (.inl rfl) (.inl rfl) hactive rfl rfl rfl (fun hjob ↦ hjob.elim nofun nofun) nofun

end WorkerSteps

/-- **Every step of the firmware keeps the invariant.** -/
theorem Slot.step {platform : Platform} {state next : State} {action : Action} (h : Slot state)
    (hstep : step platform state action = some next) : Slot next := by
  unfold Legacy.step at hstep
  split at hstep
  · exact h.workerStep hstep
  · exact h.hostStep hstep
  · split at hstep
    · cases hstep
      exact h.frame rfl (.inl rfl) (.inl rfl) rfl rfl rfl rfl rfl
    · cases hstep
  · split at hstep
    · exact h.call hstep
    · cases hstep

end PqBleHandshake.Legacy
