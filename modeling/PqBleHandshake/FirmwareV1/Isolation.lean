import PqBleHandshake.FirmwareV1.Gate

/-!
# Isolation of connection generations

A crypto job outlives the connection that submitted it.  `Flight` is what holds between any two steps
about the job in flight and the flags that guard it: while a job of an older generation is anywhere
between its submission and the end of its callback, no attempt is under way, no fragment is stored, and
no connection object that the callback kept is the current one.  `generation_isolation` derives that such
a job changes nothing of the later generation.
-/

namespace PqBleHandshake.FirmwareV1

open Foundation

namespace Worker

/-- Inside a CP3 or CP4 job, up to the first section of its callback. -/
@[simp]
def inJob : Worker → Bool
  | .startResult _ | .finishedTake _ | .finishedStore _ _ | .cp4Live _ | .cp4Snapshot _
  | .cp4Recheck _ _ _ | .cp4Encrypt _ _ _ | .cp4Ready _ _ | .cp3Callback _ _ _ | .cp4Callback _ _ => true
  | .jobDone mode _ _ _ => mode ≠ .v1Cp2
  | _ => false

/-- Inside the callback of a CP3 or CP4 job, after its first section. -/
@[simp]
def inDelivery : Worker → Bool
  | .cp3Send _ _ _ _ _ _ | .cp3Settle _ _ _ _ _ | .cp4Check _ _ _ | .cp4Send _ _ _ _
  | .cp4Settle _ _ _ => true
  | _ => false

/-- Inside a CP2 job, up to the section that ends it. -/
@[simp]
def inCp2 : Worker → Bool
  | .cp2Result _ | .cp2Callback _ _ | .cp2Check _ _ _ _ _ | .cp2Send _ _ _ | .cp2Settle => true
  | .jobDone mode _ _ _ => mode = .v1Cp2
  | _ => false

/-- The connection object that a callback holds a reference to. -/
@[simp]
def conn : Worker → Option Conn
  | .cp3Send _ _ _ conn _ _ | .cp3Settle _ _ conn _ _ | .cp4Settle conn _ _
  | .cp2Check _ _ conn _ _ | .cp2Send _ conn _ => conn
  | .cp4Check conn _ _ | .cp4Send conn _ _ _ => some conn
  | _ => none

/-- A job is in flight. -/
def busy (worker : Worker) : Bool := worker.inJob || worker.inDelivery || worker.inCp2

theorem running_inJob {worker : Worker} {mode : JobMode} {epoch : ℕ}
    (h : worker.running = some (mode, epoch)) : worker.inJob = true := by
  cases worker <;> first | rfl | cases h

variable {worker : Worker}

theorem busy_iff : worker.busy = true ↔
    worker.inJob = true ∨ worker.inDelivery = true ∨ worker.inCp2 = true := by
  rw [busy, Bool.or_eq_true, Bool.or_eq_true, or_assoc]

theorem busy_eq_false_iff : worker.busy = false ↔
    worker.inJob = false ∧ worker.inDelivery = false ∧ worker.inCp2 = false := by
  rw [busy, Bool.or_eq_false_iff, Bool.or_eq_false_iff, and_assoc]

/-- A delivery comes after the job. -/
theorem not_inJob_of_inDelivery (h : worker.inDelivery = true) : worker.inJob = false ∧ worker.inCp2 = false := by
  cases worker <;> first | exact ⟨rfl, rfl⟩ | cases h

theorem running_eq_none (h : worker.inJob = false) : worker.running = none := by
  cases worker <;> first | rfl | cases h

end Worker

namespace State

/-- A connection object that the application holds a reference to. -/
def Referenced (state : State) (conn : Conn) : Prop :=
  state.main.currentConn = some conn ∨ state.main.v1Cp3Conn = some conn ∨
    state.main.cryptoJobConn = some conn ∨ state.worker.conn = some conn

instance (state : State) (conn : Conn) : Decidable (state.Referenced conn) :=
  inferInstanceAs (Decidable (_ ∨ _))

end State

/-- The stack does not reuse a referenced connection object for a new connection. -/
def Admissible (state : State) : Action → Prop
  | .connected conn _ _ _ => ¬state.Referenced conn
  | _ => True

instance (state : State) (action : Action) : Decidable (Admissible state action) := by
  cases action <;> unfold Admissible <;> infer_instance

/-- A job that an older generation submitted is waiting or in flight. -/
def State.Stale (state : State) : Prop :=
  (state.store.jobPending = true ∨ state.worker.busy = true) ∧
    state.jobGeneration ≠ state.main.connectionGeneration

/-- What holds between any two steps about the job in flight. -/
structure Flight (state : State) : Prop where
  owner : state.main.v1Cp3Conn ≠ none → state.main.v1Cp3State ≠ .idle ∧
    state.jobGeneration = state.main.connectionGeneration
  pending : state.store.jobPending = true → state.store.pendingJobMode ≠ .v1Cp2 →
    state.main.v1Cp3WorkerActive = true
  pendingCp2 : state.store.jobPending = true → state.store.pendingJobMode = .v1Cp2 →
    state.main.v1Cp2Active = true ∧ state.main.transfer.state = .cryptoBusy ∧
      state.main.v1Cp3Conn = none
  job : state.worker.inJob = true → state.main.v1Cp3WorkerActive = true
  delivery : state.worker.inDelivery = true → state.main.v1Cp3DeliveryActive = true
  cp2 : state.worker.inCp2 = true → state.main.v1Cp2Active = true ∧
    state.main.transfer.state = .cryptoBusy ∧ state.store.jobActive = true
  alone : state.worker.inJob = true ∨ state.worker.inCp2 = true → state.store.jobPending = false
  clear : state.main.transfer.state = .cryptoBusy → state.main.transfer.Clear
  stale : state.Stale → state.main.v1Cp3State = .idle ∧ state.main.v1Cp2Valid = false ∧
    state.main.transfer.Clear
  epoch : state.store.v1Cp3Epoch = state.store.pendingV1Cp3Epoch + state.jobResets
  resets : state.jobGeneration ≠ state.main.connectionGeneration → 1 ≤ state.jobResets
  running : ∀ mode epoch, state.worker.running = some (mode, epoch) →
    epoch = state.store.pendingV1Cp3Epoch
  conn : ∀ conn, state.worker.conn = some conn ∨ state.main.cryptoJobConn = some conn →
    state.jobGeneration = state.main.connectionGeneration ∨ state.main.currentConn ≠ some conn
  generation : state.worker.busy = true → state.workerGeneration = state.jobGeneration

theorem flight_boot : Flight State.boot := by
  constructor <;> simp [State.boot, Main.boot, Store.boot, Worker.inJob, Worker.inDelivery,
    Worker.inCp2, Worker.running, Worker.conn, Worker.busy, Transfer.zero, State.Stale]

section Steps

variable {platform : Platform} {state : State}

/-- `invalidate_v1_cp2_locked` -/
theorem Flight.invalidateV1Cp2 (h : Flight state) : Flight state.invalidateV1Cp2 :=
  { h with stale := fun hstale ↦ ⟨(h.stale hstale).1, rfl, (h.stale hstale).2.2⟩ }

/-- `invalidate_v1_cp3_locked` -/
theorem Flight.invalidateV1Cp3 (h : Flight state) : Flight state.invalidateV1Cp3 :=
  { h with
    owner := absurd rfl
    pendingCp2 := fun hpending hmode ↦ ⟨(h.pendingCp2 hpending hmode).1, (h.pendingCp2 hpending hmode).2.1, rfl⟩
    stale := fun hstale ↦ ⟨if_neg (not_not.mpr (h.stale hstale).1), (h.stale hstale).2⟩
    epoch := congrArg Nat.succ h.epoch
    resets := fun hne ↦ Nat.le_succ_of_le (h.resets hne) }

/-- Only a CP2 job is in flight where neither flag of CP3 is set. -/
theorem Flight.cp2_of_quiet (h : Flight state) (hworker : state.main.v1Cp3WorkerActive = false)
    (hdelivery : state.main.v1Cp3DeliveryActive = false)
    (hflight : state.store.jobPending = true ∨ state.worker.busy = true) :
    state.main.v1Cp2Active = true ∧ state.main.transfer.state = .cryptoBusy := by
  have hnojob : state.main.v1Cp3WorkerActive ≠ true := Bool.eq_false_iff.mp hworker
  rcases hflight with hpending | hbusy
  · have hmode : state.store.pendingJobMode = .v1Cp2 :=
      not_not.mp fun hmode ↦ hnojob (h.pending hpending hmode)
    exact ⟨(h.pendingCp2 hpending hmode).1, (h.pendingCp2 hpending hmode).2.1⟩
  rcases Worker.busy_iff.mp hbusy with hjob | hdeliver | hcp2
  · exact absurd (h.job hjob) hnojob
  · exact absurd (h.delivery hdeliver) (Bool.eq_false_iff.mp hdelivery)
  · exact ⟨(h.cp2 hcp2).1, (h.cp2 hcp2).2.1⟩

/-- Without a flag, no job is in flight. -/
theorem Flight.not_busy (h : Flight state) (hworker : state.main.v1Cp3WorkerActive = false)
    (hdelivery : state.main.v1Cp3DeliveryActive = false) (hcp2 : state.main.v1Cp2Active = false) :
    state.worker.busy = false := by
  rw [← Bool.not_eq_true]
  intro hbusy
  have hactive := (h.cp2_of_quiet hworker hdelivery (.inr hbusy)).1
  rw [hcp2] at hactive
  cases hactive

/-- Another transfer: a CP2 job in flight keeps it busy. -/
theorem Flight.transferred (h : Flight state) {transfer : Transfer}
    (hbusy : state.main.v1Cp2Active = true → state.main.transfer.state = .cryptoBusy → transfer.state = .cryptoBusy)
    (hclear : transfer.state = .cryptoBusy → transfer.Clear) (hstale : state.Stale → transfer.Clear) :
    Flight { state with main := { state.main with transfer } } :=
  { h with
    pendingCp2 := fun hpending hmode ↦
      have ⟨hactive, hbusy', hnone⟩ := h.pendingCp2 hpending hmode
      ⟨hactive, hbusy hactive hbusy', hnone⟩
    cp2 := fun hcp2 ↦
      have ⟨hactive, hbusy', hjob⟩ := h.cp2 hcp2
      ⟨hactive, hbusy hactive hbusy', hjob⟩
    clear := hclear
    stale := fun hflight ↦ ⟨(h.stale hflight).1, (h.stale hflight).2.1, hstale hflight⟩ }

/-- The current generation submits a job: whatever is still in flight is its own. -/
theorem Flight.submitted (h : Flight state) {store : Store} {main : Main} {attempt : Option Attempt} {jobResets : ℕ}
    (hjob : state.worker.inJob = false) (hcp2 : state.worker.inCp2 = false)
    (hown : state.worker.busy = true → state.jobGeneration = main.connectionGeneration)
    (hdelivery : state.worker.inDelivery = true → main.v1Cp3DeliveryActive = true)
    (howner : main.v1Cp3Conn ≠ none → main.v1Cp3State ≠ .idle)
    (hpending : store.pendingJobMode ≠ .v1Cp2 → main.v1Cp3WorkerActive = true)
    (hpendingCp2 : store.pendingJobMode = .v1Cp2 →
      main.v1Cp2Active = true ∧ main.transfer.state = .cryptoBusy ∧ main.v1Cp3Conn = none)
    (hclear : main.transfer.state = .cryptoBusy → main.transfer.Clear)
    (hepoch : store.v1Cp3Epoch = store.pendingV1Cp3Epoch + jobResets) :
    Flight { state with store, main, attempt, jobGeneration := main.connectionGeneration, jobResets } where
  owner hsome := ⟨howner hsome, rfl⟩
  pending _ hmode := hpending hmode
  pendingCp2 _ hmode := hpendingCp2 hmode
  job hin := absurd hin (Bool.eq_false_iff.mp hjob)
  delivery := hdelivery
  cp2 hin := absurd hin (Bool.eq_false_iff.mp hcp2)
  alone hin := hin.elim (absurd · (Bool.eq_false_iff.mp hjob)) (absurd · (Bool.eq_false_iff.mp hcp2))
  clear := hclear
  stale hstale := absurd rfl hstale.2
  epoch := hepoch
  resets hne := absurd rfl hne
  running mode epoch hrunning := absurd hrunning (by rw [Worker.running_eq_none hjob]; exact nofun)
  conn _ _ := .inl rfl
  generation hbusy := (h.generation hbusy).trans (hown hbusy)

/-- A new generation: a job in flight is stale, and no connection object of it is the current one. -/
theorem Flight.renewed (h : Flight state) {currentConn : Option Conn} {transfer : Transfer}
    {service : Resumption.Service}
    (hbusy : state.main.v1Cp2Active = true → state.main.transfer.state = .cryptoBusy → transfer.state = .cryptoBusy)
    (hclear : transfer.Clear)
    (hconn : ∀ conn, currentConn = some conn → state.worker.conn ≠ some conn ∧ state.main.cryptoJobConn ≠ some conn) :
    Flight { state with
      main := { state.main with
        v1Cp3State := .idle, v1Cp3Conn := none, v1Cp2Valid := false, notifyEnabled := false
        connectionGeneration := state.main.connectionGeneration + 1, currentConn, transfer }
      store := state.store.resetV1Cp2.resetV1Cp3
      service
      jobResets := state.jobResets + 1 } :=
  { h with
    owner := absurd rfl
    pendingCp2 := fun hpending hmode ↦
      have ⟨hactive, hbusy', _⟩ := h.pendingCp2 hpending hmode
      ⟨hactive, hbusy hactive hbusy', rfl⟩
    cp2 := fun hcp2 ↦
      have ⟨hactive, hbusy', hjob⟩ := h.cp2 hcp2
      ⟨hactive, hbusy hactive hbusy', hjob⟩
    clear := fun _ ↦ hclear
    stale := fun _ ↦ ⟨rfl, rfl, hclear⟩
    epoch := congrArg Nat.succ h.epoch
    resets := fun _ ↦ Nat.le_add_left _ _
    conn := fun held hheld ↦ .inr fun hcurrent ↦ hheld.elim (hconn held hcurrent).1 (hconn held hcurrent).2 }

/-- A step that changes neither the protocol state, the jobs nor the worker. -/
theorem Flight.frame {state' : State} (h : Flight state) (hmain : state'.main = state.main)
    (hstore : state'.store = state.store) (hworker : state'.worker = state.worker)
    (hjob : state'.jobGeneration = state.jobGeneration)
    (htaken : state'.workerGeneration = state.workerGeneration)
    (hresets : state'.jobResets = state.jobResets) : Flight state' := by
  obtain ⟨main, store, service, worker, ledger, attempt, jobGeneration, workerGeneration, workerEpoch,
    jobResets⟩ := state'
  subst hmain hstore hworker hjob htaken hresets
  exact ⟨h.owner, h.pending, h.pendingCp2, h.job, h.delivery, h.cp2, h.alone, h.clear, h.stale, h.epoch,
    h.resets, h.running, h.conn, h.generation⟩

variable {conn : Conn} {view : ControlView}

theorem Flight.serviceAbort (h : Flight state) (owner : Option Conn) (now : ℤ) :
    Flight (state.serviceAbort platform owner now) := by
  unfold State.serviceAbort
  split_ifs
  · exact h.frame rfl rfl rfl rfl rfl rfl
  · exact h

theorem Flight.onService (h : Flight state) (call : Resumption.Service → Resumption.Service) :
    Flight (state.onService platform call) := by
  unfold State.onService
  split_ifs
  · exact h.frame rfl rfl rfl rfl rfl rfl
  · exact h

theorem Flight.handleV1Cp4 (h : Flight state) (wire : Bytes) :
    Flight (state.handleV1Cp4 platform conn wire view).2 := by
  unfold State.handleV1Cp4
  dsimp only
  split_ifs with hguard
  · exact h.invalidateV1Cp3
  split
  · rename_i error store hsubmit
    obtain rfl : store = state.store := submitV1Cp4_failsIn _ _ hsubmit
    exact h.invalidateV1Cp3
  · rename_i store hsubmit
    obtain ⟨-, -, -, hslot, rfl⟩ := submitV1Cp4_eq_ok_iff.mp hsubmit
    simp only [not_or, Bool.not_eq_false, Bool.not_eq_true] at hguard
    obtain ⟨hlive, hworker, hdelivery, hcp2, -⟩ := hguard
    have hsecure := (v1Cp4Live_eq_true hlive).1
    have hidle := h.not_busy hworker hdelivery hcp2
    obtain ⟨hnojob, -, hnocp2⟩ := Worker.busy_eq_false_iff.mp hidle
    refine h.submitted hnojob hnocp2 (fun hbusy ↦ absurd hbusy ?_) h.delivery (fun _ ↦ ?_) (fun _ ↦ rfl) nofun
      h.clear rfl
    · rw [hidle]
      exact Bool.false_ne_true
    · rw [hsecure]
      exact nofun

theorem Flight.handleV1Cp3Start (h : Flight state) (frame : Bytes) :
    Flight (state.handleV1Cp3Start platform conn frame view).2 := by
  unfold State.handleV1Cp3Start
  split
  · exact h
  rename_i sec hsec
  simp only [State.cp3StartSecInfo, except_bind_eq_ok_iff, require_eq_ok_iff, exists_and_left,
    exists_const] at hsec
  obtain ⟨-, ⟨hidle, hworker, hdelivery, hactive, hjobConn, -⟩, -⟩ := hsec
  have hreleased : Flight { state with main := { state.main with v1Cp3Conn := none } } :=
    { h with
      owner := absurd rfl
      pendingCp2 := fun hpending hmode ↦ ⟨(h.pendingCp2 hpending hmode).1, (h.pendingCp2 hpending hmode).2.1, rfl⟩ }
  dsimp only
  split_ifs
  · exact hreleased
  split
  · rename_i error store hsubmit
    obtain rfl : store = state.store := submitV1Cp3_failsIn _ _ hsubmit
    exact hreleased
  · rename_i store hsubmit
    obtain ⟨-, -, payload, -, -, hslot, rfl⟩ := submitV1Cp3_eq_ok_iff.mp hsubmit
    clear hsubmit
    have hquiet := h.not_busy hworker hdelivery hactive
    obtain ⟨hnojob, hnodelivery, hnocp2⟩ := Worker.busy_eq_false_iff.mp hquiet
    refine h.submitted hnojob hnocp2 (fun hbusy ↦ absurd hbusy ?_) (fun hin ↦ absurd hin ?_)
      (fun _ hphase ↦ Cp3State.noConfusion hphase) (fun _ ↦ rfl) (fun hmode ↦ JobMode.noConfusion hmode)
      (fun _ ↦ Transfer.clear_clearStorage state.main.transfer) rfl
    · rw [hquiet]
      exact Bool.false_ne_true
    · rw [hnodelivery]
      exact Bool.false_ne_true

theorem Flight.handleV1Cp3FinishedC (h : Flight state) (frame : Bytes) :
    Flight (state.handleV1Cp3FinishedC platform conn frame view).2 := by
  unfold State.handleV1Cp3FinishedC
  dsimp only
  split_ifs with hguard hlive howner
  · exact h
  · exact h.invalidateV1Cp3
  · exact h
  split
  · rename_i error store hsubmit
    obtain rfl : store = state.store := submitV1Cp3FinishedC_failsIn _ _ hsubmit
    exact h.invalidateV1Cp3
  · rename_i store hsubmit
    obtain ⟨payload, -, -, hslot, rfl⟩ := submitV1Cp3FinishedC_eq_ok_iff.mp hsubmit
    clear hsubmit
    simp only [not_or, not_not, Bool.not_eq_true] at hguard
    have howner : state.main.v1Cp3Conn ≠ none := by
      simp only [Main.v1Cp3Live, Bool.and_eq_true, decide_eq_true_eq, Bool.not_eq_false] at hlive
      simp [← hlive.1.1.1.1.1.1.1.2]
    -- The delivery of READY_CP3 may still be under way; it is of the same generation.
    have hnojob : state.worker.inJob = false :=
      Bool.eq_false_iff.mpr fun hin ↦ Bool.eq_false_iff.mp hguard.2 (h.job hin)
    have hnocp2 : state.worker.inCp2 = false :=
      Bool.eq_false_iff.mpr fun hin ↦ Bool.eq_false_iff.mp hslot.2.1 (h.cp2 hin).2.2
    exact h.submitted hnojob hnocp2 (fun _ ↦ (h.owner howner).2) h.delivery
      (fun _ hphase ↦ Cp3State.noConfusion hphase) (fun _ ↦ rfl) (fun hmode ↦ JobMode.noConfusion hmode) h.clear rfl

theorem Flight.handleV1Cp2Start (h : Flight state) (sid : Bytes) :
    Flight (state.handleV1Cp2Start conn sid view).2 := by
  unfold State.handleV1Cp2Start
  split_ifs
  · exact h
  split
  · exact h
  rename_i hready
  simp only [State.cp2StartReady, except_bind_eq_ok_iff, require_eq_ok_iff, exists_and_left,
    exists_const] at hready
  obtain ⟨-, -, -, -, ⟨hidle, hworker, hdelivery, hactive, hnotBusy⟩, -⟩ := hready
  split
  · rename_i error store hsubmit
    obtain rfl : store = state.store := submitV1Cp2_failsIn _ _ hsubmit
    clear hsubmit
    have hquiet : ¬(state.store.jobPending = true ∨ state.worker.busy = true) := fun hflight ↦
      hnotBusy (h.cp2_of_quiet hworker hdelivery hflight).2
    exact { h with
      pendingCp2 := fun hpending _ ↦ absurd (.inl hpending) hquiet
      cp2 := fun hcp2 ↦ absurd (.inr (Worker.busy_iff.mpr (.inr (.inr hcp2)))) hquiet
      clear := fun hbusy ↦ CiphertextState.noConfusion hbusy
      stale := fun hstale ↦ absurd hstale.1 hquiet
      conn := fun held hheld ↦ h.conn held (.inl (hheld.resolve_right (Option.some_ne_none held).symm)) }
  · rename_i store hsubmit
    obtain ⟨-, -, hslot, rfl⟩ := submitV1Cp2_eq_ok_iff.mp hsubmit
    clear hsubmit
    have hquiet := h.not_busy hworker hdelivery hactive
    obtain ⟨hnojob, hnodelivery, hnocp2⟩ := Worker.busy_eq_false_iff.mp hquiet
    have hnone : state.main.v1Cp3Conn = none := not_not.mp fun hsome ↦ (h.owner hsome).1 hidle
    refine h.submitted hnojob hnocp2 (fun hbusy ↦ absurd hbusy ?_) (fun hin ↦ absurd hin ?_) (absurd hnone)
      (absurd rfl) (fun _ ↦ ⟨rfl, rfl, hnone⟩) (fun _ ↦ Transfer.clear_clearStorage state.main.transfer) h.epoch
    · rw [hquiet]
      exact Bool.false_ne_true
    · rw [hnodelivery]
      exact Bool.false_ne_true

theorem Flight.writeControl (h : Flight state) (data : Bytes) (offset : ℕ) :
    Flight (state.writeControl platform conn data offset view).2 := by
  have hrefuse : Flight state.refuseControl := by
    unfold State.refuseControl
    split_ifs
    · exact h.invalidateV1Cp3
    · exact h
  unfold State.writeControl
  dsimp only
  split_ifs
  · exact hrefuse
  · exact hrefuse
  · unfold State.handleService
    split_ifs
    · exact h.frame rfl rfl rfl rfl rfl rfl
    · exact h
  · exact h.serviceAbort _ _
  · exact h
  · unfold State.handleV1Control
    split_ifs
    · exact h.handleV1Cp4 data
    split
    · exact h
    split_ifs
    · split <;> exact h
    · exact h.handleV1Cp3Start data
    · exact h.handleV1Cp3FinishedC data
    · exact h.handleV1Cp2Start _
    · exact h
  · exact h

theorem Flight.writeCiphertext (h : Flight state) (data : Bytes) (offset : ℕ) (busy : Bool)
    (seen : LinkView) : Flight (state.writeCiphertext platform conn data offset busy seen).2 := by
  unfold State.writeCiphertext
  split_ifs
  · exact h
  · exact h
  split
  · exact h
  rename_i fragment _
  dsimp only
  split_ifs with hconn hidle
  · exact h
  · exact h
  · simp only [not_or, not_not, Bool.not_eq_true] at hidle
    obtain ⟨-, hworker, hdelivery⟩ := hidle
    have hkept : state.main.transfer.state = .cryptoBusy → (state.main.transfer.write fragment).2.Clear := by
      intro hbusy
      rw [Transfer.write_of_cryptoBusy _ _ hbusy]
      exact h.clear hbusy
    refine h.transferred (fun _ hbusy ↦ ?_) (fun hbusy ↦ ?_) fun hstale ↦ ?_
    · exact (Transfer.write_state_iff _ fragment).mpr hbusy
    · exact hkept ((Transfer.write_state_iff _ fragment).mp hbusy)
    · exact hkept (h.cp2_of_quiet hworker hdelivery hstale.1).2

theorem Flight.cccConfigChanged (h : Flight state) (enabled : Bool) (now : ℤ) :
    Flight (state.cccConfigChanged platform enabled now) := by
  have hchanged : Flight { state with main := { state.main with notifyEnabled := enabled } } :=
    ⟨h.owner, h.pending, h.pendingCp2, h.job, h.delivery, h.cp2, h.alone, h.clear, h.stale, h.epoch,
      h.resets, h.running, h.conn, h.generation⟩
  unfold State.cccConfigChanged
  split_ifs
  · exact hchanged
  · exact (hchanged.serviceAbort _ now).invalidateV1Cp2.invalidateV1Cp3

/-- Clearing the transfer keeps the slot of a CP2 job. -/
theorem Flight.v1Cp2SecurityChanged (h : Flight state) (secured : Bool) :
    Flight (state.v1Cp2SecurityChanged conn secured) := by
  unfold State.v1Cp2SecurityChanged
  split_ifs
  · exact h
  have hinvalid := h.invalidateV1Cp2.invalidateV1Cp3
  generalize state.invalidateV1Cp2.invalidateV1Cp3 = invalid at hinvalid
  have hclear : (if invalid.main.v1Cp2Active = true then invalid.main.transfer.clearStorage
      else { invalid.main.transfer.clearStorage with state := .empty }).Clear := by
    split_ifs
    · exact Transfer.clear_clearStorage _
    · exact ⟨rfl, rfl⟩
  refine hinvalid.transferred (fun hactive hbusy ↦ ?_) (fun _ ↦ hclear) fun _ ↦ hclear
  rw [if_pos hactive]
  exact hbusy

theorem Flight.v1Cp3Timeout (h : Flight state) (seen : LinkView) : Flight (state.v1Cp3Timeout seen) := by
  unfold State.v1Cp3Timeout
  split_ifs
  · exact h.invalidateV1Cp3
  · exact h

/-- A new connection resets the transfer, unless a job keeps it busy. -/
theorem transfer_connected (platform : Platform) (state : State) (conn : Conn) (bonded : Bool) (clock now : ℤ) :
    (∃ transfer : Transfer, (state.connected platform conn bonded clock now).main.transfer = transfer.reset) ∨
      (state.connected platform conn bonded clock now).main.transfer = state.main.transfer ∧
        state.main.transfer.state = .cryptoBusy := by
  unfold State.connected
  dsimp only
  generalize hinvalid : (State.invalidateV1Cp2 _).invalidateV1Cp3 = invalid
  have hsame : state.main.transfer = invalid.main.transfer := hinvalid ▸ rfl
  rw [hsame]
  by_cases hquiet : invalid.main.v1Cp2Active = false ∧ invalid.main.v1Cp3WorkerActive = false ∧
      invalid.main.v1Cp3DeliveryActive = false
  · rw [if_pos hquiet]
    exact .inl ⟨_, rfl⟩
  rw [if_neg hquiet]
  by_cases hbusy : invalid.main.transfer.state = .cryptoBusy
  · exact .inr ⟨if_neg (not_not.mpr hbusy), hbusy⟩
  · exact .inl ⟨_, if_pos hbusy⟩

/-- A later generation starts without an attempt, and without a fragment while a job is in flight. -/
theorem Flight.connected (h : Flight state) {bonded : Bool} {clock now : ℤ}
    (hreferenced : ¬state.Referenced conn) :
    Flight (state.connected platform conn bonded clock now) := by
  simp only [State.Referenced, not_or] at hreferenced
  have hcurrent : ∀ held, some conn = some held →
      state.worker.conn ≠ some held ∧ state.main.cryptoJobConn ≠ some held := by
    rintro held ⟨⟩
    exact ⟨hreferenced.2.2.2, hreferenced.2.2.1⟩
  refine h.renewed (fun hactive hbusy ↦ ?_) ?_ hcurrent
  · simp [State.invalidateV1Cp2, State.invalidateV1Cp3, hactive, hbusy]
  · show (state.connected platform conn bonded clock now).main.transfer.Clear
    rcases transfer_connected platform state conn bonded clock now with ⟨transfer, hreset⟩ | ⟨hkept, hbusy⟩
    · rw [hreset]
      exact Transfer.clear_reset _
    · rw [hkept]
      exact h.clear hbusy

theorem Flight.disconnectCurrent (h : Flight state) (now : ℤ) :
    Flight (state.disconnectCurrent platform conn now) := by
  refine h.renewed (fun _ hbusy ↦ ?_) ?_ nofun
  · simp [State.invalidateV1Cp2, State.invalidateV1Cp3, hbusy]
  · show (state.disconnectCurrent platform conn now).main.transfer.Clear
    unfold State.disconnectCurrent
    dsimp only
    generalize (State.invalidateV1Cp2 _).invalidateV1Cp3 = invalid
    split_ifs
    · exact ⟨rfl, rfl⟩
    · exact Transfer.clear_clearStorage _

theorem Flight.disconnected (h : Flight state) (now : ℤ) :
    Flight (state.disconnected platform conn now) := by
  have hreleased : ∀ current : State, Flight current → Flight { current with
      main := { current.main with cryptoJobConn :=
        if current.main.cryptoJobConn = some conn then none else current.main.cryptoJobConn } } := by
    intro current h
    refine { h with conn := fun held hheld ↦ h.conn held (hheld.imp_right fun hsome ↦ ?_) }
    by_cases hreleased : current.main.cryptoJobConn = some conn
    · rw [if_pos hreleased] at hsome
      cases hsome
    · rwa [if_neg hreleased] at hsome
  refine hreleased _ ?_
  split_ifs
  · exact h.disconnectCurrent now
  · exact h

end Steps

section Worker

variable {platform : Platform} {state : State} {view : WorkerView}

/-- The bookkeeping of the job slot in the store. -/
structure Store.SameJobs (store store' : Store) : Prop where
  jobPending : store'.jobPending = store.jobPending
  jobActive : store'.jobActive = store.jobActive
  pendingJobMode : store'.pendingJobMode = store.pendingJobMode
  v1Cp3Epoch : store'.v1Cp3Epoch = store.v1Cp3Epoch
  pendingV1Cp3Epoch : store'.pendingV1Cp3Epoch = store.pendingV1Cp3Epoch

/-- A place of the worker with no more duties than the one before. -/
structure Worker.Follows (before after : Worker) : Prop where
  job : after.inJob = true → before.inJob = true
  delivery : after.inDelivery = true → before.inDelivery = true
  cp2 : after.inCp2 = true → before.inCp2 = true
  running : ∀ mode epoch, after.running = some (mode, epoch) → before.running = some (mode, epoch)
  conn : ∀ conn, after.conn = some conn → before.conn = some conn

theorem Worker.Follows.refl (worker : Worker) : worker.Follows worker :=
  ⟨id, id, id, fun _ _ h ↦ h, fun _ h ↦ h⟩

theorem Worker.Follows.busy {before after : Worker} (h : before.Follows after) (hbusy : after.busy = true) :
    before.busy = true := by
  rcases busy_iff.mp hbusy with hjob | hdelivery | hcp2
  · exact busy_iff.mpr (.inl (h.job hjob))
  · exact busy_iff.mpr (.inr (.inl (h.delivery hdelivery)))
  · exact busy_iff.mpr (.inr (.inr (h.cp2 hcp2)))

/-- The worker moves on without a new duty, and holds the slot as long as it is in a CP2 job. -/
theorem Flight.moved {store : Store} {service : Resumption.Service} {worker : Worker} {ledger : List Installation}
    (h : Flight state) (hpending : store.jobPending = state.store.jobPending)
    (hmode : store.pendingJobMode = state.store.pendingJobMode) (hepoch : store.v1Cp3Epoch = state.store.v1Cp3Epoch)
    (hpendingEpoch : store.pendingV1Cp3Epoch = state.store.pendingV1Cp3Epoch) (hworker : state.worker.Follows worker)
    (hactive : worker.inCp2 = true → store.jobActive = state.store.jobActive) :
    Flight { state with store, service, worker, ledger } where
  owner := h.owner
  pending hwaiting hother := h.pending (hpending.symm.trans hwaiting) (hmode ▸ hother)
  pendingCp2 hwaiting hcp2 := h.pendingCp2 (hpending.symm.trans hwaiting) (hmode.symm.trans hcp2)
  job hjob := h.job (hworker.job hjob)
  delivery hdelivery := h.delivery (hworker.delivery hdelivery)
  cp2 hcp2 :=
    have ⟨hflag, hbusy, hslot⟩ := h.cp2 (hworker.cp2 hcp2)
    ⟨hflag, hbusy, (hactive hcp2).trans hslot⟩
  alone hin := hpending.trans (h.alone (hin.imp hworker.job hworker.cp2))
  clear := h.clear
  stale hstale := h.stale ⟨hstale.1.imp hpending.symm.trans hworker.busy, hstale.2⟩
  epoch := by
    rw [hepoch, hpendingEpoch]
    exact h.epoch
  resets := h.resets
  running mode epoch hrunning := (h.running mode epoch (hworker.running mode epoch hrunning)).trans hpendingEpoch.symm
  conn held hheld := h.conn held (hheld.imp_left (hworker.conn held))
  generation hbusy := h.generation (hworker.busy hbusy)

/-- A step of the worker that changes keys and counters, here or in the service, and moves on. -/
theorem Flight.advance {store : Store} {service : Resumption.Service} {worker : Worker}
    {ledger : List Installation} (h : Flight state) (hstore : state.store.SameJobs store)
    (hworker : state.worker.Follows worker) :
    Flight { state with store, service, worker, ledger } :=
  h.moved hstore.jobPending hstore.pendingJobMode hstore.v1Cp3Epoch hstore.pendingV1Cp3Epoch hworker
    fun _ ↦ hstore.jobActive

/-- Where the worker stands after it took a job. -/
theorem takenWorker_cases (store : Store) :
    (State.takenWorker store).inDelivery = false ∧ (State.takenWorker store).conn = none ∧
      ((State.takenWorker store).inJob = true ↔ store.pendingJobMode ≠ .v1Cp2) ∧
      ((State.takenWorker store).inCp2 = true ↔ store.pendingJobMode = .v1Cp2) ∧
      ∀ mode epoch, (State.takenWorker store).running = some (mode, epoch) →
        epoch = store.pendingV1Cp3Epoch := by
  unfold State.takenWorker
  cases hmode : store.pendingJobMode
  all_goals
    dsimp only
    split_ifs <;>
      simp [Worker.inDelivery, Worker.conn, Worker.inJob, Worker.inCp2, Worker.running, eq_comm]

theorem Flight.takeJob (h : Flight state) : Flight state.takeJob := by
  unfold State.takeJob
  split_ifs with hnone
  · exact { h with
      pending := nofun
      pendingCp2 := nofun
      alone := fun _ ↦ rfl
      stale := fun hstale ↦ h.stale ⟨.inr (hstale.1.resolve_left nofun), hstale.2⟩ }
  simp only [not_or, Bool.not_eq_false] at hnone
  obtain ⟨hpending, -⟩ := hnone
  obtain ⟨hdelivery, hconn, hjob, hcp2, hrunning⟩ := takenWorker_cases state.store
  exact {
    owner := h.owner
    pending := nofun
    pendingCp2 := nofun
    job := fun hin ↦ h.pending hpending (hjob.mp hin)
    delivery := fun hin ↦ absurd hin (Bool.eq_false_iff.mp hdelivery)
    cp2 := fun hin ↦
      have ⟨hactive, hbusy, _⟩ := h.pendingCp2 hpending (hcp2.mp hin)
      ⟨hactive, hbusy, rfl⟩
    alone := fun _ ↦ rfl
    clear := h.clear
    stale := fun hstale ↦ h.stale ⟨.inl hpending, hstale.2⟩
    epoch := h.epoch
    resets := h.resets
    running := hrunning
    conn := fun held hheld ↦ h.conn held (.inr (hheld.resolve_left (by rw [hconn]; exact nofun)))
    generation := fun _ ↦ rfl }

theorem Flight.pqV1Cp4JobLive (h : Flight state) (seen : LinkView) :
    Flight (state.pqV1Cp4JobLive seen).2 := by
  unfold State.pqV1Cp4JobLive
  split_ifs
  · exact h
  · exact h.invalidateV1Cp3

theorem worker_pqV1Cp4JobLive (state : State) (seen : LinkView) :
    (state.pqV1Cp4JobLive seen).2.worker = state.worker := by
  unfold State.pqV1Cp4JobLive
  split_ifs <;> rfl

/-- A delivery is over; the transfer is kept, or reset where no CP2 job is in flight. -/
theorem Flight.delivered (h : Flight state) (hdelivery : state.worker.inDelivery = true) {transfer : Transfer}
    (htransfer : transfer = state.main.transfer ∨
      state.main.v1Cp2Active = false ∧ transfer = state.main.transfer.reset) :
    Flight { state with main := { state.main with v1Cp3DeliveryActive := false, transfer }, worker := .idle } where
  owner := h.owner
  pending := h.pending
  pendingCp2 hpending hmode := by
    obtain ⟨hactive, hbusy, hnone⟩ := h.pendingCp2 hpending hmode
    rcases htransfer with rfl | ⟨hinactive, -⟩
    · exact ⟨hactive, hbusy, hnone⟩
    · rw [hinactive] at hactive
      cases hactive
  job := nofun
  delivery := nofun
  cp2 := nofun
  alone hin := hin.elim nofun nofun
  clear hbusy := by
    rcases htransfer with rfl | ⟨-, rfl⟩
    · exact h.clear hbusy
    · exact Transfer.clear_reset _
  stale hstale := by
    have hbusy : state.worker.busy = true := Worker.busy_iff.mpr (.inr (.inl hdelivery))
    obtain ⟨hidle, hvalid, hclear⟩ := h.stale ⟨.inr hbusy, hstale.2⟩
    rcases htransfer with rfl | ⟨-, rfl⟩
    · exact ⟨hidle, hvalid, hclear⟩
    · exact ⟨hidle, hvalid, Transfer.clear_reset _⟩
  epoch := h.epoch
  resets := h.resets
  running := nofun
  conn held hheld := h.conn held (.inr (hheld.resolve_left nofun))
  generation := nofun

/-- The end of a callback frees the transfer of a later generation. -/
theorem Flight.drain (h : Flight state) (hdelivery : state.worker.inDelivery = true) :
    Flight state.drain := by
  unfold State.drain
  dsimp only
  split_ifs with hfree
  · exact h.delivered hdelivery (.inr ⟨hfree.2, rfl⟩)
  · exact h.delivered hdelivery (.inl rfl)

/-- A commit changes the store and the service. -/
theorem Flight.commitV1Cp3 {worker : Worker} (h : Flight (state.goto worker)) :
    Flight ((state.commitV1Cp3 platform view).2.goto worker) := by
  unfold State.commitV1Cp3
  split
  · exact h
  · rename_i store hcommit
    obtain ⟨-, rfl⟩ := commitV1Cp3_eq_ok_iff.mp hcommit
    dsimp only
    split_ifs
    · exact h.advance ⟨rfl, rfl, rfl, rfl, rfl⟩ (.refl _)
    · exact h.advance ⟨rfl, rfl, rfl, rfl, rfl⟩ (.refl _)

theorem main_commitV1Cp3 (platform : Platform) (state : State) (view : WorkerView) :
    (state.commitV1Cp3 platform view).2.main = state.main := by
  unfold State.commitV1Cp3
  split
  · rfl
  · dsimp only
    split_ifs <;> rfl

/-- The commit of a live attempt. -/
theorem Flight.secure (h : Flight state) (howner : state.main.v1Cp3Conn ≠ none)
    (hdelivery : state.worker.inDelivery = true) :
    Flight { state with main := { state.main with
      v1Cp3State := .appSecure
      transfer := if platform.version = Resumption.pqResumeV11 then
          { state.main.transfer with state := .empty }
        else state.main.transfer } } := by
  obtain ⟨-, hnocp2⟩ := Worker.not_inJob_of_inDelivery hdelivery
  have hclear : (if platform.version = Resumption.pqResumeV11 then { state.main.transfer with state := .empty }
      else state.main.transfer).state = .cryptoBusy →
        (if platform.version = Resumption.pqResumeV11 then { state.main.transfer with state := .empty }
          else state.main.transfer).Clear := by
    split_ifs
    · exact nofun
    · exact h.clear
  exact { h with
    owner := fun hsome ↦ ⟨nofun, (h.owner hsome).2⟩
    pendingCp2 := fun hpending hmode ↦ absurd (h.pendingCp2 hpending hmode).2.2 howner
    cp2 := fun hin ↦ absurd hin (Bool.eq_false_iff.mp hnocp2)
    clear := hclear
    stale := fun hstale ↦ absurd (h.owner howner).2 hstale.2 }

/-- The last section of a CP3 callback, which ends the delivery wherever the worker stood. -/
theorem Flight.settleCp3 {worker : Worker} (h : Flight (state.goto worker))
    (hdelivery : worker.inDelivery = true) (start : Bool) (status : JobStatus) (conn : Option Conn)
    (generation : ℕ) (sent : Bool) :
    Flight (state.settleCp3 platform start status conn generation sent view) := by
  have hcommitted : Flight ((state.commitV1Cp3 platform view).2.goto worker) := h.commitV1Cp3
  have hmain := main_commitV1Cp3 platform state view
  unfold State.settleCp3
  dsimp only
  by_cases howner : conn.isSome = true ∧ conn = state.main.v1Cp3Conn ∧
      SameU32 generation state.main.connectionGeneration
  · rw [if_pos howner]
    by_cases hfail : sent = false ∨ status ≠ .success ∨
        state.main.v1Cp3Live conn generation view.last = false
    · rw [if_pos hfail]
      exact h.invalidateV1Cp3.drain hdelivery
    rw [if_neg hfail]
    by_cases hstart : start = true
    · rw [if_pos hstart]
      exact h.drain hdelivery
    rw [if_neg hstart]
    by_cases hcommit : (state.commitV1Cp3 platform view).1 = true
    · rw [if_pos hcommit]
      have howner' : ((state.commitV1Cp3 platform view).2.goto worker).main.v1Cp3Conn ≠ none := by
        change (state.commitV1Cp3 platform view).2.main.v1Cp3Conn ≠ none
        rw [hmain, ← howner.2.1]
        exact Option.isSome_iff_ne_none.mp howner.1
      exact (hcommitted.secure howner' hdelivery).drain hdelivery
    · rw [if_neg hcommit]
      exact hcommitted.invalidateV1Cp3.drain hdelivery
  · rw [if_neg howner]
    split_ifs
    · exact h.invalidateV1Cp3.drain hdelivery
    · exact h.drain hdelivery

/-- The first section of a CP3 or CP4 callback, up to its delivery. -/
theorem Flight.arm (h : Flight state) (hjob : state.worker.inJob = true) {phase : Cp3State} {worker : Worker}
    (hposition : worker.inDelivery = true)
    (hphase : phase = state.main.v1Cp3State ∨ phase ≠ .idle ∧ state.main.v1Cp3Conn ≠ none)
    (hconn : ∀ conn, worker.conn = some conn → state.main.v1Cp3Conn = some conn) :
    Flight ({ state with
      main := { state.main with
        v1Cp3WorkerActive := false, v1Cp3DeliveryActive := true, v1Cp3State := phase } }.goto worker) := by
  obtain ⟨hnojob, hnocp2⟩ := Worker.not_inJob_of_inDelivery hposition
  have hnone : state.store.jobPending ≠ true := Bool.eq_false_iff.mp (h.alone (.inl hjob))
  have hbusy : state.worker.busy = true := Worker.busy_iff.mpr (.inl hjob)
  exact {
    owner := fun hsome ↦ ⟨hphase.elim (fun hsame ↦ hsame ▸ (h.owner hsome).1) And.left, (h.owner hsome).2⟩
    pending := fun hpending ↦ absurd hpending hnone
    pendingCp2 := fun hpending ↦ absurd hpending hnone
    job := fun hin ↦ absurd hin (Bool.eq_false_iff.mp hnojob)
    delivery := fun _ ↦ rfl
    cp2 := fun hin ↦ absurd hin (Bool.eq_false_iff.mp hnocp2)
    alone := fun _ ↦ h.alone (.inl hjob)
    clear := h.clear
    stale := fun hstale ↦ by
      obtain ⟨hidle, hrest⟩ := h.stale ⟨.inr hbusy, hstale.2⟩
      rcases hphase with rfl | ⟨-, hsome⟩
      · exact ⟨hidle, hrest⟩
      · exact absurd hidle (h.owner hsome).1
    epoch := h.epoch
    resets := h.resets
    running := fun mode epoch hrunning ↦ nomatch (Worker.running_eq_none hnojob).symm.trans hrunning
    conn := fun held hheld ↦ by
      rcases hheld with hheld | hheld
      · exact .inl (h.owner (by rw [hconn held hheld]; exact nofun)).2
      · exact h.conn held (.inr hheld)
    generation := fun _ ↦ h.generation hbusy }

theorem Flight.callbackCp3 (h : Flight state) {start : Bool} {status : JobStatus} {wire : Bytes}
    (hworker : state.worker = .cp3Callback start status wire) :
    Flight (state.callbackCp3 platform start status wire view).2 := by
  have hlive := @cp3Delivery_live state.main platform.version start status wire view.first
  have hdead := @cp3Delivery_dead state.main platform.version start status wire view.first
  unfold State.callbackCp3
  generalize state.main.cp3Delivery platform.version start status wire view.first = delivery at *
  have hlive' : delivery.deliver = true → delivery.conn = state.main.v1Cp3Conn ∧
      state.main.v1Cp3Conn ≠ none := by
    intro hdeliver
    obtain ⟨halive, -, hconn⟩ := hlive hdeliver
    simp only [Main.v1Cp3Live, Bool.and_eq_true] at halive
    exact ⟨hconn, Option.isSome_iff_ne_none.mp halive.1.1.1.1.1.1.1.1.1⟩
  have hjob : state.worker.inJob = true := by
    rw [hworker]
    rfl
  have hphase : (if delivery.deliver ∧ start ∧ delivery.status = JobStatus.success then .waitFinishedC
      else state.main.v1Cp3State) = state.main.v1Cp3State ∨
      (if delivery.deliver ∧ start ∧ delivery.status = JobStatus.success then Cp3State.waitFinishedC
        else state.main.v1Cp3State) ≠ .idle ∧ state.main.v1Cp3Conn ≠ none := by
    split_ifs with hstarted
    · exact .inr ⟨fun hphase ↦ Cp3State.noConfusion hphase, (hlive' hstarted.1).2⟩
    · exact .inl rfl
  have hconn : ∀ conn, delivery.conn = some conn → state.main.v1Cp3Conn = some conn := by
    intro conn hconn
    cases hdeliver : delivery.deliver with
    | true => exact (hlive' hdeliver).1.symm.trans hconn
    | false =>
      rw [hdead hdeliver] at hconn
      cases hconn
  dsimp only
  by_cases hrelease : start = true ∨ delivery.status ≠ .success
  · rw [if_pos hrelease]
    exact h.arm hjob rfl hphase hconn
  · rw [if_neg hrelease]
    have hposition : (Worker.cp3Settle start delivery.status delivery.conn delivery.generation true).inDelivery = true :=
      rfl
    exact (h.arm hjob hposition hphase hconn).settleCp3 rfl _ _ _ _ _

theorem Flight.callbackCp4 (h : Flight state) {status : JobStatus} {wire : Bytes} (seen : LinkView)
    (hworker : state.worker = .cp4Callback status wire) :
    Flight (state.callbackCp4 platform status wire seen) := by
  have hmove : ∀ current : State, Flight current → current.worker = .cp4Callback status wire →
      ∀ worker : Worker, worker.inDelivery = true →
        (∀ conn, worker.conn = some conn → current.main.v1Cp3Conn = some conn) →
          Flight { current with
            main := { current.main with v1Cp3WorkerActive := false, v1Cp3DeliveryActive := true }
            worker } := by
    intro current h hcurrent worker hposition hconn
    have hjob : current.worker.inJob = true := by
      rw [hcurrent]
      rfl
    exact h.arm hjob hposition (.inl rfl) hconn
  unfold State.callbackCp4
  dsimp only
  by_cases hdeliver : state.main.v1Cp3WorkerActive = true ∧ status = .success ∧
      state.main.v1Cp4Live state.main.v1Cp3Conn state.main.v1Cp3Generation seen = true ∧
        validPong platform.version wire = true
  · simp only [hdeliver, and_self, if_true]
    obtain ⟨owner, -, hconn⟩ := (v1Cp4Live_eq_true hdeliver.2.2.1).2
    split
    · rename_i owner' howner
      exact hmove state h hworker _ rfl fun conn hconn' ↦ howner.trans hconn'
    · exact hmove state h hworker _ rfl fun conn hconn' ↦ nomatch hconn'
  · simp only [hdeliver, if_false]
    split <;> exact hmove _ h.invalidateV1Cp3 hworker _ rfl fun conn hconn' ↦ nomatch hconn'

theorem Flight.settleCp4 (h : Flight state) (hdelivery : state.worker.inDelivery = true)
    (conn : Option Conn) (generation : ℕ) (sent : Bool) (last : LinkView) :
    Flight (state.settleCp4 conn generation sent last) := by
  unfold State.settleCp4
  dsimp only
  split_ifs
  · split
    · rename_i store hcommit
      obtain ⟨-, rfl⟩ := commitV1Cp4_eq_ok_iff.mp hcommit
      refine Flight.drain ?_ hdelivery
      exact h.advance ⟨rfl, rfl, rfl, rfl, rfl⟩ (.refl _)
    · exact h.invalidateV1Cp3.drain hdelivery
  · exact h.invalidateV1Cp3.drain hdelivery

/-- A job other than CP2 gives its slot back before its result is delivered. -/
theorem Flight.release {store : Store} {worker : Worker} (h : Flight state)
    (hpending' : store.jobPending = state.store.jobPending)
    (hmode : store.pendingJobMode = state.store.pendingJobMode)
    (hepoch : store.v1Cp3Epoch = state.store.v1Cp3Epoch)
    (hpendingEpoch : store.pendingV1Cp3Epoch = state.store.pendingV1Cp3Epoch)
    (hworker : state.worker.Follows worker) (hleft : worker.inCp2 = false) :
    Flight { state with store, worker } :=
  h.moved hpending' hmode hepoch hpendingEpoch hworker fun hin ↦ absurd hin (Bool.eq_false_iff.mp hleft)

theorem Flight.finishJob (h : Flight state) {mode : JobMode} {epoch : ℕ} {status : JobStatus}
    {wire : Bytes} (hworker : state.worker = .jobDone mode epoch status wire) :
    Flight (state.finishJob mode epoch status wire) := by
  cases mode with
  | v1Cp2 =>
    exact h.advance ⟨rfl, rfl, rfl, rfl, rfl⟩ (by constructor <;> simp [hworker])
  | v1Cp3 =>
    exact h.release rfl rfl rfl rfl (by constructor <;> simp [hworker]) rfl
  | v1Cp3FinishedC =>
    exact h.release rfl rfl rfl rfl (by constructor <;> simp [hworker]) rfl
  | v1Cp4C2p =>
    exact h.release rfl rfl rfl rfl (by constructor <;> simp [hworker]) rfl

theorem Flight.callbackCp2 (h : Flight state) {status : JobStatus} {wire : Bytes}
    (hworker : state.worker = .cp2Callback status wire) :
    Flight (state.callbackCp2 platform status wire) := by
  have hcp2 : state.worker.inCp2 = true := by
    rw [hworker]
    rfl
  have hbusy : state.worker.busy = true := Worker.busy_iff.mpr (.inr (.inr hcp2))
  unfold State.callbackCp2
  exact { h with
    job := nofun
    delivery := nofun
    cp2 := fun _ ↦ h.cp2 hcp2
    alone := fun _ ↦ h.alone (.inr hcp2)
    stale := fun hstale ↦ h.stale ⟨.inr hbusy, hstale.2⟩
    running := nofun
    conn := fun held hheld ↦ h.conn held (.inr (hheld.resolve_right nofun))
    generation := fun _ ↦ h.generation hbusy }

theorem Flight.settleCp2 (h : Flight state) (hworker : state.worker = .cp2Settle) :
    Flight state.settleCp2 := by
  have hcp2 : state.worker.inCp2 = true := by
    rw [hworker]
    rfl
  have hnone : state.store.jobPending ≠ true := Bool.eq_false_iff.mp (h.alone (.inr hcp2))
  exact { h with
    pendingCp2 := fun hpending ↦ absurd hpending hnone
    job := nofun
    delivery := nofun
    cp2 := nofun
    alone := fun hin ↦ hin.elim nofun nofun
    clear := fun _ ↦ Transfer.clear_reset _
    stale := fun hstale ↦ absurd (hstale.1.resolve_right nofun) hnone
    running := nofun
    conn := fun held hheld ↦ h.conn held (.inr (hheld.resolve_left nofun))
    generation := nofun }

theorem Flight.releaseCp2 (h : Flight state) (hworker : state.worker = .cp2Release) :
    Flight { state with store := { state.store with jobActive := false }, worker := .idle } :=
  h.release rfl rfl rfl rfl (by constructor <;> simp [hworker]) rfl

/-- **Every step of the worker keeps the invariant.** -/
theorem Flight.workerStep (h : Flight state) : Flight (state.workerStep platform view).2 := by
  have hgoto : ∀ {worker : Worker}, state.worker.Follows worker → Flight (state.goto worker) :=
    fun hfollows ↦ h.advance ⟨rfl, rfl, rfl, rfl, rfl⟩ hfollows
  have hlive : ∀ {worker worker' : Worker}, state.worker.Follows worker →
      state.worker.Follows worker' → Flight ((state.pqV1Cp4JobLive view.first).2.goto
        (if (state.pqV1Cp4JobLive view.first).1 then worker else worker')) := by
    intro worker worker' hworker hworker'
    have hsame := worker_pqV1Cp4JobLive state view.first
    refine (h.pqV1Cp4JobLive view.first).advance ⟨rfl, rfl, rfl, rfl, rfl⟩ ?_
    rw [hsame]
    split_ifs
    · exact hworker
    · exact hworker'
  unfold State.workerStep
  cases hworker : state.worker with
  | idle => exact h.takeJob
  | startResult epoch =>
    have hdone : ∀ status wire, state.worker.Follows (.jobDone .v1Cp3 epoch status wire) := by
      intro status wire
      constructor <;> simp [hworker]
    dsimp only [State.storeStart]
    split
    · split_ifs
      · exact h.advance ⟨rfl, rfl, rfl, rfl, rfl⟩ (hdone _ _)
      · exact hgoto (hdone _ _)
    · exact hgoto (hdone _ _)
  | finishedTake epoch =>
    dsimp only [State.takeHandshake]
    split_ifs
    · exact h.advance ⟨rfl, rfl, rfl, rfl, rfl⟩ (by constructor <;> simp [hworker])
    · exact hgoto (by constructor <;> simp [hworker])
  | finishedStore epoch handshake =>
    have hdone : ∀ status wire, state.worker.Follows (.jobDone .v1Cp3FinishedC epoch status wire) := by
      intro status wire
      constructor <;> simp [hworker]
    dsimp only [State.storeFinished]
    split
    · split_ifs
      · exact h.advance ⟨rfl, rfl, rfl, rfl, rfl⟩ (hdone _ _)
      · exact hgoto (hdone _ _)
    · exact hgoto (hdone _ _)
  | cp4Live epoch =>
    exact hlive (by constructor <;> simp [hworker]) (by constructor <;> simp [hworker])
  | cp4Snapshot epoch =>
    dsimp only [State.snapshotCp4]
    split_ifs
    · split
      · exact h.advance ⟨rfl, rfl, rfl, rfl, rfl⟩ (by constructor <;> simp [hworker])
      · exact hgoto (by constructor <;> simp [hworker])
    · exact hgoto (by constructor <;> simp [hworker])
  | cp4Recheck epoch snapshot challenge =>
    exact hlive (by constructor <;> simp [hworker]) (by constructor <;> simp [hworker])
  | cp4Encrypt epoch snapshot challenge =>
    dsimp only [State.encryptCp4]
    split
    · exact h.advance ⟨rfl, rfl, rfl, rfl, rfl⟩ (by constructor <;> simp [hworker])
    · exact hgoto (by constructor <;> simp [hworker])
  | cp4Ready epoch wire =>
    dsimp only [State.readyCp4]
    split_ifs
    · exact h.advance ⟨rfl, rfl, rfl, rfl, rfl⟩ (by constructor <;> simp [hworker])
    · exact hgoto (by constructor <;> simp [hworker])
  | cp2Result epoch =>
    refine hgoto ?_
    split <;> constructor <;> simp [hworker]
  | jobDone mode epoch status wire => exact h.finishJob hworker
  | cp3Callback start status wire => exact h.callbackCp3 hworker
  | cp3Send start status deliver conn generation wire =>
    exact hgoto (by constructor <;> simp [hworker])
  | cp3Settle start status conn generation sent =>
    have hself : Flight (state.goto state.worker) := h
    exact hself.settleCp3 (by rw [hworker]; rfl) _ _ _ _ _
  | cp4Callback status wire => exact h.callbackCp4 _ hworker
  | cp4Check conn generation wire => exact hgoto (by constructor <;> simp [hworker])
  | cp4Send conn generation live wire =>
    have hsettle : ∀ sent, state.worker.Follows (.cp4Settle (some conn) generation sent) := by
      intro sent
      constructor <;> simp [hworker]
    dsimp only
    split_ifs
    · exact h.advance ⟨rfl, rfl, rfl, rfl, rfl⟩ (hsettle _)
    · exact hgoto (hsettle _)
  | cp4Settle conn generation sent => exact h.settleCp4 (by rw [hworker]; rfl) _ _ _ _
  | cp2Callback status wire => exact h.callbackCp2 hworker
  | cp2Check status deliver conn generation wire => exact hgoto (by constructor <;> simp [hworker])
  | cp2Send deliver conn wire => exact hgoto (by constructor <;> simp [hworker])
  | cp2Settle => exact h.settleCp2 hworker
  | cp2Release => exact h.releaseCp2 hworker

end Worker

/-- **Every admissible step keeps the invariant.** -/
theorem Flight.step {platform : Platform} {state : State} (h : Flight state) {action : Action}
    (hadmissible : Admissible state action) :
    Flight ((firmware platform).step state action).2 := by
  cases action with
  | readPublicKey conn busy view => exact h
  | writeCiphertext conn data offset busy view => exact h.writeCiphertext data offset busy view
  | writeSecureData conn data offset view => exact h
  | writeControl conn data offset view => exact h.writeControl data offset
  | readCcc conn view => exact h
  | writeCcc conn enabled view =>
    simp only [firmware, answered, State.writeCcc]
    split
    · exact h
    · exact h.cccConfigChanged enabled view.uptime
  | cccConfigChanged enabled now => exact h.cccConfigChanged enabled now
  | serviceAbort conn now => exact h.serviceAbort _ now
  | securityChanged conn secured => exact h.v1Cp2SecurityChanged secured
  | bondChanged now => exact h.onService fun service ↦ service.bondChanged platform.version now
  | expire clock₁ clock₂ clock₃ =>
    exact h.onService fun service ↦ service.expire platform.version clock₁ clock₂ clock₃
  | timeout view => exact h.v1Cp3Timeout view
  | connected conn bonded clock now => exact h.connected hadmissible
  | disconnected conn now => exact h.disconnected now
  | worker view => exact h.workerStep

/-! ## Isolation -/

/-- The handshake and the application keys in the store, with the flags that say which are installed. -/
structure Installed where
  handshake : V1Handshake
  application : V1Application
  waitFinished : Bool
  keysPending : Bool
  appSecure : Bool
deriving DecidableEq

/-- What the store has installed. -/
def Store.installed (store : Store) : Installed where
  handshake := store.v1Cp3Handshake
  application := store.v1Cp3Application
  waitFinished := store.v1Cp3WaitFinished
  keysPending := store.v1Cp3KeysPending
  appSecure := store.v1Cp3AppSecure

/-- Nothing is installed. -/
def Installed.wiped : Installed := ⟨.zero, .zero, false, false, false⟩

/-- What a step for a job of an older generation leaves alone.  It installs no keys as long as fewer than
`2 ^ 32` resets came after a CP3 or CP4 job was submitted. -/
structure Isolated (state : State) (output : Output) (state' : State) : Prop where
  notified : ∀ conn wire, output.queued = some (conn, wire) → state.main.currentConn ≠ some conn
  handshake : state'.main.v1Cp3State = state.main.v1Cp3State
  slots : state'.main.transfer.slots = state.main.transfer.slots
  ciphertext : state'.main.transfer.ciphertext = state.main.transfer.ciphertext
  service : state'.service = state.service
  keys : (state.worker.inCp2 = false → state.jobResets < 2 ^ 32) →
    state'.store.installed = state.store.installed ∨ state'.store.installed = .wiped

section Isolation

variable {platform : Platform} {state : State} {view : WorkerView}

/-- What a job of an older generation finds. -/
structure Overtaken (state : State) : Prop where
  idle : state.main.v1Cp3State = .idle
  unowned : state.main.v1Cp3Conn = none
  invalid : state.main.v1Cp2Valid = false
  clear : state.main.transfer.Clear
  conn : ∀ conn, state.worker.conn = some conn → state.main.currentConn ≠ some conn
  epoch : state.worker.inCp2 = false → state.jobResets < 2 ^ 32 → ∀ mode epoch,
    state.worker.running = some (mode, epoch) → ¬SameU32 epoch state.store.v1Cp3Epoch

theorem Flight.overtaken (h : Flight state) (hbusy : state.worker.busy = true)
    (hne : state.workerGeneration ≠ state.main.connectionGeneration) : Overtaken state := by
  rw [h.generation hbusy] at hne
  obtain ⟨hidle, hinvalid, hclear⟩ := h.stale ⟨.inr hbusy, hne⟩
  refine ⟨hidle, ?_, hinvalid, hclear, fun conn hconn ↦ ?_, fun _ hresets mode epoch hrunning hsame ↦ ?_⟩
  · by_contra howner
    exact hne (h.owner howner).2
  · exact (h.conn conn (.inl hconn)).resolve_left hne
  · have hepoch := h.epoch
    have hone := h.resets hne
    rw [h.running mode epoch hrunning, SameU32, hepoch] at hsame
    omega

/-- A step that queues nothing and leaves the protocol state and the service alone. -/
theorem Isolated.of_store {state' : State} (hmain : state'.main = state.main)
    (hservice : state'.service = state.service)
    (hkeys : (state.worker.inCp2 = false → state.jobResets < 2 ^ 32) →
      state'.store.installed = state.store.installed ∨ state'.store.installed = .wiped) :
    Isolated state {} state' where
  notified := nofun
  handshake := by rw [hmain]
  slots := by rw [hmain]
  ciphertext := by rw [hmain]
  service := hservice
  keys := hkeys

/-- An invalidation finds nothing of the later generation. -/
theorem Overtaken.invalidate (h : Overtaken state) : Isolated state {} state.invalidateV1Cp3 where
  notified := nofun
  handshake := by simp [State.invalidateV1Cp3, h.idle]
  slots := rfl
  ciphertext := rfl
  service := rfl
  keys _ := .inr rfl

theorem Overtaken.pqV1Cp4JobLive (h : Overtaken state) (seen : LinkView) (worker : Worker) :
    Isolated state {} ((state.pqV1Cp4JobLive seen).2.goto worker) := by
  have hinvalid := h.invalidate
  unfold State.pqV1Cp4JobLive
  split_ifs
  · exact .of_store rfl rfl fun _ ↦ .inl rfl
  · exact ⟨nofun, hinvalid.handshake, rfl, rfl, rfl, hinvalid.keys⟩

/-- The end of a callback clears a transfer that has nothing in it. -/
theorem Isolated.drain {state' : State} {output : Output} (hclear : state.main.transfer.Clear)
    (h : Isolated state output state') : Isolated state output state'.drain where
  notified := h.notified
  handshake := by
    unfold State.drain
    dsimp only
    split_ifs <;> exact h.handshake
  slots := by
    unfold State.drain
    dsimp only
    split_ifs
    · exact hclear.1.symm
    · exact h.slots
  ciphertext := by
    unfold State.drain
    dsimp only
    split_ifs
    · exact hclear.2.symm
    · exact h.ciphertext
  service := by
    unfold State.drain
    dsimp only
    exact h.service
  keys := by
    unfold State.drain
    exact h.keys

/-- The last section of a CP3 callback finds no attempt of its own. -/
theorem Overtaken.settleCp3 (h : Overtaken state) {output : Output}
    (hqueued : ∀ conn wire, output.queued = some (conn, wire) → state.main.currentConn ≠ some conn)
    {current : State} (hmain : current.main.v1Cp3State = state.main.v1Cp3State ∧
      current.main.v1Cp3Conn = none ∧ current.main.transfer = state.main.transfer)
    (hstore : current.store = state.store ∧ current.service = state.service) (start : Bool)
    (status : JobStatus) (conn : Option Conn) (generation : ℕ) (sent : Bool) :
    Isolated state output (current.settleCp3 platform start status conn generation sent view) := by
  obtain ⟨hstate, hconn, htransfer⟩ := hmain
  unfold State.settleCp3
  dsimp only
  have howner : ¬(conn.isSome = true ∧ conn = current.main.v1Cp3Conn ∧
      SameU32 generation current.main.connectionGeneration) := by
    rintro ⟨hsome, hsame, -⟩
    rw [hsame, hconn] at hsome
    cases hsome
  rw [if_neg howner, if_neg (not_not.mpr (hstate.trans h.idle))]
  refine Isolated.drain h.clear ⟨hqueued, hstate, ?_, ?_, hstore.2, fun _ ↦ .inl ?_⟩
  · rw [htransfer]
  · rw [htransfer]
  · rw [hstore.1]

/-- A place of the worker in a CP3 or CP4 job is not in a CP2 job. -/
theorem Worker.not_inCp2_of_running {worker : Worker} {mode : JobMode} {epoch : ℕ}
    (h : worker.running = some (mode, epoch)) : worker.inCp2 = false := by
  cases worker <;> first | rfl | cases h

theorem Isolated.goto (worker : Worker) : Isolated state {} (state.goto worker) :=
  .of_store rfl rfl fun _ ↦ .inl rfl

/-- A result of the job is never stored. -/
theorem Overtaken.expired (h : Overtaken state) {mode : JobMode} {epoch : ℕ}
    (hrunning : state.worker.running = some (mode, epoch))
    (hresets : state.worker.inCp2 = false → state.jobResets < 2 ^ 32) : ¬SameU32 epoch state.store.v1Cp3Epoch :=
  have hcp2 := Worker.not_inCp2_of_running hrunning
  h.epoch hcp2 (hresets hcp2) mode epoch hrunning

/-- What a section for the job does where its epoch is the current one does not matter. -/
theorem Overtaken.store (h : Overtaken state) {mode : JobMode} {epoch : ℕ} {next : State}
    (hrunning : state.worker.running = some (mode, epoch)) (hsame : SameU32 epoch state.store.v1Cp3Epoch)
    (hmain : next.main = state.main) (hservice : next.service = state.service) : Isolated state {} next :=
  .of_store hmain hservice fun hresets ↦ absurd hsame (h.expired hrunning hresets)

variable {epoch : ℕ}

theorem Overtaken.storeStart (h : Overtaken state) (hworker : state.worker = .startResult epoch) :
    Isolated state {} (state.storeStart platform epoch view) := by
  have hrunning : state.worker.running = some (.v1Cp3, epoch) := by rw [hworker]; rfl
  unfold State.storeStart
  split
  · split_ifs with hsame
    · exact h.store hrunning hsame rfl rfl
    · exact .goto _
  · exact .goto _

theorem Overtaken.takeHandshake (h : Overtaken state) (hworker : state.worker = .finishedTake epoch) :
    Isolated state {} (state.takeHandshake epoch) := by
  have hrunning : state.worker.running = some (.v1Cp3FinishedC, epoch) := by rw [hworker]; rfl
  unfold State.takeHandshake
  split_ifs with hsame
  · exact h.store hrunning hsame.1 rfl rfl
  · exact .goto _

theorem Overtaken.storeFinished (h : Overtaken state) {handshake : V1Handshake}
    (hworker : state.worker = .finishedStore epoch handshake) :
    Isolated state {} (state.storeFinished platform epoch handshake view) := by
  have hrunning : state.worker.running = some (.v1Cp3FinishedC, epoch) := by rw [hworker]; rfl
  unfold State.storeFinished
  split
  · split_ifs with hsame
    · exact h.store hrunning hsame rfl rfl
    · exact .goto _
  · exact .goto _

theorem isolated_snapshotCp4 (epoch : ℕ) : Isolated state {} (state.snapshotCp4 platform epoch view) := by
  unfold State.snapshotCp4
  dsimp only
  split_ifs
  · split
    · exact .of_store rfl rfl fun _ ↦ .inl rfl
    · exact .goto _
  · exact .goto _

theorem isolated_encryptCp4 (epoch : ℕ) (snapshot : Cp4Snapshot) (challenge : Bytes) :
    Isolated state {} (state.encryptCp4 platform epoch snapshot challenge view) := by
  unfold State.encryptCp4
  split
  · exact .of_store rfl rfl fun _ ↦ .inl rfl
  · exact .goto _

theorem isolated_readyCp4 (epoch : ℕ) (wire : Bytes) : Isolated state {} (state.readyCp4 epoch wire) := by
  unfold State.readyCp4
  dsimp only
  split_ifs
  · exact .of_store rfl rfl fun _ ↦ .inl rfl
  · exact .goto _

theorem isolated_finishJob (mode : JobMode) (epoch : ℕ) (status : JobStatus) (wire : Bytes) :
    Isolated state {} (state.finishJob mode epoch status wire) := by
  refine .of_store rfl rfl fun _ ↦ .inl ?_
  dsimp only [State.finishJob, Store.finishJob]
  split_ifs <;> rfl

/-- The delivery of a CP3 result is dropped. -/
theorem Overtaken.callbackCp3 (h : Overtaken state) (start : Bool) (status : JobStatus) (wire : Bytes) :
    Isolated state (state.callbackCp3 platform start status wire view).1
      (state.callbackCp3 platform start status wire view).2 := by
  have hdead : (state.main.cp3Delivery platform.version start status wire view.first).deliver = false := by
    simp [Main.cp3Delivery, Main.v1Cp3Live, h.unowned]
  have hconn := cp3Delivery_dead hdead
  dsimp only [State.callbackCp3]
  rw [hdead, hconn]
  simp only [Bool.false_eq_true, false_and, if_false, Bool.false_and]
  split_ifs
  · exact ⟨fun conn wire hnotified ↦ absurd hnotified (Option.some_ne_none _).symm, rfl, rfl, rfl, rfl, fun _ ↦ .inl rfl⟩
  · refine h.settleCp3 (fun _ _ hqueued ↦ ?_) ?_ ?_ _ _ _ _ _
    · cases hqueued
    · exact ⟨rfl, h.unowned, rfl⟩
    · exact ⟨rfl, rfl⟩

/-- No PING of the job is live. -/
theorem Overtaken.not_live (h : Overtaken state) (conn : Option Conn) (generation : ℕ) (seen : LinkView) :
    ¬state.main.v1Cp4Live conn generation seen = true := by
  intro hlive
  obtain ⟨owner, -, howner⟩ := (v1Cp4Live_eq_true hlive).2
  rw [h.unowned] at howner
  cases howner

theorem Overtaken.callbackCp4 (h : Overtaken state) (status : JobStatus) (wire : Bytes) (seen : LinkView) :
    Isolated state {} (state.callbackCp4 platform status wire seen) := by
  have hinvalid := h.invalidate
  unfold State.callbackCp4
  dsimp only
  rw [if_neg fun hdeliver ↦ h.not_live _ _ _ hdeliver.2.2.1]
  exact ⟨nofun, hinvalid.handshake, rfl, rfl, rfl, hinvalid.keys⟩

theorem Overtaken.settleCp4 (h : Overtaken state) (conn : Option Conn) (generation : ℕ) (sent : Bool)
    (seen : LinkView) : Isolated state {} (state.settleCp4 conn generation sent seen) := by
  unfold State.settleCp4
  dsimp only
  rw [if_neg fun hcommit ↦ h.not_live _ _ _ hcommit.2]
  exact h.invalidate.drain h.clear

/-- A frame of the job goes to the connection object that the callback kept, which is not the current one. -/
theorem Overtaken.queuedTo (h : Overtaken state) {conn : Option Conn} (hconn : state.worker.conn = conn) {sent : Bool}
    {frame : Bytes} :
    ∀ conn' wire, FirmwareV1.queuedTo conn sent frame = some (conn', wire) → state.main.currentConn ≠ some conn' :=
  fun conn' _ hqueued ↦ h.conn conn' (hconn.trans (queuedTo_eq_some hqueued).2)

/-- **A step of the worker for a job of an older generation.** -/
theorem Overtaken.workerStep (h : Overtaken state) :
    Isolated state (state.workerStep platform view).1 (state.workerStep platform view).2 := by
  unfold State.workerStep
  cases hworker : state.worker with
  | idle =>
    dsimp only [State.takeJob]
    split_ifs <;> exact .of_store rfl rfl fun _ ↦ .inl rfl
  | startResult epoch => exact h.storeStart hworker
  | finishedTake epoch => exact h.takeHandshake hworker
  | finishedStore epoch handshake => exact h.storeFinished hworker
  | cp4Live epoch => exact h.pqV1Cp4JobLive _ _
  | cp4Snapshot epoch => exact isolated_snapshotCp4 epoch
  | cp4Recheck epoch snapshot challenge => exact h.pqV1Cp4JobLive _ _
  | cp4Encrypt epoch snapshot challenge => exact isolated_encryptCp4 epoch snapshot challenge
  | cp4Ready epoch wire => exact isolated_readyCp4 epoch wire
  | cp2Result epoch => exact .goto _
  | jobDone mode epoch status wire => exact isolated_finishJob mode epoch status wire
  | cp3Callback start status wire => exact h.callbackCp3 start status wire
  | cp3Send start status deliver conn generation wire =>
    exact ⟨h.queuedTo (by rw [hworker]; rfl), rfl, rfl, rfl, rfl, fun _ ↦ .inl rfl⟩
  | cp3Settle start status conn generation sent =>
    refine h.settleCp3 (fun _ _ hqueued ↦ ?_) ?_ ?_ _ _ _ _ _
    · cases hqueued
    · exact ⟨rfl, h.unowned, rfl⟩
    · exact ⟨rfl, rfl⟩
  | cp4Callback status wire => exact h.callbackCp4 status wire _
  | cp4Check conn generation wire => exact .goto _
  | cp4Send conn generation live wire =>
    refine ⟨h.queuedTo (by rw [hworker]; rfl), ?_, ?_, ?_, ?_, fun _ ↦ .inl ?_⟩
    all_goals
      dsimp only
      split_ifs <;> rfl
  | cp4Settle conn generation sent => exact h.settleCp4 conn generation sent _
  | cp2Callback status wire => exact ⟨nofun, rfl, rfl, rfl, rfl, fun _ ↦ .inl rfl⟩
  | cp2Check status deliver conn generation wire => exact .goto _
  | cp2Send deliver conn wire =>
    exact ⟨h.queuedTo (by rw [hworker]; rfl), rfl, rfl, rfl, rfl, fun _ ↦ .inl rfl⟩
  | cp2Settle => exact ⟨nofun, rfl, h.clear.1.symm, h.clear.2.symm, rfl, fun _ ↦ .inl rfl⟩
  | cp2Release => exact .of_store rfl rfl fun _ ↦ .inl rfl

end Isolation

/-- **Isolation of connection generations.**  In every run in which the stack does not reuse a referenced
connection object, a step of the worker for a job of another generation than the current one is isolated
from the current one. -/
theorem generation_isolation {platform : Platform} {actions : List Action}
    (hrun : (firmware platform).Along Admissible State.boot actions) (view : WorkerView) :
    let state := (firmware platform).run State.boot actions
    state.worker.busy = true → state.workerGeneration ≠ state.main.connectionGeneration →
      Isolated state (state.workerStep platform view).1 (state.workerStep platform view).2 := by
  intro state hbusy hne
  have hflight : Flight state :=
    (firmware platform).run_invariant_of_along (fun _ _ h hadmissible ↦ h.step hadmissible) flight_boot
      hrun
  exact (hflight.overtaken hbusy hne).workerStep

/-! ## A job that is overtaken -/

/-- A fragment of zeros. -/
def zeroFragment (index : UInt8) (length : ℕ) : Bytes :=
  [index, 3] ++ bigEndian 2 length ++ List.replicate length 0

/-- A connection that transfers a ciphertext and starts a CP3 job, which the worker takes. -/
def startedActions (version : UInt8) : List Action :=
  [.connected 1 true 0 0, .cccConfigChanged true 0,
    .writeCiphertext 1 (zeroFragment 0 508) 0 false openView,
    .writeCiphertext 1 (zeroFragment 1 508) 0 false openView,
    .writeCiphertext 1 (zeroFragment 2 72) 0 false openView,
    .writeControl 1 (v1Frame version pqV1StartCp3 (List.replicate 16 7)) 0 openControlView,
    .worker ⟨openView, ⟨openView, true⟩, openView, ⟨openView, true, .zero 7⟩, {}, false, false⟩]

/-- The connection ends while the job runs, and another one begins. -/
def overtakenActions (version : UInt8) : List Action :=
  startedActions version ++ [.disconnected 1 0, .connected 2 true 0 0]

/-- The queries of a worker step on a link that is up. -/
def openWorkerView : WorkerView :=
  ⟨openView, ⟨openView, true⟩, openView, ⟨openView, true, .zero 7⟩, {}, false, false⟩

/-- The isolation of the second connection from the job of the first one, in v1.0. -/
theorem generation_isolation_overtaken :
    let state := (firmware (samplePlatform pqV10)).run State.boot (overtakenActions pqV10)
    Isolated state (state.workerStep (samplePlatform pqV10) openWorkerView).1
      (state.workerStep (samplePlatform pqV10) openWorkerView).2 :=
  generation_isolation (by decide +kernel) openWorkerView (by decide +kernel) (by decide +kernel)

/-- A state without an attempt after a number of resets. -/
def State.silenced (state : State) (n : ℕ) : State :=
  { state with
    main := { state.main with
      notifyEnabled := false, v1Cp2Valid := false, v1Cp3State := .idle, v1Cp3Conn := none }
    store := { state.store.resetV1Cp3 with
      v1Cp2Epoch := state.store.v1Cp2Epoch + n
      v1Cp3Epoch := state.store.v1Cp3Epoch + n }
    jobResets := state.jobResets + n }

theorem run_silenced {platform : Platform} (hversion : platform.version ≠ Resumption.pqResumeV11)
    (state : State) (m n : ℕ) :
    (firmware platform).run (state.silenced m) (List.replicate n (.cccConfigChanged false 0)) =
      state.silenced (m + n) := by
  induction n generalizing m with
  | zero => rfl
  | succ n ih =>
    have hone : (state.silenced m).cccConfigChanged platform false 0 = state.silenced (m + 1) := by
      simp [State.cccConfigChanged, State.serviceAbort, hversion, State.silenced,
        State.invalidateV1Cp2, State.invalidateV1Cp3, Store.resetV1Cp2, Store.resetV1Cp3, add_assoc]
    rw [List.replicate_succ, Machine.run_cons]
    change (firmware platform).run ((state.silenced m).cccConfigChanged platform false 0) _ = _
    rw [hone, ih, add_assoc, add_comm 1 n]

/-- The second connection, while the job of the first one runs. -/
def overtakenState : State :=
  (firmware (samplePlatform pqV10)).run State.boot (overtakenActions pqV10)

/-- After enough resets for its epoch to come round again, the job installs its handshake. -/
theorem silenced_installs {n : ℕ} (hepoch : SameU32 2 (4 + n)) :
    ∃ handshake, ((overtakenState.silenced n).workerStep (samplePlatform pqV10) openWorkerView).2.store =
      (overtakenState.silenced n).store.storeHandshake handshake := by
  have hworker : overtakenState.worker = .startResult 2 := by decide +kernel
  have hcurrent : overtakenState.store.v1Cp3Epoch = 4 := by decide +kernel
  obtain ⟨⟨handshake, wire⟩, hresult⟩ : ∃ result, startResult (samplePlatform pqV10)
      overtakenState.store openWorkerView = some result :=
    Option.isSome_iff_exists.mp (by decide +kernel)
  generalize overtakenState = state at hworker hcurrent hresult
  have hresult' : startResult (samplePlatform pqV10) (state.silenced n).store openWorkerView =
      some (handshake, wire) := hresult
  have hworker' : (state.silenced n).worker = .startResult 2 := hworker
  have hepoch' : (state.silenced n).store.v1Cp3Epoch = 4 + n := congrArg (· + n) hcurrent
  refine ⟨handshake, ?_⟩
  simp only [State.workerStep, hworker', State.storeStart, hresult', hepoch', hepoch, if_true]

/-- The job of the first connection is still running after many resets of the second one. -/
def wrappedActions (n : ℕ) : List Action :=
  overtakenActions pqV10 ++ List.replicate n (.cccConfigChanged false 0)

theorem run_wrappedActions (n : ℕ) :
    (firmware (samplePlatform pqV10)).run State.boot (wrappedActions n) = overtakenState.silenced n := by
  have hsilent : overtakenState.silenced 0 = overtakenState := by decide +kernel
  have hversion : (samplePlatform pqV10).version ≠ Resumption.pqResumeV11 := by decide
  have hrun := run_silenced hversion overtakenState 0 n
  rw [hsilent, Nat.zero_add] at hrun
  rw [wrappedActions, Machine.run_append]
  exact hrun

theorem along_wrappedActions (n : ℕ) :
    (firmware (samplePlatform pqV10)).Along Admissible State.boot (wrappedActions n) := by
  refine (Machine.along_append _).mpr ⟨by decide +kernel, ?_⟩
  refine Machine.along_of_forall _ (fun input hmem state ↦ ?_) _
  rw [List.eq_of_mem_replicate hmem]
  trivial

/-- A job of the first generation installs its handshake for the second one. -/
theorem wrapped_job_installs {n : ℕ} (hepoch : SameU32 2 (4 + n)) :
    let state := (firmware (samplePlatform pqV10)).run State.boot (wrappedActions n)
    state.worker.busy = true ∧ state.workerGeneration ≠ state.main.connectionGeneration ∧
      (state.workerStep (samplePlatform pqV10) openWorkerView).2.store.installed ≠
          state.store.installed ∧
        (state.workerStep (samplePlatform pqV10) openWorkerView).2.store.installed ≠ .wiped := by
  rw [run_wrappedActions]
  obtain ⟨handshake, hinstalls⟩ := silenced_installs hepoch
  have hbusy : overtakenState.worker.busy = true := by decide +kernel
  have hgeneration : overtakenState.workerGeneration ≠ overtakenState.main.connectionGeneration := by
    decide +kernel
  dsimp only
  rw [hinstalls]
  generalize overtakenState = state at *
  refine ⟨hbusy, hgeneration, fun hsame ↦ ?_, fun hwiped ↦ ?_⟩
  · exact Bool.noConfusion (congrArg Installed.waitFinished hsame)
  · exact Bool.noConfusion (congrArg Installed.waitFinished hwiped)

/-- The epoch wraps while a job runs, and the job installs its handshake for another generation. -/
theorem overtaken_job_installs :
    (firmware (samplePlatform pqV10)).Along Admissible State.boot (wrappedActions (2 ^ 32 - 2)) ∧
      let state := (firmware (samplePlatform pqV10)).run State.boot (wrappedActions (2 ^ 32 - 2))
      state.worker.busy = true ∧ state.workerGeneration ≠ state.main.connectionGeneration ∧
        (state.workerStep (samplePlatform pqV10) openWorkerView).2.store.installed ≠
            state.store.installed ∧
          (state.workerStep (samplePlatform pqV10) openWorkerView).2.store.installed ≠ .wiped := by
  have hepoch : SameU32 2 (4 + (2 ^ 32 - 2)) := by
    unfold SameU32
    norm_num
  exact ⟨along_wrappedActions _, wrapped_job_installs hepoch⟩

end PqBleHandshake.FirmwareV1
