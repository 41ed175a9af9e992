import PqBleHandshake.FirmwareV1.Progress
import PqBleHandshake.FirmwareV1.Resets

/-!
# The two halves of the handshake state

`v1_cp3_state` lives in `main.c`, the flags, the handshake and the keys in `mlkem_session.c`.  Every section
under `protocol_lock` leaves them in agreement: each job runs in the state that submitted it, or was overtaken by
a reset, and what it has made so far belongs to the attempt of the current connection generation.
-/

namespace PqBleHandshake.FirmwareV1

open Foundation

/-! ## The attempt -/

/-- No handshake is under way and no session is open. -/
def Cp3State.Over (state : Cp3State) : Prop := state = .idle ∨ state = .failed

/-- The state in which a job is submitted. -/
def JobMode.state : JobMode → Cp3State
  | .v1Cp2 => .idle
  | .v1Cp3 => .cryptoBusy
  | .v1Cp3FinishedC => .finishedPBusy
  | .v1Cp4C2p => .appSecure

namespace Attempt

variable (platform : Platform) (attempt : Attempt)

/-- The job of START has the frames of the attempt. -/
def Submitted (store : Store) : Prop :=
  store.ciphertextJob = attempt.ct ∧ store.v1Cp3SecJob = attempt.sec ∧ store.v1Cp3StartJob = attempt.start

/-- The handshake that START begins: the transcript covers SEC_INFO, the public key, the ciphertext and START. -/
def Begins (handshake : V1Handshake) : Prop :=
  ∃ ss, platform.decaps attempt.ct = some ss ∧
    handshake = cp3Handshake platform.crypto platform.version ss (platform.crypto.hash
      (cp3Transcript platform.version attempt.sec platform.publicKey attempt.ct attempt.start))

/-- FINISHED_C is the one of the handshake, and the keys are those of the handshake. -/
def Confirms (app : V1Application) : Prop :=
  ∃ handshake, attempt.Begins platform handshake ∧
    attempt.finishedC = some (cp3FinishedC platform.crypto platform.version handshake) ∧
    app = cp3Application platform.crypto platform.version handshake

end Attempt

section Attempts

variable {platform : Platform} {attempt : Attempt} {store : Store} {view : WorkerView}

theorem startResult_begins {handshake : V1Handshake} {wire : Bytes} (hsubmitted : attempt.Submitted store)
    (h : startResult platform store view = some (handshake, wire)) : attempt.Begins platform handshake := by
  simp only [startResult, Option.bind_eq_bind, Option.bind_eq_some_iff] at h
  obtain ⟨ss, hss, th0, hth0, begun, hbegun, encoded, -, hresult⟩ := h
  cases hresult
  have hdecaps : platform.decaps store.ciphertextJob = some ss := by
    unfold decapsulate at hss
    split at hss
    · cases hss
    · exact hss
  obtain ⟨hct, hsec, hstart⟩ := hsubmitted
  rw [hct] at hdecaps
  refine ⟨ss, hdecaps, ?_⟩
  rw [pqV1Cp3Derive_eq_some hbegun, (pqV1Cp3Transcript_eq_some hth0).1, hct, hsec, hstart]

theorem finish_confirms {faults : Faults} {handshake : V1Handshake} {wire frame : Bytes} {app : V1Application}
    (hbegins : attempt.Begins platform handshake) (hframe : attempt.finishedC = some frame)
    (h : pqV1Cp3Finish platform.crypto faults platform.version handshake frame = some (wire, app)) :
    attempt.Confirms platform app := by
  obtain ⟨rfl, -, rfl⟩ := pqV1Cp3Finish_eq_some h
  exact ⟨handshake, hbegins, hframe, rfl⟩

end Attempts

/-! ## Where a job stands -/

namespace Worker

/-- The CP3 or CP4 job that the worker is in, up to the first section of its callback. -/
def mode? : Worker → Option JobMode
  | .startResult _ | .cp3Callback true _ _ => some .v1Cp3
  | .finishedTake _ | .finishedStore _ _ | .cp3Callback false _ _ => some .v1Cp3FinishedC
  | .cp4Live _ | .cp4Snapshot _ | .cp4Recheck _ _ _ | .cp4Encrypt _ _ _ | .cp4Ready _ _ | .cp4Callback _ _ =>
    some .v1Cp4C2p
  | .jobDone mode _ _ _ => if mode = .v1Cp2 then none else some mode
  | _ => none

theorem inJob_of_mode? {worker : Worker} {mode : JobMode} (h : worker.mode? = some mode) : worker.inJob = true := by
  cases worker <;> try cases h
  case jobDone own _ _ _ => cases own <;> first | rfl | cases h
  case cp3Callback start _ _ => rfl
  all_goals rfl

theorem mode?_of_running {worker : Worker} {mode : JobMode} {epoch : ℕ} (h : worker.running = some (mode, epoch)) :
    worker.mode? = some mode ∧ mode ≠ .v1Cp2 := by
  cases worker <;> cases h <;> exact ⟨rfl, nofun⟩

theorem mode?_of_isCp2 {worker : Worker} (h : worker.isCp2 = true) : worker.mode? = none := by
  cases worker <;> try exact Bool.noConfusion h
  case jobDone mode _ _ _ => cases mode <;> first | rfl | exact Bool.noConfusion h
  all_goals rfl

/-- What the worker has made of an attempt. -/
def Attests (platform : Platform) (attempt : Attempt) (store : Store) : Worker → Prop
  | .startResult _ => attempt.Submitted store
  | .jobDone .v1Cp3 _ .success _ | .cp3Callback true .success _ => attempt.Begins platform store.v1Cp3Handshake
  | .finishedTake _ =>
    attempt.Begins platform store.v1Cp3Handshake ∧ attempt.finishedC = some store.v1Cp3FinishedJob
  | .finishedStore _ handshake =>
    attempt.Begins platform handshake ∧ attempt.finishedC = some store.v1Cp3FinishedJob
  | .jobDone .v1Cp3FinishedC _ .success _ | .cp3Callback false .success _ =>
    attempt.Confirms platform store.v1Cp3Application
  | _ => True

variable {platform : Platform} {attempt : Attempt} {store : Store}

/-- A worker outside these jobs attests nothing. -/
theorem attests_of_mode? {worker : Worker} (h : worker.mode? = none) : worker.Attests platform attempt store := by
  cases worker with
  | jobDone mode _ _ _ => cases mode <;> trivial
  | cp3Callback start _ _ => cases start <;> cases h
  | _ => trivial

theorem attests_jobDone_failed {mode : JobMode} {epoch : ℕ} {status : JobStatus} {wire : Bytes}
    (h : status ≠ .success) : (Worker.jobDone mode epoch status wire).Attests platform attempt store := by
  cases mode <;> cases status <;> trivial

theorem attests_callback {store' : Store} {mode : JobMode} {epoch : ℕ} {status status' : JobStatus}
    {wire wire' : Bytes}
    (h : (Worker.jobDone mode epoch status wire).Attests platform attempt store)
    (hhandshake : store'.v1Cp3Handshake = store.v1Cp3Handshake)
    (happ : store'.v1Cp3Application = store.v1Cp3Application)
    (hresult : status' = status ∨ status' ≠ .success) :
    (mode.callback status' wire').Attests platform attempt store' := by
  rcases hresult with rfl | hfailed
  · cases mode <;> cases status' <;> first | trivial | simpa only [Attests, JobMode.callback, hhandshake, happ] using h
  · cases mode <;> cases status' <;> trivial

end Worker

/-- The queued job has the frames of the attempt. -/
def Store.Queues (platform : Platform) (attempt : Attempt) (store : Store) : JobMode → Prop
  | .v1Cp3 => attempt.Submitted store
  | .v1Cp3FinishedC =>
    attempt.Begins platform store.v1Cp3Handshake ∧ attempt.finishedC = some store.v1Cp3FinishedJob
  | _ => True

/-- A CP3 or CP4 job is queued or in flight. -/
def Core.Holds (core : Core) (mode : JobMode) : Prop :=
  core.worker.mode? = some mode ∨
    core.store.jobPending = true ∧ core.store.pendingJobMode = mode ∧ mode ≠ .v1Cp2

/-- What an attempt has reached. -/
structure Core.Follows (platform : Platform) (core : Core) (attempt : Attempt) : Prop where
  current : core.attempt = some attempt
  generation : attempt.generation = core.generation
  worker : core.worker.Attests platform attempt core.store
  queued : core.store.jobPending = true → core.store.Queues platform attempt core.store.pendingJobMode
  waiting : core.state = .waitFinishedC → attempt.Begins platform core.store.v1Cp3Handshake

/-- The two halves agree; v1.1 hands the keys to the service and clears the flag. -/
structure Agreed (platform : Platform) (core : Core) : Prop where
  cp2 : core.worker.isCp2 = true → core.store.jobActive = true ∧ core.store.jobPending = false
  secure : platform.version ≠ Resumption.pqResumeV11 →
    (core.state = .appSecure ↔ core.store.v1Cp3AppSecure = true)
  held : ∀ mode, core.Holds mode → core.state = mode.state ∨ core.state.Over ∧ 0 < core.jobResets
  attempt : ¬core.state.Over → ∃ attempt, core.Follows platform attempt

theorem agreed_boot (platform : Platform) : Agreed platform State.boot.core where
  cp2 := nofun
  secure _ := ⟨nofun, nofun⟩
  held mode h := by
    rcases h with h | ⟨h, -⟩
    · cases h
    · cases h
  attempt h := absurd (.inl rfl) h

/-! ## The moves -/

section Moves

variable {platform : Platform} {core core' : Core}

/-- Nothing else happened than that the worker moved on. -/
theorem Agreed.goTo (h : Agreed platform core) (hstate : core'.state = core.state) (hstore : core'.store = core.store)
    (hattempt : core'.attempt = core.attempt) (hgeneration : core'.generation = core.generation)
    (hresets : core'.jobResets = core.jobResets) (hcp2 : core'.worker.isCp2 = false)
    (hmode : ∀ mode, core'.worker.mode? = some mode → core.worker.mode? = some mode)
    (hattests : ∀ attempt, core.worker.Attests platform attempt core.store →
      core'.worker.Attests platform attempt core.store) : Agreed platform core' where
  cp2 hnow := Bool.noConfusion (hcp2.symm.trans hnow)
  secure := by rw [hstate, hstore]; exact h.secure
  held mode hholds := by
    rw [hstate, hresets]
    refine h.held mode ?_
    rw [Core.Holds, hstore] at hholds
    exact hholds.imp_left (hmode mode)
  attempt hopen := by
    rw [hstate] at hopen
    obtain ⟨attempt, hfollows⟩ := h.attempt hopen
    refine ⟨attempt, hattempt.trans hfollows.current, hfollows.generation.trans hgeneration.symm, ?_, ?_, ?_⟩
    · rw [hstore]; exact hattests attempt hfollows.worker
    · rw [hstore]; exact hfollows.queued
    · rw [hstate, hstore]; exact hfollows.waiting

/-- A reset leaves no attempt. -/
theorem Agreed.reset (h : Agreed platform core) (hstore : core'.store = core.store.resetV1Cp3)
    (hover : core'.state.Over) (hresets : 0 < core'.jobResets)
    (hcp2 : core'.worker.isCp2 = true → core.worker.isCp2 = true) : Agreed platform core' where
  cp2 hnow := by rw [hstore]; exact h.cp2 (hcp2 hnow)
  secure _ := by
    rw [hstore]
    refine ⟨fun hsecure ↦ ?_, nofun⟩
    rw [hsecure] at hover
    rcases hover with hidle | hfailed
    · cases hidle
    · cases hfailed
  held _ _ := .inr ⟨hover, hresets⟩
  attempt hopen := absurd hover hopen

theorem Core.invalidate_over (core : Core) : core.invalidate.state.Over := by
  unfold Core.invalidate
  dsimp only
  split_ifs
  · exact .inr rfl
  · exact .inl rfl

/-- The state of an attempt that is not over is the one of the job that is queued or in flight. -/
theorem Agreed.state_of_held (h : Agreed platform core) {mode : JobMode} (hholds : core.Holds mode)
    (hopen : ¬core.state.Over) : core.state = mode.state :=
  (h.held mode hholds).resolve_right fun hover ↦ hopen hover.1

theorem Cp3State.not_over {state : Cp3State} (hidle : state ≠ .idle) (hfailed : state ≠ .failed) : ¬state.Over :=
  fun h ↦ h.elim hidle hfailed

/-- What a submission finds: the worker is in no job. -/
theorem Slotted.mode? (h : Slotted core) (hfree : core.workerActive = false) : core.worker.mode? = none := by
  cases hmode : core.worker.mode? with
  | none => rfl
  | some mode => exact Bool.noConfusion (hfree.symm.trans (h.job (Worker.inJob_of_mode? hmode)).1)

/-- The worker in a job finds none queued. -/
theorem Slotted.unqueued (h : Slotted core) {mode : JobMode} (hmode : core.worker.mode? = some mode) :
    core.store.jobPending = false := (h.job (Worker.inJob_of_mode? hmode)).2

/-- A submission: the slot is free, and the job is queued in its own state. -/
theorem Agreed.submitted (h : Agreed platform core) (hslot : Slotted core) (hfree : core.workerActive = false)
    (hactive : core.store.jobActive = false) (hworker : core'.worker = core.worker)
    (hmode : core'.store.pendingJobMode = .v1Cp2 ∨ core'.state = core'.store.pendingJobMode.state)
    (hsecure : platform.version ≠ Resumption.pqResumeV11 →
      (core'.state = .appSecure ↔ core'.store.v1Cp3AppSecure = true))
    (hattempt : ¬core'.state.Over → ∃ attempt, core'.attempt = some attempt ∧ attempt.generation = core'.generation ∧
      core'.store.Queues platform attempt core'.store.pendingJobMode ∧
      (core'.state = .waitFinishedC → attempt.Begins platform core'.store.v1Cp3Handshake)) :
    Agreed platform core' where
  cp2 hnow := by
    rw [hworker] at hnow
    exact Bool.noConfusion (hactive.symm.trans (h.cp2 hnow).1)
  secure := hsecure
  held mode hholds := by
    rcases hholds with hrunning | ⟨-, rfl, hother⟩
    · rw [hworker, hslot.mode? hfree] at hrunning
      cases hrunning
    · exact .inl (hmode.resolve_left hother)
  attempt hopen := by
    obtain ⟨attempt, hcurrent, hgeneration, hqueues, hwaiting⟩ := hattempt hopen
    refine ⟨attempt, hcurrent, hgeneration, ?_, fun _ ↦ hqueues, hwaiting⟩
    rw [hworker]
    exact Worker.attests_of_mode? (hslot.mode? hfree)

/-- The worker of a job that has stored its result. -/
theorem Agreed.stored (h : Agreed platform core) (hslot : Slotted core) {mode : JobMode}
    (hmode : core.worker.mode? = some mode) (hmode' : core'.worker.mode? = some mode)
    (hstate : core'.state = core.state) (hattempt : core'.attempt = core.attempt)
    (hgeneration : core'.generation = core.generation) (hresets : core'.jobResets = core.jobResets)
    (hcp2 : core'.worker.isCp2 = false) (hpending : core'.store.jobPending = core.store.jobPending)
    (hsecure : core'.store.v1Cp3AppSecure = core.store.v1Cp3AppSecure)
    (hwaiting : mode.state ≠ .waitFinishedC)
    (hattests : ∀ attempt, core.worker.Attests platform attempt core.store →
      core'.worker.Attests platform attempt core'.store) : Agreed platform core' where
  cp2 hnow := Bool.noConfusion (hcp2.symm.trans hnow)
  secure := by rw [hstate, hsecure]; exact h.secure
  held other hholds := by
    rw [hstate, hresets]
    rcases hholds with hrunning | ⟨hqueued, -⟩
    · obtain rfl : mode = other := Option.some.inj (hmode'.symm.trans hrunning)
      exact h.held _ (.inl hmode)
    · rw [hpending, hslot.unqueued hmode] at hqueued
      cases hqueued
  attempt hopen := by
    rw [hstate] at hopen
    obtain ⟨attempt, hfollows⟩ := h.attempt hopen
    refine ⟨attempt, hattempt.trans hfollows.current, hfollows.generation.trans hgeneration.symm,
      hattests attempt hfollows.worker, fun hqueued ↦ ?_, fun hwait ↦ ?_⟩
    · rw [hpending, hslot.unqueued hmode] at hqueued
      cases hqueued
    · exact absurd ((h.state_of_held (.inl hmode) hopen).symm.trans (hstate.symm.trans hwait)) hwaiting

/-- Outside APP_SECURE the store of v1.0 has no committed session. -/
theorem Agreed.insecure (h : Agreed platform core) (hstate : core.state ≠ .appSecure)
    (hversion : platform.version ≠ Resumption.pqResumeV11) : core.store.v1Cp3AppSecure ≠ true :=
  fun hnow ↦ hstate ((h.secure hversion).mpr hnow)

/-- The last section of a job: the worker has left it, and none is queued. -/
theorem Agreed.emptied (h : Agreed platform core) (hmode : core'.worker.mode? = none)
    (hcp2 : core'.worker.isCp2 = true → core'.store.jobActive = true) (hpending : core'.store.jobPending = false)
    (hsecure : platform.version ≠ Resumption.pqResumeV11 →
      (core'.state = .appSecure ↔ core'.store.v1Cp3AppSecure = true))
    (hopen : ¬core'.state.Over → ¬core.state.Over) (hattempt : core'.attempt = core.attempt)
    (hgeneration : core'.generation = core.generation)
    (hwaiting : ∀ attempt, core.Follows platform attempt → core'.state = .waitFinishedC →
      attempt.Begins platform core'.store.v1Cp3Handshake) : Agreed platform core' where
  cp2 hnow := ⟨hcp2 hnow, hpending⟩
  secure := hsecure
  held mode hholds := by
    rcases hholds with hrunning | ⟨hqueued, -⟩
    · rw [hmode] at hrunning
      cases hrunning
    · exact Bool.noConfusion (hpending.symm.trans hqueued)
  attempt hnot := by
    obtain ⟨attempt, hfollows⟩ := h.attempt (hopen hnot)
    exact ⟨attempt, hattempt.trans hfollows.current, hfollows.generation.trans hgeneration.symm,
      Worker.attests_of_mode? hmode, fun hqueued ↦ Bool.noConfusion (hpending.symm.trans hqueued),
      hwaiting attempt hfollows⟩

/-! ### Submissions -/

/-- START begins an attempt. -/
theorem Agreed.start (h : Agreed platform core) (hslot : Slotted core) {ct sec frame : Bytes} {store : Store}
    (hfree : core.workerActive = false) (hsubmitted : core.store.submitV1Cp3 platform.version ct sec frame = .ok store) :
    Agreed platform { core with
      state := .cryptoBusy, workerActive := true, store
      attempt := some { generation := core.generation, ct, sec, start := frame }, jobResets := 0 } := by
  obtain ⟨-, -, payload, -, -, ⟨-, -, hactive, -, -, hsecure⟩, rfl⟩ := submitV1Cp3_eq_ok_iff.mp hsubmitted
  exact h.submitted hslot hfree hactive rfl (.inr rfl)
    (fun _ ↦ ⟨nofun, fun hnow ↦ Bool.noConfusion (hsecure.symm.trans hnow)⟩)
    fun _ ↦ ⟨_, rfl, rfl, ⟨rfl, rfl, rfl⟩, nofun⟩

/-- FINISHED_C goes on with the attempt whose READY_CP3 went out. -/
theorem Agreed.finishedC (h : Agreed platform core) (hslot : Slotted core) {frame : Bytes} {store : Store}
    (hwaiting : core.state = .waitFinishedC) (hfree : core.workerActive = false)
    (hsubmitted : core.store.submitV1Cp3FinishedC platform.version frame = .ok store) :
    Agreed platform { core with
      state := .finishedPBusy, workerActive := true, store
      attempt := core.attempt.map fun attempt ↦ { attempt with finishedC := some frame }, jobResets := 0 } := by
  obtain ⟨payload, -, -, ⟨-, hactive, -⟩, rfl⟩ := submitV1Cp3FinishedC_eq_ok_iff.mp hsubmitted
  have hnot : ¬core.state.Over := Cp3State.not_over (by rw [hwaiting]; decide) (by rw [hwaiting]; decide)
  obtain ⟨attempt, hfollows⟩ := h.attempt hnot
  have hbegins := hfollows.waiting hwaiting
  refine h.submitted hslot hfree hactive rfl (.inr rfl) (fun hversion ↦ ⟨nofun, fun hnow ↦ ?_⟩) fun _ ↦ ?_
  · exact absurd hnow (h.insecure (by rw [hwaiting]; decide) hversion)
  refine ⟨{ attempt with finishedC := some frame }, ?_, hfollows.generation, ⟨hbegins, rfl⟩, nofun⟩
  rw [hfollows.current]
  rfl

/-- A PING keeps the attempt. -/
theorem Agreed.ping (h : Agreed platform core) (hslot : Slotted core) {wire : Bytes} {store : Store}
    (hsecure : core.state = .appSecure) (hfree : core.workerActive = false)
    (hsubmitted : core.store.submitV1Cp4 platform.version wire = .ok store) :
    Agreed platform { core with workerActive := true, store, jobResets := 0 } := by
  obtain ⟨-, -, -, ⟨-, -, hactive, -⟩, rfl⟩ := submitV1Cp4_eq_ok_iff.mp hsubmitted
  have hnot : ¬core.state.Over := Cp3State.not_over (by rw [hsecure]; decide) (by rw [hsecure]; decide)
  obtain ⟨attempt, hfollows⟩ := h.attempt hnot
  refine h.submitted hslot hfree hactive rfl (.inr hsecure) h.secure fun _ ↦ ?_
  exact ⟨attempt, hfollows.current, hfollows.generation, trivial, hfollows.waiting⟩

/-! ### The queued job -/

/-- The worker that takes a job attests what was queued. -/
theorem Taken.attests {worker : Worker} (taken : Taken core.store worker) (hpending : core.store.jobPending = true)
    {attempt : Attempt} (hfollows : core.Follows platform attempt) :
    worker.Attests platform attempt core.store.takeJob := by
  have hqueued := hfollows.queued hpending
  cases taken with
  | start mode =>
    rw [mode] at hqueued
    exact hqueued
  | finished mode =>
    rw [mode] at hqueued
    exact hqueued
  | ping mode => trivial
  | stale status mode failed => exact Worker.attests_jobDone_failed failed
  | cp2 worker mode isCp2 => exact Worker.attests_of_mode? (Worker.mode?_of_isCp2 isCp2)

/-- The worker that takes a job is in the queued one. -/
theorem Taken.holds {worker : Worker} (taken : Taken core.store worker) (hpending : core.store.jobPending = true)
    {mode : JobMode} (hmode : worker.mode? = some mode) : core.Holds mode := by
  refine .inr ⟨hpending, ?_⟩
  cases taken with
  | start own => cases hmode; exact ⟨own, nofun⟩
  | finished own => cases hmode; exact ⟨own, nofun⟩
  | ping own => cases hmode; exact ⟨own, nofun⟩
  | stale status own failed =>
    rw [Worker.mode?, if_neg own] at hmode
    obtain rfl := Option.some.inj hmode
    exact ⟨rfl, own⟩
  | cp2 worker own isCp2 =>
    rw [Worker.mode?_of_isCp2 isCp2] at hmode
    cases hmode

theorem Agreed.take (h : Agreed platform core) {worker : Worker} (hpending : core.store.jobPending = true)
    (taken : Taken core.store worker) : Agreed platform { core with store := core.store.takeJob, worker } where
  cp2 _ := ⟨rfl, rfl⟩
  secure := h.secure
  held mode hholds := hholds.elim (fun hrunning ↦ h.held mode (taken.holds hpending hrunning)) (nomatch ·.1)
  attempt hopen := by
    obtain ⟨attempt, hfollows⟩ := h.attempt hopen
    exact ⟨attempt, hfollows.current, hfollows.generation, taken.attests hpending hfollows, nofun, hfollows.waiting⟩

theorem Agreed.dropJob (h : Agreed platform core) :
    Agreed platform { core with store := { core.store with jobPending := false } } where
  cp2 hnow := ⟨(h.cp2 hnow).1, rfl⟩
  secure := h.secure
  held mode hholds := hholds.elim (fun hrunning ↦ h.held mode (.inl hrunning)) (nomatch ·.1)
  attempt hopen := by
    obtain ⟨attempt, hfollows⟩ := h.attempt hopen
    exact ⟨attempt, hfollows.current, hfollows.generation, hfollows.worker, nofun, hfollows.waiting⟩

/-! ### Results -/

theorem Agreed.jobFailed (h : Agreed platform core) {mode : JobMode} {epoch : ℕ} {status : JobStatus}
    (hrunning : core.worker.running = some (mode, epoch)) (hfailed : status ≠ .success) :
    Agreed platform { core with worker := .jobDone mode epoch status [] } := by
  obtain ⟨hmode, hother⟩ := Worker.mode?_of_running hrunning
  refine h.goTo rfl rfl rfl rfl rfl ?_ (fun own hown ↦ ?_) fun attempt _ ↦ Worker.attests_jobDone_failed hfailed
  · cases mode <;> first | rfl | exact absurd rfl hother
  · rw [Worker.mode?, if_neg hother] at hown
    exact hmode.trans hown

theorem Agreed.jobFinished (h : Agreed platform core) (hslot : Slotted core) {mode : JobMode} {epoch : ℕ}
    {status status' : JobStatus} {wire wire' : Bytes} (hworker : core.worker = .jobDone mode epoch status wire)
    (hmode : mode ≠ .v1Cp2) (hresult : status' = status ∨ status' ≠ .success) :
    Agreed platform { core with
      store := { core.store with
        ciphertextJob := [], v1Cp3SecJob := [], v1Cp3StartJob := [], v1Cp3FinishedJob := []
        v1Cp4WireJob := [], jobActive := false }
      worker := mode.callback status' wire' } := by
  have hrunning : core.worker.mode? = some mode := by rw [hworker, Worker.mode?, if_neg hmode]
  refine h.stored hslot hrunning ?_ rfl rfl rfl rfl ?_ rfl rfl ?_ fun attempt hattests ↦ ?_
  · cases mode <;> first | rfl | exact absurd rfl hmode
  · cases mode <;> first | rfl | exact absurd rfl hmode
  · cases mode <;> decide
  · rw [hworker] at hattests
    exact Worker.attests_callback hattests rfl rfl hresult

/-- READY_CP3 is about to go out: what the worker made is what FINISHED_C will be checked against. -/
theorem Agreed.readyArmed (h : Agreed platform core) (hslot : Slotted core) {wire wire' : Bytes} {conn : Option Conn}
    {generation : ℕ} (hworker : core.worker = .cp3Callback true .success wire) (hbusy : core.state = .cryptoBusy) :
    Agreed platform { core with
      state := .waitFinishedC, workerActive := false, deliveryActive := true
      worker := .cp3Send true .success true conn generation wire' } := by
  have hmode : core.worker.mode? = some .v1Cp3 := by rw [hworker]; rfl
  have hnot : ¬core.state.Over := Cp3State.not_over (by rw [hbusy]; decide) (by rw [hbusy]; decide)
  refine h.emptied rfl nofun (hslot.unqueued hmode) (fun hversion ↦ ⟨nofun, fun hnow ↦ ?_⟩) (fun _ ↦ hnot) rfl rfl
    fun attempt hfollows _ ↦ ?_
  · exact absurd hnow (h.insecure (by rw [hbusy]; decide) hversion)
  · have hattests := hfollows.worker
    rw [hworker] at hattests
    exact hattests

/-- The commit of a FINISHED_C that was verified. -/
theorem Agreed.finishedCommitted (h : Agreed platform core) (hslot : Slotted core) {wire : Bytes} {store : Store}
    (hworker : core.worker = .cp3Callback false .success wire) (hbusy : core.state = .finishedPBusy)
    (hcommitted : Committed platform core.store store) :
    Agreed platform { core with state := .appSecure, store }.drained := by
  have hmode : core.worker.mode? = some .v1Cp3FinishedC := by rw [hworker]; rfl
  have hnot : ¬core.state.Over := Cp3State.not_over (by rw [hbusy]; decide) (by rw [hbusy]; decide)
  refine h.emptied rfl nofun (hcommitted.slot.2.1.trans (hslot.unqueued hmode)) (fun hversion ↦ ⟨fun _ ↦ ?_, fun _ ↦ rfl⟩)
    (fun _ ↦ hnot) rfl rfl fun _ _ ↦ nofun
  obtain ⟨committed, hcommit, hresult⟩ := hcommitted
  obtain ⟨-, rfl⟩ := commitV1Cp3_eq_ok_iff.mp hcommit
  rw [if_neg hversion] at hresult
  show store.v1Cp3AppSecure = true
  rw [hresult]

/-- A PONG is committed; a PING of the next round may be queued already. -/
theorem Agreed.pongCommitted (h : Agreed platform core) {store : Store} {ledger : List Installation}
    (hsecure : core.state = .appSecure) (hcommitted : core.store.commitV1Cp4 = .ok store) :
    Agreed platform { core with store, deliveryActive := false, worker := .idle, ledger } := by
  obtain ⟨-, rfl⟩ := commitV1Cp4_eq_ok_iff.mp hcommitted
  have hnot : ¬core.state.Over := Cp3State.not_over (by rw [hsecure]; decide) (by rw [hsecure]; decide)
  obtain ⟨attempt, hfollows⟩ := h.attempt hnot
  exact {
    cp2 := nofun
    secure := h.secure
    held := fun mode hholds ↦ hholds.elim nofun fun hqueued ↦ h.held mode (.inr hqueued)
    attempt := fun _ ↦ ⟨attempt, hfollows.current, hfollows.generation, trivial, hfollows.queued, hfollows.waiting⟩ }

/-- **Every move keeps the two halves in agreement.** -/
theorem Move.agreed (move : Move platform core core') (hslot : Slotted core) (h : Agreed platform core) :
    Agreed platform core' := by
  have hover := core.invalidate_over
  have hresets : 0 < core.invalidate.jobResets := Nat.succ_pos _
  cases move
  case keep => exact h
  case invalidate => exact h.reset rfl hover hresets id
  case reconnect => exact h.reset rfl (.inl rfl) hresets id
  case start idle free submitted => exact h.start hslot free submitted
  case finishedC waiting free submitted => exact h.finishedC hslot waiting free submitted
  case ping secure free _ submitted => exact h.ping hslot secure free submitted
  case cp2 idle free slot =>
    exact h.submitted hslot free slot.2 rfl (.inl rfl) h.secure fun hopen ↦ absurd (.inl idle) hopen
  case take idle pending taken => exact h.take pending taken
  case dropJob => exact h.dropJob
  case cp2Step before after =>
    obtain ⟨hactive, hpending⟩ := h.cp2 before
    exact h.emptied (Worker.mode?_of_isCp2 after) (fun _ ↦ hactive) hpending h.secure id rfl rfl
      fun _ hfollows ↦ hfollows.waiting
  case cp2Release before =>
    exact h.emptied rfl nofun (h.cp2 before).2 h.secure id rfl rfl fun _ hfollows ↦ hfollows.waiting
  case jobFailed running failed => exact h.jobFailed running failed
  case startStored worker same result =>
    refine h.stored hslot (by rw [worker]; rfl) rfl rfl rfl rfl rfl rfl rfl rfl (by decide)
      fun attempt hattests ↦ ?_
    rw [worker] at hattests
    exact startResult_begins hattests result
  case handshakeTaken worker =>
    refine h.stored hslot (by rw [worker]; rfl) rfl rfl rfl rfl rfl rfl rfl rfl (by decide)
      fun attempt hattests ↦ ?_
    rw [worker] at hattests
    exact hattests
  case finishedStored worker same result =>
    refine h.stored hslot (by rw [worker]; rfl) rfl rfl rfl rfl rfl rfl rfl rfl (by decide)
      fun attempt hattests ↦ ?_
    rw [worker] at hattests
    exact finish_confirms hattests.1 hattests.2 result
  case pingDead => exact h.reset rfl hover hresets fun hnow ↦ (by cases hnow)
  case pongReady worker secure =>
    exact h.stored hslot (by rw [worker]; rfl) rfl rfl rfl rfl rfl rfl rfl rfl (by decide) fun _ _ ↦ trivial
  case jobFinished worker hmode result => exact h.jobFinished hslot worker hmode (result.imp_left And.left)
  case readyArmed worker busy => exact h.readyArmed hslot worker busy
  case finishedCommitted worker busy committed => exact h.finishedCommitted hslot worker busy committed
  case finishedFailed => exact h.reset rfl hover hresets nofun
  case cp3Failed => exact h.reset rfl hover hresets nofun
  case cp3Committed worker committed =>
    -- No such delivery is ever under way.
    have htagged := hslot.tagged
    rw [worker] at htagged
    rcases htagged with hstart | hstatus
    · cases hstart
    · exact absurd rfl hstatus
  case pongDropped => exact h.reset rfl hover hresets nofun
  case pongCommitted secure committed => exact h.pongCommitted secure committed
  case pongFailed => exact h.reset rfl hover hresets nofun
  case pingLive worker =>
    exact h.goTo rfl rfl rfl rfl rfl rfl (fun _ hmode ↦ by rw [worker]; exact hmode) fun _ _ ↦ trivial
  case pingOpened worker _ _ =>
    exact h.goTo rfl rfl rfl rfl rfl rfl (fun _ hmode ↦ by rw [worker]; exact hmode) fun _ _ ↦ trivial
  case pingRechecked worker =>
    exact h.goTo rfl rfl rfl rfl rfl rfl (fun _ hmode ↦ by rw [worker]; exact hmode) fun _ _ ↦ trivial
  case pongSealed worker _ =>
    exact h.goTo rfl rfl rfl rfl rfl rfl (fun _ hmode ↦ by rw [worker]; exact hmode) fun _ _ ↦ trivial
  -- The sections of the deliveries only move the worker on.
  all_goals exact h.goTo rfl rfl rfl rfl rfl rfl nofun fun _ _ ↦ trivial

/-- FAILED is left only by the end of the connection. -/
theorem Move.failed (move : Move platform core core') (hslot : Slotted core) (hfailed : core.state = .failed) :
    core'.state = .failed ∨ core.generation < core'.generation := by
  have hinvalid : core.invalidate.state = .failed := by
    unfold Core.invalidate
    dsimp only
    rw [hfailed]
    rfl
  cases move
  case start idle _ _ =>
    rw [hfailed] at idle
    cases idle
  case finishedC waiting _ _ =>
    rw [hfailed] at waiting
    cases waiting
  case readyArmed busy =>
    rw [hfailed] at busy
    cases busy
  case finishedCommitted busy _ =>
    rw [hfailed] at busy
    cases busy
  case cp3Committed worker committed =>
    have htagged := hslot.tagged
    rw [worker] at htagged
    rcases htagged with hstart | hstatus
    · cases hstart
    · exact absurd rfl hstatus
  case reconnect => exact .inr (Nat.lt_succ_self _)
  all_goals first
    | exact .inl hfailed
    | exact .inl hinvalid

/-- The only move that enters APP_SECURE. -/
theorem Move.enters (move : Move platform core core') (hslot : Slotted core) (hbefore : core.state ≠ .appSecure)
    (hafter : core'.state = .appSecure) :
    (∃ wire, core.worker = .cp3Callback false .success wire) ∧ core.state = .finishedPBusy ∧
      Committed platform core.store core'.store ∧ core'.worker = .idle := by
  have hinvalid : core.invalidate.state ≠ .appSecure := fun hnow ↦ by
    have hover := core.invalidate_over
    rw [hnow] at hover
    rcases hover with hidle | hfailed
    · cases hidle
    · cases hfailed
  cases move
  case finishedCommitted wire store worker busy committed => exact ⟨⟨wire, worker⟩, busy, committed, rfl⟩
  case cp3Committed worker committed =>
    have htagged := hslot.tagged
    rw [worker] at htagged
    rcases htagged with hstart | hstatus
    · cases hstart
    · exact absurd rfl hstatus
  all_goals first
    | exact absurd hafter hbefore
    | exact absurd hafter hinvalid
    | cases hafter

end Moves

/-! ## The stored keys -/

/-- A job was submitted as many resets ago as its epoch is behind. -/
structure Clocked (core : Core) : Prop where
  running : ∀ mode epoch, core.worker.running = some (mode, epoch) → core.store.v1Cp3Epoch = epoch + core.jobResets
  queued : core.store.jobPending = true → core.store.pendingJobMode ≠ .v1Cp2 →
    core.store.v1Cp3Epoch = core.store.pendingV1Cp3Epoch + core.jobResets

theorem clocked_boot : Clocked State.boot.core := ⟨nofun, nofun⟩

section Keys

variable {platform : Platform} {core core' : Core}

/-- The worker goes on with its job, or leaves it. -/
theorem Clocked.goTo (h : Clocked core) (hepoch : core'.store.v1Cp3Epoch = core.store.v1Cp3Epoch)
    (hresets : core'.jobResets = core.jobResets)
    (hrunning : ∀ job, core'.worker.running = some job → core.worker.running = some job)
    (hqueued : core'.store.jobPending = true → core.store.jobPending = true ∧
      core'.store.pendingJobMode = core.store.pendingJobMode ∧
        core'.store.pendingV1Cp3Epoch = core.store.pendingV1Cp3Epoch) : Clocked core' where
  running mode epoch hnow := by rw [hepoch, hresets]; exact h.running mode epoch (hrunning _ hnow)
  queued hnow hmode := by
    obtain ⟨hpending, hsame, hown⟩ := hqueued hnow
    rw [hepoch, hresets, hown]
    exact h.queued hpending (hsame ▸ hmode)

theorem Clocked.reset (h : Clocked core) (hstore : core'.store = core.store.resetV1Cp3)
    (hresets : core'.jobResets = core.jobResets + 1)
    (hrunning : ∀ job, core'.worker.running = some job → core.worker.running = some job) : Clocked core' where
  running mode epoch hnow := by
    rw [hstore, hresets]
    exact congrArg (· + 1) (h.running mode epoch (hrunning _ hnow))
  queued hnow hmode := by
    rw [hstore] at hnow hmode ⊢
    rw [hresets]
    exact congrArg (· + 1) (h.queued hnow hmode)

/-- A submission starts the count again. -/
theorem Clocked.submitted (hslot : Slotted core) (hfree : core.workerActive = false)
    (hworker : core'.worker = core.worker)
    (hqueued : core'.store.v1Cp3Epoch = core'.store.pendingV1Cp3Epoch) (hresets : core'.jobResets = 0) :
    Clocked core' where
  running mode epoch hnow := by
    rw [hworker] at hnow
    have hmode := (Worker.mode?_of_running hnow).1
    rw [hslot.mode? hfree] at hmode
    cases hmode
  queued _ _ := by rw [hqueued, hresets]; rfl

theorem Move.clocked (move : Move platform core core') (hslot : Slotted core) (h : Clocked core) : Clocked core' := by
  have hcommitted {store : Store} (committed : Committed platform core.store store) (next : Core)
      (hworker : next.worker = .idle) (hstore : next.store = store) (hresets : next.jobResets = core.jobResets) :
      Clocked next := by
    obtain ⟨-, hpending, hmode, hown⟩ := committed.slot
    obtain ⟨-, hepoch, -⟩ := committed.eq
    refine h.goTo (by rw [hstore]; exact hepoch) hresets (fun _ hnow ↦ ?_) fun hnow ↦ ?_
    · rw [hworker] at hnow
      cases hnow
    · rw [hstore] at hnow ⊢
      exact ⟨hpending ▸ hnow, hmode, hown⟩
  cases move
  case keep => exact h
  case invalidate => exact h.reset rfl rfl fun _ ↦ id
  case reconnect => exact h.reset rfl rfl fun _ ↦ id
  case start free submitted =>
    obtain ⟨-, -, payload, -, -, -, rfl⟩ := submitV1Cp3_eq_ok_iff.mp submitted
    exact .submitted hslot free rfl rfl rfl
  case finishedC free submitted =>
    obtain ⟨payload, -, -, -, rfl⟩ := submitV1Cp3FinishedC_eq_ok_iff.mp submitted
    exact .submitted hslot free rfl rfl rfl
  case ping free _ submitted =>
    obtain ⟨-, -, -, -, rfl⟩ := submitV1Cp4_eq_ok_iff.mp submitted
    exact .submitted hslot free rfl rfl rfl
  case cp2 => exact ⟨h.running, fun _ hmode ↦ absurd rfl hmode⟩
  case take worker idle pending taken =>
    refine ⟨fun mode epoch hnow ↦ ?_, nofun⟩
    cases taken with
    | start own => cases hnow; exact h.queued pending (by rw [own]; decide)
    | finished own => cases hnow; exact h.queued pending (by rw [own]; decide)
    | ping own => cases hnow; exact h.queued pending (by rw [own]; decide)
    | stale => cases hnow
    | cp2 worker own isCp2 =>
      rw [(Worker.running_of_isCp2 isCp2).1] at hnow
      cases hnow
  case dropJob => exact ⟨h.running, nofun⟩
  case cp2Step after =>
    refine h.goTo rfl rfl (fun _ hnow ↦ ?_) fun hnow ↦ ⟨hnow, rfl, rfl⟩
    rw [(Worker.running_of_isCp2 after).1] at hnow
    cases hnow
  case startStored worker _ _ => exact h.goTo rfl rfl nofun fun hnow ↦ ⟨hnow, rfl, rfl⟩
  case handshakeTaken worker =>
    exact h.goTo rfl rfl (fun _ hnow ↦ by rw [worker]; exact hnow) fun hnow ↦ ⟨hnow, rfl, rfl⟩
  case pingLive worker =>
    exact h.goTo rfl rfl (fun _ hnow ↦ by rw [worker]; exact hnow) fun hnow ↦ ⟨hnow, rfl, rfl⟩
  case pingDead => exact h.reset rfl rfl nofun
  case pingOpened worker _ _ =>
    exact h.goTo rfl rfl (fun _ hnow ↦ by rw [worker]; exact hnow) fun hnow ↦ ⟨hnow, rfl, rfl⟩
  case pingRechecked worker =>
    exact h.goTo rfl rfl (fun _ hnow ↦ by rw [worker]; exact hnow) fun hnow ↦ ⟨hnow, rfl, rfl⟩
  case pongSealed worker _ =>
    exact h.goTo rfl rfl (fun _ hnow ↦ by rw [worker]; exact hnow) fun hnow ↦ ⟨hnow, rfl, rfl⟩
  case jobFinished mode epoch status status' wire wire' worker hmode result =>
    refine h.goTo rfl rfl (fun _ hnow ↦ ?_) fun hnow ↦ ⟨hnow, rfl, rfl⟩
    cases mode <;> cases hnow
  case finishedCommitted committed => exact hcommitted committed _ rfl rfl rfl
  case finishedFailed => exact h.reset rfl rfl nofun
  case cp3Failed => exact h.reset rfl rfl nofun
  case cp3Committed committed => exact hcommitted committed _ rfl rfl rfl
  case pongDropped => exact h.reset rfl rfl nofun
  case pongCommitted committed =>
    obtain ⟨-, rfl⟩ := commitV1Cp4_eq_ok_iff.mp committed
    exact h.goTo rfl rfl nofun fun hnow ↦ ⟨hnow, rfl, rfl⟩
  case pongFailed => exact h.reset rfl rfl nofun
  all_goals exact h.goTo rfl rfl nofun fun hnow ↦ ⟨hnow, rfl, rfl⟩

/-- A job that is not overtaken by a whole round of epochs finds its own epoch only if it was not overtaken. -/
theorem not_overtaken {epoch resets : ℕ} (hround : resets < 2 ^ 32) (hsame : SameU32 epoch (epoch + resets)) :
    resets = 0 := by
  unfold SameU32 at hsame
  omega

/-- Keys are pending only while FINISHED_P is under way. -/
theorem Move.keysPending (move : Move platform core core') (hagreed : Agreed platform core) (hclocked : Clocked core)
    (hround : core.worker.inJob = true → core.jobResets < 2 ^ 32)
    (h : core.store.v1Cp3KeysPending = true → core.state = .finishedPBusy) :
    core'.store.v1Cp3KeysPending = true → core'.state = .finishedPBusy := by
  have hcommitted {store : Store} (committed : Committed platform core.store store) :
      store.v1Cp3KeysPending = false := by
    obtain ⟨committed, hcommit, rfl⟩ := committed
    obtain ⟨-, rfl⟩ := commitV1Cp3_eq_ok_iff.mp hcommit
    split <;> rfl
  intro hpending
  cases move
  case invalidate => cases hpending
  case reconnect => cases hpending
  case start submitted =>
    obtain ⟨-, -, payload, -, -, ⟨-, -, -, -, hkeys, -⟩, rfl⟩ := submitV1Cp3_eq_ok_iff.mp submitted
    exact Bool.noConfusion (hkeys.symm.trans hpending)
  case finishedC => rfl
  case ping submitted =>
    obtain ⟨-, -, -, -, rfl⟩ := submitV1Cp4_eq_ok_iff.mp submitted
    exact h hpending
  case finishedStored epoch handshake wire app faults worker same result =>
    rcases hagreed.held .v1Cp3FinishedC (.inl (by rw [worker]; rfl)) with hstate | ⟨-, hresets⟩
    · exact hstate
    · rw [hclocked.running .v1Cp3FinishedC epoch (by rw [worker]; rfl)] at same
      have hnone := not_overtaken (hround (by rw [worker]; rfl)) same
      omega
  case pingDead => cases hpending
  case readyArmed busy =>
    have hstate := h hpending
    rw [busy] at hstate
    cases hstate
  case finishedCommitted committed => exact Bool.noConfusion ((hcommitted committed).symm.trans hpending)
  case finishedFailed => cases hpending
  case cp3Failed => cases hpending
  case cp3Committed committed => exact Bool.noConfusion ((hcommitted committed).symm.trans hpending)
  case pongDropped => cases hpending
  case pongCommitted committed =>
    obtain ⟨-, rfl⟩ := commitV1Cp4_eq_ok_iff.mp committed
    exact h hpending
  case pongFailed => cases hpending
  all_goals exact h hpending

end Keys

/-! ## The step that enters APP_SECURE -/

section Entry

variable {platform : Platform} {state : State} {view : WorkerView} {conn : Option Conn} {generation : ℕ} {sent : Bool}

theorem drain_v1Cp3State (state : State) : state.drain.main.v1Cp3State = state.main.v1Cp3State := by
  unfold State.drain
  dsimp only
  split_ifs <;> rfl

theorem invalidateV1Cp3_ne_appSecure (state : State) : state.invalidateV1Cp3.main.v1Cp3State ≠ .appSecure := by
  unfold State.invalidateV1Cp3
  dsimp only
  split_ifs <;> decide

/-- The last section enters APP_SECURE only for a frame that was sent on a live link. -/
theorem settleCp3_enters (hbefore : state.main.v1Cp3State ≠ .appSecure)
    (hafter : (state.settleCp3 platform false .success conn generation sent view).main.v1Cp3State = .appSecure) :
    sent = true ∧ state.main.v1Cp3Live conn generation view.last = true := by
  unfold State.settleCp3 at hafter
  dsimp only at hafter
  rw [drain_v1Cp3State] at hafter
  by_cases howner : conn.isSome ∧ conn = state.main.v1Cp3Conn ∧ SameU32 generation state.main.connectionGeneration
  · rw [if_pos howner] at hafter
    by_cases hdead : sent = false ∨ JobStatus.success ≠ JobStatus.success ∨
        state.main.v1Cp3Live conn generation view.last = false
    · rw [if_pos hdead] at hafter
      exact absurd hafter (invalidateV1Cp3_ne_appSecure _)
    · rw [not_or, not_or, Bool.not_eq_false, Bool.not_eq_false] at hdead
      exact ⟨hdead.1, hdead.2.2⟩
  · rw [if_neg howner] at hafter
    split_ifs at hafter
    · exact absurd hafter (invalidateV1Cp3_ne_appSecure _)
    · exact absurd hafter hbefore

/-- The result callback of FINISHED_C enters APP_SECURE only with a FINISHED_P that it has queued. -/
theorem callbackCp3_enters {wire : Bytes} (hbefore : state.main.v1Cp3State ≠ .appSecure)
    (hafter : (state.callbackCp3 platform false .success wire view).2.main.v1Cp3State = .appSecure) :
    ∃ conn, (state.callbackCp3 platform false .success wire view).1.queued = some (conn, wire) ∧
      validCp3Result platform.version false wire = true ∧ notified view.send wire = true ∧
      state.main.v1Cp3Live (some conn) state.main.v1Cp3Generation view.last = true := by
  obtain ⟨delivery, hdelivery⟩ : ∃ delivery, state.main.cp3Delivery platform.version false .success wire
      view.first = delivery := ⟨_, rfl⟩
  simp only [State.callbackCp3, hdelivery] at hafter ⊢
  by_cases hfailed : false = true ∨ delivery.status ≠ .success
  · rw [if_pos hfailed] at hafter
    simp only [State.goto, Bool.false_eq_true, false_and, and_false, if_false] at hafter
    exact absurd hafter hbefore
  · rw [if_neg hfailed] at hafter ⊢
    have hstatus : delivery.status = .success := by
      by_contra hother
      exact hfailed (.inr hother)
    rw [hstatus] at hafter
    obtain ⟨hsent, hlive⟩ := settleCp3_enters (by simpa using hbefore) hafter
    obtain ⟨hdeliver, hnotified⟩ := Bool.and_eq_true_iff.mp hsent
    have hvalid : validCp3Result platform.version false wire = true := by
      subst hdelivery
      simp only [Main.cp3Delivery] at hdeliver hstatus
      by_contra hinvalid
      rw [if_pos ⟨hdeliver, trivial, Bool.eq_false_of_not_eq_true hinvalid⟩] at hstatus
      cases hstatus
    have hwire : delivery.wire = wire := by
      subst hdelivery
      simp only [Main.cp3Delivery] at hdeliver hstatus ⊢
      exact if_neg fun hfailed ↦ hfailed.2 hstatus
    have hconn : delivery.conn = state.main.v1Cp3Conn ∧ delivery.generation = state.main.v1Cp3Generation := by
      subst hdelivery
      simp only [Main.cp3Delivery] at hdeliver ⊢
      exact ⟨if_pos hdeliver, trivial⟩
    rw [hwire] at hnotified hsent ⊢
    rw [hconn.1, hconn.2] at hlive
    obtain ⟨conn, hsome⟩ : ∃ conn, state.main.v1Cp3Conn = some conn := by
      cases howner : state.main.v1Cp3Conn with
      | none => simp [Main.v1Cp3Live, howner] at hlive
      | some conn => exact ⟨conn, rfl⟩
    refine ⟨conn, ?_, hvalid, hnotified, ?_⟩
    · rw [hsent, hconn.1, hsome]
      rfl
    · rw [← hsome]
      simpa [Main.v1Cp3Live] using hlive

/-- What the step that enters APP_SECURE has checked and done: the keys are those of the attempt of this
connection generation with its verified FINISHED_C, FINISHED_P is queued, the deadline has not passed, and the link
is at level 4. -/
structure EntersSecure (platform : Platform) (now next : State) (output : Output) (view : WorkerView)
    (attempt : Attempt) (conn : Conn) (payload : Bytes) : Prop where
  current : now.attempt = some attempt
  generation : attempt.generation = now.main.connectionGeneration
  confirms : attempt.Confirms platform next.store.v1Cp3Application
  queued : output.queued = some (conn, v1Frame platform.version pqV1FinishedP payload)
  notified : notified view.send (v1Frame platform.version pqV1FinishedP payload) = true
  owner : now.main.currentConn = some conn ∧ now.main.v1Cp3Conn = some conn
  deadline : view.last.uptime < now.main.v1Cp3Deadline
  l4 : view.last.l4 = true

theorem validCp3Result_finished {version : UInt8} {wire : Bytes} (h : validCp3Result version false wire = true) :
    ∃ payload, wire = v1Frame version pqV1FinishedP payload := by
  unfold validCp3Result at h
  split at h
  · cases h
  · rename_i subtype payload hparse
    simp only [Bool.false_eq_true, if_false, decide_eq_true_eq] at h
    subst h
    exact ⟨payload, (pqV1ParseFrame_eq_ok_iff.mp hparse).2⟩

theorem step_enters (hversion : platform.version ≠ Resumption.pqResumeV11) {action : Action}
    (hslot : Slotted state.core) (hagreed : Agreed platform state.core)
    (hbefore : state.main.v1Cp3State ≠ .appSecure)
    (hafter : ((firmware platform).step state action).2.main.v1Cp3State = .appSecure) :
    ∃ view attempt conn payload, action = .worker view ∧
      EntersSecure platform state ((firmware platform).step state action).2 ((firmware platform).step state action).1
        view attempt conn payload := by
  obtain ⟨⟨wire, hworker⟩, hbusy, hcommitted, hidle⟩ :=
    (move_step platform state action).enters hslot hbefore hafter
  obtain ⟨view, rfl⟩ : ∃ view, action = .worker view := by
    by_contra hother
    have hkept := (@step_worker platform state action fun view haction ↦ hother ⟨view, haction⟩).1
    have hsame : state.worker = .idle := hkept.symm.trans hidle
    rw [show state.core.worker = state.worker from rfl, hsame] at hworker
    cases hworker
  have hstep : (firmware platform).step state (.worker view) =
      state.callbackCp3 platform false .success wire view := by
    simp only [firmware, State.workerStep, show state.worker = .cp3Callback false .success wire from hworker]
  rw [hstep] at hafter hcommitted ⊢
  obtain ⟨conn, hqueued, hvalid, hnotified, hlive⟩ := callbackCp3_enters hbefore hafter
  obtain ⟨payload, rfl⟩ := validCp3Result_finished hvalid
  have hopen : ¬state.core.state.Over := Cp3State.not_over (by rw [hbusy]; decide) (by rw [hbusy]; decide)
  obtain ⟨attempt, hfollows⟩ := hagreed.attempt hopen
  have hattests := hfollows.worker
  rw [hworker] at hattests
  have hkeys : (state.callbackCp3 platform false .success (v1Frame platform.version pqV1FinishedP payload)
      view).2.store.v1Cp3Application = state.store.v1Cp3Application := by
    obtain ⟨committed, hcommit, hresult⟩ := hcommitted
    obtain ⟨-, rfl⟩ := commitV1Cp3_eq_ok_iff.mp hcommit
    rw [if_neg hversion] at hresult
    have happ := congrArg Store.v1Cp3Application hresult
    exact happ
  simp only [Main.v1Cp3Live, Bool.and_eq_true, decide_eq_true_eq] at hlive
  obtain ⟨⟨⟨⟨⟨⟨⟨⟨⟨-, hcurrent⟩, howner⟩, -⟩, -⟩, -⟩, -⟩, hdeadline⟩, hl4⟩, -⟩ := hlive
  exact ⟨view, attempt, conn, payload, rfl, hfollows.current, hfollows.generation, hkeys ▸ hattests, hqueued, hnotified,
    ⟨hcurrent.symm, howner.symm⟩, hdeadline, hl4⟩

end Entry

/-! ## Runs -/

/-- The epoch of the job in flight has not come round. -/
def Timely (state : State) (_ : Action) : Prop := state.worker.inJob = true → state.jobResets < 2 ^ 32

instance (state : State) (action : Action) : Decidable (Timely state action) :=
  inferInstanceAs (Decidable (_ → _))

section Runs

variable {platform : Platform}

theorem agreed_run (platform : Platform) (actions : List Action) :
    Slotted ((firmware platform).run .boot actions).core ∧
      Agreed platform ((firmware platform).run .boot actions).core ∧
      Clocked ((firmware platform).run .boot actions).core :=
  (firmware platform).run_invariant
    (P := fun state ↦ Slotted state.core ∧ Agreed platform state.core ∧ Clocked state.core)
    (fun state action h ↦ by
      have move := move_step platform state action
      exact ⟨move.slotted h.1, move.agreed h.1 h.2.1, move.clocked h.1 h.2.2⟩)
    ⟨slotted_boot, agreed_boot platform, clocked_boot⟩ actions

theorem keysPending_run {actions : List Action}
    (htimely : (firmware platform).Along Timely .boot actions) :
    ((firmware platform).run .boot actions).store.v1Cp3KeysPending = true →
      ((firmware platform).run .boot actions).main.v1Cp3State = .finishedPBusy := by
  have hboth := (firmware platform).run_invariant_of_along
    (P := fun state ↦ (Slotted state.core ∧ Agreed platform state.core ∧ Clocked state.core) ∧
      (state.core.store.v1Cp3KeysPending = true → state.core.state = .finishedPBusy))
    (fun state action h hround ↦ by
      have move := move_step platform state action
      obtain ⟨⟨hslot, hagreed, hclocked⟩, hkeys⟩ := h
      exact ⟨⟨move.slotted hslot, move.agreed hslot hagreed, move.clocked hslot hclocked⟩,
        move.keysPending hagreed hclocked hround hkeys⟩)
    ⟨⟨slotted_boot, agreed_boot platform, clocked_boot⟩, nofun⟩ htimely
  exact hboth.2

/-- **The two halves of the handshake state of v1.0 agree** between any two sections: APP_SECURE is the flag of the
store, keys are stored only from FINISHED_P on, APP_SECURE is entered only after every check, and FAILED lasts as
long as the connection. -/
theorem handshake_state_agreement (hversion : platform.version = pqV10) (actions : List Action) :
    let now := (firmware platform).run .boot actions
    (now.main.v1Cp3State = .appSecure ↔ now.store.v1Cp3AppSecure = true) ∧
    ((firmware platform).Along Timely .boot actions → now.main.v1Cp3State ≠ .finishedPBusy →
      now.main.v1Cp3State ≠ .appSecure → now.store.v1Cp3Application = .zero) ∧
    ∀ action,
      let result := (firmware platform).step now action
      (now.main.v1Cp3State ≠ .appSecure → result.2.main.v1Cp3State = .appSecure →
        ∃ view attempt conn payload, action = .worker view ∧
          EntersSecure platform now result.2 result.1 view attempt conn payload) ∧
      (now.main.v1Cp3State = .failed → result.2.main.v1Cp3State = .failed ∨
        now.main.connectionGeneration < result.2.main.connectionGeneration) := by
  intro now
  have hother : platform.version ≠ Resumption.pqResumeV11 := by rw [hversion]; decide
  obtain ⟨hslot, hagreed, -⟩ := agreed_run platform actions
  refine ⟨hagreed.secure hother, fun htimely hbusy hsecure ↦ ?_, fun action ↦
    ⟨step_enters hother hslot hagreed, (move_step platform now action).failed hslot⟩⟩
  have hflagged : now.core.store.Flagged := (run_dated actions).flagged
  have hpending : now.store.v1Cp3KeysPending = false :=
    Bool.eq_false_of_not_eq_true fun hpending ↦ hbusy (keysPending_run htimely hpending)
  have hinsecure : now.store.v1Cp3AppSecure = false :=
    Bool.eq_false_of_not_eq_true fun hnow ↦ hsecure ((hagreed.secure hother).mpr hnow)
  exact hflagged.application hpending hinsecure

end Runs

/-- The agreement after the handshake of a session and at the step that enters it. -/
theorem handshake_state_agreement_entered :
    sessionState.main.v1Cp3State = .appSecure ∧ sessionState.store.v1Cp3AppSecure = true ∧
      ((firmware (samplePlatform pqV10)).run .boot (startedActions pqV10)).store.v1Cp3Application = .zero ∧
      ∃ view attempt conn payload,
        EntersSecure (samplePlatform pqV10) ((firmware (samplePlatform pqV10)).run .boot confirmedActions)
          sessionState ((firmware (samplePlatform pqV10)).step ((firmware (samplePlatform pqV10)).run .boot
            confirmedActions) (.worker openWorkerView)).1 view attempt conn payload := by
  have hentered := entered_sessionState
  have hstarted : (firmware (samplePlatform pqV10)).Along Timely .boot (startedActions pqV10) ∧
      ((firmware (samplePlatform pqV10)).run .boot (startedActions pqV10)).main.v1Cp3State = .cryptoBusy ∧
      ((firmware (samplePlatform pqV10)).run .boot confirmedActions).main.v1Cp3State = .finishedPBusy := by
    decide +kernel
  have hstep : ((firmware (samplePlatform pqV10)).step ((firmware (samplePlatform pqV10)).run .boot confirmedActions)
      (.worker openWorkerView)).2 = sessionState := by
    unfold sessionState
    rw [Machine.run_append, Machine.run_cons, Machine.run_nil]
  have hversion : (samplePlatform pqV10).version = pqV10 := rfl
  have hsecure : sessionState.main.v1Cp3State = .appSecure := hentered.secure
  have hflag : sessionState.main.v1Cp3State = .appSecure ↔ sessionState.store.v1Cp3AppSecure = true := by
    obtain ⟨hflag, -, -⟩ := handshake_state_agreement hversion (confirmedActions ++ [.worker openWorkerView])
    unfold sessionState
    exact hflag
  obtain ⟨-, hearly, -⟩ := handshake_state_agreement hversion (startedActions pqV10)
  obtain ⟨-, -, hsteps⟩ := handshake_state_agreement hversion confirmedActions
  obtain ⟨henter, -⟩ := hsteps (.worker openWorkerView)
  refine ⟨hsecure, hflag.mp hsecure, hearly hstarted.1 ?_ ?_, ?_⟩
  · rw [hstarted.2.1]
    decide
  · rw [hstarted.2.1]
    decide
  · rw [hstep] at henter
    obtain ⟨view, attempt, conn, payload, -, henters⟩ := henter (by rw [hstarted.2.2]; decide) hsecure
    exact ⟨view, attempt, conn, payload, henters⟩

/-! ## A job that is overtaken by a whole round of epochs -/

/-- The handshake of a START that was answered. -/
def startedHandshake : V1Handshake :=
  ((firmware (samplePlatform pqV10)).run .boot
    (startedActions pqV10 ++ List.replicate 5 (.worker openWorkerView))).store.v1Cp3Handshake

/-- The connection ends while the job of FINISHED_C runs, and another one begins. -/
def abandonedActions : List Action :=
  startedActions pqV10 ++ List.replicate 5 (.worker openWorkerView) ++
    .writeControl 1 (finishedCOf (samplePlatform pqV10) startedHandshake) 0 openControlView ::
      (List.replicate 2 (.worker openWorkerView) ++ [.disconnected 1 0, .connected 2 true 0 0])

/-- The firmware then. -/
def abandonedState : State := (firmware (samplePlatform pqV10)).run .boot abandonedActions

/-- After enough resets for its epoch to come round again, the job stores its keys. -/
theorem silenced_stores {n : ℕ} (hepoch : SameU32 2 (4 + n)) :
    ((abandonedState.silenced n).workerStep (samplePlatform pqV10) openWorkerView).2.main.v1Cp3State = .idle ∧
      ((abandonedState.silenced n).workerStep (samplePlatform pqV10) openWorkerView).2.store.v1Cp3Application ≠
        .zero := by
  have hworker : abandonedState.worker = .finishedStore 2 startedHandshake := by decide +kernel
  have hcurrent : abandonedState.store.v1Cp3Epoch = 4 := by decide +kernel
  have hfinish : (pqV1Cp3Finish (samplePlatform pqV10).crypto openWorkerView.faults (samplePlatform pqV10).version
      startedHandshake abandonedState.store.v1Cp3FinishedJob).any
        (fun result ↦ decide (result.2 ≠ V1Application.zero)) = true := by decide +kernel
  generalize abandonedState = state at hworker hcurrent hfinish ⊢
  generalize startedHandshake = handshake at hworker hfinish
  obtain ⟨⟨wire, app⟩, hresult, hkeys⟩ := (Option.any_eq_true _ _).mp hfinish
  have hresult' : pqV1Cp3Finish (samplePlatform pqV10).crypto openWorkerView.faults (samplePlatform pqV10).version
      handshake (state.silenced n).store.v1Cp3FinishedJob = some (wire, app) := hresult
  have hworker' : (state.silenced n).worker = .finishedStore 2 handshake := hworker
  have hepoch' : (state.silenced n).store.v1Cp3Epoch = 4 + n := congrArg (· + n) hcurrent
  simp only [State.workerStep, hworker', State.storeFinished, hresult', hepoch', hepoch, if_true]
  exact ⟨rfl, of_decide_eq_true hkeys⟩

/-- The job of FINISHED_C goes on after many resets of the second connection. -/
def resumedActions (n : ℕ) : List Action :=
  abandonedActions ++ (List.replicate n (.cccConfigChanged false 0) ++ [.worker openWorkerView])

theorem run_resumedActions (n : ℕ) :
    (firmware (samplePlatform pqV10)).run .boot (resumedActions n) =
      ((abandonedState.silenced n).workerStep (samplePlatform pqV10) openWorkerView).2 := by
  have hsilent : abandonedState.silenced 0 = abandonedState := by decide +kernel
  have hversion : (samplePlatform pqV10).version ≠ Resumption.pqResumeV11 := by decide
  have hrun := run_silenced hversion abandonedState 0 n
  rw [hsilent, Nat.zero_add] at hrun
  rw [resumedActions, Machine.run_append, Machine.run_append, ← abandonedState, hrun, Machine.run_cons,
    Machine.run_nil]
  rfl

/-- Keys are stored in IDLE when the epoch wraps while the job of FINISHED_C runs. -/
theorem overtaken_finish_stores_keys :
    let now := (firmware (samplePlatform pqV10)).run .boot (resumedActions (2 ^ 32 - 2))
    now.main.v1Cp3State = .idle ∧ now.store.v1Cp3Application ≠ .zero := by
  have hepoch : SameU32 2 (4 + (2 ^ 32 - 2)) := by
    unfold SameU32
    norm_num
  rw [run_resumedActions]
  exact silenced_stores hepoch

end PqBleHandshake.FirmwareV1
