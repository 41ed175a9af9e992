import PqBleHandshake.Legacy.Isolation
import PqBleHandshake.Resumption.Handover

/-!
# The keys of the data path in v0.8

Two modules hold application keys: the session store, which processes the frames, and the resumption
service.  A step of the firmware moves the retained session in one of seven ways, and only two of them
install keys: the commit of a full handshake and the handover of a committed resumption.
-/

namespace PqBleHandshake.Legacy

open Foundation

/-! ## The retained session -/

/-- What the store retains of a Phase 7 session; `received` is the last sequence number accepted. -/
structure Retained where
  waitFinished : Bool
  authenticated : Bool
  trafficPending : Bool
  pendingKeys : Phase7TrafficKeys
  keys : Phase7TrafficKeys
  sid : Block 16
  received : Option UInt64
  nextSend : UInt64
deriving DecidableEq

/-- Nothing is retained. -/
def Retained.none : Retained where
  waitFinished := false
  authenticated := false
  trafficPending := false
  pendingKeys := zeroTrafficKeys
  keys := zeroTrafficKeys
  sid := .zero 16
  received := Option.none
  nextSend := 0

/-- The session in the store. -/
def Store.retained (store : Store) : Retained where
  waitFinished := store.phase7WaitFinished
  authenticated := store.phase7Authenticated
  trafficPending := store.phase7TrafficPending
  pendingKeys := store.phase7PendingTrafficKeys
  keys := store.phase7TrafficKeys
  sid := store.phase7SessionId
  received := if store.phase7HasLastRecvSeq then some store.phase7LastRecvSeq else Option.none
  nextSend := store.phase7NextSendSeq

/-- The sequence spaces go on under the same keys. -/
structure Retained.Continues (before after : Retained) : Prop where
  authenticated : before.authenticated = true
  keys : after.keys = before.keys
  sid : after.sid = before.sid
  received : ∀ seq ∈ before.received, ∃ seq' ∈ after.received, seq ≤ seq'
  sent : before.nextSend ≤ after.nextSend

/-- New keys with fresh sequence spaces. -/
structure Retained.Fresh (traffic : Phase7TrafficKeys) (after : Retained) : Prop where
  keys : after.keys = traffic
  received : after.received = Option.none
  sent : after.nextSend = 0

theorem Retained.Continues.refl {session : Retained} (h : session.authenticated = true) :
    session.Continues session :=
  ⟨h, rfl, rfl, fun seq hseq ↦ ⟨seq, hseq, UInt64.le_refl _⟩, UInt64.le_refl _⟩

theorem Retained.Continues.trans {first second third : Retained} (h : first.Continues second)
    (h' : second.Continues third) : first.Continues third := by
  refine ⟨h.authenticated, h'.keys.trans h.keys, h'.sid.trans h.sid, fun seq hseq ↦ ?_,
    UInt64.le_trans h.sent h'.sent⟩
  obtain ⟨seq', hseq', hle⟩ := h.received seq hseq
  obtain ⟨seq'', hseq'', hle'⟩ := h'.received seq' hseq'
  exact ⟨seq'', hseq'', UInt64.le_trans hle hle'⟩

/-! ## The answer to a frame -/

section Answers

variable {platform : Platform} {view : WorkerView} {reply : UInt64 → Bytes → Option Bytes}
  {keys : Phase7TrafficKeys} {key : Block 32} {sid : Block 16} {last : Option UInt64} {sendSeq accepted : UInt64}
  {wire answer plaintext : Bytes}

theorem appDecrypt_newer (h : State.appDecrypt platform view key sid last wire = .ok (accepted, plaintext)) :
    ∀ seq ∈ last, seq < accepted :=
  pqSecureDecryptWithKey_newer (mapError_eq_ok_iff.mp h)

/-- A refused frame has a status of its own. -/
theorem appDecrypt_ne_success : State.appDecrypt platform view key sid last wire ≠ .error .success := by
  unfold State.appDecrypt
  cases pqSecureDecryptWithKey platform.aead view.decryptFault key sid pqSecureCentralRole pqSecureMsgTypeData
      last wire 64 with
  | ok result => exact nofun
  | error error => cases error <;> exact nofun

/-- An answered frame was opened, its payload was accepted, and the answer was sealed. -/
theorem answerFrame_eq_ok
    (h : State.answerFrame platform view reply keys sid last sendSeq wire = .ok (accepted, answer)) :
    ∃ plaintext payload,
      State.appDecrypt platform view keys.centralToPeripheral sid last wire = .ok (accepted, plaintext) ∧
        reply accepted plaintext = some payload ∧
        State.appEncrypt platform view keys.peripheralToCentral sid sendSeq payload = some answer := by
  simp only [State.answerFrame, except_bind_eq_ok_iff, orFail_eq_ok_iff] at h
  obtain ⟨⟨seq, plaintext⟩, hdecrypt, payload, hreply, sealed, hencrypt, hresult⟩ := h
  obtain ⟨rfl, rfl⟩ := Prod.mk.inj (Except.ok.inj hresult)
  exact ⟨plaintext, payload, hdecrypt, hreply, hencrypt⟩

/-- A frame that is not answered ends its job with a failure. -/
theorem answerFrame_ne_success :
    State.answerFrame platform view reply keys sid last sendSeq wire ≠ .error .success := by
  intro h
  simp only [State.answerFrame, except_bind_eq_error_iff, orFail_eq_error_iff] at h
  rcases h with hdecrypt | ⟨_, -, ⟨-, hstatus⟩ | ⟨_, -, ⟨-, hstatus⟩ | ⟨_, -, hresult⟩⟩⟩
  · exact appDecrypt_ne_success hdecrypt
  · cases hstatus
  · cases hstatus
  · cases hresult

end Answers

/-! ## Verification and installation -/

/-- The worker verified a FINISHED_C: its traffic keys wait for the FINISHED_P in `wire`. -/
structure Verifies (platform : Platform) (traffic : Phase7TrafficKeys) (wire : Bytes) (state : State)
    (action : Action) (next : State) : Prop where
  verified : ∃ view epoch keys hash received, action = .worker view ∧
    state.worker = .finished7 epoch keys hash received ∧
    pqPhase7ComputeFinishedC platform.crypto view.faults platform.version keys.finishedC hash =
      some received ∧
    phase7FinishedResult platform.crypto view.faults platform.version keys hash received secureWireSize =
      some (wire, traffic)
  stored : state.store.phase7WaitFinished = true ∧ next.store = state.store.storeTraffic traffic

/-- The callback queued the FINISHED_P in `wire` and committed the pending keys. -/
structure CommitsFull (traffic : Phase7TrafficKeys) (wire : Bytes) (state : State) (action : Action)
    (next : State) : Prop where
  delivered : ∃ view status conn, action = .worker view ∧
    state.worker = .deliver .phase7AuthFinishedC true status wire conn ∧
    next.outbox = (conn, wire) :: state.outbox
  pending : state.store.phase7TrafficPending = true ∧ state.store.phase7PendingTrafficKeys = traffic

/-- A PQRS write committed a resumption, and its keys were handed over. -/
def InstallsResumed (platform : Platform) (traffic : Phase7TrafficKeys) (state : State)
    (action : Action) : Prop :=
  ∃ conn data input view service, action = .resume conn data input view ∧
    Resumption.HybridCommitted platform.crypto state.service conn data input service ∧
    traffic = ⟨service.core.session.keys.c2p, service.core.session.keys.p2c⟩

/-- The step installs keys for the data path. -/
def Installs (platform : Platform) (traffic : Phase7TrafficKeys) (state : State) (action : Action)
    (next : State) : Prop :=
  (∃ wire, CommitsFull traffic wire state action next) ∨ InstallsResumed platform traffic state action

/-! ## What a step does to the session -/

/-- The frame a worker holds between the verification of FINISHED_C and the delivery. -/
def Worker.finishedP : Worker → Option Bytes
  | .jobDone .phase7AuthFinishedC _ .success wire | .callback .phase7AuthFinishedC .success wire
  | .deliver .phase7AuthFinishedC true _ wire _ => some wire
  | _ => none

/-- The positions of a worker that has just taken a job, or is about to commit as v0.7 does. -/
def Worker.begins : Worker → Bool
  | .decapsulate _ _ | .app7 _ _ | .commit7 _ => true
  | _ => false

/-- The positions that v0.8 never reaches: its authentication results are committed in their delivery. -/
def Worker.serial : Worker → Bool
  | .commit7 _ | .decapsulate .phase7AuthFinishedC _ => false
  | _ => true

/-- The moves of the retained session. -/
inductive KeyMove (platform : Platform) (state : State) (action : Action) (next : State) : Prop
  | kept (retained : next.store.retained = state.store.retained)
  | wiped (retained : next.store.retained = .none)
  | waits (epoch : ℕ) (worker : state.worker = .decapsulate .phase7AuthStart epoch)
      (retained : next.store.retained = { state.store.retained with
        waitFinished := true, authenticated := false, sid := state.store.sessionIdJob })
      (job : next.store.jobPending = state.store.jobPending ∧ next.worker.begins = false)
  | verified (traffic : Phase7TrafficKeys) (wire : Bytes)
      (verifies : Verifies platform traffic wire state action next)
      (finished : next.worker.finishedP = some wire)
  | framed (view : WorkerView) (epoch : ℕ) (snapshot : AppSnapshot) (accepted : UInt64) (plaintext : Bytes)
      (decrypts : action = .worker view ∧ state.worker = .app7 epoch snapshot ∧
        State.appDecrypt platform view snapshot.keys.centralToPeripheral snapshot.sid snapshot.last
          snapshot.wire = .ok (accepted, plaintext))
      (authenticated : state.store.phase7Authenticated = true)
      (store : next.store = state.store.storeCounters accepted snapshot.sendSeq)
      (worker : next.worker.begins = false)
  | committed (traffic : Phase7TrafficKeys) (wire : Bytes) (commits : CommitsFull traffic wire state action next)
      (retained : ∃ sid, next.store.retained = { Retained.none with authenticated := true, keys := traffic, sid })
  | resumed (traffic : Phase7TrafficKeys) (resumes : InstallsResumed platform traffic state action)
      (quiet : ¬state.InFlight)
      (retained : ∃ sid, next.store.retained = { Retained.none with authenticated := true, keys := traffic, sid })

/-- A START is queued or running. -/
def State.Starting (state : State) : Prop :=
  state.store.jobPending = true ∧ state.store.pendingJobMode = .phase7AuthStart ∨
    ∃ epoch, state.worker = .decapsulate .phase7AuthStart epoch

/-- The worker takes an application frame: it copies the session that is authenticated then. -/
structure TakesFrame (snapshot : AppSnapshot) (state next : State) : Prop where
  authenticated : state.store.phase7Authenticated = true
  snapshot : snapshot = State.appSnapshot state.store
  retained : next.store.retained = state.store.retained

/-- What one step does to the keys, in both modules and in the worker. -/
structure Moved (platform : Platform) (state : State) (action : Action) (next : State) : Prop where
  move : KeyMove platform state action next
  settled : next.service.Settled
  starting : next.Starting → state.Starting ∨ next.store.retained = .none
  framing : ∀ epoch snapshot, next.worker = .app7 epoch snapshot →
    state.worker = .app7 epoch snapshot ∨ TakesFrame snapshot state next
  finished : ∀ wire, next.worker.finishedP = some wire →
    state.worker.finishedP = some wire ∨ ∃ traffic, Verifies platform traffic wire state action next
  serial : next.worker.serial = true

section Moves

variable {platform : Platform} {state next : State} {action : Action} {conn : Conn} {view : WorkerView}

/-- A step that leaves the worker alone. -/
theorem Moved.aside (hserial : state.worker.serial = true) (hworker : next.worker = state.worker)
    (move : KeyMove platform state action next) (settled : next.service.Settled)
    (starting : next.store.jobPending = true → next.store.pendingJobMode = .phase7AuthStart →
      state.store.jobPending = true ∧ state.store.pendingJobMode = .phase7AuthStart ∨
        next.store.retained = .none) : Moved platform state action next where
  move := move
  settled := settled
  starting := by
    rintro (⟨hpending, hmode⟩ | ⟨epoch, hstart⟩)
    · exact (starting hpending hmode).imp_left .inl
    · exact .inl (.inr ⟨epoch, hworker ▸ hstart⟩)
  framing _ _ hnext := .inl (hworker ▸ hnext)
  finished _ hnext := .inl (hworker ▸ hnext)
  serial := hworker ▸ hserial

/-- A refused write moves nothing. -/
theorem Moved.refused (hserial : state.worker.serial = true) (hsettled : state.service.Settled)
    (h : state.Refused next) : Moved platform state action next := by
  obtain ⟨generation, transfer, rfl, -⟩ := h
  exact .aside hserial rfl (.kept rfl) hsettled fun hpending hmode ↦ .inl ⟨hpending, hmode⟩

/-- The handover of a committed resumption, or its refusal. -/
theorem handleResume_moved (hslot : Slot state) (hversion : platform.version = Resumption.pqResumeV08)
    (hsettled : state.service.Settled) (hserial : state.worker.serial = true) (data : Bytes)
    (input : Resumption.ControlInput) (link : LinkView) :
    Moved platform state (.resume conn data input link)
      (state.handleResume platform conn data input link).2 := by
  unfold State.handleResume
  split
  · rename_i hready
    obtain ⟨-, -, -, hfree, -⟩ := hready
    have hquiet : ¬state.InFlight := fun hflight ↦ hfree (hslot.busy hflight)
    obtain ⟨⟨answer, service⟩, hcontrol⟩ : ∃ result, Resumption.pqResumeServiceControl platform.version
      platform.crypto platform.aead state.resetToIdle.service conn data input = result := ⟨_, rfl⟩
    dsimp only
    rw [hcontrol]
    rw [hversion] at hcontrol
    dsimp only
    rcases hsettled.control hcontrol with hafter | ⟨hcommitted, hok⟩
    · split
      · unfold State.installResumed
        rw [hversion, Resumption.takeHybrid_of_empty hafter.empty]
        exact .aside hserial rfl (.wiped rfl) hafter fun _ _ ↦ .inr rfl
      · exact .aside hserial rfl (.wiped rfl) hafter fun _ _ ↦ .inr rfl
    · rw [if_pos hok]
      obtain ⟨after, htake, hafter⟩ := hcommitted.takeHybrid link
      unfold State.installResumed
      rw [hversion, htake]
      dsimp only
      split
      · exact .aside hserial rfl (.wiped rfl) (hafter.abort _ _) fun _ _ ↦ .inr rfl
      · rename_i store hinstall
        obtain ⟨-, rfl⟩ := installPhase8Application_eq_ok_iff.mp hinstall
        exact .aside hserial rfl (.resumed _ ⟨conn, data, input, link, service, rfl, hcommitted, rfl⟩ hquiet
          ⟨_, rfl⟩) hafter fun hpending hmode ↦ .inl ⟨hpending, hmode⟩
  · exact .aside hserial rfl (.kept rfl) hsettled fun hpending hmode ↦ .inl ⟨hpending, hmode⟩

/-- A disconnection leaves the store to the resets after it. -/
theorem disconnected_frame (state : State) (hversion : platform.version = Resumption.pqResumeV08)
    (conn : Conn) (now : ℤ) :
    (state.disconnected platform conn now).store = state.store ∧
      (state.disconnected platform conn now).worker = state.worker ∧
      ((state.disconnected platform conn now).service = state.service ∨
        (state.disconnected platform conn now).service = state.service.disconnected conn now) := by
  have hgone : (state.disconnectCurrent platform conn now).service = state.service.disconnected conn now :=
    if_pos hversion
  unfold State.disconnected
  by_cases hcurrent : state.main.currentConn = some conn
  · rw [if_pos hcurrent]
    dsimp only
    split <;> exact ⟨rfl, rfl, .inr hgone⟩
  · rw [if_neg hcurrent]
    dsimp only
    split <;> exact ⟨rfl, rfl, .inl rfl⟩

/-- A callback of the Bluetooth host. -/
theorem call_moved (hslot : Slot state) (hversion : platform.version = Resumption.pqResumeV08)
    (hsettled : state.service.Settled) (hserial : state.worker.serial = true)
    (hcall : state.call platform action = some next) : Moved platform state action next := by
  have hresumption : platform.resumption := hversion
  have hquiet : ∀ {action : Action} {next : State}, next.store = state.store →
      next.worker = state.worker → next.service.Settled → Moved platform state action next := by
    intro action next hstore hworker hafter
    refine .aside hserial hworker (.kept (by rw [hstore])) hafter fun hpending hmode ↦ .inl ?_
    exact hstore ▸ ⟨hpending, hmode⟩
  unfold State.call at hcall
  split at hcall
  · split at hcall <;> cases hcall
    refine hquiet rfl rfl ?_
    simp only [State.connected, if_pos hresumption]
    rw [hversion]
    exact Resumption.Service.settled_connected _ _ _ _ _
  · cases hcall
    rename_i conn now
    obtain ⟨hstore, hworker, hservice⟩ := disconnected_frame state hversion conn now
    refine hquiet hstore hworker ?_
    rcases hservice with hgone | hgone
    · rw [hgone]
      exact hsettled
    · rw [hgone]
      exact hsettled.disconnected _ _
  · cases hcall
    rename_i enabled now
    cases enabled with
    | true => exact hquiet rfl rfl hsettled
    | false =>
      have hservice : (state.cccConfigChanged platform false now).service =
        state.service.abort state.main.currentConn now := if_pos hresumption
      refine hquiet rfl rfl ?_
      rw [hservice]
      exact hsettled.abort _ _
  · cases hcall
    exact .refused hserial hsettled State.writeCiphertext_refused
  · split at hcall
    · rename_i conn mode sid centralKey mtu hmode
      cases hcall
      obtain hsame | ⟨-, -, -, -, store, hsubmit, hnext⟩ := @State.handleStart_cases state conn mode sid
        centralKey mtu
      · exact .refused hserial hsettled hsame
      rw [hnext]
      obtain ⟨-, -, ⟨-, rfl⟩ | ⟨hother, -⟩⟩ := State.submitStart_eq_ok hsubmit
      · exact .aside hserial rfl (.wiped rfl) hsettled fun _ _ ↦ .inr rfl
      · exact absurd (hmode.2 hversion) hother
    · cases hcall
  · rw [if_pos hresumption] at hcall
    cases hcall
  · cases hcall
    rename_i conn payload
    obtain hsame | ⟨-, -, store, hsubmit, hnext⟩ := @State.handlePhase7FinishedC_cases state conn payload
    · exact .refused hserial hsettled hsame
    rw [hnext]
    obtain ⟨-, rfl⟩ := submitPhase7FinishedC_eq_ok_iff.mp hsubmit
    exact .aside hserial rfl (.kept rfl) hsettled fun _ hmode ↦ absurd hmode (by rintro ⟨⟩)
  · cases hcall
    rename_i conn data offset
    obtain hsame | ⟨-, ⟨-, store, hsubmit, hnext⟩ | ⟨-, -, store, hsubmit, hnext⟩⟩ :=
      @State.writeSecureData_cases state conn data offset
    · exact .refused hserial hsettled hsame
    · rw [hnext]
      obtain ⟨-, rfl⟩ := submitPhase7C2p_eq_ok_iff.mp hsubmit
      exact .aside hserial rfl (.kept rfl) hsettled fun _ hmode ↦ absurd hmode (by rintro ⟨⟩)
    · rw [hnext]
      obtain ⟨-, rfl⟩ := submitPhase6C2p_eq_ok hsubmit
      exact .aside hserial rfl (.kept rfl) hsettled fun _ hmode ↦ absurd hmode (by rintro ⟨⟩)
  · split at hcall <;> cases hcall
    exact handleResume_moved hslot hversion hsettled hserial _ _ _
  · rw [if_pos hresumption] at hcall
    cases hcall
    exact hquiet rfl rfl (hsettled.abort _ _)
  · rw [if_pos hresumption] at hcall
    cases hcall
    exact hquiet rfl rfl (hsettled.abort _ _)
  · cases hcall

theorem hostStep_moved (hsettled : state.service.Settled) (hserial : state.worker.serial = true)
    (hstep : state.hostStep = some next) : Moved platform state action next := by
  unfold State.hostStep at hstep
  split at hstep <;> cases hstep
  · exact .aside hserial rfl (.kept rfl) hsettled fun hpending hmode ↦ .inl ⟨hpending, hmode⟩
  · exact .aside hserial rfl (.wiped rfl) hsettled fun _ _ ↦ .inr rfl
  · exact .aside hserial rfl (.kept rfl) hsettled fun hpending hmode ↦ .inl ⟨hpending, hmode⟩
  · split
    · exact .aside hserial rfl (.wiped rfl) hsettled fun _ _ ↦ .inr rfl
    · exact .aside hserial rfl (.kept rfl) hsettled fun hpending hmode ↦ .inl ⟨hpending, hmode⟩

/-- A step of the worker that begins no job. -/
theorem Moved.worked (hjob : next.store.jobPending = state.store.jobPending ∧
      next.store.pendingJobMode = state.store.pendingJobMode)
    (hworker : next.worker.begins = false) (move : KeyMove platform state action next)
    (settled : next.service.Settled)
    (finished : ∀ wire, next.worker.finishedP = some wire →
      state.worker.finishedP = some wire ∨ ∃ traffic, Verifies platform traffic wire state action next) :
    Moved platform state action next where
  move := move
  settled := settled
  starting := by
    rintro (⟨hpending, hmode⟩ | ⟨epoch, hstart⟩)
    · exact .inl (.inl ⟨hjob.1 ▸ hpending, hjob.2 ▸ hmode⟩)
    · rw [hstart] at hworker
      exact Bool.noConfusion hworker
  framing epoch snapshot hnext := by
    rw [hnext] at hworker
    exact Bool.noConfusion hworker
  finished := finished
  serial := by
    revert hworker
    cases next.worker <;> first | exact fun _ ↦ rfl | exact Bool.noConfusion

/-- A step of the worker that begins no job and leaves no FINISHED_P to deliver. -/
theorem Moved.unfinished (hjob : next.store.jobPending = state.store.jobPending ∧
      next.store.pendingJobMode = state.store.pendingJobMode)
    (hworker : next.worker.begins = false) (move : KeyMove platform state action next)
    (settled : next.service.Settled) (hnone : next.worker.finishedP = none) :
    Moved platform state action next :=
  .worked hjob hworker move settled fun wire hwire ↦
    absurd (hnone.symm.trans hwire) (Option.some_ne_none wire).symm

/-- The jobs that decapsulate: only START7_AUTH retains something, the secrets of a handshake that waits. -/
theorem runDecapsulate_moved {mode : JobMode} {epoch : ℕ} (hsettled : state.service.Settled)
    (hserial : state.worker.serial = true) (hworker : state.worker = .decapsulate mode epoch) :
    Moved platform state (.worker view) (state.runDecapsulate platform mode epoch view) := by
  have hnone : ∀ {status wire}, Worker.finishedP (.jobDone mode epoch status wire) = none := by
    intro status wire
    rw [hworker] at hserial
    cases mode
    case phase7AuthFinishedC => exact Bool.noConfusion hserial
    all_goals rfl
  unfold State.runDecapsulate Store.discardStart
  dsimp only [State.failJob, State.finish]
  repeat' split
  all_goals first
    | exact .unfinished ⟨rfl, rfl⟩ rfl (.kept rfl) hsettled hnone
    | exact .unfinished ⟨rfl, rfl⟩ rfl (.wiped rfl) hsettled hnone
    | exact .unfinished ⟨rfl, rfl⟩ rfl (.waits epoch hworker rfl ⟨rfl, rfl⟩) hsettled hnone

/-- The FINISHED_C job of Phase 7 retains keys for the frame that it verified. -/
theorem runFinished7_moved {epoch : ℕ} {keys : Phase7Keys} {hash received : Block 32}
    (hsettled : state.service.Settled) (hworker : state.worker = .finished7 epoch keys hash received) :
    Moved platform state (.worker view) (state.runFinished7 platform epoch keys hash received view) := by
  unfold State.runFinished7
  dsimp only [State.failJob, State.finish]
  split
  · exact .unfinished ⟨rfl, rfl⟩ rfl (.kept rfl) hsettled rfl
  rename_i hexpected
  split
  · exact .unfinished ⟨rfl, rfl⟩ rfl (.kept rfl) hsettled rfl
  rename_i wire traffic hresult
  split
  · rename_i hlive
    have hverifies : Verifies platform traffic wire state (.worker view) { state with
        store := state.store.storeTraffic traffic
        worker := .jobDone .phase7AuthFinishedC epoch .success wire } :=
      ⟨⟨view, epoch, keys, hash, received, rfl, hworker, not_not.mp hexpected, hresult⟩, hlive.2, rfl⟩
    refine .worked ⟨rfl, rfl⟩ rfl (.verified traffic wire hverifies rfl) hsettled fun other hother ↦ ?_
    cases hother
    exact .inr ⟨traffic, hverifies⟩
  · exact .unfinished ⟨rfl, rfl⟩ rfl (.kept rfl) hsettled rfl

/-- The application job of Phase 7 moves the counters for a frame that it opened. -/
theorem runApp7_moved {epoch : ℕ} {snapshot : AppSnapshot} (hsettled : state.service.Settled)
    (hworker : state.worker = .app7 epoch snapshot) :
    Moved platform state (.worker view) (state.runApp7 platform epoch snapshot view) := by
  unfold State.runApp7
  dsimp only [State.failJob, State.finish]
  split
  · exact .unfinished ⟨rfl, rfl⟩ rfl (.kept rfl) hsettled rfl
  rename_i accepted answer hanswer
  obtain ⟨plaintext, -, hdecrypt, -⟩ := answerFrame_eq_ok hanswer
  split
  · rename_i hlive
    split
    · exact .unfinished ⟨rfl, rfl⟩ rfl (.framed view epoch snapshot accepted plaintext ⟨rfl, hworker, hdecrypt⟩
        hlive.2 rfl rfl) hsettled rfl
    · exact .unfinished ⟨rfl, rfl⟩ rfl (.framed view epoch snapshot accepted plaintext ⟨rfl, hworker, hdecrypt⟩
        hlive.2 rfl rfl) hsettled rfl
  · exact .unfinished ⟨rfl, rfl⟩ rfl (.kept rfl) hsettled rfl

/-- The end of a job passes its FINISHED_P on. -/
theorem finishJob_moved {mode : JobMode} {epoch : ℕ} {status : JobStatus} {wire : Bytes}
    (hsettled : state.service.Settled) (hworker : state.worker = .jobDone mode epoch status wire) :
    Moved platform state (.worker view) (state.finishJob mode epoch status wire) := by
  unfold State.finishJob
  dsimp only
  split
  · exact .unfinished ⟨rfl, rfl⟩ rfl (.kept rfl) hsettled (by cases mode <;> rfl)
  · refine .worked ⟨rfl, rfl⟩ rfl (.kept rfl) hsettled fun other hother ↦ .inl ?_
    rw [hworker, ← hother]
    cases mode <;> cases status <;> rfl

/-- The jobs of the worker. -/
theorem inJob_moved (hsettled : state.service.Settled) (hserial : state.worker.serial = true)
    (hjob : state.worker.inJob = true) (hstep : state.workerStep platform view = some next) :
    Moved platform state (.worker view) next := by
  unfold State.workerStep at hstep
  cases hworker : state.worker <;> rw [hworker] at hstep hjob
  all_goals try cases hjob
  all_goals cases hstep
  case decapsulate mode epoch => exact runDecapsulate_moved hsettled hserial hworker
  case finished7 epoch keys hash received => exact runFinished7_moved hsettled hworker
  case app7 epoch snapshot => exact runApp7_moved hsettled hworker
  case jobDone mode epoch status wire => exact finishJob_moved hsettled hworker
  -- Phases 5 and 6 have keys of their own
  case finished5 epoch keys hash received =>
    unfold State.runFinished5
    dsimp only [State.failJob, State.finish]
    repeat' split
    all_goals exact .unfinished ⟨rfl, rfl⟩ rfl (.kept rfl) hsettled rfl
  case data5 epoch key sid =>
    unfold State.runData5
    dsimp only [State.failJob, State.finish]
    split <;> exact .unfinished ⟨rfl, rfl⟩ rfl (.kept rfl) hsettled rfl
  case app6 epoch snapshot =>
    unfold State.runApp6
    dsimp only [State.failJob, State.finish]
    repeat' split
    all_goals exact .unfinished ⟨rfl, rfl⟩ rfl (.kept rfl) hsettled rfl

theorem jobStart_begins {store : Store} (hvalid : State.jobValid store) :
    (State.jobStart store).serial = true ∧ (State.jobStart store).finishedP = none ∧
      (∀ epoch, State.jobStart store = .decapsulate .phase7AuthStart epoch →
        store.pendingJobMode = .phase7AuthStart) ∧
      ∀ epoch snapshot, State.jobStart store = .app7 epoch snapshot →
        store.phase7Authenticated = true ∧ snapshot = State.appSnapshot store := by
  unfold State.jobStart
  unfold State.jobValid at hvalid
  dsimp only
  cases hmode : store.pendingJobMode <;> rw [hmode] at hvalid
  case phase7AppC2p =>
    refine ⟨rfl, rfl, nofun, fun epoch snapshot hstart ↦ ?_⟩
    cases hstart
    exact ⟨hvalid.2.1, rfl⟩
  case phase7AuthStart => exact ⟨rfl, rfl, fun _ _ ↦ rfl, nofun⟩
  all_goals exact ⟨rfl, rfl, nofun, nofun⟩

/-- The worker takes a job. -/
theorem takeJob_moved (hsettled : state.service.Settled) (hidle : state.worker = .idle)
    (hstep : state.takeJob = some next) : Moved platform state (.worker view) next := by
  unfold State.takeJob at hstep
  dsimp only at hstep
  split at hstep
  · cases hstep
  rename_i hpending
  have hpending : state.store.jobPending = true := by simpa using hpending
  split at hstep
  · cases hstep
    refine ⟨.kept rfl, hsettled, ?_, fun epoch snapshot hnext ↦ ?_, fun wire hnext ↦ .inl hnext, ?_⟩
    · rintro (⟨hnone, -⟩ | hstart)
      · exact Bool.noConfusion hnone
      · exact .inl (.inr hstart)
    · exact .inl hnext
    · rw [hidle]
      rfl
  cases hstep
  by_cases hvalid : State.jobValid state.store
  · obtain ⟨hserial, hfinished, hstart, hframe⟩ := jobStart_begins hvalid
    have hretained : (if decide (State.jobValid state.store) = true ∧
        state.store.pendingJobMode = .phase5Data then
          Store.clearPhase5 { state.store with jobPending := false, jobActive := true }
        else { state.store with jobPending := false, jobActive := true }).retained =
          state.store.retained ∧ (if decide (State.jobValid state.store) = true ∧
        state.store.pendingJobMode = .phase5Data then
          Store.clearPhase5 { state.store with jobPending := false, jobActive := true }
        else { state.store with jobPending := false, jobActive := true }).jobPending = false := by
      split <;> exact ⟨rfl, rfl⟩
    simp only [hvalid, decide_true, if_true, true_and] at hretained ⊢
    refine ⟨.kept hretained.1, hsettled, ?_, fun epoch snapshot hnext ↦ .inr ?_, fun wire hnext ↦ ?_,
      hserial⟩
    · rintro (⟨hnone, -⟩ | ⟨epoch, hnext⟩)
      · exact Bool.noConfusion (hretained.2.symm.trans hnone)
      · exact .inl (.inl ⟨hpending, hstart epoch hnext⟩)
    · obtain ⟨hauthenticated, hsnapshot⟩ := hframe epoch snapshot hnext
      exact ⟨hauthenticated, hsnapshot, hretained.1⟩
    · exact absurd (hfinished.symm.trans hnext) nofun
  · simp only [hvalid, decide_false, Bool.false_eq_true, if_false, false_and]
    refine ⟨.kept rfl, hsettled, ?_, nofun, fun wire hnext ↦ ?_, rfl⟩
    · rintro (⟨hnone, -⟩ | ⟨epoch, hnext⟩)
      · exact Bool.noConfusion hnone
      · cases hnext
    · cases hmode : state.store.pendingJobMode <;> rw [hmode] at hnext <;> cases hnext

/-- The commit in v0.8: the ticket is issued with it, or nothing is installed. -/
theorem commitPhase7_handover (hversion : platform.version = Resumption.pqResumeV08)
    (hsettled : state.service.Settled) :
    ((state.commitPhase7 platform view).1 = true → state.store.phase7TrafficPending = true ∧
        ∃ sid, (state.commitPhase7 platform view).2.store.retained =
          { Retained.none with
            authenticated := true, keys := state.store.phase7PendingTrafficKeys, sid }) ∧
      (state.commitPhase7 platform view).2.service.Settled ∧
      (state.commitPhase7 platform view).2.store.jobPending = state.store.jobPending ∧
      (state.commitPhase7 platform view).2.store.pendingJobMode = state.store.pendingJobMode := by
  unfold State.commitPhase7
  split
  · exact ⟨nofun, hsettled, rfl, rfl⟩
  rename_i hready
  obtain ⟨-, hpending, hwait, -⟩ := commitReady_eq_ok_iff.mp hready
  have hresumption : platform.resumption := hversion
  have hfull : ∀ {full : Resumption.FullKeys}, (Resumption.pqResumeServiceFull platform.version
      platform.crypto view.faults state.service full view.peer view.now).2.Settled := by
    rw [hversion]
    exact Resumption.settled_full
  simp only [if_pos hresumption]
  split
  · refine ⟨fun _ ↦ ⟨hpending, state.store.phase7SessionId, ?_⟩, hfull, rfl, rfl⟩
    simp only [Store.retained, Store.promote, Retained.none, hwait, Bool.false_eq_true, if_false]
  · exact ⟨nofun, hfull, rfl, rfl⟩

/-- The delivery of an authentication result: a FINISHED_P that is queued is committed with it. -/
theorem deliverSerialized_moved (hversion : platform.version = Resumption.pqResumeV08)
    (hsettled : state.service.Settled) {mode : JobMode} {valid : Bool} {status : JobStatus} {wire : Bytes}
    (hworker : state.worker = .deliver mode valid status wire conn)
    (hmode : mode = .phase7AuthStart ∨ mode = .phase7AuthFinishedC) :
    Moved platform state (.worker view) (state.deliverSerialized platform mode valid wire conn view) := by
  obtain ⟨hcommit, hafter, hpending, hjob⟩ :=
    @commitPhase7_handover platform (state.notify conn wire view) view hversion hsettled
  obtain ⟨hframe, -, -⟩ := @commitPhase7_frame platform (state.notify conn wire view) view
  have houtbox : ((state.notify conn wire view).commitPhase7 platform view).2.outbox =
    (state.notify conn wire view).outbox := by rw [hframe]
  unfold State.deliverSerialized
  dsimp only
  split
  · split
    · rename_i hsent
      split
      · exact .worked ⟨rfl, rfl⟩ rfl (.kept rfl) hsettled (by rintro _ ⟨⟩)
      · rename_i hstart
        split
        · rename_i hok
          obtain ⟨htraffic, hretained⟩ := hcommit hok
          refine .worked ⟨hpending, hjob⟩ rfl (.committed _ wire ⟨⟨view, status, conn, rfl, ?_, ?_⟩, htraffic,
            rfl⟩ hretained) hafter (by rintro _ ⟨⟩)
          · rw [hworker, hmode.resolve_left hstart, hsent.1]
          · dsimp only
            rw [houtbox, State.notify, if_pos hsent.2.2.2]
        · exact .worked ⟨hpending, hjob⟩ rfl (.wiped rfl) (hafter.abort _ _) (by rintro _ ⟨⟩)
    · exact .worked ⟨rfl, rfl⟩ rfl (.wiped rfl) (hsettled.abort _ _) (by rintro _ ⟨⟩)
  · exact .worked ⟨rfl, rfl⟩ rfl (.kept rfl) hsettled (by rintro _ ⟨⟩)

/-- **The steps of the worker.** -/
theorem workerStep_moved (hversion : platform.version = Resumption.pqResumeV08)
    (hsettled : state.service.Settled) (hserial : state.worker.serial = true)
    (hstep : state.workerStep platform view = some next) : Moved platform state (.worker view) next := by
  by_cases hjob : state.worker.inJob = true
  · exact inJob_moved hsettled hserial hjob hstep
  unfold State.workerStep at hstep
  cases hworker : state.worker <;> rw [hworker] at hstep hjob hserial
  all_goals try exact absurd rfl hjob
  case idle => exact takeJob_moved hsettled hworker hstep
  case callback mode status wire =>
    cases hstep
    rcases resultReady_worker mode status wire with hidle | ⟨conn, -, -, hdeliver⟩
    · exact .worked ⟨rfl, rfl⟩ (by rw [hidle]; rfl) (.kept rfl) hsettled (by rw [hidle]; rintro _ ⟨⟩)
    · refine .worked ⟨rfl, rfl⟩ (by rw [hdeliver]; rfl) (.kept rfl) hsettled fun other hother ↦ .inl ?_
      rw [hdeliver] at hother
      cases mode
      case phase7AuthFinishedC =>
        cases hvalid : State.resultValid platform.version .phase7AuthFinishedC status wire <;>
          rw [hvalid] at hother <;> cases hother
        have hstatus : status = .success := by
          simp only [State.resultValid, Bool.and_eq_true, decide_eq_true_eq] at hvalid
          exact hvalid.1.1
        rw [hworker, hstatus]
        rfl
      all_goals cases hother
  case deliver mode valid status wire conn =>
    cases hstep
    unfold State.deliver
    split
    · rename_i hserialized
      exact deliverSerialized_moved hversion hsettled hworker hserialized.2
    · rename_i hserialized
      have hmode : mode ≠ .phase7AuthStart ∧ mode ≠ .phase7AuthFinishedC :=
        not_or.mp fun hmode ↦ hserialized ⟨hversion, hmode⟩
      have hafter : (State.afterDelivery mode valid view.sent conn).begins = false ∧
          (State.afterDelivery mode valid view.sent conn).finishedP = none := by
        cases mode <;> cases valid <;> cases view.sent <;>
          simp_all [State.afterDelivery, Worker.begins, Worker.finishedP]
      refine .worked ⟨rfl, rfl⟩ hafter.1 (.kept rfl) hsettled fun other hother ↦ ?_
      exact absurd (hafter.2.symm.trans hother) (by rintro ⟨⟩)
  case ready7 conn =>
    cases hstep
    exact .worked ⟨rfl, rfl⟩ rfl (.kept rfl) hsettled (by rintro _ ⟨⟩)
  case promoted7 conn =>
    cases hstep
    exact .worked ⟨rfl, rfl⟩ rfl (.kept rfl) hsettled (by rintro _ ⟨⟩)
  case failed7 conn =>
    cases hstep
    exact .worked ⟨rfl, rfl⟩ rfl (.kept rfl) hsettled (by rintro _ ⟨⟩)
  case commit7 conn => exact Bool.noConfusion hserial
  case reset7 =>
    cases hstep
    exact .worked ⟨rfl, rfl⟩ rfl (.wiped rfl) hsettled (by rintro _ ⟨⟩)
  case failed5 conn =>
    cases hstep
    exact .worked ⟨rfl, rfl⟩ rfl (.kept rfl) hsettled (by rintro _ ⟨⟩)
  case reset5 =>
    cases hstep
    exact .worked ⟨rfl, rfl⟩ rfl (.kept rfl) hsettled (by rintro _ ⟨⟩)

/-- **What a step of v0.8 does to the keys.** -/
theorem step_moved (hslot : Slot state) (hversion : platform.version = Resumption.pqResumeV08)
    (hsettled : state.service.Settled) (hserial : state.worker.serial = true)
    (hstep : step platform state action = some next) : Moved platform state action next := by
  unfold Legacy.step at hstep
  split at hstep
  · exact workerStep_moved hversion hsettled hserial hstep
  · exact hostStep_moved hsettled hserial hstep
  · have hresumption : platform.resumption := hversion
    rw [if_pos hresumption, hversion] at hstep
    cases hstep
    exact .aside hserial rfl (.kept rfl) (hsettled.expire _ _ _) fun hpending hmode ↦
      .inl ⟨hpending, hmode⟩
  · split at hstep
    · exact call_moved hslot hversion hsettled hserial hstep
    · cases hstep

end Moves

/-! ## The invariant -/

/-- The snapshot is the session in the store. -/
structure AppSnapshot.Agrees (snapshot : AppSnapshot) (session : Retained) : Prop where
  keys : snapshot.keys = session.keys
  sid : snapshot.sid = session.sid
  last : snapshot.last = session.received
  sendSeq : snapshot.sendSeq = session.nextSend

/-- What holds between any two steps of v0.8 about the keys, with the actions so far. -/
structure Keyed (platform : Platform) (past : List Action) (state : State) : Prop where
  slot : Slot state
  settled : state.service.Settled
  serial : state.worker.serial = true
  waiting : state.store.retained.waitFinished = true →
    state.store.retained.authenticated = false ∧ state.store.retained.trafficPending = false
  pending : state.store.retained.trafficPending = true → state.store.retained.authenticated = false
  starting : state.Starting → state.store.retained.waitFinished = false ∧
    state.store.retained.authenticated = false ∧ state.store.retained.trafficPending = false
  finished : ∀ wire, state.worker.finishedP = some wire → state.store.retained.trafficPending = true →
    Earlier (step platform) (Verifies platform state.store.retained.pendingKeys wire) State.boot past
  active : state.store.retained.authenticated = true →
    Earlier (step platform) (Installs platform state.store.retained.keys) State.boot past
  framing : ∀ epoch snapshot, state.worker = .app7 epoch snapshot →
    state.store.retained.waitFinished = false ∧ state.store.retained.trafficPending = false ∧
      Earlier (step platform) (Installs platform snapshot.keys) State.boot past ∧
      (state.store.retained.authenticated = true → snapshot.Agrees state.store.retained)

theorem keyed_boot (platform : Platform) : Keyed platform [] State.boot where
  slot := slot_boot
  settled := Resumption.Service.settled_zero
  serial := rfl
  waiting := nofun
  pending := nofun
  starting _ := ⟨rfl, rfl, rfl⟩
  finished := nofun
  active := nofun
  framing := nofun

section Invariant

variable {platform : Platform} {past : List Action} {state next : State} {action : Action}

/-- An authenticated session waits for nothing. -/
theorem Keyed.idle_of_authenticated (h : Keyed platform past state)
    (hauthenticated : state.store.retained.authenticated = true) :
    state.store.retained.waitFinished = false ∧ state.store.retained.trafficPending = false := by
  constructor
  · by_contra hwait
    exact absurd hauthenticated (by rw [(h.waiting (by simpa using hwait)).1]; exact Bool.false_ne_true)
  · by_contra hpending
    exact absurd hauthenticated (by rw [h.pending (by simpa using hpending)]; exact Bool.false_ne_true)

/-- A frame that is taken in a step reads the session that is retained before and after it. -/
theorem Keyed.takes (h : Keyed platform past state) {snapshot : AppSnapshot}
    (htaken : TakesFrame snapshot state next) :
    next.store.retained.waitFinished = false ∧ next.store.retained.trafficPending = false ∧
      Earlier (Legacy.step platform) (Installs platform snapshot.keys) State.boot (past ++ [action]) ∧
      (next.store.retained.authenticated = true → snapshot.Agrees next.store.retained) := by
  obtain ⟨hauthenticated, rfl, hretained⟩ := htaken
  rw [hretained]
  obtain ⟨hwait, hpending⟩ := h.idle_of_authenticated hauthenticated
  exact ⟨hwait, hpending, (h.active hauthenticated).append _, fun _ ↦ ⟨rfl, rfl, rfl, rfl⟩⟩

/-- The keys of a verified FINISHED_C are pending after its step. -/
theorem Verifies.earlier {traffic : Phase7TrafficKeys} {wire : Bytes}
    (h : Verifies platform traffic wire state action next)
    (hrun : run (step platform) State.boot past = some state) (hstep : step platform state action = some next) :
    Earlier (step platform) (Verifies platform next.store.retained.pendingKeys wire) State.boot
      (past ++ [action]) := by
  have hkeys : next.store.retained.pendingKeys = traffic := by rw [h.stored.2]; rfl
  rw [hkeys]
  exact earlier_last hrun hstep h

/-- A FINISHED_P that the worker holds was held before, or its FINISHED_C was verified in this step. -/
theorem Moved.finishes (moved : Moved platform state action next)
    (hrun : run (step platform) State.boot past = some state) (hstep : step platform state action = some next)
    {wire : Bytes} (hnext : next.worker.finishedP = some wire)
    (hbefore : state.worker.finishedP = some wire →
      Earlier (step platform) (Verifies platform next.store.retained.pendingKeys wire) State.boot
        (past ++ [action])) :
    Earlier (step platform) (Verifies platform next.store.retained.pendingKeys wire) State.boot
      (past ++ [action]) := by
  rcases moved.finished wire hnext with hsame | ⟨traffic, hverifies⟩
  · exact hbefore hsame
  · exact hverifies.earlier hrun hstep

/-- The session is kept. -/
theorem Keyed.kept (h : Keyed platform past state) (hslot : Slot next) (moved : Moved platform state action next)
    (hrun : run (step platform) State.boot past = some state) (hstep : step platform state action = some next)
    (hretained : next.store.retained = state.store.retained) : Keyed platform (past ++ [action]) next := by
  refine ⟨hslot, moved.settled, moved.serial, hretained ▸ h.waiting, hretained ▸ h.pending, fun hstart ↦ ?_,
    fun wire hnext hpending ↦ moved.finishes hrun hstep hnext fun hsame ↦ ?_, fun hauthenticated ↦ ?_,
    fun epoch snapshot hnext ↦ ?_⟩
  · rcases moved.starting hstart with hbefore | hnone
    · exact hretained ▸ h.starting hbefore
    · rw [hnone]
      exact ⟨rfl, rfl, rfl⟩
  · rw [hretained] at hpending ⊢
    exact (h.finished wire hsame hpending).append _
  · rw [hretained] at hauthenticated ⊢
    exact (h.active hauthenticated).append _
  · rcases moved.framing epoch snapshot hnext with hsame | htaken
    · obtain ⟨hwait, hpending, hearlier, hagrees⟩ := h.framing epoch snapshot hsame
      rw [hretained]
      exact ⟨hwait, hpending, hearlier.append _, hagrees⟩
    · exact h.takes htaken

/-- The session is wiped. -/
theorem Keyed.wiped (h : Keyed platform past state) (hslot : Slot next) (moved : Moved platform state action next)
    (hretained : next.store.retained = .none) : Keyed platform (past ++ [action]) next := by
  refine ⟨hslot, moved.settled, moved.serial, ?_, ?_, ?_, ?_, ?_, fun epoch snapshot hnext ↦ ?_⟩
  · rw [hretained]
    exact nofun
  · rw [hretained]
    exact nofun
  · rw [hretained]
    exact fun _ ↦ ⟨rfl, rfl, rfl⟩
  · rw [hretained]
    exact nofun
  · rw [hretained]
    exact nofun
  · rcases moved.framing epoch snapshot hnext with hsame | htaken
    · obtain ⟨-, -, hearlier, -⟩ := h.framing epoch snapshot hsame
      rw [hretained]
      exact ⟨rfl, rfl, hearlier.append _, nofun⟩
    · exact h.takes htaken

/-- A START retains what FINISHED_C needs. -/
theorem Keyed.waits (h : Keyed platform past state) (hslot : Slot next) (moved : Moved platform state action next)
    {epoch : ℕ} (hworker : state.worker = .decapsulate .phase7AuthStart epoch)
    (hretained : next.store.retained = { state.store.retained with
      waitFinished := true, authenticated := false, sid := state.store.sessionIdJob })
    (hjob : next.store.jobPending = state.store.jobPending ∧ next.worker.begins = false) :
    Keyed platform (past ++ [action]) next := by
  obtain ⟨-, hunauthenticated, hpending⟩ := h.starting (.inr ⟨epoch, hworker⟩)
  refine ⟨hslot, moved.settled, moved.serial, ?_, ?_, fun hstart ↦ ?_, ?_, ?_,
    fun epoch snapshot hnext ↦ ?_⟩
  · rw [hretained]
    exact fun _ ↦ ⟨rfl, hpending⟩
  · rw [hretained]
    exact fun _ ↦ rfl
  · rcases hstart with ⟨hqueued, -⟩ | ⟨epoch, hstart⟩
    · have hnone := (h.slot.alone (.inl (by rw [hworker]; rfl))).1
      exact absurd (hnone.symm.trans (hjob.1.symm.trans hqueued)) nofun
    · exact absurd (hjob.2.symm.trans (congrArg Worker.begins hstart)) nofun
  · rw [hretained]
    exact fun _ _ htraffic ↦ absurd (hpending.symm.trans htraffic) nofun
  · rw [hretained]
    exact nofun
  · rcases moved.framing epoch snapshot hnext with hsame | htaken
    · exact absurd (hworker.symm.trans hsame) nofun
    · exact absurd (hunauthenticated.symm.trans htaken.authenticated) nofun

/-- The traffic keys of a verified FINISHED_C are pending. -/
theorem Keyed.verified (h : Keyed platform past state) (hslot : Slot next) (moved : Moved platform state action next)
    (hrun : run (step platform) State.boot past = some state) (hstep : step platform state action = some next)
    {traffic : Phase7TrafficKeys} {wire : Bytes} (hverifies : Verifies platform traffic wire state action next)
    (hfinishes : next.worker.finishedP = some wire) : Keyed platform (past ++ [action]) next := by
  have hretained : next.store.retained = { state.store.retained with
      pendingKeys := traffic, waitFinished := false, authenticated := false, trafficPending := true } := by
    rw [hverifies.stored.2]
    rfl
  refine ⟨hslot, moved.settled, moved.serial, ?_, ?_, fun hstart ↦ ?_,
    fun other hnext _ ↦ moved.finishes hrun hstep hnext fun _ ↦ ?_, ?_, fun epoch snapshot hnext ↦ ?_⟩
  · rw [hretained]
    exact nofun
  · rw [hretained]
    exact fun _ ↦ rfl
  · rcases moved.starting hstart with hbefore | hnone
    · exact absurd ((h.starting hbefore).1.symm.trans hverifies.stored.1) nofun
    · exact absurd (hretained.symm.trans hnone) nofun
  · obtain rfl : wire = other := Option.some.inj (hfinishes.symm.trans hnext)
    exact hverifies.earlier hrun hstep
  · rw [hretained]
    exact nofun
  · exact absurd (hfinishes.symm.trans (congrArg Worker.finishedP hnext)) nofun

/-- A frame moves the counters of the session. -/
theorem Keyed.framed (h : Keyed platform past state) (hslot : Slot next) (moved : Moved platform state action next)
    {accepted sendSeq : UInt64} (hauthenticated : state.store.phase7Authenticated = true)
    (hstore : next.store = state.store.storeCounters accepted sendSeq) (hworker : next.worker.begins = false) :
    Keyed platform (past ++ [action]) next := by
  have hretained : next.store.retained = { state.store.retained with
      received := some accepted
      nextSend := if sendSeq = uint64Max then state.store.phase7NextSendSeq
        else sendSeq + 1 } := by
    rw [hstore]
    rfl
  have hstill := h.idle_of_authenticated hauthenticated
  refine ⟨hslot, moved.settled, moved.serial, ?_, ?_, fun hstart ↦ ?_, ?_, ?_,
    fun epoch snapshot hnext ↦ ?_⟩
  · rw [hretained]
    exact fun hwait ↦ absurd (hstill.1.symm.trans hwait) nofun
  · rw [hretained]
    exact fun hpending ↦ absurd (hstill.2.symm.trans hpending) nofun
  · rcases moved.starting hstart with hbefore | hnone
    · exact absurd ((h.starting hbefore).2.1.symm.trans hauthenticated) nofun
    · exact absurd (congrArg Retained.received (hretained.symm.trans hnone)) nofun
  · rw [hretained]
    exact fun _ _ hpending ↦ absurd (hstill.2.symm.trans hpending) nofun
  · rw [hretained]
    exact fun _ ↦ (h.active hauthenticated).append _
  · exact absurd (hworker.symm.trans (congrArg Worker.begins hnext)) nofun

/-- The pending keys are committed. -/
theorem Keyed.committed (h : Keyed platform past state) (hslot : Slot next) (moved : Moved platform state action next)
    (hrun : run (step platform) State.boot past = some state) (hstep : step platform state action = some next)
    {traffic : Phase7TrafficKeys} {wire : Bytes} {sid : Block 16}
    (hcommits : CommitsFull traffic wire state action next)
    (hretained : next.store.retained = { Retained.none with authenticated := true, keys := traffic, sid }) :
    Keyed platform (past ++ [action]) next := by
  have hpending : state.store.retained.trafficPending = true := hcommits.pending.1
  have hunauthenticated := h.pending hpending
  refine ⟨hslot, moved.settled, moved.serial, ?_, ?_, fun hstart ↦ ?_, ?_, fun _ ↦ ?_,
    fun epoch snapshot hnext ↦ ?_⟩
  · rw [hretained]
    exact nofun
  · rw [hretained]
    exact nofun
  · rcases moved.starting hstart with hbefore | hnone
    · exact absurd ((h.starting hbefore).2.2.symm.trans hpending) nofun
    · exact absurd (hretained.symm.trans hnone) nofun
  · rw [hretained]
    exact nofun
  · rw [hretained]
    exact earlier_last hrun hstep (.inl ⟨wire, hcommits⟩)
  · rcases moved.framing epoch snapshot hnext with hsame | htaken
    · obtain ⟨view, status, conn, -, hworker, -⟩ := hcommits.delivered
      exact absurd (hworker.symm.trans hsame) nofun
    · exact absurd (hunauthenticated.symm.trans htaken.authenticated) nofun

/-- A resumption hands its keys over. -/
theorem Keyed.resumed (h : Keyed platform past state) (hslot : Slot next) (moved : Moved platform state action next)
    (hrun : run (step platform) State.boot past = some state) (hstep : step platform state action = some next)
    {traffic : Phase7TrafficKeys} {sid : Block 16} (hresumes : InstallsResumed platform traffic state action)
    (hquiet : ¬state.InFlight)
    (hretained : next.store.retained = { Retained.none with authenticated := true, keys := traffic, sid }) :
    Keyed platform (past ++ [action]) next := by
  refine ⟨hslot, moved.settled, moved.serial, ?_, ?_, fun hstart ↦ ?_, ?_, fun _ ↦ ?_,
    fun epoch snapshot hnext ↦ ?_⟩
  · rw [hretained]
    exact nofun
  · rw [hretained]
    exact nofun
  · rcases moved.starting hstart with (⟨hqueued, -⟩ | ⟨epoch, hworker⟩) | hnone
    · exact absurd (.inl hqueued) hquiet
    · exact absurd (.inr (.inl (by rw [hworker]; rfl))) hquiet
    · exact absurd (hretained.symm.trans hnone) nofun
  · rw [hretained]
    exact nofun
  · rw [hretained]
    exact earlier_last hrun hstep (.inr hresumes)
  · rcases moved.framing epoch snapshot hnext with hsame | htaken
    · exact absurd (.inr (.inl (by rw [hsame]; rfl))) hquiet
    · exact h.takes htaken

/-- Where no new session begins, the invariant needs the history of the old one only. -/
theorem Keyed.step (h : Keyed platform past state) (hversion : platform.version = Resumption.pqResumeV08)
    (hrun : run (step platform) State.boot past = some state)
    (hstep : step platform state action = some next) : Keyed platform (past ++ [action]) next := by
  have moved := step_moved h.slot hversion h.settled h.serial hstep
  have hslot := h.slot.step hstep
  cases moved.move with
  | kept hretained => exact h.kept hslot moved hrun hstep hretained
  | wiped hretained => exact h.wiped hslot moved hretained
  | waits epoch hworker hretained hjob => exact h.waits hslot moved hworker hretained hjob
  | verified traffic wire hverifies hfinishes => exact h.verified hslot moved hrun hstep hverifies hfinishes
  | framed view epoch snapshot accepted plaintext hdecrypts hauthenticated hstore hworker =>
    exact h.framed hslot moved hauthenticated hstore hworker
  | committed traffic wire hcommits hretained =>
    obtain ⟨sid, hretained⟩ := hretained
    exact h.committed hslot moved hrun hstep hcommits hretained
  | resumed traffic hresumes hquiet hretained =>
    obtain ⟨sid, hretained⟩ := hretained
    exact h.resumed hslot moved hrun hstep hresumes hquiet hretained

/-- **The invariant holds after every run.** -/
theorem keyed_run (hversion : platform.version = Resumption.pqResumeV08)
    (hrun : run (step platform) State.boot past = some state) : Keyed platform past state :=
  run_history (keyed_boot platform)
    (fun _ _ _ _ hbefore h hstep ↦ h.step hversion hbefore hstep) hrun

end Invariant

/-! ## Steps and runs -/

/-- Where new keys come from: the FINISHED_P of a verified FINISHED_C was queued in this step, or a
resumption was committed in it. -/
inductive Origin (platform : Platform) (past : List Action) (state : State) (action : Action) (next : State)
    (traffic : Phase7TrafficKeys) : Prop
  | full (wire : Bytes) (commits : CommitsFull traffic wire state action next)
      (verified : Earlier (step platform) (Verifies platform traffic wire) State.boot past)
  | resumed (resumes : InstallsResumed platform traffic state action)

/-- What one step may do with keys: the session goes on or is installed anew, nothing is left in the service
for a second transfer, and a frame is processed under keys that were installed before, with sequence
numbers that no earlier frame under them had. -/
structure KeyStep (platform : Platform) (past : List Action) (state : State) (action : Action)
    (next : State) : Prop where
  installed : next.store.retained.authenticated = true →
    state.store.retained.Continues next.store.retained ∨
      ∃ traffic, Origin platform past state action next traffic ∧ next.store.retained.Fresh traffic
  handed : next.service.Settled
  used : ∀ epoch snapshot, state.worker = .app7 epoch snapshot →
    state.store.retained.trafficPending = false ∧
      Earlier (step platform) (Installs platform snapshot.keys) State.boot past
  answered : ∀ view epoch epoch' snapshot wire, action = .worker view → state.worker = .app7 epoch snapshot →
    next.worker = .jobDone .phase7AppC2p epoch' .success wire →
      snapshot.Agrees state.store.retained ∧ next.store.retained.keys = snapshot.keys ∧
        (∃ accepted, next.store.retained.received = some accepted ∧
          ∀ seq ∈ state.store.retained.received, seq < accepted) ∧
        state.store.retained.nextSend < next.store.retained.nextSend

/-- The step installs no keys. -/
def Uninterrupted (platform : Platform) (state : State) (action : Action) : Prop :=
  ∀ next ∈ step platform state action, ∀ traffic, ¬Installs platform traffic state action next

section Spaces

variable {platform : Platform} {past : List Action} {state next : State} {action : Action}

theorem lt_add_one_of_ne_max {seq : UInt64} (h : seq ≠ uint64Max) : seq < seq + 1 := by
  have hmax : seq.toNat ≠ uint64Max.toNat := fun heq ↦ h (UInt64.toNat_inj.mp heq)
  have hbound := seq.toNat_lt
  have hlimit : uint64Max.toNat = 18446744073709551615 := rfl
  rw [UInt64.lt_iff_toNat_lt, UInt64.toNat_add]
  change _ < (seq.toNat + 1) % 18446744073709551616
  omega

/-- **Without an installation the sequence spaces go on.** -/
theorem Keyed.continues (h : Keyed platform past state) (hversion : platform.version = Resumption.pqResumeV08)
    (hstep : Legacy.step platform state action = some next)
    (hauthenticated : next.store.retained.authenticated = true) :
    state.store.retained.Continues next.store.retained ∨
      ∃ traffic, Origin platform past state action next traffic ∧ next.store.retained.Fresh traffic := by
  have moved := step_moved h.slot hversion h.settled h.serial hstep
  cases moved.move with
  | kept hretained =>
    rw [hretained] at hauthenticated ⊢
    exact .inl (.refl hauthenticated)
  | wiped hretained =>
    rw [hretained] at hauthenticated
    exact Bool.noConfusion hauthenticated
  | waits epoch hworker hretained hjob =>
    rw [hretained] at hauthenticated
    exact Bool.noConfusion hauthenticated
  | verified traffic wire hverifies hfinishes =>
    have hstored : next.store.retained.authenticated = false := by
      rw [hverifies.stored.2]
      rfl
    exact absurd (hstored.symm.trans hauthenticated) nofun
  | framed view epoch snapshot accepted plaintext hdecrypts hlive hstore hworker =>
    obtain ⟨rfl, hframe, hdecrypt⟩ := hdecrypts
    obtain ⟨hkeys, hsid, hlast, hsend⟩ := (h.framing epoch snapshot hframe).2.2.2 hlive
    rw [hlast] at hdecrypt
    rw [hstore]
    refine .inl ⟨hlive, rfl, rfl, fun seq hseq ↦ ⟨accepted, rfl, ?_⟩, ?_⟩
    · exact UInt64.le_of_lt (appDecrypt_newer hdecrypt seq hseq)
    · change state.store.retained.nextSend ≤ if snapshot.sendSeq = uint64Max then
        state.store.retained.nextSend else snapshot.sendSeq + 1
      split
      · exact UInt64.le_refl _
      · rename_i hmax
        rw [← hsend]
        exact UInt64.le_of_lt (lt_add_one_of_ne_max hmax)
  | committed traffic wire hcommits hretained =>
    obtain ⟨sid, hretained⟩ := hretained
    refine .inr ⟨traffic, .full wire hcommits ?_, ?_⟩
    · obtain ⟨view, status, conn, -, hworker, -⟩ := hcommits.delivered
      have hverified := h.finished wire (by rw [hworker]; rfl) hcommits.pending.1
      rwa [show state.store.retained.pendingKeys = traffic from hcommits.pending.2] at hverified
    · rw [hretained]
      exact ⟨rfl, rfl, rfl⟩
  | resumed traffic hresumes hquiet hretained =>
    obtain ⟨sid, hretained⟩ := hretained
    rw [hretained]
    exact .inr ⟨traffic, .resumed hresumes, rfl, rfl, rfl⟩

/-- The worker answers a frame only in the section that moves both counters. -/
theorem app7_answered {view : WorkerView} {epoch epoch' : ℕ} {snapshot : AppSnapshot} {wire : Bytes}
    (hworker : state.worker = .app7 epoch snapshot) (hstep : state.workerStep platform view = some next)
    (hnext : next.worker = .jobDone .phase7AppC2p epoch' .success wire) :
    state.store.phase7Authenticated = true ∧ snapshot.sendSeq ≠ uint64Max ∧ ∃ accepted plaintext,
      State.appDecrypt platform view snapshot.keys.centralToPeripheral snapshot.sid snapshot.last
        snapshot.wire = .ok (accepted, plaintext) ∧
      next.store = state.store.storeCounters accepted snapshot.sendSeq := by
  rw [State.workerStep, hworker] at hstep
  cases hstep
  cases hanswer : State.answerFrame platform view State.testReply snapshot.keys snapshot.sid snapshot.last
      snapshot.sendSeq snapshot.wire with
  | error status =>
    simp only [State.runApp7, hanswer, State.failJob, State.finish] at hnext
    cases hnext
    exact absurd hanswer answerFrame_ne_success
  | ok result =>
    obtain ⟨accepted, answer⟩ := result
    obtain ⟨plaintext, -, hdecrypt, -⟩ := answerFrame_eq_ok hanswer
    simp only [State.runApp7, hanswer, State.failJob, State.finish] at hnext ⊢
    split at hnext
    · rename_i hlive
      split at hnext
      · cases hnext
      · rename_i hmax
        refine ⟨hlive.2, hmax, accepted, plaintext, hdecrypt, ?_⟩
        rw [if_pos hlive, if_neg hmax]
    · cases hnext

/-- **What one step of v0.8 may do with keys.** -/
theorem Keyed.keyStep (h : Keyed platform past state) (hversion : platform.version = Resumption.pqResumeV08)
    (hstep : Legacy.step platform state action = some next) : KeyStep platform past state action next where
  installed := h.continues hversion hstep
  handed := (step_moved h.slot hversion h.settled h.serial hstep).settled
  used epoch snapshot hworker :=
    ⟨(h.framing epoch snapshot hworker).2.1, (h.framing epoch snapshot hworker).2.2.1⟩
  answered := by
    rintro view epoch epoch' snapshot wire rfl hworker hnext
    obtain ⟨hlive, hmax, accepted, plaintext, hdecrypt, hstore⟩ := app7_answered hworker hstep hnext
    have hagrees := (h.framing epoch snapshot hworker).2.2.2 hlive
    rw [hagrees.last] at hdecrypt
    rw [hstore]
    refine ⟨hagrees, hagrees.keys.symm, ⟨accepted, rfl, appDecrypt_newer hdecrypt⟩, ?_⟩
    change state.store.retained.nextSend < if snapshot.sendSeq = uint64Max then
      state.store.retained.nextSend else snapshot.sendSeq + 1
    rw [if_neg hmax, ← hagrees.sendSeq]
    exact lt_add_one_of_ne_max hmax

/-- **The sequence spaces restart only with new keys.** -/
theorem Keyed.spaces (h : Keyed platform past state) (hversion : platform.version = Resumption.pqResumeV08)
    (hrun : run (Legacy.step platform) State.boot past = some state) {more : List Action}
    (hmore : run (Legacy.step platform) state more = some next)
    (hmeets : Meets (Legacy.step platform) (Uninterrupted platform) state more)
    (hauthenticated : next.store.retained.authenticated = true) :
    state.store.retained.Continues next.store.retained := by
  have hends : (∃ past, run (Legacy.step platform) State.boot past = some next ∧
      Keyed platform past next) ∧ (next.store.retained.authenticated = true →
        state.store.retained.Continues next.store.retained) := by
    refine run_invariant_of_meets (P := fun s ↦ (∃ past, run (Legacy.step platform) State.boot past = some s ∧
      Keyed platform past s) ∧ (s.store.retained.authenticated = true →
        state.store.retained.Continues s.store.retained)) ?_ ⟨⟨past, hrun, h⟩, .refl⟩ hmeets hmore
    rintro s action t ⟨⟨before, hbefore, hkeyed⟩, hcontinues⟩ hquiet hstep
    refine ⟨⟨before ++ [action], ?_, hkeyed.step hversion hbefore hstep⟩, fun hlive ↦ ?_⟩
    · rw [run_append, hbefore, Option.bind_some, run_cons, hstep]
      rfl
    · rcases hkeyed.continues hversion hstep hlive with hsame | ⟨traffic, horigin, -⟩
      · exact (hcontinues hsame.authenticated).trans hsame
      · refine absurd ?_ (hquiet t hstep traffic)
        cases horigin with
        | full wire hcommits _ => exact .inl ⟨wire, hcommits⟩
        | resumed hresumes => exact .inr hresumes
  exact hends.2 hauthenticated

end Spaces

/-- **Key installation in v0.8.**  In every run, the keys of the data path are installed by the commit of a
verified full handshake whose FINISHED_P was queued, or by the handover of a resumption that was committed;
the two sequence spaces go on until then, and no frame is processed under other keys.  A handover wipes the
keys and the IVs of the service, and whatever is called after it, a second one needs a second commit. -/
theorem key_installation (platform : Platform) (hversion : platform.version = Resumption.pqResumeV08) :
    (∀ past state action next, run (step platform) State.boot past = some state →
      step platform state action = some next → KeyStep platform past state action next) ∧
    (∀ past state more next, run (step platform) State.boot past = some state →
      run (step platform) state more = some next → Meets (step platform) (Uninterrupted platform) state more →
      next.store.retained.authenticated = true →
        state.store.retained.Continues next.store.retained) ∧
    ∀ service keys link after,
      Resumption.pqResumeServiceTakeHybrid Resumption.pqResumeV08 service link = (some keys, after) →
      after.core.session.keys = Resumption.Keys.zero ∧ ∀ calls,
        (Resumption.serviceMachine Resumption.pqResumeV08 platform.crypto platform.aead).Along
          (fun service call ↦ ¬service.Commits platform.crypto platform.aead call) after calls →
        ∀ link, (Resumption.pqResumeServiceTakeHybrid Resumption.pqResumeV08
          ((Resumption.serviceMachine Resumption.pqResumeV08 platform.crypto platform.aead).run after calls)
          link).1 = none := by
  refine ⟨fun past state action next hrun hstep ↦ (keyed_run hversion hrun).keyStep hversion hstep,
    fun past state more next hrun hmore hmeets hlive ↦
      (keyed_run hversion hrun).spaces hversion hrun hmore hmeets hlive, ?_⟩
  intro service keys link after htake
  obtain ⟨hsettled, hwiped, -⟩ := Resumption.settled_takeHybrid htake
  refine ⟨hwiped, fun calls halong link ↦ ?_⟩
  have hempty := Machine.run_invariant_of_along _ (P := fun service ↦ service.hybridPending = false)
    (fun service call hempty hcommit ↦ Resumption.handover_step hempty hcommit) hsettled.empty halong
  rw [Resumption.takeHybrid_of_empty hempty]

/-! ## A full handshake -/

/-- A v0.8 boot with test primitives. -/
def hybridPlatform : Platform := samplePlatform Resumption.pqResumeV08

/-- A handshake up to READY7_AUTH. -/
def startedHybrid : List Action :=
  linkUp 1 ++ [startAuth 1] ++ List.replicate 5 (.worker (sampleView true))

/-- The FINISHED_C of that handshake. -/
def hybridFinishedC : Block 32 :=
  ((run (step hybridPlatform) State.boot startedHybrid).bind fun state ↦
    pqPhase7ComputeFinishedC polynomialCrypto {} Resumption.pqResumeV08 state.store.phase7Keys.finishedC
      state.store.phase7TranscriptHash).getD (.zero 32)

/-- The handshake up to the delivery of FINISHED_P. -/
def committingHybrid : List Action :=
  startedHybrid ++ [.finishedC 1 hybridFinishedC] ++ List.replicate 4 (.worker (sampleView true))

/-- The delivery installs the keys of that handshake. -/
theorem key_installation_full :
    ∃ state next, run (step hybridPlatform) State.boot committingHybrid = some state ∧
      step hybridPlatform state (.worker (sampleView true)) = some next ∧
      state.store.retained.authenticated = false ∧ next.store.retained.authenticated = true ∧
      KeyStep hybridPlatform committingHybrid state (.worker (sampleView true)) next := by
  obtain ⟨state, next, hrun, hstep, htest⟩ := @exists_last_step hybridPlatform committingHybrid
    (.worker (sampleView true)) (fun state next ↦
      !state.store.retained.authenticated && next.store.retained.authenticated) (by decide +kernel)
  rw [Bool.and_eq_true, Bool.not_eq_true'] at htest
  exact ⟨state, next, hrun, hstep, htest.1, htest.2, (key_installation hybridPlatform rfl).1 _ _ _ _ hrun hstep⟩

end PqBleHandshake.Legacy
