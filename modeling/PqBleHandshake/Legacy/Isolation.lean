import PqBleHandshake.Legacy.Slot

/-!
# Phase 7 jobs and the connection after theirs

In v0.7 a result callback may be overtaken: its connection ends and a later one starts a handshake of its
own while the callback is under way.  That handshake is spared unless the callback then resets the store.
-/

namespace PqBleHandshake.Legacy

open Foundation

namespace State

/-- The worker is busy with a Phase 7 job of an earlier connection. -/
def Overtaken (state : State) : Prop :=
  state.worker.isHybrid = true ∧ state.workerGeneration ≠ state.main.connectionGeneration

instance (state : State) : Decidable state.Overtaken := inferInstanceAs (Decidable (_ ∧ _))

/-- An overtaken callback is about to reset the store, which holds a session of the current connection. -/
def Collides (state : State) : Prop :=
  state.Overtaken ∧ state.worker = .reset7 ∧ state.main.phase7State ≠ .idle

instance (state : State) : Decidable state.Collides := inferInstanceAs (Decidable (_ ∧ _))

end State

/-- The step of an overtaken worker leaves the current connection alone: nothing is notified on it, the
reference of its job stays, and a Phase 7 session it started is not touched. -/
structure Spares (state next : State) : Prop where
  notified : ∃ sent, next.outbox = sent ++ state.outbox ∧
    ∀ entry ∈ sent, state.main.currentConn ≠ some entry.1
  queued : state.Waits → next.main.cryptoJobConn = state.main.cryptoJobConn
  session : state.main.phase7State ≠ .idle →
    next.main = state.main ∧ next.store = state.store ∧ next.host = state.host

/-- Every step of an overtaken worker leaves the current connection alone. -/
def SparesLater (platform : Platform) (state : State) (action : Action) : Prop :=
  ∀ view, action = .worker view → state.Overtaken →
    ∀ next, step platform state action = some next → Spares state next

/-- A step of the worker thread. -/
def Action.isWorker : Action → Bool
  | .worker _ => true
  | _ => false

/-- No step of an overtaken worker collides with the current connection. -/
def KeepsClear (state : State) (action : Action) : Prop :=
  action.isWorker = true → ¬state.Collides

instance (state : State) (action : Action) : Decidable (KeepsClear state action) :=
  inferInstanceAs (Decidable (_ → _))

/-- What holds between any two steps of v0.7: a session that starts while an overtaken callback is under
way has no keys that the callback could promote. -/
structure Apart (state : State) : Prop where
  slot : Slot state
  traffic : state.Overtaken → state.main.phase7State ≠ .idle → state.store.phase7TrafficPending = false

theorem apart_boot : Apart State.boot :=
  ⟨slot_boot, fun hovertaken ↦ absurd hovertaken.1 Bool.false_ne_true⟩

section Steps

variable {platform : Platform} {state next : State} {view : WorkerView} {conn : Conn}

/-- Until its result is taken up, an overtaken job leaves the later connection without a session. -/
theorem Slot.phase7State_eq_idle (h : Slot state) (hovertaken : state.Overtaken)
    (hjob : state.worker.inJob = true ∨ state.worker.atResult = true) :
    state.main.phase7State = .idle := by
  refine (h.stale (.inr hjob) ?_).1
  rw [(h.alone hjob).2]
  exact hovertaken.2

theorem Slot.conn_ne (h : Slot state) (hovertaken : state.Overtaken)
    (hconn : state.worker.conn = some conn) : state.main.currentConn ≠ some conn :=
  (h.conn conn hconn).resolve_left hovertaken.2

/-- The handlers keep the promise: a START clears what an earlier session left pending. -/
theorem Apart.call (h : Apart state) (hversion : ¬platform.resumption) {action : Action}
    (hcall : state.call platform action = some next) : Apart next := by
  refine ⟨h.slot.call hcall, ?_⟩
  have hrefused : ∀ {next : State}, state.Refused next →
      next.Overtaken → next.main.phase7State ≠ .idle → next.store.phase7TrafficPending = false := by
    rintro next ⟨generation, transfer, rfl, -⟩
    exact h.traffic
  unfold State.call at hcall
  split at hcall
  · split at hcall <;> cases hcall
    exact fun _ hne ↦ absurd rfl hne
  · cases hcall
    unfold State.disconnected
    dsimp only
    split_ifs
    · exact fun _ hne ↦ absurd rfl hne
    · exact fun _ hne ↦ absurd rfl hne
    · exact h.traffic
    · exact h.traffic
  · cases hcall
    unfold State.cccConfigChanged
    dsimp only
    split
    · exact h.traffic
    · exact fun _ hne ↦ absurd rfl hne
  · cases hcall
    exact hrefused State.writeCiphertext_refused
  · split at hcall <;> cases hcall
    rename_i conn mode sid centralKey mtu _
    obtain hsame | ⟨-, -, -, -, store, hsubmit, hnext⟩ := @State.handleStart_cases state conn mode sid
      centralKey mtu
    · exact hrefused hsame
    rw [hnext]
    obtain ⟨-, -, ⟨-, rfl⟩ | ⟨hmode, -⟩⟩ := State.submitStart_eq_ok hsubmit
    · exact fun _ _ ↦ rfl
    · exact fun _ hne ↦ absurd (if_neg hmode) hne
  · split at hcall <;> cases hcall
    rename_i conn mode payload _
    obtain hsame | ⟨-, -, -, store, hsubmit, hnext⟩ :=
      @State.handlePhase5WorkerCommand_cases state conn mode payload
    · exact hrefused hsame
    rw [hnext]
    obtain ⟨-, rfl⟩ := submitPhase5Command_eq_ok hsubmit
    exact h.traffic
  · cases hcall
    rename_i conn payload
    obtain hsame | ⟨-, hphase7, store, hsubmit, hnext⟩ :=
      @State.handlePhase7FinishedC_cases state conn payload
    · exact hrefused hsame
    rw [hnext]
    obtain ⟨-, rfl⟩ := submitPhase7FinishedC_eq_ok_iff.mp hsubmit
    exact fun hovertaken _ ↦ h.traffic hovertaken (by rw [hphase7]; exact nofun)
  · cases hcall
    rename_i conn data offset
    obtain hsame | ⟨-, ⟨hphase7, store, hsubmit, hnext⟩ | ⟨-, -, store, hsubmit, hnext⟩⟩ :=
      @State.writeSecureData_cases state conn data offset
    · exact hrefused hsame
    · rw [hnext]
      obtain ⟨-, rfl⟩ := submitPhase7C2p_eq_ok_iff.mp hsubmit
      exact fun hovertaken _ ↦ h.traffic hovertaken (by rw [hphase7]; exact nofun)
    · rw [hnext]
      exact fun _ hne ↦ absurd rfl hne
  · rw [if_neg (fun hresume ↦ hversion hresume.1)] at hcall
    cases hcall
  · rw [if_neg hversion] at hcall
    cases hcall
  · rw [if_neg hversion] at hcall
    cases hcall
  · cases hcall

theorem Apart.hostStep (h : Apart state) (hstep : state.hostStep = some next) : Apart next := by
  refine ⟨h.slot.hostStep hstep, ?_⟩
  unfold State.hostStep at hstep
  split at hstep <;> cases hstep
  · exact h.traffic
  · exact fun _ _ ↦ rfl
  · exact fun _ hne ↦ absurd rfl hne
  · split
    · exact fun _ _ ↦ rfl
    · exact h.traffic

/-- The commit in v0.7, which needs pending keys. -/
theorem commitPhase7_cases (hversion : ¬platform.resumption) :
    state.commitPhase7 platform view = (false, state) ∨
      state.store.phase7TrafficPending = true ∧ state.commitPhase7 platform view =
        (true, { state with
          store := state.store.promote, installed := state.store.phase7PendingTrafficKeys }) := by
  unfold State.commitPhase7
  split
  · exact .inl rfl
  rename_i hready
  rw [if_neg hversion]
  exact .inr ⟨(commitReady_eq_ok_iff.mp hready).2.1, rfl⟩

/-- A section of an overtaken callback finds another connection and only moves on. -/
theorem Slot.writePhase7_eq (h : Slot state) (hovertaken : state.Overtaken)
    (hconn : state.worker.conn = some conn) (phase7 : Phase7State) (worker : Worker) :
    state.writePhase7 conn phase7 worker = { state with worker } := by
  rw [State.writePhase7, if_neg (h.conn_ne hovertaken hconn)]

/-- What a step of an overtaken callback does once it holds its connection. -/
theorem Apart.callback_cases (h : Apart state) (hversion : ¬platform.resumption)
    (hovertaken : state.Overtaken) (hjob : ¬(state.worker.inJob = true ∨ state.worker.atResult = true))
    (hstep : state.workerStep platform view = some next) :
    (∃ sent worker, next = { state with outbox := sent ++ state.outbox, worker } ∧
        ∀ entry ∈ sent, state.worker.conn = some entry.1) ∨
      (state.main.phase7State = .idle ∨ state.worker = .reset7) ∧ next.main = state.main ∧
        next.outbox = state.outbox ∧ next.store.phase7TrafficPending = false := by
  have hnobody : ∀ entry ∈ ([] : List (Conn × Bytes)), state.worker.conn = some entry.1 :=
    fun _ hentry ↦ absurd hentry List.not_mem_nil
  unfold State.workerStep at hstep
  cases hworker : state.worker <;> rw [hworker] at hstep hjob hnobody
  all_goals try exact absurd (.inl rfl) hjob
  case idle => exact absurd hovertaken.1 (by rw [hworker]; exact Bool.false_ne_true)
  case failed5 => exact absurd hovertaken.1 (by rw [hworker]; exact Bool.false_ne_true)
  case reset5 => exact absurd hovertaken.1 (by rw [hworker]; exact Bool.false_ne_true)
  case callback => exact absurd (.inr rfl) hjob
  case deliver mode valid status wire conn =>
    cases hstep
    rw [State.deliver, if_neg (fun hserial ↦ hversion hserial.1)]
    refine .inl ⟨_, State.afterDelivery mode valid view.sent conn, rfl, fun entry hentry ↦ ?_⟩
    obtain ⟨frame, -, rfl⟩ := Option.map_eq_some_iff.mp (Option.mem_toList.mp hentry)
    rfl
  case ready7 conn =>
    cases hstep
    exact .inl ⟨[], _, h.slot.writePhase7_eq hovertaken (by rw [hworker]; rfl) _ _, hnobody⟩
  case promoted7 conn =>
    cases hstep
    exact .inl ⟨[], _, h.slot.writePhase7_eq hovertaken (by rw [hworker]; rfl) _ _, hnobody⟩
  case failed7 conn =>
    cases hstep
    exact .inl ⟨[], _, h.slot.writePhase7_eq hovertaken (by rw [hworker]; rfl) _ _, hnobody⟩
  case commit7 conn =>
    have hnext : next = { (state.commitPhase7 platform view).2 with
        worker := if (state.commitPhase7 platform view).1 then .promoted7 conn else .failed7 conn } :=
      (Option.some.inj hstep).symm
    rw [hnext]
    obtain hfailed | ⟨htraffic, hcommitted⟩ := @commitPhase7_cases platform state view hversion
    · rw [hfailed]
      exact .inl ⟨[], _, rfl, hnobody⟩
    · rw [hcommitted]
      refine .inr ⟨.inl ?_, rfl, rfl, rfl⟩
      by_contra hne
      exact Bool.noConfusion (htraffic.symm.trans (h.traffic hovertaken hne))
  case reset7 =>
    cases hstep
    exact .inr ⟨.inr rfl, rfl, rfl, rfl⟩

/-- **An overtaken worker that is not about to reset the store spares the later connection.** -/
theorem Apart.spares (h : Apart state) (hversion : ¬platform.resumption) (hclear : ¬state.Collides)
    (hovertaken : state.Overtaken) (hstep : state.workerStep platform view = some next) :
    Spares state next := by
  have hquiet : next.outbox = state.outbox →
      (state.Waits → next.main.cryptoJobConn = state.main.cryptoJobConn) →
      state.main.phase7State = .idle → Spares state next :=
    fun houtbox hqueued hidle ↦ ⟨⟨[], houtbox, fun _ hentry ↦ absurd hentry List.not_mem_nil⟩, hqueued,
      fun hne ↦ absurd hidle hne⟩
  by_cases hjob : state.worker.inJob = true
  · obtain ⟨hnext, -⟩ := inJob_step hjob (h.slot.active.trans hjob) hstep
    rw [hnext] at hquiet ⊢
    exact hquiet rfl (fun _ ↦ rfl) (h.slot.phase7State_eq_idle hovertaken (.inl hjob))
  by_cases hresult : state.worker.atResult = true
  · have hwaits : ¬state.Waits := by
      intro hwaits
      refine hovertaken.2 (((h.slot.alone (.inr hresult)).2).symm.trans (h.slot.owner hwaits))
    cases hworker : state.worker <;> rw [hworker] at hresult
    all_goals try exact Bool.noConfusion hresult
    rw [State.workerStep, hworker] at hstep
    cases hstep
    refine hquiet rfl (fun hwait ↦ absurd hwait hwaits) ?_
    exact h.slot.phase7State_eq_idle hovertaken (.inr (by rw [hworker]; rfl))
  obtain ⟨sent, worker, hnext, hsent⟩ | ⟨hidle, hmain, houtbox, -⟩ :=
    h.callback_cases hversion hovertaken (not_or.mpr ⟨hjob, hresult⟩) hstep
  · rw [hnext]
    exact ⟨⟨sent, rfl, fun entry hentry ↦ h.slot.conn_ne hovertaken (hsent entry hentry)⟩,
      fun _ ↦ rfl, fun _ ↦ ⟨rfl, rfl, rfl⟩⟩
  · refine hquiet houtbox (fun _ ↦ by rw [hmain]) ?_
    by_contra hne
    exact hclear ⟨hovertaken, hidle.resolve_left hne, hne⟩

/-- A collision is never spared: the store of the later session is reset. -/
theorem not_spares_of_collides (hcollides : state.Collides) :
    ∃ next, state.workerStep platform view = some next ∧ ¬Spares state next := by
  obtain ⟨-, hworker, hne⟩ := hcollides
  refine ⟨_, by rw [State.workerStep, hworker], fun hspares ↦ ?_⟩
  have hkept := congrArg Store.phase7Epoch (hspares.session hne).2.1
  exact absurd hkept (Nat.succ_ne_self _)

/-- Between taking a job and the end of its callback the worker stays with that job. -/
theorem isHybrid_of_step (h : Slot state) (hversion : ¬platform.resumption)
    (hworker : state.worker ≠ .idle) (hstep : state.workerStep platform view = some next)
    (hnext : next.worker.isHybrid = true) :
    state.worker.isHybrid = true ∧ next.workerGeneration = state.workerGeneration ∧
      next.main.connectionGeneration = state.main.connectionGeneration := by
  by_cases hjob : state.worker.inJob = true
  · obtain ⟨hframe, -, -, -, hhybrid⟩ := inJob_step hjob (h.active.trans hjob) hstep
    rw [hframe]
    exact ⟨hhybrid.symm.trans hnext, rfl, rfl⟩
  unfold State.workerStep at hstep
  cases hbefore : state.worker <;> rw [hbefore] at hstep hjob
  all_goals try exact absurd rfl hjob
  case idle => exact absurd hbefore hworker
  case callback mode status wire =>
    cases hstep
    rcases resultReady_worker mode status wire with hidle | ⟨conn, -, -, hdeliver⟩
    · rw [hidle] at hnext
      exact Bool.noConfusion hnext
    · rw [hdeliver] at hnext
      exact ⟨hnext, rfl, rfl⟩
  case deliver mode valid status wire conn =>
    cases hstep
    rw [State.deliver, if_neg (fun hserial ↦ hversion hserial.1)] at hnext ⊢
    refine ⟨?_, rfl, rfl⟩
    cases mode <;> revert hnext <;> cases valid <;> cases hsent : view.sent <;>
      simp [State.afterDelivery, Worker.isHybrid, JobMode.isHybrid, JobMode.isPhase7]
  case commit7 conn =>
    have hframe : next = { (state.commitPhase7 platform view).2 with
        worker := if (state.commitPhase7 platform view).1 then .promoted7 conn else .failed7 conn } :=
      (Option.some.inj hstep).symm
    rw [hframe, (@commitPhase7_frame platform state view).1]
    exact ⟨rfl, rfl, rfl⟩
  all_goals
    cases hstep
    first | exact Bool.noConfusion hnext | exact ⟨rfl, rfl, rfl⟩

theorem takeJob_cases (hstep : state.takeJob = some next) :
    next.main = state.main ∧ (next.worker = state.worker ∨
      state.InFlight ∧ next.workerGeneration = state.jobGeneration) := by
  unfold State.takeJob at hstep
  dsimp only at hstep
  split at hstep
  · cases hstep
  rename_i hpending
  split at hstep <;> cases hstep
  · exact ⟨rfl, .inl rfl⟩
  · exact ⟨rfl, .inr ⟨.inl (by simpa using hpending), rfl⟩⟩

theorem Apart.workerStep (h : Apart state) (hversion : ¬platform.resumption)
    (hstep : state.workerStep platform view = some next) : Apart next := by
  refine ⟨h.slot.workerStep hstep, fun hovertaken hne ↦ ?_⟩
  by_cases hworker : state.worker = .idle
  · rw [State.workerStep, hworker] at hstep
    obtain ⟨hmain, hsame | ⟨hflight, htaken⟩⟩ := takeJob_cases hstep
    · exact absurd hovertaken.1 (by rw [hsame, hworker]; exact Bool.false_ne_true)
    · rw [hmain] at hne
      refine absurd (h.slot.stale hflight ?_).1 hne
      rw [← htaken, ← hmain]
      exact hovertaken.2
  obtain ⟨hhybrid, htaken, hgeneration⟩ :=
    isHybrid_of_step h.slot hversion hworker hstep hovertaken.1
  have hbefore : state.Overtaken := ⟨hhybrid, by rw [← htaken, ← hgeneration]; exact hovertaken.2⟩
  by_cases hjob : state.worker.inJob = true
  · obtain ⟨hframe, -⟩ := inJob_step hjob (h.slot.active.trans hjob) hstep
    rw [hframe] at hne
    exact absurd (h.slot.phase7State_eq_idle hbefore (.inl hjob)) hne
  by_cases hresult : state.worker.atResult = true
  · cases hcallback : state.worker <;> rw [hcallback] at hresult
    all_goals try exact Bool.noConfusion hresult
    rename_i mode status wire
    rw [State.workerStep, hcallback] at hstep
    cases hstep
    rcases resultReady_worker mode status wire with hidle | ⟨conn, hcurrent, -, -⟩
    · exact absurd hovertaken.1 (by rw [hidle]; exact Bool.false_ne_true)
    · have hsame := (h.slot.alone (.inr (by rw [hcallback]; rfl))).2
      exact absurd (hsame.symm.trans (h.slot.owner (waits_of_jobCurrent hcurrent))) hbefore.2
  obtain ⟨sent, worker, hframe, -⟩ | ⟨-, -, -, htraffic⟩ :=
    h.callback_cases hversion hbefore (not_or.mpr ⟨hjob, hresult⟩) hstep
  · rw [hframe] at hne ⊢
    exact h.traffic hbefore hne
  · exact htraffic

/-- **Every step of v0.7 keeps the invariant.** -/
theorem Apart.step {action : Action} (h : Apart state) (hversion : ¬platform.resumption)
    (hstep : step platform state action = some next) : Apart next := by
  unfold Legacy.step at hstep
  split at hstep
  · exact h.workerStep hversion hstep
  · exact h.hostStep hstep
  · rw [if_neg hversion] at hstep
    cases hstep
  · split at hstep
    · exact h.call hversion hstep
    · cases hstep

end Steps

/-- **Isolation of Phase 7 jobs.**  A run of v0.7 leaves every later connection alone exactly when no
overtaken callback resets the store under a session of the later connection. -/
theorem phase7_isolation (platform : Platform) (hversion : platform.version = pqV07)
    (actions : List Action) :
    Meets (step platform) KeepsClear State.boot actions ↔
      Meets (step platform) (SparesLater platform) State.boot actions := by
  have hold : ¬platform.resumption := by
    intro hresumption
    exact absurd (hversion.symm.trans hresumption) (by decide)
  refine meets_iff (fun state action h ↦ ⟨?_, ?_⟩) (fun state action next h _ ↦ h.step hold) apart_boot
    actions
  · rintro hclear view rfl hovertaken next hstep
    exact h.spares hold (hclear rfl) hovertaken hstep
  · intro hspares hworker hcollides
    cases action <;> try exact Bool.noConfusion hworker
    rename_i view
    obtain ⟨next, hstep, hnot⟩ := @not_spares_of_collides platform state view hcollides
    exact hnot (hspares view rfl hcollides.1 next hstep)

/-! ## Two runs -/

/-- A boot with test primitives. -/
def samplePlatform (version : UInt8) : Platform where
  version := version
  crypto := polynomialCrypto
  aead := polynomialAead
  publicKey := List.replicate 1184 0
  decaps := fun _ ↦ some (.zero 32)

/-- The key of a Central in a START7_AUTH frame. -/
def samplePublicKey : Bytes := 0x04 :: List.replicate 64 0

/-- A link on which every library call succeeds; `sent` is the result of the notification. -/
def sampleView (sent : Bool) : WorkerView where
  keyPair := some ⟨samplePublicKey, fun _ ↦ some (.zero 32)⟩
  iv := some (.zero 12)
  mtu := 247
  sent := sent
  peer := { l4 := true, subscribed := true, mtu := 247, uptime := 0, bonded := true, peer := .zero 7 }
  now := 0

/-- A connection subscribes and sends a ciphertext. -/
def linkUp (conn : Conn) : List Action :=
  [.connected conn 0 0, .host, .host, .ccc true 0,
    .ciphertext conn ⟨0, 3, List.replicate 508 0⟩, .ciphertext conn ⟨1, 3, List.replicate 508 0⟩,
    .ciphertext conn ⟨2, 3, List.replicate 72 0⟩]

/-- START7_AUTH after the ciphertext. -/
def startAuth (conn : Conn) : Action := .start conn .phase7AuthStart (.zero 16) samplePublicKey 247

/-- A disconnection with the resets after it. -/
def linkDown (conn : Conn) : List Action := [.disconnected conn 0, .host, .host]

/-- The first START is answered, and the link is replaced while the worker is inside the callback: after a
number of steps of the worker, of which the last notifies or not. -/
def overtakenActions (steps : ℕ) (sent : Bool) : List Action :=
  linkUp 1 ++ [startAuth 1] ++ List.replicate steps (.worker (sampleView sent)) ++ linkDown 1 ++
    linkUp 2 ++ [startAuth 2]

/-- A callback that is past its notification spares the handshake of the next connection. -/
theorem phase7_isolation_after_delivery :
    Meets (step (samplePlatform pqV07)) (SparesLater (samplePlatform pqV07)) State.boot
        (overtakenActions 5 true ++ [.worker (sampleView true)]) ∧
      ((run (step (samplePlatform pqV07)) State.boot (overtakenActions 5 true)).any fun state ↦
        state.Overtaken ∧ state.main.phase7State = .cryptoBusy) = true :=
  ⟨(phase7_isolation (samplePlatform pqV07) rfl _).mp (by decide +kernel), by decide +kernel⟩

/-- What a test finds in the last step of a run. -/
theorem exists_last_step {platform : Platform} {actions : List Action} {action : Action}
    {test : State → State → Bool}
    (h : ((run (step platform) State.boot actions).any fun state ↦
      (step platform state action).any fun next ↦ test state next) = true) :
    ∃ state next, run (step platform) State.boot actions = some state ∧
      step platform state action = some next ∧ test state next = true := by
  obtain ⟨state, hrun, hlast⟩ := (Option.any_eq_true _ _).mp h
  obtain ⟨next, hstep, htest⟩ := (Option.any_eq_true _ _).mp hlast
  exact ⟨state, next, hrun, hstep, htest⟩

/-- A delivery that fails cancels the queued START of the next connection. -/
theorem overtaken_delivery_cancels :
    ∃ state next, run (step (samplePlatform pqV07)) State.boot
        (overtakenActions 4 false ++ [.worker (sampleView false), .worker (sampleView false)]) =
          some state ∧
      step (samplePlatform pqV07) state (.worker (sampleView false)) = some next ∧
      state.Overtaken ∧ state.main.phase7State = .cryptoBusy ∧ State.jobValid state.store ∧
      ¬State.jobValid next.store ∧ ¬Spares state next := by
  obtain ⟨state, next, hrun, hstep, htest⟩ := @exists_last_step (samplePlatform pqV07)
    (overtakenActions 4 false ++ [.worker (sampleView false), .worker (sampleView false)])
    (.worker (sampleView false))
    (fun state next ↦ decide ((state.Overtaken ∧ state.main.phase7State = .cryptoBusy ∧
      State.jobValid state.store ∧ ¬State.jobValid next.store) ∧
        next.store.phase7Epoch ≠ state.store.phase7Epoch)) (by decide +kernel)
  obtain ⟨⟨hovertaken, hbusy, hvalid, hcancelled⟩, hepoch⟩ := of_decide_eq_true htest
  refine ⟨state, next, hrun, hstep, hovertaken, hbusy, hvalid, hcancelled, fun hspares ↦ hepoch ?_⟩
  exact congrArg Store.phase7Epoch (hspares.session (by rw [hbusy]; exact nofun)).2.1

end PqBleHandshake.Legacy
