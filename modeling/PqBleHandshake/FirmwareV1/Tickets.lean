import PqBleHandshake.FirmwareV1.Agreement
import PqBleHandshake.Resumption.TicketCalls

/-!
# The ticket while a full handshake runs

The firmware of v1.1 reaches the ticket only through the calls of the resume service.  A step makes one call at
most, and only the commit of a full handshake issues a ticket.
-/

namespace PqBleHandshake.FirmwareV1

open Foundation Resumption

/-- The call of a callback into the service. -/
def State.Issues (state : State) : Action → ServiceCall → Prop
  | .writeControl conn data _ view, .control conn' wire input =>
    isServiceWire data ∧ state.resumeReady conn ∧ conn' = conn ∧ wire = data ∧ input = view.control
  | .writeControl .., .abort .. | .writeCcc .., .abort .. | .cccConfigChanged .., .abort ..
  | .serviceAbort .., .abort .. => True
  | .bondChanged _, .bondChanged _ => True
  | .expire clock _ _, .expire clock' _ _ => clock' = clock
  | .connected _ _ clock _, .connected _ _ clock' _ => clock' = clock
  | .disconnected .., .disconnected .. => True
  | _, _ => False

/-- What the commit of a full handshake hands to the service. -/
def State.commitCall (platform : Platform) (state : State) (committed : Store) (view : WorkerView) :
    ServiceAnswer × Service :=
  pqResumeServiceFull platform.version platform.crypto view.faults state.service (State.fullKeys committed) view.issue
    view.issue.uptime

/-- The worker is about to settle the verified FINISHED_C of a handshake. -/
def State.Finishing (state : State) : Prop :=
  (∃ wire, state.worker = .cp3Callback false .success wire) ∨
    ∃ conn generation sent, state.worker = .cp3Settle false .success conn generation sent

/-- A step leaves the service alone, makes the call of its callback, or commits a full handshake. -/
def ServiceStep (platform : Platform) (state : State) (action : Action) (next : State) : Prop :=
  next.service = state.service ∨
    (∃ call, state.Issues action call ∧
      next.service = ((serviceMachine platform.version platform.crypto platform.aead).step state.service call).2) ∨
    ∃ view committed, action = .worker view ∧ state.Finishing ∧ state.store.commitV1Cp3 = .ok committed ∧
      next.service = (state.commitCall platform committed view).2 ∧
      ((state.commitCall platform committed view).1.ok = true → next.main.v1Cp3State = .appSecure)

section Service

variable {platform : Platform} {state : State}

theorem service_handleV1Control (conn : Conn) (data : Bytes) (view : ControlView) :
    (state.handleV1Control platform conn data view).2.service = state.service := by
  unfold State.handleV1Control answered
  repeat' split
  all_goals first
    | rfl
    | skip
  · unfold State.handleV1Cp4
    dsimp only
    repeat' split
    all_goals rfl
  · unfold State.handleV1Cp3Start
    dsimp only
    repeat' split
    all_goals rfl
  · unfold State.handleV1Cp3FinishedC
    dsimp only
    repeat' split
    all_goals rfl
  · unfold State.handleV1Cp2Start
    dsimp only
    repeat' split
    all_goals rfl

theorem service_serviceAbort (owner : Option Conn) (now : ℤ) :
    (state.serviceAbort platform owner now).service = state.service ∨
      (state.serviceAbort platform owner now).service =
        ((serviceMachine platform.version platform.crypto platform.aead).step state.service (.abort owner now)).2 := by
  unfold State.serviceAbort
  split_ifs
  · exact .inr rfl
  · exact .inl rfl

theorem serviceStep_of_abort {action : Action} {current next : State} {owner : Option Conn} {now : ℤ}
    (hissues : state.Issues action (.abort owner now)) (hcurrent : current.service = state.service)
    (hnext : next.service = (current.serviceAbort platform owner now).service) :
    ServiceStep platform state action next := by
  rcases @service_serviceAbort platform current owner now with hsame | hcall
  · exact .inl (hnext.trans (hsame.trans hcurrent))
  · rw [hcurrent] at hcall
    exact .inr (.inl ⟨_, hissues, hnext.trans hcall⟩)

theorem serviceStep_cccConfigChanged {action : Action} {enabled : Bool} {now : ℤ}
    (hissues : ∀ owner, state.Issues action (.abort owner now)) :
    ServiceStep platform state action (state.cccConfigChanged platform enabled now) := by
  unfold State.cccConfigChanged
  dsimp only
  split_ifs
  · exact .inl rfl
  · refine serviceStep_of_abort (hissues state.main.currentConn) ?_ rfl
    rfl

theorem serviceStep_writeControl (conn : Conn) (data : Bytes) (offset : ℕ) (view : ControlView) :
    ServiceStep platform state (.writeControl conn data offset view)
      (state.writeControl platform conn data offset view).2 := by
  have hrefused : state.refuseControl.service = state.service := by
    unfold State.refuseControl
    split_ifs <;> rfl
  unfold State.writeControl
  dsimp only
  split_ifs with hgate hoffset hwire hbusy hfull hframe
  · exact .inl hrefused
  · exact .inl hrefused
  · unfold State.handleService
    split_ifs with hready
    · exact .inr (.inl ⟨.control conn data view.control, ⟨hwire.2, hready, rfl, rfl, rfl⟩, rfl⟩)
    · exact .inl rfl
  · exact @serviceStep_of_abort platform state _ state _ (some conn) view.uptime trivial rfl rfl
  · exact .inl rfl
  · exact .inl (service_handleV1Control conn data view)
  · exact .inl rfl

theorem service_drain (state : State) : state.drain.service = state.service := rfl

theorem service_commitV1Cp3 {view : WorkerView} {result : Bool × State}
    (h : state.commitV1Cp3 platform view = result) :
    result.2.service = state.service ∨
      ∃ committed, state.store.commitV1Cp3 = .ok committed ∧
        result.2.service = (state.commitCall platform committed view).2 ∧
        result.1 = (state.commitCall platform committed view).1.ok := by
  subst h
  unfold State.commitV1Cp3
  split
  · exact .inl rfl
  · rename_i committed hcommit
    split_ifs
    · exact .inr ⟨committed, hcommit, rfl, rfl⟩
    · exact .inl rfl

theorem serviceStep_settleCp3 {current : State} (hservice : current.service = state.service)
    (hstore : current.store = state.store) {start : Bool} {status : JobStatus}
    (hfinishing : start = false → status = .success → state.Finishing) (conn : Option Conn) (generation : ℕ)
    (sent : Bool) (view : WorkerView) :
    ServiceStep platform state (.worker view)
      (current.settleCp3 platform start status conn generation sent view) := by
  have hcall : ∀ committed,
      current.commitCall platform committed view = state.commitCall platform committed view := by
    intro committed
    unfold State.commitCall
    rw [hservice]
  have hcommit : state.Finishing → ∀ next : State, next.service = (current.commitV1Cp3 platform view).2.service →
      ((current.commitV1Cp3 platform view).1 = true → next.main.v1Cp3State = .appSecure) →
      ServiceStep platform state (.worker view) next := by
    intro hfinishes next hnext hsecure
    rcases @service_commitV1Cp3 platform current view _ rfl with
      hsame | ⟨committed, hcommit, hresult, hok⟩
    · exact .inl (hnext.trans (hsame.trans hservice))
    · rw [hcall] at hresult hok
      exact .inr (.inr ⟨view, committed, rfl, hfinishes, hstore ▸ hcommit, hnext.trans hresult,
        fun hnow ↦ hsecure (hok.trans hnow)⟩)
  have hfinishes : ¬start = true → ¬(sent = false ∨ status ≠ .success ∨ current.main.v1Cp3Live conn generation
      view.last = false) → state.Finishing := by
    intro hstart hdead
    rw [not_or, not_or, not_not] at hdead
    exact hfinishing (Bool.eq_false_of_not_eq_true hstart) hdead.2.1
  unfold State.settleCp3
  dsimp only
  split_ifs with howner hdead hstart hcommitted
  · exact .inl hservice
  · exact .inl hservice
  · exact hcommit (hfinishes hstart hdead) _ rfl fun _ ↦ drain_v1Cp3State _
  · exact hcommit (hfinishes hstart hdead) _ rfl fun _ ↦ drain_v1Cp3State _
  · exact hcommit (hfinishes hstart hdead) _ rfl fun hnow ↦ absurd hnow hcommitted
  · exact .inl hservice
  · exact .inl hservice

theorem cp3Delivery_status {main : Main} {version : UInt8} {start : Bool} {status : JobStatus} {wire : Bytes}
    {view : LinkView} (h : (main.cp3Delivery version start status wire view).status = .success) :
    status = .success := by
  simp only [Main.cp3Delivery] at h
  split_ifs at h
  all_goals exact h

theorem serviceStep_callbackCp3 {start : Bool} {status : JobStatus} {wire : Bytes}
    (hworker : state.worker = .cp3Callback start status wire) (view : WorkerView) :
    ServiceStep platform state (.worker view) (state.callbackCp3 platform start status wire view).2 := by
  unfold State.callbackCp3
  dsimp only
  by_cases hreleased : start = true ∨
      (state.main.cp3Delivery platform.version start status wire view.first).status ≠ .success
  · rw [if_pos hreleased]
    exact .inl rfl
  · rw [if_neg hreleased]
    refine serviceStep_settleCp3 rfl rfl (fun hstart hstatus ↦ .inl ⟨wire, ?_⟩) _ _ _ _
    rw [hworker, hstart, cp3Delivery_status hstatus]

theorem service_pqV1Cp4JobLive (view : LinkView) : (state.pqV1Cp4JobLive view).2.service = state.service := by
  unfold State.pqV1Cp4JobLive
  split_ifs <;> rfl

/-- The sections of the worker besides those of the handshake's result. -/
theorem serviceStep_workerStep (view : WorkerView) :
    ServiceStep platform state (.worker view) (state.workerStep platform view).2 := by
  cases hworker : state.worker
  case cp3Callback start status wire =>
    rw [State.workerStep, hworker]
    exact serviceStep_callbackCp3 hworker view
  case cp3Settle start status conn generation sent =>
    rw [State.workerStep, hworker]
    refine serviceStep_settleCp3 rfl rfl (fun hstart hstatus ↦ .inr ⟨conn, generation, sent, ?_⟩) _ _ _ _
    rw [hworker, hstart, hstatus]
  case idle =>
    rw [State.workerStep, hworker]
    refine .inl ?_
    unfold State.takeJob
    split_ifs <;> rfl
  all_goals
    refine .inl ?_
    simp only [State.workerStep, hworker]
  case startResult epoch =>
    unfold State.storeStart
    repeat' split
    all_goals rfl
  case finishedTake epoch =>
    unfold State.takeHandshake
    split_ifs <;> rfl
  case finishedStore epoch handshake =>
    unfold State.storeFinished
    repeat' split
    all_goals rfl
  case cp4Live epoch => exact service_pqV1Cp4JobLive view.first
  case cp4Snapshot epoch =>
    unfold State.snapshotCp4
    dsimp only
    repeat' split
    all_goals rfl
  case cp4Recheck epoch snapshot challenge => exact service_pqV1Cp4JobLive view.first
  case cp4Encrypt epoch snapshot challenge =>
    unfold State.encryptCp4
    split <;> rfl
  case cp4Ready epoch wire =>
    unfold State.readyCp4
    dsimp only
    split_ifs <;> rfl
  case jobDone mode epoch status wire =>
    unfold State.finishJob
    rfl
  case cp4Callback status wire =>
    unfold State.callbackCp4
    dsimp only
    split_ifs <;> rfl
  case cp4Send conn generation live wire => split_ifs <;> rfl
  case cp4Settle conn generation sent =>
    unfold State.settleCp4
    dsimp only
    rw [service_drain]
    repeat' split
    all_goals rfl
  all_goals rfl

/-- **Every step makes one call at most.** -/
theorem service_step (platform : Platform) (state : State) (action : Action) :
    ServiceStep platform state action ((firmware platform).step state action).2 := by
  cases action with
  | readPublicKey conn busy view => exact .inl rfl
  | writeCiphertext conn data offset busy view =>
    refine .inl ?_
    simp only [firmware, answered]
    unfold State.writeCiphertext
    dsimp only
    repeat' split
    all_goals rfl
  | writeSecureData conn data offset view => exact .inl rfl
  | writeControl conn data offset view => exact serviceStep_writeControl conn data offset view
  | readCcc conn view => exact .inl rfl
  | writeCcc conn enabled view =>
    simp only [firmware, answered]
    unfold State.writeCcc
    split
    · exact .inl rfl
    · exact serviceStep_cccConfigChanged fun _ ↦ trivial
  | cccConfigChanged enabled now => exact serviceStep_cccConfigChanged fun _ ↦ trivial
  | serviceAbort conn now => exact @serviceStep_of_abort platform state _ state _ (some conn) now trivial rfl rfl
  | securityChanged conn secured =>
    refine .inl ?_
    simp only [firmware]
    unfold State.v1Cp2SecurityChanged
    split_ifs <;> rfl
  | bondChanged now =>
    simp only [firmware]
    unfold State.onService
    split_ifs
    · exact .inr (.inl ⟨.bondChanged now, trivial, rfl⟩)
    · exact .inl rfl
  | expire clock₁ clock₂ clock₃ =>
    simp only [firmware]
    unfold State.onService
    split_ifs
    · exact .inr (.inl ⟨.expire clock₁ clock₂ clock₃, rfl, rfl⟩)
    · exact .inl rfl
  | timeout view =>
    refine .inl ?_
    simp only [firmware]
    unfold State.v1Cp3Timeout
    split_ifs <;> rfl
  | connected conn bonded clock now =>
    simp only [firmware]
    by_cases hversion : platform.version = pqResumeV11
    · refine .inr (.inl ⟨.connected conn bonded clock now, rfl, ?_⟩)
      unfold State.connected
      exact if_pos hversion
    · refine .inl ?_
      unfold State.connected
      exact if_neg hversion
  | disconnected conn now =>
    simp only [firmware]
    unfold State.disconnected
    by_cases hcurrent : state.main.currentConn = some conn
    · simp only [if_pos hcurrent]
      by_cases hversion : platform.version = pqResumeV11
      · refine .inr (.inl ⟨.disconnected conn now, trivial, ?_⟩)
        unfold State.disconnectCurrent
        exact if_pos hversion
      · refine .inl ?_
        unfold State.disconnectCurrent
        exact if_neg hversion
    · simp only [if_neg hcurrent]
      exact .inl rfl
  | worker view => exact serviceStep_workerStep view

end Service

/-! ## Steps and runs -/

/-- No bond change, no resumption frame in a state that takes one, and no lifetime that is over. -/
def State.Undisturbed (state : State) : Action → Prop
  | .bondChanged _ => False
  | .expire clock _ _ | .connected _ _ clock _ =>
    state.service.core.ticket.valid = true → state.service.core.ticket.Unexpired clock
  | .writeControl conn data _ _ => ¬((4 ≤ data.length ∧ data.take 4 = magic) ∧ state.resumeReady conn)
  | _ => True

/-- The step enters APP_SECURE. -/
def State.Enters (platform : Platform) (state : State) (action : Action) : Prop :=
  state.main.v1Cp3State ≠ .appSecure ∧
    ((firmware platform).step state action).2.main.v1Cp3State = .appSecure

section Steps

variable {platform : Platform} {state : State} {action : Action}

theorem State.Undisturbed.spares (h : state.Undisturbed action) {call : ServiceCall}
    (hissues : state.Issues action call) : call.Spares state.service.core.ticket := by
  cases action <;> cases call <;> try exact hissues.elim
  case writeControl.control =>
    obtain ⟨-, hready, rfl, rfl, rfl⟩ := hissues
    exact fun hwire ↦ h ⟨hwire, hready⟩
  case expire.expire =>
    obtain rfl := hissues
    exact h
  case connected.connected =>
    obtain rfl := hissues
    exact h
  all_goals trivial

/-- A frame that arrives during a handshake never reaches the ticket. -/
theorem undisturbed_of_handshake (hidle : state.main.v1Cp3State ≠ .idle)
    (hsecure : state.main.v1Cp3State ≠ .appSecure) (conn : Conn) (data : Bytes) (offset : ℕ) (view : ControlView) :
    state.Undisturbed (.writeControl conn data offset view) := by
  rintro ⟨-, -, -, -, -, -, -, -, hstate⟩
  rcases hstate with hnow | hnow
  · exact hidle hnow
  · exact hsecure hnow

theorem unused_step_firmware (h : state.service.core.ticket.Unused) (action : Action) :
    ((firmware platform).step state action).2.service.core.ticket.Unused := by
  rcases service_step platform state action with hsame | ⟨call, -, hcall⟩ | ⟨view, committed, -, -, -, hfull, -⟩
  · rwa [hsame]
  · rw [hcall]
    exact unused_serviceStep h call
  · rw [hfull]
    exact @unused_serviceStep platform.version platform.crypto platform.aead _ h
      (.full view.faults (State.fullKeys committed) view.issue view.issue.uptime)

/-- A handshake that is about to be settled is under way or was overtaken. -/
theorem State.Finishing.not_secure (h : state.Finishing) (hslot : Slotted state.core)
    (hagreed : Agreed platform state.core) : state.main.v1Cp3State ≠ .appSecure := by
  rcases h with ⟨wire, hworker⟩ | ⟨conn, generation, sent, hworker⟩
  · have hmode : state.core.worker.mode? = some .v1Cp3FinishedC := by
      rw [show state.core.worker = _ from hworker]
      rfl
    intro hsecure
    rcases hagreed.held _ (.inl hmode) with hstate | ⟨hover, -⟩
    · rw [show state.core.state = _ from hsecure] at hstate
      cases hstate
    · rw [show state.core.state = _ from hsecure] at hover
      rcases hover with hidle | hfailed
      · cases hidle
      · cases hfailed
  · have htagged := hslot.tagged
    rw [show state.core.worker = _ from hworker] at htagged
    rcases htagged with hstart | hstatus
    · cases hstart
    · exact absurd rfl hstatus

/-- **Step lemma.**  An undisturbed step that does not enter APP_SECURE keeps the ticket. -/
theorem ticket_undisturbed (hslot : Slotted state.core) (hagreed : Agreed platform state.core)
    (h : state.service.core.ticket.Unused) (hundisturbed : state.Undisturbed action)
    (hfails : ¬state.Enters platform action) :
    ((firmware platform).step state action).2.service.core.ticket = state.service.core.ticket := by
  rcases service_step platform state action with
    hsame | ⟨call, hissues, hcall⟩ | ⟨view, committed, -, hfinishing, -, hfull, hok⟩
  · rw [hsame]
  · rw [hcall]
    rcases @ticket_step platform.version platform.crypto platform.aead _ h call (hundisturbed.spares hissues) with
      hkept | ⟨_, _, _, _, _, rfl, -⟩
    · exact hkept
    · cases action <;> exact hissues.elim
  · rw [hfull]
    rcases @ticket_full platform.version platform.crypto state.service view.faults (State.fullKeys committed)
        view.issue view.issue.uptime with ⟨hissued, -⟩ | ⟨-, hkept⟩
    · exact absurd ⟨hfinishing.not_secure hslot hagreed, hok hissued⟩ hfails
    · exact hkept

theorem commitV1Cp3_issues (hversion : platform.version = pqResumeV11) {view : WorkerView}
    (h : (state.commitV1Cp3 platform view).1 = true) :
    ∃ committed, state.store.commitV1Cp3 = .ok committed ∧
      (state.commitV1Cp3 platform view).2.service = (state.commitCall platform committed view).2 ∧
      (state.commitCall platform committed view).1.ok = true := by
  unfold State.commitV1Cp3 at h ⊢
  cases hcommit : state.store.commitV1Cp3 with
  | error errno =>
    rw [hcommit] at h
    cases h
  | ok committed =>
    simp only [hcommit, if_pos hversion] at h ⊢
    exact ⟨committed, rfl, rfl, h⟩

/-- The section that enters APP_SECURE has issued the ticket of its keys. -/
theorem settleCp3_issues (hversion : platform.version = pqResumeV11) {conn : Option Conn} {generation : ℕ}
    {sent : Bool} {view : WorkerView} (hbefore : state.main.v1Cp3State ≠ .appSecure)
    (hafter : (state.settleCp3 platform false .success conn generation sent view).main.v1Cp3State = .appSecure) :
    ∃ committed, state.store.commitV1Cp3 = .ok committed ∧
      (state.settleCp3 platform false .success conn generation sent view).service =
        (state.commitCall platform committed view).2 ∧
      (state.commitCall platform committed view).1.ok = true := by
  unfold State.settleCp3 at hafter ⊢
  dsimp only at hafter ⊢
  rw [drain_v1Cp3State] at hafter
  rw [service_drain]
  by_cases howner : conn.isSome ∧ conn = state.main.v1Cp3Conn ∧ SameU32 generation state.main.connectionGeneration
  · rw [if_pos howner] at hafter ⊢
    by_cases hdead : sent = false ∨ JobStatus.success ≠ JobStatus.success ∨
        state.main.v1Cp3Live conn generation view.last = false
    · rw [if_pos hdead] at hafter
      exact absurd hafter (invalidateV1Cp3_ne_appSecure _)
    · rw [if_neg hdead, if_neg Bool.false_ne_true] at hafter ⊢
      by_cases hcommitted : (state.commitV1Cp3 platform view).1 = true
      · rw [if_pos hcommitted]
        exact commitV1Cp3_issues hversion hcommitted
      · rw [if_neg hcommitted] at hafter
        exact absurd hafter (invalidateV1Cp3_ne_appSecure _)
  · rw [if_neg howner] at hafter
    split_ifs at hafter
    · exact absurd hafter (invalidateV1Cp3_ne_appSecure _)
    · exact absurd hafter hbefore

theorem callbackCp3_issues (hversion : platform.version = pqResumeV11) {wire : Bytes} {view : WorkerView}
    (hbefore : state.main.v1Cp3State ≠ .appSecure)
    (hafter : (state.callbackCp3 platform false .success wire view).2.main.v1Cp3State = .appSecure) :
    ∃ committed, state.store.commitV1Cp3 = .ok committed ∧
      (state.callbackCp3 platform false .success wire view).2.service = (state.commitCall platform committed view).2 ∧
      (state.commitCall platform committed view).1.ok = true := by
  obtain ⟨delivery, hdelivery⟩ : ∃ delivery, state.main.cp3Delivery platform.version false .success wire
      view.first = delivery := ⟨_, rfl⟩
  simp only [State.callbackCp3, hdelivery] at hafter ⊢
  by_cases hfailed : false = true ∨ delivery.status ≠ .success
  · rw [if_pos hfailed] at hafter
    simp only [State.goto, Bool.false_eq_true, false_and, and_false, if_false] at hafter
    exact absurd hafter hbefore
  · rw [if_neg hfailed] at hafter ⊢
    have hstatus : delivery.status = .success := by
      by_contra hother
      exact hfailed (.inr hother)
    rw [hstatus] at hafter ⊢
    exact settleCp3_issues hversion (by simpa using hbefore) hafter

/-- What the issued ticket says: its root is that of the handshake of the attempt, whose FINISHED_C was verified. -/
structure Issued (platform : Platform) (state : State) (attempt : Attempt) (view : WorkerView) (ticket : Ticket) :
    Prop where
  current : state.attempt = some attempt
  generation : attempt.generation = state.main.connectionGeneration
  root : ∃ app, attempt.Confirms platform app ∧ ticket.root = app.resumeRoot ∧
    pqResumeId platform.crypto view.faults platform.version app.resumeRoot app.fullTh = some ticket.id
  valid : ticket.valid = true
  profile : ticket.profile = platform.version
  created : ticket.createdMs = view.issue.uptime
  unused : ticket.successes = 0
  replay : ticket.replay = []

/-- **Step lemma.**  The step that enters APP_SECURE replaces the ticket. -/
theorem ticket_enters (hversion : platform.version = pqResumeV11) (hslot : Slotted state.core)
    (hagreed : Agreed platform state.core) (h : state.Enters platform action) :
    ∃ view attempt, action = .worker view ∧
      Issued platform state attempt view ((firmware platform).step state action).2.service.core.ticket := by
  obtain ⟨hbefore, hafter⟩ := h
  obtain ⟨⟨wire, hworker⟩, hbusy, hcommitted, hidle⟩ := (move_step platform state action).enters hslot hbefore hafter
  obtain ⟨view, rfl⟩ : ∃ view, action = .worker view := by
    by_contra hother
    have hkept := (@step_worker platform state action fun view haction ↦ hother ⟨view, haction⟩).1
    have hsame : state.worker = .idle := hkept.symm.trans hidle
    rw [show state.core.worker = state.worker from rfl, hsame] at hworker
    cases hworker
  have hstep : (firmware platform).step state (.worker view) =
      state.callbackCp3 platform false .success wire view := by
    simp only [firmware, State.workerStep, show state.worker = .cp3Callback false .success wire from hworker]
  rw [hstep] at hafter ⊢
  obtain ⟨committed, hcommit, hservice, hok⟩ := callbackCp3_issues hversion hbefore hafter
  obtain ⟨-, rfl⟩ := commitV1Cp3_eq_ok_iff.mp hcommit
  rcases @ticket_full platform.version platform.crypto state.service view.faults _ view.issue view.issue.uptime with
    ⟨-, peer, hissue⟩ | ⟨hrefused, -⟩
  · rw [hservice]
    obtain ⟨attempt, hfollows⟩ := hagreed.attempt (Cp3State.not_over (by rw [hbusy]; decide) (by rw [hbusy]; decide))
    have hattests := hfollows.worker
    rw [hworker] at hattests
    obtain ⟨id, hid, hticket⟩ := exists_id_of_pqResumeIssue hissue
    rw [show (state.commitCall platform _ view).2.core.ticket = _ from hticket]
    exact ⟨view, attempt, rfl, hfollows.current, hfollows.generation, ⟨_, hattests, rfl, hid⟩, rfl, rfl, rfl, rfl, rfl⟩
  · exact Bool.noConfusion (hrefused.symm.trans hok)

end Steps

/-! ## Runs -/

section Runs

variable {platform : Platform}

theorem unused_run (platform : Platform) (actions : List Action) :
    ((firmware platform).run .boot actions).service.core.ticket.Unused :=
  (firmware platform).run_invariant (P := fun state ↦ state.service.core.ticket.Unused)
    (fun _ action h ↦ unused_step_firmware h action) Ticket.unused_zero actions

/-- **Failed full handshakes preserve the ticket in v1.1.**  From every reachable state, a run without a bond change,
an expiry and a handled resumption frame keeps the ticket whole unless it enters APP_SECURE, however its handshakes
end; no frame that arrives during a handshake is handled by the service.  A step that enters APP_SECURE replaces the
ticket by one without uses, whose root is that of the handshake. -/
theorem ticket_of_full_handshakes (hversion : platform.version = pqResumeV11) (history : List Action) :
    let now := (firmware platform).run .boot history
    (∀ actions, (firmware platform).Along
        (fun state action ↦ state.Undisturbed action ∧ ¬state.Enters platform action) now actions →
      ((firmware platform).run now actions).service.core.ticket = now.service.core.ticket) ∧
    (now.main.v1Cp3State ≠ .idle → now.main.v1Cp3State ≠ .appSecure →
      ∀ conn data offset view, now.Undisturbed (.writeControl conn data offset view)) ∧
    ∀ action, now.Enters platform action → ∃ view attempt, action = .worker view ∧
      Issued platform now attempt view ((firmware platform).step now action).2.service.core.ticket := by
  intro now
  obtain ⟨hslot, hagreed, -⟩ := agreed_run platform history
  refine ⟨fun actions halong ↦ ?_, undisturbed_of_handshake, fun action ↦ ticket_enters hversion hslot hagreed⟩
  have hkept := (firmware platform).run_invariant_of_along
    (P := fun state ↦ Slotted state.core ∧ Agreed platform state.core ∧ state.service.core.ticket.Unused ∧
      state.service.core.ticket = now.service.core.ticket)
    (fun state action h hstep ↦ by
      obtain ⟨hslot, hagreed, hunused, hsame⟩ := h
      have move := move_step platform state action
      exact ⟨move.slotted hslot, move.agreed hslot hagreed, unused_step_firmware hunused action,
        (ticket_undisturbed hslot hagreed hunused hstep.1 hstep.2).trans hsame⟩)
    ⟨hslot, hagreed, unused_run platform history, rfl⟩ halong
  exact hkept.2.2.2

end Runs

/-- A v1.1 handshake whose next step enters APP_SECURE. -/
def enteringActions : List Action :=
  let started := startedActions pqResumeV11 ++ List.replicate 5 (.worker openWorkerView)
  let handshake := ((firmware (samplePlatform pqResumeV11)).run .boot started).store.v1Cp3Handshake
  started ++ .writeControl 1 (finishedCOf (samplePlatform pqResumeV11) handshake) 0 openControlView ::
    List.replicate 4 (.worker openWorkerView)

/-- That step, and the START of a second connection, whose job runs. -/
def restartedActions : List Action :=
  enteringActions ++ .worker openWorkerView :: .disconnected 1 8 :: .connected 1 true 9 9 ::
    (startedActions pqResumeV11).drop 1

/-- The firmware before that step. -/
def enteringState : State := (firmware (samplePlatform pqResumeV11)).run .boot enteringActions

/-- The firmware with the ticket, while the job of the second START runs. -/
def restartedState : State := (firmware (samplePlatform pqResumeV11)).run .boot restartedActions

/-- The first handshake issues a ticket, and the second one, which ends with its link, keeps it. -/
theorem ticket_of_full_handshakes_disconnected :
    (∃ attempt, Issued (samplePlatform pqResumeV11) enteringState attempt openWorkerView
      ((firmware (samplePlatform pqResumeV11)).step enteringState (.worker openWorkerView)).2.service.core.ticket) ∧
      restartedState.main.v1Cp3State = .cryptoBusy ∧ restartedState.service.core.ticket.valid = true ∧
      ((firmware (samplePlatform pqResumeV11)).run restartedState [.disconnected 1 10]).service.core.ticket =
        restartedState.service.core.ticket := by
  have henters : enteringState.Enters (samplePlatform pqResumeV11) (.worker openWorkerView) :=
    ⟨by decide +kernel, by decide +kernel⟩
  have hstate : restartedState.main.v1Cp3State = .cryptoBusy ∧ restartedState.service.core.ticket.valid = true := by
    decide +kernel
  have hended : ((firmware (samplePlatform pqResumeV11)).step restartedState
      (.disconnected 1 10)).2.main.v1Cp3State = .idle := by decide +kernel
  have hfailed : ¬restartedState.Enters (samplePlatform pqResumeV11) (.disconnected 1 10) := by
    rintro ⟨-, hafter⟩
    rw [hended] at hafter
    cases hafter
  obtain ⟨-, -, hissued⟩ := @ticket_of_full_handshakes (samplePlatform pqResumeV11) rfl enteringActions
  have hticket := (@ticket_of_full_handshakes (samplePlatform pqResumeV11) rfl restartedActions).1
    [.disconnected 1 10]
  refine ⟨?_, hstate.1, hstate.2, ?_⟩
  · unfold enteringState at henters ⊢
    obtain ⟨_, attempt, haction, hissued⟩ := hissued _ henters
    cases haction
    exact ⟨attempt, hissued⟩
  · unfold restartedState at hfailed ⊢
    exact hticket ⟨⟨trivial, hfailed⟩, trivial⟩

end PqBleHandshake.FirmwareV1
