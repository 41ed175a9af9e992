import PqBleHandshake.FirmwareV1.Moves
import PqBleHandshake.Security.Ceremony

/-!
# The GATT gate

Every attribute callback and every delivery of v1.0 and v1.1 asks `pq_v1_security_conn_is_l4` before it
acts.  `gatedStep` composes the firmware with the security ceremony: the last check that a step makes
reports the security record of that moment, and every earlier check of the same handler is an arbitrary
input.  `gatt_gate` says that the firmware shows nothing outside unless the gate is open.
-/

namespace PqBleHandshake.FirmwareV1

open Foundation

/-- The connection of an attribute callback. -/
def Action.conn : Action → Option Conn
  | .readPublicKey conn _ _ | .writeCiphertext conn _ _ _ _ | .writeSecureData conn _ _ _
  | .writeControl conn _ _ _ | .readCcc conn _ | .writeCcc conn _ _ => some conn
  | _ => none

/-- The connection to which the next step of the worker delivers a result. -/
def State.deliveryConn (state : State) : Option Conn :=
  match state.worker with
  | .cp3Callback _ _ _ => state.main.v1Cp3Conn
  | .cp3Send _ _ _ conn _ _ => conn
  | .cp4Send conn _ _ _ => some conn
  | .cp2Send _ conn _ => conn
  | _ => none

/-- The last security checks of a step: the connection asked about, and the answer. -/
def lastChecks (state : State) : Action → List (Option Conn × Bool)
  | .readPublicKey conn _ view | .writeCiphertext conn _ _ _ view | .writeSecureData conn _ _ view
  | .readCcc conn view | .writeCcc conn _ view => [(some conn, view.l4)]
  | .writeControl conn _ _ view =>
    [(some conn, view.first.l4), (state.service.owner, view.control.send.l4)]
  | .worker view => [(state.deliveryConn, view.send.l4)]
  | _ => []

/-- The connections to which a step shows something: the answer of a callback that succeeds, and the
notification that was queued. -/
def Output.shownTo (output : Output) (action : Action) : List Conn :=
  (match output.result with
    | some (.ok _) => action.conn.toList
    | _ => []) ++ (output.queued.map Prod.fst).toList

/-- A connection to which the firmware showed something, with the security record and the live link
level of that moment. -/
structure Shown where
  conn : Conn
  record : Security.Record
  live : Bool
deriving DecidableEq

/-- The gate is open for a connection. -/
structure Shown.Open (shown : Shown) : Prop where
  tracked : shown.record.trackedConn = some shown.conn
  secured : shown.record.secState = .l4Secured
  generation : shown.record.securedGeneration = shown.record.connectionGeneration
  live : shown.live = true

/-- The firmware with the ceremony; `shown` is bookkeeping. -/
structure GatedState where
  security : Security.State
  firmware : State
  shown : List Shown

/-- Both when Bluetooth starts. -/
def GatedState.boot : GatedState := ⟨.boot, .boot, []⟩

/-- A step of the ceremony, or a step of the firmware while the connections have the given link levels. -/
inductive GatedAction
  | security (action : Security.Action)
  | firmware (action : Action) (live : Conn → Bool)

/-- The last checks of a step report the record of the ceremony. -/
def Reports (record : Security.Record) (live : Conn → Bool) (state : State) (action : Action) : Prop :=
  ∀ check ∈ lastChecks state action,
    check.2 = record.connIsL4 check.1 (check.1.any live)

instance (record : Security.Record) (live : Conn → Bool) (state : State) (action : Action) :
    Decidable (Reports record live state action) :=
  inferInstanceAs (Decidable (∀ _ ∈ _, _))

/-- One step of the firmware or of the ceremony. -/
def gatedStep (timeoutMs : ℤ) (platform : Platform) (state : GatedState) :
    GatedAction → Option GatedState
  | .security action => do
    let security ← state.security.step timeoutMs action
    return { state with security }
  | .firmware action live => do
    guard (Reports state.security.record live state.firmware action)
    let result := (firmware platform).step state.firmware action
    let shown := (result.1.shownTo action).map fun conn ↦ ⟨conn, state.security.record, live conn⟩
    return { state with firmware := result.2, shown := state.shown ++ shown }

/-! ## Every path ends with a check -/

section Paths

variable {platform : Platform} {state : State} {conn : Conn}

theorem queuedTo_eq_some {target : Option Conn} {sent : Bool} {wire wire' : Bytes}
    (h : queuedTo target sent wire = some (conn, wire')) : sent = true ∧ target = some conn := by
  unfold queuedTo at h
  split_ifs at h with hsent
  obtain ⟨conn', htarget, heq⟩ := Option.map_eq_some_iff.mp h
  exact ⟨hsent, htarget.trans (congrArg some (Prod.mk.inj heq).1)⟩

theorem notified_l4 {view : SendView} {wire : Bytes} (h : notified view wire = true) :
    view.l4 = true := by
  simp only [notified, Bool.and_eq_true] at h
  exact h.1.1.1

theorem callbackCp3_queued {start : Bool} {status : JobStatus} {wire wire' : Bytes}
    {view : WorkerView}
    (h : (state.callbackCp3 platform start status wire view).1.queued = some (conn, wire')) :
    state.main.v1Cp3Conn = some conn ∧ view.send.l4 = true := by
  unfold State.callbackCp3 at h
  dsimp only at h
  split at h
  · cases h
  · obtain ⟨hsent, htarget⟩ := queuedTo_eq_some h
    rw [Bool.and_eq_true] at hsent
    rw [(cp3Delivery_live hsent.1).2.2] at htarget
    exact ⟨htarget, notified_l4 hsent.2⟩

/-- Every delivery of the worker ends with a check of its connection. -/
theorem workerStep_queued {view : WorkerView} {wire : Bytes}
    (h : (state.workerStep platform view).1.queued = some (conn, wire)) :
    state.deliveryConn = some conn ∧ view.send.l4 = true := by
  unfold State.workerStep at h
  unfold State.deliveryConn
  cases hworker : state.worker with
  | cp3Callback start status wire =>
    rw [hworker] at h
    exact callbackCp3_queued h
  | cp3Send start status deliver target generation wire =>
    rw [hworker] at h
    obtain ⟨hsent, htarget⟩ := queuedTo_eq_some h
    rw [Bool.and_eq_true] at hsent
    exact ⟨htarget, notified_l4 hsent.2⟩
  | cp4Send target generation live wire =>
    rw [hworker] at h
    obtain ⟨hsent, htarget⟩ := queuedTo_eq_some h
    rw [Bool.and_eq_true] at hsent
    exact ⟨htarget, notified_l4 hsent.2⟩
  | cp2Send deliver target wire =>
    rw [hworker] at h
    obtain ⟨hsent, htarget⟩ := queuedTo_eq_some h
    rw [Bool.and_eq_true] at hsent
    exact ⟨htarget, notified_l4 hsent.2⟩
  | _ =>
    rw [hworker] at h
    cases h

/-- The worker answers no callback. -/
theorem workerStep_result (view : WorkerView) :
    (state.workerStep platform view).1.result = none := by
  unfold State.workerStep
  cases state.worker with
  | cp3Callback start status wire =>
    dsimp only [State.callbackCp3]
    split <;> rfl
  | _ => rfl

/-- `notify_current` checks the link of its owner. -/
theorem notifyCurrent_gated {service : Resumption.Service} {view : SendView} {wire : Bytes}
    (h : Resumption.notifyCurrent Resumption.pqResumeV11 service conn view wire = true) :
    service.owner = some conn ∧ view.l4 = true := by
  simp only [Resumption.notifyCurrent, Resumption.Service.protectedLink, Bool.and_eq_true,
    decide_eq_true_eq, ne_eq, not_true_eq_false, decide_false, Bool.false_or] at h
  exact ⟨h.1.1.1.1, h.1.1.1.2.2⟩

/-- An answer of the service that succeeds or queues a frame. -/
def Visible (answer : Resumption.ServiceAnswer) : Prop := answer.ok = true ∨ answer.queued.isSome

theorem controlResume_gated {crypto : Crypto} {service : Resumption.Service} {wire : Bytes}
    {input : Resumption.ControlInput}
    (h : Visible (Resumption.controlResume Resumption.pqResumeV11 crypto service conn wire input).1) :
    service.owner = some conn ∧ input.send.l4 = true := by
  unfold Resumption.controlResume at h
  dsimp only at h
  split at h
  · split at h
    · rename_i hnotify
      exact notifyCurrent_gated hnotify
    · simp [Visible] at h
  · split at h
    · rename_i hnotify
      exact notifyCurrent_gated hnotify
    · simp [Visible] at h

theorem controlApplication_gated {aead : Aead} {service : Resumption.Service} {wire : Bytes}
    {input : Resumption.ControlInput}
    (h : Visible
      (Resumption.controlApplication Resumption.pqResumeV11 aead service conn wire input).1) :
    service.owner = some conn ∧ input.send.l4 = true := by
  unfold Resumption.controlApplication at h
  dsimp only at h
  split at h
  · simp [Visible] at h
  split at h
  · simp [Visible] at h
  split at h
  · simp [Visible] at h
  split at h
  · rename_i hnotify
    exact notifyCurrent_gated hnotify
  · simp [Visible] at h

/-- Every success and every frame of the service ends with a check of its owner. -/
theorem pqResumeServiceControl_gated {crypto : Crypto} {aead : Aead} {service : Resumption.Service}
    {wire : Bytes} {input : Resumption.ControlInput}
    (h : Visible (Resumption.pqResumeServiceControl Resumption.pqResumeV11 crypto aead service conn
      wire input).1) :
    service.owner = some conn ∧ input.send.l4 = true := by
  unfold Resumption.pqResumeServiceControl at h
  dsimp only at h
  split at h
  · simp [Visible] at h
  split at h
  · exact controlResume_gated h
  · exact controlApplication_gated h

/-- What a callback that queues nothing shows. -/
theorem mem_shownTo_answered {result : WriteResult × State} {action : Action}
    (h : conn ∈ (answered result).1.shownTo action) :
    result.1 = .ok () ∧ action.conn = some conn := by
  obtain ⟨result, state⟩ := result
  cases result with
  | error e => simp [answered, Output.shownTo] at h
  | ok value => exact ⟨rfl, by simpa [answered, Output.shownTo] using h⟩

theorem v1Cp4Live_l4 {main : Main} {target : Option Conn} {generation : ℕ} {view : LinkView}
    (h : main.v1Cp4Live target generation view = true) : view.l4 = true := by
  simp only [Main.v1Cp4Live, Bool.and_eq_true] at h
  exact h.1.1.2

theorem v1Cp3Live_l4 {main : Main} {target : Option Conn} {generation : ℕ} {view : LinkView}
    (h : main.v1Cp3Live target generation view = true) : view.l4 = true := by
  simp only [Main.v1Cp3Live, Bool.and_eq_true] at h
  exact h.1.2

theorem handleV1Cp4_gated {wire : Bytes} {view : ControlView}
    (h : (state.handleV1Cp4 platform conn wire view).1 = .ok ()) : view.first.l4 = true := by
  unfold State.handleV1Cp4 at h
  dsimp only at h
  split at h
  · cases h
  · rename_i hguard
    exact v1Cp4Live_l4 (by simpa using (not_or.mp hguard).1)

theorem handleV1Cp3Start_gated {frame : Bytes} {view : ControlView}
    (h : (state.handleV1Cp3Start platform conn frame view).1 = .ok ()) : view.first.l4 = true := by
  unfold State.handleV1Cp3Start at h
  split at h
  · cases h
  · rename_i sec hsec
    simp only [State.cp3StartSecInfo, except_bind_eq_ok_iff, require_eq_ok_iff, exists_and_left,
      exists_const] at hsec
    exact hsec.1.2

theorem handleV1Cp3FinishedC_gated {frame : Bytes} {view : ControlView}
    (h : (state.handleV1Cp3FinishedC platform conn frame view).1 = .ok ()) :
    view.first.l4 = true := by
  unfold State.handleV1Cp3FinishedC at h
  dsimp only at h
  split at h
  · cases h
  split at h
  · cases h
  · rename_i hlive
    exact v1Cp3Live_l4 (by simpa using hlive)

theorem handleV1Cp2Start_gated {sid : Bytes} {view : ControlView}
    (h : (state.handleV1Cp2Start conn sid view).1 = .ok ()) : view.first.l4 = true := by
  unfold State.handleV1Cp2Start at h
  split at h
  · cases h
  split at h
  · cases h
  · rename_i hready
    simp only [State.cp2StartReady, except_bind_eq_ok_iff, require_eq_ok_iff, exists_and_left,
      exists_const] at hready
    exact hready.1.2

theorem answerSecQuery_gated {view : ControlView} {reply : Bytes}
    (h : State.answerSecQuery platform view = .ok reply) : view.first.l4 = true := by
  simp only [State.answerSecQuery, except_bind_eq_ok_iff, require_eq_ok_iff, exists_and_left,
    exists_const] at h
  obtain ⟨-, info, -, -, wire, -, hl4, -⟩ := h
  exact hl4

variable {action : Action} {target : Conn} {data : Bytes} {view : ControlView}

theorem handleV1Control_gated (haction : action.conn = some conn)
    (h : target ∈ (state.handleV1Control platform conn data view).1.shownTo action) :
    target = conn ∧ view.first.l4 = true := by
  have hanswered : ∀ result : WriteResult × State,
      target ∈ (answered result).1.shownTo action → (result.1 = .ok () → view.first.l4 = true) →
        target = conn ∧ view.first.l4 = true := by
    intro result hmem hl4
    obtain ⟨hok, hconn⟩ := mem_shownTo_answered hmem
    exact ⟨Option.some.inj (hconn.symm.trans haction), hl4 hok⟩
  unfold State.handleV1Control at h
  split at h
  · exact hanswered _ h handleV1Cp4_gated
  split at h
  · exact hanswered _ h fun hok ↦ nomatch hok
  split at h
  · split at h
    · exact hanswered _ h fun hok ↦ nomatch hok
    · rename_i reply hreply
      refine ⟨?_, answerSecQuery_gated hreply⟩
      simpa [Output.shownTo, haction, eq_comm] using h
  split at h
  · exact hanswered _ h handleV1Cp3Start_gated
  split at h
  · exact hanswered _ h handleV1Cp3FinishedC_gated
  split at h
  · exact hanswered _ h handleV1Cp2Start_gated
  · exact hanswered _ h fun hok ↦ nomatch hok

/-- A frame that is handed to the service. -/
theorem handleService_gated (hversion : platform.version = Resumption.pqResumeV11)
    (haction : action.conn = some conn)
    (h : target ∈ (state.handleService platform conn data view).1.shownTo action) :
    target = conn ∧ state.service.owner = some conn ∧ view.control.send.l4 = true := by
  unfold State.handleService at h
  rw [hversion] at h
  split at h
  · obtain ⟨⟨answer, service⟩, hresult⟩ : ∃ result, Resumption.pqResumeServiceControl
        Resumption.pqResumeV11 platform.crypto platform.aead state.service conn data view.control =
          result := ⟨_, rfl⟩
    have hgated := @pqResumeServiceControl_gated conn platform.crypto platform.aead state.service
      data view.control
    rw [hresult] at h hgated
    cases hok : answer.ok with
    | true =>
      refine ⟨?_, hgated (.inl hok)⟩
      cases hqueued : answer.queued <;>
        simpa [Output.shownTo, hok, hqueued, haction, eq_comm] using h
    | false =>
      cases hqueued : answer.queued with
      | none => simp [Output.shownTo, hok, hqueued] at h
      | some wire =>
        refine ⟨?_, hgated (.inr (by simp [hqueued]))⟩
        simpa [Output.shownTo, hok, hqueued, eq_comm] using h
  · exact nomatch (mem_shownTo_answered h).1

/-- A control write that succeeds or queues a frame ends with a check of the writing connection. -/
theorem writeControl_gated {offset : ℕ} (haction : action.conn = some conn)
    (h : target ∈ (state.writeControl platform conn data offset view).1.shownTo action) :
    target = conn ∧ (view.first.l4 = true ∨
      (state.service.owner = some conn ∧ view.control.send.l4 = true)) := by
  have hrefused : ∀ (error : AttError) (refused : State),
      target ∉ (answered (.error error, refused)).1.shownTo action :=
    fun error refused hmem ↦ nomatch (mem_shownTo_answered hmem).1
  unfold State.writeControl at h
  dsimp only at h
  split at h
  · exact absurd h (hrefused _ _)
  split at h
  · exact absurd h (hrefused _ _)
  split at h
  · rename_i hservice
    obtain ⟨htarget, howner, hl4⟩ := handleService_gated hservice.1 haction h
    exact ⟨htarget, .inr ⟨howner, hl4⟩⟩
  split at h
  · exact absurd h (hrefused _ _)
  split at h
  · exact absurd h (hrefused _ _)
  split at h
  · obtain ⟨htarget, hl4⟩ := handleV1Control_gated haction h
    exact ⟨htarget, .inl hl4⟩
  · exact absurd h (hrefused _ _)

/-- **Every path of the firmware ends with a check** of the connection it shows something to. -/
theorem step_gated (h : target ∈ ((firmware platform).step state action).1.shownTo action) :
    (some target, true) ∈ lastChecks state action := by
  cases action with
  | readPublicKey conn busy view =>
    obtain ⟨hok, hconn⟩ := mem_shownTo_answered h
    simp only [State.readPublicKey, except_bind_eq_ok_iff, require_eq_ok_iff, exists_and_left,
      exists_const] at hok
    simp [lastChecks, ← hconn, Action.conn, hok.2.1]
  | writeCiphertext conn data offset busy view =>
    obtain ⟨hok, hconn⟩ := mem_shownTo_answered h
    unfold State.writeCiphertext at hok
    split at hok
    · cases hok
    split at hok
    · cases hok
    · rename_i hl4
      simp [lastChecks, ← hconn, Action.conn, hl4]
  | writeSecureData conn data offset view =>
    obtain ⟨hok, hconn⟩ := mem_shownTo_answered h
    simp only [State.writeSecureData, except_bind_eq_ok_iff, require_eq_ok_iff, exists_and_left,
      exists_const] at hok
    simp [lastChecks, ← hconn, Action.conn, hok.2.1]
  | writeControl conn data offset view =>
    obtain ⟨rfl, hl4 | ⟨howner, hl4⟩⟩ := writeControl_gated rfl h
    · simp [lastChecks, hl4]
    · simp [lastChecks, howner, hl4]
  | readCcc conn view =>
    obtain ⟨hok, hconn⟩ := mem_shownTo_answered h
    simp only [State.gateCcc, require_eq_ok_iff] at hok
    simp [lastChecks, ← hconn, Action.conn, hok]
  | writeCcc conn enabled view =>
    obtain ⟨hok, hconn⟩ := mem_shownTo_answered h
    unfold State.writeCcc at hok
    split at hok
    · cases hok
    · rename_i hgate
      simp only [State.gateCcc, require_eq_ok_iff] at hgate
      simp [lastChecks, ← hconn, Action.conn, hgate]
  | worker view =>
    obtain ⟨wire, hqueued⟩ : ∃ wire, (state.workerStep platform view).1.queued =
        some (target, wire) := by
      simpa [firmware, Output.shownTo, workerStep_result] using h
    obtain ⟨hconn, hl4⟩ := workerStep_queued hqueued
    simp [lastChecks, hconn, hl4]
  | _ => simp [firmware, Output.shownTo] at h

end Paths

/-! ## The gate -/

/-- What a check that succeeds says about the record of the ceremony. -/
theorem connIsL4_open {security : Security.State} {conn : Conn} {live : Bool}
    (hinv : Security.Inv security) (h : security.record.connIsL4 (some conn) live = true) :
    Shown.Open ⟨conn, security.record, live⟩ := by
  simp only [Security.Record.connIsL4, Bool.and_eq_true, decide_eq_true_eq] at h
  obtain ⟨⟨⟨⟨-, htracked⟩, hsecured⟩, -⟩, hlive⟩ := h
  exact ⟨htracked.symm, hsecured, (hinv.secured hsecured).1, hlive⟩

/-- **The GATT gate.**  In every run of the firmware with the ceremony, a callback succeeds and a
notification is queued only for the tracked connection of an L4_SECURED generation on a live L4 link. -/
theorem gatt_gate {timeoutMs : ℤ} {platform : Platform} {actions : List GatedAction}
    {state : GatedState}
    (hrun : run (gatedStep timeoutMs platform) GatedState.boot actions = some state) :
    ∀ shown ∈ state.shown, shown.Open := by
  have hinv : Security.Inv state.security ∧ ∀ shown ∈ state.shown, shown.Open := by
    refine run_invariant (P := fun s ↦ Security.Inv s.security ∧ ∀ shown ∈ s.shown, shown.Open)
      ?_ ⟨Security.inv_boot, fun _ hmem ↦ nomatch hmem⟩ hrun
    rintro s action t ⟨hsecurity, hopen⟩ hstep
    cases action with
    | security action =>
      simp only [gatedStep, Option.bind_eq_bind, Option.bind_eq_some_iff] at hstep
      obtain ⟨security, hnext, hresult⟩ := hstep
      cases hresult
      exact ⟨hsecurity.step hnext, hopen⟩
    | firmware action live =>
      simp only [gatedStep, Option.bind_eq_bind, Option.bind_eq_some_iff, Option.guard_eq_some',
        exists_and_left, exists_const] at hstep
      obtain ⟨hreports, hresult⟩ := hstep
      cases hresult
      refine ⟨hsecurity, fun shown hshown ↦ ?_⟩
      rcases List.mem_append.mp hshown with hold | hnew
      · exact hopen shown hold
      · obtain ⟨conn, hconn, rfl⟩ := List.mem_map.mp hnew
        have hcheck := hreports _ (step_gated hconn)
        exact connIsL4_open hsecurity hcheck.symm
  exact hinv.2

/-- Queries of a link that is up and subscribed. -/
def openView : LinkView := ⟨true, true, 247, 7⟩

/-- The queries of a control write on such a link. -/
def openControlView : ControlView where
  gate := openView
  busy := false
  application := false
  ready := false
  queried := true
  queryL4 := true
  first := openView
  second := openView
  info := some ⟨4, 16, true, true, true⟩
  referenced := true
  uptime := 7
  sent := true
  control :=
    { entry := ⟨openView, true, .zero 7⟩, attempt := ⟨openView, true, .zero 7⟩
      send := ⟨openView, true⟩, commit := ⟨openView, true, .zero 7⟩, now := 7, random := none }

/-- A platform to evaluate runs on. -/
def samplePlatform (version : UInt8) : Platform where
  version := version
  crypto := polynomialCrypto
  aead := polynomialAead
  publicKey := List.replicate 1184 0
  decaps := fun _ ↦ some (.zero 32)
  cp3TimeoutMs := 30000

/-- A connection that reaches L4, reads the public key, subscribes and asks for SEC_INFO. -/
def queryActions (version : UInt8) : List GatedAction :=
  Security.honestActions.map .security ++
    [.firmware (.connected 1 false 0 0) fun _ ↦ true,
      .firmware (.readPublicKey 1 false openView) fun _ ↦ true,
      .firmware (.writeCcc 1 true openView) fun _ ↦ true,
      .firmware (.writeControl 1 (v1Frame version pqV1SecQuery []) 0 openControlView) fun _ ↦ true]

/-- The gate in that run of v1.1: three answers and one notification. -/
theorem gatt_gate_query :
    ∃ state, run (gatedStep 30000 (samplePlatform Resumption.pqResumeV11)) GatedState.boot
        (queryActions Resumption.pqResumeV11) = some state ∧
      state.shown.length = 4 ∧ ∀ shown ∈ state.shown, shown.Open := by
  have hrun : ((run (gatedStep 30000 (samplePlatform Resumption.pqResumeV11)) GatedState.boot
      (queryActions Resumption.pqResumeV11)).any fun state ↦ state.shown.length = 4) = true := by
    decide +kernel
  obtain ⟨state, hstate, hcheck⟩ := (Option.any_eq_true _ _).mp hrun
  exact ⟨state, hstate, of_decide_eq_true hcheck, gatt_gate hstate⟩

end PqBleHandshake.FirmwareV1
