import PqBleHandshake.Handshake.Interoperability
import PqBleHandshake.Legacy.Isolation

/-!
# The order of a Phase 7 exchange

A Central of v0.7 writes FINISHED_C after READY7_AUTH and its first protected frame after FINISHED_P.  The
callback notifies both answers before it writes the state that takes the next write, so a write that
arrives in between is refused, and one that arrives after the callback has returned is taken.
-/

namespace PqBleHandshake.Legacy

open Foundation

/-! ## The exchange -/

/-- How far the Central of a link is. -/
inductive Stage
  | begun | started | confirmed | talking
deriving DecidableEq, Repr

/-- The firmware and the Central of one link. -/
structure Exchange where
  firmware : State
  stage : Stage
deriving DecidableEq

/-- The bytes are a frame with this subtype. -/
def carries (version subtype : UInt8) (wire : Bytes) : Bool :=
  match pqPhase7ParseFrame version wire with
  | .ok (found, _) => found = subtype
  | .error _ => false

namespace State

/-- The connection received a frame with this subtype. -/
def received (state : State) (version : UInt8) (conn : Conn) (subtype : UInt8) : Bool :=
  state.outbox.any fun entry ↦ entry.1 = conn && carries version subtype entry.2

/-- The answer to a write. -/
def answer (state : State) : Action → WriteResult
  | .start conn mode sid centralKey mtu => (state.handleStart conn mode sid centralKey mtu).1
  | .finishedC conn payload => (state.handlePhase7FinishedC conn payload).1
  | .secureData conn data offset => (state.writeSecureData conn data offset).1
  | _ => .ok ()

end State

/-- The stage of the Central after an action; a START that is refused can be repeated. -/
def Stage.after (stage : Stage) (state : State) : Action → Stage
  | .start conn mode sid centralKey mtu =>
    if state.answer (.start conn mode sid centralKey mtu) = .ok () then .started else stage
  | .finishedC _ _ => .confirmed
  | .secureData _ _ _ => .talking
  | _ => stage

section Exchange

variable (platform : Platform) (conn : Conn)

/-- No library call of the handshake and no notification to the Central fails in this step. -/
def Succeeds (state : State) (view : WorkerView) : Prop :=
  match state.worker with
  | .decapsulate .phase7AuthStart _ =>
    view.decapsFault = false ∧ view.destroyFault = false ∧
      ((platform.decaps state.store.ciphertextJob).bind fun ss ↦
        State.authStart platform state.store ss view).isSome = true
  | .finished7 _ keys hash received =>
    pqPhase7ComputeFinishedC platform.crypto view.faults platform.version keys.finishedC hash =
        some received ∧
      (phase7FinishedResult platform.crypto view.faults platform.version keys hash received
        secureWireSize).isSome = true
  | .deliver _ _ _ _ held => held = conn → view.sent = true
  | _ => True

instance (state : State) (view : WorkerView) : Decidable (Succeeds platform conn state view) := by
  unfold Succeeds
  split <;> infer_instance

/-- What an honest Central writes on a link that stays up and subscribed, and what the firmware does
meanwhile. -/
def Honest (exchange : Exchange) : Action → Prop
  | .ccc enabled _ => enabled = true
  | .ciphertext held _ => held = conn ∧ exchange.stage = .begun
  | .start held mode _ _ _ => held = conn ∧ mode = .phase7AuthStart ∧ exchange.stage = .begun
  | .finishedC held _ => held = conn ∧ exchange.stage = .started ∧
      exchange.firmware.received platform.version conn pqPhase7Ready7Auth = true
  | .secureData held data offset => held = conn ∧ exchange.stage = .confirmed ∧
      exchange.firmware.received platform.version conn pqPhase7FinishedP = true ∧
      offset = 0 ∧ pqSecureFixedOverhead ≤ data.length ∧ data.length ≤ pqSecureMaxWireSize
  | .host => True
  | .worker view => Succeeds platform conn exchange.firmware view
  | _ => False

instance (exchange : Exchange) (action : Action) : Decidable (Honest platform conn exchange action) := by
  unfold Honest
  cases action <;> infer_instance

/-- One step of the exchange, which ends with the first protected frame. -/
def exchangeStep (exchange : Exchange) (action : Action) : Option Exchange :=
  if exchange.stage ≠ .talking ∧ Honest platform conn exchange action then
    (step platform exchange.firmware action).map fun next ↦
      ⟨next, exchange.stage.after exchange.firmware action⟩
  else none

/-- FINISHED_C and protected frames. -/
def Action.isReply : Action → Bool
  | .finishedC _ _ | .secureData _ _ _ => true
  | _ => false

/-- First sections of callbacks of the host. -/
def Action.isCall : Action → Bool
  | .expire _ _ _ | .host | .worker _ => false
  | _ => true

/-- A write that follows an answer arrives after the callback that notified the answer has returned. -/
def Prompt (exchange : Exchange) (action : Action) : Prop :=
  (exchangeStep platform conn exchange action).isSome = true → action.isReply = true →
    exchange.firmware.worker = .idle

instance (exchange : Exchange) (action : Action) : Decidable (Prompt platform conn exchange action) :=
  inferInstanceAs (Decidable (_ → _ → _))

/-- The commit after FINISHED_P is next and succeeds, or it has happened. -/
def Committed (state : State) : Prop :=
  (state.worker = .commit7 conn ∧ ∀ view, (state.commitPhase7 platform view).1 = true) ∨
    state.store.phase7Authenticated = true

/-- A write that follows an answer is taken, and a FINISHED_P that was received is committed. -/
structure InOrder (exchange : Exchange) (action : Action) : Prop where
  taken : (exchangeStep platform conn exchange action).isSome = true → action.isReply = true →
    exchange.firmware.answer action = .ok ()
  committed : exchange.firmware.received platform.version conn pqPhase7FinishedP = true →
    Committed platform conn exchange.firmware

end Exchange

/-! ## Frames of the worker -/

section Frames

variable {version subtype found : UInt8} {wire payload : Bytes} {capacity : ℕ}

theorem length_le_of_validPhase7Payload (h : validPhase7Payload subtype payload = true) :
    payload.length ≤ 97 := by
  unfold validPhase7Payload at h
  split_ifs at h <;> simp only [Bool.and_eq_true, decide_eq_true_eq] at h <;> omega

/-- What the encoder writes, the parser reads. -/
theorem pqPhase7ParseFrame_of_encode
    (h : pqPhase7EncodeFrame version subtype payload capacity = .ok wire) :
    pqPhase7ParseFrame version wire = .ok (subtype, payload) := by
  simp only [pqPhase7EncodeFrame, except_bind_eq_ok_iff, require_eq_ok_iff, exists_and_left,
    exists_const] at h
  obtain ⟨hvalid, -, hresult⟩ := h
  obtain rfl := Except.ok.inj hresult
  have hshort := length_le_of_validPhase7Payload hvalid
  simp only [pqPhase7ParseFrame, except_bind_eq_ok_iff, require_eq_ok_iff, exists_and_left,
    exists_const]
  have hlength : payload.length % 256 ^ 2 = payload.length := Nat.mod_eq_of_lt (by omega)
  refine ⟨⟨?_, rfl, rfl⟩, ⟨?_, hvalid⟩, rfl⟩
  · simp [phase7Magic, ascii]
  · simp [Resumption.declaredLength, phase7Magic, ascii, bigEndian]
    omega

theorem carries_of_encode (h : pqPhase7EncodeFrame version found payload capacity = .ok wire) :
    carries version subtype wire = decide (found = subtype) := by
  rw [carries, pqPhase7ParseFrame_of_encode h]

/-- The ERROR frame is no answer. -/
theorem carries_phase7Error (status : JobStatus) (h : subtype ≠ pqPhase7Error) :
    carries version subtype (State.phase7Error version status) = false := by
  obtain ⟨code, hcode⟩ : ∃ code : UInt8, State.phase7Error version status =
      ((pqPhase7EncodeFrame version pqPhase7Error [code] 9).toOption).getD [] := by
    unfold State.phase7Error
    exact ⟨_, rfl⟩
  have hencoded : pqPhase7EncodeFrame version pqPhase7Error [code] 9 =
      .ok (phase7Frame version pqPhase7Error [code]) := rfl
  rw [hcode, hencoded]
  exact (carries_of_encode hencoded).trans (decide_eq_false h.symm)

end Frames

/-! ## Where an exchange stands -/

/-- The two jobs of the handshake. -/
inductive Leg
  | start | finished
deriving DecidableEq

namespace Leg

def mode : Leg → JobMode
  | .start => .phase7AuthStart
  | .finished => .phase7AuthFinishedC

/-- The stage of a Central that waits for the answer. -/
def stage : Leg → Stage
  | .start => .started
  | .finished => .confirmed

/-- `phase7_state` until the callback returns. -/
def busy : Leg → Phase7State
  | .start => .cryptoBusy
  | .finished => .finishedBusy

/-- The subtype of the answer. -/
def answer : Leg → UInt8
  | .start => pqPhase7Ready7Auth
  | .finished => pqPhase7FinishedP

/-- The worker once the answer is notified. -/
def delivered (conn : Conn) : Leg → Worker
  | .start => .ready7 conn
  | .finished => .commit7 conn

/-- What the job leaves in the store. -/
def Stored (store : Store) : Leg → Prop
  | .start => store.phase7WaitFinished = true
  | .finished => store.phase7TrafficPending = true ∧ store.phase7WaitFinished = false ∧
      store.phase7Authenticated = false

end Leg

/-- The link is up, with the notifications of its Central and no callback of the host under way. -/
structure Live (conn : Conn) (state : State) : Prop where
  host : state.host = []
  current : state.main.currentConn = some conn
  notify : state.main.notifyEnabled = true
  keypair : state.store.keypairReady = true

/-- The worker is between jobs, or at the end of a callback of another connection. -/
structure Away (conn : Conn) (state : State) : Prop where
  job : state.worker.inJob = false
  result : state.worker.atResult = false
  conn : state.worker.conn ≠ some conn

section Position

variable (version : UInt8) (conn : Conn) (state : State)

/-- The Central waits for the answer of a job, which is notified on the way. -/
structure Held (leg : Leg) : Prop extends Live conn state where
  job : state.main.cryptoJobConn = some conn
  generation : SameU32 state.main.cryptoJobGeneration state.main.connectionGeneration
  phase : state.main.phase7State = leg.busy
  silent : ∀ other : Leg, other = leg ∨ other = .finished →
    state.received version conn other.answer = false

/-- The callback took its result up: the next job could be submitted. -/
structure Freed (leg : Leg) : Prop extends Live conn state where
  job : state.main.cryptoJobConn = none
  pending : state.store.jobPending = false
  transfer : state.main.transfer.state ≠ .cryptoBusy
  stored : leg.Stored state.store

/-- The START job was cancelled by the callback of an earlier connection; its result is an error. -/
def Cancelled (state : State) : Prop :=
  match state.worker with
  | .jobDone mode _ status wire => mode = .phase7AuthStart ∧ status = .invalidProtocolState ∧ wire = []
  | .callback mode status wire => mode = .phase7AuthStart ∧ status = .invalidProtocolState ∧ wire = []
  | .deliver mode valid _ _ _ => mode = .phase7AuthStart ∧ valid = false
  | .failed7 _ | .reset7 | .idle => True
  | _ => False

/-- Where an exchange stands. -/
inductive Position : Stage → Prop
  | begun (current : state.main.currentConn = some conn) (idle : state.main.phase7State = .idle)
      (job : state.main.cryptoJobConn ≠ some conn) (worker : state.worker.conn ≠ some conn)
      (silent : ∀ leg : Leg, state.received version conn leg.answer = false) : Position .begun
  | queued (leg : Leg) (held : Held version conn state leg) (away : Away conn state)
      (pending : state.store.jobPending = true) (mode : state.store.pendingJobMode = leg.mode)
      (valid : leg = .finished → state.worker = .idle ∧
        state.store.pendingPhase7Epoch = state.store.phase7Epoch ∧
        state.store.phase7WaitFinished = true) : Position leg.stage
  | decapsulating (epoch : ℕ) (held : Held version conn state .start)
      (worker : state.worker = .decapsulate .phase7AuthStart epoch)
      (epoch_eq : SameU32 epoch state.store.phase7Epoch) : Position .started
  | verifying (epoch : ℕ) (keys : Phase7Keys) (hash finishedC : Block 32)
      (held : Held version conn state .finished)
      (worker : state.worker = .finished7 epoch keys hash finishedC)
      (epoch_eq : SameU32 epoch state.store.phase7Epoch)
      (waiting : state.store.phase7WaitFinished = true) : Position .confirmed
  | done (leg : Leg) (epoch : ℕ) (payload wire : Bytes) (held : Held version conn state leg)
      (worker : state.worker = .jobDone leg.mode epoch .success wire)
      (epoch_eq : SameU32 epoch state.store.phase7Epoch) (stored : leg.Stored state.store)
      (frame : pqPhase7EncodeFrame version leg.answer payload secureWireSize = .ok wire) :
      Position leg.stage
  | answering (leg : Leg) (payload wire : Bytes) (held : Held version conn state leg)
      (worker : state.worker = .callback leg.mode .success wire) (stored : leg.Stored state.store)
      (frame : pqPhase7EncodeFrame version leg.answer payload secureWireSize = .ok wire) :
      Position leg.stage
  | delivering (leg : Leg) (payload wire : Bytes) (freed : Freed conn state leg)
      (worker : state.worker = .deliver leg.mode true .success wire conn)
      (phase : state.main.phase7State = leg.busy)
      (frame : pqPhase7EncodeFrame version leg.answer payload secureWireSize = .ok wire)
      (silent : ∀ other : Leg, other = leg ∨ other = .finished →
        state.received version conn other.answer = false) : Position leg.stage
  | delivered (leg : Leg) (freed : Freed conn state leg) (worker : state.worker = leg.delivered conn)
      (phase : state.main.phase7State = leg.busy)
      (silent : leg = .start → state.received version conn pqPhase7FinishedP = false) :
      Position leg.stage
  | waiting (freed : Freed conn state .start) (worker : state.worker = .idle)
      (phase : state.main.phase7State = .waitFinishedC)
      (silent : state.received version conn pqPhase7FinishedP = false) : Position .started
  | promoted (live : Live conn state) (job : state.main.cryptoJobConn = none)
      (pending : state.store.jobPending = false) (transfer : state.main.transfer.state ≠ .cryptoBusy)
      (authenticated : state.store.phase7Authenticated = true)
      (traffic : state.store.phase7TrafficPending = false)
      (worker : state.worker = .promoted7 conn ∧ state.main.phase7State = .finishedBusy ∨
        state.worker = .idle ∧ state.main.phase7State = .authenticated) : Position .confirmed
  | cancelled (live : Live conn state) (worker : Cancelled state)
      (pending : state.store.jobPending = false)
      (silent : ∀ leg : Leg, state.received version conn leg.answer = false) : Position .started
  | finished (authenticated : state.store.phase7Authenticated = true) : Position .talking

end Position

/-! ## Callbacks of other connections -/

section Others

variable {platform : Platform} {state next : State} {view : WorkerView} {conn held : Conn}
  {version subtype : UInt8} {wire : Bytes}

/-- What a delivery adds to the frames that a connection received. -/
theorem received_queue {frame : Option Bytes}
    (h : next.outbox = (frame.map fun wire ↦ (held, wire)).toList ++ state.outbox) :
    next.received version conn subtype =
      (frame.any (fun wire ↦ decide (held = conn) && carries version subtype wire) ||
        state.received version conn subtype) := by
  unfold State.received
  rw [h]
  cases frame <;> rfl

theorem received_queue_of_ne {frame : Option Bytes}
    (h : next.outbox = (frame.map fun wire ↦ (held, wire)).toList ++ state.outbox) (hne : held ≠ conn) :
    next.received version conn subtype = state.received version conn subtype := by
  rw [received_queue h]
  cases frame with
  | none => rfl
  | some wire => rw [Option.any_some, decide_eq_false hne, Bool.false_and, Bool.false_or]

/-- What a callback of another connection may change. -/
structure Aside (version : UInt8) (conn : Conn) (state next : State) : Prop where
  main : next.main = state.main
  host : next.host = state.host
  keypair : next.store.keypairReady = state.store.keypairReady
  pending : next.store.jobPending = state.store.jobPending
  mode : next.store.pendingJobMode = state.store.pendingJobMode
  received : ∀ subtype, next.received version conn subtype = state.received version conn subtype

theorem writePhase7_of_ne {phase7 : Phase7State} {worker : Worker}
    (h : state.main.currentConn ≠ some held) :
    state.writePhase7 held phase7 worker = { state with worker } := by
  rw [State.writePhase7, if_neg h]

/-- The end of a callback of another connection. -/
theorem Away.step (h : Away conn state) (hversion : ¬platform.resumption)
    (hcurrent : state.main.currentConn = some conn) (hworker : state.worker ≠ .idle)
    (hstep : state.workerStep platform view = some next) :
    Away conn next ∧ Aside version conn state next := by
  obtain ⟨hjob, hresult, hconn⟩ := h
  have hother : ∀ {held : Conn}, state.worker.conn = some held → state.main.currentConn ≠ some held :=
    fun hheld hsame ↦ hconn (hheld.trans (hsame.symm.trans hcurrent))
  unfold State.workerStep at hstep
  cases hbefore : state.worker <;> rw [hbefore] at hstep hjob hresult hconn hother
  all_goals try exact Bool.noConfusion hjob
  all_goals try exact Bool.noConfusion hresult
  case idle => exact absurd hbefore hworker
  case deliver mode valid status wire held =>
    cases hstep
    rw [State.deliver, if_neg (fun hserial ↦ hversion hserial.1)]
    obtain ⟨hjob, hresult, hafter⟩ := afterDelivery_cases mode valid view.sent held
    have hne : held ≠ conn := fun hsame ↦ hconn (congrArg some hsame)
    refine ⟨⟨hjob, hresult, fun hsame ↦ hne (hafter conn hsame).symm⟩, rfl, rfl, rfl, rfl, rfl, fun _ ↦ ?_⟩
    exact received_queue_of_ne rfl hne
  case commit7 held =>
    have hnext : next = { (state.commitPhase7 platform view).2 with
        worker := if (state.commitPhase7 platform view).1 then .promoted7 held else .failed7 held } :=
      (Option.some.inj hstep).symm
    rw [hnext]
    obtain hfailed | ⟨-, hcommitted⟩ := @commitPhase7_cases platform state view hversion
    · rw [hfailed]
      exact ⟨⟨rfl, rfl, hconn⟩, rfl, rfl, rfl, rfl, rfl, fun _ ↦ rfl⟩
    · rw [hcommitted]
      exact ⟨⟨rfl, rfl, hconn⟩, rfl, rfl, rfl, rfl, rfl, fun _ ↦ rfl⟩
  case ready7 held =>
    cases hstep
    rw [writePhase7_of_ne (hother rfl)]
    exact ⟨⟨rfl, rfl, by rintro ⟨⟩⟩, rfl, rfl, rfl, rfl, rfl, fun _ ↦ rfl⟩
  case promoted7 held =>
    cases hstep
    rw [writePhase7_of_ne (hother rfl)]
    exact ⟨⟨rfl, rfl, by rintro ⟨⟩⟩, rfl, rfl, rfl, rfl, rfl, fun _ ↦ rfl⟩
  case failed7 held =>
    cases hstep
    rw [writePhase7_of_ne (hother rfl)]
    exact ⟨⟨rfl, rfl, by rintro ⟨⟩⟩, rfl, rfl, rfl, rfl, rfl, fun _ ↦ rfl⟩
  case failed5 held =>
    cases hstep
    rw [if_neg (hother rfl)]
    exact ⟨⟨rfl, rfl, by rintro ⟨⟩⟩, rfl, rfl, rfl, rfl, rfl, fun _ ↦ rfl⟩
  case reset7 =>
    cases hstep
    exact ⟨⟨rfl, rfl, by rintro ⟨⟩⟩, rfl, rfl, rfl, rfl, rfl, fun _ ↦ rfl⟩
  case reset5 =>
    cases hstep
    exact ⟨⟨rfl, rfl, by rintro ⟨⟩⟩, rfl, rfl, rfl, rfl, rfl, fun _ ↦ rfl⟩

/-- Before its START the connection is left alone by whatever the worker does. -/
theorem Position.begun_workerStep (hslot : Slot state) (hversion : ¬platform.resumption)
    (hcurrent : state.main.currentConn = some conn) (hidle : state.main.phase7State = .idle)
    (hjob : state.main.cryptoJobConn ≠ some conn) (hworker : state.worker.conn ≠ some conn)
    (hsilent : ∀ leg : Leg, state.received version conn leg.answer = false)
    (hstep : state.workerStep platform view = some next) : Position version conn next .begun := by
  by_cases hinJob : state.worker.inJob = true
  · obtain ⟨hnext, -, -, hnone, -⟩ := inJob_step hinJob (hslot.active.trans hinJob) hstep
    rw [hnext]
    exact .begun hcurrent hidle hjob (by rw [hnone]; rintro ⟨⟩) hsilent
  by_cases hresult : state.worker.atResult = true
  · cases hbefore : state.worker <;> rw [hbefore] at hresult
    all_goals try exact Bool.noConfusion hresult
    rename_i mode status wire
    rw [State.workerStep, hbefore] at hstep
    cases hstep
    have hstale : State.jobCurrent state.main = false := by
      by_contra hcurrent'
      rw [Bool.not_eq_false] at hcurrent'
      exact hjob ((waits_of_jobCurrent hcurrent').2.trans hcurrent)
    rcases resultReady_worker mode status wire with hworker' | ⟨held, hheld, -, -⟩
    · refine .begun hcurrent ?_ (by rintro ⟨⟩) (by rw [hworker']; rintro ⟨⟩) hsilent
      simp only [State.resultReady, State.nextPhase7, hidle, hstale, Bool.false_eq_true, if_false, ite_self]
    · exact absurd hheld (by rw [hstale]; exact Bool.false_ne_true)
  by_cases hbefore : state.worker = .idle
  · rw [State.workerStep, hbefore] at hstep
    unfold State.takeJob at hstep
    dsimp only at hstep
    split at hstep
    · cases hstep
    split at hstep <;> cases hstep
    · exact .begun hcurrent hidle hjob hworker hsilent
    · refine .begun hcurrent hidle hjob ?_ hsilent
      dsimp only
      split
      · rw [(jobStart_cases state.store).2]
        rintro ⟨⟩
      · rintro ⟨⟩
  · have haway : Away conn state := ⟨by simpa using hinJob, by simpa using hresult, hworker⟩
    obtain ⟨haway', haside⟩ := haway.step hversion hcurrent hbefore hstep
    exact .begun (by rw [haside.main, hcurrent]) (by rw [haside.main, hidle])
      (by rw [haside.main]; exact hjob) haway'.conn (fun leg ↦ (haside.received _).trans (hsilent leg))

end Others

/-! ## The worker's part -/

section Work

variable {platform : Platform} {state next : State} {view : WorkerView} {conn : Conn} {leg : Leg}
  {epoch : ℕ} {payload wire : Bytes}

/-- The worker finds the pending job. -/
theorem takeJob_eq (hpending : state.store.jobPending = true) (hkeypair : state.store.keypairReady = true)
    (hmode : state.store.pendingJobMode ≠ .phase5Data) (hstep : state.takeJob = some next) :
    next = { state with
      store := { state.store with jobPending := false, jobActive := true }
      worker := if State.jobValid state.store then State.jobStart state.store
        else .jobDone state.store.pendingJobMode (State.pendingEpoch state.store) .invalidProtocolState []
      crc := 0
      workerGeneration := state.jobGeneration
      workerEpoch := State.pendingEpoch state.store } := by
  unfold State.takeJob at hstep
  dsimp only at hstep
  rw [if_neg (by rw [hpending]; exact nofun), if_neg (by rw [hkeypair]; exact nofun)] at hstep
  rw [← Option.some.inj hstep]
  simp only [hmode, and_false, if_false, decide_eq_true_eq]

theorem takeJob_eq_none (h : state.store.jobPending = false) : state.takeJob = none := by
  unfold State.takeJob
  rw [if_pos h]

theorem Position.queued_workerStep (hversion : ¬platform.resumption)
    (held : Held platform.version conn state leg) (away : Away conn state)
    (pending : state.store.jobPending = true) (mode : state.store.pendingJobMode = leg.mode)
    (valid : leg = .finished → state.worker = .idle ∧
      state.store.pendingPhase7Epoch = state.store.phase7Epoch ∧
      state.store.phase7WaitFinished = true)
    (hstep : state.workerStep platform view = some next) :
    Position platform.version conn next leg.stage := by
  obtain ⟨⟨hhost, hcurrent, hnotify, hkeypair⟩, hjob, hgeneration, hphase, hsilent⟩ := held
  by_cases hworker : state.worker = .idle
  · rw [State.workerStep, hworker] at hstep
    rw [takeJob_eq pending hkeypair (by rw [mode]; cases leg <;> rintro ⟨⟩) hstep]
    cases leg with
    | start =>
      by_cases hvalid : State.jobValid state.store
      · rw [if_pos hvalid]
        refine .decapsulating _ ⟨⟨hhost, hcurrent, hnotify, hkeypair⟩, hjob, hgeneration, hphase, hsilent⟩
          (by simp only [State.jobStart, mode, Leg.mode]; rfl) ?_
        simpa [State.jobValid, State.pendingEpoch, mode, Leg.mode, JobMode.isPhase7] using hvalid
      · rw [if_neg hvalid]
        refine .cancelled ⟨hhost, hcurrent, hnotify, hkeypair⟩ ⟨mode, rfl, rfl⟩ rfl fun leg ↦ ?_
        exact hsilent leg (by cases leg <;> simp)
    | finished =>
      obtain ⟨-, hepoch, hwaiting⟩ := valid rfl
      have hvalid : State.jobValid state.store := by
        simp only [State.jobValid, mode, Leg.mode, hepoch, hwaiting]
        exact ⟨rfl, trivial⟩
      rw [if_pos hvalid]
      refine .verifying (State.pendingEpoch state.store) state.store.phase7Keys
        state.store.phase7TranscriptHash state.store.phase7FinishedCJob
        ⟨⟨hhost, hcurrent, hnotify, hkeypair⟩, hjob, hgeneration, hphase, hsilent⟩
        (by simp only [State.jobStart, mode, Leg.mode]) ?_ hwaiting
      simp only [State.pendingEpoch, mode, Leg.mode, JobMode.isPhase7, hepoch]
      rfl
  · cases leg with
    | finished => exact absurd (valid rfl).1 hworker
    | start =>
      obtain ⟨haway, hmain, hhost', hkeypair', hpending', hmode', hreceived⟩ :=
        away.step hversion hcurrent hworker hstep
      exact .queued .start ⟨⟨hhost'.trans hhost, by rw [hmain, hcurrent], by rw [hmain, hnotify],
        hkeypair'.trans hkeypair⟩, by rw [hmain, hjob], by rw [hmain]; exact hgeneration,
        by rw [hmain, hphase], fun other hother ↦ (hreceived _).trans (hsilent other hother)⟩ haway
        (hpending'.trans pending) (hmode'.trans mode) (by rintro ⟨⟩)

theorem Position.decapsulating_workerStep (held : Held platform.version conn state .start)
    (worker : state.worker = .decapsulate .phase7AuthStart epoch)
    (epoch_eq : SameU32 epoch state.store.phase7Epoch) (hsucceeds : Succeeds platform conn state view)
    (hstep : state.workerStep platform view = some next) :
    Position platform.version conn next .started := by
  obtain ⟨⟨hhost, hcurrent, hnotify, hkeypair⟩, hjob, hgeneration, hphase, hsilent⟩ := held
  rw [Succeeds, worker] at hsucceeds
  obtain ⟨hdecaps, hdestroy, hstart⟩ := hsucceeds
  obtain ⟨start, hstart⟩ := Option.isSome_iff_exists.mp hstart
  obtain ⟨ss, hss, hstart⟩ := Option.bind_eq_some_iff.mp hstart
  rw [State.workerStep, worker] at hstep
  have hnext : next = { state with
      store := state.store.storeStart start state.store.sessionIdJob
      worker := .jobDone .phase7AuthStart epoch .success start.ready } := by
    rw [← Option.some.inj hstep]
    simp only [State.runDecapsulate, State.decapsulate, hdecaps, hdestroy, Bool.false_eq_true, if_false, hss,
      hstart, epoch_eq, if_true, State.finish]
  obtain ⟨pair, -, hstart⟩ := Option.bind_eq_some_iff.mp hstart
  obtain ⟨secret, -, hresult⟩ := Option.bind_eq_some_iff.mp hstart
  simp only [phase7AuthStartResult, Option.bind_eq_bind, Option.bind_eq_some_iff, Option.pure_def,
    Option.some.injEq] at hresult
  obtain ⟨hash, -, root, -, keys, -, sas, -, ready, hready, rfl⟩ := hresult
  rw [hnext]
  refine .done .start epoch pair.publicKey ready
    ⟨⟨hhost, hcurrent, hnotify, hkeypair⟩, hjob, hgeneration, hphase, hsilent⟩ rfl epoch_eq rfl ?_
  exact toOption_eq_some_iff.mp hready

theorem Position.verifying_workerStep {keys : Phase7Keys} {hash finishedC : Block 32}
    (held : Held platform.version conn state .finished)
    (worker : state.worker = .finished7 epoch keys hash finishedC)
    (epoch_eq : SameU32 epoch state.store.phase7Epoch)
    (waiting : state.store.phase7WaitFinished = true) (hsucceeds : Succeeds platform conn state view)
    (hstep : state.workerStep platform view = some next) :
    Position platform.version conn next .confirmed := by
  obtain ⟨⟨hhost, hcurrent, hnotify, hkeypair⟩, hjob, hgeneration, hphase, hsilent⟩ := held
  rw [Succeeds, worker] at hsucceeds
  obtain ⟨hexpected, hresult⟩ := hsucceeds
  obtain ⟨⟨finishedP, traffic⟩, hresult⟩ := Option.isSome_iff_exists.mp hresult
  rw [State.workerStep, worker] at hstep
  have hnext : next = { state with
      store := state.store.storeTraffic traffic
      worker := .jobDone .phase7AuthFinishedC epoch .success finishedP } := by
    rw [← Option.some.inj hstep]
    simp only [State.runFinished7, hexpected, ne_eq, not_true_eq_false, if_false, hresult, epoch_eq, waiting,
      and_self, if_true, State.finish]
  simp only [phase7FinishedResult, Option.bind_eq_bind, Option.bind_eq_some_iff, Option.pure_def,
    Option.some.injEq, Prod.mk.injEq] at hresult
  obtain ⟨-, -, -, -, tag, -, sent, hsent, -, -, rfl, -⟩ := hresult
  rw [hnext]
  refine .done .finished epoch tag.bytes sent
    ⟨⟨hhost, hcurrent, hnotify, hkeypair⟩, hjob, hgeneration, hphase, hsilent⟩ rfl epoch_eq
    ⟨rfl, rfl, rfl⟩ ?_
  exact toOption_eq_some_iff.mp hsent

theorem Position.done_workerStep (held : Held platform.version conn state leg)
    (worker : state.worker = .jobDone leg.mode epoch .success wire)
    (epoch_eq : SameU32 epoch state.store.phase7Epoch) (stored : leg.Stored state.store)
    (frame : pqPhase7EncodeFrame platform.version leg.answer payload secureWireSize = .ok wire)
    (hstep : state.workerStep platform view = some next) :
    Position platform.version conn next leg.stage := by
  obtain ⟨⟨hhost, hcurrent, hnotify, hkeypair⟩, hjob, hgeneration, hphase, hsilent⟩ := held
  rw [State.workerStep, worker] at hstep
  have hnext : next = { state with
      store := state.store.finishJob, worker := .callback leg.mode .success wire } := by
    rw [← Option.some.inj hstep]
    simp only [State.finishJob, epoch_eq, not_true_eq_false, and_false, or_false]
    cases leg <;> rfl
  rw [hnext]
  refine .answering leg payload wire
    ⟨⟨hhost, hcurrent, hnotify, hkeypair⟩, hjob, hgeneration, hphase, hsilent⟩ rfl ?_ frame
  cases leg <;> exact stored

/-- The frame of a job is the one the callback expects. -/
theorem resultValid_of_encode
    (frame : pqPhase7EncodeFrame platform.version leg.answer payload secureWireSize = .ok wire) :
    State.resultValid platform.version leg.mode .success wire = true := by
  have hparse := pqPhase7ParseFrame_of_encode frame
  have hwire : wire ≠ [] := by
    rintro rfl
    cases hparse
  have hlength : validPhase7Payload leg.answer payload = true := by
    simp only [pqPhase7EncodeFrame, except_bind_eq_ok_iff, require_eq_ok_iff, exists_and_left] at frame
    exact frame.1
  cases leg with
  | start =>
    simp only [validPhase7Payload, Leg.answer, pqPhase7Start7, pqPhase7Start7Auth, pqPhase7Ready7Cp2,
      pqPhase7Ready7Auth] at hlength hparse
    simp_all [State.resultValid, State.isFrame, Leg.mode, pqPhase7Ready7Auth]
  | finished =>
    have hvalid := (validPhase7Payload_finished (.inr rfl) payload).mp hlength
    simp_all [State.resultValid, State.isFrame, Leg.mode, Leg.answer]

theorem Position.answering_workerStep (hslot : Slot state)
    (held : Held platform.version conn state leg)
    (worker : state.worker = .callback leg.mode .success wire) (stored : leg.Stored state.store)
    (frame : pqPhase7EncodeFrame platform.version leg.answer payload secureWireSize = .ok wire)
    (hstep : state.workerStep platform view = some next) :
    Position platform.version conn next leg.stage := by
  obtain ⟨⟨hhost, hcurrent, hnotify, hkeypair⟩, hjob, hgeneration, hphase, hsilent⟩ := held
  have hpending := (hslot.alone (.inr (by rw [worker]; rfl))).1
  have hjobCurrent : State.jobCurrent state.main = true := by
    simp [State.jobCurrent, hjob, hcurrent, hgeneration, hnotify]
  rw [State.workerStep, worker] at hstep
  obtain rfl := Option.some.inj hstep
  have hworker : (state.resultReady platform leg.mode .success wire).worker =
      .deliver leg.mode true .success wire conn := by
    simp only [State.resultReady, hjob, hjobCurrent, if_true, resultValid_of_encode frame]
  have hphase' : (state.resultReady platform leg.mode .success wire).main.phase7State =
      state.main.phase7State := by
    cases leg <;> rfl
  refine .delivering leg payload wire ⟨⟨hhost, hcurrent, hnotify, hkeypair⟩, rfl, hpending, ?_, ?_⟩
    hworker (hphase'.trans hphase) frame hsilent
  · dsimp only [State.resultReady]
    split
    · rintro ⟨⟩
    · assumption
  · cases leg <;> exact stored

theorem Position.delivering_workerStep (hversion : ¬platform.resumption) (freed : Freed conn state leg)
    (worker : state.worker = .deliver leg.mode true .success wire conn)
    (phase : state.main.phase7State = leg.busy)
    (frame : pqPhase7EncodeFrame platform.version leg.answer payload secureWireSize = .ok wire)
    (silent : ∀ other : Leg, other = leg ∨ other = .finished →
      state.received platform.version conn other.answer = false)
    (hsucceeds : Succeeds platform conn state view)
    (hstep : state.workerStep platform view = some next) :
    Position platform.version conn next leg.stage := by
  obtain ⟨⟨hhost, hcurrent, hnotify, hkeypair⟩, hjob, hpending, htransfer, hstored⟩ := freed
  rw [Succeeds, worker] at hsucceeds
  have hsent : view.sent = true := hsucceeds rfl
  rw [State.workerStep, worker] at hstep
  obtain rfl := Option.some.inj hstep
  rw [State.deliver, if_neg (fun hserial ↦ hversion hserial.1)]
  refine .delivered leg ⟨⟨hhost, hcurrent, hnotify, hkeypair⟩, hjob, hpending, htransfer, ?_⟩ ?_ phase ?_
  · cases leg <;> exact hstored
  · rw [hsent]
    cases leg <;> rfl
  · rintro rfl
    have hquiet : state.received platform.version conn pqPhase7FinishedP = false :=
      silent .finished (.inr rfl)
    have hcarries : carries platform.version pqPhase7FinishedP wire = false := by
      rw [carries_of_encode frame]
      decide
    rw [received_queue rfl, hquiet, Bool.or_false]
    simp [State.delivered, State.deliveryFrame, Leg.mode, hsent, hcarries]

/-- The commit finds the keys of the verified FINISHED_C and a free slot. -/
theorem Freed.commits (freed : Freed conn state .finished) (hslot : Slot state)
    (hversion : ¬platform.resumption) (hworker : state.worker.inJob = false) :
    state.commitPhase7 platform view = (true, { state with
      store := state.store.promote, installed := state.store.phase7PendingTrafficKeys }) := by
  obtain ⟨⟨-, -, -, hkeypair⟩, -, hpending, -, htraffic, hwaiting, hauthenticated⟩ := freed
  have hready : state.store.commitReady = .ok () := commitReady_eq_ok_iff.mpr
    ⟨hkeypair, htraffic, hwaiting, hauthenticated, hpending, hslot.active.trans hworker⟩
  rw [State.commitPhase7, hready]
  dsimp only
  rw [if_neg hversion]
  rfl

theorem Position.delivered_workerStep (hslot : Slot state) (hversion : ¬platform.resumption)
    (freed : Freed conn state leg) (worker : state.worker = leg.delivered conn)
    (phase : state.main.phase7State = leg.busy)
    (silent : leg = .start → state.received platform.version conn pqPhase7FinishedP = false)
    (hstep : state.workerStep platform view = some next) :
    Position platform.version conn next leg.stage := by
  cases leg with
  | start =>
    obtain ⟨⟨hhost, hcurrent, hnotify, hkeypair⟩, hjob, hpending, htransfer, hstored⟩ := freed
    rw [State.workerStep, worker] at hstep
    obtain rfl := Option.some.inj hstep
    exact .waiting ⟨⟨hhost, hcurrent, hnotify, hkeypair⟩, hjob, hpending, htransfer, hstored⟩ rfl
      (if_pos hcurrent) (silent rfl)
  | finished =>
    have hcommit := @Freed.commits platform state view conn freed hslot hversion
      (by rw [worker]; rfl)
    obtain ⟨⟨hhost, hcurrent, hnotify, hkeypair⟩, hjob, hpending, htransfer, hstored⟩ := freed
    rw [State.workerStep, worker] at hstep
    have hnext : next = { (state.commitPhase7 platform view).2 with
        worker := if (state.commitPhase7 platform view).1 then .promoted7 conn else .failed7 conn } :=
      (Option.some.inj hstep).symm
    rw [hnext, hcommit]
    exact .promoted ⟨hhost, hcurrent, hnotify, hkeypair⟩ hjob hpending htransfer rfl rfl
      (.inl ⟨rfl, phase⟩)

theorem Position.promoted_workerStep (live : Live conn state) (job : state.main.cryptoJobConn = none)
    (pending : state.store.jobPending = false) (transfer : state.main.transfer.state ≠ .cryptoBusy)
    (authenticated : state.store.phase7Authenticated = true)
    (traffic : state.store.phase7TrafficPending = false)
    (worker : state.worker = .promoted7 conn ∧ state.main.phase7State = .finishedBusy ∨
      state.worker = .idle ∧ state.main.phase7State = .authenticated)
    (hstep : state.workerStep platform view = some next) :
    Position platform.version conn next .confirmed := by
  obtain ⟨hhost, hcurrent, hnotify, hkeypair⟩ := live
  obtain ⟨hworker, -⟩ | ⟨hworker, -⟩ := worker
  · rw [State.workerStep, hworker] at hstep
    obtain rfl := Option.some.inj hstep
    exact .promoted ⟨hhost, hcurrent, hnotify, hkeypair⟩ job pending transfer authenticated traffic
      (.inr ⟨rfl, if_pos hcurrent⟩)
  · rw [State.workerStep, hworker] at hstep
    exact absurd hstep (by rw [takeJob_eq_none pending]; rintro ⟨⟩)

/-- The result of a cancelled START reaches the Central as an error. -/
theorem Position.cancelled_workerStep (hversion : ¬platform.resumption) (live : Live conn state)
    (worker : Cancelled state) (pending : state.store.jobPending = false)
    (silent : ∀ leg : Leg, state.received platform.version conn leg.answer = false)
    (hstep : state.workerStep platform view = some next) :
    Position platform.version conn next .started := by
  obtain ⟨hhost, hcurrent, hnotify, hkeypair⟩ := live
  unfold State.workerStep at hstep
  unfold Cancelled at worker
  cases hbefore : state.worker <;> rw [hbefore] at hstep worker
  all_goals try exact worker.elim
  case idle => exact absurd hstep (by rw [takeJob_eq_none pending]; exact nofun)
  case jobDone mode epoch status wire =>
    obtain ⟨rfl, rfl, rfl⟩ := worker
    obtain rfl := Option.some.inj hstep
    refine .cancelled ⟨hhost, hcurrent, hnotify, hkeypair⟩ ?_ pending silent
    have hworker : (state.finishJob .phase7AuthStart epoch .invalidProtocolState []).worker =
        .callback .phase7AuthStart .invalidProtocolState [] := by
      simp only [State.finishJob, ite_self]
    rw [Cancelled, hworker]
    exact ⟨rfl, rfl, rfl⟩
  case callback mode status wire =>
    obtain ⟨rfl, rfl, rfl⟩ := worker
    obtain rfl := Option.some.inj hstep
    refine .cancelled ⟨hhost, hcurrent, hnotify, hkeypair⟩ ?_ pending silent
    rcases @resultReady_worker platform state .phase7AuthStart .invalidProtocolState [] with
      hworker | ⟨held, -, -, hworker⟩
    · rw [Cancelled, hworker]
      trivial
    · rw [Cancelled, hworker]
      exact ⟨rfl, rfl⟩
  case deliver mode valid status wire held =>
    obtain ⟨rfl, rfl⟩ := worker
    obtain rfl := Option.some.inj hstep
    rw [State.deliver, if_neg (fun hserial ↦ hversion hserial.1)]
    refine .cancelled ⟨hhost, hcurrent, hnotify, hkeypair⟩ ?_ pending fun leg ↦ ?_
    · simp [Cancelled, State.afterDelivery]
    · have herror : carries platform.version leg.answer (State.phase7Error platform.version status) =
          false := carries_phase7Error status (by cases leg <;> decide)
      rw [received_queue rfl, silent leg, Bool.or_false, State.delivered]
      cases view.sent <;> simp [State.deliveryFrame, herror]
  case failed7 held =>
    obtain rfl := Option.some.inj hstep
    exact .cancelled ⟨hhost, hcurrent, hnotify, hkeypair⟩ trivial pending silent
  case reset7 =>
    obtain rfl := Option.some.inj hstep
    exact .cancelled ⟨hhost, hcurrent, hnotify, hkeypair⟩ trivial pending silent

end Work

/-! ## The writes of the Central -/

section Writes

variable {platform : Platform} {state next : State} {view : WorkerView} {conn : Conn} {leg : Leg}
  {version : UInt8} {stage : Stage}

theorem handlePhase7FinishedC_taken (freed : Freed conn state .start)
    (hactive : state.store.jobActive = false) (hphase : state.main.phase7State = .waitFinishedC)
    (payload : Block 32) :
    state.handlePhase7FinishedC conn payload = (.ok (), state.accepted conn
      { state.store with
        phase7FinishedCJob := payload, pendingJobMode := .phase7AuthFinishedC
        pendingPhase7Epoch := state.store.phase7Epoch, jobPending := true }
      state.main.phase5State .finishedBusy { state.main.transfer with state := .cryptoBusy }) := by
  obtain ⟨⟨-, hcurrent, hnotify, hkeypair⟩, hjob, hpending, -, hwaiting⟩ := freed
  have hsubmit := (@submitPhase7FinishedC_eq_ok_iff _ _ payload).mpr
    ⟨⟨hkeypair, hwaiting, hpending, hactive⟩, rfl⟩
  simp only [State.handlePhase7FinishedC, hcurrent, hnotify, hphase, hjob, hsubmit, ne_eq, not_true_eq_false,
    Bool.true_eq_false, or_self, if_false]
  rfl

theorem handlePhase7FinishedC_refused (hphase : state.main.phase7State ≠ .waitFinishedC)
    (payload : Block 32) : (state.handlePhase7FinishedC conn payload).1 ≠ .ok () := by
  unfold State.handlePhase7FinishedC
  dsimp only
  split
  · exact nofun
  rw [if_pos (.inl hphase)]
  exact nofun

theorem writeSecureData_taken (live : Live conn state) (hjob : state.main.cryptoJobConn = none)
    (hpending : state.store.jobPending = false) (hactive : state.store.jobActive = false)
    (htransfer : state.main.transfer.state ≠ .cryptoBusy)
    (hauthenticated : state.store.phase7Authenticated = true)
    (htraffic : state.store.phase7TrafficPending = false)
    (hphase : state.main.phase7State = .authenticated) {data : Bytes}
    (hmin : pqSecureFixedOverhead ≤ data.length) (hmax : data.length ≤ pqSecureMaxWireSize) :
    (state.writeSecureData conn data 0).1 = .ok () ∧
      (state.writeSecureData conn data 0).2.store.phase7Authenticated = true := by
  obtain ⟨-, hcurrent, hnotify, hkeypair⟩ := live
  have hready : state.secureDataReady conn data 0 = .ok true := State.secureDataReady_eq_ok_iff.mpr
    ⟨⟨rfl, hmin, hmax, hcurrent, hnotify, hjob, htransfer⟩, .inl ⟨hphase, rfl⟩⟩
  have hsubmit := (@submitPhase7C2p_eq_ok_iff _ _ data).mpr
    ⟨⟨hmin, hmax, hkeypair, hauthenticated, htraffic, hpending, hactive⟩, rfl⟩
  simp only [State.writeSecureData, hready, if_true, hsubmit]
  exact ⟨trivial, hauthenticated⟩

theorem writeSecureData_refused (hphase : state.main.phase7State = .finishedBusy) (data : Bytes)
    (offset : ℕ) : (state.writeSecureData conn data offset).1 ≠ .ok () := by
  unfold State.writeSecureData
  split
  · exact nofun
  rename_i usePhase7 hready
  obtain ⟨-, ⟨hphase', -⟩ | ⟨hphase', -, -⟩⟩ := State.secureDataReady_eq_ok_iff.mp hready
  · exact absurd (hphase.symm.trans hphase') nofun
  · exact absurd (hphase.symm.trans hphase') nofun

/-- After its START the link is live until the exchange ends. -/
theorem Position.live (h : Position version conn state stage) (hbegun : stage ≠ .begun)
    (htalking : stage ≠ .talking) : Live conn state := by
  cases h with
  | begun => exact absurd rfl hbegun
  | finished => exact absurd rfl htalking
  | queued _ held | decapsulating _ held | verifying _ _ _ _ held | done _ _ _ _ held
  | answering _ _ _ held => exact held.toLive
  | delivering _ _ _ freed | delivered _ freed | waiting freed => exact freed.toLive
  | promoted live | cancelled live => exact live

/-- A Central that received READY7_AUTH finds the callback at its last section, or returned. -/
theorem Position.of_ready (h : Position version conn state .started)
    (hready : state.received version conn pqPhase7Ready7Auth = true) :
    (state.worker ≠ .idle ∧ state.main.phase7State ≠ .waitFinishedC) ∨
      state.worker = .idle ∧ Freed conn state .start ∧ state.main.phase7State = .waitFinishedC ∧
        state.received version conn pqPhase7FinishedP = false := by
  generalize hstage : Stage.started = stage at h
  have hsilent : ∀ {leg : Leg}, Stage.started = leg.stage →
      (∀ other : Leg, other = leg ∨ other = .finished →
        state.received version conn other.answer = false) → False := by
    intro leg hleg hsilent
    cases leg with
    | start => exact Bool.noConfusion (hready.symm.trans (hsilent .start (.inl rfl)))
    | finished => cases hleg
  cases h with
  | begun => cases hstage
  | finished => cases hstage
  | promoted => cases hstage
  | verifying => cases hstage
  | queued leg held => exact (hsilent hstage held.silent).elim
  | decapsulating _ held => exact (@hsilent .start rfl held.silent).elim
  | done leg _ _ _ held => exact (hsilent hstage held.silent).elim
  | answering leg _ _ held => exact (hsilent hstage held.silent).elim
  | delivering leg _ _ _ _ _ _ silent => exact (hsilent hstage silent).elim
  | cancelled _ _ _ silent =>
    exact Bool.noConfusion (hready.symm.trans (silent .start))
  | delivered leg _ worker phase =>
    refine .inl ⟨by rw [worker]; cases leg <;> exact nofun, ?_⟩
    rw [phase]
    cases leg <;> exact nofun
  | waiting freed worker phase silent => exact .inr ⟨worker, freed, phase, silent⟩

/-- A Central that received FINISHED_P finds the commit, the last section of the callback, or the secure
state. -/
theorem Position.of_finished (h : Position version conn state stage)
    (hfinished : state.received version conn pqPhase7FinishedP = true) :
    (state.worker = .commit7 conn ∧ Freed conn state .finished ∧
        state.main.phase7State = .finishedBusy) ∨
      state.store.phase7Authenticated = true ∧ (stage = .talking ∨
        state.worker ≠ .idle ∧ state.main.phase7State = .finishedBusy ∨
        state.worker = .idle ∧ Live conn state ∧ state.main.cryptoJobConn = none ∧
          state.store.jobPending = false ∧ state.main.transfer.state ≠ .cryptoBusy ∧
          state.store.phase7TrafficPending = false ∧ state.main.phase7State = .authenticated) := by
  have hsilent : ∀ {leg : Leg}, (∀ other : Leg, other = leg ∨ other = .finished →
      state.received version conn other.answer = false) → False := by
    intro leg hsilent
    exact Bool.noConfusion (hfinished.symm.trans (hsilent .finished (.inr rfl)))
  cases h with
  | begun _ _ _ _ silent => exact (@hsilent .start fun other _ ↦ silent other).elim
  | cancelled _ _ _ silent => exact (@hsilent .start fun other _ ↦ silent other).elim
  | queued leg held => exact (hsilent held.silent).elim
  | decapsulating _ held => exact (hsilent held.silent).elim
  | verifying _ _ _ _ held => exact (hsilent held.silent).elim
  | done leg _ _ _ held => exact (hsilent held.silent).elim
  | answering leg _ _ held => exact (hsilent held.silent).elim
  | delivering leg _ _ _ _ _ _ silent => exact (hsilent silent).elim
  | waiting _ _ _ silent => exact Bool.noConfusion (hfinished.symm.trans silent)
  | delivered leg freed worker phase silent =>
    cases leg with
    | start => exact Bool.noConfusion (hfinished.symm.trans (silent rfl))
    | finished => exact .inl ⟨worker, freed, phase⟩
  | finished authenticated => exact .inr ⟨authenticated, .inl rfl⟩
  | promoted live job pending transfer authenticated traffic worker =>
    obtain ⟨hworker, hphase⟩ | ⟨hworker, hphase⟩ := worker
    · exact .inr ⟨authenticated, .inr (.inl ⟨by rw [hworker]; exact nofun, hphase⟩)⟩
    · exact .inr ⟨authenticated, .inr (.inr ⟨hworker, live, job, pending, transfer, traffic, hphase⟩)⟩

end Writes

/-! ## Whole exchanges -/

/-- What holds between any two steps of an exchange. -/
structure Orderly (platform : Platform) (conn : Conn) (exchange : Exchange) : Prop where
  slot : Slot exchange.firmware
  position : Position platform.version conn exchange.firmware exchange.stage

section Exchanges

variable {platform : Platform} {conn : Conn} {exchange next : Exchange} {action : Action}

theorem exchangeStep_eq_some (h : exchangeStep platform conn exchange action = some next) :
    exchange.stage ≠ .talking ∧ Honest platform conn exchange action ∧
      ∃ firmware, step platform exchange.firmware action = some firmware ∧
        next = ⟨firmware, exchange.stage.after exchange.firmware action⟩ := by
  unfold exchangeStep at h
  split_ifs at h with henabled
  obtain ⟨firmware, hstep, hnext⟩ := Option.map_eq_some_iff.mp h
  exact ⟨henabled.1, henabled.2, firmware, hstep, hnext.symm⟩

theorem Orderly.workerStep (h : Orderly platform conn exchange) (hversion : ¬platform.resumption)
    {view : WorkerView} {firmware : State} (htalking : exchange.stage ≠ .talking)
    (hsucceeds : Succeeds platform conn exchange.firmware view)
    (hstep : exchange.firmware.workerStep platform view = some firmware) :
    Position platform.version conn firmware exchange.stage := by
  obtain ⟨hslot, hposition⟩ := h
  generalize exchange.stage = stage at hposition htalking ⊢
  cases hposition with
  | begun current idle job worker silent =>
    exact .begun_workerStep hslot hversion current idle job worker silent hstep
  | queued leg held away pending mode valid =>
    exact .queued_workerStep hversion held away pending mode valid hstep
  | decapsulating epoch held worker epoch_eq =>
    exact .decapsulating_workerStep held worker epoch_eq hsucceeds hstep
  | verifying epoch keys hash finishedC held worker epoch_eq waiting =>
    exact .verifying_workerStep held worker epoch_eq waiting hsucceeds hstep
  | done leg epoch payload wire held worker epoch_eq stored frame =>
    exact .done_workerStep held worker epoch_eq stored frame hstep
  | answering leg payload wire held worker stored frame =>
    exact .answering_workerStep hslot held worker stored frame hstep
  | delivering leg payload wire freed worker phase frame silent =>
    exact .delivering_workerStep hversion freed worker phase frame silent hsucceeds hstep
  | delivered leg freed worker phase silent =>
    exact .delivered_workerStep hslot hversion freed worker phase silent hstep
  | waiting freed worker =>
    rw [State.workerStep, worker] at hstep
    exact absurd hstep (by rw [takeJob_eq_none freed.pending]; rintro ⟨⟩)
  | promoted live job pending transfer authenticated traffic worker =>
    exact .promoted_workerStep live job pending transfer authenticated traffic worker hstep
  | cancelled live worker pending silent =>
    exact .cancelled_workerStep hversion live worker pending silent hstep
  | finished => exact absurd rfl htalking

/-- A handler runs once the host has finished its callback before. -/
theorem step_call {state firmware : State} (hstep : step platform state action = some firmware)
    (hcall : action.isCall = true) :
    state.host = [] ∧ state.call platform action = some firmware := by
  unfold step at hstep
  split at hstep
  · exact Bool.noConfusion hcall
  · exact Bool.noConfusion hcall
  · exact Bool.noConfusion hcall
  · split_ifs at hstep with hidle
    exact ⟨hidle, hstep⟩

/-- Before its START nothing of the exchange is in the firmware. -/
theorem Position.of_begun {version : UInt8} {state : State} (h : Position version conn state .begun) :
    state.main.currentConn = some conn ∧ state.main.phase7State = .idle ∧
      state.main.cryptoJobConn ≠ some conn ∧ state.worker.conn ≠ some conn ∧
      ∀ leg : Leg, state.received version conn leg.answer = false := by
  generalize hstage : Stage.begun = stage at h
  cases h with
  | begun current idle job worker silent => exact ⟨current, idle, job, worker, silent⟩
  | queued leg | done leg | answering leg | delivering leg | delivered leg => cases leg <;> cases hstage
  | _ => cases hstage

/-- The START of the Central is refused, or its job is queued. -/
theorem Orderly.start (hslot : Slot exchange.firmware)
    (hposition : Position platform.version conn exchange.firmware .begun)
    {sid : Block 16} {centralKey : Bytes} {mtu : ℕ} (hidle : exchange.firmware.host = []) :
    Position platform.version conn
      (exchange.firmware.handleStart conn .phase7AuthStart sid centralKey mtu).2
      (Stage.begun.after exchange.firmware (.start conn .phase7AuthStart sid centralKey mtu)) := by
  obtain ⟨current, idle, job, worker, silent⟩ := hposition.of_begun
  have hafter : Stage.begun.after exchange.firmware (.start conn .phase7AuthStart sid centralKey mtu) =
      if (exchange.firmware.handleStart conn .phase7AuthStart sid centralKey mtu).1 = .ok () then .started
      else .begun := rfl
  rw [hafter]
  obtain ⟨hanswer, generation, transfer, hnext, -⟩ | ⟨hanswer, hfree, hready, -, -, store, hsubmit, hnext⟩ :=
    @State.handleStart_answer_cases exchange.firmware conn .phase7AuthStart sid centralKey mtu
  · rw [if_neg hanswer, hnext]
    exact .begun current idle job worker silent
  · rw [if_pos hanswer, hnext]
    have hflight := hslot.not_inFlight hfree (.inl (by rw [hready]; exact nofun))
    have hjobless : exchange.firmware.worker.inJob = false :=
      Bool.eq_false_iff.mpr fun hjob ↦ hflight (.inr (.inl hjob))
    have hresultless : exchange.firmware.worker.atResult = false :=
      Bool.eq_false_iff.mpr fun hresult ↦ hflight (.inr (.inr hresult))
    obtain ⟨-, -, ⟨-, rfl⟩ | ⟨hmode, -⟩⟩ := State.submitStart_eq_ok hsubmit
    · have hkeypair : exchange.firmware.store.keypairReady = true :=
        (submitPhase7Auth_eq_ok_iff.mp hsubmit).1.2.2.1
      exact .queued .start
        ⟨⟨hidle, current, hfree.2.1, hkeypair⟩, rfl, SameU32.refl _, rfl, fun other _ ↦ silent other⟩
        ⟨hjobless, hresultless, worker⟩ rfl rfl nofun
    · exact absurd rfl hmode

/-- The host finishes its callback before the START. -/
theorem Position.hostStep {version : UInt8} {state firmware : State} {stage : Stage}
    (h : Position version conn state stage) (htalking : stage ≠ .talking)
    (hstep : state.hostStep = some firmware) : Position version conn firmware stage := by
  by_cases hbegun : stage = .begun
  · subst hbegun
    obtain ⟨current, idle, job, worker, silent⟩ := h.of_begun
    unfold State.hostStep at hstep
    split at hstep <;> cases hstep
    · exact .begun current idle job worker silent
    · exact .begun current idle job worker silent
    · exact .begun current rfl job worker silent
    · split
      · exact .begun current rfl job worker silent
      · exact .begun current idle job worker silent
  · rw [State.hostStep, (h.live hbegun htalking).host] at hstep
    cases hstep

/-- Another subscription changes nothing. -/
theorem Position.subscribed {version : UInt8} {state : State} {stage : Stage} (platform : Platform)
    (now : ℤ) (h : Position version conn state stage) (htalking : stage ≠ .talking) :
    Position version conn (state.cccConfigChanged platform true now) stage := by
  by_cases hbegun : stage = .begun
  · subst hbegun
    obtain ⟨current, idle, job, worker, silent⟩ := h.of_begun
    exact .begun current idle job worker silent
  · have hnotify := (h.live hbegun htalking).notify
    have hsame : state.cccConfigChanged platform true now = state := by
      rw [State.cccConfigChanged, if_pos rfl, ← hnotify]
    rw [hsame]
    exact h

/-- Every prompt step keeps the exchange orderly. -/
theorem Orderly.step (h : Orderly platform conn exchange) (hversion : ¬platform.resumption)
    (hprompt : Prompt platform conn exchange action)
    (hnext : exchangeStep platform conn exchange action = some next) :
    Orderly platform conn next := by
  have hreply := hprompt (by rw [hnext]; rfl)
  obtain ⟨htalking, hhonest, firmware, hstep, rfl⟩ := exchangeStep_eq_some hnext
  refine ⟨h.slot.step hstep, ?_⟩
  cases action <;> try exact hhonest.elim
  case worker view => exact h.workerStep hversion htalking hhonest hstep
  case host => exact h.position.hostStep htalking hstep
  all_goals
    obtain ⟨hidle, hcall⟩ := step_call hstep rfl
  case ccc enabled now =>
    obtain rfl : enabled = true := hhonest
    obtain rfl := Option.some.inj hcall
    exact h.position.subscribed platform now htalking
  case ciphertext held fragment =>
    obtain ⟨rfl, hbegun⟩ := hhonest
    obtain rfl := Option.some.inj hcall
    have hposition := h.position
    rw [hbegun] at hposition
    obtain ⟨current, idle, job, worker, silent⟩ := hposition.of_begun
    obtain ⟨generation, transfer, hsame, -⟩ :=
      @State.writeCiphertext_refused exchange.firmware held fragment
    simp only [Stage.after, hbegun]
    rw [hsame]
    exact .begun current idle job worker silent
  case start held mode sid centralKey mtu =>
    obtain ⟨rfl, rfl, hbegun⟩ := hhonest
    have hposition := h.position
    rw [hbegun] at hposition
    rw [State.call, if_pos ⟨rfl, fun _ ↦ rfl⟩] at hcall
    obtain rfl := Option.some.inj hcall
    simp only [hbegun]
    exact Orderly.start h.slot hposition hidle
  case finishedC held payload =>
    obtain ⟨rfl, hstarted, hready⟩ := hhonest
    have hposition := h.position
    rw [hstarted] at hposition
    obtain ⟨hbusy, -⟩ | ⟨hworker, freed, hphase, hsilent⟩ := hposition.of_ready hready
    · exact absurd (hreply rfl) hbusy
    · obtain rfl := Option.some.inj hcall
      have hactive : exchange.firmware.store.jobActive = false :=
        h.slot.active.trans (by rw [hworker]; rfl)
      rw [handlePhase7FinishedC_taken freed hactive hphase payload]
      refine .queued .finished ⟨⟨hidle, freed.current, freed.notify, freed.keypair⟩, rfl, SameU32.refl _, rfl,
        ?_⟩ ⟨?_, ?_, ?_⟩ rfl rfl fun _ ↦ ⟨hworker, rfl, freed.stored⟩
      · rintro (_ | _) hother
        · rcases hother with hother | hother <;> cases hother
        · exact hsilent
      all_goals
        rw [show (exchange.firmware.accepted _ _ _ _ _).worker = exchange.firmware.worker from rfl, hworker]
      · rfl
      · rfl
      · exact nofun
  case secureData held data offset =>
    obtain ⟨rfl, hconfirmed, hfinished, rfl, hmin, hmax⟩ := hhonest
    obtain ⟨hworker, -⟩ | ⟨hauthenticated, hrest⟩ := h.position.of_finished hfinished
    · exact absurd ((hreply rfl).symm.trans hworker) nofun
    obtain hdone | ⟨hbusy, -⟩ | ⟨hworker, live, hjob, hpending, htransfer, htraffic, hphase⟩ := hrest
    · exact absurd hdone htalking
    · exact absurd (hreply rfl) hbusy
    · obtain rfl := Option.some.inj hcall
      have hactive : exchange.firmware.store.jobActive = false :=
        h.slot.active.trans (by rw [hworker]; rfl)
      exact .finished (writeSecureData_taken live hjob hpending hactive htransfer hauthenticated htraffic
        hphase hmin hmax).2

/-- **On an orderly exchange a write that follows an answer is taken exactly when the callback that notified
the answer has returned.** -/
theorem Orderly.prompt_iff (h : Orderly platform conn exchange) (hversion : ¬platform.resumption) :
    Prompt platform conn exchange action ↔ InOrder platform conn exchange action := by
  obtain ⟨hslot, hposition⟩ := h
  have hcommitted (hfinished : exchange.firmware.received platform.version conn pqPhase7FinishedP = true) :
      Committed platform conn exchange.firmware := by
    obtain ⟨hworker, freed, -⟩ | ⟨hauthenticated, -⟩ := hposition.of_finished hfinished
    · refine .inl ⟨hworker, fun view ↦ ?_⟩
      rw [freed.commits hslot hversion (by rw [hworker]; rfl)]
    · exact .inr hauthenticated
  have htaken (henabled : (exchangeStep platform conn exchange action).isSome = true)
      (hreply : action.isReply = true) :
      exchange.firmware.worker = .idle ↔ exchange.firmware.answer action = .ok () := by
    obtain ⟨next, hnext⟩ := Option.isSome_iff_exists.mp henabled
    obtain ⟨htalking, hhonest, -⟩ := exchangeStep_eq_some hnext
    cases action <;> try exact Bool.noConfusion hreply
    case finishedC held payload =>
      obtain ⟨rfl, hstarted, hready⟩ := hhonest
      rw [hstarted] at hposition
      obtain ⟨hbusy, hphase⟩ | ⟨hworker, freed, hphase, -⟩ := hposition.of_ready hready
      · exact iff_of_false hbusy (handlePhase7FinishedC_refused hphase payload)
      · refine iff_of_true hworker ?_
        have hactive : exchange.firmware.store.jobActive = false :=
          hslot.active.trans (by rw [hworker]; rfl)
        exact congrArg Prod.fst (handlePhase7FinishedC_taken freed hactive hphase payload)
    case secureData held data offset =>
      obtain ⟨rfl, hconfirmed, hfinished, rfl, hmin, hmax⟩ := hhonest
      obtain ⟨hworker, -, hphase⟩ | ⟨hauthenticated, hrest⟩ := hposition.of_finished hfinished
      · exact iff_of_false (by rw [hworker]; exact nofun) (writeSecureData_refused hphase data 0)
      obtain hdone | ⟨hbusy, hphase⟩ | ⟨hworker, live, hjob, hpending, htransfer, htraffic, hphase⟩ := hrest
      · exact absurd hdone htalking
      · exact iff_of_false hbusy (writeSecureData_refused hphase data 0)
      · refine iff_of_true hworker ?_
        have hactive : exchange.firmware.store.jobActive = false :=
          hslot.active.trans (by rw [hworker]; rfl)
        exact (writeSecureData_taken live hjob hpending hactive htransfer hauthenticated htraffic hphase
          hmin hmax).1
  constructor
  · exact fun hprompt ↦
      ⟨fun henabled hreply ↦ (htaken henabled hreply).mp (hprompt henabled hreply), hcommitted⟩
  · exact fun hinOrder henabled hreply ↦ (htaken henabled hreply).mpr (hinOrder.taken henabled hreply)

/-- A new link leaves the worker with at most a callback of an earlier connection. -/
theorem orderly_connected {state opened : State} (hslot : Slot state) {clock now : ℤ}
    (hopen : step platform state (.connected conn clock now) = some opened) :
    Orderly platform conn ⟨{ opened with outbox := [] }, .begun⟩ := by
  have hopened := hslot.step hopen
  obtain ⟨-, hcall⟩ := step_call hopen rfl
  rw [State.call] at hcall
  split at hcall <;> cases hcall
  rename_i hreferenced
  have hfresh : state.main.cryptoJobConn ≠ some conn ∧ state.worker.conn ≠ some conn :=
    ⟨fun hjob ↦ hreferenced (.inr (.inl hjob)), fun hworker ↦ hreferenced (.inr (.inr hworker))⟩
  exact ⟨⟨hopened.active, hopened.alone, hopened.busy, hopened.stale, hopened.waits, hopened.owner,
    hopened.order, hopened.conn⟩, .begun rfl rfl hfresh.1 hfresh.2 fun _ ↦ rfl⟩

end Exchanges

/-- **The order of a Phase 7 exchange.**  On every link of v0.7, whatever ran before it, the writes of an
honest Central are taken and what it received is committed, exactly when each of its answers' callbacks
returned before the write that follows. -/
theorem phase7_ordering (platform : Platform) (hversion : platform.version = pqV07) (history : List Action)
    (state opened : State) (hrun : run (step platform) State.boot history = some state) (conn : Conn)
    (clock now : ℤ) (hopen : step platform state (.connected conn clock now) = some opened)
    (actions : List Action) :
    Meets (exchangeStep platform conn) (Prompt platform conn) ⟨{ opened with outbox := [] }, .begun⟩
        actions ↔
      Meets (exchangeStep platform conn) (InOrder platform conn) ⟨{ opened with outbox := [] }, .begun⟩
        actions := by
  have hold : ¬platform.resumption := fun hresumption ↦
    absurd (hversion.symm.trans hresumption) (by decide)
  have hslot : Slot state := run_invariant (fun _ _ _ hslot hstep ↦ hslot.step hstep) slot_boot hrun
  exact meets_iff (fun exchange action h ↦ h.prompt_iff hold)
    (fun exchange action next h hprompt hstep ↦ h.step hold hprompt hstep)
    (orderly_connected hslot hopen) actions

/-! ## Two exchanges -/

/-- A link that subscribes, sends its ciphertext and starts, up to the notification of READY7_AUTH. -/
def startedActions : List Action :=
  (linkUp 1).drop 1 ++ [startAuth 1] ++ List.replicate 5 (.worker (sampleView true))

/-- The state of a boot with its first link. -/
def sampleOpened : State :=
  { State.boot.connected (samplePlatform pqV07) 1 0 0 with outbox := [] }

/-- FINISHED_C after the callback returned is taken. -/
theorem phase7_ordering_prompt :
    Meets (exchangeStep (samplePlatform pqV07) 1) (InOrder (samplePlatform pqV07) 1)
        ⟨sampleOpened, .begun⟩
        (startedActions ++ [.worker (sampleView true), .finishedC 1 (.zero 32)]) ∧
      ((run (exchangeStep (samplePlatform pqV07) 1) ⟨sampleOpened, .begun⟩
        (startedActions ++ [.worker (sampleView true), .finishedC 1 (.zero 32)])).any fun exchange ↦
          exchange.firmware.main.phase7State = .finishedBusy) = true :=
  ⟨(phase7_ordering (samplePlatform pqV07) rfl [] State.boot
    (State.boot.connected (samplePlatform pqV07) 1 0 0) rfl 1 0 0 rfl _).mp (by decide +kernel),
    by decide +kernel⟩

/-- FINISHED_C between the notification of READY7_AUTH and the next section of the callback is refused. -/
theorem early_finishedC_refused :
    ∃ exchange, run (exchangeStep (samplePlatform pqV07) 1) ⟨sampleOpened, .begun⟩ startedActions =
        some exchange ∧
      (exchangeStep (samplePlatform pqV07) 1 exchange (.finishedC 1 (.zero 32))).isSome = true ∧
      exchange.firmware.main.phase7State = .cryptoBusy ∧
      exchange.firmware.answer (.finishedC 1 (.zero 32)) = .error .valueNotAllowed ∧
      ¬InOrder (samplePlatform pqV07) 1 exchange (.finishedC 1 (.zero 32)) := by
  have htest : ((run (exchangeStep (samplePlatform pqV07) 1) ⟨sampleOpened, .begun⟩ startedActions).any
      fun exchange ↦
        (exchangeStep (samplePlatform pqV07) 1 exchange (.finishedC 1 (.zero 32))).isSome = true ∧
          exchange.firmware.main.phase7State = .cryptoBusy ∧
          exchange.firmware.answer (.finishedC 1 (.zero 32)) = .error .valueNotAllowed) = true := by
    decide +kernel
  obtain ⟨exchange, hrun, hlast⟩ := (Option.any_eq_true _ _).mp htest
  obtain ⟨henabled, hbusy, hanswer⟩ := of_decide_eq_true hlast
  refine ⟨exchange, hrun, henabled, hbusy, hanswer, fun hinOrder ↦ ?_⟩
  exact nomatch hanswer.symm.trans (hinOrder.taken henabled rfl)

end PqBleHandshake.Legacy
