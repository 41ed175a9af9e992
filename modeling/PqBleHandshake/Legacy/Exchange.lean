import PqBleHandshake.Foundation.Exchange
import PqBleHandshake.Legacy.Installation
import PqBleHandshake.Legacy.Resets
import PqBleHandshake.Legacy.SingleSlot

/-!
# The application exchange of Phases 6 and 7

The calls of `mlkem_session.c` in any order, as for its slot.  A book for each phase records every answer that
an application job ends with, under the keys that the worker held for it and with the numbers in the headers
of the two frames, and every frame that a delivery notifies.  The worker works on what it copied when it took the
job and commits under an epoch check, and nothing installs keys while it does, so every answer is to a
newer frame of the session that is still retained and takes that session's next number.
-/

namespace PqBleHandshake.Legacy

open Foundation

/-! ## The jobs -/

/-- The phases with an application exchange. -/
inductive AppPhase
  | phase6 | phase7
deriving DecidableEq, Repr

/-- The job that answers a frame. -/
def AppPhase.mode : AppPhase → JobMode
  | .phase6 => .phase6C2p
  | .phase7 => .phase7AppC2p

/-- The test responder of a phase. -/
def AppPhase.reply : AppPhase → UInt64 → Bytes → Option Bytes
  | .phase6 => State.phase6Reply
  | .phase7 => State.testReply

/-! ## The sessions and their numbers -/

/-- The keys of an exchange, with the session id. -/
abbrev AppKeys := Phase7TrafficKeys × Block 16

/-- The numbers of a session in the counters of the code. -/
def numbering (keys : Phase7TrafficKeys) (sid : Block 16) (last : Option UInt64) (sendSeq : UInt64) :
    Numbering AppKeys :=
  ⟨(keys, sid), last.map UInt64.toNat, sendSeq.toNat⟩

/-- The session under whose keys frames of a phase are answered.  In Phase 6 it begins with the root. -/
def Store.numbers (crypto : Crypto) (store : Store) : AppPhase → Option (Numbering AppKeys)
  | .phase7 =>
    if store.phase7Authenticated then
      some (numbering store.phase7TrafficKeys store.phase7SessionId
        (if store.phase7HasLastRecvSeq then some store.phase7LastRecvSeq else none) store.phase7NextSendSeq)
    else none
  | .phase6 =>
    let material := store.phase6Material
    if store.phase6Active then
      some (numbering ⟨material.centralToPeripheral, material.peripheralToCentral⟩ material.sessionId
        (if material.hasLastRecvSeq then some material.lastRecvSeq else none) material.nextSendSeq)
    else if store.phase5ApplicationReady then
      some (.fresh (phase6TrafficKeys crypto store.phase5Material.application,
        store.phase5Material.sessionId))
    else none

/-- The answer that the worker still has to deliver. -/
def Worker.answer (phase : AppPhase) : Worker → Option Bytes
  | .jobDone mode _ .success wire | .callback mode .success wire | .deliver mode true _ wire _ =>
    if mode = phase.mode then some wire else none
  | _ => none

/-- The traffic keys that a job of Phase 6 answers under. -/
def Phase6Snapshot.traffic (crypto : Crypto) (snapshot : Phase6Snapshot) : Phase7TrafficKeys :=
  if snapshot.active then snapshot.keys else phase6TrafficKeys crypto snapshot.application

/-- The frame that an application job works on, with what the worker holds for it. -/
structure AppFrame where
  epoch : ℕ
  keys : Phase7TrafficKeys
  sid : Block 16
  wire : Bytes

/-- The application job that the worker is about to run. -/
def Worker.frame (crypto : Crypto) (phase : AppPhase) : Worker → Option AppFrame
  | .app6 epoch snapshot =>
    if phase = .phase6 then some ⟨epoch, snapshot.traffic crypto, snapshot.sid, snapshot.wire⟩ else none
  | .app7 epoch snapshot =>
    if phase = .phase7 then some ⟨epoch, snapshot.keys, snapshot.sid, snapshot.wire⟩ else none
  | _ => none

/-- The worker runs an application job of the phase, or holds its answer. -/
def Worker.exchanges (phase : AppPhase) : Worker → Bool
  | .app6 _ _ => phase = .phase6
  | .app7 _ _ => phase = .phase7
  | worker => (worker.answer phase).isSome

/-- The sequence number in the header of a frame. -/
def sequenceOf (wire : Bytes) : ℕ := ofBigEndian (wire.take 8)

/-- The epoch that the commit of a phase checks. -/
def Store.epochOf (store : Store) : AppPhase → ℕ
  | .phase6 => store.phase5Epoch
  | .phase7 => store.phase7Epoch

/-! ## Runs of calls -/

/-- The firmware with the book of each phase. -/
structure Exchanging where
  state : State
  books : AppPhase → AnswerBook AppKeys Bytes

/-- A call of the store. -/
abbrev ExchangeCall := Submission ⊕ SlotCall

namespace Exchanging

/-- The firmware at boot. -/
def boot : Exchanging := ⟨.boot, fun _ ↦ .empty⟩

/-- The firmware after a call. -/
def target (platform : Platform) (now : Exchanging) (call : ExchangeCall) : State :=
  (slotServer platform).step now.state call

/-- What a step that answers nothing did to the session of a phase. -/
def sessionEvents (crypto : Crypto) (phase : AppPhase) (state next : State) :
    List (AnswerEvent AppKeys Bytes) :=
  match next.store.numbers crypto phase with
  | none => [.closed]
  | some session => if state.store.numbers crypto phase = some session then [] else [.began session.key]

/-- The answer that an application job ended with: the keys are those that the worker held, and the numbers those
in the headers of the two frames. -/
def answerEvents (crypto : Crypto) (phase : AppPhase) (state next : State) : List (AnswerEvent AppKeys Bytes) :=
  match state.worker.frame crypto phase, next.worker.answer phase with
  | some frame, some reply =>
    [.answered (frame.keys, frame.sid) (sequenceOf frame.wire) (sequenceOf reply) reply]
  | _, _ => sessionEvents crypto phase state next

/-- What the worker notified while it ran an application job or held its answer. -/
def deliveryEvents (phase : AppPhase) (state next : State) : ExchangeCall → List (AnswerEvent AppKeys Bytes)
  | .inr (.worker _) =>
    if state.worker.exchanges phase then
      (next.outbox.take (next.outbox.length - state.outbox.length)).map fun entry ↦ .delivered entry.2
    else []
  | _ => []

/-- One call. -/
def step (platform : Platform) (now : Exchanging) (call : ExchangeCall) : Exchanging :=
  let next := now.target platform call
  { state := next
    books := fun phase ↦ (now.books phase).recordAll
      (answerEvents platform.crypto phase now.state next ++ deliveryEvents phase now.state next call) }

/-- The firmware after a sequence of calls. -/
def run (platform : Platform) (now : Exchanging) (calls : List ExchangeCall) : Exchanging :=
  calls.foldl (step platform) now

end Exchanging

/-! ## The answer to a frame -/

section Answers

variable {platform : Platform} {view : WorkerView} {key : Block 32} {keys : Phase7TrafficKeys} {sid : Block 16}
  {last : Option UInt64} {sendSeq accepted : UInt64} {wire answer plaintext payload : Bytes} {phase : AppPhase}

/-- Both responders take single digits only. -/
theorem AppPhase.reply_le (h : phase.reply accepted plaintext = some payload) : accepted ≤ 9 := by
  cases phase with
  | phase6 =>
    simp only [AppPhase.reply, State.phase6Reply] at h
    split at h
    · assumption
    · cases h
  | phase7 =>
    simp only [AppPhase.reply, State.testReply] at h
    split at h
    · exact And.left ‹_›
    · cases h

/-- The number of an accepted frame is the one in its header. -/
theorem sequenceOf_appDecrypt
    (h : State.appDecrypt platform view key sid last wire = .ok (accepted, plaintext)) :
    sequenceOf wire = accepted.toNat := by
  have hopened := mapError_eq_ok_iff.mp h
  simp only [pqSecureDecryptWithKey, except_bind_eq_ok_iff, require_eq_ok_iff, orFail_eq_ok_iff,
    exists_and_left, exists_const] at hopened
  obtain ⟨-, -, -, -, -, -, -, _, -, hresult⟩ := hopened
  obtain ⟨rfl, -⟩ := Prod.mk.inj (Except.ok.inj hresult)
  have hlength : (wire.take 8).length ≤ 8 := List.length_take_le 8 wire
  have hfits : ofBigEndian (wire.take 8) < 2 ^ 64 :=
    calc ofBigEndian (wire.take 8) < 256 ^ (wire.take 8).length := ofBigEndian_lt _
      _ ≤ 256 ^ 8 := Nat.pow_le_pow_right (by decide) hlength
      _ = 2 ^ 64 := by norm_num
  exact (UInt64.toNat_ofNat_of_lt hfits).symm

/-- An answer carries its number in the header. -/
theorem sequenceOf_appEncrypt (h : State.appEncrypt platform view key sid sendSeq payload = some answer) :
    sequenceOf answer = sendSeq.toNat := by
  have hsealed := toOption_eq_some_iff.mp h
  simp only [pqSecureEncryptWithKey, except_bind_eq_ok_iff, require_eq_ok_iff, orFail_eq_ok_iff,
    exists_and_left, exists_const] at hsealed
  obtain ⟨-, -, -, iv, -, -, hresult⟩ := hsealed
  rw [← Except.ok.inj hresult, sequenceOf, List.append_assoc, List.append_assoc,
    List.take_left' (length_bigEndian 8 _)]
  exact ofBigEndian_bigEndian (sendSeq.toNat_lt.trans_eq (by norm_num))

/-- **An answered frame** is newer than the last one, its number has a single digit, and both frames carry the
numbers that were used for them. -/
theorem answerFrame_numbers
    (h : State.answerFrame platform view phase.reply keys sid last sendSeq wire = .ok (accepted, answer)) :
    ((∀ seq ∈ last, seq < accepted) ∧ accepted ≤ 9) ∧ sequenceOf wire = accepted.toNat ∧
      sequenceOf answer = sendSeq.toNat := by
  obtain ⟨plaintext, payload, hdecrypt, hreply, hencrypt⟩ := answerFrame_eq_ok h
  exact ⟨⟨appDecrypt_newer hdecrypt, AppPhase.reply_le hreply⟩, sequenceOf_appDecrypt hdecrypt,
    sequenceOf_appEncrypt hencrypt⟩

/-- The job of Phase 6 answers under the retained keys, or under those of the root. -/
theorem phase6Answer_eq_ok {copy : Phase6Snapshot}
    (h : State.phase6Answer platform view copy = .ok (keys, accepted, answer)) :
    keys = copy.traffic platform.crypto ∧
      State.answerFrame platform view State.phase6Reply keys copy.sid copy.last copy.sendSeq copy.wire =
        .ok (accepted, answer) := by
  simp only [State.phase6Answer, except_bind_eq_ok_iff, orFail_eq_ok_iff] at h
  obtain ⟨found, hkeys, ⟨seq, out⟩, hanswer, hresult⟩ := h
  obtain ⟨rfl, hrest⟩ := Prod.mk.inj (Except.ok.inj hresult)
  obtain ⟨rfl, rfl⟩ := Prod.mk.inj hrest
  refine ⟨?_, hanswer⟩
  unfold State.phase6Keys at hkeys
  unfold Phase6Snapshot.traffic
  split_ifs at hkeys ⊢
  · exact (Option.some.inj hkeys).symm
  · exact pqPhase6DeriveTrafficKeys_eq_some hkeys

/-- A frame that a job of Phase 6 does not answer ends it with a failure. -/
theorem phase6Answer_ne_success {copy : Phase6Snapshot} :
    State.phase6Answer platform view copy ≠ .error .success := by
  intro h
  simp only [State.phase6Answer, except_bind_eq_error_iff, orFail_eq_error_iff] at h
  rcases h with ⟨-, hstatus⟩ | ⟨_, -, hanswer | ⟨_, -, hresult⟩⟩
  · cases hstatus
  · exact answerFrame_ne_success hanswer
  · cases hresult

end Answers

/-! ## The two application jobs -/

section Jobs

variable {platform : Platform} {state : State} {epoch : ℕ} {view : WorkerView} {copy : Phase6Snapshot}
  {snapshot : AppSnapshot}

/-- A job that answers nothing leaves the store alone. -/
def Fails (mode : JobMode) (epoch : ℕ) (state next : State) : Prop :=
  next.store = state.store ∧ ∃ status, status ≠ .success ∧ next.worker = .jobDone mode epoch status []

theorem runApp7_cases :
    let next := state.runApp7 platform epoch snapshot view
    Fails .phase7AppC2p epoch state next ∨ ∃ accepted answer,
      State.answerFrame platform view State.testReply snapshot.keys snapshot.sid snapshot.last snapshot.sendSeq
        snapshot.wire = .ok (accepted, answer) ∧
      SameU32 epoch state.store.phase7Epoch ∧ state.store.phase7Authenticated = true ∧
      next.store = state.store.storeCounters accepted snapshot.sendSeq ∧
      (snapshot.sendSeq ≠ uint64Max → next.worker = .jobDone .phase7AppC2p epoch .success answer) := by
  dsimp only
  unfold State.runApp7
  dsimp only
  cases hanswer : State.answerFrame platform view State.testReply snapshot.keys snapshot.sid snapshot.last
      snapshot.sendSeq snapshot.wire with
  | error status =>
    refine .inl ⟨rfl, status, ?_, rfl⟩
    rintro rfl
    exact answerFrame_ne_success hanswer
  | ok result =>
    obtain ⟨accepted, answer⟩ := result
    dsimp only
    split
    · rename_i hlive
      refine .inr ⟨accepted, answer, rfl, hlive.1, hlive.2, ?_, fun hmax ↦ ?_⟩
      · split <;> rfl
      · rw [if_neg hmax]
        rfl
    · exact .inl ⟨rfl, .invalidProtocolState, nofun, rfl⟩

theorem runApp6_cases :
    let next := state.runApp6 platform epoch copy view
    Fails .phase6C2p epoch state next ∨ ∃ keys accepted answer,
      State.phase6Answer platform view copy = .ok (keys, accepted, answer) ∧
      SameU32 epoch state.store.phase5Epoch ∧
      (state.store.phase6Active = true ∨ state.store.phase5ApplicationReady = true) ∧
      next.store = state.store.storePhase6 keys copy.sid accepted copy.sendSeq ∧
      (copy.sendSeq ≠ uint64Max → next.worker = .jobDone .phase6C2p epoch .success answer) := by
  dsimp only
  unfold State.runApp6
  dsimp only
  cases hanswer : State.phase6Answer platform view copy with
  | error status =>
    refine .inl ⟨rfl, status, ?_, rfl⟩
    rintro rfl
    exact phase6Answer_ne_success hanswer
  | ok result =>
    obtain ⟨keys, accepted, answer⟩ := result
    dsimp only
    split
    · rename_i hlive
      refine .inr ⟨keys, accepted, answer, rfl, hlive.1, hlive.2, ?_, fun hmax ↦ ?_⟩
      · split <;> rfl
      · rw [if_neg hmax]
        rfl
    · exact .inl ⟨rfl, .invalidProtocolState, nofun, rfl⟩

end Jobs

/-! ## The steps that answer nothing -/

/-- A session goes on, ends, or begins anew. -/
inductive Unanswered (crypto : Crypto) (phase : AppPhase) (store store' : Store) : Prop
  | kept (numbers : store'.numbers crypto phase = store.numbers crypto phase)
  | closed (numbers : store'.numbers crypto phase = none)
  | began (key : AppKeys) (numbers : store'.numbers crypto phase = some (.fresh key))

/-- What a step that answers nothing does to the retained sessions. -/
structure Unanswers (store store' : Store) : Prop where
  phase6 : store'.session6 = store.session6 ∨ store'.phase6Active = false
  phase7 : store'.retained = store.retained ∨ store'.phase7Authenticated = false ∨
    store'.retained.received = none ∧ store'.retained.nextSend = 0

section Unanswered

variable {crypto : Crypto} {platform : Platform} {state next : State} {store store' : Store}
  {view : WorkerView}

theorem Unanswers.refl (store : Store) : Unanswers store store := ⟨.inl rfl, .inl rfl⟩

theorem numbers_phase7 (store : Store) : store.numbers crypto .phase7 =
    if store.retained.authenticated then
      some (numbering store.retained.keys store.retained.sid store.retained.received store.retained.nextSend)
    else none := rfl

theorem Unanswers.unanswered (h : Unanswers store store') (phase : AppPhase) :
    Unanswered crypto phase store store' := by
  cases phase with
  | phase6 =>
    have hroot : store'.phase6Active = false → Unanswered crypto .phase6 store store' := by
      intro hactive
      by_cases hready : store'.phase5ApplicationReady = true
      · exact .began _ (by simp only [Store.numbers, hactive, hready]; rfl)
      · exact .closed (by simp [Store.numbers, hactive, hready])
    rcases h.phase6 with hsame | hinactive
    · by_cases hactive : store.phase6Active = true
      · have hactive' : store'.phase6Active = true := (congrArg Session6.active hsame).trans hactive
        have hmaterial : store'.phase6Material = store.phase6Material := congrArg Session6.material hsame
        exact .kept (by simp only [Store.numbers, hactive, hactive', hmaterial, if_true])
      · have hinactive : store.phase6Active = false := by simpa using hactive
        exact hroot ((congrArg Session6.active hsame).trans hinactive)
    · exact hroot hinactive
  | phase7 =>
    rcases h.phase7 with hsame | hclosed | ⟨hreceived, hsend⟩
    · exact .kept (by rw [numbers_phase7, numbers_phase7, hsame])
    · exact .closed (if_neg (by rw [hclosed]; exact Bool.false_ne_true))
    · by_cases hauthenticated : store'.retained.authenticated = true
      · refine .began (store'.retained.keys, store'.retained.sid) ?_
        rw [numbers_phase7, if_pos hauthenticated, hreceived, hsend]
        rfl
      · exact .closed (if_neg hauthenticated)

/-- A submission may end sessions. -/
theorem submit_unanswers {request : Submission} (h : request.submit store = .ok store') :
    Unanswers store store' := by
  cases request with
  | diagnostic ct =>
    obtain ⟨-, rfl⟩ := submitJob_eq_ok h
    exact ⟨.inl rfl, .inl rfl⟩
  | secure ct sid =>
    obtain ⟨-, rfl⟩ := submitJob_eq_ok h
    exact ⟨.inl rfl, .inl rfl⟩
  | phase5 ct sid =>
    obtain ⟨-, rfl⟩ := submitJob_eq_ok h
    exact ⟨.inr rfl, .inl rfl⟩
  | phase7Cp2 ct sid centralKey =>
    obtain ⟨-, rfl⟩ := submitJob_eq_ok h
    exact ⟨.inr rfl, .inl rfl⟩
  | phase5FinishedC finishedC =>
    obtain ⟨-, rfl⟩ := submitPhase5Command_eq_ok h
    exact ⟨.inl rfl, .inl rfl⟩
  | phase5Data =>
    obtain ⟨-, rfl⟩ := submitPhase5Command_eq_ok h
    exact ⟨.inl rfl, .inl rfl⟩
  | phase6C2p wire =>
    obtain ⟨-, rfl⟩ := submitPhase6C2p_eq_ok h
    exact ⟨.inl rfl, .inl rfl⟩
  | phase7Auth ct sid centralKey =>
    obtain ⟨-, rfl⟩ := submitPhase7Auth_eq_ok_iff.mp h
    exact ⟨.inr rfl, .inr (.inl rfl)⟩
  | phase7FinishedC finishedC =>
    obtain ⟨-, rfl⟩ := submitPhase7FinishedC_eq_ok_iff.mp h
    exact ⟨.inl rfl, .inl rfl⟩
  | phase7C2p wire =>
    obtain ⟨-, rfl⟩ := submitPhase7C2p_eq_ok_iff.mp h
    exact ⟨.inl rfl, .inl rfl⟩

/-- The commit of a handshake installs keys with fresh counters. -/
theorem commitPhase7_unanswers : Unanswers state.store (state.commitPhase7 platform view).2.store := by
  unfold State.commitPhase7
  split
  · exact .refl _
  dsimp only
  split
  · split
    · exact ⟨.inl rfl, .inr (.inr ⟨rfl, rfl⟩)⟩
    · exact ⟨.inl rfl, .inr (.inl rfl)⟩
  · exact ⟨.inl rfl, .inr (.inr ⟨rfl, rfl⟩)⟩

theorem deliver_unanswers {mode : JobMode} {valid : Bool} {status : JobStatus} {wire : Bytes} {conn : Conn} :
    Unanswers state.store (state.deliver platform mode valid status wire conn view).store := by
  unfold State.deliver State.deliverSerialized
  dsimp only
  split
  · split
    · split
      · split
        · exact .refl _
        · split
          · exact @commitPhase7_unanswers platform (state.notify conn wire view) view
          · obtain ⟨hphase6, -⟩ := @commitPhase7_unanswers platform (state.notify conn wire view) view
            exact ⟨hphase6, .inr (.inl rfl)⟩
      · exact ⟨.inl rfl, .inr (.inl rfl)⟩
    · exact .refl _
  · exact .refl _

theorem takeJob_unanswers (hstep : state.takeJob = some next) : Unanswers state.store next.store := by
  unfold State.takeJob at hstep
  dsimp only at hstep
  split at hstep
  · cases hstep
  split at hstep <;> cases hstep
  · exact ⟨.inl rfl, .inl rfl⟩
  · dsimp only
    split
    · exact ⟨.inl rfl, .inl rfl⟩
    · exact ⟨.inl rfl, .inl rfl⟩

/-- The worker is about to run an application job. -/
def Worker.isApp : Worker → Bool
  | .app6 _ _ | .app7 _ _ => true
  | _ => false

/-- **Only the application jobs answer frames.** -/
theorem workerStep_unanswers (happ : state.worker.isApp = false)
    (hstep : state.workerStep platform view = some next) : Unanswers state.store next.store := by
  unfold State.workerStep at hstep
  cases hworker : state.worker <;> rw [hworker] at hstep happ
  case idle => exact takeJob_unanswers hstep
  case decapsulate mode epoch =>
    cases hstep
    unfold State.runDecapsulate Store.discardStart
    dsimp only [State.failJob, State.finish]
    repeat' split
    all_goals first
      | exact ⟨.inl rfl, .inl rfl⟩
      | exact ⟨.inl rfl, .inr (.inl rfl)⟩
  case finished7 epoch keys hash received =>
    cases hstep
    unfold State.runFinished7
    dsimp only [State.failJob, State.finish]
    repeat' split
    all_goals first
      | exact ⟨.inl rfl, .inl rfl⟩
      | exact ⟨.inl rfl, .inr (.inl rfl)⟩
  case finished5 epoch keys hash received =>
    cases hstep
    unfold State.runFinished5
    dsimp only [State.failJob, State.finish]
    repeat' split
    all_goals exact ⟨.inl rfl, .inl rfl⟩
  case data5 epoch key sid =>
    cases hstep
    unfold State.runData5
    split <;> exact ⟨.inl rfl, .inl rfl⟩
  case deliver mode valid status wire conn =>
    cases hstep
    exact deliver_unanswers
  case commit7 conn =>
    cases hstep
    exact commitPhase7_unanswers
  case reset7 =>
    cases hstep
    exact ⟨.inl rfl, .inr (.inl rfl)⟩
  case reset5 =>
    cases hstep
    exact ⟨.inr rfl, .inl rfl⟩
  case app6 epoch snapshot => cases happ
  case app7 epoch snapshot => cases happ
  all_goals
    cases hstep
    exact ⟨.inl rfl, .inl rfl⟩

end Unanswered

/-! ## The worker between its answers -/

/-- The copy of an application job of Phase 6 is what the store retains. -/
structure Phase6Snapshot.Agrees (snapshot : Phase6Snapshot) (store : Store) : Prop where
  traffic : ∀ crypto, snapshot.traffic crypto = (State.phase6Snapshot store).traffic crypto
  sid : snapshot.sid = (State.phase6Snapshot store).sid
  last : snapshot.last = (State.phase6Snapshot store).last
  sendSeq : snapshot.sendSeq = (State.phase6Snapshot store).sendSeq

/-- A step of the worker that answers nothing: it may take a job, with a copy of what is retained then, and
it passes on the answer that it holds. -/
structure Passes (state next : State) : Prop where
  active : next.store.jobActive = next.worker.inJob
  decapsulates : ∀ mode epoch, next.worker = .decapsulate mode epoch → mode.decapsulates = true
  copied6 : ∀ epoch snapshot, next.worker = .app6 epoch snapshot → snapshot.Agrees next.store
  copied7 : ∀ epoch snapshot, next.worker = .app7 epoch snapshot → snapshot.Agrees next.store.retained
  answer : ∀ phase wire, next.worker.answer phase = some wire → state.worker.answer phase = some wire ∧
    ∀ mode valid status wire conn, state.worker ≠ .deliver mode valid status wire conn

section Passes

variable {platform : Platform} {state next : State} {view : WorkerView} {phase : AppPhase} {wire : Bytes}

/-- The worker is between jobs or past one. -/
theorem Passes.rest (hactive : next.store.jobActive = false) (hjob : next.worker.inJob = false)
    (hanswer : ∀ phase wire, next.worker.answer phase = some wire → state.worker.answer phase = some wire ∧
      ∀ mode valid status wire conn, state.worker ≠ .deliver mode valid status wire conn) :
    Passes state next where
  active := hactive.trans hjob.symm
  decapsulates mode epoch hworker := by
    rw [hworker] at hjob
    cases hjob
  copied6 epoch snapshot hworker := by
    rw [hworker] at hjob
    cases hjob
  copied7 epoch snapshot hworker := by
    rw [hworker] at hjob
    cases hjob
  answer := hanswer

/-- A job has ended in a mode without answers, or with a failure. -/
theorem Passes.ended {mode : JobMode} {epoch : ℕ} {status : JobStatus} {wire : Bytes}
    (hworker : next.worker = .jobDone mode epoch status wire) (hactive : next.store.jobActive = true)
    (hmode : (∀ phase : AppPhase, mode ≠ phase.mode) ∨ status ≠ .success) : Passes state next where
  active := by rw [hworker, hactive]; rfl
  decapsulates := by rw [hworker]; exact nofun
  copied6 := by rw [hworker]; exact nofun
  copied7 := by rw [hworker]; exact nofun
  answer phase wire' hanswer := by
    rw [hworker] at hanswer
    cases status with
    | success =>
      simp only [Worker.answer, Option.ite_none_right_eq_some] at hanswer
      rcases hmode with hother | hfailed
      · exact absurd hanswer.1 (hother phase)
      · exact absurd rfl hfailed
    | _ => cases hanswer

theorem afterDelivery_answer (mode : JobMode) (valid sent : Bool) (conn : Conn) :
    (State.afterDelivery mode valid sent conn).answer phase = none := by
  cases mode <;> cases valid <;> cases sent <;> rfl

/-- The result callback passes on a successful answer only. -/
theorem resultReady_answer {mode : JobMode} {status : JobStatus} {wire' : Bytes}
    (hworker : state.worker = .callback mode status wire)
    (hanswer : (state.resultReady platform mode status wire).worker.answer phase = some wire') :
    state.worker.answer phase = some wire' := by
  rcases @resultReady_worker platform state mode status wire with hidle | ⟨conn, -, -, hdeliver⟩
  · rw [hidle] at hanswer
    cases hanswer
  · rw [hdeliver] at hanswer
    cases hvalid : State.resultValid platform.version mode status wire with
    | false =>
      rw [hvalid] at hanswer
      cases hanswer
    | true =>
      have hstatus : status = .success := by
        simp only [State.resultValid, Bool.and_eq_true, decide_eq_true_eq] at hvalid
        exact hvalid.1.1
      rw [hvalid] at hanswer
      rw [hworker, hstatus]
      exact hanswer

/-- The worker takes a job. -/
theorem takeJob_passes (hidle : state.worker = .idle) (hactive : state.store.jobActive = false)
    (hstep : state.takeJob = some next) : Passes state next := by
  unfold State.takeJob at hstep
  dsimp only at hstep
  split at hstep
  · cases hstep
  split at hstep <;> cases hstep
  · refine .rest hactive (by rw [hidle]; rfl) fun phase wire hsome ↦ ?_
    rw [hidle] at hsome
    cases hsome
  by_cases hvalid : State.jobValid state.store
  · simp only [hvalid, decide_true, if_true, true_and]
    refine ⟨?_, ?_, ?_, ?_, ?_⟩
    · rw [(jobStart_cases state.store).1]
      dsimp only
      split <;> rfl
    · unfold State.jobStart
      cases hmode : state.store.pendingJobMode <;> rintro _ _ ⟨⟩ <;> rfl
    · unfold State.jobStart
      cases hmode : state.store.pendingJobMode <;> rintro _ _ ⟨⟩
      exact ⟨fun _ ↦ rfl, rfl, rfl, rfl⟩
    · unfold State.jobStart
      cases hmode : state.store.pendingJobMode <;> rintro _ _ ⟨⟩
      exact ⟨rfl, rfl, rfl, rfl⟩
    · unfold State.jobStart
      cases hmode : state.store.pendingJobMode <;> exact nofun
  · simp only [hvalid, decide_false, false_and, if_false, Bool.false_eq_true]
    exact .ended rfl rfl (.inr nofun)

/-- A job without answers runs, or ends. -/
theorem inJob_passes (hjob : state.worker.inJob = true) (happ : state.worker.isApp = false)
    (hactive : state.store.jobActive = true)
    (hdecapsulates : ∀ mode epoch, state.worker = .decapsulate mode epoch → mode.decapsulates = true)
    (hstep : state.workerStep platform view = some next) : Passes state next := by
  obtain ⟨-, -, hkept, -, -⟩ := inJob_step hjob hactive hstep
  have hended : ∀ mode : JobMode, (∀ phase : AppPhase, mode ≠ phase.mode) →
      (∃ epoch status wire, next.worker = .jobDone mode epoch status wire) → Passes state next := by
    rintro mode hmode ⟨epoch, status, wire, hworker⟩
    exact .ended hworker (by rw [hkept, hworker]; rfl) (.inl hmode)
  unfold State.workerStep at hstep
  cases hworker : state.worker <;> rw [hworker] at hstep hjob happ
  all_goals try cases hjob
  case app6 epoch snapshot => cases happ
  case app7 epoch snapshot => cases happ
  case decapsulate mode epoch =>
    have hmode : ∀ phase : AppPhase, mode ≠ phase.mode := by
      rintro phase rfl
      have hcontra := hdecapsulates _ _ hworker
      cases phase <;> cases hcontra
    refine hended mode hmode ?_
    cases hstep
    unfold State.runDecapsulate
    dsimp only [State.failJob, State.finish]
    repeat' split
    all_goals exact ⟨_, _, _, rfl⟩
  case finished7 epoch keys hash received =>
    refine hended .phase7AuthFinishedC (fun phase ↦ by cases phase <;> exact nofun) ?_
    cases hstep
    unfold State.runFinished7
    dsimp only [State.failJob, State.finish]
    repeat' split
    all_goals exact ⟨_, _, _, rfl⟩
  case finished5 epoch keys hash received =>
    refine hended .phase5FinishedC (fun phase ↦ by cases phase <;> exact nofun) ?_
    cases hstep
    unfold State.runFinished5
    dsimp only [State.failJob, State.finish]
    repeat' split
    all_goals exact ⟨_, _, _, rfl⟩
  case data5 epoch key sid =>
    refine hended .phase5Data (fun phase ↦ by cases phase <;> exact nofun) ?_
    cases hstep
    unfold State.runData5
    split <;> exact ⟨_, _, _, rfl⟩
  case jobDone mode epoch status wire =>
    cases hstep
    refine .rest rfl ?_ fun phase wire' hanswer ↦ ⟨?_, by rw [hworker]; exact nofun⟩
    · dsimp only [State.finishJob]
      split <;> rfl
    · rw [hworker]
      dsimp only [State.finishJob] at hanswer
      split at hanswer
      · cases hanswer
      · cases status <;> exact hanswer

/-- **A step of the worker outside the application jobs.** -/
theorem workerStep_passes (happ : state.worker.isApp = false)
    (hactive : state.store.jobActive = state.worker.inJob)
    (hdecapsulates : ∀ mode epoch, state.worker = .decapsulate mode epoch → mode.decapsulates = true)
    (hstep : state.workerStep platform view = some next) : Passes state next := by
  by_cases hjob : state.worker.inJob = true
  · exact inJob_passes hjob happ (hactive.trans hjob) hdecapsulates hstep
  have hfree : state.store.jobActive = false := hactive.trans (by simpa using hjob)
  have hquiet : ∀ {next : State}, next.store.jobActive = state.store.jobActive → next.worker.inJob = false →
      (∀ phase, next.worker.answer phase = none) → Passes state next := by
    intro next hkept hidle hnone
    refine .rest (hkept.trans hfree) hidle fun phase wire hsome ↦ ?_
    exact absurd ((hnone phase).symm.trans hsome) nofun
  unfold State.workerStep at hstep
  cases hworker : state.worker <;> rw [hworker] at hstep hjob
  all_goals try exact absurd rfl hjob
  case idle => exact takeJob_passes hworker hfree hstep
  case callback mode status wire =>
    cases hstep
    refine .rest hfree ?_ fun phase wire' hanswer ↦
      ⟨resultReady_answer hworker hanswer, by rw [hworker]; exact nofun⟩
    rcases @resultReady_worker platform state mode status wire with hidle | ⟨conn, -, -, hdeliver⟩
    · rw [hidle]
      rfl
    · rw [hdeliver]
      rfl
  case deliver mode valid status wire conn =>
    cases hstep
    unfold State.deliver State.deliverSerialized
    dsimp only
    obtain ⟨-, -, hcommit⟩ := @commitPhase7_frame platform (state.notify conn wire view) view
    repeat' split
    all_goals first
      | exact hquiet rfl rfl fun _ ↦ rfl
      | exact hquiet hcommit rfl fun _ ↦ rfl
      | exact hquiet rfl (afterDelivery_cases mode valid view.sent conn).1 fun _ ↦
          afterDelivery_answer mode valid view.sent conn
  case commit7 conn =>
    cases hstep
    obtain ⟨-, -, hcommit⟩ := @commitPhase7_frame platform state view
    have hafter : ∀ ok : Bool, (if ok then Worker.promoted7 conn else .failed7 conn).inJob = false ∧
        ∀ phase, (if ok then Worker.promoted7 conn else .failed7 conn).answer phase = none := by
      intro ok
      cases ok <;> exact ⟨rfl, fun _ ↦ rfl⟩
    exact hquiet hcommit (hafter _).1 (hafter _).2
  all_goals
    cases hstep
    exact hquiet rfl rfl fun _ ↦ rfl

end Passes

/-! ## The books -/

section Books

variable {platform : Platform} {phase : AppPhase} {state next : State} {book : AnswerBook AppKeys Bytes}
  {call : ExchangeCall} {frame : AppFrame} {reply : Bytes}

/-- A step that answers nothing leaves the answers alone. -/
theorem recordAll_unanswered {crypto : Crypto} (hcurrent : book.current = state.store.numbers crypto phase)
    (h : Unanswered crypto phase state.store next.store) :
    let after := book.recordAll (Exchanging.sessionEvents crypto phase state next)
    after.current = next.store.numbers crypto phase ∧ (book.Sound → after.Sound) ∧
      after.held = book.held ∧ after.answers = book.answers ∧ after.delivered = book.delivered := by
  dsimp only [Exchanging.sessionEvents]
  cases h with
  | kept hnumbers =>
    rw [hnumbers]
    cases hstate : state.store.numbers crypto phase with
    | none => exact ⟨rfl, .closed, rfl, rfl, rfl⟩
    | some session =>
      dsimp only
      rw [if_pos rfl]
      exact ⟨hcurrent.trans hstate, id, rfl, rfl, rfl⟩
  | closed hnumbers =>
    rw [hnumbers]
    exact ⟨rfl, .closed, rfl, rfl, rfl⟩
  | began key hnumbers =>
    rw [hnumbers]
    dsimp only
    split
    · rename_i hsame
      exact ⟨hcurrent.trans hsame, id, rfl, rfl, rfl⟩
    · exact ⟨rfl, fun h ↦ h.began key, rfl, rfl, rfl⟩

/-- The events of a job that ends with an answer. -/
theorem answerEvents_of_frame {crypto : Crypto} (hframe : state.worker.frame crypto phase = some frame)
    (hanswer : next.worker.answer phase = some reply) :
    Exchanging.answerEvents crypto phase state next =
      [.answered (frame.keys, frame.sid) (sequenceOf frame.wire) (sequenceOf reply) reply] := by
  simp only [Exchanging.answerEvents, hframe, hanswer]

/-- A worker that is about to run a job holds no answer. -/
theorem answer_of_frame {crypto : Crypto} {worker : Worker} (h : worker.frame crypto phase = some frame)
    (phase' : AppPhase) : worker.answer phase' = none := by
  cases worker <;> first | rfl | cases h

/-- A worker that only passes an answer on has answered nothing. -/
theorem answerEvents_of_passed {crypto : Crypto}
    (h : ∀ wire, next.worker.answer phase = some wire → state.worker.answer phase = some wire) :
    Exchanging.answerEvents crypto phase state next = Exchanging.sessionEvents crypto phase state next := by
  unfold Exchanging.answerEvents
  cases hframe : state.worker.frame crypto phase with
  | none => rfl
  | some frame =>
    cases hanswer : next.worker.answer phase with
    | none => rfl
    | some reply =>
      have hheld := h reply hanswer
      rw [answer_of_frame hframe phase] at hheld
      cases hheld

/-- The frame of a successful result is the answer itself. -/
theorem delivered_answer (version : UInt8) (status : JobStatus) (crc : UInt32) (wire : Bytes) (view : WorkerView) :
    State.delivered version phase.mode true status crc wire view = if view.sent then some wire else none := by
  cases phase <;> rfl

/-- The notification of an answer on its way. -/
theorem deliver_outbox {view : WorkerView} {status : JobStatus} {wire : Bytes} {conn : Conn} :
    (state.deliver platform phase.mode true status wire conn view).outbox =
      if view.sent then (conn, wire) :: state.outbox else state.outbox := by
  have hplain : ¬(platform.resumption ∧ (phase.mode = .phase7AuthStart ∨ phase.mode = .phase7AuthFinishedC)) := by
    rintro ⟨-, hmode | hmode⟩ <;> cases phase <;> cases hmode
  rw [State.deliver, if_neg hplain, delivered_answer]
  cases view.sent <;> rfl

/-- Outside the delivery of an answer the worker notifies none. -/
theorem outbox_of_exchanges {view : WorkerView} (hstep : state.workerStep platform view = some next)
    (hexchanges : state.worker.exchanges phase = true)
    (hdeliver : ∀ status wire conn, state.worker ≠ .deliver phase.mode true status wire conn) :
    next.outbox = state.outbox := by
  unfold State.workerStep at hstep
  cases hworker : state.worker <;> rw [hworker] at hstep hexchanges
  case deliver mode valid status wire conn =>
    simp only [Worker.exchanges, Worker.answer] at hexchanges
    cases valid with
    | false => cases hexchanges
    | true =>
      by_cases hmode : mode = phase.mode
      · exact absurd (hmode ▸ hworker) (hdeliver status wire conn)
      · simp only [if_neg hmode, Option.isSome_none, Bool.false_eq_true] at hexchanges
  case app6 epoch snapshot =>
    cases hstep
    unfold State.runApp6
    dsimp only [State.failJob, State.finish]
    repeat' split
    all_goals rfl
  case app7 epoch snapshot =>
    cases hstep
    unfold State.runApp7
    dsimp only [State.failJob, State.finish]
    repeat' split
    all_goals rfl
  case jobDone mode epoch status wire =>
    cases hstep
    rfl
  case callback mode status wire =>
    cases hstep
    rfl
  all_goals cases hexchanges

/-- **Only an answer on its way is delivered**, and the notification is the answer. -/
theorem deliveryEvents_cases (platform : Platform) (phase : AppPhase) (now : Exchanging) (call : ExchangeCall) :
    Exchanging.deliveryEvents phase now.state (now.target platform call) call = [] ∨
      ∃ status wire conn, now.state.worker = .deliver phase.mode true status wire conn ∧
        Exchanging.deliveryEvents phase now.state (now.target platform call) call = [.delivered wire] ∧
        (now.target platform call).outbox = (conn, wire) :: now.state.outbox := by
  rcases call with request | call
  · exact .inl rfl
  cases call
  case worker view =>
    have htarget : now.target platform (.inr (.worker view)) =
        (now.state.workerStep platform view).getD now.state := rfl
    simp only [Exchanging.deliveryEvents]
    by_cases hexchanges : now.state.worker.exchanges phase = true
    · rw [if_pos hexchanges]
      have hquiet : (now.target platform (.inr (.worker view))).outbox = now.state.outbox →
          ((now.target platform (.inr (.worker view))).outbox.take
            ((now.target platform (.inr (.worker view))).outbox.length - now.state.outbox.length)).map
              (fun entry ↦ AnswerEvent.delivered (κ := AppKeys) entry.2) = [] := by
        intro hsame
        rw [hsame, Nat.sub_self, List.take_zero, List.map_nil]
      by_cases hdeliver : ∃ status wire conn, now.state.worker = .deliver phase.mode true status wire conn
      · obtain ⟨status, wire, conn, hworker⟩ := hdeliver
        have hnext : now.target platform (.inr (.worker view)) =
            now.state.deliver platform phase.mode true status wire conn view := by
          rw [htarget, State.workerStep, hworker, Option.getD_some]
        have houtbox := congrArg State.outbox hnext
        rw [deliver_outbox] at houtbox
        cases hsent : view.sent with
        | false =>
          rw [hsent] at houtbox
          exact .inl (hquiet houtbox)
        | true =>
          rw [hsent, if_pos rfl] at houtbox
          refine .inr ⟨status, wire, conn, hworker, ?_, houtbox⟩
          rw [houtbox, List.length_cons, Nat.add_sub_cancel_left]
          rfl
      · refine .inl (hquiet ?_)
        rw [htarget]
        cases hstep : now.state.workerStep platform view with
        | none => rfl
        | some next =>
          exact outbox_of_exchanges hstep hexchanges fun status wire conn hworker ↦
            hdeliver ⟨status, wire, conn, hworker⟩
    · exact .inl (if_neg hexchanges)
  all_goals exact .inl rfl

theorem answer_deliver {status : JobStatus} {wire : Bytes} {conn : Conn} :
    (Worker.deliver phase.mode true status wire conn).answer phase = some wire := if_pos rfl

theorem mode_injective {phase phase' : AppPhase} (h : phase.mode = phase'.mode) : phase = phase' := by
  revert h
  cases phase <;> cases phase' <;> decide

end Books

/-! ## The invariant -/

/-- What holds after every sequence of calls: a running application job works on what is still retained, the
books follow the counters of the store, every answer carries its number, and an answer on its way is the
newest one in its book. -/
structure Exchanges (platform : Platform) (now : Exchanging) : Prop where
  active : now.state.store.jobActive = now.state.worker.inJob
  decapsulates : ∀ mode epoch, now.state.worker = .decapsulate mode epoch → mode.decapsulates = true
  copied6 : ∀ epoch snapshot, now.state.worker = .app6 epoch snapshot →
    now.state.store.phase6Active = true ∨ now.state.store.phase5ApplicationReady = true →
      snapshot.Agrees now.state.store
  copied7 : ∀ epoch snapshot, now.state.worker = .app7 epoch snapshot →
    now.state.store.retained.authenticated = true → snapshot.Agrees now.state.store.retained
  current : ∀ phase, (now.books phase).current = now.state.store.numbers platform.crypto phase
  sound : ∀ phase, (now.books phase).Sound
  digit : ∀ phase, ∀ session ∈ now.state.store.numbers platform.crypto phase,
    ∀ seq ∈ session.received, seq ≤ 9
  numbered : ∀ phase, ∀ answer ∈ (now.books phase).answers, sequenceOf answer.reply = answer.sent
  held : ∀ phase wire, now.state.worker.answer phase = some wire →
    (now.books phase).held = true ∧ (now.books phase).answers.head?.map Answered.reply = some wire

/-- The step ran the application job of the phase to its end: in the epoch of the job the frame was opened,
its payload was accepted and the answer was encrypted, all under the retained keys and counters, and both
counters moved. -/
structure Answers (platform : Platform) (phase : AppPhase) (state next : State) (keys : Phase7TrafficKeys)
    (sid : Block 16) (last : Option UInt64) (sendSeq accepted : UInt64) (answer : Bytes) : Prop where
  before : state.store.numbers platform.crypto phase = some (numbering keys sid last sendSeq)
  job : ∃ frame view, state.worker.frame platform.crypto phase = some frame ∧
    frame.keys = keys ∧ frame.sid = sid ∧ SameU32 frame.epoch (state.store.epochOf phase) ∧
    State.answerFrame platform view phase.reply keys sid last sendSeq frame.wire = .ok (accepted, answer) ∧
    next.worker = .jobDone phase.mode frame.epoch .success answer
  after : next.store.numbers platform.crypto phase =
    some (numbering keys sid (some accepted) (sendSeq + 1))
  room : sendSeq < uint64Max

section Invariant

variable {platform : Platform} {phase : AppPhase} {now : Exchanging} {call : ExchangeCall} {state next : State}
  {keys : Phase7TrafficKeys} {sid : Block 16} {last : Option UInt64} {sendSeq accepted : UInt64}
  {answer : Bytes}

/-- The counters stay far below the end of their range. -/
theorem Exchanges.room (h : Exchanges platform now)
    (hnumbers : now.state.store.numbers platform.crypto phase = some (numbering keys sid last sendSeq)) :
    sendSeq.toNat ≤ 10 := by
  have hcurrent := (h.current phase).trans hnumbers
  have hbounded := (h.sound phase).bounded _ hcurrent
  have hdigit := h.digit phase _ hnumbers
  cases last with
  | none => exact hbounded.trans (Nat.zero_le _)
  | some seq => exact hbounded.trans (Nat.succ_le_succ (hdigit seq.toNat rfl))

theorem lt_uint64Max_of_le (h : sendSeq.toNat ≤ 10) : sendSeq < uint64Max := by
  have hlimit : uint64Max.toNat = 18446744073709551615 := rfl
  rw [UInt64.lt_iff_toNat_lt]
  omega

theorem numbering_answered (h : sendSeq < uint64Max) :
    numbering keys sid (some accepted) (sendSeq + 1) =
      ⟨(keys, sid), some accepted.toNat, sendSeq.toNat + 1⟩ := by
  have hlimit : uint64Max.toNat = 18446744073709551615 := rfl
  have hlt := UInt64.lt_iff_toNat_lt.mp h
  have hsend : (sendSeq + 1).toNat = sendSeq.toNat + 1 := by
    rw [UInt64.toNat_add]
    change (sendSeq.toNat + 1) % 18446744073709551616 = _
    omega
  rw [numbering, hsend, Option.map_some]

theorem books_step (now : Exchanging) (call : ExchangeCall) (phase : AppPhase) :
    (now.step platform call).books phase =
      ((now.books phase).recordAll (Exchanging.answerEvents platform.crypto phase now.state
        (now.target platform call))).recordAll
          (Exchanging.deliveryEvents phase now.state (now.target platform call) call) :=
  List.foldl_append

/-- The delivery of the newest answer, and the notification it was. -/
def Delivers (phase : AppPhase) (now next : Exchanging) : Prop :=
  ∃ conn reply, (next.books phase).delivered = reply :: (now.books phase).delivered ∧
    next.state.outbox = (conn, reply) :: now.state.outbox ∧
    (now.books phase).answers.head?.map Answered.reply = some reply

/-- A call that answers no frame keeps the book of a phase, up to the delivery of its newest answer. -/
theorem Exchanges.book (h : Exchanges platform now)
    (hunanswered : Unanswered platform.crypto phase now.state.store (now.target platform call).store)
    (hanswer : ∀ wire, (now.target platform call).worker.answer phase = some wire →
      now.state.worker.answer phase = some wire) :
    let events := Exchanging.deliveryEvents phase now.state (now.target platform call) call
    let next := (now.step platform call).books phase
    next.current = (now.target platform call).store.numbers platform.crypto phase ∧ next.Sound ∧
      next.answers = (now.books phase).answers ∧
      (events = [] → next.held = (now.books phase).held) ∧
      (next.delivered = (now.books phase).delivered ∨ Delivers phase now (now.step platform call)) := by
  dsimp only
  obtain ⟨hcurrent, hsound, hheld, hanswers, hdelivered⟩ :=
    recordAll_unanswered (h.current phase) hunanswered
  unfold Delivers
  rw [books_step, answerEvents_of_passed hanswer]
  rcases deliveryEvents_cases platform phase now call with hnone | ⟨status, wire, conn, hworker, hone, houtbox⟩
  · rw [hnone]
    exact ⟨hcurrent, hsound (h.sound phase), hanswers, fun _ ↦ hheld, .inl hdelivered⟩
  · rw [hone]
    obtain ⟨hbusy, hnewest⟩ := h.held phase wire (hworker ▸ answer_deliver)
    have hadmits : (AnswerBook.recordAll (now.books phase) (Exchanging.sessionEvents platform.crypto phase
        now.state (now.target platform call))).Admits (.delivered wire) :=
      ⟨hheld.trans hbusy, by rw [hanswers]; exact hnewest⟩
    exact ⟨hcurrent, (hsound (h.sound phase)).deliver hadmits, hanswers, nofun,
      .inr ⟨conn, wire, congrArg (wire :: ·) hdelivered, houtbox, hnewest⟩⟩

/-- A call that answers no frame keeps the invariant. -/
theorem Exchanges.unanswered (h : Exchanges platform now)
    (hactive : (now.target platform call).store.jobActive = (now.target platform call).worker.inJob)
    (hdecapsulates : ∀ mode epoch, (now.target platform call).worker = .decapsulate mode epoch →
      mode.decapsulates = true)
    (hcopied6 : ∀ epoch snapshot, (now.target platform call).worker = .app6 epoch snapshot →
      (now.target platform call).store.phase6Active = true ∨
          (now.target platform call).store.phase5ApplicationReady = true →
        snapshot.Agrees (now.target platform call).store)
    (hcopied7 : ∀ epoch snapshot, (now.target platform call).worker = .app7 epoch snapshot →
      (now.target platform call).store.retained.authenticated = true →
        snapshot.Agrees (now.target platform call).store.retained)
    (hunanswered : ∀ phase, Unanswered platform.crypto phase now.state.store (now.target platform call).store)
    (hanswer : ∀ phase wire, (now.target platform call).worker.answer phase = some wire →
      now.state.worker.answer phase = some wire ∧
        Exchanging.deliveryEvents phase now.state (now.target platform call) call = []) :
    Exchanges platform (now.step platform call) := by
  have hbook := fun phase ↦ h.book (hunanswered phase) fun wire hwire ↦ (hanswer phase wire hwire).1
  refine ⟨hactive, hdecapsulates, hcopied6, hcopied7, fun phase ↦ (hbook phase).1,
    fun phase ↦ (hbook phase).2.1, fun phase session hsession seq hseq ↦ ?digit,
    fun phase answer hmem ↦ ?numbered, fun phase wire hwire ↦ ?held⟩
  case digit =>
    cases hunanswered phase with
    | kept hnumbers => exact h.digit phase session (hnumbers ▸ hsession) seq hseq
    | closed hnumbers => exact absurd (hnumbers.symm.trans hsession) nofun
    | began key hnumbers =>
      obtain rfl := Option.some.inj (hnumbers.symm.trans hsession)
      cases hseq
  case numbered =>
    rw [(hbook phase).2.2.1] at hmem
    exact h.numbered phase answer hmem
  case held =>
    obtain ⟨hbefore, hquiet⟩ := hanswer phase wire hwire
    obtain ⟨-, -, hanswers, hheld, -⟩ := hbook phase
    rw [hheld hquiet, hanswers]
    exact h.held phase wire hbefore

/-- The answer to a frame in the book of its phase. -/
theorem Exchanges.recorded (h : Exchanges platform now)
    (hanswers : Answers platform phase now.state (now.target platform call) keys sid last sendSeq accepted
      answer) :
    (now.books phase).Admits (.answered (keys, sid) accepted.toNat sendSeq.toNat answer) ∧
      sequenceOf answer = sendSeq.toNat ∧
      (now.step platform call).books phase =
        (now.books phase).record (.answered (keys, sid) accepted.toNat sendSeq.toNat answer) ∧
      ∀ phase', Exchanging.deliveryEvents phase' now.state (now.target platform call) call = [] := by
  obtain ⟨hbefore, ⟨frame, view, hframe, hkeys, hsid, -, hanswer, hworker⟩, -, -⟩ := hanswers
  obtain ⟨⟨hnewer, -⟩, hreceived, hsent⟩ := answerFrame_numbers hanswer
  have hquiet : ∀ phase', Exchanging.deliveryEvents phase' now.state (now.target platform call) call = [] := by
    intro phase'
    rcases deliveryEvents_cases platform phase' now call with hnone | ⟨status, wire, conn, hstate, -⟩
    · exact hnone
    · rw [hstate] at hframe
      cases hframe
  refine ⟨⟨_, (h.current phase).trans hbefore, rfl, rfl, fun seq hseq ↦ ?_⟩, hsent, ?_, hquiet⟩
  · obtain ⟨seq', hseq', rfl⟩ := Option.mem_map.mp hseq
    exact UInt64.lt_iff_toNat_lt.mp (hnewer seq' hseq')
  · have hnext : (now.target platform call).worker.answer phase = some answer := by
      rw [hworker]
      exact if_pos rfl
    rw [books_step, hquiet, answerEvents_of_frame hframe hnext, hkeys, hsid, hreceived, hsent]
    rfl

/-- A call that answers a frame keeps the invariant. -/
theorem Exchanges.answered (h : Exchanges platform now)
    (hanswers : Answers platform phase now.state (now.target platform call) keys sid last sendSeq accepted
      answer)
    (hactive : (now.target platform call).store.jobActive = true)
    (hother : ∀ phase', phase' ≠ phase → (now.target platform call).store.numbers platform.crypto phase' =
      now.state.store.numbers platform.crypto phase') : Exchanges platform (now.step platform call) := by
  obtain ⟨hadmits, hsent, hrecorded, -⟩ := h.recorded hanswers
  obtain ⟨-, ⟨frame, view, -, -, -, -, hanswer, hworker⟩, hafter, hroom⟩ := hanswers
  rw [numbering_answered hroom] at hafter
  have hkept : ∀ phase', phase' ≠ phase →
      ((now.step platform call).books phase').current =
          (now.target platform call).store.numbers platform.crypto phase' ∧
        ((now.step platform call).books phase').Sound ∧
        ((now.step platform call).books phase').answers = (now.books phase').answers := by
    intro phase' hne
    have hnone : ∀ wire, (now.target platform call).worker.answer phase' = some wire →
        now.state.worker.answer phase' = some wire := by
      intro wire hwire
      rw [hworker] at hwire
      exact absurd (mode_injective (Option.ite_none_right_eq_some.mp hwire).1).symm hne
    obtain ⟨hcurrent, hsound, hanswers, -⟩ := h.book (.kept (hother phase' hne)) hnone
    exact ⟨hcurrent, hsound, hanswers⟩
  have hended : (now.step platform call).state.worker = .jobDone phase.mode frame.epoch .success answer := hworker
  refine ⟨?active, by rw [hended]; exact nofun, by rw [hended]; exact nofun, by rw [hended]; exact nofun,
    fun phase' ↦ ?current, fun phase' ↦ ?sound, fun phase' session hsession seq hseq ↦ ?digit,
    fun phase' reply hmem ↦ ?numbered, fun phase' wire hwire ↦ ?held⟩
  case active =>
    rw [hended]
    exact hactive
  case current =>
    by_cases hphase : phase' = phase
    · rw [hphase, hrecorded]
      exact hafter.symm
    · exact (hkept phase' hphase).1
  case sound =>
    by_cases hphase : phase' = phase
    · rw [hphase, hrecorded]
      exact (h.sound phase).answered hadmits
    · exact (hkept phase' hphase).2.1
  case digit =>
    by_cases hphase : phase' = phase
    · subst hphase
      obtain rfl := Option.some.inj (hafter.symm.trans hsession)
      obtain rfl := Option.some.inj hseq
      exact UInt64.le_iff_toNat_le.mp (answerFrame_numbers hanswer).1.2
    · exact h.digit phase' session ((hother phase' hphase).symm.trans hsession) seq hseq
  case numbered =>
    by_cases hphase : phase' = phase
    · rw [hphase, hrecorded] at hmem
      rcases List.mem_cons.mp hmem with rfl | hbefore
      · exact hsent
      · exact h.numbered phase reply hbefore
    · rw [(hkept phase' hphase).2.2] at hmem
      exact h.numbered phase' reply hmem
  case held =>
    rw [hended] at hwire
    obtain ⟨hmode, hsame⟩ := Option.ite_none_right_eq_some.mp hwire
    obtain rfl := mode_injective hmode
    rw [hrecorded]
    exact ⟨rfl, hsame⟩

/-- What a call does to the exchange of every phase. -/
structure Stepped (platform : Platform) (now : Exchanging) (call : ExchangeCall) : Prop where
  exchanges : Exchanges platform (now.step platform call)
  moves : ∀ phase,
    Unanswered platform.crypto phase now.state.store (now.step platform call).state.store ∧
        (∀ wire, (now.step platform call).state.worker.answer phase = some wire →
          now.state.worker.answer phase = some wire) ∨
      ∃ keys sid last sendSeq accepted answer,
        Answers platform phase now.state (now.step platform call).state keys sid last sendSeq accepted answer

/-- A call outside the worker, which may end sessions; new keys need a free slot. -/
theorem Exchanges.aside (h : Exchanges platform now)
    (hworker : (now.target platform call).worker = now.state.worker)
    (hactive : (now.target platform call).store.jobActive = now.state.store.jobActive)
    (hunanswers : Unanswers now.state.store (now.target platform call).store)
    (hcopy6 : now.state.store.jobActive = true →
      (now.target platform call).store.phase6Active = true ∨
          (now.target platform call).store.phase5ApplicationReady = true →
        (now.state.store.phase6Active = true ∨ now.state.store.phase5ApplicationReady = true) ∧
          ∀ snapshot : Phase6Snapshot, snapshot.Agrees now.state.store →
            snapshot.Agrees (now.target platform call).store)
    (hcopy7 : now.state.store.jobActive = true →
      (now.target platform call).store.retained.authenticated = true →
        (now.target platform call).store.retained = now.state.store.retained)
    (hquiet : ∀ phase, Exchanging.deliveryEvents phase now.state (now.target platform call) call = []) :
    Stepped platform now call := by
  have hrunning : now.state.worker.inJob = true → now.state.store.jobActive = true := h.active.trans
  have hanswer : ∀ phase wire, (now.target platform call).worker.answer phase = some wire →
      now.state.worker.answer phase = some wire := fun phase wire hnext ↦ hworker ▸ hnext
  refine ⟨h.unanswered ?_ (fun mode epoch hnext ↦ h.decapsulates mode epoch (hworker ▸ hnext))
    (fun epoch snapshot hnext hlive ↦ ?_) (fun epoch snapshot hnext hlive ↦ ?_)
    (fun phase ↦ hunanswers.unanswered phase) (fun phase wire hnext ↦ ⟨hanswer phase wire hnext, hquiet phase⟩),
    fun phase ↦ .inl ⟨hunanswers.unanswered phase, hanswer phase⟩⟩
  · rw [hactive, hworker]
    exact h.active
  · rw [hworker] at hnext
    obtain ⟨hbefore, hcopy⟩ := hcopy6 (hrunning (by rw [hnext]; rfl)) hlive
    exact hcopy snapshot (h.copied6 epoch snapshot hnext hbefore)
  · rw [hworker] at hnext
    have hcopy := hcopy7 (hrunning (by rw [hnext]; rfl)) hlive
    rw [hcopy] at hlive ⊢
    exact h.copied7 epoch snapshot hnext hlive

/-- A refused submission changes nothing. -/
theorem Exchanging.target_submit (now : Exchanging) (request : Submission) :
    now.target platform (.inl request) =
      match request.submit now.state.store with
      | .ok store => { now.state with store }
      | .error _ => now.state := by
  simp only [Exchanging.target, Server.step, slotServer]
  cases hsubmit : request.submit now.state.store with
  | ok store => rfl
  | error refusal =>
    obtain ⟨error, store⟩ := refusal
    obtain rfl := request.submit_failsIn error store hsubmit
    rfl

/-- A submission. -/
theorem Exchanges.submit (h : Exchanges platform now) (request : Submission) :
    Stepped platform now (.inl request) := by
  have htarget := @Exchanging.target_submit platform now request
  cases hsubmit : request.submit now.state.store with
  | error error =>
    rw [hsubmit] at htarget
    refine h.aside ?_ ?_ ?_ ?_ ?_ (fun _ ↦ rfl) <;> rw [htarget]
    · exact .refl _
    · exact fun _ hlive ↦ ⟨hlive, fun _ hagrees ↦ hagrees⟩
    · exact fun _ _ ↦ rfl
  | ok store =>
    rw [hsubmit] at htarget
    obtain ⟨⟨-, hfree⟩, -, -, hactive, -⟩ := Submission.submit_eq_ok hsubmit
    refine h.aside ?_ ?_ ?_ ?_ ?_ (fun _ ↦ rfl) <;> rw [htarget]
    · exact hactive.trans hfree.symm
    · exact submit_unanswers hsubmit
    · exact fun hbusy ↦ Bool.noConfusion (hfree.symm.trans hbusy)
    · exact fun hbusy ↦ Bool.noConfusion (hfree.symm.trans hbusy)

/-- A step of the worker outside the application jobs. -/
theorem Exchanges.passed (h : Exchanges platform now) {view : WorkerView}
    (happ : now.state.worker.isApp = false)
    (hstep : now.state.workerStep platform view = some (now.target platform (.inr (.worker view)))) :
    Stepped platform now (.inr (.worker view)) := by
  have hunanswers := workerStep_unanswers happ hstep
  have hpasses := workerStep_passes happ h.active h.decapsulates hstep
  refine ⟨h.unanswered hpasses.active hpasses.decapsulates
    (fun epoch snapshot hnext _ ↦ hpasses.copied6 epoch snapshot hnext)
    (fun epoch snapshot hnext _ ↦ hpasses.copied7 epoch snapshot hnext)
    (fun phase ↦ hunanswers.unanswered phase) (fun phase wire hnext ↦ ?_),
    fun phase ↦ .inl ⟨hunanswers.unanswered phase, fun wire hnext ↦ (hpasses.answer phase wire hnext).1⟩⟩
  obtain ⟨hbefore, hcallback⟩ := hpasses.answer phase wire hnext
  refine ⟨hbefore, ?_⟩
  rcases deliveryEvents_cases platform phase now (.inr (.worker view)) with hnone |
    ⟨status, wire', conn, hworker, -⟩
  · exact hnone
  · exact absurd hworker (hcallback _ _ _ _ _)

/-- A job that fails answers nothing. -/
theorem Exchanges.failed (h : Exchanges platform now) {mode : JobMode} {epoch : ℕ}
    (hjob : now.state.worker.isApp = true) (hfails : Fails mode epoch now.state (now.target platform call)) :
    Stepped platform now call := by
  obtain ⟨hstore, status, hstatus, hworker⟩ := hfails
  have hactive : now.state.store.jobActive = true := by
    rw [h.active]
    cases hstate : now.state.worker <;> rw [hstate] at hjob <;> first | rfl | cases hjob
  have hunanswers : Unanswers now.state.store (now.target platform call).store := by
    rw [hstore]
    exact .refl _
  have hended : Passes now.state (now.target platform call) :=
    .ended hworker (by rw [hstore]; exact hactive) (.inr hstatus)
  have hnone : ∀ phase wire, (now.target platform call).worker.answer phase ≠ some wire := by
    intro phase wire hnext
    rw [hworker] at hnext
    cases status with
    | success => exact hstatus rfl
    | _ => cases hnext
  exact ⟨h.unanswered hended.active hended.decapsulates
    (fun epoch snapshot hnext _ ↦ hended.copied6 epoch snapshot hnext)
    (fun epoch snapshot hnext _ ↦ hended.copied7 epoch snapshot hnext)
    (fun phase ↦ hunanswers.unanswered phase) (fun phase wire hnext ↦ absurd hnext (hnone phase wire)),
    fun phase ↦ .inl ⟨hunanswers.unanswered phase, fun wire hnext ↦ absurd hnext (hnone phase wire)⟩⟩

/-- The step that answers a frame. -/
theorem Exchanges.stepped (h : Exchanges platform now)
    (hanswers : Answers platform phase now.state (now.target platform call) keys sid last sendSeq accepted
      answer)
    (hactive : (now.target platform call).store.jobActive = true)
    (hother : ∀ phase', phase' ≠ phase → (now.target platform call).store.numbers platform.crypto phase' =
      now.state.store.numbers platform.crypto phase') : Stepped platform now call := by
  refine ⟨h.answered hanswers hactive hother, fun phase' ↦ ?_⟩
  by_cases hphase : phase' = phase
  · subst hphase
    exact .inr ⟨keys, sid, last, sendSeq, accepted, answer, hanswers⟩
  · refine .inl ⟨.kept (hother phase' hphase), fun wire hwire ↦ ?_⟩
    obtain ⟨frame, view, -, -, -, -, -, hworker⟩ := hanswers.job
    have hnext : (now.target platform call).worker.answer phase' = some wire := hwire
    rw [hworker] at hnext
    exact absurd (mode_injective (Option.ite_none_right_eq_some.mp hnext).1).symm hphase

/-- The application job of Phase 7. -/
theorem Exchanges.app7 (h : Exchanges platform now) {view : WorkerView} {epoch : ℕ} {snapshot : AppSnapshot}
    (hworker : now.state.worker = .app7 epoch snapshot)
    (htarget : now.target platform (.inr (.worker view)) = now.state.runApp7 platform epoch snapshot view) :
    Stepped platform now (.inr (.worker view)) := by
  rcases @runApp7_cases platform now.state epoch view snapshot with hfails |
    ⟨accepted, answer, hanswer, hsame, hlive, hstore, hfinished⟩
  · rw [← htarget] at hfails
    exact h.failed (by rw [hworker]; rfl) hfails
  rw [← htarget] at hstore hfinished
  obtain ⟨hkeys, hsid, hlast, hsend⟩ := h.copied7 epoch snapshot hworker hlive
  have hauthenticated : now.state.store.retained.authenticated = true := hlive
  have hbefore : now.state.store.numbers platform.crypto .phase7 =
      some (numbering snapshot.keys snapshot.sid snapshot.last snapshot.sendSeq) := by
    rw [numbers_phase7, if_pos hauthenticated, hkeys, hsid, hlast, hsend]
  have hroom := lt_uint64Max_of_le (h.room hbefore)
  have hmax : snapshot.sendSeq ≠ uint64Max := fun heq ↦ UInt64.lt_irrefl _ (heq ▸ hroom)
  have hframe : now.state.worker.frame platform.crypto .phase7 =
      some ⟨epoch, snapshot.keys, snapshot.sid, snapshot.wire⟩ := by
    rw [hworker]
    rfl
  refine @stepped platform .phase7 now _ snapshot.keys snapshot.sid snapshot.last snapshot.sendSeq accepted
    answer h ⟨hbefore, ⟨_, view, hframe, rfl, rfl, hsame, hanswer, hfinished hmax⟩, ?_, hroom⟩ ?_
    fun phase' hne ↦ ?_
  · rw [numbers_phase7, hstore, hkeys, hsid]
    refine (if_pos hauthenticated).trans ?_
    exact congrArg (fun sendSeq ↦ some (numbering _ _ (some accepted) sendSeq)) (if_neg hmax)
  · rw [hstore]
    exact h.active.trans (by rw [hworker]; rfl)
  · cases phase' with
    | phase6 => rw [hstore]; rfl
    | phase7 => exact absurd rfl hne

/-- A live copy carries the numbers of the session. -/
theorem Phase6Snapshot.Agrees.numbers {snapshot : Phase6Snapshot} {store : Store} (h : snapshot.Agrees store)
    (hlive : store.phase6Active = true ∨ store.phase5ApplicationReady = true) (crypto : Crypto) :
    store.numbers crypto .phase6 =
      some (numbering (snapshot.traffic crypto) snapshot.sid snapshot.last snapshot.sendSeq) := by
  rw [h.traffic, h.sid, h.last, h.sendSeq]
  by_cases hactive : store.phase6Active = true
  · simp only [Store.numbers, State.phase6Snapshot, Phase6Snapshot.traffic, hactive, if_true]
  · have hready := hlive.resolve_left hactive
    simp only [Store.numbers, State.phase6Snapshot, Phase6Snapshot.traffic, hactive, hready, if_true, if_false,
      Bool.false_eq_true]
    rfl

/-- The application job of Phase 6; its first frame installs the keys that it was answered under. -/
theorem Exchanges.app6 (h : Exchanges platform now) {view : WorkerView} {epoch : ℕ} {snapshot : Phase6Snapshot}
    (hworker : now.state.worker = .app6 epoch snapshot)
    (htarget : now.target platform (.inr (.worker view)) = now.state.runApp6 platform epoch snapshot view) :
    Stepped platform now (.inr (.worker view)) := by
  rcases @runApp6_cases platform now.state epoch view snapshot with hfails |
    ⟨keys, accepted, answer, hresult, hsame, hlive, hstore, hfinished⟩
  · rw [← htarget] at hfails
    exact h.failed (by rw [hworker]; rfl) hfails
  rw [← htarget] at hstore hfinished
  obtain ⟨rfl, hanswer⟩ := phase6Answer_eq_ok hresult
  have hagrees := h.copied6 epoch snapshot hworker hlive
  have hbefore := hagrees.numbers hlive platform.crypto
  have hroom := lt_uint64Max_of_le (h.room hbefore)
  have hmax : snapshot.sendSeq ≠ uint64Max := fun heq ↦ UInt64.lt_irrefl _ (heq ▸ hroom)
  have hframe : now.state.worker.frame platform.crypto .phase6 =
      some ⟨epoch, snapshot.traffic platform.crypto, snapshot.sid, snapshot.wire⟩ := by
    rw [hworker]
    rfl
  refine @stepped platform .phase6 now _ _ snapshot.sid snapshot.last snapshot.sendSeq accepted
    answer h ⟨hbefore, ⟨_, view, hframe, rfl, rfl, hsame, hanswer, hfinished hmax⟩, ?_, hroom⟩ ?_
    fun phase' hne ↦ ?_
  · rw [hstore]
    by_cases hactive : now.state.store.phase6Active = true
    · rw [hagrees.traffic, hagrees.sid]
      simp only [Store.numbers, Store.storePhase6, State.phase6Snapshot, Phase6Snapshot.traffic, hactive, hmax,
        if_true, if_false]
    · simp only [Store.numbers, Store.storePhase6, hactive, hmax, if_true, if_false, Bool.false_eq_true]
  · rw [hstore]
    exact h.active.trans (by rw [hworker]; rfl)
  · cases phase' with
    | phase6 => exact absurd rfl hne
    | phase7 => rw [hstore]; rfl

/-- **What every call does to the two exchanges.** -/
theorem Exchanges.step (h : Exchanges platform now) (call : ExchangeCall) : Stepped platform now call := by
  rcases call with request | call
  · exact h.submit request
  cases call with
  | resetPhase5 =>
    refine h.aside rfl rfl ⟨.inr rfl, .inl rfl⟩ (fun _ ↦ ?_) (fun _ _ ↦ rfl) fun _ ↦ rfl
    rintro (hactive | hready)
    · cases hactive
    · cases hready
  | resetPhase7 =>
    exact h.aside rfl rfl ⟨.inl rfl, .inr (.inl rfl)⟩
      (fun _ hlive ↦ ⟨hlive, fun _ hagrees ↦ ⟨hagrees.traffic, hagrees.sid, hagrees.last, hagrees.sendSeq⟩⟩)
      (by rintro - ⟨⟩) fun _ ↦ rfl
  | installPhase8Application keys sid =>
    cases hinstall : now.state.store.installPhase8Application keys sid with
    | error error =>
      have htarget : now.target platform (.inr (.installPhase8Application keys sid)) = now.state := by
        change now.state.slotCall platform (.installPhase8Application keys sid) = _
        simp only [State.slotCall, hinstall]
      refine h.aside ?_ ?_ ?_ ?_ ?_ (fun _ ↦ rfl) <;> rw [htarget]
      · exact .refl _
      · exact fun _ hlive ↦ ⟨hlive, fun _ hagrees ↦ hagrees⟩
      · exact fun _ _ ↦ rfl
    | ok store =>
      have htarget : now.target platform (.inr (.installPhase8Application keys sid)) = { now.state with store } := by
        change now.state.slotCall platform (.installPhase8Application keys sid) = _
        simp only [State.slotCall, hinstall]
      obtain ⟨⟨-, -, hfree⟩, rfl⟩ := installPhase8Application_eq_ok_iff.mp hinstall
      refine h.aside ?_ ?_ ?_ ?_ ?_ (fun _ ↦ rfl) <;> rw [htarget]
      · rfl
      · exact ⟨.inl rfl, .inr (.inr ⟨rfl, rfl⟩)⟩
      · exact fun hbusy ↦ Bool.noConfusion (hfree.symm.trans hbusy)
      · exact fun hbusy ↦ Bool.noConfusion (hfree.symm.trans hbusy)
  | elsewhere other =>
    exact h.aside rfl rfl (.refl _) (fun _ hlive ↦ ⟨hlive, fun _ hagrees ↦ hagrees⟩) (fun _ _ ↦ rfl)
      fun _ ↦ rfl
  | worker view =>
    have htarget : now.target platform (.inr (.worker view)) =
        (now.state.workerStep platform view).getD now.state := rfl
    cases hstep : now.state.workerStep platform view with
    | none =>
      have hidle : now.state.worker = .idle := by
        unfold State.workerStep at hstep
        cases hworker : now.state.worker <;> rw [hworker] at hstep <;> first | rfl | cases hstep
      rw [hstep, Option.getD_none] at htarget
      refine h.aside ?_ ?_ ?_ ?_ ?_ (fun phase ↦ ?_)
      · rw [htarget]
      · rw [htarget]
      · rw [htarget]
        exact .refl _
      · rw [htarget]
        exact fun _ hlive ↦ ⟨hlive, fun _ hagrees ↦ hagrees⟩
      · rw [htarget]
        exact fun _ _ ↦ rfl
      · rcases deliveryEvents_cases platform phase now (.inr (.worker view)) with hnone |
          ⟨status, wire, conn, hworker, -⟩
        · exact hnone
        · rw [hidle] at hworker
          cases hworker
    | some next =>
      rw [hstep, Option.getD_some] at htarget
      by_cases happ : now.state.worker.isApp = true
      · cases hworker : now.state.worker <;> rw [hworker] at happ
        case app6 epoch snapshot =>
          rw [State.workerStep, hworker] at hstep
          exact h.app6 hworker (htarget.trans (Option.some.inj hstep).symm)
        case app7 epoch snapshot =>
          rw [State.workerStep, hworker] at hstep
          exact h.app7 hworker (htarget.trans (Option.some.inj hstep).symm)
        all_goals cases happ
      · exact h.passed (by simpa using happ) (hstep.trans (congrArg some htarget.symm))

/-- **The invariant holds after every sequence of calls.** -/
theorem Exchanges.run (h : Exchanges platform now) (calls : List ExchangeCall) :
    Exchanges platform (now.run platform calls) := by
  induction calls generalizing now with
  | nil => exact h
  | cons call calls ih => exact ih (h.step call).exchanges

end Invariant

/-! ## The firmware -/

section Firmware

variable {platform : Platform} {now : Exchanging} {next : State} {action : Action}

end Firmware

end PqBleHandshake.Legacy
