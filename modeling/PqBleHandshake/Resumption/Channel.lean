import PqBleHandshake.Resumption.Service

/-!
# The application channel of the service

What the calls of the v1.1 service do to its application channel: the session and the two counters.
`ChannelStep` lists the moves once, each with the events it reports, and `channelStep_step` shows that
every call makes one of them.  The ledger invariant and everything said about nonces and streams in
v1.1 is derived from the list.
-/

namespace PqBleHandshake.Resumption

open Foundation

/-- The part of the service that the application channel lives in. -/
@[ext]
structure Channel where
  session : Session
  rxC2p : UInt64
  txP2c : UInt64
deriving DecidableEq

/-- A channel without a session. -/
def Channel.closed : Channel := ⟨Session.zero, 0, 0⟩

/-- The keys of a session's application channel. -/
def Session.appKeys (session : Session) : AppKeys where
  c2p := session.keys.c2p
  p2c := session.keys.p2c
  ivC2p := session.keys.ivC2p
  ivP2c := session.keys.ivP2c
  sid := session.sid

namespace Service

/-- The application channel of the service. -/
def channel (service : Service) : Channel :=
  ⟨service.core.session, service.rxC2p, service.txP2c⟩

@[simp]
theorem channel_scheduleExpiry (service : Service) (now : ℤ) :
    (service.scheduleExpiry now).channel = service.channel := rfl

@[simp]
theorem channel_clearSession (service : Service) : service.clearSession.channel = .closed := rfl

@[simp]
theorem channel_checkTicket (service : Service) (profile : UInt8) (clock : ℤ) :
    (service.checkTicket profile clock).channel = service.channel := rfl

end Service

/-- A PING that the channel accepts. -/
structure Channel.Accepts (aead : Aead) (channel : Channel) (ping : Cp4Message) : Prop where
  secure : channel.session.state = .secure
  seq_eq : ping.seq = channel.rxC2p
  opened : IsPing aead pqResumeV11 channel.session.appKeys ping
  room : channel.txP2c ≠ uint64Max

/-- The PONG that answers it. -/
structure Channel.Answers (aead : Aead) (channel : Channel) (ping pong : Cp4Message) : Prop where
  seq_eq : pong.seq = channel.txP2c
  plaintext_eq : pong.plaintext = ping.plaintext
  sealed : IsPong aead pqResumeV11 channel.session.appKeys pong

/-- The moves of the application channel with the events they report. -/
inductive ChannelStep (aead : Aead) (channel : Channel) : List AppEvent → Channel → Prop
  | keep : ChannelStep aead channel [] channel
  | close : ChannelStep aead channel [] .closed
  | accept (session : Session) (idle : channel.session.state = .idle)
      (waiting : session.state = .waitC) :
      ChannelStep aead channel [.installed session.appKeys] { channel with session }
  | acceptLost (keys : AppKeys) : ChannelStep aead channel [.installed keys] .closed
  | confirm (waiting : channel.session.state = .waitC) :
      ChannelStep aead channel []
        ⟨{ channel.session with
            state := .secure, keys := channel.session.keys.clearConfirmation }, 0, 0⟩
  | full (session : Session) (secure : session.state = .secure) :
      ChannelStep aead channel [.installed session.appKeys] ⟨session, 0, 0⟩
  | pingLost (ping : Cp4Message) (accepts : channel.Accepts aead ping) :
      ChannelStep aead channel [.opened ping] .closed
  | pongLost (ping pong : Cp4Message) (accepts : channel.Accepts aead ping)
      (answers : channel.Answers aead ping pong) :
      ChannelStep aead channel [.opened ping, .sealed pong] .closed
  | exchange (ping pong : Cp4Message) (accepts : channel.Accepts aead ping)
      (answers : channel.Answers aead ping pong) :
      ChannelStep aead channel [.opened ping, .sealed pong, .delivered, .committed]
        { channel with rxC2p := channel.rxC2p + 1, txP2c := channel.txP2c + 1 }

/-! ## Every call is a move -/

section Refinement

variable {crypto : Crypto} {aead : Aead} {service : Service} {conn : Conn} {wire : Bytes}
  {input : ControlInput}

/-- The outcomes of the application branch: the counters advance only with a queued PONG. -/
theorem controlApplication_cases {answer : ServiceAnswer} {service' : Service}
    (h : controlApplication pqResumeV11 aead service conn wire input = (answer, service')) :
    (answer.ok = true ∧ ChannelStep aead service.channel answer.events service'.channel) ∨
      (answer.ok = false ∧ ChannelStep aead service.channel answer.events .closed) := by
  unfold controlApplication at h
  split at h
  · cases h
    exact .inr ⟨rfl, .close⟩
  rename_i hguard
  simp only [not_or, not_not] at hguard
  obtain ⟨-, hsecure, -, htx⟩ := hguard
  dsimp only at h
  split at h
  · cases h
    exact .inr ⟨rfl, .close⟩
  rename_i plain hdecrypt
  obtain ⟨-, hopened⟩ := (pqV1Cp4Decrypt_eq_ok_iff le_rfl).mp hdecrypt
  have haccepts : service.channel.Accepts aead ⟨service.rxC2p, plain, wire⟩ :=
    ⟨hsecure, rfl, hopened, htx⟩
  split at h
  · cases h
    exact .inr ⟨rfl, .pingLost _ haccepts⟩
  rename_i response hencrypt
  obtain ⟨-, -, -, -, sealed, rfl, -, hresponse⟩ := pqV1Cp4Encrypt_eq_ok_iff.mp hencrypt
  have hplain : plain.length = 16 := hopened.choose_spec.length_plaintext
  have hanswers : service.channel.Answers aead ⟨service.rxC2p, plain, wire⟩
      ⟨service.txP2c, plain, response⟩ :=
    ⟨rfl, rfl, hplain, by rw [hresponse, hplain]; rfl⟩
  split at h
  · cases h
    exact .inl ⟨rfl, .exchange _ _ haccepts hanswers⟩
  · cases h
    exact .inr ⟨rfl, .pongLost _ _ haccepts hanswers⟩

/-- The outcomes of the core at a `PQRS` write. -/
theorem resumeAttempt_cases {answer : Answer} {core : Core}
    (h : resumeAttempt pqResumeV11 crypto service wire input = (answer, core)) :
    answer.reason ≠ .ok ∨
      (service.core.session.state = .idle ∧ core.session.state = .waitC) ∨
      (service.core.session.state = .waitC ∧
        core.session = { service.core.session with state := .pendingP }) := by
  unfold resumeAttempt at h
  split at h
  · split at h
    · cases h
      exact .inl (by decide)
    · rcases pqResumeAccept_cases h with ⟨-, sid, nc, haccepted⟩ | ⟨hfailed, -⟩
      · exact .inr (.inl ⟨haccepted.idle, by rw [haccepted.session_eq]⟩)
      · exact .inl hfailed.reason_ne
  split at h
  · rcases pqResumeFinish_cases h with ⟨-, hfinished⟩ | ⟨hfailed, -⟩
    · exact .inr (.inr ⟨hfinished.waiting, by rw [hfinished.core_eq]⟩)
    · exact .inl hfailed.reason_ne
  · cases h
    exact .inl (by decide)

/-- The outcomes of the `PQRS` branch. -/
theorem controlResume_cases {answer : ServiceAnswer} {service' : Service}
    (h : controlResume pqResumeV11 crypto service conn wire input = (answer, service')) :
    (answer.ok = true ∧ ChannelStep aead service.channel answer.events service'.channel) ∨
      (answer.ok = false ∧ ChannelStep aead service.channel answer.events .closed) := by
  unfold controlResume at h
  obtain ⟨⟨attempt, core⟩, hattempt⟩ :
      ∃ result, resumeAttempt pqResumeV11 crypto service wire input = result := ⟨_, rfl⟩
  simp only [hattempt] at h
  split at h
  · rename_i hok
    rcases resumeAttempt_cases hattempt with hne | ⟨hidle, hwait⟩ | ⟨hwait, hsession⟩
    · exact absurd hok hne
    · simp only [hwait, if_true, reduceCtorEq, if_false] at h
      split at h
      · cases h
        exact .inl ⟨rfl, .accept core.session hidle hwait⟩
      · cases h
        exact .inr ⟨rfl, .acceptLost _⟩
    · have hstate : core.session.state = .pendingP := by rw [hsession]
      simp only [hstate, if_true, reduceCtorEq, if_false] at h
      split at h
      · obtain ⟨⟨committed, core'⟩, hcommit⟩ : ∃ result, pqResumeCommit core (observe pqResumeV11
            { service with core } (service.peerIdentity pqResumeV11 input.entry) input.commit) =
              result := ⟨_, rfl⟩
        simp only [hcommit] at h
        rcases pqResumeCommit_cases hcommit with ⟨hreason, hcommitted⟩ | ⟨hfailed, -⟩
        · rw [if_pos hreason] at h
          cases h
          refine .inl ⟨rfl, ?_⟩
          have hnext : core'.session = { service.core.session with
              state := .secure, keys := service.core.session.keys.clearConfirmation } := by
            rw [hcommitted.session_eq, hsession]
          simp only [Service.channel, hnext]
          exact .confirm hwait
        · rw [if_neg hfailed.reason_ne] at h
          cases h
          exact .inr ⟨rfl, .close⟩
      · cases h
        exact .inr ⟨rfl, .close⟩
  · split at h
    · cases h
      exact .inl ⟨rfl, .close⟩
    · cases h
      exact .inr ⟨rfl, .close⟩

/-- **A control write is a move of the channel.** -/
theorem channelStep_control {answer : ServiceAnswer} {service' : Service}
    (h : pqResumeServiceControl pqResumeV11 crypto aead service conn wire input =
      (answer, service')) :
    ChannelStep aead service.channel answer.events service'.channel := by
  unfold pqResumeServiceControl at h
  obtain ⟨⟨inner, middle⟩, hinner⟩ : ∃ result, (if service.owner ≠ some conn ∨
      service.protectedLink pqResumeV11 input.entry.toLinkView = false ∨
        input.entry.mtu < wire.length + 3 then (({ ok := false } : ServiceAnswer), service)
    else if 4 ≤ wire.length ∧ wire.take 4 = magic then
      controlResume pqResumeV11 crypto service conn wire input
    else controlApplication pqResumeV11 aead service conn wire input) = result := ⟨_, rfl⟩
  rw [hinner] at h
  obtain ⟨rfl, rfl⟩ := Prod.mk.inj h
  have hcases : (inner.ok = true ∧ ChannelStep aead service.channel inner.events middle.channel) ∨
      (inner.ok = false ∧ ChannelStep aead service.channel inner.events .closed) := by
    split_ifs at hinner
    · cases hinner
      exact .inr ⟨rfl, .close⟩
    · exact controlResume_cases hinner
    · exact controlApplication_cases hinner
  rcases hcases with ⟨hok, hstep⟩ | ⟨hok, hstep⟩
  · simpa [hok] using hstep
  · simpa [hok] using hstep

theorem fullBody_eq_ok {faults : Faults} {full : FullKeys} {view : PeerView} {service' : Service}
    (h : fullBody pqResumeV11 crypto faults service full view = .ok service') :
    service'.core.session.state = .secure ∧ service'.rxC2p = service.rxC2p ∧
      service'.txP2c = service.txP2c := by
  simp only [fullBody, except_bind_eq_ok_iff, require_eq_ok_iff, orFail_eq_ok_iff,
    exists_and_left, exists_const] at h
  obtain ⟨-, -, keys, -, ticket, -, hresult⟩ := h
  cases hresult
  exact ⟨rfl, rfl, rfl⟩

/-- **Every call of the v1.1 service is a move of its channel.** -/
theorem channelStep_step (service : Service) (call : ServiceCall) :
    ChannelStep aead service.channel
      ((serviceMachine pqResumeV11 crypto aead).step service call).1.events
      ((serviceMachine pqResumeV11 crypto aead).step service call).2.channel := by
  cases call with
  | connected conn bonded clock now => exact .close
  | disconnected conn now =>
    simp only [serviceMachine, Service.disconnected, Service.channel_scheduleExpiry]
    split_ifs
    · exact .close
    · exact .keep
  | abort conn now =>
    simp only [serviceMachine, Service.abort, Service.channel_scheduleExpiry]
    split_ifs
    · exact .close
    · exact .keep
  | bondChanged now => exact .close
  | expire clock₁ clock₂ clock₃ =>
    simp only [serviceMachine, Service.expire, Service.channel_scheduleExpiry]
    split_ifs
    · exact .close
    · exact .keep
  | full faults keys view now =>
    simp only [serviceMachine, pqResumeServiceFull]
    split
    · rename_i service' hbody
      obtain ⟨hsecure, hrx, htx⟩ := fullBody_eq_ok hbody
      have hchannel : service'.channel = ⟨service'.core.session, 0, 0⟩ := by
        simp only [Service.channel, hrx, htx]
        rfl
      rw [Service.channel_scheduleExpiry, hchannel]
      exact .full service'.core.session hsecure
    · exact .close
  | takeHybrid view =>
    simp only [serviceMachine, pqResumeServiceTakeHybrid]
    rw [if_neg (fun h ↦ absurd h.1 (by decide))]
    exact .keep
  | control conn wire input => exact channelStep_control rfl

end Refinement

/-! ## The ledger invariant -/

/-- The service with its ledger. -/
structure ServiceRun where
  service : Service
  ledger : List Installation

/-- The service and the ledger under any sequence of calls. -/
def serviceRun (crypto : Crypto) (aead : Aead) : Machine ServiceRun ServiceCall ServiceAnswer where
  step run call :=
    let result := (serviceMachine pqResumeV11 crypto aead).step run.service call
    (result.1, { service := result.2, ledger := recordEvents run.ledger result.1.events })

/-- The service at boot, before any key was installed. -/
def ServiceRun.boot : ServiceRun := { service := Service.zero, ledger := [] }

/-- What holds between any two calls: every installation is sound, the two counters agree, a closed
channel is wiped, and the last installation is settled at the counters of an open channel. -/
structure Channel.Inv (aead : Aead) (channel : Channel) (ledger : List Installation) : Prop where
  sound : ∀ inst ∈ ledger, inst.Sound aead pqResumeV11
  counters : channel.rxC2p = channel.txP2c
  idle : channel.session.state = .idle → channel = .closed
  inactive : channel.session.state ≠ .secure → channel.txP2c = 0
  current : channel.session.state ≠ .idle → ∃ inst earlier, ledger = inst :: earlier ∧
    inst.keys = channel.session.appKeys ∧ inst.Settled channel.txP2c

section Invariant

variable {aead : Aead} {channel channel' : Channel} {ledger : List Installation}
  {events : List AppEvent}

theorem Channel.Inv.closed (h : ∀ inst ∈ ledger, inst.Sound aead pqResumeV11) :
    Channel.closed.Inv aead ledger where
  sound := h
  counters := rfl
  idle _ := rfl
  inactive _ := rfl
  current hne := absurd rfl hne

/-- Installing keys starts a settled installation. -/
theorem Channel.Inv.installed (h : ∀ inst ∈ ledger, inst.Sound aead pqResumeV11)
    {session : Session} (hopen : session.state ≠ .idle) :
    (⟨session, 0, 0⟩ : Channel).Inv aead ({ keys := session.appKeys } :: ledger) where
  sound := List.forall_mem_cons.mpr ⟨Installation.sound_fresh _, h⟩
  counters := rfl
  idle hidle := absurd hidle hopen
  inactive _ := rfl
  current _ := ⟨_, _, rfl, rfl, Installation.settled_fresh _⟩

/-- A settled installation stays sound through the acceptance of the next PING. -/
theorem Channel.Accepts.sound {inst : Installation} {ping : Cp4Message}
    (haccepts : channel.Accepts aead ping) (hcounters : channel.rxC2p = channel.txP2c)
    (hsound : inst.Sound aead pqResumeV11) (hkeys : inst.keys = channel.session.appKeys)
    (hsettled : inst.Settled channel.txP2c) :
    (inst.record (.opened ping)).Sound aead pqResumeV11 :=
  hsound.opened_ping hsettled (haccepts.seq_eq.trans hcounters) (hkeys ▸ haccepts.opened)

/-- It stays sound through the encryption of the answer. -/
theorem Channel.Answers.sound {inst : Installation} {ping pong : Cp4Message}
    (haccepts : channel.Accepts aead ping) (hanswers : channel.Answers aead ping pong)
    (hcounters : channel.rxC2p = channel.txP2c) (hsound : inst.Sound aead pqResumeV11)
    (hkeys : inst.keys = channel.session.appKeys) (hsettled : inst.Settled channel.txP2c) :
    ((inst.record (.opened ping)).record (.sealed pong)).Sound aead pqResumeV11 := by
  have hanswering := hsettled.answering ping
  refine (haccepts.sound hcounters hsound hkeys hsettled).sealed_pong ?_ hanswers.plaintext_eq ?_ ?_
  · rw [hanswering.pongs]
    exact hanswering.last
  · rw [hanswering.pongs, hanswers.seq_eq]
  · rw [Installation.record_keys, hkeys]
    exact hanswers.sealed

/-- **Every move of the channel keeps the ledger invariant.** -/
theorem Channel.Inv.step (hinv : channel.Inv aead ledger)
    (hstep : ChannelStep aead channel events channel') :
    channel'.Inv aead (recordEvents ledger events) := by
  cases hstep with
  | keep => exact hinv
  | close => exact .closed hinv.sound
  | accept session hidle hwait =>
    have hclosed := hinv.idle hidle
    subst hclosed
    exact .installed hinv.sound (by simp [hwait])
  | acceptLost keys =>
    refine .closed ?_
    simpa using ⟨Installation.sound_fresh keys, hinv.sound⟩
  | confirm hwait =>
    obtain ⟨inst, earlier, hledger, hkeys, hsettled⟩ := hinv.current (by simp [hwait])
    rw [hinv.inactive (by simp [hwait])] at hsettled
    exact ⟨hinv.sound, rfl, fun h ↦ (nomatch h), fun _ ↦ rfl, fun _ ↦
      ⟨inst, earlier, hledger, hkeys, hsettled⟩⟩
  | full session hsecure => exact .installed hinv.sound (by simp [hsecure])
  | pingLost ping haccepts =>
    obtain ⟨inst, earlier, rfl, hkeys, hsettled⟩ := hinv.current (by simp [haccepts.secure])
    obtain ⟨hsound, hrest⟩ := List.forall_mem_cons.mp hinv.sound
    exact .closed (List.forall_mem_cons.mpr
      ⟨haccepts.sound hinv.counters hsound hkeys hsettled, hrest⟩)
  | pongLost ping pong haccepts hanswers =>
    obtain ⟨inst, earlier, rfl, hkeys, hsettled⟩ := hinv.current (by simp [haccepts.secure])
    obtain ⟨hsound, hrest⟩ := List.forall_mem_cons.mp hinv.sound
    exact .closed (List.forall_mem_cons.mpr
      ⟨hanswers.sound haccepts hinv.counters hsound hkeys hsettled, hrest⟩)
  | exchange ping pong haccepts hanswers =>
    obtain ⟨inst, earlier, rfl, hkeys, hsettled⟩ := hinv.current (by simp [haccepts.secure])
    obtain ⟨hsound, hrest⟩ := List.forall_mem_cons.mp hinv.sound
    have hsealed := hanswers.sound haccepts hinv.counters hsound hkeys hsettled
    have hnext : (channel.txP2c + 1).toNat = channel.txP2c.toNat + 1 :=
      toNat_add_one_of_ne haccepts.room
    have hlen : ((inst.record (.opened ping)).record (.sealed pong)).pongs.length =
        inst.pongs.length + 1 := List.length_append
    refine ⟨List.forall_mem_cons.mpr ⟨?_, hrest⟩, ?_, ?_, ?_, ?_⟩
    · refine (hsealed.delivered_pong ?_).committed_pong ?_
      · rw [hlen, hsettled.pongs]
        exact Nat.lt_succ_of_le hsettled.delivered.le
      · exact Nat.lt_succ_of_le (hsettled.committed.trans hsettled.delivered.symm).le
    · exact congrArg (· + 1) hinv.counters
    · intro hidle
      exact absurd hidle (by simp [haccepts.secure])
    · intro hne
      exact absurd haccepts.secure hne
    · intro _
      refine ⟨_, _, rfl, hkeys, ?_⟩
      constructor
      · simp [Installation.record, hsettled.pings, hnext]
      · simp [Installation.record, hsettled.pongs, hnext]
      · simp [Installation.record, hsettled.delivered, hnext]
      · simp [Installation.record, hsettled.committed, hnext]

/-- The ledger invariant holds after every run of the service. -/
theorem ServiceRun.inv (crypto : Crypto) (aead : Aead) (calls : List ServiceCall) :
    let run := (serviceRun crypto aead).run .boot calls
    run.service.channel.Inv aead run.ledger := by
  refine (serviceRun crypto aead).run_invariant
    (P := fun run ↦ run.service.channel.Inv aead run.ledger) ?_ ?_ calls
  · intro run call hinv
    exact hinv.step (channelStep_step run.service call)
  · exact .closed (by simp [ServiceRun.boot])

end Invariant

end PqBleHandshake.Resumption
