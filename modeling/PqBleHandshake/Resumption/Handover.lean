import PqBleHandshake.Resumption.Service

/-!
# The handover of resumed keys in v0.8

In v0.8 the application frames belong to the session store, so the keys of a committed resumption leave the
service through `pq_resume_service_take_hybrid`.  A commit fills the handover and a transfer empties it, with
the keys and the IVs; nothing else fills it.
-/

namespace PqBleHandshake.Resumption

open Foundation

/-- A FINISH_C of v0.8 whose FINISH_P was queued and which was committed in the same write. -/
structure HybridCommitted (crypto : Crypto) (service : Service) (conn : Conn) (wire : Bytes)
    (input : ControlInput) (service' : Service) : Prop where
  owner : service.owner = some conn
  committed : ∃ finish middle core, Finished crypto service.core
      (observe pqResumeV08 service (service.peerIdentity pqResumeV08 input.entry) input.attempt) wire
      finish middle ∧
    notifyCurrent pqResumeV08 { service with core := middle } conn input.send finish = true ∧
    Committed middle
      (observe pqResumeV08 service (service.peerIdentity pqResumeV08 input.entry) input.commit) core ∧
    service'.core = core
  filled : service'.owner = some conn ∧ service'.hybridPending = true

/-- The service holds nothing for the data path, and no key of a session that it calls secure. -/
structure Service.Settled (service : Service) : Prop where
  empty : service.hybridPending = false
  wiped : service.core.session.state = .secure → service.core.session.keys = Keys.zero
  answered : service.core.session.state ≠ .pendingP

theorem Service.settled_zero : Service.zero.Settled := ⟨rfl, nofun, nofun⟩

section Settled

variable {crypto : Crypto} {aead : Aead} {service service' : Service} {conn : Conn} {wire : Bytes}
  {input : ControlInput} {answer : ServiceAnswer}

theorem Service.settled_clearSession (service : Service) : service.clearSession.Settled :=
  ⟨rfl, nofun, nofun⟩

/-- Only the handover and the session matter. -/
theorem Service.Settled.congr (h : service.Settled) (hsession : service'.core.session = service.core.session)
    (hpending : service'.hybridPending = service.hybridPending) : service'.Settled :=
  ⟨hpending.trans h.empty, by rw [hsession]; exact h.wiped, by rw [hsession]; exact h.answered⟩

/-- What a control write leaves when it neither fails nor commits: a session that waits, or none. -/
theorem controlResume_handover (howner : service.owner = some conn)
    (h : controlResume pqResumeV08 crypto service conn wire input = (answer, service')) :
    answer.ok = false ∨
      (service'.core.session.state ≠ .secure ∧ service'.core.session.state ≠ .pendingP ∧
        (service'.hybridPending = service.hybridPending ∨ service'.hybridPending = false)) ∨
      HybridCommitted crypto service conn wire input service' := by
  unfold controlResume at h
  obtain ⟨⟨attempt, core⟩, hattempt⟩ :
      ∃ result, resumeAttempt pqResumeV08 crypto service wire input = result := ⟨_, rfl⟩
  simp only [hattempt] at h
  have hcases : attempt.reason ≠ .ok ∨ core.session.state = .waitC ∨
      Finished crypto service.core (observe pqResumeV08 service
        (service.peerIdentity pqResumeV08 input.entry) input.attempt) wire attempt.wire core := by
    unfold resumeAttempt at hattempt
    split at hattempt
    · split at hattempt
      · cases hattempt
        exact .inl nofun
      · rcases pqResumeAccept_cases hattempt with ⟨-, sid, nc, haccepted⟩ | ⟨hfailed, -⟩
        · exact .inr (.inl (by rw [haccepted.session_eq]))
        · exact .inl hfailed.reason_ne
    split at hattempt
    · rcases pqResumeFinish_cases hattempt with ⟨-, hfinished⟩ | ⟨hfailed, -⟩
      · exact .inr (.inr hfinished)
      · exact .inl hfailed.reason_ne
    · cases hattempt
      exact .inl nofun
  by_cases hok : attempt.reason = .ok
  · rw [if_pos hok] at h
    rcases hcases with hne | hwait | hfinished
    · exact absurd hok hne
    · simp only [hwait, if_true, reduceCtorEq, if_false] at h
      split at h
      · cases h
        exact .inr (.inl ⟨by simp [hwait], by simp [hwait], .inl rfl⟩)
      · cases h
        exact .inl rfl
    · have hstate : core.session.state = .pendingP := by rw [hfinished.core_eq]
      simp only [hstate, if_true, reduceCtorEq, if_false] at h
      split at h
      · rename_i hsent
        obtain ⟨⟨committed, core'⟩, hcommit⟩ : ∃ result, pqResumeCommit core (observe pqResumeV08
            { service with core } (service.peerIdentity pqResumeV08 input.entry) input.commit) =
              result := ⟨_, rfl⟩
        simp only [hcommit] at h
        rcases pqResumeCommit_cases hcommit with ⟨hreason, hcommitted⟩ | ⟨hfailed, -⟩
        · rw [if_pos hreason] at h
          cases h
          exact .inr (.inr ⟨howner, ⟨_, core, core', hfinished, hsent, hcommitted, rfl⟩, howner, rfl⟩)
        · rw [if_neg hfailed.reason_ne] at h
          cases h
          exact .inl rfl
      · cases h
        exact .inl rfl
  · rw [if_neg hok] at h
    split at h
    · cases h
      exact .inr (.inl ⟨nofun, nofun, .inr rfl⟩)
    · cases h
      exact .inl rfl

/-- **What a control write does to the handover.**  It fills it only by a commit, and then the write
succeeded. -/
theorem control_handover
    (h : pqResumeServiceControl pqResumeV08 crypto aead service conn wire input = (answer, service')) :
    (service'.core.session.state ≠ .secure ∧ service'.core.session.state ≠ .pendingP ∧
        (service'.hybridPending = service.hybridPending ∨ service'.hybridPending = false)) ∨
      HybridCommitted crypto service conn wire input service' ∧ answer.ok = true := by
  unfold pqResumeServiceControl at h
  obtain ⟨⟨inner, middle⟩, hinner⟩ : ∃ result, (if service.owner ≠ some conn ∨
      service.protectedLink pqResumeV08 input.entry.toLinkView = false ∨
        input.entry.mtu < wire.length + 3 then (({ ok := false } : ServiceAnswer), service)
    else if 4 ≤ wire.length ∧ wire.take 4 = magic then
      controlResume pqResumeV08 crypto service conn wire input
    else controlApplication pqResumeV08 aead service conn wire input) = result := ⟨_, rfl⟩
  rw [hinner] at h
  obtain ⟨rfl, rfl⟩ := Prod.mk.inj h
  have hcases : inner.ok = false ∨
      (middle.core.session.state ≠ .secure ∧ middle.core.session.state ≠ .pendingP ∧
        (middle.hybridPending = service.hybridPending ∨ middle.hybridPending = false)) ∨
      HybridCommitted crypto service conn wire input middle := by
    split_ifs at hinner with hguard
    · cases hinner
      exact .inl rfl
    · rw [not_or, not_not] at hguard
      exact controlResume_handover hguard.1 hinner
    · rw [controlApplication, if_pos (.inl rfl)] at hinner
      cases hinner
      exact .inl rfl
  cases hresult : inner.ok with
  | false => exact .inl ⟨nofun, nofun, .inr rfl⟩
  | true =>
    rcases hcases with hfailed | hquiet | hcommitted
    · exact absurd (hresult.symm.trans hfailed) nofun
    · exact .inl hquiet
    · exact .inr ⟨⟨hcommitted.owner, hcommitted.committed, hcommitted.filled⟩, rfl⟩

theorem Service.Settled.control (h : service.Settled)
    (hcontrol : pqResumeServiceControl pqResumeV08 crypto aead service conn wire input = (answer, service')) :
    service'.Settled ∨ HybridCommitted crypto service conn wire input service' ∧ answer.ok = true := by
  refine (control_handover hcontrol).imp_left fun ⟨hsecure, hpending, hhandover⟩ ↦
    ⟨?_, fun hstate ↦ absurd hstate hsecure, hpending⟩
  exact hhandover.elim (fun hsame ↦ hsame.trans h.empty) id

theorem Service.Settled.expire (h : service.Settled) (clock₁ clock₂ clock₃ : ℤ) :
    (service.expire pqResumeV08 clock₁ clock₂ clock₃).Settled := by
  unfold Service.expire
  dsimp only
  split
  · exact (Service.settled_clearSession _).congr rfl rfl
  · exact h.congr rfl rfl

theorem Service.Settled.abort (h : service.Settled) (conn : Option Conn) (now : ℤ) :
    (service.abort conn now).Settled := by
  unfold Service.abort
  dsimp only
  split
  · exact (Service.settled_clearSession _).congr rfl rfl
  · exact h.congr rfl rfl

theorem Service.settled_connected (service : Service) (conn : Conn) (bonded : Bool) (clock now : ℤ) :
    (service.connected pqResumeV08 conn bonded clock now).Settled :=
  (Service.settled_clearSession service).congr rfl rfl

theorem Service.Settled.disconnected (h : service.Settled) (conn : Conn) (now : ℤ) :
    (service.disconnected conn now).Settled := by
  unfold Service.disconnected
  dsimp only
  split
  · exact (Service.settled_clearSession _).congr rfl rfl
  · exact h.congr rfl rfl

/-- A full handshake leaves nothing to hand over. -/
theorem settled_full {faults : Faults} {full : FullKeys} {view : PeerView} {now : ℤ} :
    (pqResumeServiceFull pqResumeV08 crypto faults service full view now).2.Settled := by
  unfold pqResumeServiceFull
  dsimp only
  split
  · rename_i service' hbody
    simp only [fullBody, fullSessionKeys, except_bind_eq_ok_iff, require_eq_ok_iff, orFail_eq_ok_iff,
      exists_and_left, exists_const] at hbody
    obtain ⟨-, -, keys, hkeys, ticket, -, hresult⟩ := hbody
    cases hresult
    rw [if_neg (by decide)] at hkeys
    exact ⟨rfl, fun _ ↦ (Except.ok.inj hkeys).symm, by rintro ⟨⟩⟩
  · exact ⟨rfl, by rintro ⟨⟩, by rintro ⟨⟩⟩

/-- **A transfer empties the handover and wipes the keys and the IVs.** -/
theorem settled_takeHybrid {keys : AppKeys} {view : LinkView}
    (h : pqResumeServiceTakeHybrid pqResumeV08 service view = (some keys, service')) :
    service'.Settled ∧ service'.core.session.keys = Keys.zero ∧ keys = service.appKeys := by
  unfold pqResumeServiceTakeHybrid at h
  split_ifs at h with hready
  · cases h
    refine ⟨⟨rfl, fun _ ↦ rfl, ?_⟩, rfl, rfl⟩
    rw [hready.2.2.1]
    exact nofun
  · cases h

/-- The handover of a committed resumption succeeds. -/
theorem HybridCommitted.takeHybrid (h : HybridCommitted crypto service conn wire input service')
    (view : LinkView) :
    ∃ after, pqResumeServiceTakeHybrid pqResumeV08 service' view = (some service'.appKeys, after) ∧
      after.Settled := by
  obtain ⟨-, ⟨_, middle, core, -, -, hcommitted, rfl⟩, howner, hfilled⟩ := h
  have hsecure : service'.core.session.state = .secure := by rw [hcommitted.session_eq]
  have hlink : service'.protectedLink pqResumeV08 view = true := by
    rw [Service.protectedLink, howner]
    rfl
  have htake : pqResumeServiceTakeHybrid pqResumeV08 service' view = (some service'.appKeys, _) :=
    if_pos ⟨rfl, hlink, hsecure, hfilled⟩
  exact ⟨_, htake, (settled_takeHybrid htake).1⟩

/-- Without a filled handover there is no transfer. -/
theorem takeHybrid_of_empty {view : LinkView} (h : service.hybridPending = false) :
    pqResumeServiceTakeHybrid pqResumeV08 service view = (none, service) := by
  rw [pqResumeServiceTakeHybrid, if_neg fun hready ↦ Bool.noConfusion (h.symm.trans hready.2.2.2)]

/-- The call commits a resumption. -/
def Service.Commits (crypto : Crypto) (aead : Aead) (service : Service) (call : ServiceCall) : Prop :=
  ∃ conn wire input, call = .control conn wire input ∧ HybridCommitted crypto service conn wire input
    (pqResumeServiceControl pqResumeV08 crypto aead service conn wire input).2

/-- **No call fills an empty handover without a commit.** -/
theorem handover_step (h : service.hybridPending = false) {call : ServiceCall}
    (hcommit : ¬service.Commits crypto aead call) :
    ((serviceMachine pqResumeV08 crypto aead).step service call).2.hybridPending = false := by
  cases call with
  | connected conn bonded clock now => rfl
  | disconnected conn now =>
    change (service.disconnected conn now).hybridPending = false
    unfold Service.disconnected
    dsimp only
    split
    · rfl
    · exact h
  | abort conn now =>
    change (service.abort conn now).hybridPending = false
    unfold Service.abort
    dsimp only
    split
    · rfl
    · exact h
  | bondChanged now => rfl
  | expire clock₁ clock₂ clock₃ =>
    change (service.expire pqResumeV08 clock₁ clock₂ clock₃).hybridPending = false
    unfold Service.expire
    dsimp only
    split
    · rfl
    · exact h
  | full faults keys view now => exact settled_full.empty
  | takeHybrid view =>
    change (pqResumeServiceTakeHybrid pqResumeV08 service view).2.hybridPending = false
    rw [takeHybrid_of_empty h]
    exact h
  | control conn wire input =>
    obtain ⟨⟨answer, service'⟩, hcontrol⟩ : ∃ result,
        pqResumeServiceControl pqResumeV08 crypto aead service conn wire input = result := ⟨_, rfl⟩
    change (pqResumeServiceControl pqResumeV08 crypto aead service conn wire input).2.hybridPending = false
    rcases control_handover hcontrol with ⟨-, -, hsame | hempty⟩ | ⟨hcommitted, -⟩
    · rw [hcontrol]
      exact hsame.trans h
    · rw [hcontrol]
      exact hempty
    · refine absurd ⟨conn, wire, input, rfl, ?_⟩ hcommit
      rw [hcontrol]
      exact hcommitted

end Settled

end PqBleHandshake.Resumption
