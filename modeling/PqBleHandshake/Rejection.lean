import PqBleHandshake.FirmwareV1.Main
import PqBleHandshake.Legacy.Main

/-!
# The generic REJECT

A `PQRS` write that the core refuses is answered with one frame whatever the reason, and it costs the session
that was there.  The answer depends on the profile and on the stack's own delivery of the frame only, so two
refusals in two states cannot be told apart.
-/

namespace PqBleHandshake

open Foundation

namespace Resumption

/-- The frame that answers every refused write. -/
def rejectFrame (profile : UInt8) : Bytes := frame profile subtypeReject []

/-- No session and no counter of one is left. -/
structure Service.NoSession (service : Service) : Prop where
  session : service.core.session = Session.zero
  rx : service.rxC2p = 0
  tx : service.txP2c = 0
  pending : service.hybridPending = false

/-- A `PQRS` write on a live link that is malformed, or that `pq_resume_accept` or `pq_resume_finish`
refuses. -/
structure Refused (profile : UInt8) (crypto : Crypto) (service : Service) (conn : Conn) (wire : Bytes)
    (input : ControlInput) : Prop where
  owner : service.owner = some conn
  entry : service.protectedLink profile input.entry.toLinkView = true
  fits : wire.length + 3 ≤ input.entry.mtu
  magic_eq : wire.take 4 = magic
  refused : (resumeAttempt profile crypto service wire input).1.reason ≠ .ok
  send : service.protectedLink profile input.send.toLinkView = true
  subscribed : input.send.subscribed = true
  room : 11 ≤ input.send.mtu

section Refusals

variable {profile : UInt8} {crypto : Crypto} {aead : Aead} {service : Service} {conn : Conn} {wire : Bytes}
  {input : ControlInput}

theorem Service.noSession_clearSession (service : Service) : service.clearSession.NoSession :=
  ⟨rfl, rfl, rfl, rfl⟩

theorem Service.NoSession.scheduleExpiry (h : service.NoSession) (now : ℤ) :
    (service.scheduleExpiry now).NoSession := ⟨h.session, h.rx, h.tx, h.pending⟩

theorem pqResumeEncode_reject (h : KnownProfile profile) :
    (pqResumeEncode profile subtypeReject [] 72).getD [] = rejectFrame profile := by
  rw [pqResumeEncode_eq_some h rfl (by decide)]
  rfl

/-- Whether the REJECT leaves is up to the stack alone. -/
theorem Refused.notifyCurrent (h : Refused profile crypto service conn wire input) {core : Core} :
    notifyCurrent profile { service with core }.clearSession conn input.send (rejectFrame profile) =
      input.send.sent := by
  have hlink : ({ service with core } : Service).clearSession.protectedLink profile
      input.send.toLinkView = true := h.send
  have howner : ({ service with core } : Service).clearSession.owner = some conn := h.owner
  have hlength : (rejectFrame profile).length = 8 := length_frame profile subtypeReject []
  rw [Resumption.notifyCurrent, hlink, howner, h.subscribed, hlength]
  simp [h.room]

/-- **A refused write.** -/
theorem Refused.control (h : Refused profile crypto service conn wire input) (hprofile : KnownProfile profile)
    (aead : Aead) :
    (pqResumeServiceControl profile crypto aead service conn wire input).1 =
        (if input.send.sent then { ok := true, queued := some (rejectFrame profile) } else { ok := false }) ∧
      (pqResumeServiceControl profile crypto aead service conn wire input).2.NoSession := by
  have hmagic : 4 ≤ wire.length ∧ wire.take 4 = magic := by
    refine ⟨?_, h.magic_eq⟩
    have hlength := congrArg List.length h.magic_eq
    rw [List.length_take, show magic.length = 4 from rfl] at hlength
    omega
  have hentry : ¬(service.owner ≠ some conn ∨ service.protectedLink profile input.entry.toLinkView = false ∨
      input.entry.mtu < wire.length + 3) := by
    simp [h.owner, h.entry, h.fits]
  have hresume : controlResume profile crypto service conn wire input =
      (if input.send.sent then { ok := true, queued := some (rejectFrame profile) } else { ok := false },
        { service with core := (resumeAttempt profile crypto service wire input).2 }.clearSession) := by
    unfold controlResume
    dsimp only
    rw [if_neg h.refused, pqResumeEncode_reject hprofile, h.notifyCurrent]
    cases input.send.sent <;> rfl
  rw [pqResumeServiceControl, if_neg hentry, if_pos hmagic, hresume]
  refine ⟨rfl, ?_⟩
  dsimp only
  split
  · exact (Service.noSession_clearSession _).scheduleExpiry _
  · exact (Service.noSession_clearSession _).scheduleExpiry _

end Refusals

end Resumption

/-! ## The write that carried it -/

/-- The resume branch of `write_control` in v1.1 answers a refused write by its delivery alone. -/
theorem FirmwareV1.handleService_refused {platform : FirmwareV1.Platform} {state : FirmwareV1.State}
    {conn : Conn} {data : Bytes} {view : FirmwareV1.ControlView}
    (hversion : platform.version = Resumption.pqResumeV11) (hready : state.resumeReady conn)
    (h : Resumption.Refused platform.version platform.crypto state.service conn data view.control) :
    (state.handleService platform conn data view).1 =
      if view.control.send.sent then
        { result := some (.ok ())
          queued := some (conn, Resumption.rejectFrame platform.version) }
      else { result := some (.error .valueNotAllowed) } := by
  obtain ⟨hanswer, -⟩ := h.control (.inr hversion) platform.aead
  rw [State.handleService, if_pos hready]
  dsimp only
  rw [hanswer]
  cases view.control.send.sent <;> rfl

/-- The resume branch of `write_control` in v0.8 does the same. -/
theorem Legacy.handleResume_refused {platform : Legacy.Platform} {state : Legacy.State} {conn : Conn}
    {data : Bytes} {input : Resumption.ControlInput} {view : LinkView}
    (hversion : platform.version = Resumption.pqResumeV08) (hready : state.resumeReady conn)
    (h : Resumption.Refused platform.version platform.crypto state.service conn data input) :
    (state.handleResume platform conn data input view).1 =
        (if input.send.sent then .ok () else .error .valueNotAllowed) ∧
      (state.handleResume platform conn data input view).2.outbox =
        (if input.send.sent then [(conn, Resumption.rejectFrame platform.version)] else []) ++
          state.outbox := by
  obtain ⟨hanswer, hsession⟩ := h.control (.inl hversion) platform.aead
  have hnone : ∀ service : Resumption.Service, service.NoSession →
      Resumption.pqResumeServiceTakeHybrid platform.version service view = (none, service) := by
    intro service hempty
    rw [Resumption.pqResumeServiceTakeHybrid, if_neg]
    rintro ⟨-, -, -, hpending⟩
    exact absurd hpending (by rw [hempty.pending]; exact Bool.false_ne_true)
  rw [State.handleResume, if_pos hready]
  dsimp only [State.resetToIdle]
  rw [hanswer]
  cases input.send.sent
  · exact ⟨rfl, rfl⟩
  · simp only [if_true, State.installResumed, hnone _ hsession, true_and]
    rfl

/-! ## Two refusals -/

/-- **Uniform rejection.**  Two refused writes, in any two states of the service and for whatever reasons,
get the same answer, and neither leaves a session.  The write that carried the frame ends in the same way for all of
them, in both firmwares: by the delivery of the answer alone. -/
theorem uniform_rejection {profile : UInt8} (hprofile : Resumption.KnownProfile profile) {crypto : Crypto}
    {aead : Aead} {service service' : Resumption.Service} {conn conn' : Conn} {wire wire' : Bytes}
    {input input' : Resumption.ControlInput}
    (h : Resumption.Refused profile crypto service conn wire input)
    (h' : Resumption.Refused profile crypto service' conn' wire' input')
    (hsent : input.send.sent = input'.send.sent) :
    (Resumption.pqResumeServiceControl profile crypto aead service conn wire input).1 =
        (Resumption.pqResumeServiceControl profile crypto aead service' conn' wire' input').1 ∧
      (input.send.sent = true →
        (Resumption.pqResumeServiceControl profile crypto aead service conn wire input).1 =
          { ok := true, queued := some (Resumption.rejectFrame profile) }) ∧
      (Resumption.pqResumeServiceControl profile crypto aead service conn wire input).2.NoSession ∧
      (Resumption.pqResumeServiceControl profile crypto aead service' conn' wire' input').2.NoSession ∧
      (∀ (platform : FirmwareV1.Platform) (state : FirmwareV1.State) (conn : Conn) (data : Bytes)
        (view : FirmwareV1.ControlView), platform.version = Resumption.pqResumeV11 → state.resumeReady conn →
        Resumption.Refused platform.version platform.crypto state.service conn data view.control →
          (state.handleService platform conn data view).1 =
            if view.control.send.sent then
              { result := some (.ok ()), queued := some (conn, Resumption.rejectFrame platform.version) }
            else { result := some (.error .valueNotAllowed) }) ∧
      ∀ (platform : Legacy.Platform) (state : Legacy.State) (conn : Conn) (data : Bytes)
        (input : Resumption.ControlInput) (view : LinkView), platform.version = Resumption.pqResumeV08 →
        state.resumeReady conn →
        Resumption.Refused platform.version platform.crypto state.service conn data input →
          (state.handleResume platform conn data input view).1 =
              (if input.send.sent then .ok () else .error .valueNotAllowed) ∧
            (state.handleResume platform conn data input view).2.outbox =
              (if input.send.sent then [(conn, Resumption.rejectFrame platform.version)] else []) ++ state.outbox := by
  obtain ⟨hanswer, hsession⟩ := h.control hprofile aead
  obtain ⟨hanswer', hsession'⟩ := h'.control hprofile aead
  refine ⟨?_, fun hdelivered ↦ ?_, hsession, hsession',
    fun platform state conn data view hversion hready h ↦ FirmwareV1.handleService_refused hversion hready h,
    fun platform state conn data input view hversion hready h ↦ Legacy.handleResume_refused hversion hready h⟩
  · rw [hanswer, hanswer', hsent]
  · rw [hanswer, if_pos hdelivered]

/-- A four-byte write and an INIT of zeros, both to a service without a ticket. -/
theorem uniform_rejection_no_ticket :
    let service : Resumption.Service := { Resumption.Service.zero with owner := some 1 }
    let view : Resumption.PeerView := ⟨⟨true, true, 247, 0⟩, true, .zero 7⟩
    let input : Resumption.ControlInput := ⟨view, view, ⟨⟨true, true, 247, 0⟩, true⟩, view, 0,
      some (.zero 32), {}, false, false⟩
    let init := Resumption.frame Resumption.pqResumeV11 Resumption.subtypeInit (List.replicate 96 0)
    (Resumption.pqResumeServiceControl Resumption.pqResumeV11 polynomialCrypto polynomialAead service 1
        Resumption.magic input).1 =
      (Resumption.pqResumeServiceControl Resumption.pqResumeV11 polynomialCrypto polynomialAead service 1
        init input).1 :=
  (uniform_rejection (.inr rfl)
    ⟨by decide, by decide, by decide, by decide, by decide +kernel, by decide, by decide, by decide⟩
    ⟨by decide, by decide, by decide, by decide, by decide +kernel, by decide, by decide, by decide⟩ rfl).1

end PqBleHandshake
