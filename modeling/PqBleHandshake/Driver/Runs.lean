import PqBleHandshake.Driver.Policy
import PqBleHandshake.Handshake.Interoperability

/-!
# Runs of the Central

The stages of an exchange, the exchange, the pairing run around it and the session with its fallback.  The
policy of the Central and the accounting of its result follow from what every run keeps.
-/

namespace PqBleHandshake.Python

open Foundation Resumption.Python Effect
open Resumption hiding Ticket

section Exchange

variable {run : Setting} {env : ℕ → Answer}

/-- The assertions of an exchange; without a ticket in hand there was none to load. -/
abbrev OpeningAt (run : Setting) (allowResume forceFull asked : Bool) : Assertion :=
  fun trace file result app _ ↦ Opening run allowResume forceFull asked trace file result ∧ app = false

abbrev ResumingAt (run : Setting) : Assertion :=
  fun trace file result app ticket ↦ Resuming run trace file result ∧ app = false ∧ ticket ≠ none

abbrev ResumedAt (run : Setting) : Assertion := fun trace file result _ _ ↦ Resumed run trace file result

abbrev ReadyAt (run : Setting) : Assertion := fun trace file result _ _ ↦ Ready run trace file result

abbrev SecureAt (run : Setting) : Assertion := fun trace file result _ _ ↦ Secure run trace file result

theorem sound_opening {allowResume forceFull asked : Bool} :
    Sound run (OpeningAt run allowResume forceFull asked) := fun _ _ _ _ _ h ↦ h.1.toCore

theorem sound_resuming : Sound run (ResumingAt run) := fun _ _ _ _ _ h ↦ h.1.toCore

theorem sound_resumed : Sound run (ResumedAt run) := fun _ _ _ _ _ h ↦ h.toCore

theorem sound_ready : Sound run (ReadyAt run) := fun _ _ _ _ _ h ↦ h.toCore

theorem sound_secure : Sound run (SecureAt run) := fun _ _ _ _ _ h ↦ h.toCore

/-- A frame that proves nothing is always allowed. -/
theorem allowed_sent {past : List Event} {wire : Bytes} (h : isProof wire = false) :
    Allowed run.crypto run.onCurve run.profile past (.sent wire) := by
  refine ⟨fun hinit ↦ ?_, fun hproof ↦ ?_⟩
  · rw [isInit_of_isProof_eq_false h] at hinit
    cases hinit
  · rw [h] at hproof
    cases hproof

theorem keeps_attest {T S : Assertion} (hT : Sound run T)
    (hsent : ∀ wire, isProof wire = false → ∀ trace file result app ticket,
      T trace file result app ticket → T (.sent wire :: trace) file result app ticket)
    (hattested : ∀ trace file result app ticket, T trace file result app ticket →
      S (.attested (strictSec pqResumeV11) :: trace) file result app ticket) :
    Keeps run T (attest env run.onCurve) fun _ ↦ S := by
  refine Keeps.bind (keeps_orRaise hT) fun query ↦ Keeps.fact fun hquery ↦ ?_
  refine Keeps.bind (keeps_sendControl hT (hsent query (encodeFull_isProof hquery))) fun _ ↦ ?_
  refine Keeps.bind (keeps_receive hT) fun sec ↦ ?_
  refine Keeps.bind (keeps_orRaise hT) fun _ ↦ Keeps.fact fun hsec ↦ ?_
  obtain rfl := securityInfo_iff.mp hsec
  exact Keeps.bind (keeps_emit hattested) fun _ ↦ Keeps.pure

theorem Ready.attested {trace : List Event} {file : TicketFile} {result : Result}
    (h : Ready run trace file result) :
    Ready run (.attested (strictSec pqResumeV11) :: trace) file result :=
  @Ready.quiet run _ _ _ _ (.attested (strictSec pqResumeV11)) h rfl rfl h.stored

theorem Opening.attest {allowResume forceFull asked : Bool} {trace : List Event} {file : TicketFile}
    {result : Result} (h : Opening run allowResume forceFull asked trace file result) :
    Opening run allowResume forceFull true (.attested (strictSec pqResumeV11) :: trace) file result :=
  { h.toReady.attested with fresh := h.fresh, warm := h.warm, attested := fun _ _ ↦ rfl }

/-- The object of an application is built over an authenticated session only. -/
theorem keeps_openApplication {T : List Event → TicketFile → Result → Prop}
    (hT : ∀ trace file result, T trace file result → Core run trace file result) :
    Keeps run (fun trace file result _ _ ↦ T trace file result) openApplication
      fun _ trace file result app _ ↦ T trace file result ∧ app = true := by
  refine Keeps.bind keeps_look fun session ↦ ?_
  split
  · exact fun _ h ↦ ⟨h, rfl⟩
  · exact keeps_raise (fun _ _ _ _ _ h ↦ hT _ _ _ h) nofun

/-! ### The resumption -/

/-- INIT is allowed once, after the attestation and not on a link paired in this run. -/
theorem Opening.sentInit {trace : List Event} {file : TicketFile} {result : Result} {wire : Bytes}
    (h : Opening run true false true trace file result) (hwire : isInit wire = true) :
    Resuming run (.sent wire :: trace) file result := by
  obtain ⟨hinits, hreason⟩ := h.fresh rfl
  have hpending := fun hpunctual ↦ h.pending hpunctual
  refine { lawful := ⟨⟨fun _ ↦ hinits, fun _ hprofile ↦ ⟨h.attested rfl hprofile, h.warm rfl rfl hprofile⟩⟩,
             h.lawful⟩
           stored := h.stored
           justified := h.justified
           pristine := fun hpunctual _ ↦ ⟨(hpending hpunctual).path, (hpending hpunctual).rounds⟩
           unverified := h.unverified
           pending := fun hpunctual ↦ ⟨(hpending hpunctual).path, (hpending hpunctual).rounds,
             fun hne ↦ absurd hreason hne⟩
           begun := ?_
           fresh := hreason
           warm := fun hprofile ↦ ⟨h.attested rfl hprofile, h.warm rfl rfl hprofile⟩ }
  simp [inits, hwire]

theorem Resuming.sentFinishC {trace : List Event} {file : TicketFile} {result : Result} {wire : Bytes}
    (h : Resuming run trace file result) (hwire : isInit wire = false) :
    Resuming run (.sent wire :: trace) file result := by
  have hpending := fun hpunctual ↦ h.pending hpunctual
  have hinits : inits (.sent wire :: trace) = inits trace := by simp [inits, hwire]
  exact { lawful := ⟨⟨fun hinit ↦ absurd (hwire.symm.trans hinit) Bool.false_ne_true,
            fun _ hprofile ↦ h.warm hprofile⟩, h.lawful⟩
          stored := h.stored
          justified := h.justified
          pristine := fun hpunctual _ ↦ ⟨(hpending hpunctual).path, (hpending hpunctual).rounds⟩
          unverified := h.unverified
          pending := fun hpunctual ↦ ⟨(hpending hpunctual).path, (hpending hpunctual).rounds,
            fun hne ↦ absurd h.fresh hne⟩
          begun := hinits ▸ h.begun
          fresh := h.fresh
          warm := h.warm }

/-- After a REJECT the exchange goes on with a full handshake. -/
theorem Resuming.rejected {trace : List Event} {file : TicketFile} {result : Result}
    (h : Resuming run trace file result) :
    Ready run (.rejected :: trace) file { result with fallbackReason := some .resumeReject } where
  lawful := ⟨trivial, h.lawful⟩
  stored := h.stored
  justified := h.justified
  pristine := nofun
  unverified := h.unverified
  pending hpunctual :=
    ⟨(h.pending hpunctual).path, (h.pending hpunctual).rounds, fun _ ↦ .inl h.begun⟩

/-- A verified FINISH_P. -/
theorem Resuming.verified {trace : List Event} {file : TicketFile} {result : Result}
    {central : CentralResume} {ticket : Ticket} {raw : Bytes} (h : Resuming run trace file result)
    (hfinish : (central.finish run.crypto ticket raw).1 = .ok ()) :
    Resumed run (.finishPVerified central ticket raw :: trace) file result where
  lawful := ⟨hfinish, h.lawful⟩
  stored := h.stored
  justified := h.justified
  pristine := nofun
  verified := rfl
  pongs := rfl
  decided := rfl
  fresh := h.fresh
  rounds hpunctual := (h.pending hpunctual).rounds

theorem Resumed.quiet {event : Event} {past : List Event} {file file' : TicketFile} {result : Result}
    (h : Resumed run past file result) (hquiet : event.quiet = true)
    (hallowed : Allowed run.crypto run.onCurve run.profile past event)
    (hfile : file' = fileAfter run.origin (event :: past)) : Resumed run (event :: past) file' result := by
  have hextends := Event.extends_of_quiet hquiet past
  exact ⟨h.toCore.quiet hquiet hallowed hfile, hextends.verified.trans h.verified,
    hextends.pongs.trans h.pongs, hextends.resuming.trans h.decided, h.fresh, fun hpunctual ↦ h.rounds hpunctual.tail⟩

/-- The result of a resumption. -/
theorem Resumed.secure {trace : List Event} {file : TicketFile} {result : Result} {uses : ℕ}
    (h : Resumed run trace file result) :
    Secure run trace file { result with path := .resume, successfulResumes := uses } where
  lawful := h.lawful
  stored := h.stored
  justified := h.justified
  pristine _ hresuming := absurd (h.decided.symm.trans hresuming) Bool.false_ne_true
  established := by
    rw [h.verified]
    exact nofun
  decided := h.decided
  accounted hpunctual := ⟨h.verified, (h.rounds hpunctual).trans h.pongs.symm,
    fun hne ↦ absurd h.fresh hne⟩

theorem keeps_finishResume {ticket : Ticket} {reply : Bytes} :
    Keeps run (ResumingAt run) (finishResume run.crypto ticket reply) fun used trace file result _ _ ↦
      Resumed run trace file result ∧
        ∃ central rest, trace = .finishPVerified central ticket reply :: rest ∧ used = ticket.used := by
  refine Keeps.bind keeps_look fun session ↦ ?_
  split
  · next central =>
    split
    · next next used hfinish =>
      intro w hw
      obtain ⟨hresuming, -, -⟩ := hw
      obtain ⟨-, -, hused, -⟩ := CentralResume.finish_eq_ok hfinish
      exact ⟨hresuming.verified (congrArg Prod.fst hfinish), central, w.trace, rfl, hused⟩
    · exact Keeps.bind keeps_setSession fun _ ↦ keeps_raise sound_resuming nofun
  · exact keeps_raise sound_resuming nofun

theorem keeps_storeSave_resumed {ticket : Ticket} {reply : Bytes} {used : Ticket} :
    Keeps run (fun trace file result _ _ ↦ Resumed run trace file result ∧
        ∃ central rest, trace = .finishPVerified central ticket reply :: rest ∧ used = ticket.used)
      (storeSave env used) fun _ ↦ ResumedAt run := by
  refine keeps_storeSave (fun _ _ _ _ _ h ↦ h.1.toCore) sound_resumed (fun _ _ _ _ _ h ↦ h.1)
    (fun _ _ _ _ _ h ↦ h.1.quiet rfl trivial rfl) fun _ _ _ _ _ h ↦ ?_
  obtain ⟨hresumed, central, rest, rfl, rfl⟩ := h
  exact hresumed.quiet rfl (.inl ⟨central, ticket, reply, rest, rfl, rfl⟩) rfl

/-- The resumption ends with a session, or with a REJECT and the full handshake ahead. -/
theorem keeps_resumeExchange (ticket : Ticket) :
    Keeps run (fun trace file result app held ↦
        Opening run true false true trace file result ∧ app = false ∧ held ≠ none)
      (resumeExchange env run.crypto run.profile ticket) fun _ trace file result app held ↦
      (Secure run trace file result ∧ app = true) ∨
        (Ready run trace file result ∧ app = false ∧ held ≠ none) := by
  have hsound : Sound run fun trace file result app held ↦
      Opening run true false true trace file result ∧ app = false ∧ held ≠ none :=
    fun _ _ _ _ _ h ↦ h.1.toCore
  refine Keeps.bind keeps_ask fun answer ↦ ?_
  split
  · exact Keeps.bind (keeps_setTicket (S := fun trace file result _ _ ↦ Core run trace file result)
      fun _ _ _ _ _ h ↦ h.1.toCore) fun _ ↦ keeps_raise (fun _ _ _ _ _ h ↦ h) nofun
  · refine Keeps.bind keeps_setSession fun _ ↦ Keeps.bind (keeps_onResume hsound) fun init ↦
      Keeps.fact fun hinit ↦ ?_
    have hisInit : isInit init = true := by
      obtain ⟨central, next, hbegin⟩ := hinit
      obtain ⟨-, -, -, rid, sid, nc, -, -, -, rfl⟩ := CentralResume.begin_eq_ok hbegin
      exact isInit_initFrame ..
    refine Keeps.bind (keeps_sendControl (S := ResumingAt run) sound_resuming
      fun _ _ _ _ _ h ↦ ⟨h.1.sentInit hisInit, h.2⟩) fun _ ↦ ?_
    refine Keeps.bind (keeps_receive sound_resuming) fun raw ↦ ?_
    refine Keeps.bind (keeps_orResume sound_resuming) fun subtype ↦ Keeps.fact fun _ ↦ ?_
    split
    · -- The REJECT changes the result first and the trace at the end.
      intro w hw
      exact .inr ⟨hw.1.rejected, hw.2⟩
    · refine Keeps.bind (keeps_onResume sound_resuming) fun finished ↦ Keeps.fact fun hfinished ↦ ?_
      have hisInit : isInit finished = false := by
        obtain ⟨central, next, haccept⟩ := hfinished
        obtain ⟨-, -, rid, sid, nc, np, -, -, -, -, rfl, -⟩ := CentralResume.accept_eq_ok haccept
        exact isInit_finishCFrame ..
      refine Keeps.bind (keeps_sendControl (S := ResumingAt run) sound_resuming
        fun _ _ _ _ _ h ↦ ⟨h.1.sentFinishC hisInit, h.2⟩) fun _ ↦ ?_
      refine Keeps.bind (keeps_receive sound_resuming) fun reply ↦ ?_
      refine Keeps.bind keeps_finishResume fun used ↦ Keeps.bind keeps_storeSave_resumed fun _ ↦ ?_
      refine Keeps.bind (keeps_setResult (S := SecureAt run) fun _ _ _ _ _ h ↦ h.secure) fun _ ↦ ?_
      exact Keeps.conseq (keeps_openApplication fun _ _ _ h ↦ h.toCore) (fun _ _ _ _ _ h ↦ h)
        fun _ _ _ _ _ _ h ↦ .inl h

/-! ### The full handshake -/

/-- The operator accepted, in v0.8, if the handshake goes on. -/
abbrev ConfirmedAt (run : Setting) (confirmed : Bool) : Assertion := fun trace file result _ _ ↦
  Ready run trace file result ∧
    (run.profile = pqResumeV08 → confirmed = true → sasAccepted trace = true)

theorem sound_confirmed {confirmed : Bool} : Sound run (ConfirmedAt run confirmed) :=
  fun _ _ _ _ _ h ↦ h.1.toCore

theorem keeps_confirm {subtype : UInt8} {payload : Bytes}
    {begin : Bytes → FullHandshake → Option (Unit × FullHandshake)} :
    Keeps run (ReadyAt run) (confirm env run.crypto run.profile subtype payload begin)
      fun confirmed ↦ ConfirmedAt run confirmed := by
  unfold confirm
  split
  · refine Keeps.bind (keeps_onlyIf fun _ ↦ keeps_raise sound_ready (by rintro _ ⟨⟩)) fun _ ↦ ?_
    refine Keeps.bind (keeps_await sound_ready) fun ecdh ↦ ?_
    refine Keeps.bind (keeps_onFull sound_ready) fun _ ↦ Keeps.fact fun _ ↦ ?_
    refine Keeps.bind (keeps_readFull sound_ready) fun _ ↦ ?_
    refine Keeps.bind (keeps_await sound_ready) fun decision ↦ ?_
    refine Keeps.bind (U := fun _ ↦ ConfirmedAt run decision.yes) ?_ fun _ _ h ↦ h
    refine keeps_emit fun trace _ _ _ _ h ↦ ⟨h.quiet rfl trivial h.stored, fun _ haccepted ↦ ?_⟩
    simp [sasAccepted, haccepted]
  · next hprofile =>
    refine Keeps.bind (keeps_readFull sound_ready) fun ready ↦ ?_
    refine Keeps.bind (keeps_onlyIf fun _ ↦ keeps_raise sound_ready (by rintro _ ⟨⟩)) fun _ ↦ ?_
    exact fun _ h ↦ ⟨h, fun hv08 ↦ absurd hv08 hprofile⟩

/-- `finish_c` refuses without the confirmation. -/
theorem finishC_confirmed {crypto : Crypto} {onCurve : Bytes → Bool} {handshake : FullHandshake}
    {confirmed : Bool} {result : Bytes × FullHandshake}
    (h : handshake.finishC crypto onCurve confirmed = some result) :
    confirmed = true ∧ isProof result.1 = false := by
  simp only [FullHandshake.finishC, Option.bind_eq_bind, Option.bind_eq_some_iff, Option.guard_eq_some',
    exists_and_left, exists_const, Option.pure_def, Option.some.injEq] at h
  obtain ⟨⟨-, hconfirmed⟩, d, -, wire, hwire, rfl⟩ := h
  exact ⟨hconfirmed, encodeFull_isProof hwire⟩

/-- A verified FINISHED_P. -/
theorem Ready.verified {trace : List Event} {file : TicketFile} {result : Result}
    {handshake next : FullHandshake} {raw : Bytes} {now : ℚ} (h : Ready run trace file result)
    (hsas : run.profile = pqResumeV08 → sasAccepted trace = true)
    (hfinish : handshake.finishP run.crypto run.onCurve raw run.peer now = some next) :
    Secure run (.finishedPVerified handshake raw run.peer now :: trace) file result where
  lawful := ⟨⟨by rw [hfinish]; rfl, hsas⟩, h.lawful⟩
  stored := h.stored
  justified := h.justified
  pristine := nofun
  established := nofun
  decided := rfl
  accounted hpunctual := by
    obtain ⟨hpath, hrounds, hreason⟩ := h.pending hpunctual
    exact ⟨by rw [hpath]; rfl, hrounds, fun hne ↦ ⟨hreason hne, hpath⟩⟩

theorem keeps_finishFull {raw : Bytes} {now : ℚ} :
    Keeps run (ConfirmedAt run true) (finishFull run.crypto run.onCurve run.peer raw now)
      fun issued trace file result _ _ ↦ Secure run trace file result ∧
        ∃ handshake raw peer now next rest, trace = .finishedPVerified handshake raw peer now :: rest ∧
          handshake.finishP run.crypto run.onCurve raw peer now = some next ∧ next.ticket = issued := by
  refine Keeps.bind keeps_look fun session ↦ ?_
  split
  · next handshake =>
    split
    · next next hfinish =>
      intro w hw
      exact ⟨hw.1.verified (fun hprofile ↦ hw.2 hprofile rfl) hfinish,
        handshake, raw, run.peer, now, next, w.trace, rfl, hfinish, rfl⟩
    · exact Keeps.bind keeps_setSession fun _ ↦ keeps_raise sound_confirmed nofun
  · exact keeps_raise sound_confirmed nofun

/-- The full handshake ends with a session. -/
theorem keeps_fullExchange (forceFull : Bool) :
    Keeps run (fun trace file result _ held ↦
        Ready run trace file result ∧ (held = none → unavailable trace = true))
      (fullExchange env run.crypto run.onCurve run.profile run.peer forceFull)
      fun _ trace file result app _ ↦ Secure run trace file result ∧ app = true := by
  have hsent : ∀ wire, isProof wire = false → ∀ trace file result (app : Bool) (ticket : Option Ticket),
      Ready run trace file result → Ready run (.sent wire :: trace) file result := fun wire hwire _ _ _ _ _ h ↦
    h.quiet (by simp [Event.quiet, hwire]) (allowed_sent hwire) h.stored
  refine Keeps.bind (U := fun _ ↦ ReadyAt run) ?_ fun _ ↦ ?_
  · rintro w ⟨hready, hheld⟩
    refine wp_update.mpr ?_
    split
    · next hnone =>
      exact { hready with pending := fun hpunctual ↦ ⟨(hready.pending hpunctual).path,
                (hready.pending hpunctual).rounds, fun _ ↦ .inr (hheld hnone.2.2)⟩ }
    · exact hready
  refine Keeps.bind keeps_setSession fun _ ↦ Keeps.bind (keeps_await sound_ready) fun pk ↦ ?_
  refine Keeps.bind (keeps_requireLink sound_ready) fun _ ↦ ?_
  refine Keeps.bind (keeps_orResume sound_ready) fun pk ↦ Keeps.fact fun _ ↦ ?_
  refine Keeps.bind (keeps_await sound_ready) fun encapsulated ↦ ?_
  refine Keeps.bind keeps_ask fun drawn ↦ ?_
  refine Keeps.bind (keeps_orRaise sound_ready) fun start ↦ Keeps.fact fun hstart ↦ ?_
  have hstart : isProof start = false := by
    split_ifs at hstart
    · exact encodeFull_isProof hstart
    · exact encodeFull_isProof hstart
  refine Keeps.bind (keeps_await sound_ready) fun _ ↦ ?_
  refine Keeps.bind (keeps_onlyIf fun _ ↦ ?_) fun _ ↦ ?_
  · refine Keeps.bind (keeps_attest (S := ReadyAt run) sound_ready hsent fun _ _ _ _ _ h ↦ h.attested)
      fun sec ↦ ?_
    exact Keeps.conseq (keeps_onFull sound_ready) (fun _ _ _ _ _ h ↦ h) fun _ _ _ _ _ _ h ↦ h.2
  refine Keeps.bind (keeps_sendControl sound_ready (hsent start hstart)) fun _ ↦ ?_
  refine Keeps.bind (keeps_receive sound_ready) fun raw ↦ ?_
  refine Keeps.bind (keeps_orRaise sound_ready) fun ready ↦ Keeps.fact fun _ ↦ ?_
  obtain ⟨subtype, payload⟩ := ready
  refine Keeps.bind keeps_confirm fun confirmed ↦ ?_
  refine Keeps.bind (keeps_onFull sound_confirmed) fun finishedC ↦ Keeps.fact fun hfinishedC ↦ ?_
  obtain ⟨handshake, next, hfinishC⟩ := hfinishedC
  obtain ⟨rfl, hproof⟩ := finishC_confirmed hfinishC
  refine Keeps.bind (keeps_sendControl (S := ConfirmedAt run true) sound_confirmed
    fun _ _ _ _ _ h ↦ ⟨hsent finishedC hproof _ _ _ false none h.1, h.2⟩) fun _ ↦ ?_
  refine Keeps.bind (keeps_receive sound_confirmed) fun raw ↦ Keeps.bind keeps_ask fun clock ↦ ?_
  refine Keeps.bind keeps_finishFull fun issued ↦ ?_
  refine Keeps.bind (U := fun _ trace file result _ _ ↦ Secure run trace file result ∧
    ∃ handshake raw peer now next rest, trace = .finishedPVerified handshake raw peer now :: rest ∧
      handshake.finishP run.crypto run.onCurve raw peer now = some next ∧ next.ticket = issued)
    (keeps_setTicket fun _ _ _ _ _ h ↦ h) fun _ ↦ ?_
  refine Keeps.bind (keeps_orRaise fun _ _ _ _ _ h ↦ h.1.toCore) fun ticket ↦ Keeps.fact fun hissued ↦ ?_
  subst hissued
  refine Keeps.bind (keeps_storeSave (S := SecureAt run) (fun _ _ _ _ _ h ↦ h.1.toCore) sound_secure
    (fun _ _ _ _ _ h ↦ h.1) (fun _ _ _ _ _ h ↦ h.1.quiet rfl trivial rfl) fun _ _ _ _ _ h ↦ ?_) fun _ ↦
    keeps_openApplication fun _ _ _ h ↦ h.toCore
  exact h.1.quiet rfl (.inr h.2) rfl

/-! ### The application rounds -/

theorem Secure.pong {trace : List Event} {file : TicketFile} {result : Result}
    (h : Secure run trace file result) :
    Secure run (.pong :: trace) file { result with rounds := result.rounds + 1 } where
  lawful := ⟨trivial, h.lawful⟩
  stored := h.stored
  justified := h.justified
  pristine _ hresuming := absurd (h.decided.symm.trans hresuming) Bool.false_ne_true
  established := h.established
  decided := h.decided
  accounted hpunctual :=
    ⟨(h.accounted hpunctual).path, congrArg (· + 1) (h.accounted hpunctual).rounds,
      (h.accounted hpunctual).reason⟩

theorem keeps_applicationRound : Keeps run (SecureAt run) (applicationRound env) fun _ ↦ SecureAt run := by
  refine Keeps.bind (keeps_requireLink sound_secure) fun _ ↦ Keeps.bind keeps_ask fun _ ↦ ?_
  refine Keeps.bind (keeps_onlyIf fun _ ↦ keeps_raise sound_secure nofun) fun _ ↦ ?_
  refine Keeps.bind (keeps_await sound_secure) fun _ ↦ Keeps.bind (keeps_receive sound_secure) fun _ ↦ ?_
  refine Keeps.bind keeps_ask fun _ ↦ ?_
  refine Keeps.bind (keeps_onlyIf fun _ ↦ keeps_raise sound_secure nofun) fun _ ↦ ?_
  exact fun w hw ↦ hw.pong

theorem keeps_applicationRounds (rounds : ℕ) :
    Keeps run (SecureAt run) (applicationRounds env rounds) fun _ ↦ SecureAt run := by
  induction rounds with
  | zero => exact Keeps.bind keeps_ask fun _ ↦ keeps_onlyIf fun _ ↦ keeps_raise sound_secure nofun
  | succ rounds ih => exact Keeps.bind keeps_applicationRound fun _ ↦ ih

/-! ### The whole exchange -/

/-- Changes of the result that the accounting does not read. -/
theorem Secure.setResult {trace : List Event} {file : TicketFile} {result result' : Result}
    (h : Secure run trace file result) (hpath : result'.path = result.path)
    (hrounds : result'.rounds = result.rounds) (hreason : result'.fallbackReason = result.fallbackReason) :
    Secure run trace file result' where
  lawful := h.lawful
  stored := h.stored
  justified := h.justified
  pristine _ hresuming := absurd (h.decided.symm.trans hresuming) Bool.false_ne_true
  established := h.established
  decided := h.decided
  accounted hpunctual := by
    obtain ⟨haccountedPath, haccountedRounds, haccountedReason⟩ := h.accounted hpunctual
    refine ⟨by rw [haccountedPath, hpath], hrounds.trans haccountedRounds, fun hne ↦ ?_⟩
    rw [hpath]
    exact haccountedReason (hreason ▸ hne)

/-- The resumption is tried with a ticket, and unless a full handshake is forced. -/
theorem keeps_tryResume {allowResume forceFull : Bool} (ticket : Option Ticket)
    (hallow : ticket ≠ none → allowResume = true) :
    Keeps run (fun trace file result app held ↦
        OpeningAt run allowResume forceFull true trace file result app held ∧ held = ticket)
      (tryResume env run.crypto run.profile forceFull ticket) fun _ trace file result app held ↦
      (Secure run trace file result ∧ app = true) ∨
        (Ready run trace file result ∧ app = false ∧ (held = none → unavailable trace = true)) := by
  cases ticket with
  | none =>
    refine keeps_emit fun _ _ _ _ _ h ↦ .inr ⟨?_, h.1.2, fun _ ↦ rfl⟩
    exact h.1.1.toReady.quiet rfl trivial h.1.1.stored
  | some ticket =>
    obtain rfl := hallow (Option.some_ne_none ticket)
    change Keeps run _ (onlyIf (forceFull = false) _) _
    by_cases hforce : forceFull = false
    · subst hforce
      refine Keeps.conseq (keeps_resumeExchange ticket) (fun _ _ _ _ _ h ↦ ⟨h.1.1, h.1.2, ?_⟩)
        fun _ _ _ _ _ _ h ↦ h.imp id fun hready ↦ ⟨hready.1, hready.2.1, fun hnone ↦ absurd hnone hready.2.2⟩
      rw [h.2]
      exact Option.some_ne_none ticket
    · rw [onlyIf, if_neg hforce]
      intro w hw
      refine wp_pure.mpr (.inr ⟨hw.1.1.toReady, hw.1.2, fun hnone ↦ ?_⟩)
      exact absurd (hw.2.symm.trans hnone) (Option.some_ne_none ticket)

theorem keeps_orFull (forceFull : Bool) :
    Keeps run (fun trace file result app held ↦ (Secure run trace file result ∧ app = true) ∨
        (Ready run trace file result ∧ app = false ∧ (held = none → unavailable trace = true)))
      (orFull env run.crypto run.onCurve run.profile run.peer forceFull) fun _ ↦ SecureAt run := by
  intro w hw
  change Wp (onlyIf (w.app = false) _) _ _ w
  rcases hw with ⟨hsecure, happ⟩ | ⟨hready, happ, hheld⟩
  · rw [onlyIf, if_neg (by simp [happ])]
    exact wp_pure.mpr hsecure
  · rw [onlyIf, if_pos happ]
    exact wp_mono (keeps_fullExchange forceFull w ⟨hready, hheld⟩) (fun _ _ h ↦ h.1) fun _ _ h ↦ h

theorem keeps_exchangeBody {allowResume forceFull : Bool} :
    Keeps run (OpeningAt run allowResume forceFull false)
      (exchangeBody env run.crypto run.onCurve run.profile run.peer allowResume forceFull)
      fun _ ↦ SecureAt run := by
  refine Keeps.bind (keeps_await sound_opening) fun _ ↦ ?_
  refine Keeps.bind (keeps_requireLink sound_opening) fun _ ↦ ?_
  refine Keeps.bind (U := fun _ ↦ OpeningAt run allowResume forceFull true) ?_ fun _ ↦ ?_
  · unfold onlyIf
    split
    · refine Keeps.bind (keeps_attest (S := OpeningAt run allowResume forceFull true) sound_opening ?_ ?_)
        fun _ ↦ Keeps.pure
      · intro wire hwire trace file result app ticket h
        exact ⟨h.1.quiet (by simp [Event.quiet, hwire]) (by rintro ⟨⟩) (allowed_sent hwire) h.1.stored, h.2⟩
      · intro trace file result app ticket h
        exact ⟨h.1.attest, h.2⟩
    · next hprofile =>
      exact fun w hw ↦ ⟨{ hw.1 with attested := fun _ hv11 ↦ absurd hv11 hprofile }, hw.2⟩
  have hdelete : ∀ trace file result app ticket,
      OpeningAt run allowResume forceFull true trace file result app ticket →
        OpeningAt run allowResume forceFull true (.deleted :: trace) .absent result app ticket :=
    fun _ _ _ _ _ h ↦ ⟨h.1.quiet rfl (by rintro ⟨⟩) trivial rfl, h.2⟩
  refine Keeps.bind (keeps_onlyIf fun _ ↦ keeps_storeDelete sound_opening hdelete) fun _ ↦ ?_
  refine Keeps.bind (U := fun ticket ↦ (OpeningAt run allowResume forceFull true).With
    (ticket ≠ none → allowResume = true)) ?_ fun ticket ↦ Keeps.fact fun hallow ↦ ?_
  · unfold loadTicket
    split
    · next hallow =>
      exact Keeps.conseq (keeps_storeLoad sound_opening hdelete) (fun _ _ _ _ _ h ↦ h)
        fun _ _ _ _ _ _ h ↦ ⟨fun _ ↦ hallow, h⟩
    · exact fun _ h ↦ ⟨fun hne ↦ absurd rfl hne, h⟩
  refine Keeps.bind (U := fun _ trace file result app held ↦
    OpeningAt run allowResume forceFull true trace file result app held ∧ held = ticket)
    (keeps_setTicket fun _ _ _ _ _ h ↦ ⟨h, rfl⟩) fun _ ↦ ?_
  refine Keeps.bind (keeps_tryResume ticket hallow) fun _ ↦ ?_
  refine Keeps.bind (keeps_orFull forceFull) fun _ ↦ ?_
  refine Keeps.bind (keeps_setResult (S := SecureAt run) fun _ _ _ _ _ h ↦ h.setResult rfl rfl rfl)
    fun _ ↦ Keeps.bind keeps_look fun held ↦ ?_
  refine Keeps.bind (keeps_setResult (S := SecureAt run) fun _ _ _ _ _ h ↦ h.setResult rfl rfl rfl)
    fun _ ↦ keeps_applicationRounds _

/-- What a cleanup must not change after an exception. -/
abbrev FailedAt (run : Setting) (e : Exn) : Assertion := fun trace file result _ _ ↦
  Core run trace file result ∧
    (e.retried = true ∨ (∃ cause, e = .v1 (some cause) ∧ cause.retried = true) →
      inWindow trace = resuming trace)

theorem failedAt_iff {e : Exn} {w : World} : (FailedAt run e).At w ↔ Failed run e w :=
  ⟨fun h ↦ ⟨h.1, h.2⟩, fun h ↦ ⟨h.toCore, h.window⟩⟩

theorem sound_failed {e : Exn} : Sound run (FailedAt run e) := fun _ _ _ _ _ h ↦ h.1

/-- A cleanup that keeps what a return and what an exception left. -/
theorem keeps_ensuring {α : Type} {T : Assertion} {x : Run α} {cleanup : Run Unit} {U : α → Assertion}
    (hx : Keeps run T x U) (hreturn : ∀ a, Keeps run (U a) cleanup fun _ ↦ U a)
    (hraise : ∀ e, Keeps run (FailedAt run e) cleanup fun _ ↦ FailedAt run e) :
    Keeps run T (ensuring x cleanup) U := by
  refine fun w hw ↦ wp_ensuring (wp_mono (hx w hw) (fun a w' h ↦ hreturn a w' h) fun e w' h ↦ ?_)
  exact wp_mono (hraise e w' (failedAt_iff.mpr h)) (fun _ _ h' ↦ failedAt_iff.mp h') fun _ _ h' ↦ h'

theorem keeps_exchange {allowResume forceFull : Bool} :
    Keeps run (fun trace file result _ _ ↦ Opening run allowResume forceFull false trace file result)
      (exchange env run.crypto run.onCurve run.profile run.peer allowResume forceFull)
      fun _ ↦ SecureAt run := by
  refine Keeps.bind (U := fun _ ↦ OpeningAt run allowResume forceFull false)
    (fun w hw ↦ wp_update.mpr ⟨hw, rfl⟩) fun _ ↦ keeps_ensuring keeps_exchangeBody ?_ ?_
  · intro _
    exact Keeps.bind (U := fun _ ↦ SecureAt run) (fun w hw ↦ wp_update.mpr hw) fun _ ↦
      Keeps.bind (keeps_await sound_secure) fun _ ↦ Keeps.pure
  · intro e
    exact Keeps.bind (U := fun _ ↦ FailedAt run e) (fun w hw ↦ wp_update.mpr hw) fun _ ↦
      Keeps.bind (keeps_await sound_failed) fun _ ↦ Keeps.pure

/-! ### The pairing run -/

theorem keeps_probeDenied {T : Assertion} (hT : Sound run T) :
    Keeps run T (probeDenied env) fun _ ↦ T := by
  refine Keeps.bind keeps_ask fun answer ↦ ?_
  split
  · exact keeps_raise hT nofun
  · exact keeps_raise hT nofun
  · next fault hbase _ =>
    refine keeps_onlyIf fun _ ↦ ?_
    intro w hw
    have hcore := hT _ _ _ _ _ hw
    cases fault with
    | base => exact absurd rfl hbase
    | timeout =>
      exact ⟨hcore.quiet rfl trivial hcore.stored, fun _ ↦ rfl⟩
    | other =>
      refine ⟨hcore, fun hcause ↦ ?_⟩
      rcases hcause with hcause | ⟨cause, hcause, hretried⟩
      · cases hcause
      · cases hcause
        cases hretried

theorem keeps_runPreL4Probes {T : Assertion} (hT : Sound run T) :
    Keeps run T (runPreL4Probes env) fun _ ↦ T :=
  Keeps.bind (keeps_probeDenied hT) fun _ ↦ Keeps.bind (keeps_probeDenied hT) fun _ ↦
    Keeps.bind (keeps_probeDenied hT) fun _ ↦ keeps_probeDenied hT

theorem keeps_ensureConnected {T : Assertion} (hT : Sound run T) :
    Keeps run T (ensureConnected env) fun _ ↦ T :=
  Keeps.bind keeps_ask fun _ ↦ keeps_onlyIf fun _ ↦ Keeps.bind (keeps_await hT) fun _ ↦
    keeps_onlyIf fun _ ↦ keeps_raise hT nofun

theorem keeps_stopNotifyQuietly {T : Assertion} (hT : Sound run T) :
    Keeps run T (stopNotifyQuietly env) fun _ ↦ T :=
  Keeps.bind keeps_ask fun _ ↦ keeps_onlyIf fun _ ↦ keeps_raise hT nofun

/-- An exception that is caught and raised again as another one. -/
theorem keeps_onError {α : Type} {T : Assertion} {x : Run α} {handler : Exn → Run α} {U : α → Assertion}
    (hx : Keeps run T x U) (hhandler : ∀ e, Keeps run (FailedAt run e) (handler e) U) :
    Keeps run T (onError x handler) U :=
  fun w hw ↦ wp_onError (wp_mono (hx w hw) (fun _ _ h ↦ h) fun e w' h ↦
    hhandler e w' (failedAt_iff.mpr h))

theorem keeps_asV1Error (e : Exn) {U : Unit → Assertion} : Keeps run (FailedAt run e) (asV1Error e) U := by
  intro w hw
  have hfailed := failedAt_iff.mp hw
  cases e with
  | v1 cause => exact hfailed
  | base => exact hfailed
  | resume reason => exact ⟨hfailed.toCore, fun _ ↦ hfailed.window (.inl rfl)⟩
  | timeout => exact ⟨hfailed.toCore, fun _ ↦ hfailed.window (.inl rfl)⟩
  | other =>
    refine ⟨hfailed.toCore, fun hcause ↦ ?_⟩
    rcases hcause with hcause | ⟨cause, hcause, hretried⟩
    · cases hcause
    · cases hcause
      cases hretried

theorem keeps_unwrapCause (e : Exn) {U : Unit → Assertion} :
    Keeps run (FailedAt run e) (unwrapCause e) U := by
  intro w hw
  have hfailed := failedAt_iff.mp hw
  unfold unwrapCause
  split
  · next cause =>
    split
    · next hretried => exact ⟨hfailed.toCore, fun _ ↦ hfailed.window (.inr ⟨cause, rfl, hretried⟩)⟩
    · exact hfailed
  · exact hfailed

theorem Opening.setBonded {allowResume forceFull asked bonded : Bool} {trace : List Event}
    {file : TicketFile} {result : Result} (h : Opening run allowResume forceFull asked trace file result) :
    Opening run allowResume forceFull asked trace file { result with bonded } where
  lawful := h.lawful
  stored := h.stored
  justified := h.justified
  pristine := h.pristine
  unverified := h.unverified
  pending hpunctual :=
    ⟨(h.pending hpunctual).path, (h.pending hpunctual).rounds, (h.pending hpunctual).reason⟩
  fresh := h.fresh
  warm := h.warm
  attested := h.attested

theorem keeps_runV1 {forceFull : Bool} :
    Keeps run (fun trace file result _ _ ↦ Opening run true forceFull false trace file result)
      (runV1 env run.crypto run.onCurve run.profile run.peer forceFull) fun _ ↦ SecureAt run := by
  have hsound : ∀ allowResume, Sound run fun trace file result _ _ ↦
      Opening run allowResume forceFull false trace file result := fun _ _ _ _ _ _ h ↦ h.toCore
  refine Keeps.bind keeps_ask fun _ ↦ ?_
  refine Keeps.bind (keeps_onlyIf fun _ ↦ keeps_raise (hsound true) nofun) fun _ ↦ ?_
  refine Keeps.bind (keeps_await (hsound true)) fun state ↦ ?_
  refine Keeps.bind (U := fun _ trace file result _ _ ↦
    Opening run state.yes forceFull false trace file result) ?_ fun _ ↦ ?_
  · by_cases hbonded : state.yes = true
    · rw [onlyIf, if_neg (by simp [hbonded]), hbonded]
      exact Keeps.pure
    · have hcold : state.yes = false := by simpa using hbonded
      rw [onlyIf, if_pos hcold, hcold]
      refine Keeps.bind (keeps_runPreL4Probes (hsound true)) fun _ ↦ ?_
      refine Keeps.bind (keeps_await (hsound true)) fun outcome ↦ ?_
      refine Keeps.bind (keeps_onlyIf fun _ ↦ keeps_raise (hsound true) nofun) fun _ ↦ ?_
      refine Keeps.bind (keeps_emit (S := fun trace file result _ _ ↦
        Opening run false forceFull false trace file result) fun _ _ _ _ _ h ↦ ?_) fun _ ↦
        keeps_ensureConnected (hsound false)
      exact { @Ready.quiet _ _ _ _ _ .cold h.toReady rfl trivial h.stored with
                fresh := h.fresh, warm := nofun, attested := nofun }
  refine keeps_ensuring (keeps_onError ?_ fun e ↦ keeps_asV1Error e) (fun _ ↦ keeps_stopNotifyQuietly sound_secure)
    fun _ ↦ keeps_stopNotifyQuietly sound_failed
  exact Keeps.bind (keeps_setResult fun _ _ _ _ _ h ↦ h.setBonded) fun _ ↦ keeps_exchange

/-! ### The session -/

/-- Before an attempt. -/
structure Waiting (run : Setting) (forceFull : Bool) (trace : List Event) (file : TicketFile)
    (result : Result) : Prop extends Core run trace file result where
  pending : Punctual trace → Pending trace result
  fresh : forceFull = false → inits trace = 0 ∧ result.fallbackReason = none
  warm : forceFull = false → cold trace = false

theorem Waiting.opening {forceFull : Bool} {trace : List Event} {file : TicketFile} {result : Result}
    (h : Waiting run forceFull trace file result) :
    Opening run true forceFull false (.attempt forceFull :: trace) file result where
  lawful := ⟨trivial, h.lawful⟩
  stored := h.stored
  justified := h.justified
  pristine := nofun
  unverified := rfl
  pending hpunctual :=
    ⟨(h.pending hpunctual).path, (h.pending hpunctual).rounds, (h.pending hpunctual).reason⟩
  fresh := h.fresh
  warm _ hforce _ := h.warm hforce
  attested := nofun

theorem keeps_attempt {force : Bool} :
    Keeps run (fun trace file result _ _ ↦ Waiting run force trace file result)
      (attempt env run.crypto run.onCurve run.profile run.peer force) fun _ ↦ SecureAt run := by
  refine Keeps.bind (keeps_emit (S := fun trace file result _ _ ↦
    Opening run true force false trace file result) fun _ _ _ _ _ h ↦ h.opening) fun _ ↦ ?_
  split
  · exact keeps_exchange
  · exact keeps_onError keeps_runV1 fun e ↦ keeps_unwrapCause e

/-- A fallback follows an undecided resumption exactly when its error arose in one. -/
theorem FailedAt.fallback {e : Exn} {trace : List Event} {file : TicketFile} {result : Result}
    (hretried : e.retried = true) (h : FailedAt run e trace file result false none) :
    Waiting run true (.fallback :: trace) file result ∧
      inWindow (.fallback :: trace) = resuming (.fallback :: trace) := by
  obtain ⟨hcore, hwindow⟩ := h
  have hwindow : inWindow trace = resuming trace := hwindow (.inl hretried)
  have hbegun : Punctual (.fallback :: trace) → resuming trace = true := by
    intro hpunctual
    rw [← hwindow]
    exact hpunctual.1
  refine ⟨{ lawful := ⟨trivial, hcore.lawful⟩
            stored := hcore.stored
            justified := ?_
            pristine := fun hpunctual ↦ hcore.pristine hpunctual.2
            pending := fun hpunctual ↦ ?_
            fresh := nofun
            warm := nofun }, hwindow⟩
  · change inWindow trace = true ∧ Punctual trace ↔ resuming trace = true ∧ Justified trace
    rw [hwindow, hcore.justified]
  · obtain ⟨hpath, hrounds⟩ := hcore.pristine hpunctual.2 (hbegun hpunctual)
    exact ⟨hpath, hrounds, fun _ ↦ .inl (inits_ne_zero_of_resuming (hbegun hpunctual))⟩

theorem keeps_runSession {forceFull : Bool} :
    Keeps run (fun trace file result _ _ ↦ Waiting run forceFull trace file result)
      (runSession env run.crypto run.onCurve run.profile run.peer forceFull) fun _ ↦ SecureAt run := by
  refine keeps_onError keeps_attempt fun e ↦ ?_
  split
  · exact fun w hw ↦ wp_fail.mpr (failedAt_iff.mp hw)
  · next hretried =>
    obtain ⟨hretried, -⟩ : e.retried = true ∧ forceFull = false := by simpa using hretried
    let T : Assertion := fun trace file result _ _ ↦
      Waiting run true trace file result ∧ inWindow trace = resuming trace
    have hsound : Sound run T := fun _ _ _ _ _ h ↦ h.1.toCore
    refine Keeps.bind (keeps_setResult (S := FailedAt run e) fun _ _ _ _ _ h ↦
      ⟨{ h.1 with pristine := h.1.pristine }, h.2⟩) fun _ ↦ ?_
    refine Keeps.bind (keeps_emit (S := T) fun _ _ _ _ _ h ↦ FailedAt.fallback hretried h) fun _ ↦ ?_
    refine Keeps.bind (keeps_await hsound) fun reconnected ↦ ?_
    refine Keeps.bind (keeps_onlyIf fun _ w hw ↦ ?_) fun _ ↦
      Keeps.conseq keeps_attempt (fun _ _ _ _ _ h ↦ h.1) fun _ _ _ _ _ _ h ↦ h
    exact ⟨hw.1.toCore, fun _ ↦ hw.2⟩

end Exchange

/-! ## From the start to the end of a run -/

/-- The state before a run, with the ticket file and the last reason of its store. -/
def World.start (file : TicketFile) (lastReason : Reason) : World := { file, lastReason }

theorem waiting_start (run : Setting) (forceFull : Bool) (lastReason : Reason) :
    Waiting run forceFull (World.start run.origin lastReason).trace
      (World.start run.origin lastReason).file (World.start run.origin lastReason).result where
  lawful := trivial
  stored := rfl
  justified := .rfl
  pristine := nofun
  pending _ := ⟨rfl, rfl, fun h ↦ absurd rfl h⟩
  fresh _ := ⟨rfl, rfl⟩
  warm _ := rfl

/-- A run from such a state. -/
@[irreducible]
def Setting.session (run : Setting) (env : ℕ → Answer) (lastReason : Reason) (forceFull : Bool) :
    Except Exn Unit × World :=
  runSession env run.crypto run.onCurve run.profile run.peer forceFull
    (World.start run.origin lastReason)

/-- How a run ends. -/
theorem session_ends (run : Setting) (env : ℕ → Answer) (lastReason : Reason) (forceFull : Bool) :
    (∀ w, run.session env lastReason forceFull = (.ok (), w) → Secure run w.trace w.file w.result) ∧
      ∀ e w, run.session env lastReason forceFull = (.error e, w) → Failed run e w := by
  obtain ⟨hreturn, hraise⟩ := wp_iff.mp (@keeps_runSession run env forceFull
    (World.start run.origin lastReason) (waiting_start run forceFull lastReason))
  unfold Setting.session
  exact ⟨fun w h ↦ hreturn () w h, hraise⟩

/-- A lawful run sends at most one INIT. -/
theorem Lawful.inits_le_one {crypto : Crypto} {onCurve : Bytes → Bool} {profile : UInt8} :
    ∀ {trace : List Event}, Lawful crypto onCurve profile trace → inits trace ≤ 1
  | [], _ => Nat.zero_le 1
  | .sent wire :: past, h => by
    by_cases hwire : isInit wire = true
    · rw [inits, if_pos hwire, h.1.1 hwire]
    · rw [inits, if_neg hwire]
      exact h.2.inits_le_one
  | .attempt _ :: past, h | .cold :: past, h | .attested _ :: past, h | .unavailable :: past, h
  | .rejected :: past, h | .finishPVerified _ _ _ :: past, h | .sas _ :: past, h
  | .finishedPVerified _ _ _ _ :: past, h | .saved _ :: past, h | .deleted :: past, h
  | .pong :: past, h | .failed :: past, h | .fallback :: past, h => @Lawful.inits_le_one _ _ _ past h.2

/-- **The policy of the Central**, for every behaviour of the peer, the link, the operator and the
platform.  Every event of the run is one that its past allows: a proof of the ticket goes out at most in one
INIT, under v1.1 only after the strict attestation of its link and never once the peer was paired in this run; a FINISHED_P
counts under v0.8 only after the operator accepted; a ticket is stored only right after a verified FINISH_P,
with its use counted, or as the new ticket of a verified FINISHED_P, and nothing else changes the file but a
deletion.  A run that returns verified one of the two in its last attempt. -/
theorem central_run_policy (run : Setting) (env : ℕ → Answer) (lastReason : Reason) (forceFull : Bool) :
    Lawful run.crypto run.onCurve run.profile (run.session env lastReason forceFull).2.trace ∧
      inits (run.session env lastReason forceFull).2.trace ≤ 1 ∧
      (run.session env lastReason forceFull).2.file =
        fileAfter run.origin (run.session env lastReason forceFull).2.trace ∧
      ((run.session env lastReason forceFull).1 = .ok () →
        verified (run.session env lastReason forceFull).2.trace ≠ none) := by
  obtain ⟨hreturn, hraise⟩ := session_ends run env lastReason forceFull
  rcases hsession : run.session env lastReason forceFull with ⟨e | _, w⟩
  · have hfailed := hraise e w hsession
    exact ⟨hfailed.lawful, hfailed.lawful.inits_le_one, hfailed.stored, nofun⟩
  · have hsecure := hreturn w hsession
    exact ⟨hsecure.lawful, hsecure.lawful.inits_le_one, hsecure.stored, fun _ ↦ hsecure.established⟩

end PqBleHandshake.Python
