import PqBleHandshake.Foundation.FailClosed
import PqBleHandshake.Handshake.Central
import PqBleHandshake.Resumption.Central

/-!
# The typestates of the handshake objects

Runs of method calls on `FullHandshake`, `CentralHandshake` and `CentralResume` with arbitrary arguments.
Application keys appear with the call that verified the peer's FINISHED for the transcript of the same object,
and a closed object stays closed.  A raising call closes the object, except for one: `begin` of `CentralResume`
builds its INIT outside of any handler.
-/

namespace PqBleHandshake.Python

open Foundation

/-! ## v0.8 and v1.1 -/

/-- The calls on a `FullHandshake`. -/
inductive FullCall
  | begin (ss pk ct sid ecdh centralPublic peripheralPublic sec : Bytes)
  | finishC (authenticated : Bool)
  | finishP (raw : Bytes) (peer : Block 7) (now : ℚ)
  | clear
deriving DecidableEq

namespace FullHandshake

section Calls

variable (crypto : Crypto) (onCurve : Bytes → Bool)

/-- A call that returns: the proof it gives out, if any, and the object after it. -/
def perform (h : FullHandshake) : FullCall → Option (Option Bytes × FullHandshake)
  | .begin ss pk ct sid ecdh centralPublic peripheralPublic sec =>
    (h.begin crypto onCurve ss pk ct sid ecdh centralPublic peripheralPublic sec).map fun h' ↦ (none, h')
  | .finishC authenticated => (h.finishC crypto onCurve authenticated).map fun result ↦
      (some result.1, result.2)
  | .finishP raw peer now => (h.finishP crypto onCurve raw peer now).map fun h' ↦ (none, h')
  | .clear => some (none, h.clear)

/-- The object under calls; every method ends in the handler that clears it. -/
def calls : Machine FullHandshake (FullCall × Bool) (Option (Option Bytes)) :=
  .closing (perform crypto onCurve) clear

end Calls

/-- A closed object: every key buffer is zero.  The ticket is an object of its own. -/
structure Closed (h : FullHandshake) : Prop where
  state : h.state = .closed
  prk : h.prk = .zero 32
  th : h.th = .zero 32
  confirmC : h.confirmC = .zero 32
  confirmP : h.confirmP = .zero 32
  application : h.application = .zero 32
  sasKey : h.sasKey = .zero 32
  appC2p : h.appC2p = .zero 32
  appP2c : h.appP2c = .zero 32
  sessionId : h.sessionId = []

theorem closed_clear (h : FullHandshake) : h.clear.Closed :=
  ⟨rfl, rfl, rfl, rfl, rfl, rfl, rfl, rfl, rfl, rfl⟩

/-- How far the handshake has come. -/
def rank (h : FullHandshake) : ℕ :=
  match h.state with
  | .waitAuth => 1
  | .waitFinishedP => 2
  | .appSecure => 3
  | _ => 0

/-- The application keys are exposed. -/
def Exposed (h : FullHandshake) : Prop :=
  h.appC2p ≠ .zero 32 ∨ h.appP2c ≠ .zero 32 ∨ h.state = .appSecure

section Progress

variable (crypto : Crypto) (onCurve : Bytes → Bool) (profile : UInt8) (history : List (FullCall × Bool))

/-- A new object of the profile came here by one of the calls, a `begin`. -/
def Begun (h : FullHandshake) : Prop :=
  ∃ ss pk ct sid ecdh centralPublic peripheralPublic sec,
    (.begin ss pk ct sid ecdh centralPublic peripheralPublic sec, false) ∈ history ∧
      ({ profile } : FullHandshake).begin crypto onCurve ss pk ct sid ecdh centralPublic peripheralPublic
        sec = some h

/-- It then gave out FINISHED_C. -/
def Sent (h : FullHandshake) : Prop :=
  ∃ begun wire, Begun crypto onCurve profile history begun ∧ (.finishC true, false) ∈ history ∧
    begun.finishC crypto onCurve true = some (wire, h)

/-- It then verified FINISHED_P: the frame carries the MAC of the transcript under the confirmation key that
the object derived from what it began with. -/
def Finished (h : FullHandshake) : Prop :=
  ∃ sent raw peer now d, Sent crypto onCurve profile history sent ∧
    (.finishP raw peer now, false) ∈ history ∧ Resumption.domain profile = some d ∧
    parseFull onCurve profile raw =
      some (if profile = Resumption.pqResumeV08 then pqPhase7FinishedP else pqV1FinishedP,
        (verifyData crypto sent.confirmP
          (d ++ ascii (if profile = Resumption.pqResumeV08 then "/FINISHED/P" else "/VERIFY-P"))
          sent.th).bytes) ∧
    sent.finishP crypto onCurve raw peer now = some h

end Progress

section Methods

variable {crypto : Crypto} {onCurve : Bytes → Bool} {profile : UInt8} {h h' : FullHandshake}

/-- What every successful method but `finish_p` keeps. -/
structure Keeps (h h' : FullHandshake) : Prop where
  profile : h'.profile = h.profile
  appC2p : h'.appC2p = h.appC2p
  appP2c : h'.appP2c = h.appP2c

/-- **Success of `begin`.** -/
theorem begin_eq_some {ss pk ct sid ecdh centralPublic peripheralPublic sec : Bytes}
    (hbegin : h.begin crypto onCurve ss pk ct sid ecdh centralPublic peripheralPublic sec = some h') :
    h.state = .new ∧ h'.state = .waitAuth ∧ Keeps h h' := by
  unfold begin at hbegin
  simp only [Option.bind_eq_bind, Option.bind_eq_some_iff, Option.guard_eq_some'] at hbegin
  obtain ⟨_, hstate, sid', -, ss', -, _, -, d, -, hbody⟩ := hbegin
  split at hbody
  · simp only [Option.bind_eq_some_iff, Option.pure_def, Option.some.injEq] at hbody
    obtain ⟨baseline, -, ikm, -, rfl⟩ := hbody
    exact ⟨hstate, rfl, rfl, rfl, rfl⟩
  · simp only [Option.bind_eq_some_iff, Option.pure_def, Option.some.injEq] at hbody
    obtain ⟨_, -, start, -, rfl⟩ := hbody
    exact ⟨hstate, rfl, rfl, rfl, rfl⟩

/-- **Success of `finish_c`.** -/
theorem finishC_eq_some {authenticated : Bool} {wire : Bytes}
    (hfinish : h.finishC crypto onCurve authenticated = some (wire, h')) :
    h.state = .waitAuth ∧ authenticated = true ∧ h'.state = .waitFinishedP ∧ Keeps h h' := by
  simp only [finishC, Option.bind_eq_bind, Option.bind_eq_some_iff, Option.guard_eq_some',
    exists_and_left, exists_const, Option.pure_def, Option.some.injEq, Prod.mk.injEq] at hfinish
  obtain ⟨⟨hstate, hauthenticated⟩, d, -, wire', -, -, rfl⟩ := hfinish
  exact ⟨hstate, hauthenticated, rfl, rfl, rfl, rfl⟩

/-- **Success of `finish_p`.** -/
theorem finishP_eq_some {raw : Bytes} {peer : Block 7} {now : ℚ}
    (hfinish : h.finishP crypto onCurve raw peer now = some h') :
    h.state = .waitFinishedP ∧ h'.state = .appSecure ∧ ∃ d, Resumption.domain h.profile = some d ∧
      parseFull onCurve h.profile raw =
        some (if h.profile = Resumption.pqResumeV08 then pqPhase7FinishedP else pqV1FinishedP,
          (verifyData crypto h.confirmP
            (d ++ ascii (if h.profile = Resumption.pqResumeV08 then "/FINISHED/P" else "/VERIFY-P"))
            h.th).bytes) := by
  simp only [finishP, Option.bind_eq_bind, Option.bind_eq_some_iff, Option.guard_eq_some',
    exists_and_left, exists_const, Option.pure_def, Option.some.injEq, Prod.exists,
    decide_eq_true_eq] at hfinish
  obtain ⟨hstate, subtype, payload, hparse, hsubtype, d, hdomain, hequal, ticket, -, rfl⟩ := hfinish
  refine ⟨hstate, rfl, d, hdomain, ?_⟩
  rw [hparse, hsubtype, hequal]

/-- **What a call does.**  It clears the object and gives nothing out, or it is one of the three methods in its
own state. -/
theorem step_cases (h : FullHandshake) (input : FullCall × Bool) :
    ((calls crypto onCurve).step h input).2 = h.clear ∧
        (∀ proof, ((calls crypto onCurve).step h input).1 ≠ some (some proof)) ∨
      (∃ ss pk ct sid ecdh centralPublic peripheralPublic sec,
        input = (.begin ss pk ct sid ecdh centralPublic peripheralPublic sec, false) ∧
          h.begin crypto onCurve ss pk ct sid ecdh centralPublic peripheralPublic sec =
            some ((calls crypto onCurve).step h input).2) ∨
      (∃ wire, input = (.finishC true, false) ∧
        h.finishC crypto onCurve true = some (wire, ((calls crypto onCurve).step h input).2)) ∨
      ∃ raw peer now, input = (.finishP raw peer now, false) ∧
        h.finishP crypto onCurve raw peer now = some ((calls crypto onCurve).step h input).2 := by
  rcases Machine.closing_cases (perform crypto onCurve) clear h input with
    ⟨value, h', hfault, hperform, hstep⟩ | hstep
  swap
  · rw [calls, hstep]
    exact .inl ⟨rfl, nofun⟩
  rw [calls, hstep]
  obtain ⟨call, fault⟩ := input
  obtain rfl : fault = false := hfault
  cases call with
  | begin ss pk ct sid ecdh centralPublic peripheralPublic sec =>
    obtain ⟨next, hbegin, hresult⟩ := Option.map_eq_some_iff.mp hperform
    obtain ⟨-, rfl⟩ := Prod.mk.inj hresult
    exact .inr (.inl ⟨ss, pk, ct, sid, ecdh, centralPublic, peripheralPublic, sec, rfl, hbegin⟩)
  | finishC authenticated =>
    obtain ⟨⟨wire, next⟩, hfinish, hresult⟩ := Option.map_eq_some_iff.mp hperform
    obtain ⟨-, rfl⟩ := Prod.mk.inj hresult
    obtain ⟨-, rfl, -⟩ := finishC_eq_some hfinish
    exact .inr (.inr (.inl ⟨wire, rfl, hfinish⟩))
  | finishP raw peer now =>
    obtain ⟨next, hfinish, hresult⟩ := Option.map_eq_some_iff.mp hperform
    obtain ⟨-, rfl⟩ := Prod.mk.inj hresult
    exact .inr (.inr (.inr ⟨raw, peer, now, rfl, hfinish⟩))
  | clear =>
    obtain ⟨rfl, rfl⟩ := Prod.mk.inj (Option.some.inj hperform)
    exact .inl ⟨rfl, nofun⟩

/-- Every call closes the object or takes an open one a rank up. -/
theorem step_rank (h : FullHandshake) (input : FullCall × Bool) :
    ((calls crypto onCurve).step h input).2.Closed ∨ ¬h.Closed ∧
      rank ((calls crypto onCurve).step h input).2 = h.rank + 1 := by
  have hopen : ∀ {state}, h.state = state → state ≠ .closed → ¬h.Closed :=
    fun hstate hne hclosed ↦ hne (hstate.symm.trans hclosed.state)
  rcases @step_cases crypto onCurve h input with ⟨hclear, -⟩ | ⟨_, _, _, _, _, _, _, _, -, hbegin⟩ |
    ⟨_, -, hfinish⟩ | ⟨_, _, _, -, hfinish⟩
  · rw [hclear]
    exact .inl (closed_clear h)
  · obtain ⟨hbefore, hafter, -⟩ := begin_eq_some hbegin
    exact .inr ⟨hopen hbefore nofun, by simp only [rank, hbefore, hafter]⟩
  · obtain ⟨hbefore, -, hafter, -⟩ := finishC_eq_some hfinish
    exact .inr ⟨hopen hbefore nofun, by simp only [rank, hbefore, hafter]⟩
  · obtain ⟨hbefore, hafter, -⟩ := finishP_eq_some hfinish
    exact .inr ⟨hopen hbefore nofun, by simp only [rank, hbefore, hafter]⟩

/-- A closed object raises at every method. -/
theorem closed_step (hclosed : h.Closed) (input : FullCall × Bool) :
    ((calls crypto onCurve).step h input).2.Closed ∧
      ∀ proof, ((calls crypto onCurve).step h input).1 ≠ some (some proof) := by
  rcases @step_cases crypto onCurve h input with ⟨hclear, hsilent⟩ |
    ⟨_, _, _, _, _, _, _, _, -, hbegin⟩ | ⟨_, -, hfinish⟩ | ⟨_, _, _, -, hfinish⟩
  · rw [hclear]
    exact ⟨closed_clear h, hsilent⟩
  · exact nomatch hclosed.state.symm.trans (begin_eq_some hbegin).1
  · exact nomatch hclosed.state.symm.trans (finishC_eq_some hfinish).1
  · exact nomatch hclosed.state.symm.trans (finishP_eq_some hfinish).1

variable {history : List (FullCall × Bool)}

/-- The object of a profile has climbed. -/
abbrev Climbed (crypto : Crypto) (onCurve : Bytes → Bool) (profile : UInt8)
    (history : List (FullCall × Bool)) : FullHandshake → Prop :=
  (calls crypto onCurve).Climbed rank { profile } history

/-- On the first rank the object has begun. -/
theorem Climbed.begun (hclimbed : Climbed crypto onCurve profile history h) (hstate : h.state = .waitAuth) :
    Begun crypto onCurve profile history h := by
  cases hclimbed with
  | start => exact nomatch hstate
  | @step before input hbefore hmem hrank =>
    rcases @step_cases crypto onCurve before input with ⟨hclear, -⟩ |
      ⟨ss, pk, ct, sid, ecdh, centralPublic, peripheralPublic, sec, rfl, hbegin⟩ | ⟨_, -, hfinish⟩ |
      ⟨_, _, _, -, hfinish⟩
    · rw [hclear] at hstate
      exact nomatch hstate
    · have hnew := (begin_eq_some hbegin).1
      obtain rfl := hbefore.eq_start (by simp only [rank, hnew])
      exact ⟨ss, pk, ct, sid, ecdh, centralPublic, peripheralPublic, sec, hmem, hbegin⟩
    · exact nomatch hstate.symm.trans (finishC_eq_some hfinish).2.2.1
    · exact nomatch hstate.symm.trans (finishP_eq_some hfinish).2.1

/-- On the second rank it has sent FINISHED_C. -/
theorem Climbed.sent (hclimbed : Climbed crypto onCurve profile history h)
    (hstate : h.state = .waitFinishedP) : Sent crypto onCurve profile history h := by
  cases hclimbed with
  | start => exact nomatch hstate
  | @step before input hbefore hmem hrank =>
    rcases @step_cases crypto onCurve before input with ⟨hclear, -⟩ | ⟨_, _, _, _, _, _, _, _, -, hbegin⟩ |
      ⟨wire, rfl, hfinish⟩ | ⟨_, _, _, -, hfinish⟩
    · rw [hclear] at hstate
      exact nomatch hstate
    · exact nomatch hstate.symm.trans (begin_eq_some hbegin).2.1
    · exact ⟨before, wire, Climbed.begun hbefore (finishC_eq_some hfinish).1, hmem, hfinish⟩
    · exact nomatch hstate.symm.trans (finishP_eq_some hfinish).2.1

/-- An object that has begun has the profile it was made with and no application keys. -/
theorem Begun.keeps (hbegun : Begun crypto onCurve profile history h) : Keeps { profile } h := by
  obtain ⟨_, _, _, _, _, _, _, _, -, hbegin⟩ := hbegun
  exact (begin_eq_some hbegin).2.2

theorem Sent.keeps (hsent : Sent crypto onCurve profile history h) : Keeps { profile } h := by
  obtain ⟨begun, wire, hbegun, -, hfinish⟩ := hsent
  obtain ⟨-, -, -, hkeeps⟩ := finishC_eq_some hfinish
  have hbefore := hbegun.keeps
  exact ⟨hkeeps.profile.trans hbefore.profile, hkeeps.appC2p.trans hbefore.appC2p,
    hkeeps.appP2c.trans hbefore.appP2c⟩

/-- On the last rank it has verified FINISHED_P. -/
theorem Climbed.finished (hclimbed : Climbed crypto onCurve profile history h)
    (hstate : h.state = .appSecure) : Finished crypto onCurve profile history h := by
  cases hclimbed with
  | start => exact nomatch hstate
  | @step before input hbefore hmem hrank =>
    rcases @step_cases crypto onCurve before input with ⟨hclear, -⟩ | ⟨_, _, _, _, _, _, _, _, -, hbegin⟩ |
      ⟨_, -, hfinish⟩ | ⟨raw, peer, now, rfl, hfinish⟩
    · rw [hclear] at hstate
      exact nomatch hstate
    · exact nomatch hstate.symm.trans (begin_eq_some hbegin).2.1
    · exact nomatch hstate.symm.trans (finishC_eq_some hfinish).2.2.1
    · obtain ⟨hwait, -, d, hdomain, hparse⟩ := finishP_eq_some hfinish
      have hsent := Climbed.sent hbefore hwait
      rw [hsent.keeps.profile] at hdomain hparse
      exact ⟨before, raw, peer, now, d, hsent, hmem, hdomain, hparse, hfinish⟩

/-- Exposed keys come from a verified FINISHED_P. -/
theorem Climbed.of_exposed (hclimbed : Climbed crypto onCurve profile history h) (hexposed : h.Exposed) :
    Finished crypto onCurve profile history h := by
  have hkeys : Keeps { profile } h → h.state = .appSecure := by
    rintro ⟨-, hc2p, hp2c⟩
    rcases hexposed with hkey | hkey | hsecure
    · exact absurd hc2p hkey
    · exact absurd hp2c hkey
    · exact hsecure
  cases hstate : h.state with
  | new | waitReadyCp3 | closed =>
    obtain rfl := hclimbed.eq_start (by simp only [rank, hstate])
    exact nomatch hkeys ⟨rfl, rfl, rfl⟩
  | waitAuth => exact nomatch hstate.symm.trans (hkeys (Climbed.begun hclimbed hstate).keeps)
  | waitFinishedP => exact nomatch hstate.symm.trans (hkeys (Climbed.sent hclimbed hstate).keeps)
  | appSecure => exact Climbed.finished hclimbed hstate

end Methods

end FullHandshake

/-! ## v1.0 -/

/-- The calls on a `CentralHandshake`. -/
inductive CentralCall
  | begin (ss sec pk ct start : Bytes)
  | acceptReady (raw : Bytes)
  | acceptFinishedP (raw : Bytes)
  | clear
deriving DecidableEq

namespace CentralHandshake

/-- A call that returns: the proof it gives out, if any, and the object after it. -/
def perform (crypto : Crypto) (h : CentralHandshake) : CentralCall → Option (Option Bytes × CentralHandshake)
  | .begin ss sec pk ct start => (h.begin crypto ss sec pk ct start).map fun h' ↦ (none, h')
  | .acceptReady raw => (h.acceptReady crypto raw).map fun result ↦ (some result.1, result.2)
  | .acceptFinishedP raw => (h.acceptFinishedP crypto raw).map fun h' ↦ (none, h')
  | .clear => some (none, h.clear)

/-- The object under calls; every method ends in the handler that clears it. -/
def calls (crypto : Crypto) : Machine CentralHandshake (CentralCall × Bool) (Option (Option Bytes)) :=
  .closing (perform crypto) clear

/-- A closed object: every key buffer is zero. -/
structure Closed (h : CentralHandshake) : Prop where
  state : h.state = .closed
  th : h.th = .zero 32
  prk : h.prk = .zero 32
  finishedC : h.finishedC = .zero 32
  finishedP : h.finishedP = .zero 32
  appC2p : h.appC2p = .zero 32
  appP2c : h.appP2c = .zero 32
  sessionId : h.sessionId = []

theorem closed_clear (h : CentralHandshake) : h.clear.Closed :=
  ⟨rfl, rfl, rfl, rfl, rfl, rfl, rfl, rfl⟩

/-- How far the handshake has come. -/
def rank (h : CentralHandshake) : ℕ :=
  match h.state with
  | .waitReadyCp3 => 1
  | .waitFinishedP => 2
  | .appSecure => 3
  | _ => 0

/-- The application keys are exposed. -/
def Exposed (h : CentralHandshake) : Prop :=
  h.appC2p ≠ .zero 32 ∨ h.appP2c ≠ .zero 32 ∨ h.state = .appSecure

section Progress

variable (crypto : Crypto) (history : List (CentralCall × Bool))

/-- A new object came here by one of the calls, a `begin`. -/
def Begun (h : CentralHandshake) : Prop :=
  ∃ ss sec pk ct start, (.begin ss sec pk ct start, false) ∈ history ∧
    ({} : CentralHandshake).begin crypto ss sec pk ct start = some h

/-- It then verified READY_CP3 and gave out FINISHED_C. -/
def Sent (h : CentralHandshake) : Prop :=
  ∃ begun raw wire, Begun crypto history begun ∧ (.acceptReady raw, false) ∈ history ∧
    begun.acceptReady crypto raw = some (wire, h)

/-- It then verified FINISHED_P under the confirmation key of its own transcript. -/
def Finished (h : CentralHandshake) : Prop :=
  ∃ sent raw, Sent crypto history sent ∧ (.acceptFinishedP raw, false) ∈ history ∧
    parseV1Frame raw = some (pqV1FinishedP,
      (verifyData crypto sent.finishedP (v1Label "VERIFY-P") sent.th).bytes) ∧
    sent.acceptFinishedP crypto raw = some h

end Progress

section Methods

variable {crypto : Crypto} {h h' : CentralHandshake} {raw wire : Bytes}

/-- **Success of `begin`.** -/
theorem begin_eq_some {ss sec pk ct start : Bytes}
    (hbegin : h.begin crypto ss sec pk ct start = some h') :
    h.state = .new ∧ h'.state = .waitReadyCp3 ∧ h'.appC2p = h.appC2p ∧ h'.appP2c = h.appP2c := by
  simp only [begin, Option.bind_eq_bind, Option.bind_eq_some_iff, Option.guard_eq_some', exists_and_left,
    exists_const, Option.pure_def, Option.some.injEq, Prod.exists] at hbegin
  obtain ⟨hstate, info, -, -, th, -, _, sid, -, prk, -, rfl⟩ := hbegin
  exact ⟨hstate, rfl, rfl, rfl⟩

/-- **Success of `accept_ready`.** -/
theorem acceptReady_eq_some (haccept : h.acceptReady crypto raw = some (wire, h')) :
    h.state = .waitReadyCp3 ∧ h'.state = .waitFinishedP ∧ h'.appC2p = h.appC2p ∧ h'.appP2c = h.appP2c := by
  simp only [acceptReady, Option.bind_eq_bind, Option.bind_eq_some_iff, Option.guard_eq_some',
    exists_and_left, exists_const, Option.pure_def, Option.some.injEq, Prod.exists, Prod.mk.injEq] at haccept
  obtain ⟨_, payload, -, ⟨hstate, -, -⟩, finished, -, th, -, -, rfl⟩ := haccept
  exact ⟨hstate, rfl, rfl, rfl⟩

/-- **Success of `accept_finished_p`.** -/
theorem acceptFinishedP_eq_some (haccept : h.acceptFinishedP crypto raw = some h') :
    h.state = .waitFinishedP ∧ h'.state = .appSecure ∧
      parseV1Frame raw = some (pqV1FinishedP,
        (verifyData crypto h.finishedP (v1Label "VERIFY-P") h.th).bytes) := by
  simp only [acceptFinishedP, Option.bind_eq_bind, Option.bind_eq_some_iff, Option.guard_eq_some',
    exists_and_left, exists_const, Option.pure_def, Option.some.injEq, Prod.exists] at haccept
  obtain ⟨subtype, payload, hparse, ⟨hstate, rfl⟩, hequal, th, -, rfl⟩ := haccept
  exact ⟨hstate, rfl, by rw [hparse, hequal]⟩

/-- **What a call does.**  It clears the object and gives nothing out, or it is one of the three methods in its
own state. -/
theorem step_cases (h : CentralHandshake) (input : CentralCall × Bool) :
    ((calls crypto).step h input).2 = h.clear ∧
        (∀ proof, ((calls crypto).step h input).1 ≠ some (some proof)) ∨
      (∃ ss sec pk ct start, input = (.begin ss sec pk ct start, false) ∧
        h.begin crypto ss sec pk ct start = some ((calls crypto).step h input).2) ∨
      (∃ raw wire, input = (.acceptReady raw, false) ∧
        h.acceptReady crypto raw = some (wire, ((calls crypto).step h input).2)) ∨
      ∃ raw, input = (.acceptFinishedP raw, false) ∧
        h.acceptFinishedP crypto raw = some ((calls crypto).step h input).2 := by
  rcases Machine.closing_cases (perform crypto) clear h input with
    ⟨value, h', hfault, hperform, hstep⟩ | hstep
  swap
  · rw [calls, hstep]
    exact .inl ⟨rfl, nofun⟩
  rw [calls, hstep]
  obtain ⟨call, fault⟩ := input
  obtain rfl : fault = false := hfault
  cases call with
  | begin ss sec pk ct start =>
    obtain ⟨next, hbegin, hresult⟩ := Option.map_eq_some_iff.mp hperform
    obtain ⟨-, rfl⟩ := Prod.mk.inj hresult
    exact .inr (.inl ⟨ss, sec, pk, ct, start, rfl, hbegin⟩)
  | acceptReady raw =>
    obtain ⟨⟨wire, next⟩, haccept, hresult⟩ := Option.map_eq_some_iff.mp hperform
    obtain ⟨-, rfl⟩ := Prod.mk.inj hresult
    exact .inr (.inr (.inl ⟨raw, wire, rfl, haccept⟩))
  | acceptFinishedP raw =>
    obtain ⟨next, haccept, hresult⟩ := Option.map_eq_some_iff.mp hperform
    obtain ⟨-, rfl⟩ := Prod.mk.inj hresult
    exact .inr (.inr (.inr ⟨raw, rfl, haccept⟩))
  | clear =>
    obtain ⟨rfl, rfl⟩ := Prod.mk.inj (Option.some.inj hperform)
    exact .inl ⟨rfl, nofun⟩

/-- Every call closes the object or takes an open one a rank up. -/
theorem step_rank (h : CentralHandshake) (input : CentralCall × Bool) :
    ((calls crypto).step h input).2.Closed ∨
      ¬h.Closed ∧ rank ((calls crypto).step h input).2 = h.rank + 1 := by
  have hopen : ∀ {state}, h.state = state → state ≠ .closed → ¬h.Closed :=
    fun hstate hne hclosed ↦ hne (hstate.symm.trans hclosed.state)
  rcases @step_cases crypto h input with ⟨hclear, -⟩ | ⟨_, _, _, _, _, -, hbegin⟩ | ⟨_, _, -, haccept⟩ |
    ⟨_, -, haccept⟩
  · rw [hclear]
    exact .inl (closed_clear h)
  · obtain ⟨hbefore, hafter, -⟩ := begin_eq_some hbegin
    exact .inr ⟨hopen hbefore nofun, by simp only [rank, hbefore, hafter]⟩
  · obtain ⟨hbefore, hafter, -⟩ := acceptReady_eq_some haccept
    exact .inr ⟨hopen hbefore nofun, by simp only [rank, hbefore, hafter]⟩
  · obtain ⟨hbefore, hafter, -⟩ := acceptFinishedP_eq_some haccept
    exact .inr ⟨hopen hbefore nofun, by simp only [rank, hbefore, hafter]⟩

/-- A closed object raises at every method. -/
theorem closed_step (hclosed : h.Closed) (input : CentralCall × Bool) :
    ((calls crypto).step h input).2.Closed ∧
      ∀ proof, ((calls crypto).step h input).1 ≠ some (some proof) := by
  rcases @step_cases crypto h input with ⟨hclear, hsilent⟩ | ⟨_, _, _, _, _, -, hbegin⟩ |
    ⟨_, _, -, haccept⟩ | ⟨_, -, haccept⟩
  · rw [hclear]
    exact ⟨closed_clear h, hsilent⟩
  · exact nomatch hclosed.state.symm.trans (begin_eq_some hbegin).1
  · exact nomatch hclosed.state.symm.trans (acceptReady_eq_some haccept).1
  · exact nomatch hclosed.state.symm.trans (acceptFinishedP_eq_some haccept).1

variable {history : List (CentralCall × Bool)}

/-- A new object has climbed. -/
abbrev Climbed (crypto : Crypto) (history : List (CentralCall × Bool)) : CentralHandshake → Prop :=
  (calls crypto).Climbed rank {} history

/-- On the first rank the object has begun. -/
theorem Climbed.begun (hclimbed : Climbed crypto history h) (hstate : h.state = .waitReadyCp3) :
    Begun crypto history h := by
  cases hclimbed with
  | start => exact nomatch hstate
  | @step before input hbefore hmem hrank =>
    rcases @step_cases crypto before input with ⟨hclear, -⟩ | ⟨ss, sec, pk, ct, start, rfl, hbegin⟩ |
      ⟨_, _, -, haccept⟩ | ⟨_, -, haccept⟩
    · rw [hclear] at hstate
      exact nomatch hstate
    · have hnew := (begin_eq_some hbegin).1
      obtain rfl := hbefore.eq_start (by simp only [rank, hnew])
      exact ⟨ss, sec, pk, ct, start, hmem, hbegin⟩
    · exact nomatch hstate.symm.trans (acceptReady_eq_some haccept).2.1
    · exact nomatch hstate.symm.trans (acceptFinishedP_eq_some haccept).2.1

/-- On the second rank it has sent FINISHED_C. -/
theorem Climbed.sent (hclimbed : Climbed crypto history h) (hstate : h.state = .waitFinishedP) :
    Sent crypto history h := by
  cases hclimbed with
  | start => exact nomatch hstate
  | @step before input hbefore hmem hrank =>
    rcases @step_cases crypto before input with ⟨hclear, -⟩ | ⟨_, _, _, _, _, -, hbegin⟩ |
      ⟨raw, wire, rfl, haccept⟩ | ⟨_, -, haccept⟩
    · rw [hclear] at hstate
      exact nomatch hstate
    · exact nomatch hstate.symm.trans (begin_eq_some hbegin).2.1
    · exact ⟨before, raw, wire, Climbed.begun hbefore (acceptReady_eq_some haccept).1, hmem, haccept⟩
    · exact nomatch hstate.symm.trans (acceptFinishedP_eq_some haccept).2.1

/-- On the last rank it has verified FINISHED_P. -/
theorem Climbed.finished (hclimbed : Climbed crypto history h) (hstate : h.state = .appSecure) :
    Finished crypto history h := by
  cases hclimbed with
  | start => exact nomatch hstate
  | @step before input hbefore hmem hrank =>
    rcases @step_cases crypto before input with ⟨hclear, -⟩ | ⟨_, _, _, _, _, -, hbegin⟩ |
      ⟨_, _, -, haccept⟩ | ⟨raw, rfl, haccept⟩
    · rw [hclear] at hstate
      exact nomatch hstate
    · exact nomatch hstate.symm.trans (begin_eq_some hbegin).2.1
    · exact nomatch hstate.symm.trans (acceptReady_eq_some haccept).2.1
    · obtain ⟨hwait, -, hparse⟩ := acceptFinishedP_eq_some haccept
      exact ⟨before, raw, Climbed.sent hbefore hwait, hmem, hparse, haccept⟩

theorem Begun.keys (hbegun : Begun crypto history h) : h.appC2p = .zero 32 ∧ h.appP2c = .zero 32 := by
  obtain ⟨_, _, _, _, _, -, hbegin⟩ := hbegun
  exact (begin_eq_some hbegin).2.2

theorem Sent.keys (hsent : Sent crypto history h) : h.appC2p = .zero 32 ∧ h.appP2c = .zero 32 := by
  obtain ⟨begun, _, _, hbegun, -, haccept⟩ := hsent
  obtain ⟨-, -, hc2p, hp2c⟩ := acceptReady_eq_some haccept
  exact ⟨hc2p.trans hbegun.keys.1, hp2c.trans hbegun.keys.2⟩

/-- Exposed keys come from a verified FINISHED_P. -/
theorem Climbed.of_exposed (hclimbed : Climbed crypto history h) (hexposed : h.Exposed) :
    Finished crypto history h := by
  have hkeys : h.appC2p = .zero 32 ∧ h.appP2c = .zero 32 → h.state = .appSecure := by
    rintro ⟨hc2p, hp2c⟩
    rcases hexposed with hkey | hkey | hsecure
    · exact absurd hc2p hkey
    · exact absurd hp2c hkey
    · exact hsecure
  cases hstate : h.state with
  | new | waitAuth | closed =>
    obtain rfl := hclimbed.eq_start (by simp only [rank, hstate])
    exact nomatch hkeys ⟨rfl, rfl⟩
  | waitReadyCp3 => exact nomatch hstate.symm.trans (hkeys (Climbed.begun hclimbed hstate).keys)
  | waitFinishedP => exact nomatch hstate.symm.trans (hkeys (Climbed.sent hclimbed hstate).keys)
  | appSecure => exact Climbed.finished hclimbed hstate

end Methods

end CentralHandshake

end PqBleHandshake.Python

/-! ## Resumption -/

namespace PqBleHandshake.Resumption.Python

open Foundation

/-- The calls on a `CentralResume`, with the ticket object as the call finds it. -/
inductive ResumeCall
  | begin (ticket : Ticket)
  | accept (ticket : Ticket) (raw : Bytes)
  | finish (ticket : Ticket) (raw : Bytes)
  | clear
deriving DecidableEq

namespace CentralResume

/-- The object under calls.  `accept` and `finish` end in a handler that clears the object; `begin` advances
the state first, and what raises after that leaves it there. -/
def calls (crypto : Crypto) : Machine CentralResume (ResumeCall × Bool) (Option (Option Bytes)) where
  step central input :=
    match input with
    | (.begin ticket, fault) =>
      if fault = true ∧ central.state = .new then (none, { central with state := .waitAccept })
      else match central.begin crypto ticket with
        | (.ok wire, central') => (some (some wire), central')
        | (.error _, central') => (none, central')
    | (.accept ticket raw, fault) =>
      if fault = true then (none, central.clear)
      else match central.accept crypto ticket raw with
        | (.ok wire, central') => (some (some wire), central')
        | (.error _, central') => (none, central')
    | (.finish ticket raw, fault) =>
      if fault = true then (none, central.clear)
      else match central.finish crypto ticket raw with
        | (.ok (), central', _) => (some none, central')
        | (.error _, central', _) => (none, central')
    | (.clear, _) => (some none, central.clear)

/-- A closed object: the key buffers of its key object are zero. -/
structure Closed (central : CentralResume) : Prop where
  state : central.state = .closed
  keys : ∀ keys ∈ central.keys, keys.toKeys = Keys.zero
  sessionId : central.sessionId = []
  nc : central.nc = []

theorem closed_clear (central : CentralResume) : central.clear.Closed := by
  refine ⟨rfl, fun keys hkeys ↦ ?_, rfl, rfl⟩
  obtain ⟨before, -, rfl⟩ := Option.map_eq_some_iff.mp hkeys
  rfl

/-- How far the resumption has come. -/
def rank (central : CentralResume) : ℕ :=
  match central.state with
  | .new | .closed => 0
  | .waitAccept => 1
  | .waitFinishP => 2
  | .appSecure => 3

section Progress

variable (crypto : Crypto) (created : CentralResume) (history : List (ResumeCall × Bool))

/-- The object verified an ACCEPT for its own session id and nonce and derived its keys. -/
def Accepted (central : CentralResume) : Prop :=
  ∃ ticket raw wire, (.accept ticket raw, false) ∈ history ∧
    ({ created with state := .waitAccept } : CentralResume).accept crypto ticket raw = (.ok wire, central)

/-- It then verified FINISH_P under those keys. -/
def Finished (central : CentralResume) : Prop :=
  ∃ accepted ticket ticket' raw keys, Accepted crypto created history accepted ∧
    (.finish ticket raw, false) ∈ history ∧ accepted.keys = some keys ∧
    raw = frame accepted.profile subtypeFinishP (keys.finish crypto false).bytes ∧
    accepted.finish crypto ticket raw = (.ok (), central, ticket')

end Progress

section Methods

variable {crypto : Crypto} {central central' created : CentralResume}

/-- `begin` of a new object leaves it waiting, whether it raises or not. -/
theorem begin_of_new (hnew : central.state = .new) (ticket : Ticket) :
    (central.begin crypto ticket).2 = { central with state := .waitAccept } := by
  rw [begin, if_neg (not_not.mpr hnew)]

theorem begin_of_not_new (hstate : central.state ≠ .new) (ticket : Ticket) :
    central.begin crypto ticket = (.error .malformed, central.clear) :=
  if_pos hstate

theorem step_begin_of_new (hnew : central.state = .new) (ticket : Ticket) (fault : Bool) :
    ((calls crypto).step central (.begin ticket, fault)).2 = { central with state := .waitAccept } := by
  cases fault with
  | true => simp only [calls, hnew, and_self, if_true]
  | false =>
    have hafter := @begin_of_new crypto central hnew ticket
    cases hbegin : central.begin crypto ticket with
    | mk result central' =>
      rw [hbegin] at hafter
      obtain rfl : central' = _ := hafter
      simp only [calls, hbegin, Bool.false_eq_true, false_and, if_false]
      cases result <;> rfl

theorem step_begin_of_not_new (hstate : central.state ≠ .new) (ticket : Ticket) (fault : Bool) :
    (calls crypto).step central (.begin ticket, fault) = (none, central.clear) := by
  simp only [calls, hstate, and_false, if_false, begin_of_not_new hstate]

/-- **What a call does.**  It clears the object and gives nothing out, or it is one of the three methods in its
own state. -/
theorem step_cases (central : CentralResume) (input : ResumeCall × Bool) :
    ((calls crypto).step central input).2 = central.clear ∧
        (∀ proof, ((calls crypto).step central input).1 ≠ some (some proof)) ∨
      (central.state = .new ∧ (∃ ticket fault, input = (.begin ticket, fault)) ∧
        ((calls crypto).step central input).2 = { central with state := .waitAccept }) ∨
      (∃ ticket raw wire, input = (.accept ticket raw, false) ∧
        ((calls crypto).step central input).1 ≠ none ∧
        central.accept crypto ticket raw = (.ok wire, ((calls crypto).step central input).2)) ∨
      ∃ ticket raw ticket', input = (.finish ticket raw, false) ∧
        ((calls crypto).step central input).1 ≠ none ∧
        central.finish crypto ticket raw = (.ok (), ((calls crypto).step central input).2, ticket') := by
  obtain ⟨call, fault⟩ := input
  cases call with
  | begin ticket =>
    by_cases hnew : central.state = .new
    · exact .inr (.inl ⟨hnew, ⟨ticket, fault, rfl⟩, step_begin_of_new hnew ticket fault⟩)
    · rw [step_begin_of_not_new hnew]
      exact .inl ⟨rfl, nofun⟩
  | accept ticket raw =>
    cases fault with
    | true => exact .inl ⟨rfl, nofun⟩
    | false =>
      cases haccept : central.accept crypto ticket raw with
      | mk result central' =>
        have hstep : (calls crypto).step central (.accept ticket raw, false) =
            (result.toOption.map some, central') := by
          simp only [calls, haccept]
          cases result <;> rfl
        rw [hstep]
        cases result with
        | ok wire => exact .inr (.inr (.inl ⟨ticket, raw, wire, rfl, nofun, haccept⟩))
        | error reason => exact .inl ⟨accept_eq_error haccept, nofun⟩
  | finish ticket raw =>
    cases fault with
    | true => exact .inl ⟨rfl, nofun⟩
    | false =>
      cases hfinish : central.finish crypto ticket raw with
      | mk result rest =>
        obtain ⟨central', ticket'⟩ := rest
        have hstep : (calls crypto).step central (.finish ticket raw, false) =
            (result.toOption.map fun _ ↦ none, central') := by
          simp only [calls, hfinish]
          cases result <;> rfl
        rw [hstep]
        cases result with
        | ok _ => exact .inr (.inr (.inr ⟨ticket, raw, ticket', rfl, nofun, hfinish⟩))
        | error reason => exact .inl ⟨(finish_eq_error hfinish).1, nofun⟩
  | clear => exact .inl ⟨rfl, nofun⟩

/-- Every call closes the object or takes an open one a rank up. -/
theorem step_rank (central : CentralResume) (input : ResumeCall × Bool) :
    ((calls crypto).step central input).2.Closed ∨
      ¬central.Closed ∧ rank ((calls crypto).step central input).2 = central.rank + 1 := by
  have hopen : ∀ {state}, central.state = state → state ≠ .closed → ¬central.Closed :=
    fun hstate hne hclosed ↦ hne (hstate.symm.trans hclosed.state)
  rcases @step_cases crypto central input with ⟨hclear, -⟩ | ⟨hnew, -, hwait⟩ | ⟨_, _, _, -, -, haccept⟩ |
    ⟨_, _, _, -, -, hfinish⟩
  · rw [hclear]
    exact .inl (closed_clear central)
  · exact .inr ⟨hopen hnew nofun, by simp only [hwait, rank, hnew]⟩
  · obtain ⟨hbefore, -, rid, sid, nc, np, -, -, -, -, -, hafter⟩ := accept_eq_ok haccept
    exact .inr ⟨hopen hbefore nofun, by simp only [hafter, rank, hbefore]⟩
  · obtain ⟨hbefore, -, -, keys, -, -, hafter⟩ := finish_eq_ok hfinish
    exact .inr ⟨hopen hbefore nofun, by simp only [hafter, rank, hbefore]⟩

/-- A closed object raises at every method. -/
theorem closed_step (hclosed : central.Closed) (input : ResumeCall × Bool) :
    ((calls crypto).step central input).2.Closed ∧
      ∀ proof, ((calls crypto).step central input).1 ≠ some (some proof) := by
  rcases @step_cases crypto central input with ⟨hclear, hsilent⟩ | ⟨hnew, -, -⟩ | ⟨_, _, _, -, -, haccept⟩ |
    ⟨_, _, _, -, -, hfinish⟩
  · rw [hclear]
    exact ⟨closed_clear central, hsilent⟩
  · exact nomatch hclosed.state.symm.trans hnew
  · exact nomatch hclosed.state.symm.trans (accept_eq_ok haccept).1
  · exact nomatch hclosed.state.symm.trans (finish_eq_ok hfinish).1

variable {history : List (ResumeCall × Bool)}

/-- A created object has climbed. -/
abbrev Climbed (crypto : Crypto) (created : CentralResume) (history : List (ResumeCall × Bool)) :
    CentralResume → Prop :=
  (calls crypto).Climbed rank created history

/-- On the first rank the object has done nothing but advance. -/
theorem Climbed.waiting (hnew : created.state = .new) (hclimbed : Climbed crypto created history central)
    (hstate : central.state = .waitAccept) : central = { created with state := .waitAccept } := by
  cases hclimbed with
  | start => exact nomatch hnew.symm.trans hstate
  | @step before input hbefore hmem hrank =>
    rcases @step_cases crypto before input with ⟨hclear, -⟩ | ⟨hfresh, -, hwait⟩ | ⟨_, _, _, -, -, haccept⟩ |
      ⟨_, _, _, -, -, hfinish⟩
    · rw [hclear] at hstate
      exact nomatch hstate
    · obtain rfl := hbefore.eq_start (by simp only [rank, hfresh])
      exact hwait
    · obtain ⟨-, -, rid, sid, nc, np, -, -, -, -, -, hafter⟩ := accept_eq_ok haccept
      rw [hafter] at hstate
      exact nomatch hstate
    · obtain ⟨-, -, -, keys, -, -, hafter⟩ := finish_eq_ok hfinish
      rw [hafter] at hstate
      exact nomatch hstate

/-- On the second rank it has verified an ACCEPT. -/
theorem Climbed.accepted (hnew : created.state = .new) (hclimbed : Climbed crypto created history central)
    (hstate : central.state = .waitFinishP) : Accepted crypto created history central := by
  cases hclimbed with
  | start => exact nomatch hnew.symm.trans hstate
  | @step before input hbefore hmem hrank =>
    rcases @step_cases crypto before input with ⟨hclear, -⟩ | ⟨-, -, hwait⟩ | ⟨ticket, raw, wire, rfl, -, haccept⟩ |
      ⟨_, _, _, -, -, hfinish⟩
    · rw [hclear] at hstate
      exact nomatch hstate
    · rw [hwait] at hstate
      exact nomatch hstate
    · obtain rfl := Climbed.waiting hnew hbefore (accept_eq_ok haccept).1
      exact ⟨ticket, raw, wire, hmem, haccept⟩
    · obtain ⟨-, -, -, keys, -, -, hafter⟩ := finish_eq_ok hfinish
      rw [hafter] at hstate
      exact nomatch hstate

/-- On the last rank it has verified FINISH_P. -/
theorem Climbed.finished (hnew : created.state = .new) (hclimbed : Climbed crypto created history central)
    (hstate : central.state = .appSecure) : Finished crypto created history central := by
  cases hclimbed with
  | start => exact nomatch hnew.symm.trans hstate
  | @step before input hbefore hmem hrank =>
    rcases @step_cases crypto before input with ⟨hclear, -⟩ | ⟨-, -, hwait⟩ | ⟨_, _, _, -, -, haccept⟩ |
      ⟨ticket, raw, ticket', rfl, -, hfinish⟩
    · rw [hclear] at hstate
      exact nomatch hstate
    · rw [hwait] at hstate
      exact nomatch hstate
    · obtain ⟨-, -, rid, sid, nc, np, -, -, -, -, -, hafter⟩ := accept_eq_ok haccept
      rw [hafter] at hstate
      exact nomatch hstate
    · obtain ⟨hwait, -, -, keys, hkeys, hraw, -⟩ := finish_eq_ok hfinish
      exact ⟨before, ticket, ticket', raw, keys, Climbed.accepted hnew hbefore hwait, hmem, hkeys, hraw,
        hfinish⟩

/-- The condition on a call: `begin` of a new object has a known profile and a ticket with an id, and nothing
else raises in it. -/
def BeginsWell (central : CentralResume) (input : ResumeCall × Bool) : Prop :=
  central.state = .new → ∀ ticket fault, input = (.begin ticket, fault) →
    fault = false ∧ KnownProfile central.profile ∧ ticket.rid.length = 16

/-- A new object has its session id and its nonce. -/
def Sized (central : CentralResume) : Prop :=
  central.state = .new → ∃ (sid : Block 16) (nc : Block 32),
    central.sessionId = sid.bytes ∧ central.nc = nc.bytes

/-- No call leads back to a new object. -/
theorem sized_step (central : CentralResume) (input : ResumeCall × Bool) :
    ((calls crypto).step central input).2.Sized := by
  intro hnew
  rcases @step_cases crypto central input with ⟨hclear, -⟩ | ⟨-, -, hwait⟩ | ⟨_, _, _, -, -, haccept⟩ |
    ⟨_, _, _, -, -, hfinish⟩
  · rw [hclear] at hnew
    exact nomatch hnew
  · rw [hwait] at hnew
    exact nomatch hnew
  · obtain ⟨-, -, rid, sid, nc, np, -, -, -, -, -, hafter⟩ := accept_eq_ok haccept
    rw [hafter] at hnew
    exact nomatch hnew
  · obtain ⟨-, -, -, keys, -, -, hafter⟩ := finish_eq_ok hfinish
    rw [hafter] at hnew
    exact nomatch hnew

/-- `begin` of a new object raises exactly when its INIT cannot be built. -/
theorem step_begin_eq_none_iff (hsized : central.Sized) (hnew : central.state = .new) (ticket : Ticket)
    (fault : Bool) :
    ((calls crypto).step central (.begin ticket, fault)).1 = none ↔
      ¬(fault = false ∧ KnownProfile central.profile ∧ ticket.rid.length = 16) := by
  cases fault with
  | true => simp [calls, hnew]
  | false =>
    obtain ⟨sid, nc, hsid, hnc⟩ := hsized hnew
    cases hbegin : central.begin crypto ticket with
    | mk result central' =>
      have hstep : ((calls crypto).step central (.begin ticket, false)).1 = result.toOption.map some := by
        simp only [calls, hbegin, Bool.false_eq_true, false_and, if_false]
        cases result <;> rfl
      rw [hstep]
      cases result with
      | ok wire =>
        obtain ⟨-, -, hknown, rid, -, -, hrid, -⟩ := begin_eq_ok hbegin
        exact iff_of_false nofun (not_not.mpr ⟨rfl, hknown, by rw [hrid, rid.length_bytes]⟩)
      | error reason =>
        refine iff_of_true rfl ?_
        rintro ⟨-, hknown, hlength⟩
        rcases begin_eq_error (fun _ ↦ ⟨hsid, hnc⟩) hbegin with hclear | ⟨-, -, hbad⟩
        · have hwait := @begin_of_new crypto central hnew ticket
          rw [hbegin] at hwait
          exact nomatch congrArg CentralResume.state (hclear.symm.trans hwait)
        · exact hbad ⟨hknown, ⟨ticket.rid, hlength⟩, rfl⟩

/-- **A raising call closes the object, except for `begin` of a new one.** -/
theorem raisesClosed_iff (hsized : central.Sized) (input : ResumeCall × Bool) :
    (calls crypto).RaisesClosed Closed central input ↔ central.BeginsWell input := by
  constructor
  · rintro hraises hnew ticket fault rfl
    by_contra hbad
    have hclosed := hraises ((step_begin_eq_none_iff hsized hnew ticket fault).mpr hbad)
    rw [step_begin_of_new hnew] at hclosed
    exact nomatch hclosed.state
  · intro hbegins hraised
    rcases @step_cases crypto central input with ⟨hclear, -⟩ | ⟨hnew, ⟨ticket, fault, rfl⟩, -⟩ |
      ⟨_, _, _, -, hreturned, -⟩ | ⟨_, _, _, -, hreturned, -⟩
    · rw [hclear]
      exact closed_clear central
    · exact absurd (hbegins hnew ticket fault rfl)
        ((step_begin_eq_none_iff hsized hnew ticket fault).mp hraised)
    · exact absurd hraised hreturned
    · exact absurd hraised hreturned

end Methods

end CentralResume

end PqBleHandshake.Resumption.Python

namespace PqBleHandshake

open Foundation

/-- **Handshake objects are fail-closed typestates.**  Exposed keys, or the state APP_SECURE, come from the call
that verified the peer's FINISHED for the object's own transcript; a raising call leaves the object closed and
wiped; a closed object stays so and gives nothing out.  For `CentralResume` the second part holds along exactly
the runs in which every `begin` of the new object can build its INIT. -/
theorem handshake_typestates (crypto : Crypto) (onCurve : Bytes → Bool) :
    (∀ (profile : UInt8) (calls : List (Python.FullCall × Bool)),
      let machine := Python.FullHandshake.calls crypto onCurve
      let final := machine.run { profile } calls
      (final.Exposed → Python.FullHandshake.Finished crypto onCurve profile calls final) ∧
        machine.Along (machine.RaisesClosed Python.FullHandshake.Closed) { profile } calls ∧
        (final.state = .closed → ∀ later, machine.StaysClosed Python.FullHandshake.Closed final later)) ∧
    (∀ calls : List (Python.CentralCall × Bool),
      let machine := Python.CentralHandshake.calls crypto
      let final := machine.run {} calls
      (final.Exposed → Python.CentralHandshake.Finished crypto calls final) ∧
        machine.Along (machine.RaisesClosed Python.CentralHandshake.Closed) {} calls ∧
        (final.state = .closed → ∀ later, machine.StaysClosed Python.CentralHandshake.Closed final later)) ∧
    ∀ (ticket : Resumption.Python.Ticket) (now : ℚ) (sid : Block 16) (nc : Block 32)
      (created : Resumption.Python.CentralResume),
      Resumption.Python.CentralResume.create ticket now sid nc = .ok created →
      ∀ calls : List (Resumption.Python.ResumeCall × Bool),
        let machine := Resumption.Python.CentralResume.calls crypto
        let final := machine.run created calls
        (final.state = .appSecure → Resumption.Python.CentralResume.Finished crypto created calls final) ∧
          (machine.Along (machine.RaisesClosed Resumption.Python.CentralResume.Closed) created calls ↔
            machine.Along Resumption.Python.CentralResume.BeginsWell created calls) ∧
          (final.state = .closed →
            ∀ later, machine.StaysClosed Resumption.Python.CentralResume.Closed final later) := by
  refine ⟨fun profile calls ↦ ⟨fun hexposed ↦ ?_, ?_, fun hstate later ↦ ?_⟩,
    fun calls ↦ ⟨fun hexposed ↦ ?_, ?_, fun hstate later ↦ ?_⟩,
    fun ticket now sid nc created hcreate calls ↦ ?resume⟩
  · rcases Machine.climbed_of_run _ Python.FullHandshake.step_rank { profile } calls with hclosed | hclimbed
    · rcases hexposed with hkey | hkey | hsecure
      · exact absurd hclosed.appC2p hkey
      · exact absurd hclosed.appP2c hkey
      · exact nomatch hclosed.state.symm.trans hsecure
    · exact Python.FullHandshake.Climbed.of_exposed hclimbed hexposed
  · exact Machine.along_of_forall _ (fun input _ state ↦
      Machine.raisesClosed_closing Python.FullHandshake.closed_clear state input) _
  · refine Machine.staysClosed_of_step _ (fun _ input h ↦ Python.FullHandshake.closed_step h input) ?_ later
    exact Machine.closed_of_run (Q := (·.state = .closed)) Python.FullHandshake.step_rank
      (show Python.HandshakeState.new ≠ .closed from nofun) (fun state h ↦ by simp only [Python.FullHandshake.rank, h]) calls hstate
  · rcases Machine.climbed_of_run _ Python.CentralHandshake.step_rank {} calls with hclosed | hclimbed
    · rcases hexposed with hkey | hkey | hsecure
      · exact absurd hclosed.appC2p hkey
      · exact absurd hclosed.appP2c hkey
      · exact nomatch hclosed.state.symm.trans hsecure
    · exact Python.CentralHandshake.Climbed.of_exposed hclimbed hexposed
  · exact Machine.along_of_forall _ (fun input _ state ↦
      Machine.raisesClosed_closing Python.CentralHandshake.closed_clear state input) _
  · refine Machine.staysClosed_of_step _ (fun _ input h ↦ Python.CentralHandshake.closed_step h input) ?_ later
    exact Machine.closed_of_run (Q := (·.state = .closed)) Python.CentralHandshake.step_rank
      (show Python.HandshakeState.new ≠ .closed from nofun) (fun state h ↦ by simp only [Python.CentralHandshake.rank, h]) calls hstate
  case resume =>
    have hcreated : created.state = .new ∧ created.Sized := by
      unfold Resumption.Python.CentralResume.create at hcreate
      cases hcheck : ticket.check ticket.profile ticket.peer now with
      | error failure =>
        rw [hcheck] at hcreate
        exact nomatch hcreate
      | ok _ =>
        rw [hcheck] at hcreate
        cases hcreate
        exact ⟨rfl, fun _ ↦ ⟨sid, nc, rfl, rfl⟩⟩
    obtain ⟨hnew, hsized⟩ := hcreated
    refine ⟨fun hsecure ↦ ?_, ?_, fun hstate later ↦ ?_⟩
    · rcases Machine.climbed_of_run _ Resumption.Python.CentralResume.step_rank created calls with
        hclosed | hclimbed
      · exact nomatch hclosed.state.symm.trans hsecure
      · exact Resumption.Python.CentralResume.Climbed.finished hnew hclimbed hsecure
    · exact Machine.along_iff _ (fun state input _ ↦ Resumption.Python.CentralResume.sized_step state input)
        (fun _ input h ↦ Resumption.Python.CentralResume.raisesClosed_iff h input) hsized calls
    · refine Machine.staysClosed_of_step _
        (fun _ input h ↦ Resumption.Python.CentralResume.closed_step h input) ?_ later
      exact Machine.closed_of_run (Q := (·.state = .closed))
        Resumption.Python.CentralResume.step_rank (by rw [hnew]; nofun)
        (fun state h ↦ by simp only [Resumption.Python.CentralResume.rank, h]) calls hstate

/-- Two resumptions share a ticket that has one use left; when the other one has used it, `begin` of this one
raises and leaves the object waiting for an ACCEPT. -/
theorem central_resume_begin_raises_open :
    let ticket : Resumption.Python.Ticket :=
      { profile := Resumption.pqResumeV11, peer := .zero 7, rid := List.replicate 16 1, root := .zero 32
        createdAt := 0, successfulResumes := 99, replay := [], valid := true }
    let created : Resumption.Python.CentralResume :=
      { profile := Resumption.pqResumeV11, state := .new, sessionId := List.replicate 16 2
        nc := List.replicate 32 3, keys := none }
    let machine := Resumption.Python.CentralResume.calls polynomialCrypto
    Resumption.Python.CentralResume.create ticket 1 ⟨List.replicate 16 2, rfl⟩ ⟨List.replicate 32 3, rfl⟩ =
        .ok created ∧
      machine.step created (.begin ticket.used, false) = (none, { created with state := .waitAccept }) ∧
      ¬machine.RaisesClosed Resumption.Python.CentralResume.Closed created (.begin ticket.used, false) := by
  refine ⟨?_, by rfl, fun hraises ↦ ?_⟩
  · have hage : ¬((1 : ℚ) < 0 ∨ Resumption.Python.ttl ≤ roundDouble (1 - 0)) := by
      decide +kernel
    rw [Resumption.Python.CentralResume.create, Resumption.Python.Ticket.check, if_neg nofun, if_neg hage,
      if_neg (by decide), if_neg (by decide)]
    rfl
  exact nomatch (hraises rfl).state

end PqBleHandshake
