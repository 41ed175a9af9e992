import PqBleHandshake.Resumption.Peripheral

/-!
# What a failed call leaves

A call of the Peripheral core that fails wipes the session and the output buffer.  The ticket is another
matter: it survives as it was, unless the eligibility check found its lifetime over or its uses spent, or a
genuine and fresh INIT was already remembered when a later platform call failed.
-/

namespace PqBleHandshake.Resumption

open Foundation

/-- A ticket that the eligibility check wipes: the clock stands outside its lifetime, or its use limit is
reached. -/
def Ticket.Spent (ticket : Ticket) (now : ℤ) : Prop :=
  ticket.valid = true ∧ (¬ticket.Unexpired now ∨ pqResumeMaxUses ≤ ticket.successes)

instance (ticket : Ticket) (now : ℤ) : Decidable (ticket.Spent now) :=
  inferInstanceAs (Decidable (_ ∧ _))

theorem Ticket.checked_eq_or_spent (ticket : Ticket) (now : ℤ) :
    ticket.checked now = ticket ∨ ticket.Spent now ∧ ticket.checked now = Ticket.zero := by
  unfold Ticket.checked
  split_ifs with h
  · refine .inr ⟨⟨h.1, ?_⟩, rfl⟩
    rw [not_and_or, not_lt] at h
    exact h.2
  · exact .inl rfl

/-- The ticket is unchanged, or it was spent and is wiped. -/
def Kept (core : Core) (seen : Observation) (core' : Core) : Prop :=
  core'.ticket = core.ticket ∨ core.ticket.Spent seen.now ∧ core'.ticket = Ticket.zero

/-- An INIT whose id and tag verify under the ticket. -/
def GenuineInit (crypto : Crypto) (ticket : Ticket) (profile : UInt8) (init : Bytes) (sid : Block 16)
    (nc : Block 32) : Prop :=
  init = initFrame crypto profile ticket.root ticket.id sid nc

/-- A genuine INIT that no remembered one shares its nonce or its session id with was appended to the replay
cache of an eligible ticket. -/
structure Remembered (crypto : Crypto) (core : Core) (seen : Observation) (init : Bytes) (core' : Core)
    (sid : Block 16) (nc : Block 32) : Prop where
  eligible : Eligible core.ticket seen
  genuine : GenuineInit crypto core.ticket seen.profile init sid nc
  fresh : ∀ old ∈ core.ticket.replay, old.nonce ≠ nc ∧ old.sid ≠ sid
  ticket_eq : core'.ticket = { core.ticket with replay := core.ticket.replay ++ [⟨nc, sid⟩] }

section Failures

variable {crypto : Crypto} {faults : Faults} {core core' : Core} {seen : Observation} {answer : Answer}

theorem kept_of_checked
    (h : core'.ticket = core.ticket ∨ core'.ticket = core.ticket.checked seen.now) : Kept core seen core' := by
  rcases h with h | h
  · exact .inl h
  · rw [Kept, h]
    exact core.ticket.checked_eq_or_spent seen.now

theorem failed_accept {init : Bytes} {np : Block 32}
    (h : pqResumeAccept crypto faults core seen init np = (answer, core')) (hfail : answer.reason ≠ .ok) :
    Failed 72 answer core' ∧
      (Kept core seen core' ∨ ∃ sid nc, Remembered crypto core seen init core' sid nc) := by
  rcases pqResumeAccept_cases h with ⟨hok, -⟩ | ⟨hfailed, hticket⟩
  · exact absurd hok hfail
  refine ⟨hfailed, ?_⟩
  rcases hticket with h | h | ⟨entry, hgenuine, heligible, hfresh, -, hremembered⟩
  · exact .inl (kept_of_checked (.inl h))
  · exact .inl (kept_of_checked (.inr h))
  · exact .inr ⟨entry.sid, entry.nonce, heligible, hgenuine, hfresh, hremembered⟩

theorem failed_finish {finish : Bytes} (h : pqResumeFinish crypto faults core seen finish = (answer, core'))
    (hfail : answer.reason ≠ .ok) : Failed 40 answer core' ∧ Kept core seen core' := by
  rcases pqResumeFinish_cases h with ⟨hok, -⟩ | ⟨hfailed, hticket⟩
  · exact absurd hok hfail
  · exact ⟨hfailed, kept_of_checked hticket⟩

theorem failed_commit (h : pqResumeCommit core seen = (answer, core')) (hfail : answer.reason ≠ .ok) :
    Failed 0 answer core' ∧ Kept core seen core' := by
  rcases pqResumeCommit_cases h with ⟨hok, -⟩ | ⟨hfailed, hticket⟩
  · exact absurd hok hfail
  · exact ⟨hfailed, kept_of_checked hticket⟩

/-- An INIT from another peer, for another profile, or without a valid id and tag is refused, and changes
a ticket only by the wipe of a spent one. -/
theorem kept_of_not_genuine {init : Bytes} {np : Block 32}
    (h : pqResumeAccept crypto faults core seen init np = (answer, core'))
    (hforged : core.ticket.peer ≠ seen.peer ∨ core.ticket.profile ≠ seen.profile ∨
      ∀ sid nc, ¬GenuineInit crypto core.ticket seen.profile init sid nc) :
    answer.reason ≠ .ok ∧ Kept core seen core' := by
  have hcontra : ∀ {sid nc}, Eligible core.ticket seen →
      ¬GenuineInit crypto core.ticket seen.profile init sid nc := by
    intro sid nc heligible hgenuine
    rcases hforged with hpeer | hprofile | hforged
    · exact hpeer heligible.peer_eq
    · exact hprofile heligible.profile_eq
    · exact hforged sid nc hgenuine
  have hfail : answer.reason ≠ .ok := by
    intro hok
    rcases pqResumeAccept_cases h with ⟨-, sid, nc, haccepted⟩ | ⟨hfailed, -⟩
    · exact hcontra haccepted.eligible haccepted.init_eq
    · exact hfailed.reason_ne hok
  refine ⟨hfail, ?_⟩
  rcases (failed_accept h hfail).2 with hkept | ⟨sid, nc, hremembered⟩
  · exact hkept
  · exact absurd hremembered.genuine (hcontra hremembered.eligible)

end Failures

/-! ## Tickets in use -/

/-- A ticket in use has uses left: the use that reaches the limit wipes it. -/
def Ticket.Unused (ticket : Ticket) : Prop := ticket.valid = true → ticket.successes < pqResumeMaxUses

theorem Ticket.unused_zero : Ticket.zero.Unused := nofun

theorem Ticket.Unused.not_spent {ticket : Ticket} {now : ℤ} (h : ticket.Unused)
    (hlife : ticket.Unexpired now) : ¬ticket.Spent now := by
  rintro ⟨hvalid, hexpired | huses⟩
  · exact hexpired hlife
  · exact huses.not_gt (h hvalid)

theorem Kept.unused {core core' : Core} {seen : Observation} (h : Kept core seen core')
    (hunused : core.ticket.Unused) : core'.ticket.Unused := by
  rcases h with h | ⟨-, h⟩
  · rwa [h]
  · rw [h]
    exact Ticket.unused_zero

theorem unused_step (crypto : Crypto) {core : Core} (h : core.ticket.Unused) (call : Call) :
    ((peripheral crypto).step core call).2.ticket.Unused := by
  cases call with
  | accept faults seen init np =>
    obtain ⟨⟨answer, core'⟩, hresult⟩ :
        ∃ result, pqResumeAccept crypto faults core seen init np = result := ⟨_, rfl⟩
    simp only [peripheral, hresult]
    rcases pqResumeAccept_cases hresult with ⟨-, sid, nc, haccepted⟩ | ⟨hfailed, -⟩
    · rw [haccepted.ticket_eq]
      exact h
    rcases (failed_accept hresult hfailed.reason_ne).2 with hkept | ⟨sid, nc, hremembered⟩
    · exact hkept.unused h
    · rw [hremembered.ticket_eq]
      exact h
  | finish faults seen finish =>
    obtain ⟨⟨answer, core'⟩, hresult⟩ :
        ∃ result, pqResumeFinish crypto faults core seen finish = result := ⟨_, rfl⟩
    simp only [peripheral, hresult]
    rcases pqResumeFinish_cases hresult with ⟨-, hfinished⟩ | ⟨hfailed, -⟩
    · rw [hfinished.core_eq]
      exact h
    · exact (failed_finish hresult hfailed.reason_ne).2.unused h
  | commit seen =>
    obtain ⟨⟨answer, core'⟩, hresult⟩ : ∃ result, pqResumeCommit core seen = result := ⟨_, rfl⟩
    simp only [peripheral, hresult]
    rcases pqResumeCommit_cases hresult with ⟨-, hcommitted⟩ | ⟨hfailed, -⟩
    · rw [hcommitted.ticket_eq, Ticket.use]
      split_ifs with hlast
      · exact Ticket.unused_zero
      · exact fun _ ↦ not_le.mp hlast
    · exact (failed_commit hresult hfailed.reason_ne).2.unused h
  | disconnect => exact h

/-- **Error atomicity.**  A failed call leaves a zero session and a zero output buffer.  The ticket is
unchanged, or it was spent and is wiped, or it remembers a genuine and fresh INIT; a message that is not a
genuine INIT of the ticket's peer and profile changes no ticket that is not spent, so in no run does it
change an unexpired one. -/
theorem error_atomicity (crypto : Crypto) (faults : Faults) (core : Core) (seen : Observation) :
    (∀ init np answer core', pqResumeAccept crypto faults core seen init np = (answer, core') →
      (answer.reason ≠ .ok →
        core'.session = Session.zero ∧ answer.wire = List.replicate 72 0 ∧
          (core'.ticket = core.ticket ∨
            (core.ticket.Spent seen.now ∧ core'.ticket = Ticket.zero) ∨
            ∃ sid nc, Remembered crypto core seen init core' sid nc)) ∧
      ((core.ticket.peer ≠ seen.peer ∨ core.ticket.profile ≠ seen.profile ∨
          ∀ sid nc, ¬GenuineInit crypto core.ticket seen.profile init sid nc) →
        answer.reason ≠ .ok ∧ (¬core.ticket.Spent seen.now → core'.ticket = core.ticket) ∧
          ∀ calls start, Ticket.Unused start.ticket → core = (peripheral crypto).run start calls →
            core.ticket.Unexpired seen.now → core'.ticket = core.ticket)) ∧
    (∀ finish answer core', pqResumeFinish crypto faults core seen finish = (answer, core') →
      answer.reason ≠ .ok →
        core'.session = Session.zero ∧ answer.wire = List.replicate 40 0 ∧
          (core'.ticket = core.ticket ∨ core.ticket.Spent seen.now ∧ core'.ticket = Ticket.zero)) ∧
    (∀ answer core', pqResumeCommit core seen = (answer, core') → answer.reason ≠ .ok →
      core'.session = Session.zero ∧
        (core'.ticket = core.ticket ∨ core.ticket.Spent seen.now ∧ core'.ticket = Ticket.zero)) := by
  refine ⟨fun init np answer core' h ↦ ⟨fun hfail ↦ ?_, fun hforged ↦ ?_⟩,
    fun finish answer core' h hfail ↦ ?_, fun answer core' h hfail ↦ ?_⟩
  · obtain ⟨hfailed, hticket⟩ := failed_accept h hfail
    exact ⟨hfailed.session_eq, hfailed.wire_eq, or_assoc.mp hticket⟩
  · obtain ⟨hfail, hkept⟩ := kept_of_not_genuine h hforged
    have hlive : ¬core.ticket.Spent seen.now → core'.ticket = core.ticket :=
      fun hlive ↦ hkept.resolve_right fun hwiped ↦ hlive hwiped.1
    refine ⟨hfail, hlive, fun calls start hstart hrun hlife ↦ hlive ?_⟩
    have hunused : ((peripheral crypto).run start calls).ticket.Unused :=
      (peripheral crypto).run_invariant (P := fun current ↦ current.ticket.Unused)
        (fun _ call hunused ↦ unused_step crypto hunused call) hstart calls
    rw [← hrun] at hunused
    exact hunused.not_spent hlife
  · obtain ⟨hfailed, hkept⟩ := failed_finish h hfail
    exact ⟨hfailed.session_eq, hfailed.wire_eq, hkept⟩
  · obtain ⟨hfailed, hkept⟩ := failed_commit h hfail
    exact ⟨hfailed.session_eq, hkept⟩

end PqBleHandshake.Resumption
