import Mathlib.Tactic

/-!
# Numbered requests and their answers

Under a session key one party accepts numbered requests and answers each with the next number of its own.
A book records every answer with the key and the numbers that it carries, whatever the party's own counters
say, and every reply that goes out.  Events that the book admits keep it sound, so the two numberings go on
together and no number goes out twice under one key.
-/

namespace PqBleHandshake.Foundation

variable {κ ρ : Type*}

/-- The numbers of a session: its key, the last one accepted and the next one to send. -/
structure Numbering (κ : Type*) where
  key : κ
  received : Option ℕ
  nextSend : ℕ
deriving DecidableEq

/-- No request was accepted yet. -/
def Numbering.fresh (key : κ) : Numbering κ := ⟨key, none, 0⟩

/-- A request that was answered, in the session with that serial number. -/
structure Answered (κ ρ : Type*) where
  session : ℕ
  key : κ
  accepted : ℕ
  sent : ℕ
  reply : ρ

/-- What happens to a session; an answer comes with the key and the numbers that were used for it. -/
inductive AnswerEvent (κ ρ : Type*)
  | closed
  | began (key : κ)
  | answered (key : κ) (accepted sent : ℕ) (reply : ρ)
  | delivered (reply : ρ)

/-- The book of all sessions: the current one, how many have begun, the answers with the newest first,
whether the newest one has yet to go out, and the replies that went out. -/
structure AnswerBook (κ ρ : Type*) where
  current : Option (Numbering κ)
  begun : ℕ
  answers : List (Answered κ ρ)
  held : Bool
  delivered : List ρ

namespace AnswerBook

/-- Nothing has happened. -/
def empty : AnswerBook κ ρ := ⟨none, 0, [], false, []⟩

/-- The answers of the current session. -/
def count (book : AnswerBook κ ρ) : ℕ :=
  (book.answers.filter fun answer ↦ answer.session = book.begun).length

/-- The book after an event. -/
def record (book : AnswerBook κ ρ) : AnswerEvent κ ρ → AnswerBook κ ρ
  | .closed => { book with current := none }
  | .began key => { book with current := some (.fresh key), begun := book.begun + 1 }
  | .answered key accepted sent reply =>
    { book with
      current := some ⟨key, some accepted, sent + 1⟩
      answers := ⟨book.begun, key, accepted, sent, reply⟩ :: book.answers
      held := true }
  | .delivered reply => { book with held := false, delivered := reply :: book.delivered }

/-- The book after a sequence of events. -/
def recordAll (book : AnswerBook κ ρ) (events : List (AnswerEvent κ ρ)) : AnswerBook κ ρ :=
  events.foldl record book

/-- The events that may happen: an answer to a newer request, with the key and the next number of the current
session, and one delivery of the newest answer. -/
def Admits (book : AnswerBook κ ρ) : AnswerEvent κ ρ → Prop
  | .answered key accepted sent _ => ∃ session, book.current = some session ∧
    key = session.key ∧ sent = session.nextSend ∧ ∀ seq ∈ session.received, seq < accepted
  | .delivered reply => book.held = true ∧ book.answers.head?.map Answered.reply = some reply
  | _ => True

/-- A later answer of the same session has the same key and larger numbers. -/
structure Follows (later earlier : Answered κ ρ) : Prop where
  session : earlier.session ≤ later.session
  key : later.session = earlier.session → later.key = earlier.key
  accepted : later.session = earlier.session → earlier.accepted < later.accepted
  sent : later.session = earlier.session → earlier.sent < later.sent

/-- An answer of the current session is behind its numbers. -/
structure Behind (session : Numbering κ) (answer : Answered κ ρ) : Prop where
  key : answer.key = session.key
  accepted : ∃ seq ∈ session.received, answer.accepted ≤ seq
  sent : answer.sent < session.nextSend

/-- What holds of a book. -/
structure Sound (book : AnswerBook κ ρ) : Prop where
  counted : ∀ session ∈ book.current, book.count = session.nextSend
  bounded : ∀ session ∈ book.current, session.nextSend ≤ session.received.elim 0 (· + 1)
  earlier : ∀ answer ∈ book.answers, answer.session ≤ book.begun
  behind : ∀ session ∈ book.current, ∀ answer ∈ book.answers, answer.session = book.begun →
    Behind session answer
  ordered : book.answers.Pairwise Follows
  delivered : book.delivered.Sublist
    ((if book.held then book.answers.tail else book.answers).map Answered.reply)

variable {book : AnswerBook κ ρ} {key : κ} {accepted sent : ℕ} {reply : ρ}

@[simp]
theorem recordAll_nil (book : AnswerBook κ ρ) : book.recordAll [] = book := rfl

@[simp]
theorem recordAll_singleton (book : AnswerBook κ ρ) (event : AnswerEvent κ ρ) :
    book.recordAll [event] = book.record event := rfl

theorem Sound.closed (h : book.Sound) : (book.record .closed).Sound where
  counted := nofun
  bounded := nofun
  earlier := h.earlier
  behind := nofun
  ordered := h.ordered
  delivered := h.delivered

/-- A new session has no answers. -/
theorem Sound.began (h : book.Sound) (key : κ) : (book.record (.began key)).Sound where
  counted := by
    rintro _ ⟨⟩
    refine List.length_eq_zero_iff.mpr (List.filter_eq_nil_iff.mpr fun answer hanswer ↦ ?_)
    have hearlier := h.earlier answer hanswer
    have hbegun : (book.record (.began key)).begun = book.begun + 1 := rfl
    rw [decide_eq_true_eq, hbegun]
    omega
  bounded := by
    rintro _ ⟨⟩
    exact le_rfl
  earlier answer hanswer := (h.earlier answer hanswer).trans (Nat.le_succ _)
  behind := by
    rintro _ ⟨⟩ answer hanswer hsession
    have hearlier := h.earlier answer hanswer
    have hbegun : answer.session = book.begun + 1 := hsession
    omega
  ordered := h.ordered
  delivered := h.delivered

/-- Only answers go out, each of them once. -/
theorem Sound.delivered_sublist (h : book.Sound) :
    book.delivered.Sublist (book.answers.map Answered.reply) := by
  refine h.delivered.trans (List.Sublist.map _ ?_)
  split
  · exact List.tail_sublist _
  · exact List.Sublist.refl _

/-- The answer to a newer request takes the next number. -/
theorem Sound.answered (h : book.Sound) (hadmits : book.Admits (.answered key accepted sent reply)) :
    (book.record (.answered key accepted sent reply)).Sound := by
  obtain ⟨session, hcurrent, rfl, rfl, hnewer⟩ := hadmits
  refine ⟨?_, ?_, ?_, ?_, ?_, h.delivered_sublist⟩
  · rintro _ ⟨⟩
    have hcounted := h.counted session hcurrent
    simp only [count, record, List.filter_cons, decide_true, if_true, List.length_cons] at hcounted ⊢
    exact congrArg (· + 1) hcounted
  · rintro _ ⟨⟩
    have hbounded := h.bounded session hcurrent
    cases hreceived : session.received with
    | none =>
      rw [hreceived] at hbounded
      exact Nat.succ_le_succ (hbounded.trans (Nat.zero_le _))
    | some seq =>
      rw [hreceived] at hbounded
      exact Nat.succ_le_succ (hbounded.trans (hnewer seq hreceived))
  · intro answer hanswer
    rcases List.mem_cons.mp hanswer with rfl | hbefore
    · exact le_rfl
    · exact h.earlier answer hbefore
  · rintro _ ⟨⟩ answer hanswer hsession
    rcases List.mem_cons.mp hanswer with rfl | hbefore
    · exact ⟨rfl, ⟨accepted, rfl, le_rfl⟩, Nat.lt_succ_self _⟩
    · obtain ⟨hkey, ⟨seq, hseq, hle⟩, hsent⟩ := h.behind session hcurrent answer hbefore hsession
      exact ⟨hkey, ⟨accepted, rfl, hle.trans (hnewer seq hseq).le⟩, hsent.trans (Nat.lt_succ_self _)⟩
  · refine List.pairwise_cons.mpr ⟨fun answer hanswer ↦ ?_, h.ordered⟩
    have hbehind : book.begun = answer.session → Behind session answer := fun hsession ↦
      h.behind session hcurrent answer hanswer hsession.symm
    refine ⟨h.earlier answer hanswer, fun hsession ↦ (hbehind hsession).key.symm, fun hsession ↦ ?_,
      fun hsession ↦ (hbehind hsession).sent⟩
    obtain ⟨seq, hseq, hle⟩ := (hbehind hsession).accepted
    exact hle.trans_lt (hnewer seq hseq)

/-- The newest answer goes out once. -/
theorem Sound.deliver (h : book.Sound) (hadmits : book.Admits (.delivered reply)) :
    (book.record (.delivered reply)).Sound := by
  obtain ⟨hheld, hnewest⟩ := hadmits
  refine ⟨h.counted, h.bounded, h.earlier, h.behind, h.ordered, ?_⟩
  have hdelivered := h.delivered
  rw [if_pos hheld] at hdelivered
  change (reply :: book.delivered).Sublist (book.answers.map Answered.reply)
  cases hanswers : book.answers with
  | nil =>
    rw [hanswers] at hnewest
    cases hnewest
  | cons answer rest =>
    rw [hanswers] at hdelivered hnewest
    obtain rfl : answer.reply = reply := Option.some.inj hnewest
    exact hdelivered.cons_cons answer.reply

/-- **What the book admits keeps it sound.** -/
theorem Sound.record (h : book.Sound) {event : AnswerEvent κ ρ} (hadmits : book.Admits event) :
    (book.record event).Sound := by
  cases event with
  | closed => exact h.closed
  | began key => exact h.began key
  | answered key accepted sent reply => exact h.answered hadmits
  | delivered reply => exact h.deliver hadmits

end AnswerBook

end PqBleHandshake.Foundation
