import PqBleHandshake.Resumption.Peripheral

/-!
# The lifetime of one ticket

Runs of the Peripheral core from the moment `pq_resume_issue` put a ticket in place.  Every call has
its own clock reading and its own observation of the link, and any platform call may fail.  A
`Lifetime` adds to the core the history that the policy speaks about: the INITs that were accepted
and the commits that succeeded.

One invariant, `Lifetime.Inv`, carries both results.  `accept` appends to the replay cache and
`commit` counts uses; each of them keeps the ticket as issued apart from its own field, and a wiped
ticket never comes back within a run.
-/

namespace PqBleHandshake.Resumption

open Foundation

/-- The nonce and the session id that an INIT carries. -/
def initEntry (init : Bytes) : ReplayEntry where
  nonce := .slice init 40 32
  sid := .slice init 24 16

@[simp]
theorem initEntry_initFrame (crypto : Crypto) (profile : UInt8) (root : Block 32)
    (rid sid : Block 16) (nc : Block 32) :
    initEntry (initFrame crypto profile root rid sid nc) = ⟨nc, sid⟩ := by
  have hfields := initPayload_fields rid sid nc (crypto.mac root (initMessage profile rid sid nc))
  simp only [initEntry, initFrame, slice_frame _ _ _ 32, slice_frame _ _ _ 16, hfields]

/-- A handshake attempt: when its INIT was accepted and the keys derived from it. -/
structure Attempt where
  start : ℤ
  keys : Keys

/-- A successful commit: its clock reading and when its attempt started. -/
structure CommitRecord where
  now : ℤ
  start : ℤ

/-- The core, the attempt its session belongs to, and what has happened so far. -/
structure Lifetime where
  core : Core
  attempt : Attempt
  accepted : List ReplayEntry
  commits : List CommitRecord

/-- The start of a lifetime: the issued ticket and whatever session there is. -/
def Lifetime.start (ticket : Ticket) (session : Session) : Lifetime where
  core := { ticket, session }
  attempt := { start := session.deadlineMs - 30000, keys := session.keys }
  accepted := []
  commits := []

/-- Extend the history by one call and its answer. -/
def Lifetime.record (crypto : Crypto) (life : Lifetime) (call : Call) (answer : Answer)
    (core : Core) : Lifetime :=
  match call with
  | .accept _ seen init np =>
    if answer.reason = .ok then
      { life with
        core
        attempt :=
          { start := seen.now
            keys := life.core.ticket.keys crypto (initEntry init).sid (initEntry init).nonce np }
        accepted := life.accepted ++ [initEntry init] }
    else { life with core }
  | .commit seen =>
    if answer.reason = .ok then
      { life with core, commits := life.commits ++ [{ now := seen.now, start := life.attempt.start }] }
    else { life with core }
  | .finish .. => { life with core }
  | .disconnect => { life with core }

/-- Runs of the core with their history. -/
def lifetime (crypto : Crypto) : Machine Lifetime Call Answer where
  step life call :=
    let result := (peripheral crypto).step life.core call
    (result.1, life.record crypto call result.1 result.2)

/-- Two entries that neither share a nonce nor a session id. -/
def ReplayEntry.Apart (x y : ReplayEntry) : Prop := x.nonce ≠ y.nonce ∧ x.sid ≠ y.sid

/-- The invariant of a ticket's lifetime. -/
structure Lifetime.Inv (issued : Ticket) (life : Lifetime) : Prop where
  /-- A valid ticket is the issued one up to its counter and its cache. -/
  valid_eq : life.core.ticket.valid = true →
    life.core.ticket = { issued with
      successes := life.commits.length, replay := life.core.ticket.replay }
  wiped_eq : life.core.ticket.valid = false → life.core.ticket = Ticket.zero
  unused : life.core.ticket.valid = true → life.commits.length < pqResumeMaxUses
  commits_le : life.commits.length ≤ pqResumeMaxUses
  remembered : life.core.ticket.valid = true → life.accepted ⊆ life.core.ticket.replay
  accepted_apart : life.accepted.Pairwise ReplayEntry.Apart
  replay_apart : life.core.ticket.replay.Pairwise ReplayEntry.Apart
  replay_le : life.core.ticket.replay.length ≤ pqResumeReplayCapacity
  commits_intime : ∀ commit ∈ life.commits,
    commit.now < issued.createdMs + pqResumeTtlMs ∧ commit.now < commit.start + 30000
  /-- A session that can still be committed belongs to the recorded attempt. -/
  attempt_eq : life.core.session.state = .waitC ∨ life.core.session.state = .pendingP →
    life.core.session.deadlineMs = life.attempt.start + 30000 ∧
      life.core.session.keys = life.attempt.keys

namespace Lifetime

variable {crypto : Crypto} {issued : Ticket} {life : Lifetime}

theorem Inv.start (hissued : issued.valid = true) (huses : issued.successes = 0)
    (hreplay : issued.replay = []) (session : Session) :
    Inv issued (Lifetime.start issued session) where
  valid_eq _ := by simp [Lifetime.start, ← huses]
  wiped_eq h := by simp [Lifetime.start, hissued] at h
  unused _ := by simp [Lifetime.start, pqResumeMaxUses]
  commits_le := by simp [Lifetime.start]
  remembered _ := by simp [Lifetime.start]
  accepted_apart := by simp [Lifetime.start]
  replay_apart := by simp [Lifetime.start, hreplay]
  replay_le := by simp [Lifetime.start, hreplay]
  commits_intime := by simp [Lifetime.start]
  attempt_eq _ := by simp [Lifetime.start]

/-- A fresh entry keeps a cache pairwise apart. -/
theorem apart_append {replay : List ReplayEntry} {entry : ReplayEntry}
    (h : replay.Pairwise ReplayEntry.Apart)
    (hfresh : ∀ old ∈ replay, old.nonce ≠ entry.nonce ∧ old.sid ≠ entry.sid) :
    (replay ++ [entry]).Pairwise ReplayEntry.Apart := by
  rw [List.pairwise_append]
  refine ⟨h, List.pairwise_singleton _ _, ?_⟩
  intro old hold entry' hentry'
  rw [List.mem_singleton.mp hentry']
  exact hfresh old hold

/-- Wiping the ticket keeps the invariant, whatever happens to the session. -/
theorem Inv.wipe (hinv : Inv issued life) {session : Session} (hsession : session = Session.zero) :
    Inv issued { life with core := { ticket := Ticket.zero, session } } where
  valid_eq h := by simp [Ticket.zero] at h
  wiped_eq _ := rfl
  unused h := by simp [Ticket.zero] at h
  commits_le := hinv.commits_le
  remembered h := by simp [Ticket.zero] at h
  accepted_apart := hinv.accepted_apart
  replay_apart := List.Pairwise.nil
  replay_le := by simp [Ticket.zero]
  commits_intime := hinv.commits_intime
  attempt_eq h := by simp [hsession, Session.zero] at h

/-- Replacing the session alone keeps the invariant if the new one still belongs to the attempt. -/
theorem Inv.withSession (hinv : Inv issued life) {session : Session}
    (hsession : session.state = .waitC ∨ session.state = .pendingP →
      session.deadlineMs = life.attempt.start + 30000 ∧ session.keys = life.attempt.keys) :
    Inv issued { life with core := { life.core with session } } :=
  { hinv with attempt_eq := hsession }

theorem Inv.withZeroSession (hinv : Inv issued life) :
    Inv issued { life with core := { life.core with session := Session.zero } } :=
  hinv.withSession (by simp [Session.zero])

/-- An appended entry keeps the invariant of everything but the accepted list. -/
theorem Inv.remember (hinv : Inv issued life) (entry : ReplayEntry)
    (hvalid : life.core.ticket.valid = true)
    (hfresh : ∀ old ∈ life.core.ticket.replay, old.nonce ≠ entry.nonce ∧ old.sid ≠ entry.sid)
    (hroom : life.core.ticket.replay.length < pqResumeReplayCapacity) :
    Inv issued { life with
      core := { ticket := life.core.ticket.remember entry, session := Session.zero } } where
  valid_eq _ := by
    have heq := hinv.valid_eq hvalid
    rw [Ticket.ext_iff] at heq ⊢
    simpa [Ticket.remember] using heq
  wiped_eq h := by simp [Ticket.remember, hvalid] at h
  unused _ := hinv.unused hvalid
  commits_le := hinv.commits_le
  remembered _ := List.Subset.trans (hinv.remembered hvalid) (List.subset_append_left _ _)
  accepted_apart := hinv.accepted_apart
  replay_apart := apart_append hinv.replay_apart hfresh
  replay_le := by
    rw [Ticket.remember, List.length_append]
    simpa using hroom
  commits_intime := hinv.commits_intime
  attempt_eq h := by simp [Session.zero] at h

/-- A commit counts one use, or wipes the ticket with its last one. -/
theorem Inv.commit (hinv : Inv issued life) {seen : Observation} {core' : Core}
    (hcom : Committed life.core seen core') :
    Inv issued { life with
      core := core'
      commits := life.commits ++ [{ now := seen.now, start := life.attempt.start }] } := by
  have hvalid := hcom.eligible.valid
  have heq := hinv.valid_eq hvalid
  have hcount : life.core.ticket.successes = life.commits.length := by
    simpa using congrArg Ticket.successes heq
  have hunused := hinv.unused hvalid
  have hintime : ∀ commit ∈ life.commits ++ [{ now := seen.now, start := life.attempt.start }],
      commit.now < issued.createdMs + pqResumeTtlMs ∧ commit.now < commit.start + 30000 := by
    intro commit hmem
    rcases List.mem_append.mp hmem with hold | hnew
    · exact hinv.commits_intime commit hold
    · rw [List.mem_singleton.mp hnew]
      have hcreated : life.core.ticket.createdMs = issued.createdMs := by
        simpa using congrArg Ticket.createdMs heq
      have hlife := hcom.eligible.unexpired.2
      have hdeadline := hcom.intime
      rw [hcreated] at hlife
      rw [(hinv.attempt_eq (.inr hcom.pending)).1] at hdeadline
      exact ⟨hlife, hdeadline⟩
  obtain ⟨ticket, session⟩ := core'
  obtain rfl : ticket = _ := hcom.ticket_eq
  obtain rfl : session = _ := hcom.session_eq
  by_cases hlast : pqResumeMaxUses ≤ life.core.ticket.successes + 1
  · have huse : life.core.ticket.use = Ticket.zero := if_pos hlast
    rw [huse]
    exact {
      valid_eq := fun h ↦ by simp [Ticket.zero] at h
      wiped_eq := fun _ ↦ rfl
      unused := fun h ↦ by simp [Ticket.zero] at h
      commits_le := by simpa using hunused
      remembered := fun h ↦ by simp [Ticket.zero] at h
      accepted_apart := hinv.accepted_apart
      replay_apart := List.Pairwise.nil
      replay_le := by simp [Ticket.zero]
      commits_intime := hintime
      attempt_eq := by simp }
  · have huse : life.core.ticket.use =
        { life.core.ticket with successes := life.core.ticket.successes + 1 } := if_neg hlast
    rw [huse]
    exact {
      valid_eq := fun _ ↦ by
        rw [Ticket.ext_iff] at heq ⊢
        simpa [hcount] using heq
      wiped_eq := fun h ↦ by simp [hvalid] at h
      unused := fun _ ↦ by simp; omega
      commits_le := by simpa using hunused
      remembered := fun _ ↦ hinv.remembered hvalid
      accepted_apart := hinv.accepted_apart
      replay_apart := hinv.replay_apart
      replay_le := hinv.replay_le
      commits_intime := hintime
      attempt_eq := by simp }

/-- What a failed call does to the ticket keeps the invariant. -/
theorem Inv.fail (hinv : Inv issued life) {size : ℕ} {answer : Answer} {core' : Core} (now : ℤ)
    (hfailed : Failed size answer core')
    (hticket : core'.ticket = life.core.ticket ∨ core'.ticket = life.core.ticket.checked now) :
    Inv issued { life with core := core' } := by
  obtain ⟨ticket, session⟩ := core'
  obtain rfl : session = Session.zero := hfailed.session_eq
  have hcases : ticket = life.core.ticket ∨ ticket = Ticket.zero := by
    rcases hticket with h | h
    · exact .inl h
    · exact (life.core.ticket.checked_eq_or now).imp h.trans h.trans
  rcases hcases with rfl | rfl
  · exact hinv.withZeroSession
  · exact hinv.wipe rfl

/-- **Step lemma.** Every call keeps the invariant. -/
theorem Inv.step (hinv : Inv issued life) (call : Call) :
    Inv issued ((lifetime crypto).step life call).2 := by
  cases call with
  | accept faults seen init np =>
    obtain ⟨⟨answer, core'⟩, hresult⟩ :
        ∃ result, pqResumeAccept crypto faults life.core seen init np = result := ⟨_, rfl⟩
    simp only [lifetime, peripheral, record, hresult]
    rcases pqResumeAccept_cases hresult with ⟨hok, sid, nc, hacc⟩ | ⟨hfailed, hticket⟩
    · rw [if_pos hok, hacc.init_eq, initEntry_initFrame]
      have hvalid := hacc.eligible.valid
      have hremember := hinv.remember ⟨nc, sid⟩ hvalid hacc.fresh hacc.room
      obtain ⟨ticket, session⟩ := core'
      obtain rfl : ticket = _ := hacc.ticket_eq
      exact { hremember with
        remembered := fun _ ↦ List.append_subset.mpr
          ⟨hremember.remembered hvalid, by simp [Ticket.remember]⟩
        accepted_apart := apart_append hinv.accepted_apart
          fun old hold ↦ hacc.fresh old (hinv.remembered hvalid hold)
        attempt_eq := fun _ ↦ by rw [hacc.session_eq]; exact ⟨rfl, rfl⟩ }
    · rw [if_neg hfailed.reason_ne]
      rcases hticket with h | h | ⟨entry, -, helig, hfresh, hroom, h⟩
      · exact hinv.fail seen.now hfailed (.inl h)
      · exact hinv.fail seen.now hfailed (.inr h)
      · obtain ⟨ticket, session⟩ := core'
        obtain rfl : session = Session.zero := hfailed.session_eq
        obtain rfl : ticket = _ := h
        exact hinv.remember entry helig.valid hfresh hroom
  | finish faults seen finish =>
    obtain ⟨⟨answer, core'⟩, hresult⟩ :
        ∃ result, pqResumeFinish crypto faults life.core seen finish = result := ⟨_, rfl⟩
    simp only [lifetime, peripheral, record, hresult]
    rcases pqResumeFinish_cases hresult with ⟨-, hfin⟩ | ⟨hfailed, hticket⟩
    · rw [hfin.core_eq]
      exact hinv.withSession fun _ ↦ hinv.attempt_eq (.inl hfin.waiting)
    · exact hinv.fail seen.now hfailed hticket
  | commit seen =>
    obtain ⟨⟨answer, core'⟩, hresult⟩ :
        ∃ result, pqResumeCommit life.core seen = result := ⟨_, rfl⟩
    simp only [lifetime, peripheral, record, hresult]
    rcases pqResumeCommit_cases hresult with ⟨hok, hcom⟩ | ⟨hfailed, hticket⟩
    · rw [if_pos hok]
      exact hinv.commit hcom
    · rw [if_neg hfailed.reason_ne]
      exact hinv.fail seen.now hfailed hticket
  | disconnect => exact hinv.withZeroSession

/-- **Run lemma.** The invariant holds after every sequence of calls. -/
theorem Inv.run (hinv : Inv issued life) (calls : List Call) :
    Inv issued ((lifetime crypto).run life calls) :=
  (lifetime crypto).run_invariant (fun _ call h ↦ h.step call) hinv calls

/-- Once the ticket is wiped no call accepts an INIT or commits. -/
theorem frozen_of_wiped (crypto : Crypto) (calls : List Call)
    (hwiped : life.core.ticket = Ticket.zero) :
    ((lifetime crypto).run life calls).core.ticket = Ticket.zero ∧
      ((lifetime crypto).run life calls).accepted = life.accepted ∧
      ((lifetime crypto).run life calls).commits = life.commits := by
  refine (lifetime crypto).run_invariant (P := fun state ↦ state.core.ticket = Ticket.zero ∧
    state.accepted = life.accepted ∧ state.commits = life.commits) ?_ ⟨hwiped, rfl, rfl⟩ calls
  rintro state call ⟨hticket, haccepted, hcommits⟩
  have hchecked : ∀ now, state.core.ticket.checked now = Ticket.zero := by
    intro now
    rw [hticket]
    rfl
  have hineligible : ∀ seen, ¬Eligible state.core.ticket seen := by
    intro seen helig
    have hvalid := helig.valid
    rw [hticket] at hvalid
    cases hvalid
  cases call with
  | accept faults seen init np =>
    obtain ⟨⟨answer, core'⟩, hresult⟩ :
        ∃ result, pqResumeAccept crypto faults state.core seen init np = result := ⟨_, rfl⟩
    simp only [lifetime, peripheral, record, hresult]
    rcases pqResumeAccept_cases hresult with ⟨-, _, _, hacc⟩ | ⟨hfailed, h⟩
    · exact absurd hacc.eligible (hineligible seen)
    · rw [if_neg hfailed.reason_ne]
      rcases h with h | h | ⟨_, -, helig, -⟩
      · exact ⟨h.trans hticket, haccepted, hcommits⟩
      · exact ⟨h.trans (hchecked _), haccepted, hcommits⟩
      · exact absurd helig (hineligible seen)
  | finish faults seen finish =>
    obtain ⟨⟨answer, core'⟩, hresult⟩ :
        ∃ result, pqResumeFinish crypto faults state.core seen finish = result := ⟨_, rfl⟩
    simp only [lifetime, peripheral, record, hresult]
    rcases pqResumeFinish_cases hresult with ⟨-, hfin⟩ | ⟨-, h⟩
    · exact absurd hfin.eligible (hineligible seen)
    · exact ⟨h.elim (·.trans hticket) (·.trans (hchecked _)), haccepted, hcommits⟩
  | commit seen =>
    obtain ⟨⟨answer, core'⟩, hresult⟩ :
        ∃ result, pqResumeCommit state.core seen = result := ⟨_, rfl⟩
    simp only [lifetime, peripheral, record, hresult]
    rcases pqResumeCommit_cases hresult with ⟨-, hcom⟩ | ⟨hfailed, h⟩
    · exact absurd hcom.eligible (hineligible seen)
    · rw [if_neg hfailed.reason_ne]
      exact ⟨h.elim (·.trans hticket) (·.trans (hchecked _)), haccepted, hcommits⟩
  | disconnect => exact ⟨hticket, haccepted, hcommits⟩

/-- With all uses spent the ticket is gone. -/
theorem Inv.wiped_of_maxed (hinv : Inv issued life)
    (hmaxed : life.commits.length = pqResumeMaxUses) : life.core.ticket = Ticket.zero := by
  apply hinv.wiped_eq
  by_contra hvalid
  have := hinv.unused (by simpa using hvalid)
  omega

end Lifetime

/-- A ticket as `pq_resume_issue` leaves it. -/
theorem pqResumeIssue_eq_some {crypto : Crypto} {faults : Faults} {profile : UInt8}
    {root th : Block 32} {peer : Block 7} {now : ℤ} {authenticated : Bool} {ticket : Ticket}
    (h : pqResumeIssue crypto faults profile root th peer now authenticated = some ticket) :
    ticket.valid = true ∧ ticket.successes = 0 ∧ ticket.replay = [] ∧ ticket.createdMs = now ∧
      ticket.root = root ∧ ticket.profile = profile := by
  unfold pqResumeIssue at h
  split_ifs at h
  obtain ⟨id, -, rfl⟩ := Option.map_eq_some_iff.mp h
  exact ⟨rfl, rfl, rfl, rfl, rfl, rfl⟩

/-- Issuing for a known profile succeeds when no platform call fails. -/
theorem exists_pqResumeIssue (crypto : Crypto) {profile : UInt8} (h : KnownProfile profile)
    (root th : Block 32) (peer : Block 7) {now : ℤ} (hnow : 0 ≤ now) :
    ∃ ticket, pqResumeIssue crypto {} profile root th peer now true = some ticket := by
  have hlength := length_domainName h
  have hsuffix : (ascii "/RESUME-ID").length = 10 := by decide
  have hlabel : (domainName profile ++ ascii "/RESUME-ID").length ≤ 63 := by
    rw [List.length_append]
    omega
  simp only [pqResumeIssue, pqResumeId, label_eq_some h (hsuffix.trans_lt (by omega)),
    Option.bind_eq_bind, Option.bind_some, pqV1Cp3VerifyData_ok hlabel]
  rw [if_neg (by simpa using hnow)]
  exact ⟨_, rfl⟩

/-- **Replay freshness of one ticket.**  Whatever calls follow the issue of a ticket, no two accepted
INITs share a nonce or a session id, the cache entries are apart and fit the capacity, a valid
ticket remembers every INIT it accepted, and a full cache refuses every further INIT within the
ticket's lifetime without touching the ticket. -/
theorem replay_freshness {crypto : Crypto} {faults : Faults} {profile : UInt8}
    {root th : Block 32} {peer : Block 7} {now : ℤ} {authenticated : Bool} {ticket : Ticket}
    (hissue : pqResumeIssue crypto faults profile root th peer now authenticated = some ticket)
    (session : Session) (calls : List Call) :
    let life := (lifetime crypto).run (Lifetime.start ticket session) calls
    (life.accepted.map ReplayEntry.nonce).Nodup ∧ (life.accepted.map ReplayEntry.sid).Nodup ∧
      life.core.ticket.replay.Pairwise ReplayEntry.Apart ∧
      life.core.ticket.replay.length ≤ pqResumeReplayCapacity ∧
      (life.core.ticket.valid = true → ∀ entry ∈ life.accepted, entry ∈ life.core.ticket.replay) ∧
      (life.core.ticket.replay.length = pqResumeReplayCapacity →
        ∀ (faults : Faults) (seen : Observation) (init : Bytes) (np : Block 32),
          life.core.ticket.Unexpired seen.now →
          (pqResumeAccept crypto faults life.core seen init np).1.reason ≠ .ok ∧
            (pqResumeAccept crypto faults life.core seen init np).2.ticket = life.core.ticket) := by
  intro life
  obtain ⟨hvalid, huses, hreplay, -⟩ := pqResumeIssue_eq_some hissue
  have hinv : Lifetime.Inv ticket life := (Lifetime.Inv.start hvalid huses hreplay session).run calls
  refine ⟨?_, ?_, hinv.replay_apart, hinv.replay_le, fun h entry hmem ↦ hinv.remembered h hmem, ?_⟩
  · exact List.pairwise_map.mpr (hinv.accepted_apart.imp fun h ↦ h.1)
  · exact List.pairwise_map.mpr (hinv.accepted_apart.imp fun h ↦ h.2)
  · intro hfull faults seen init np hlife
    have hticket : life.core.ticket.valid = true := by
      by_contra hwiped
      rw [hinv.wiped_eq (by simpa using hwiped)] at hfull
      simp [Ticket.zero, pqResumeReplayCapacity] at hfull
    have hunused : life.core.ticket.successes < pqResumeMaxUses := by
      have := congrArg Ticket.successes (hinv.valid_eq hticket)
      simp only at this
      rw [this]
      exact hinv.unused hticket
    obtain ⟨⟨answer, core'⟩, hresult⟩ :
        ∃ result, pqResumeAccept crypto faults life.core seen init np = result := ⟨_, rfl⟩
    rw [hresult]
    rcases pqResumeAccept_cases hresult with ⟨-, _, _, hacc⟩ | ⟨hfailed, h⟩
    · exact absurd hacc.room hfull.not_lt
    · refine ⟨hfailed.reason_ne, ?_⟩
      rcases h with h | h | ⟨_, -, -, -, hroom, -⟩
      · exact h
      · rw [h, Ticket.checked_eq_self hlife hunused]
      · exact absurd hroom hfull.not_lt

/-- Freshness for a v1.1 ticket whose first INIT is replayed after a disconnect. -/
theorem replay_freshness_replayed :
    ∃ ticket, pqResumeIssue polynomialCrypto {} pqResumeV11 (.zero 32) (.zero 32) (.zero 7) 0 true =
        some ticket ∧
      let init := initFrame polynomialCrypto pqResumeV11 ticket.root ticket.id (.zero 16) (.zero 32)
      let seen : Observation :=
        { profile := pqResumeV11, peer := .zero 7, l4 := true, bonded := true, now := 5 }
      let calls : List Call :=
        [.accept {} seen init (.zero 32), .disconnect, .accept {} seen init (.zero 32)]
      let life := (lifetime polynomialCrypto).run (Lifetime.start ticket Session.zero) calls
      (life.accepted.map ReplayEntry.nonce).Nodup ∧ (life.accepted.map ReplayEntry.sid).Nodup ∧
        life.core.ticket.replay.Pairwise ReplayEntry.Apart ∧
        life.core.ticket.replay.length ≤ pqResumeReplayCapacity ∧
        (life.core.ticket.valid = true → ∀ entry ∈ life.accepted, entry ∈ life.core.ticket.replay) ∧
        (life.core.ticket.replay.length = pqResumeReplayCapacity →
          ∀ (faults : Faults) (seen : Observation) (init : Bytes) (np : Block 32),
            life.core.ticket.Unexpired seen.now →
            (pqResumeAccept polynomialCrypto faults life.core seen init np).1.reason ≠ .ok ∧
              (pqResumeAccept polynomialCrypto faults life.core seen init np).2.ticket =
                life.core.ticket) :=
  (exists_pqResumeIssue polynomialCrypto (.inr rfl) _ _ _ le_rfl).imp fun _ hissue ↦
    ⟨hissue, replay_freshness hissue Session.zero _⟩

/-- **Ticket use and lifetime policy.**  Whatever calls follow the issue of a ticket: at most 100 of
them commit; each commit reads a clock below the end of the ticket's lifetime and below its
attempt's deadline; a valid ticket counts exactly the commits; every committed session is secure
with the traffic keys of its attempt; and after the 100th commit the ticket is wiped and no INIT is
accepted any more. -/
theorem ticket_use_policy {crypto : Crypto} {faults : Faults} {profile : UInt8}
    {root th : Block 32} {peer : Block 7} {now : ℤ} {authenticated : Bool} {ticket : Ticket}
    (hissue : pqResumeIssue crypto faults profile root th peer now authenticated = some ticket)
    (session : Session) (calls : List Call) :
    let life := (lifetime crypto).run (Lifetime.start ticket session) calls
    life.commits.length ≤ pqResumeMaxUses ∧
      (∀ commit ∈ life.commits,
        commit.now < now + pqResumeTtlMs ∧ commit.now < commit.start + 30000) ∧
      (life.core.ticket.valid = true → life.core.ticket.successes = life.commits.length) ∧
      (∀ seen, (pqResumeCommit life.core seen).1.reason = .ok →
        (pqResumeCommit life.core seen).2.session =
          { life.core.session with
            state := .secure, keys := life.attempt.keys.clearConfirmation }) ∧
      (life.commits.length = pqResumeMaxUses → ∀ later : List Call,
        let after := (lifetime crypto).run life later
        life.core.ticket.root = .zero 32 ∧ after.core.ticket.root = .zero 32 ∧
          after.accepted = life.accepted) := by
  intro life
  obtain ⟨hvalid, huses, hreplay, hcreated, -⟩ := pqResumeIssue_eq_some hissue
  have hinv : Lifetime.Inv ticket life := (Lifetime.Inv.start hvalid huses hreplay session).run calls
  refine ⟨hinv.commits_le, ?_, ?_, ?_, ?_⟩
  · rw [← hcreated]
    exact hinv.commits_intime
  · intro h
    simpa using congrArg Ticket.successes (hinv.valid_eq h)
  · intro seen hok
    obtain ⟨⟨answer, core'⟩, hresult⟩ :
        ∃ result, pqResumeCommit life.core seen = result := ⟨_, rfl⟩
    rw [hresult] at hok ⊢
    rcases pqResumeCommit_cases hresult with ⟨-, hcom⟩ | ⟨hfailed, -⟩
    · rw [hcom.session_eq, (hinv.attempt_eq (.inr hcom.pending)).2]
    · exact absurd hok hfailed.reason_ne
  · intro hmaxed later
    have hwiped := hinv.wiped_of_maxed hmaxed
    obtain ⟨hlater, haccepted, -⟩ := Lifetime.frozen_of_wiped crypto later hwiped
    exact ⟨by rw [hwiped]; rfl, by rw [hlater]; rfl, haccepted⟩

section Committed

/-- A v1.1 ticket, issued at time zero. -/
def issuedTicket : Ticket :=
  (pqResumeIssue polynomialCrypto {} pqResumeV11 (.zero 32) (.zero 32) (.zero 7) 0 true).getD .zero

/-- An honest attempt that is committed. -/
def committedCalls : List Call :=
  let seen := fun now ↦ { profile := pqResumeV11, peer := .zero 7, l4 := true, bonded := true, now : Observation }
  let keys := issuedTicket.keys polynomialCrypto (.zero 16) (.zero 32) (.zero 32)
  [.accept {} (seen 5) (initFrame polynomialCrypto pqResumeV11 (.zero 32) issuedTicket.id (.zero 16) (.zero 32))
      (.zero 32),
    .finish {} (seen 6) (finishCFrame polynomialCrypto pqResumeV11 keys), .commit (seen 7)]

/-- The policy for that ticket: one commit, counted once. -/
theorem ticket_use_policy_committed :
    let life := (lifetime polynomialCrypto).run (Lifetime.start issuedTicket Session.zero) committedCalls
    life.commits.length = 1 ∧ life.core.session.state = .secure ∧ life.core.ticket.successes = life.commits.length ∧
      ∀ commit ∈ life.commits, commit.now < 0 + pqResumeTtlMs ∧ commit.now < commit.start + 30000 := by
  have hissue : pqResumeIssue polynomialCrypto {} pqResumeV11 (.zero 32) (.zero 32) (.zero 7) 0 true =
      some issuedTicket := by decide +kernel
  have hrun : let life := (lifetime polynomialCrypto).run (Lifetime.start issuedTicket Session.zero) committedCalls
      life.commits.length = 1 ∧ life.core.session.state = .secure ∧ life.core.ticket.valid = true := by
    decide +kernel
  obtain ⟨-, hintime, hcounted, -⟩ := ticket_use_policy hissue Session.zero committedCalls
  exact ⟨hrun.1, hrun.2.1, hcounted hrun.2.2, hintime⟩

end Committed

end PqBleHandshake.Resumption
