import PqBleHandshake.Security.Machine

/-!
# Safety of the ceremony

`Inv` relates the record to the bookkeeping after every run: what a pending comparison is, why the state
is L4_SECURED, and that no comparison is answered twice.  A button edge is bound to a generation, not to
a comparison; `EdgeInv` shows when this is enough.
-/

namespace PqBleHandshake.Security

open Foundation

/-- A pending comparison of a connection is the last one asked for on this generation, and unanswered. -/
structure Pending (state : State) (conn : Conn) : Prop where
  tracked : state.record.trackedConn = some conn
  generation : state.record.authGeneration = state.record.connectionGeneration
  attempted : state.record.pairingAttempted = true
  undecided : state.record.ncAccepted = false
  comparing : state.record.secState ≠ .failed → state.record.secState = .numericComparison
  comparison : ∃ c, state.comparisons[state.pending]? = some c ∧
    c.generation = state.record.connectionGeneration ∧ c.deadline = state.record.ncDeadline
  unanswered : ∀ reply ∈ state.replies, reply.comparison ≠ state.pending

/-- The operator accepted a comparison of this generation before its deadline. -/
def Accepted (state : State) : Prop :=
  ∃ reply ∈ state.replies, reply.accept = true ∧ ∃ c, state.comparisons[reply.comparison]? = some c ∧
    c.generation = state.record.connectionGeneration ∧ reply.time < c.deadline

/-- A reply in time: an accepting one before the deadline, one of the timeout after it. -/
def Reply.InTime (state : State) (reply : Reply) : Prop :=
  ∃ c, state.comparisons[reply.comparison]? = some c ∧
    (reply.accept = true → reply.time < c.deadline) ∧
    (reply.source = .timer → c.deadline ≤ reply.time)

/-- What holds between any two steps. -/
structure Inv (state : State) : Prop where
  pending : ∀ conn, state.record.authConn = some conn → Pending state conn
  armed : state.record.buttonsArmed = true → state.record.authConn ≠ none
  untracked : state.record.trackedConn = none → state.record.secState = .disconnected
  paired : state.record.trackedConn ≠ none → (state.record.pairingAttempted = true ↔
    state.pairedIn = some state.record.connectionGeneration)
  pairedIn : ∀ generation, state.pairedIn = some generation →
    generation ≤ state.record.connectionGeneration
  accepted : state.record.ncAccepted = true → Accepted state
  secured : state.record.secState = .l4Secured →
    state.record.securedGeneration = state.record.connectionGeneration ∧
      state.observedIn = some state.record.connectionGeneration ∧
      (state.record.pairingAttempted = false ∨ state.record.ncAccepted = true)
  observed : ∀ conn level4, state.host = .changed conn level4 true →
    state.record.trackedConn = some conn →
      state.observedIn = some state.record.connectionGeneration
  replies : (state.replies.map Reply.comparison).Nodup
  inTime : ∀ reply ∈ state.replies, reply.InTime state

theorem inv_boot : Inv State.boot := by
  constructor <;> simp [State.boot, Record.boot]

/-- What a taken comparison was checked against, and the record it leaves. -/
theorem takeAuthConn_eq_some {record record' : Record} {generation : ℕ} {accept : Bool} {now : ℤ}
    {conn : Conn} (h : record.takeAuthConn generation accept now = some (conn, record')) :
    record.authConn = some conn ∧
      (record.trackedConn = some conn ∧ SameU32 generation record.connectionGeneration ∧
        SameU32 record.authGeneration generation ∧ record.secState = .numericComparison ∧
        (accept = true → now < record.ncDeadline)) ∧
      record' = { record with
        authConn := none
        buttonsArmed := false
        ncAccepted := accept
        secState := if accept then record.secState else .failed } := by
  unfold Record.takeAuthConn at h
  split at h
  · cases h
  rename_i owner hauth
  split at h
  · rename_i hcheck
    obtain ⟨rfl, rfl⟩ := Prod.mk.inj (Option.some.inj h)
    exact ⟨hauth, hcheck, rfl⟩
  · cases h

section Steps

variable {state state' : State} {conn : Conn}

/-- A step that only changes threads keeps the invariant. -/
theorem Inv.threads (h : Inv state) {button : ButtonThread} {timer : TimerThread} :
    Inv { state with button, timer } :=
  ⟨fun conn hauth ↦ by
      obtain ⟨h1, h2, h3, h4, h5, h6, h7⟩ := h.pending conn hauth
      exact ⟨h1, h2, h3, h4, h5, h6, h7⟩,
    h.armed, h.untracked, h.paired, h.pairedIn, h.accepted, h.secured, h.observed, h.replies,
    h.inTime⟩

/-- A section that fails a connection keeps the invariant. -/
theorem Inv.fail (h : Inv state) (conn : Conn) : Inv { state with record := state.record.fail conn } := by
  unfold Record.fail
  split_ifs with htracked
  · refine ⟨fun conn' hauth ↦ ?_, h.armed, ?_, h.paired, h.pairedIn, h.accepted, ?_, h.observed,
      h.replies, h.inTime⟩
    · obtain ⟨h1, h2, h3, h4, -, h6, h7⟩ := h.pending conn' hauth
      exact ⟨h1, h2, h3, h4, fun hne ↦ absurd rfl hne, h6, h7⟩
    · intro hnone
      simp [htracked] at hnone
    · intro hl4
      cases hl4
  · exact h

/-- Dropping a pending comparison keeps the invariant. -/
theorem Inv.clearPending (h : Inv state) (conn : Conn) :
    Inv { state with record := state.record.clearPending conn } := by
  unfold Record.clearPending
  split_ifs
  · exact ⟨fun _ hauth ↦ (nomatch hauth), fun harmed ↦ (nomatch harmed), h.untracked, h.paired,
      h.pairedIn, h.accepted, h.secured, h.observed, h.replies, h.inTime⟩
  · exact h

/-- A comparison keeps its place when later ones are asked for. -/
theorem getElem?_append_of_some {α : Type*} {l more : List α} {i : ℕ} {x : α} (h : l[i]? = some x) :
    (l ++ more)[i]? = some x := by
  obtain ⟨hi, -⟩ := List.getElem?_eq_some_iff.mp h
  rw [List.getElem?_append_left hi, h]

theorem Reply.InTime.lt {reply : Reply} (h : reply.InTime state) :
    reply.comparison < state.comparisons.length := by
  obtain ⟨c, hc, -⟩ := h
  exact (List.getElem?_eq_some_iff.mp hc).1

/-- Taking the pending comparison for a reply keeps the invariant. -/
theorem Inv.take (h : Inv state) {generation : ℕ} {accept : Bool} {now : ℤ} {record : Record}
    {source : Source} {button : ButtonThread} {timer : TimerThread}
    (htake : state.record.takeAuthConn generation accept now = some (conn, record))
    (htimer : source = .timer → accept = false ∧ state.record.ncDeadline ≤ now) :
    Inv { state with record, replies := state.reply accept source now, button, timer } := by
  obtain ⟨hauth, ⟨htracked, -, -, hstate, hdeadline⟩, rfl⟩ := takeAuthConn_eq_some htake
  have hpending := h.pending _ hauth
  obtain ⟨c, hc, hgeneration, hc_deadline⟩ := hpending.comparison
  constructor
  · intro _ hnone
    cases hnone
  · intro harmed
    cases harmed
  · intro hnone
    exact absurd (htracked.symm.trans hnone) (by simp)
  · exact h.paired
  · exact h.pairedIn
  · intro haccept
    refine ⟨_, List.mem_cons_self, haccept, c, hc, hgeneration, ?_⟩
    rw [hc_deadline]
    exact hdeadline haccept
  · intro hl4
    cases accept <;> simp [hstate] at hl4
  · exact h.observed
  · simp only [State.reply, List.map_cons, List.nodup_cons, List.mem_map, not_exists, not_and]
    exact ⟨fun reply hmem ↦ hpending.unanswered reply hmem, h.replies⟩
  · intro reply hreply
    rcases List.mem_cons.mp hreply with rfl | hreply
    · refine ⟨c, hc, fun haccept ↦ ?_, fun htimeout ↦ ?_⟩
      · rw [hc_deadline]
        exact hdeadline haccept
      · rw [hc_deadline]
        exact (htimer htimeout).2
    · exact h.inTime reply hreply

/-- A new connection starts a new generation. -/
theorem Inv.onConnected (h : Inv state) (conn : Conn) (bonded : Bool) :
    Inv (state.onConnected conn bonded) := by
  unfold State.onConnected Record.onConnected
  by_cases hsome : state.record.trackedConn.isSome = true
  · rw [if_pos hsome]
    exact h
  rw [if_neg hsome]
  have htracked : state.record.trackedConn = none := by simpa using hsome
  refine ⟨fun conn' hauth ↦ ?_, fun harmed ↦ (nomatch harmed), fun hnone ↦ (nomatch hnone), ?_, ?_,
    fun haccept ↦ (nomatch haccept), fun hl4 ↦ (nomatch hl4), ?_, h.replies, h.inTime⟩
  · exact absurd (htracked.symm.trans (h.pending conn' hauth).tracked) (by simp)
  · intro _
    refine ⟨fun hattempt ↦ (nomatch hattempt), fun hpaired ↦ ?_⟩
    have hle := h.pairedIn _ hpaired
    dsimp only at hle
    omega
  · intro generation hpaired
    exact Nat.le_succ_of_le (h.pairedIn generation hpaired)
  · intro conn' level4 hhost
    dsimp only at hhost
    split_ifs at hhost

theorem Inv.onDisconnected (h : Inv state) (conn : Conn) (hidle : state.host = .idle) :
    Inv { state with record := state.record.onDisconnected conn } := by
  unfold Record.onDisconnected
  have hclear := h.clearPending conn
  have hsame : (state.record.clearPending conn).trackedConn = state.record.trackedConn := by
    unfold Record.clearPending
    split_ifs <;> rfl
  have hauth_none : state.record.trackedConn = some conn →
      (state.record.clearPending conn).authConn = none := by
    intro htracked
    unfold Record.clearPending
    split_ifs with hauth
    · rfl
    · by_contra hne
      obtain ⟨other, hother⟩ := Option.ne_none_iff_exists'.mp hne
      have := (h.pending other hother).tracked
      rw [htracked] at this
      exact hauth (this ▸ hother)
  dsimp only
  split_ifs with htracked
  · rw [hsame] at htracked
    refine ⟨fun conn' hauth ↦ ?_, fun harmed ↦ (nomatch harmed), fun _ ↦ rfl,
      fun hne ↦ absurd rfl hne, ?_, fun haccept ↦ (nomatch haccept), fun hl4 ↦ (nomatch hl4), ?_,
      h.replies, h.inTime⟩
    · exact absurd (hauth.symm.trans (hauth_none htracked)) (by simp)
    · intro generation hpaired
      exact Nat.le_succ_of_le (hclear.pairedIn generation hpaired)
    · intro conn' level4 hhost
      rw [hidle] at hhost
      cases hhost
  · exact hclear

theorem Inv.onPairingAccept (h : Inv state) (conn : Conn) :
    Inv { state with
      record := (state.record.pairingAccept conn).2
      pairedIn := if (state.record.pairingAccept conn).1 then
          some (state.record.pairingAccept conn).2.connectionGeneration
        else state.pairedIn } := by
  unfold Record.pairingAccept
  split_ifs with hcheck haccepted haccepted
  · obtain ⟨htracked, hattempt, hstate⟩ := hcheck
    have hauth : state.record.authConn = none := by
      by_contra hne
      obtain ⟨other, hother⟩ := Option.ne_none_iff_exists'.mp hne
      have := (h.pending other hother).attempted
      simp [hattempt] at this
    refine ⟨fun conn' hother ↦ ?_, h.armed, fun hnone ↦ ?_, fun _ ↦ by simp, ?_, h.accepted,
      fun hl4 ↦ (nomatch hl4), h.observed, h.replies, h.inTime⟩
    · exact absurd (hother.symm.trans hauth) (by simp)
    · exact absurd (htracked.symm.trans hnone) (by simp)
    · intro generation hpaired
      exact (Option.some.inj hpaired).ge
  · simp at haccepted
  · simp at haccepted
  · exact h

/-- A comparison is only asked for after the pairing of this generation was accepted. -/
theorem Inv.onPasskeyConfirm (h : Inv state) (timeoutMs : ℤ) (conn : Conn) (now : ℤ)
    (htracked : state.record.trackedConn = some conn)
    (hpaired : state.pairedIn = some state.record.connectionGeneration) :
    Inv (state.onPasskeyConfirm timeoutMs conn now) := by
  have hattempt : state.record.pairingAttempted = true := (h.paired (by simp [htracked])).mpr hpaired
  have haccepted (comparison : Comparison) (ha : Accepted state) :
      ∃ reply ∈ state.replies, reply.accept = true ∧
        ∃ c, (state.comparisons ++ [comparison])[reply.comparison]? = some c ∧
          c.generation = state.record.connectionGeneration ∧ reply.time < c.deadline := by
    obtain ⟨reply, hreply, haccept, c, hc, hrest⟩ := ha
    exact ⟨reply, hreply, haccept, c, getElem?_append_of_some hc, hrest⟩
  have hinTime (comparison : Comparison) (reply : Reply) (hreply : reply ∈ state.replies) :
      ∃ c, (state.comparisons ++ [comparison])[reply.comparison]? = some c ∧
        (reply.accept = true → reply.time < c.deadline) ∧
        (reply.source = .timer → c.deadline ≤ reply.time) := by
    obtain ⟨c, hc, hrest⟩ := h.inTime reply hreply
    exact ⟨c, getElem?_append_of_some hc, hrest⟩
  unfold State.onPasskeyConfirm Record.passkeyConfirm
  dsimp only
  split_ifs with hcheck
  · refine ⟨fun conn' hauth ↦ ?_, h.armed, h.untracked, h.paired, h.pairedIn,
      fun ha ↦ ?_, h.secured, h.observed, ?_, ?_⟩
    · obtain ⟨h1, h2, h3, h4, h5, ⟨c, hc, hrest⟩, h7⟩ := h.pending conn' hauth
      refine ⟨h1, h2, h3, h4, h5, ⟨c, getElem?_append_of_some hc, hrest⟩, ?_⟩
      intro reply hreply
      rcases List.mem_cons.mp hreply with rfl | hreply
      · exact (List.getElem?_eq_some_iff.mp hc).1.ne'
      · exact h7 reply hreply
    · obtain ⟨reply, hreply, hrest⟩ := haccepted _ (h.accepted ha)
      exact ⟨reply, List.mem_cons_of_mem _ hreply, hrest⟩
    · simp only [List.map_cons, List.nodup_cons, List.mem_map, not_exists, not_and]
      exact ⟨fun reply hreply ↦ (h.inTime reply hreply).lt.ne, h.replies⟩
    · intro reply hreply
      rcases List.mem_cons.mp hreply with rfl | hreply
      · exact ⟨_, List.getElem?_concat_length, fun ha ↦ (nomatch ha), fun hs ↦ (nomatch hs)⟩
      · exact hinTime _ reply hreply
  · simp only [not_or, not_not, Bool.not_eq_true] at hcheck
    obtain ⟨-, hfailed, hsecured, hnone, hundecided⟩ := hcheck
    refine ⟨fun conn' hauth ↦ ?_, fun harmed ↦ (nomatch harmed), fun hno ↦ ?_, h.paired, h.pairedIn,
      fun ha ↦ haccepted _ (h.accepted ha), fun hl4 ↦ (nomatch hl4), h.observed, h.replies,
      fun reply hreply ↦ hinTime _ reply hreply⟩
    · obtain rfl := Option.some.inj hauth
      exact ⟨htracked, rfl, hattempt, hundecided, fun _ ↦ rfl,
        ⟨_, List.getElem?_concat_length, rfl, rfl⟩, fun reply hreply ↦ (h.inTime reply hreply).lt.ne⟩
    · exact absurd (htracked.symm.trans hno) (by simp)

/-- What the section of `security_changed` does: nothing, the secured state, or a failure that cancels a
pending comparison. -/
theorem securityChanged_cases (record : Record) (conn : Conn) (level4 live : Bool) :
    record.securityChanged conn level4 live = (none, record) ∨
      (record.trackedConn = some conn ∧ record.secState ≠ .failed ∧
        ((live = true ∧ (record.pairingAttempted = false ∨ record.ncAccepted = true) ∧
            record.securityChanged conn level4 live = (none, { record with
              securedGeneration := record.connectionGeneration
              secState := .l4Secured })) ∨
          (record.authConn = some conn ∧
            record.securityChanged conn level4 live = (some conn, { record with
              authConn := none
              buttonsArmed := false
              secState := .failed })) ∨
          record.securityChanged conn level4 live = (none, { record with secState := .failed }))) := by
  unfold Record.securityChanged Record.clearPending
  by_cases hcheck : record.trackedConn = some conn ∧ record.secState ≠ .failed
  · rw [if_pos hcheck]
    refine .inr ⟨hcheck.1, hcheck.2, ?_⟩
    by_cases hsecure : live = true ∧ level4 = true ∧
        (record.pairingAttempted = false ∨ record.ncAccepted = true)
    · rw [if_pos hsecure]
      exact .inl ⟨hsecure.1, hsecure.2.2, rfl⟩
    · rw [if_neg hsecure]
      by_cases hauth : record.authConn = some conn
      · rw [if_pos hauth, if_pos hauth]
        exact .inr (.inl ⟨hauth, rfl⟩)
      · rw [if_neg hauth, if_neg hauth]
        exact .inr (.inr rfl)
  · rw [if_neg hcheck]
    exact .inl rfl

/-- The section of `security_changed`, with the reply to a comparison that it cancels. -/
theorem Inv.securityApplied (h : Inv state) {level4 live : Bool} (now : ℤ)
    (hhost : state.host = .changed conn level4 live) :
    Inv { state with
      record := (state.record.securityChanged conn level4 live).2
      host := .idle
      replies := if (state.record.securityChanged conn level4 live).1.isSome then
          state.reply false .downgrade now
        else state.replies } := by
  rcases securityChanged_cases state.record conn level4 live with
    hkept | ⟨htracked, hstate, ⟨hlive, hdecided, hresult⟩ | ⟨hauth, hresult⟩ | hresult⟩
  · rw [hkept]
    exact ⟨fun conn hauth ↦ by
        obtain ⟨h1, h2, h3, h4, h5, h6, h7⟩ := h.pending conn hauth
        exact ⟨h1, h2, h3, h4, h5, h6, h7⟩,
      h.armed, h.untracked, h.paired, h.pairedIn, h.accepted, h.secured,
      fun _ _ hchanged ↦ (nomatch hchanged), h.replies, h.inTime⟩
  · rw [hresult]
    subst hlive
    have hnone (conn' : Conn) : state.record.authConn ≠ some conn' := by
      intro hauth
      have hpending := h.pending conn' hauth
      rcases hdecided with hno | hyes
      · exact absurd (hpending.attempted.symm.trans hno) (by simp)
      · exact absurd (hpending.undecided.symm.trans hyes) (by simp)
    exact ⟨fun conn' hauth ↦ absurd hauth (hnone conn'), h.armed,
      fun hno ↦ absurd (htracked.symm.trans hno) (by simp), h.paired, h.pairedIn, h.accepted,
      fun _ ↦ ⟨rfl, h.observed conn level4 hhost htracked, hdecided⟩,
      fun _ _ hchanged ↦ (nomatch hchanged), h.replies, h.inTime⟩
  · rw [hresult]
    have hpending := h.pending conn hauth
    obtain ⟨c, hc, -, -⟩ := hpending.comparison
    refine ⟨fun _ hno ↦ (nomatch hno), fun harmed ↦ (nomatch harmed),
      fun hno ↦ absurd (htracked.symm.trans hno) (by simp), h.paired, h.pairedIn, fun ha ↦ ?_,
      fun hl4 ↦ (nomatch hl4), fun _ _ hchanged ↦ (nomatch hchanged), ?_, ?_⟩
    · obtain ⟨reply, hreply, hrest⟩ := h.accepted ha
      exact ⟨reply, List.mem_cons_of_mem _ hreply, hrest⟩
    · simp only [Option.isSome_some, if_true, State.reply, List.map_cons, List.nodup_cons,
        List.mem_map, not_exists, not_and]
      exact ⟨fun reply hmem ↦ hpending.unanswered reply hmem, h.replies⟩
    · intro reply hreply
      rcases List.mem_cons.mp hreply with rfl | hreply
      · exact ⟨c, hc, fun ha ↦ (nomatch ha), fun hs ↦ (nomatch hs)⟩
      · exact h.inTime reply hreply
  · rw [hresult]
    refine ⟨fun conn' hauth ↦ ?_, h.armed,
      fun hno ↦ absurd (htracked.symm.trans hno) (by simp), h.paired, h.pairedIn, h.accepted,
      fun hl4 ↦ (nomatch hl4), fun _ _ hchanged ↦ (nomatch hchanged), h.replies, h.inTime⟩
    obtain ⟨h1, h2, h3, h4, -, h6, h7⟩ := h.pending conn' hauth
    exact ⟨h1, h2, h3, h4, fun hne ↦ absurd rfl hne, h6, h7⟩

/-- Live L4 is observed on the tracked connection. -/
theorem Inv.onSecurityChanged (h : Inv state) (conn : Conn) (level4 live : Bool) :
    Inv { state with
      host := .changed conn level4 live
      observedIn := if live ∧ state.record.trackedConn = some conn then
          some state.record.connectionGeneration
        else state.observedIn } := by
  refine ⟨fun conn' hauth ↦ ?_, h.armed, h.untracked, h.paired, h.pairedIn, h.accepted, ?_, ?_,
    h.replies, h.inTime⟩
  · obtain ⟨h1, h2, h3, h4, h5, h6, h7⟩ := h.pending conn' hauth
    exact ⟨h1, h2, h3, h4, h5, h6, h7⟩
  · intro hl4
    obtain ⟨hgeneration, hobserved, hdecided⟩ := h.secured hl4
    refine ⟨hgeneration, ?_, hdecided⟩
    dsimp only
    split_ifs
    · rfl
    · exact hobserved
  · intro conn' level4' hhost htracked
    obtain ⟨rfl, rfl, rfl⟩ := HostThread.changed.inj hhost
    exact if_pos ⟨rfl, htracked⟩

theorem Inv.securityRequested (h : Inv state) (conn : Conn) (err : Bool) :
    Inv { state with record := state.record.securityRequested conn err, host := .idle } := by
  have hidle : Inv { state with host := .idle } :=
    ⟨fun conn hauth ↦ by
        obtain ⟨h1, h2, h3, h4, h5, h6, h7⟩ := h.pending conn hauth
        exact ⟨h1, h2, h3, h4, h5, h6, h7⟩,
      h.armed, h.untracked, h.paired, h.pairedIn, h.accepted, h.secured,
      fun _ _ hchanged ↦ (nomatch hchanged), h.replies, h.inTime⟩
  unfold Record.securityRequested
  split_ifs with herr hstate
  · exact hidle.fail conn
  · refine ⟨fun conn' hauth ↦ ?_, h.armed, fun hno ↦ absurd (hstate.1.symm.trans hno) (by simp),
      h.paired, h.pairedIn, h.accepted, fun hl4 ↦ (nomatch hl4),
      fun _ _ hchanged ↦ (nomatch hchanged), h.replies, h.inTime⟩
    have hpending := h.pending conn' hauth
    have := hpending.comparing (by simp [hstate.2])
    simp [hstate.2] at this
  · exact hidle

theorem Inv.authCancel (h : Inv state) (conn : Conn) :
    Inv { state with record := state.record.authCancel conn } := by
  unfold Record.authCancel
  dsimp only
  split_ifs
  · exact (h.clearPending conn).fail conn
  · exact h.clearPending conn

theorem Inv.onButtonChanged (h : Inv state) (down changed : Buttons) :
    Inv (state.onButtonChanged down changed) := by
  refine ⟨fun conn' hauth ↦ ?_, ?_, h.untracked, h.paired, h.pairedIn, h.accepted, h.secured,
    h.observed, h.replies, h.inTime⟩
  · obtain ⟨h1, h2, h3, h4, h5, h6, h7⟩ := h.pending conn' hauth
    exact ⟨h1, h2, h3, h4, h5, h6, h7⟩
  · intro harmed
    simp only [State.onButtonChanged, Bool.or_eq_true, Bool.and_eq_true] at harmed
    rcases harmed with harmed | ⟨-, hsome⟩
    · exact h.armed harmed
    · exact Option.isSome_iff_ne_none.mp hsome

theorem Inv.arm (h : Inv state) (armed : Bool) :
    Inv { state with record := { state.record with
      buttonsArmed := if state.record.authConn.isSome then armed
        else state.record.buttonsArmed } } := by
  refine ⟨fun conn' hauth ↦ ?_, ?_, h.untracked, h.paired, h.pairedIn, h.accepted, h.secured,
    h.observed, h.replies, h.inTime⟩
  · obtain ⟨h1, h2, h3, h4, h5, h6, h7⟩ := h.pending conn' hauth
    exact ⟨h1, h2, h3, h4, h5, h6, h7⟩
  · intro harmed
    dsimp only at harmed
    split_ifs at harmed with hsome
    · exact Option.isSome_iff_ne_none.mp hsome
    · exact h.armed harmed

/-- **Every step keeps the invariant.** -/
theorem Inv.step (h : Inv state) {timeoutMs : ℤ} {action : Action}
    (hstep : state.step timeoutMs action = some state') : Inv state' := by
  cases action
  all_goals
    simp only [State.step, Option.bind_eq_bind, Option.bind_eq_some_iff, Option.guard_eq_some',
      exists_const, Option.pure_def, Option.some.injEq] at hstep
  case connected conn bonded =>
    obtain ⟨-, rfl⟩ := hstep
    exact h.onConnected conn bonded
  case securityRequested err =>
    split at hstep
    · obtain rfl := Option.some.inj hstep
      exact h.securityRequested _ err
    · cases hstep
  case disconnected conn =>
    obtain ⟨hidle, rfl⟩ := hstep
    exact h.onDisconnected conn hidle
  case pairingAccept conn =>
    obtain ⟨-, rfl⟩ := hstep
    exact h.onPairingAccept conn
  case passkeyDisplay conn =>
    obtain ⟨-, rfl⟩ := hstep
    exact h.fail conn
  case passkeyConfirm conn now =>
    obtain ⟨⟨-, htracked, hpaired⟩, rfl⟩ := hstep
    exact h.onPasskeyConfirm timeoutMs conn now htracked hpaired
  case authCancel conn =>
    obtain ⟨-, rfl⟩ := hstep
    exact h.authCancel conn
  case pairingComplete conn =>
    obtain ⟨-, rfl⟩ := hstep
    exact h.clearPending conn
  case pairingFailed conn =>
    obtain ⟨-, rfl⟩ := hstep
    exact (h.clearPending conn).fail conn
  case securityError conn =>
    obtain ⟨-, rfl⟩ := hstep
    exact (h.clearPending conn).fail conn
  case securityChanged conn level4 live =>
    obtain ⟨-, rfl⟩ := hstep
    exact h.onSecurityChanged conn level4 live
  case securityApplied now =>
    split at hstep
    · rename_i hhost
      obtain rfl := Option.some.inj hstep
      exact h.securityApplied now hhost
    · cases hstep
  case buttonChanged down changed =>
    obtain ⟨-, rfl⟩ := hstep
    exact h.onButtonChanged down changed
  case buttonReply now =>
    split at hstep
    · obtain rfl := Option.some.inj hstep
      unfold State.onButtonReply
      split
      · exact h.threads
      · rename_i htake
        exact h.take htake (fun hsource ↦ nomatch hsource)
    · cases hstep
  case buttonAnswered err =>
    split at hstep
    · obtain rfl := Option.some.inj hstep
      split_ifs
      all_goals first | exact h.threads | exact (h.fail _).threads
    · cases hstep
  case buttonFailing =>
    split at hstep
    · obtain rfl := Option.some.inj hstep
      split_ifs
      · exact (h.fail _).threads
      · exact h.threads
    · cases hstep
  case arm down =>
    obtain rfl := hstep
    exact h.arm _
  case timeout now =>
    obtain ⟨-, rfl⟩ := hstep
    unfold State.onTimeout
    split_ifs with hearly
    · exact h
    · split
      · exact h
      · rename_i htake
        refine h.take htake (fun _ ↦ ⟨rfl, ?_⟩)
        simp only [not_or, not_lt] at hearly
        exact hearly.2
  case timeoutFailing =>
    split at hstep
    · obtain rfl := Option.some.inj hstep
      exact (h.fail _).threads
    · cases hstep

namespace Record

variable {record : Record}

theorem failed_fail (h : record.secState = .failed) (conn : Conn) : (record.fail conn).secState = .failed := by
  unfold fail
  split_ifs
  · rfl
  · exact h

theorem failed_clearPending (h : record.secState = .failed) (conn : Conn) :
    (record.clearPending conn).secState = .failed := by
  unfold clearPending
  split_ifs <;> exact h

theorem failed_takeAuthConn (h : record.secState = .failed) (generation : ℕ) (accept : Bool) (now : ℤ) :
    record.takeAuthConn generation accept now = none := by
  cases hresult : record.takeAuthConn generation accept now with
  | none => rfl
  | some result =>
    obtain ⟨-, ⟨-, -, -, hstate, -⟩, -⟩ := takeAuthConn_eq_some hresult
    rw [h] at hstate
    cases hstate

theorem failed_securityRequested (h : record.secState = .failed) (conn : Conn) (err : Bool) :
    (record.securityRequested conn err).secState = .failed := by
  unfold securityRequested
  split_ifs with herr hstate
  · exact failed_fail h conn
  · exact nomatch h.symm.trans hstate.2
  · exact h

theorem failed_pairingAccept (h : record.secState = .failed) (conn : Conn) : record.pairingAccept conn = (false, record) := by
  refine if_neg fun haccept ↦ ?_
  rw [h] at haccept
  exact haccept.2.2.elim nofun nofun

theorem failed_passkeyConfirm (h : record.secState = .failed) (conn : Conn) (deadline : ℤ) :
    record.passkeyConfirm conn deadline = none := if_pos (.inr (.inl h))

theorem failed_authCancel (h : record.secState = .failed) (conn : Conn) : (record.authCancel conn).secState = .failed := by
  have hclear := failed_clearPending h conn
  unfold authCancel
  dsimp only
  split_ifs
  · exact failed_fail hclear conn
  · exact hclear

theorem failed_securityChanged (h : record.secState = .failed) (conn : Conn) (level4 live : Bool) :
    record.securityChanged conn level4 live = (none, record) := if_neg fun hcheck ↦ hcheck.2 h

theorem trackedConn_clearPending (record : Record) (conn : Conn) :
    (record.clearPending conn).trackedConn = record.trackedConn := by
  unfold clearPending
  split_ifs <;> rfl

theorem failed_onDisconnected (h : record.secState = .failed) {conn : Conn} (htracked : record.trackedConn ≠ some conn) :
    (record.onDisconnected conn).secState = .failed := by
  unfold onDisconnected
  rw [if_neg (by rwa [trackedConn_clearPending])]
  exact failed_clearPending h conn

end Record

/-- FAILED lasts until the connection ends. -/
theorem Inv.failed_step (h : Inv state) {timeoutMs : ℤ} {action : Action}
    (hstep : state.step timeoutMs action = some state') (hfailed : state.record.secState = .failed) :
    state'.record.secState = .failed ∨
      ∃ conn, action = .disconnected conn ∧ state.record.trackedConn = some conn := by
  have htracked : state.record.trackedConn.isSome = true := by
    refine Option.isSome_iff_ne_none.mpr fun hnone ↦ ?_
    rw [h.untracked hnone] at hfailed
    cases hfailed
  by_cases hends : ∃ conn, action = .disconnected conn ∧ state.record.trackedConn = some conn
  · exact .inr hends
  left
  cases action
  all_goals
    simp only [State.step, Option.bind_eq_bind, Option.bind_eq_some_iff, Option.guard_eq_some',
      exists_const, Option.pure_def, Option.some.injEq] at hstep
  case connected conn bonded =>
    obtain ⟨-, rfl⟩ := hstep
    rw [State.onConnected, Record.onConnected, if_pos htracked]
    exact hfailed
  case securityRequested err =>
    split at hstep
    · obtain rfl := Option.some.inj hstep
      exact Record.failed_securityRequested hfailed _ err
    · cases hstep
  case disconnected conn =>
    obtain ⟨-, rfl⟩ := hstep
    exact Record.failed_onDisconnected hfailed fun hconn ↦ hends ⟨conn, rfl, hconn⟩
  case pairingAccept conn =>
    obtain ⟨-, rfl⟩ := hstep
    rw [Record.failed_pairingAccept hfailed]
    exact hfailed
  case passkeyDisplay conn =>
    obtain ⟨-, rfl⟩ := hstep
    exact Record.failed_fail hfailed conn
  case passkeyConfirm conn now =>
    obtain ⟨-, rfl⟩ := hstep
    rw [State.onPasskeyConfirm, Record.failed_passkeyConfirm hfailed]
    exact hfailed
  case authCancel conn =>
    obtain ⟨-, rfl⟩ := hstep
    exact Record.failed_authCancel hfailed conn
  case pairingComplete conn =>
    obtain ⟨-, rfl⟩ := hstep
    exact Record.failed_clearPending hfailed conn
  case pairingFailed conn =>
    obtain ⟨-, rfl⟩ := hstep
    exact Record.failed_fail (Record.failed_clearPending hfailed conn) conn
  case securityError conn =>
    obtain ⟨-, rfl⟩ := hstep
    exact Record.failed_fail (Record.failed_clearPending hfailed conn) conn
  case securityChanged conn level4 live =>
    obtain ⟨-, rfl⟩ := hstep
    exact hfailed
  case securityApplied now =>
    split at hstep
    · obtain rfl := Option.some.inj hstep
      rw [Record.failed_securityChanged hfailed]
      exact hfailed
    · cases hstep
  case buttonChanged down changed =>
    obtain ⟨-, rfl⟩ := hstep
    exact hfailed
  case buttonReply now =>
    split at hstep
    · obtain rfl := Option.some.inj hstep
      rw [State.onButtonReply, Record.failed_takeAuthConn hfailed]
      exact hfailed
    · cases hstep
  case buttonAnswered err =>
    split at hstep
    · obtain rfl := Option.some.inj hstep
      dsimp only
      split_ifs
      · exact hfailed
      · exact Record.failed_fail hfailed _
    · cases hstep
  case buttonFailing =>
    split at hstep
    · obtain rfl := Option.some.inj hstep
      dsimp only
      split_ifs
      · exact Record.failed_fail hfailed _
      · exact hfailed
    · cases hstep
  case arm down =>
    obtain rfl := hstep
    exact hfailed
  case timeout now =>
    obtain ⟨-, rfl⟩ := hstep
    rw [State.onTimeout, Record.failed_takeAuthConn hfailed]
    split_ifs <;> exact hfailed
  case timeoutFailing =>
    split at hstep
    · obtain rfl := Option.some.inj hstep
      exact Record.failed_fail hfailed _
    · cases hstep

/-! ## Button edges -/

/-- No pairing completes while its comparison is unanswered, and fewer than `2 ^ 32` generations pass
between the reading of a button edge and its reply. -/
def timely (state : State) : Action → Bool
  | .pairingComplete conn => state.record.authConn ≠ some conn
  | .buttonReply _ =>
    match state.button with
    | .replying _ generation _ => state.record.connectionGeneration < generation + 2 ^ 32
    | _ => true
  | _ => true

/-- While a button edge is handled, the pending comparison of its generation is the one it was armed for,
and once that is gone its generation asks for no other. -/
structure EdgeInv (state : State) : Prop where
  edge : ∀ accept generation armedFor, state.button = .replying accept generation armedFor →
    generation ≤ state.record.connectionGeneration ∧
      (state.record.connectionGeneration = generation →
        (state.record.authConn ≠ none → state.pending = armedFor) ∧
        (state.record.authConn = none → state.record.secState = .failed ∨
          state.record.secState = .l4Secured ∨ state.record.ncAccepted = true ∨
          state.record.trackedConn = none))
  bound : ∀ reply ∈ state.replies, ∀ armedFor, reply.source = .edge armedFor →
    reply.comparison = armedFor

/-- A record in which a generation still has its pending comparison, or is closed for further ones. -/
def Record.Closed (record : Record) : Prop :=
  record.authConn = none → record.secState = .failed ∨ record.secState = .l4Secured ∨
    record.ncAccepted = true ∨ record.trackedConn = none

/-- A step within a generation keeps the edge bound when it keeps the generation closed. -/
theorem EdgeInv.record (h : EdgeInv state) {record : Record} {host : HostThread} {timer : TimerThread}
    {pairedIn observedIn : Option ℕ}
    (hgeneration : record.connectionGeneration = state.record.connectionGeneration)
    (hauth : record.authConn ≠ none → state.record.authConn ≠ none)
    (hclosed : state.record.Closed → record.Closed) :
    EdgeInv { state with record, host, timer, pairedIn, observedIn } where
  edge accept generation armedFor hbutton := by
    obtain ⟨hle, hsame⟩ := h.edge accept generation armedFor hbutton
    refine ⟨hgeneration ▸ hle, fun heq ↦ ?_⟩
    obtain ⟨hpending, hnone⟩ := hsame (hgeneration ▸ heq)
    exact ⟨fun hne ↦ hpending (hauth hne), hclosed hnone⟩
  bound := h.bound

/-- A new generation leaves older edges behind. -/
theorem EdgeInv.next (h : EdgeInv state) {record : Record} {host : HostThread}
    (hgeneration : record.connectionGeneration = state.record.connectionGeneration + 1) :
    EdgeInv { state with record, host } where
  edge accept generation armedFor hbutton := by
    obtain ⟨hle, -⟩ := h.edge accept generation armedFor hbutton
    refine ⟨?_, fun heq ↦ ?_⟩
    · rw [hgeneration]
      exact Nat.le_succ_of_le hle
    · rw [hgeneration] at heq
      omega
  bound := h.bound

theorem EdgeInv.fail (h : EdgeInv state) (conn : Conn) :
    EdgeInv { state with record := state.record.fail conn } := by
  unfold Record.fail
  split_ifs
  · exact h.record rfl id (fun _ _ ↦ .inl rfl)
  · exact h

/-- A cancelled or failed pairing closes the generation of its comparison. -/
theorem EdgeInv.clearFail (h : EdgeInv state) (hinv : Inv state) (conn : Conn) :
    EdgeInv { state with record := (state.record.clearPending conn).fail conn } := by
  unfold Record.clearPending
  split_ifs with hauth
  · have htracked := (hinv.pending conn hauth).tracked
    unfold Record.fail
    rw [if_pos htracked]
    exact h.record rfl (fun hne ↦ absurd rfl hne) (fun _ _ ↦ .inl rfl)
  · exact h.fail conn

theorem EdgeInv.authCancel (h : EdgeInv state) (hinv : Inv state) (conn : Conn) :
    EdgeInv { state with record := state.record.authCancel conn } := by
  unfold Record.authCancel
  dsimp only
  split_ifs with hstate
  · exact h.clearFail hinv conn
  · unfold Record.clearPending at hstate ⊢
    split_ifs at hstate ⊢ with hauth
    · have hl4 : state.record.secState = .l4Secured := not_not.mp hstate
      have hcomparing := (hinv.pending conn hauth).comparing (by simp [hl4])
      simp [hl4] at hcomparing
    · exact h

/-- A reply closes the generation of its comparison. -/
theorem EdgeInv.take (h : EdgeInv state) {generation : ℕ} {accept : Bool} {now : ℤ} {record : Record}
    {source : Source} {button : ButtonThread} {timer : TimerThread}
    (htake : state.record.takeAuthConn generation accept now = some (conn, record))
    (hbutton : button = state.button ∨ ∃ accept generation conn, button = .answered accept generation conn)
    (hsource : ∀ armedFor, source = .edge armedFor → state.pending = armedFor) :
    EdgeInv { state with record, replies := state.reply accept source now, button, timer } := by
  obtain ⟨hauth, -, rfl⟩ := takeAuthConn_eq_some htake
  constructor
  · intro accept' generation' armedFor hreplying
    rcases hbutton with rfl | ⟨_, _, _, rfl⟩
    · obtain ⟨hle, -⟩ := h.edge accept' generation' armedFor hreplying
      refine ⟨hle, fun _ ↦ ⟨fun hne ↦ absurd rfl hne, fun _ ↦ ?_⟩⟩
      cases accept
      · exact .inl rfl
      · exact .inr (.inr (.inl rfl))
    · cases hreplying
  · intro reply hreply armedFor hedge
    rcases List.mem_cons.mp hreply with rfl | hreply
    · exact hsource armedFor hedge
    · exact h.bound reply hreply armedFor hedge

theorem EdgeInv.onPasskeyConfirm (h : EdgeInv state) (timeoutMs : ℤ) (conn : Conn) (now : ℤ) :
    EdgeInv (state.onPasskeyConfirm timeoutMs conn now) := by
  unfold State.onPasskeyConfirm Record.passkeyConfirm
  dsimp only
  split_ifs with hcheck
  · refine ⟨h.edge, fun reply hreply armedFor hedge ↦ ?_⟩
    rcases List.mem_cons.mp hreply with rfl | hreply
    · cases hedge
    · exact h.bound reply hreply armedFor hedge
  · simp only [not_or, not_not, Bool.not_eq_true, Option.isSome_eq_false_iff,
      Option.isNone_iff_eq_none] at hcheck
    obtain ⟨htracked, hfailed, hsecured, hnone, hundecided⟩ := hcheck
    refine ⟨fun accept generation armedFor hbutton ↦ ?_, h.bound⟩
    obtain ⟨hle, hsame⟩ := h.edge accept generation armedFor hbutton
    refine ⟨hle, fun heq ↦ ?_⟩
    rcases (hsame heq).2 hnone with hf | hs | ha | ht
    · exact absurd hf hfailed
    · exact absurd hs hsecured
    · simp [hundecided] at ha
    · exact absurd (htracked.symm.trans ht) (by simp)

theorem EdgeInv.onButtonChanged (h : EdgeInv state) (hinv : Inv state) (down changed : Buttons) :
    EdgeInv (state.onButtonChanged down changed) := by
  have harmed : state.record.buttonsArmed = true →
      state.record.authGeneration = state.record.connectionGeneration ∧
        state.record.authConn ≠ none := by
    intro harmed
    have hne := hinv.armed harmed
    obtain ⟨conn, hauth⟩ := Option.ne_none_iff_exists'.mp hne
    exact ⟨(hinv.pending conn hauth).generation, hne⟩
  have hnew (accept : Bool) (h' : state.record.buttonsArmed = true) :
      ∀ accept' generation armedFor, ButtonThread.replying accept state.record.authGeneration
          state.pending = .replying accept' generation armedFor →
        generation ≤ state.record.connectionGeneration ∧
          (state.record.connectionGeneration = generation →
            (state.record.authConn ≠ none → state.pending = armedFor) ∧
            (state.record.authConn = none → state.record.secState = .failed ∨
              state.record.secState = .l4Secured ∨ state.record.ncAccepted = true ∨
              state.record.trackedConn = none)) := by
    intro accept' generation armedFor heq
    obtain ⟨-, rfl, rfl⟩ := ButtonThread.replying.inj heq
    obtain ⟨hgeneration, hne⟩ := harmed h'
    exact ⟨hgeneration.le, fun _ ↦ ⟨fun _ ↦ rfl, fun hnone ↦ absurd hnone hne⟩⟩
  refine ⟨fun accept generation armedFor hbutton ↦ ?_, h.bound⟩
  simp only [State.onButtonChanged] at hbutton ⊢
  split_ifs at hbutton with hreject haccept
  · exact hnew false hreject.1 accept generation armedFor hbutton
  · exact hnew true haccept.1 accept generation armedFor hbutton

/-- The section of `security_changed` closes the generation of a comparison that it cancels. -/
theorem EdgeInv.securityApplied (h : EdgeInv state) {level4 live : Bool} (now : ℤ) :
    EdgeInv { state with
      record := (state.record.securityChanged conn level4 live).2
      host := .idle
      replies := if (state.record.securityChanged conn level4 live).1.isSome then
          state.reply false .downgrade now
        else state.replies } := by
  rcases securityChanged_cases state.record conn level4 live with
    hresult | ⟨-, -, ⟨-, -, hresult⟩ | ⟨-, hresult⟩ | hresult⟩
  · rw [hresult]
    exact h.record rfl id id
  · rw [hresult]
    exact h.record rfl id (fun _ _ ↦ .inr (.inl rfl))
  · rw [hresult]
    refine ⟨fun accept generation armedFor hbutton ↦ ?_, fun reply hreply armedFor hedge ↦ ?_⟩
    · obtain ⟨hle, -⟩ := h.edge accept generation armedFor hbutton
      exact ⟨hle, fun _ ↦ ⟨fun hne ↦ absurd rfl hne, fun _ ↦ .inl rfl⟩⟩
    · rcases List.mem_cons.mp hreply with rfl | hreply
      · cases hedge
      · exact h.bound reply hreply armedFor hedge
  · rw [hresult]
    exact h.record rfl id (fun _ _ ↦ .inl rfl)

theorem EdgeInv.onConnected (h : EdgeInv state) (conn : Conn) (bonded : Bool) :
    EdgeInv (state.onConnected conn bonded) := by
  unfold State.onConnected Record.onConnected
  by_cases hsome : state.record.trackedConn.isSome = true
  · rw [if_pos hsome]
    exact h
  · rw [if_neg hsome]
    exact h.next rfl

theorem EdgeInv.securityRequested (h : EdgeInv state) (conn : Conn) (err : Bool) :
    EdgeInv { state with record := state.record.securityRequested conn err, host := .idle } := by
  unfold Record.securityRequested
  split_ifs with herr hstate
  · exact (h.fail _).record rfl id id
  · refine h.record rfl id (fun hclosed hnone ↦ ?_)
    have := hclosed hnone
    simp only [hstate.2, reduceCtorEq, false_or] at this ⊢
    exact this
  · exact h.record rfl id id

theorem EdgeInv.onDisconnected (h : EdgeInv state) (hinv : Inv state) (conn : Conn) :
    EdgeInv { state with record := state.record.onDisconnected conn } := by
  by_cases hconn : state.record.trackedConn = some conn
  · refine h.next (?_ : _ = _)
    have hsame : (state.record.clearPending conn).connectionGeneration = state.record.connectionGeneration := by
      unfold Record.clearPending
      split_ifs <;> rfl
    simp only [Record.onDisconnected, Record.trackedConn_clearPending, hconn, if_true, hsame]
  · have hauth : state.record.authConn ≠ some conn :=
      fun hauth ↦ hconn (hinv.pending conn hauth).tracked
    simp only [Record.onDisconnected, Record.clearPending, hauth, if_false, hconn]
    exact h

theorem EdgeInv.pairingAccept (h : EdgeInv state) {pairedIn : Option ℕ} (conn : Conn) :
    EdgeInv { state with record := (state.record.pairingAccept conn).2, pairedIn } := by
  unfold Record.pairingAccept
  by_cases hcheck : state.record.trackedConn = some conn ∧ state.record.pairingAttempted = false ∧
      (state.record.secState = .connectedUnsecured ∨ state.record.secState = .smpPairing)
  · rw [if_pos hcheck]
    refine h.record rfl id (fun hclosed hnone ↦ ?_)
    rcases hclosed hnone with hf | hs | hrest
    · simp [hf] at hcheck
    · simp [hs] at hcheck
    · exact .inr (.inr hrest)
  · rw [if_neg hcheck]
    exact h.record rfl id id

/-- The reply of an edge that is not overtaken by `2 ^ 32` generations is to the comparison it was armed for. -/
theorem EdgeInv.onButtonReply (h : EdgeInv state) {accept : Bool} {generation armedFor : ℕ} (now : ℤ)
    (hbutton : state.button = .replying accept generation armedFor)
    (htimely : state.record.connectionGeneration < generation + 2 ^ 32) :
    EdgeInv (state.onButtonReply accept generation armedFor now) := by
  unfold State.onButtonReply
  split
  · exact ⟨fun _ _ _ hidle ↦ (nomatch hidle), h.bound⟩
  · rename_i conn record htake
    refine h.take htake (.inr ⟨_, _, _, rfl⟩) (fun armedFor' hsource ↦ ?_)
    obtain rfl := Source.edge.inj hsource
    obtain ⟨hauth, ⟨-, hsame, -⟩, -⟩ := takeAuthConn_eq_some htake
    obtain ⟨hle, hedge⟩ := h.edge accept generation _ hbutton
    have heq := hsame.eq_of_lt hle htimely
    exact (hedge heq.symm).1 (by simp [hauth])

/-- The end of the handling of an edge. -/
theorem EdgeInv.answered (h : EdgeInv state) {record : Record} {button : ButtonThread}
    (hbutton : ∀ accept generation armedFor, button ≠ .replying accept generation armedFor) :
    EdgeInv { state with record, button } :=
  ⟨fun accept generation armedFor hreplying ↦ absurd hreplying (hbutton accept generation armedFor), h.bound⟩

/-- **Every timely step keeps the edges bound.** -/
theorem EdgeInv.step (h : EdgeInv state) (hinv : Inv state) {timeoutMs : ℤ} {action : Action}
    (htimely : timely state action = true)
    (hstep : state.step timeoutMs action = some state') : EdgeInv state' := by
  cases action
  all_goals
    simp only [State.step, Option.bind_eq_bind, Option.bind_eq_some_iff, Option.guard_eq_some',
      exists_const, Option.pure_def, Option.some.injEq] at hstep
  case connected conn bonded =>
    obtain ⟨-, rfl⟩ := hstep
    exact h.onConnected conn bonded
  case securityRequested err =>
    split at hstep
    · obtain rfl := Option.some.inj hstep
      exact h.securityRequested _ err
    · cases hstep
  case disconnected conn =>
    obtain ⟨-, rfl⟩ := hstep
    exact h.onDisconnected hinv conn
  case pairingAccept conn =>
    obtain ⟨-, rfl⟩ := hstep
    exact h.pairingAccept conn
  case passkeyDisplay conn =>
    obtain ⟨-, rfl⟩ := hstep
    exact h.fail conn
  case passkeyConfirm conn now =>
    obtain ⟨-, rfl⟩ := hstep
    exact h.onPasskeyConfirm timeoutMs conn now
  case authCancel conn =>
    obtain ⟨-, rfl⟩ := hstep
    exact h.authCancel hinv conn
  case pairingComplete conn =>
    obtain ⟨-, rfl⟩ := hstep
    have hauth : state.record.authConn ≠ some conn := of_decide_eq_true htimely
    simp only [Record.clearPending, hauth, if_false]
    exact h
  case pairingFailed conn =>
    obtain ⟨-, rfl⟩ := hstep
    exact h.clearFail hinv conn
  case securityError conn =>
    obtain ⟨-, rfl⟩ := hstep
    exact h.clearFail hinv conn
  case securityChanged conn level4 live =>
    obtain ⟨-, rfl⟩ := hstep
    exact h.record rfl id id
  case securityApplied now =>
    split at hstep
    · obtain rfl := Option.some.inj hstep
      exact h.securityApplied now
    · cases hstep
  case buttonChanged down changed =>
    obtain ⟨-, rfl⟩ := hstep
    exact h.onButtonChanged hinv down changed
  case buttonReply now =>
    split at hstep
    · rename_i hbutton
      obtain rfl := Option.some.inj hstep
      simp only [timely, hbutton, decide_eq_true_eq] at htimely
      exact h.onButtonReply now hbutton htimely
    · cases hstep
  case buttonAnswered err =>
    split at hstep
    · obtain rfl := Option.some.inj hstep
      exact h.answered fun _ _ _ ↦ by split_ifs <;> exact nofun
    · cases hstep
  case buttonFailing =>
    split at hstep
    · obtain rfl := Option.some.inj hstep
      exact h.answered nofun
    · cases hstep
  case arm down =>
    obtain rfl := hstep
    exact h.record rfl id id
  case timeout now =>
    obtain ⟨-, rfl⟩ := hstep
    unfold State.onTimeout
    split_ifs with hearly
    · exact h
    · split
      · exact h
      · rename_i htake
        exact h.take htake (.inl rfl) (fun _ hsource ↦ nomatch hsource)
  case timeoutFailing =>
    split at hstep
    · obtain rfl := Option.some.inj hstep
      exact (h.fail _).record rfl id id
    · cases hstep

end Steps

/-! ## The ceremony -/

/-- What holds in every reachable state of the ceremony. -/
structure Safe (state : State) : Prop where
  secured : state.record.secState = .l4Secured →
    state.observedIn = some state.record.connectionGeneration ∧
      (state.pairedIn ≠ some state.record.connectionGeneration ∨ Accepted state)
  once : (state.replies.map Reply.comparison).Nodup
  inTime : ∀ reply ∈ state.replies, reply.InTime state
  pending : ∀ conn, state.record.authConn = some conn → state.record.secState ≠ .failed →
    state.record.secState = .numericComparison ∧ state.record.trackedConn = some conn ∧
      state.record.authGeneration = state.record.connectionGeneration
  failed : ∀ timeoutMs action state', state.step timeoutMs action = some state' →
    state.record.secState = .failed → state'.record.secState = .failed ∨
      ∃ conn, action = .disconnected conn ∧ state.record.trackedConn = some conn

/-- No button edge answered another comparison than the one it was armed for. -/
def EdgeBound (state : State) : Prop :=
  ∀ reply ∈ state.replies, ∀ armedFor, reply.source = .edge armedFor → reply.comparison = armedFor

theorem Inv.safe {state : State} (h : Inv state) : Safe state where
  secured hl4 := by
    obtain ⟨-, hobserved, hdecided⟩ := h.secured hl4
    refine ⟨hobserved, ?_⟩
    rcases hdecided with hno | hyes
    · left
      intro hpaired
      have htracked : state.record.trackedConn ≠ none := by
        intro hnone
        simp [h.untracked hnone] at hl4
      exact absurd ((h.paired htracked).mpr hpaired) (by simp [hno])
    · exact .inr (h.accepted hyes)
  once := h.replies
  inTime := h.inTime
  pending conn hauth hfailed := by
    have hpending := h.pending conn hauth
    exact ⟨hpending.comparing hfailed, hpending.tracked, hpending.generation⟩
  failed _ _ _ hstep hfailed := h.failed_step hstep hfailed

/-- **Safety of the ceremony.**  Every reachable state is safe, and in every timely run each button edge
answered only the comparison it was armed for. -/
theorem ceremony_safety {timeoutMs : ℤ} {actions : List Action} {state : State}
    (hrun : run (State.step timeoutMs) State.boot actions = some state) :
    Safe state ∧ (Meets (State.step timeoutMs) (fun state action ↦ timely state action = true)
      State.boot actions → EdgeBound state) := by
  have hinv : Inv state := run_invariant (fun _ _ _ h hstep ↦ h.step hstep) inv_boot hrun
  refine ⟨hinv.safe, fun hmeets ↦ ?_⟩
  have hboth : Inv state ∧ EdgeInv state := by
    refine run_invariant_of_meets (P := fun s ↦ Inv s ∧ EdgeInv s) ?_ ?_ hmeets hrun
    · rintro s action t ⟨hs, he⟩ htimely hstep
      exact ⟨hs.step hstep, he.step hs htimely hstep⟩
    · exact ⟨inv_boot, ⟨fun _ _ _ hbutton ↦ (nomatch hbutton), fun _ hmem ↦ (nomatch hmem)⟩⟩
  exact hboth.2.bound

/-- The first accepted comparison of a bonded-less connection, up to the secured link. -/
def honestActions : List Action :=
  [.connected 1 false, .pairingAccept 1, .passkeyConfirm 1 0, .arm ⟨false, false⟩,
    .buttonChanged ⟨true, false⟩ ⟨true, false⟩, .buttonReply 5, .buttonAnswered false,
    .securityChanged 1 true true, .securityApplied 7, .pairingComplete 1]

/-- The ceremony for an accepted comparison. -/
theorem ceremony_safety_honest :
    ∃ state, run (State.step 30000) State.boot honestActions = some state ∧
      state.record.secState = .l4Secured ∧ state.replies.length = 1 ∧ Safe state ∧
      EdgeBound state := by
  have hrun : ((run (State.step 30000) State.boot honestActions).any fun state ↦
      state.record.secState = .l4Secured ∧ state.replies.length = 1) = true := by
    decide +kernel
  obtain ⟨state, hstate, hcheck⟩ := (Option.any_eq_true _ _).mp hrun
  obtain ⟨hl4, hreplies⟩ := of_decide_eq_true hcheck
  have hmeets : Meets (State.step 30000) (fun state action ↦ timely state action = true)
      State.boot honestActions := by
    decide +kernel
  obtain ⟨hsafe, hbound⟩ := ceremony_safety hstate
  exact ⟨state, hstate, hl4, hreplies, hsafe, hbound hmeets⟩

/-! ## Where an edge answers a later comparison -/

/-- A pairing completes while its comparison is unanswered, and the stack asks for a second one. -/
def repeatedActions : List Action :=
  [.connected 1 false, .pairingAccept 1, .passkeyConfirm 1 0, .arm ⟨false, false⟩,
    .buttonChanged ⟨true, false⟩ ⟨true, false⟩, .pairingComplete 1, .passkeyConfirm 1 1,
    .buttonReply 5]

/-- The edge of the first connection is read, and the connection ends before the reply. -/
def lateActions : List Action :=
  [.connected 1 false, .pairingAccept 1, .passkeyConfirm 1 0, .arm ⟨false, false⟩,
    .buttonChanged ⟨true, false⟩ ⟨true, false⟩, .disconnected 1, .connected 2 false, .disconnected 2]

/-- A comparison on a last connection, and the reply of the old edge. -/
def lastActions : List Action :=
  [.connected 3 false, .pairingAccept 3, .passkeyConfirm 3 1, .buttonReply 5]

/-- A button edge is read on the first of `2 ^ 31 + 1` connections and answers on the last. -/
def wrappedActions : List Action :=
  lateActions ++
    ((List.replicate (2 ^ 31 - 2) [Action.connected 2 false, .disconnected 2]).flatten ++ lastActions)

/-- A record without a connection, an accepted pairing or a pending comparison. -/
def Record.idle (record : Record) (generation : ℕ) : Record :=
  { record with
    trackedConn := none
    authConn := none
    secState := .disconnected
    connectionGeneration := generation
    securedGeneration := 0
    pairingAttempted := false
    ncAccepted := false
    buttonsArmed := false }

/-- A connection that comes and goes without a ceremony only counts the generations. -/
theorem run_idle_connection (timeoutMs : ℤ) (state : State) (generation : ℕ)
    (hhost : state.host = .idle) (hbutton : state.button.conn = none)
    (htimer : state.timer.conn = none) :
    run (State.step timeoutMs) { state with record := state.record.idle generation }
        [.connected 2 false, .disconnected 2] =
      some { state with record := state.record.idle (generation + 2) } := by
  simp [run_cons, State.step, hhost, State.Referenced, Record.idle, hbutton, htimer,
    State.onConnected, Record.onConnected, Record.onDisconnected, Record.clearPending]

/-- Many such connections. -/
theorem run_idle_connections (timeoutMs : ℤ) (state : State) (generation n : ℕ)
    (hhost : state.host = .idle) (hbutton : state.button.conn = none)
    (htimer : state.timer.conn = none) :
    run (State.step timeoutMs) { state with record := state.record.idle generation }
        (List.replicate n [Action.connected 2 false, .disconnected 2]).flatten =
      some { state with record := state.record.idle (generation + 2 * n) } := by
  induction n generalizing generation with
  | zero => rfl
  | succ n ih =>
    have hcount : generation + 2 + 2 * n = generation + 2 * (n + 1) := by
      omega
    rw [List.replicate_succ, List.flatten_cons, run_append,
      run_idle_connection timeoutMs state generation hhost hbutton htimer, Option.bind_some, ih,
      hcount]

/-- The state that `lateActions` leaves. -/
def lateState : State := { State.boot with
  record := { Record.boot with
    connectionGeneration := 4
    authGeneration := 1
    ncDeadline := 30000 }
  button := .replying true 1 0
  comparisons := [⟨1, 1, 30000⟩]
  pairedIn := some 1 }

/-- An edge that answered another comparison than its own. -/
theorem not_edgeBound_of_mem {state : State} {comparison armedFor : ℕ} {accept : Bool} {time : ℤ}
    (hmem : ⟨comparison, accept, .edge armedFor, time⟩ ∈ state.replies)
    (hne : comparison ≠ armedFor) : ¬EdgeBound state :=
  fun hbound ↦ hne (hbound _ hmem armedFor rfl)

/-- An edge armed for the comparison 0 accepts the comparison 1: on the same connection, after a pairing
that completed while the comparison 0 was unanswered, and on a connection `2 ^ 32` generations later. -/
theorem edge_answers_later_comparison :
    (∃ state, run (State.step 30000) State.boot repeatedActions = some state ∧ ¬EdgeBound state) ∧
      ∃ state, run (State.step 30000) State.boot wrappedActions = some state ∧ ¬EdgeBound state := by
  constructor
  · have hrun : ((run (State.step 30000) State.boot repeatedActions).any fun state ↦
        decide (⟨1, true, .edge 0, 5⟩ ∈ state.replies)) = true := by
      decide +kernel
    obtain ⟨state, hstate, hcheck⟩ := (Option.any_eq_true _ _).mp hrun
    exact ⟨state, hstate, not_edgeBound_of_mem (of_decide_eq_true hcheck) (by decide)⟩
  · have hlate : run (State.step 30000) State.boot lateActions =
        some { lateState with record := lateState.record.idle 4 } := by
      decide +kernel
    have hidle := run_idle_connections 30000 lateState 4 (2 ^ 31 - 2) rfl rfl rfl
    have hlast : ((run (State.step 30000)
        { lateState with record := lateState.record.idle (4 + 2 * (2 ^ 31 - 2)) } lastActions).any
          fun state ↦ decide (⟨1, true, .edge 0, 5⟩ ∈ state.replies)) = true := by
      decide +kernel
    obtain ⟨state, hstate, hcheck⟩ := (Option.any_eq_true _ _).mp hlast
    refine ⟨state, ?_, not_edgeBound_of_mem (of_decide_eq_true hcheck) (by decide)⟩
    rw [wrappedActions, run_append, hlate, Option.bind_some, run_append, hidle, Option.bind_some,
      hstate]

end PqBleHandshake.Security
