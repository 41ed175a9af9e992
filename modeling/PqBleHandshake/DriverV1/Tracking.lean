import PqBleHandshake.DriverV1.Protocol

/-!
# The state of a run against the protocol

`Tracks` ties the variables of a run to a stage of the protocol, and `Closed` says that the run was there when its
session was cleared.  Whatever arrives during an await keeps the stage or closes the session there.
-/

namespace PqBleHandshake.Python.V1

open Foundation Effect

/-! ## What the protocol sees of the state -/

/-- The variables that the protocol is about. -/
structure View where
  trace : List Event
  session : CentralHandshake
  app : Option Channel
  active : Bool
  reply : Option Reply
  held : Held
  cp4 : Bool
  secret : Bytes
  result : Result

/-- The variables that the protocol is about. -/
def World.view (w : World) : View where
  trace := w.trace
  session := w.session
  app := w.app
  active := w.applicationActive
  reply := w.reply
  held := w.client.v1Cp3Session
  cp4 := w.client.v1Cp4Session
  secret := w.secret
  result := w.result

/-- The initialization vectors of the application are zero. -/
def View.Wiped (v : View) : Prop := ∀ channel ∈ v.app, channel.ivC2p = .zero 12 ∧ channel.ivP2c = .zero 12

/-- The result claims no more than the stage. -/
structure Truthful (result : Result) (stage : Stage) : Prop where
  securityInfo : result.securityInfo.isSome = true → 14 ≤ stage.rank
  denials : result.preL4Denials <+: stage.denied
  publicKeyLen : result.publicKeyLen ≠ 0 → 5 ≤ stage.rank
  ciphertextFragments : result.ciphertextFragments ≠ 0 → 6 ≤ stage.rank
  startSent : result.startSent = true → 11 ≤ stage.rank
  transcriptMatch : result.transcriptMatch = true → 12 ≤ stage.rank
  finishedCSent : result.finishedCSent = true → 13 ≤ stage.rank
  finishedPVerified : result.finishedPVerified = true → 14 ≤ stage.rank
  appSecure : result.appSecure = true → 14 ≤ stage.rank
  rounds : result.authenticatedRounds ≤ stage.pongs

/-- What the result says of an event that the trace records. -/
def Result.Notes (result : Result) : Event → Prop
  | .paired => result.bonded = false ∧ result.preL4Denials = preL4Probes
  | .bonded => result.bonded = true ∧ result.preL4Denials = []
  | .transferred fragments => result.ciphertextFragments = fragments.length
  | _ => True

section Tracking

variable (crypto : Crypto) (aead : Aead)

/-- The session is alive, and the run is at the stage. -/
structure Tracks (stage : Stage) (result : Result) (v : View) : Prop where
  reaches : Reaches crypto aead v.trace stage
  session : v.session = stage.session
  alive : v.session.state ≠ .closed
  app : v.app = stage.app
  active : v.active = stage.active
  reply : stage.waits = false → v.reply ≠ some .pending
  held : 2 ≤ stage.rank → v.held = .mine
  cp4 : v.app.isSome = true → v.cp4 = true
  reported : v.result = result
  truthful : Truthful result stage
  noted : ∀ event ∈ v.trace, result.Notes event

/-- The session was cleared at the stage, and nothing was sent or accepted since. -/
structure Closed (stage : Stage) (result : Result) (v : View) : Prop where
  trace : ∃ past, v.trace = .closed :: past ∧ Reaches crypto aead past stage
  session : v.session.Closed
  owned : v.cp4 = true ∨ v.Wiped
  reported : v.result = result
  truthful : Truthful result stage
  noted : ∀ event ∈ v.trace, result.Notes event

/-- The run is at the stage, or it was when its session was cleared. -/
def At (stage : Stage) (result : Result) (v : View) : Prop :=
  Tracks crypto aead stage result v ∨ Closed crypto aead stage result v ∧ v.Wiped

/-- Where a run can be when it raises. -/
def Halted (v : View) : Prop :=
  ∃ stage result, Tracks crypto aead stage result v ∨ Closed crypto aead stage result v

end Tracking

variable {crypto : Crypto} {aead : Aead} {stage next : Stage} {result : Result} {v : View} {w : World}

theorem Tracks.at (h : Tracks crypto aead stage result v) : At crypto aead stage result v := .inl h

theorem Tracks.halted (h : Tracks crypto aead stage result v) : Halted crypto aead v := ⟨stage, result, .inl h⟩

theorem At.halted (h : At crypto aead stage result v) : Halted crypto aead v :=
  ⟨stage, result, h.imp_right And.left⟩

theorem At.tracks (h : At crypto aead stage result v) (halive : v.session.state ≠ .closed) :
    Tracks crypto aead stage result v :=
  h.resolve_right fun hclosed ↦ halive hclosed.1.session.state

/-! ## Moves -/

/-- The protocol goes forward. -/
theorem Moves.forward {event : Option Event} (h : Moves crypto aead stage event next) (hevent : event ≠ some .closed) :
    stage.denied <+: next.denied ∧ stage.pongs ≤ next.pongs := by
  cases h with
  | denied => exact ⟨List.prefix_append _ _, le_rfl⟩
  | bonded => exact ⟨List.nil_prefix, le_rfl⟩
  | encrypt hcount hlength hencrypt =>
    refine ⟨List.prefix_rfl, ?_⟩
    rcases CentralApplication.encryptPing_cases hencrypt with ⟨_, _, -, hpinged⟩ | ⟨hnone, -⟩
    · rw [hpinged.app_eq]
      exact le_rfl
    · cases hnone
  | pong haccept =>
    refine ⟨List.prefix_rfl, ?_⟩
    rcases CentralApplication.acceptPong_cases haccept with ⟨_, _, -, hponged⟩ | ⟨hnone, -⟩
    · rw [hponged.app_eq]
      exact Nat.le_succ _
    · cases hnone
  | ping => exact ⟨List.prefix_rfl, le_rfl⟩
  | close => exact absurd rfl hevent
  | _ => exact ⟨List.prefix_rfl, Nat.zero_le _⟩

theorem Truthful.forward (h : Truthful result stage) {event : Option Event}
    (hmove : Moves crypto aead stage event next) (hevent : event ≠ some .closed) : Truthful result next where
  securityInfo hinfo := (h.securityInfo hinfo).trans hmove.rank_le.1
  denials := h.denials.trans (hmove.forward hevent).1
  publicKeyLen hread := (h.publicKeyLen hread).trans hmove.rank_le.1
  ciphertextFragments hsent := (h.ciphertextFragments hsent).trans hmove.rank_le.1
  startSent hsent := (h.startSent hsent).trans hmove.rank_le.1
  transcriptMatch hmatch := (h.transcriptMatch hmatch).trans hmove.rank_le.1
  finishedCSent hsent := (h.finishedCSent hsent).trans hmove.rank_le.1
  finishedPVerified hverified := (h.finishedPVerified hverified).trans hmove.rank_le.1
  appSecure hsecure := (h.appSecure hsecure).trans hmove.rank_le.1
  rounds := h.rounds.trans (hmove.forward hevent).2

/-- A trace is extended by what a move records. -/
theorem Reaches.move {trace : List Event} {event : Option Event} (h : Reaches crypto aead trace stage)
    (hmove : Moves crypto aead stage event next) : Reaches crypto aead (event.toList ++ trace) next := by
  cases event with
  | none => exact h.silent hmove
  | some event => exact h.step hmove

/-- **A move of a run whose session is alive.** -/
theorem Tracks.move (h : Tracks crypto aead stage result v) {event : Option Event}
    (hmove : Moves crypto aead stage event next) (hevent : event ≠ some .closed)
    (hnotes : event.elim True result.Notes) {v' : View}
    (htrace : v'.trace = event.toList ++ v.trace) (hsession : v'.session = next.session)
    (halive : v'.session.state ≠ .closed) (happ : v'.app = next.app) (hactive : v'.active = next.active)
    (hreply : next.waits = false → v'.reply ≠ some .pending)
    (hheld : 2 ≤ next.rank → v'.held = .mine) (hcp4 : v'.app.isSome = true → v'.cp4 = true)
    (hresult : v'.result = v.result) : Tracks crypto aead next result v' where
  reaches := htrace ▸ h.reaches.move hmove
  session := hsession
  alive := halive
  app := happ
  active := hactive
  reply := hreply
  held := hheld
  cp4 := hcp4
  reported := hresult.trans h.reported
  truthful := h.truthful.forward hmove hevent
  noted := by
    rw [htrace]
    cases event with
    | none => exact h.noted
    | some event => exact List.forall_mem_cons.mpr ⟨hnotes, h.noted⟩

/-- A move that records an event and changes nothing else. -/
theorem Tracks.record (h : Tracks crypto aead stage result v) {event : Event}
    (hmove : Moves crypto aead stage (some event) next) (hevent : event ≠ .closed) (hnotes : result.Notes event)
    (hsession : next.session = stage.session) (happ : next.app = stage.app) (hactive : next.active = stage.active)
    (hwaits : next.waits = false → stage.waits = false) (hheld : 2 ≤ next.rank → 2 ≤ stage.rank) :
    Tracks crypto aead next result { v with trace := event :: v.trace } :=
  h.move hmove (fun hclosed ↦ hevent (Option.some.inj hclosed)) hnotes rfl (h.session.trans hsession.symm) h.alive
    (h.app.trans happ.symm) (h.active.trans hactive.symm) (fun hnext ↦ h.reply (hwaits hnext)) (fun hrank ↦ h.held (hheld hrank))
    h.cp4 rfl

/-! ## Clearing -/

theorem View.Wiped.of_none (h : v.app = none) : v.Wiped := by
  intro channel hmem
  rw [h] at hmem
  cases hmem

/-- The application is wiped, or the client still holds it. -/
theorem Tracks.owned (h : Tracks crypto aead stage result v) : v.cp4 = true ∨ v.Wiped := by
  by_cases happ : v.app.isSome = true
  · exact .inl (h.cp4 happ)
  · exact .inr (View.Wiped.of_none (Option.not_isSome_iff_eq_none.mp happ))

theorem Closed.of_view {v' : View} (h : Closed crypto aead stage result v) (htrace : v'.trace = v.trace)
    (hsession : v'.session = v.session) (howned : v'.cp4 = true ∨ v'.Wiped) (hresult : v'.result = v.result) :
    Closed crypto aead stage result v' where
  trace := htrace ▸ h.trace
  session := hsession ▸ h.session
  owned := howned
  reported := hresult.trans h.reported
  truthful := h.truthful
  noted := htrace ▸ h.noted

/-- Clearing the session closes it where the run is. -/
theorem Tracks.clearSession (h : Tracks crypto aead stage result w.view) :
    Closed crypto aead stage result w.clearSession.view where
  trace := ⟨w.trace, if_neg h.alive, h.reaches⟩
  session := CentralHandshake.closed_clear _
  owned := h.owned
  reported := h.reported
  truthful := h.truthful
  noted := by
    rw [show w.clearSession.view.trace = .closed :: w.trace from if_neg h.alive]
    exact List.forall_mem_cons.mpr ⟨trivial, h.noted⟩

/-- A closed session stays closed. -/
theorem Closed.clearSession (h : Closed crypto aead stage result w.view) :
    Closed crypto aead stage result w.clearSession.view where
  trace := by
    obtain ⟨past, htrace, hreaches⟩ := h.trace
    exact ⟨past, (if_pos h.session.state).trans htrace, hreaches⟩
  session := CentralHandshake.closed_clear _
  owned := h.owned
  reported := h.reported
  truthful := h.truthful
  noted := by
    rw [show w.clearSession.view.trace = w.trace from if_pos h.session.state]
    exact h.noted

theorem Wiped.clearApp (w : World) : w.clearApp.view.Wiped := by
  unfold World.clearApp
  split_ifs with happ
  · intro channel hmem
    obtain ⟨_, -, rfl⟩ := Option.mem_map.mp hmem
    exact ⟨rfl, rfl⟩
  · exact View.Wiped.of_none (Option.not_isSome_iff_eq_none.mp happ)

theorem Closed.clearApp (h : Closed crypto aead stage result w.view) :
    Closed crypto aead stage result w.clearApp.view := by
  have hwiped := Wiped.clearApp w
  unfold World.clearApp at hwiped ⊢
  split_ifs at hwiped ⊢
  · exact h.clearSession.of_view rfl rfl (.inr hwiped) rfl
  · exact h

/-- Clearing the application closes the session, where there is an application. -/
theorem At.clearApp (h : At crypto aead stage result w.view) : At crypto aead stage result w.clearApp.view := by
  rcases h with htracks | ⟨hclosed, -⟩
  · by_cases happ : w.app.isSome = true
    · have hwiped := Wiped.clearApp w
      rw [World.clearApp, if_pos happ] at hwiped ⊢
      exact .inr ⟨htracks.clearSession.of_view rfl rfl (.inr hwiped) rfl, hwiped⟩
    · rw [World.clearApp, if_neg happ]
      exact .inl htracks
  · exact .inr ⟨hclosed.clearApp, Wiped.clearApp w⟩

theorem Halted.clearSession (h : Halted crypto aead w.view) : Halted crypto aead w.clearSession.view := by
  obtain ⟨stage, result, htracks | hclosed⟩ := h
  · exact ⟨stage, result, .inr htracks.clearSession⟩
  · exact ⟨stage, result, .inr hclosed.clearSession⟩

theorem Halted.clearApp (h : Halted crypto aead w.view) : Halted crypto aead w.clearApp.view := by
  obtain ⟨stage, result, htracks | hclosed⟩ := h
  · exact (At.clearApp (.inl htracks)).halted
  · exact ⟨stage, result, .inr hclosed.clearApp⟩

/-- Before the client holds the session, it is new and has no application. -/
theorem Stage.of_rank_lt (h : stage.rank < 2) :
    stage.session = {} ∧ stage.app = none ∧ stage.active = false ∧ stage.waits = false := by
  cases stage <;> first
    | exact ⟨rfl, rfl, rfl, rfl⟩
    | exact absurd h (by simp only [Stage.rank]; decide)

theorem Closed.release (h : Closed crypto aead stage result w.view) (hwiped : w.view.Wiped) :
    Closed crypto aead stage result w.release.view := by
  unfold World.release
  split_ifs
  · exact h.clearSession.of_view rfl rfl (.inr hwiped) rfl
  · exact h.of_view rfl rfl (.inr hwiped) rfl

theorem Wiped.release (hwiped : w.view.Wiped) : w.release.view.Wiped := by
  unfold World.release
  split_ifs
  · exact hwiped
  · exact hwiped

/-- The client lets go of a session whose application is wiped. -/
theorem At.release (h : At crypto aead stage result w.view) (hwiped : w.view.Wiped) :
    At crypto aead stage result w.release.view := by
  rcases h with htracks | ⟨hclosed, -⟩
  · unfold World.release
    split_ifs with hheld
    · exact .inr ⟨htracks.clearSession.of_view rfl rfl (.inr hwiped) rfl, hwiped⟩
    · have hrank : stage.rank < 2 := not_le.mp fun hrank ↦ hheld (htracks.held hrank)
      refine .inl { htracks with
        held := fun h ↦ absurd hrank (not_lt.mpr h)
        cp4 := fun hsome ↦ ?_ }
      have hnone : w.app = none := htracks.app.trans ((Stage.of_rank_lt hrank).2.1)
      have hsome : w.app.isSome = true := hsome
      rw [hnone] at hsome
      cases hsome
  · exact .inr ⟨hclosed.release hwiped, Wiped.release hwiped⟩

/-- What the client no longer owns of an application is wiped. -/
theorem Wiped.of_owned (howned : w.view.cp4 = true ∨ w.view.Wiped) (hcp4 : ¬w.client.v1Cp4Session = true) :
    w.view.Wiped := howned.resolve_left hcp4

/-- The client lets go of a run: its session is closed, or there was none yet. -/
theorem At.clearV1Cp3 (h : At crypto aead stage result w.view) : At crypto aead stage result w.clearV1Cp3.view := by
  unfold World.clearV1Cp3
  split_ifs with hcp4
  · exact h.clearApp.release (Wiped.clearApp w)
  · refine h.release (Wiped.of_owned ?_ hcp4)
    rcases h with htracks | ⟨hclosed, -⟩
    · exact htracks.owned
    · exact hclosed.owned

theorem Wiped.clearV1Cp3 (howned : w.view.cp4 = true ∨ w.view.Wiped) : w.clearV1Cp3.view.Wiped := by
  unfold World.clearV1Cp3
  split_ifs with hcp4
  · exact Wiped.release (Wiped.clearApp w)
  · exact Wiped.release (Wiped.of_owned howned hcp4)

theorem Closed.clearV1Cp3 (h : Closed crypto aead stage result w.view) :
    Closed crypto aead stage result w.clearV1Cp3.view := by
  unfold World.clearV1Cp3
  split_ifs with hcp4
  · exact h.clearApp.release (Wiped.clearApp w)
  · exact h.release (Wiped.of_owned h.owned hcp4)

/-! ## Arrivals -/

/-- An assertion that the callbacks of the loop keep. -/
structure Stable (P : View → Prop) : Prop where
  reply : ∀ v reply, P v → reply ≠ some Reply.pending → P { v with reply }
  clearApp : ∀ w : World, P w.view → P w.clearApp.view
  clearSession : ∀ w : World, w.applicationActive = false → P w.view → P w.clearSession.view
  clearV1Cp3 : ∀ w : World, P w.view → P w.clearV1Cp3.view

theorem Stable.deliver {P : View → Prop} (hP : Stable P) (h : P w.view) (linked : Bool) (data : Bytes) :
    P (w.deliverNotification linked data).view := by
  unfold World.deliverNotification World.onApplication
  split_ifs with hactive hlive hpending hretired
  · exact hP.reply _ _ h nofun
  · exact hP.reply _ _ (hP.clearApp w h) nofun
  · exact hP.reply _ _ (hP.clearApp w h) hpending
  · exact hP.clearSession w (Bool.eq_false_of_not_eq_true hactive) h
  · exact h

theorem Stable.arrive {P : View → Prop} (hP : Stable P) (h : P w.view) (arrival : Arrival) :
    P (w.arrive arrival).view := by
  cases arrival with
  | notification data => exact h
  | disconnected =>
    unfold World.arrive
    split_ifs
    · exact h
    · exact hP.clearV1Cp3 w h
  | turn linked =>
    unfold World.arrive
    dsimp only
    split
    · exact h
    · next data rest hready =>
      exact hP.deliver (show P { w with ready := rest }.view from h) linked data
    · exact h

/-- Whatever arrives during an await. -/
theorem Stable.arrivals {P : View → Prop} (hP : Stable P) (arrivals : List Arrival) (h : P w.view) :
    P (arrivals.foldl World.arrive w).view := by
  induction arrivals generalizing w with
  | nil => exact h
  | cons arrival rest ih => exact ih (hP.arrive h arrival)

theorem Stable.and {P Q : View → Prop} (hP : Stable P) (hQ : Stable Q) : Stable fun v ↦ P v ∧ Q v where
  reply v reply h hreply := ⟨hP.reply v reply h.1 hreply, hQ.reply v reply h.2 hreply⟩
  clearApp w h := ⟨hP.clearApp w h.1, hQ.clearApp w h.2⟩
  clearSession w hactive h := ⟨hP.clearSession w hactive h.1, hQ.clearSession w hactive h.2⟩
  clearV1Cp3 w h := ⟨hP.clearV1Cp3 w h.1, hQ.clearV1Cp3 w h.2⟩

theorem Stable.exists {ι : Type} {P : ι → View → Prop} (hP : ∀ i, Stable (P i)) : Stable fun v ↦ ∃ i, P i v where
  reply v reply h hreply := h.imp fun i hi ↦ (hP i).reply v reply hi hreply
  clearApp w h := h.imp fun i hi ↦ (hP i).clearApp w hi
  clearSession w hactive h := h.imp fun i hi ↦ (hP i).clearSession w hactive hi
  clearV1Cp3 w h := h.imp fun i hi ↦ (hP i).clearV1Cp3 w hi

/-- The buffer of the shared secret is wiped. -/
def View.SecretGone (v : View) : Prop := ∀ b ∈ v.secret, b = 0

theorem secret_clearApp (w : World) : w.clearApp.secret = w.secret := by
  unfold World.clearApp
  split_ifs <;> rfl

theorem secret_clearV1Cp3 (w : World) : w.clearV1Cp3.secret = w.secret := by
  unfold World.clearV1Cp3 World.release
  split_ifs <;> first
    | rfl
    | exact secret_clearApp w

theorem stable_secretGone : Stable View.SecretGone where
  reply _ _ h _ := h
  clearApp w h := by
    show ∀ b ∈ w.clearApp.secret, b = 0
    rw [secret_clearApp]
    exact h
  clearSession _ _ h := h
  clearV1Cp3 w h := by
    show ∀ b ∈ w.clearV1Cp3.secret, b = 0
    rw [secret_clearV1Cp3]
    exact h

theorem Tracks.settle (h : Tracks crypto aead stage result v) (reply : Option Reply) (hreply : reply ≠ some .pending) :
    Tracks crypto aead stage result { v with reply } :=
  { h with reply := fun _ ↦ hreply }

theorem stable_at (crypto : Crypto) (aead : Aead) (stage : Stage) (result : Result) :
    Stable (At crypto aead stage result) where
  reply v reply h hreply := by
    rcases h with htracks | ⟨hclosed, hwiped⟩
    · exact .inl (htracks.settle _ hreply)
    · exact .inr ⟨hclosed.of_view rfl rfl hclosed.owned rfl, hwiped⟩
  clearApp _ h := h.clearApp
  clearSession w hactive h := by
    rcases h with htracks | ⟨hclosed, hwiped⟩
    · refine .inr ⟨htracks.clearSession, View.Wiped.of_none ?_⟩
      have hinactive : stage.active = false := htracks.active.symm.trans hactive
      refine Eq.trans (b := w.app) rfl (htracks.app.trans ?_)
      cases stage <;> first
        | rfl
        | cases hinactive
    · exact .inr ⟨hclosed.clearSession, hwiped⟩
  clearV1Cp3 _ h := h.clearV1Cp3

theorem stable_halted (crypto : Crypto) (aead : Aead) : Stable (Halted crypto aead) where
  reply v reply h hreply := by
    obtain ⟨stage, result, htracks | hclosed⟩ := h
    · exact ⟨stage, result, .inl (htracks.settle _ hreply)⟩
    · exact ⟨stage, result, .inr (hclosed.of_view rfl rfl hclosed.owned rfl)⟩
  clearApp _ h := h.clearApp
  clearSession _ _ h := h.clearSession
  clearV1Cp3 _ h := by
    obtain ⟨stage, result, htracks | hclosed⟩ := h
    · exact htracks.at.clearV1Cp3.halted
    · exact ⟨stage, result, .inr hclosed.clearV1Cp3⟩

end PqBleHandshake.Python.V1
