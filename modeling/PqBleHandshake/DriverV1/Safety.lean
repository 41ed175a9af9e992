import PqBleHandshake.DriverV1.Transcript

/-!
# What a caller of v1.0 can rely on

Whatever arrives and whichever call fails, a run follows the protocol; where it returns, every frame of it is known
and the result says so.  A run that raises leaves no key, and one that returns keeps its keys until the first
notification or the disconnect.
-/

namespace PqBleHandshake.Python.V1

open Foundation Effect

variable {crypto : Crypto} {aead : Aead} {env : ℕ → Answer} {stage : Stage} {result : Result} {w : World}

/-! ## Runs follow the protocol -/

/-- The result of a run that went through `rounds` rounds after an opening. -/
structure Result.Complete (result : Result) (o : Opening) (rounds : ℕ) : Prop where
  level4 : ∃ info, result.securityInfo = some info ∧ isAuthenticatedLevel4 info = true
  attested : result.securityInfo = parseSecInfo o.inputs.sec
  bonded : result.bonded = o.bonded
  denials : result.preL4Denials = if o.bonded = true then [] else preL4Probes
  publicKeyLen : result.publicKeyLen = o.inputs.pk.bytes.length
  ciphertextFragments : result.ciphertextFragments = o.fragments.length
  startSent : result.startSent = true
  transcriptMatch : result.transcriptMatch = true
  finishedCSent : result.finishedCSent = true
  finishedPVerified : result.finishedPVerified = true
  appSecure : result.appSecure = true
  rounds : result.authenticatedRounds = rounds

section Outcomes

variable (crypto : Crypto) (aead : Aead)

/-- The keys of a handshake after `count` rounds. -/
structure Intact (o : Opening) (rounds : List (Bytes × Bytes)) (w : World) : Prop where
  trace : w.trace = o.roundsTrace crypto aead rounds
  session : w.session = o.secure crypto
  app : ∀ channel ∈ w.app, channel = o.channel crypto rounds.length rounds.length

/-- The keys were cleared after `count` rounds. -/
structure Lost (o : Opening) (rounds : List (Bytes × Bytes)) (w : World) : Prop where
  trace : w.trace = .closed :: o.roundsTrace crypto aead rounds
  session : w.session.Closed
  wiped : w.view.Wiped

/-- A run went through the whole protocol, with `count` rounds. -/
def Completed (count : ℕ) (w : World) : Prop :=
  ∃ (o : Opening) (rounds : List (Bytes × Bytes)), o.Valid ∧ rounds.length = count ∧ w.result.Complete o count ∧
    o.Answered crypto aead rounds ∧ (Intact crypto aead o rounds w ∨ Lost crypto aead o rounds w)

/-- A run went through a part of the protocol, and its result claims no more and denies nothing of it. -/
def Stopped (w : World) : Prop :=
  ∃ stage past, Reaches crypto aead past stage ∧ Recorded crypto aead past stage ∧
    (w.trace = past ∨ w.trace = .closed :: past) ∧ Truthful w.result stage ∧ ∀ event ∈ w.trace, w.result.Notes event

end Outcomes

theorem Halted.stopped (h : Halted crypto aead w.view) : Stopped crypto aead w := by
  obtain ⟨stage, result, htracks | hclosed⟩ := h
  · have hreported : w.result = result := htracks.reported
    exact ⟨stage, w.trace, htracks.reaches, htracks.reaches.recorded, .inl rfl, hreported ▸ htracks.truthful,
      hreported ▸ htracks.noted⟩
  · have hreported : w.result = result := hclosed.reported
    obtain ⟨past, htrace, hreaches⟩ := hclosed.trace
    exact ⟨stage, past, hreaches, hreaches.recorded, .inr htrace, hreported ▸ hclosed.truthful,
      hreported ▸ hclosed.noted⟩

theorem At.reported {v : View} (h : At crypto aead stage result v) : v.result = result := by
  rcases h with htracks | ⟨hclosed, -⟩
  · exact htracks.reported
  · exact hclosed.reported

theorem At.noted {v : View} (h : At crypto aead stage result v) : ∀ event ∈ v.trace, result.Notes event := by
  rcases h with htracks | ⟨hclosed, -⟩
  · exact htracks.noted
  · exact hclosed.noted

/-- There is one security state of strict Level 4. -/
theorem eq_of_isAuthenticatedLevel4 {a b : SecurityInfo} (ha : isAuthenticatedLevel4 a = true)
    (hb : isAuthenticatedLevel4 b = true) : a = b := by
  simp only [isAuthenticatedLevel4, Bool.and_eq_true, decide_eq_true_eq] at ha hb
  obtain ⟨⟨⟨⟨⟨ha₁, ha₂⟩, ha₃⟩, ha₄⟩, ha₅⟩, ha₆⟩ := ha
  obtain ⟨⟨⟨⟨⟨hb₁, hb₂⟩, hb₃⟩, hb₄⟩, hb₅⟩, hb₆⟩ := hb
  cases a
  cases b
  simp_all

/-- The attestation of the transcript is strict. -/
theorem Opening.Valid.strict {o : Opening} (h : o.Valid) : Strict o.inputs.sec := by
  rw [h.second]
  exact ⟨_, rfl, rfl⟩

/-- The trace of a handshake is at the beginning of that of its rounds. -/
theorem Opening.handshakeTrace_subset (o : Opening) (rounds : List (Bytes × Bytes)) :
    o.handshakeTrace crypto ⊆ o.roundsTrace crypto aead rounds := by
  induction rounds with
  | nil => exact List.Subset.refl _
  | cons round earlier ih => exact fun event hmem ↦ List.mem_cons_of_mem _ (List.mem_cons_of_mem _ (ih hmem))

/-- What is noted of a handshake is what its opening is. -/
theorem Opening.notes {o : Opening} (h : ∀ event ∈ o.handshakeTrace crypto, result.Notes event) :
    result.bonded = o.bonded ∧ result.ciphertextFragments = o.fragments.length := by
  have htransfer : ∀ event ∈ transferTrace o.bonded o.first o.inputs.pk.bytes o.inputs.ct.bytes o.inputs.ss.bytes
      o.fragments, result.Notes event := by
    intro event hmem
    apply h
    simp only [handshakeTrace, readyTrace, trace, List.mem_cons]
    tauto
  refine ⟨?_, htransfer (.transferred o.fragments) List.mem_cons_self⟩
  have hprelude : ∀ event ∈ preludeTrace o.bonded, result.Notes event := by
    intro event hmem
    apply htransfer
    simp only [transferTrace, attestTrace, List.mem_cons]
    tauto
  cases hbonded : o.bonded <;> rw [hbonded] at hprelude
  · exact (hprelude .paired List.mem_cons_self).1
  · exact (hprelude .bonded List.mem_cons_self).1

/-- The result of a run that returned. -/
theorem complete_secured {o : Opening} (hvalid : o.Valid) {bonded : Bool} {info : SecurityInfo}
    (hlevel : isAuthenticatedLevel4 info = true) {fragments : ℕ} (rounds : ℕ) (hbonded : bonded = o.bonded)
    (hfragments : fragments = o.fragments.length) :
    Result.Complete
      { ({ Result.prepared bonded with securityInfo := some info } : Result).secured fragments with
        authenticatedRounds := rounds } o rounds where
  level4 := ⟨info, rfl, hlevel⟩
  attested := by
    obtain ⟨attested, hparse, hstrict⟩ := hvalid.strict
    rw [hparse, eq_of_isAuthenticatedLevel4 hstrict hlevel]
    rfl
  bonded := hbonded
  denials := by
    rw [← hbonded]
    rfl
  publicKeyLen := (Block.length_bytes _).symm
  ciphertextFragments := hfragments
  startSent := rfl
  transcriptMatch := rfl
  finishedCSent := rfl
  finishedPVerified := rfl
  appSecure := rfl
  rounds := rfl

theorem At.recorded {v : View} (h : At crypto aead stage result v) : ∃ trace, Recorded crypto aead trace stage := by
  rcases h with htracks | ⟨hclosed, -⟩
  · exact ⟨_, htracks.reaches.recorded⟩
  · obtain ⟨past, -, hreaches⟩ := hclosed.trace
    exact ⟨past, hreaches.recorded⟩

/-- A trace that leads to the end of the handshake. -/
theorem At.completed_secure {h : CentralHandshake} (hat : At crypto aead (.secure h) result w.view) :
    ∃ o : Opening, o.Valid ∧ (Intact crypto aead o [] w ∨ Lost crypto aead o [] w) := by
  rcases hat with htracks | ⟨hclosed, hwiped⟩
  · obtain ⟨o, hvalid, rfl, htrace⟩ := htracks.reaches.recorded
    have happ : w.app = none := htracks.app
    refine ⟨o, hvalid, .inl ⟨htrace, htracks.session, fun channel hmem ↦ ?_⟩⟩
    rw [happ] at hmem
    cases hmem
  · obtain ⟨past, htrace, hreaches⟩ := hclosed.trace
    obtain ⟨o, hvalid, rfl, rfl⟩ := hreaches.recorded
    exact ⟨o, hvalid, .inr ⟨htrace, hclosed.session, hwiped⟩⟩

/-- A trace that leads to the end of a round. -/
theorem At.completed_idle {h : CentralHandshake} {channel : Channel}
    (hat : At crypto aead (.idle h channel) result w.view) :
    ∃ (o : Opening) (rounds : List (Bytes × Bytes)), o.Valid ∧ rounds.length = channel.txC2p ∧
      o.Answered crypto aead rounds ∧ (Intact crypto aead o rounds w ∨ Lost crypto aead o rounds w) := by
  rcases hat with htracks | ⟨hclosed, hwiped⟩
  · obtain ⟨o, rounds, hvalid, rfl, rfl, hanswered, htrace⟩ := htracks.reaches.recorded
    have happ : w.app = some (o.channel crypto rounds.length rounds.length) := htracks.app
    refine ⟨o, rounds, hvalid, rfl, hanswered, .inl ⟨htrace, htracks.session, fun channel hmem ↦ ?_⟩⟩
    rw [happ] at hmem
    exact (Option.some.inj hmem).symm
  · obtain ⟨past, htrace, hreaches⟩ := hclosed.trace
    obtain ⟨o, rounds, hvalid, rfl, rfl, hanswered, rfl⟩ := hreaches.recorded
    exact ⟨o, rounds, hvalid, rfl, hanswered, .inr ⟨htrace, hclosed.session, hwiped⟩⟩

/-- Whatever was cleared at the end, the result notes the handshake of the keys. -/
theorem Opening.notes_of_keys {o : Opening} {rounds : List (Bytes × Bytes)}
    (hkeys : Intact crypto aead o rounds w ∨ Lost crypto aead o rounds w)
    (hnoted : ∀ event ∈ w.trace, result.Notes event) :
    result.bonded = o.bonded ∧ result.ciphertextFragments = o.fragments.length := by
  have hsubset : o.handshakeTrace crypto ⊆ o.roundsTrace crypto aead rounds := o.handshakeTrace_subset rounds
  have hall : ∀ event ∈ o.handshakeTrace crypto, result.Notes event := by
    intro event hmem
    apply hnoted
    rcases hkeys with hintact | hlost
    · rw [hintact.trace]
      exact hsubset hmem
    · rw [hlost.trace]
      exact List.mem_cons_of_mem _ (hsubset hmem)
  exact Opening.notes hall

theorem DoneCp3.completed {bonded : Bool} {info : SecurityInfo} (hlevel : isAuthenticatedLevel4 info = true)
    (h : DoneCp3 crypto aead { Result.prepared bonded with securityInfo := some info } w.view) :
    Completed crypto aead 0 w := by
  obtain ⟨session, fragments, hat⟩ := h
  obtain ⟨o, hvalid, hkeys⟩ := hat.completed_secure
  have hreported : w.result = _ := hat.reported
  have hnotes := Opening.notes_of_keys hkeys hat.noted
  exact ⟨o, [], hvalid, rfl, hreported ▸ complete_secured hvalid hlevel 0 hnotes.1 hnotes.2, trivial, hkeys⟩

theorem DoneCp4.completed {bonded : Bool} {info : SecurityInfo} (hlevel : isAuthenticatedLevel4 info = true)
    (h : DoneCp4 crypto aead { Result.prepared bonded with securityInfo := some info } w.view) :
    Completed crypto aead 2 w := by
  obtain ⟨session, fragments, channel, hat, hsent, -⟩ := h
  obtain ⟨o, rounds, hvalid, hlength, hanswered, hkeys⟩ := hat.completed_idle
  have hreported : w.result = _ := hat.reported
  have hnotes := Opening.notes_of_keys hkeys hat.noted
  exact ⟨o, rounds, hvalid, hlength.trans hsent, hreported ▸ complete_secured hvalid hlevel 2 hnotes.1 hnotes.2,
    hanswered, hkeys⟩

/-- **Every run of v1.0 follows the protocol.**  One that returns went through all of it. -/
theorem runV1_follows (crypto : Crypto) (aead : Aead) (env : ℕ → Answer) (earlier notified unpairFirst : Bool) :
    Wp (runV1Cp3 env crypto unpairFirst) (fun _ ↦ Completed crypto aead 0) (fun _ ↦ Stopped crypto aead)
        (World.initial earlier notified) ∧
      Wp (runV1Cp4 env crypto aead unpairFirst) (fun _ ↦ Completed crypto aead 2) (fun _ ↦ Stopped crypto aead)
        (World.initial earlier notified) := by
  have hfresh := fresh_initial crypto aead earlier notified
  refine ⟨wp_mono (triple_runV1Cp3 unpairFirst _ hfresh) ?_ ?_, wp_mono (triple_runV1Cp4 unpairFirst _ hfresh) ?_ ?_⟩
  · rintro _ w ⟨bonded, info, hlevel, hdone, -⟩
    exact hdone.completed hlevel
  · exact fun _ _ hgone ↦ hgone.halted.stopped
  · rintro _ w ⟨bonded, info, hlevel, hdone, -⟩
    exact hdone.completed hlevel
  · exact fun _ _ hgone ↦ hgone.halted.stopped

/-! ## Keys after a run -/

/-- Nothing of a run is left: no key, no initialization vector, no shared secret, and no hold of the client. -/
structure Blank (w : World) : Prop where
  session : Erased w.session
  wiped : w.view.Wiped
  secret : w.view.SecretGone
  held : w.client.v1Cp3Session ≠ .mine
  cp4 : w.client.v1Cp4Session = false

theorem Gone.blank (h : Gone crypto aead w.view) : Blank w := ⟨h.erased, h.wiped, h.secret, h.held, h.cp4⟩

/-- The keys of a session and of its application are gone. -/
def Cleared (v : View) : Prop := v.session.Closed ∧ v.Wiped

theorem closed_clearApp (h : w.session.Closed) : w.clearApp.session.Closed := by
  rcases session_clearApp w with hsame | hclear
  · rwa [hsame]
  · rw [hclear]
    exact CentralHandshake.closed_clear _

theorem closed_release (h : w.session.Closed) : w.release.session.Closed := by
  unfold World.release
  split_ifs
  · exact CentralHandshake.closed_clear _
  · exact h

theorem stable_cleared : Stable Cleared where
  reply _ _ h _ := h
  clearApp w h := ⟨closed_clearApp h.1, Wiped.clearApp w⟩
  clearSession w _ h := ⟨CentralHandshake.closed_clear _, h.2⟩
  clearV1Cp3 w h := by
    refine ⟨?_, Wiped.clearV1Cp3 (.inr h.2)⟩
    show w.clearV1Cp3.session.Closed
    unfold World.clearV1Cp3
    split_ifs
    · exact closed_release (closed_clearApp h.1)
    · exact closed_release h.1

/-- The notifications that the loop has not delivered. -/
def World.undelivered (w : World) : List Callback := w.ready.filter fun callback ↦ callback matches .deliver _

/-- The notifications that arrive. -/
def Arrival.notifications : Arrival → List Callback
  | .notification data => [.deliver data]
  | _ => []

/-- A run that has returned, whose keys are there. -/
structure Resting (w : World) : Prop where
  reply : w.reply ≠ some .pending
  held : w.client.v1Cp3Session = .mine
  keys : w.applicationActive = true ∧ w.app.isSome = true ∧ w.client.v1Cp4Session = true ∨
    w.applicationActive = false ∧ w.session.state = .appSecure ∧ w.app = none

theorem cleared_clearApp (happ : w.app.isSome = true) : Cleared w.clearApp.view := by
  refine ⟨?_, Wiped.clearApp w⟩
  unfold World.clearApp
  rw [if_pos happ]
  exact CentralHandshake.closed_clear _

/-- The delivery of a notification clears the keys. -/
theorem Resting.deliver (h : Resting w) (linked : Bool) (data : Bytes) :
    Cleared (w.deliverNotification linked data).view := by
  unfold World.deliverNotification
  rcases h.keys with ⟨hactive, happ, -⟩ | ⟨hinactive, hstate, hnone⟩
  · rw [if_pos hactive, World.onApplication, if_neg fun hlive ↦ h.reply hlive.2]
    exact cleared_clearApp happ
  · rw [if_neg (by rw [hinactive]; decide)]
    dsimp only
    rw [if_pos (Or.inl hstate)]
    exact ⟨CentralHandshake.closed_clear _, View.Wiped.of_none hnone⟩

/-- The disconnect callback clears the keys. -/
theorem Resting.disconnected (h : Resting w) : Cleared (w.arrive .disconnected).view := by
  have hheld : w.client.v1Cp3Session ≠ .none := by
    rw [h.held]
    decide
  unfold World.arrive
  rw [if_neg hheld]
  refine ⟨closed_clearV1Cp3 h.held, Wiped.clearV1Cp3 ?_⟩
  rcases h.keys with ⟨-, -, hcp4⟩ | ⟨-, -, hnone⟩
  · exact .inl hcp4
  · exact .inr (View.Wiped.of_none hnone)

/-- The keys of `w` are there after some arrivals: none of them was a disconnect, and no notification was delivered. -/
structure Kept (w : World) (arrivals : List Arrival) (w' : World) : Prop where
  session : w'.session = w.session
  app : w'.app = w.app
  linked : .disconnected ∉ arrivals
  undelivered : w'.undelivered = w.undelivered ++ arrivals.flatMap Arrival.notifications
  resting : Resting w'

theorem Resting.arrive (h : Resting w) (arrival : Arrival) :
    Kept w [arrival] (w.arrive arrival) ∨ Cleared (w.arrive arrival).view := by
  cases arrival with
  | notification data =>
    refine .inl ⟨rfl, rfl, by simp, ?_, h.reply, h.held, h.keys⟩
    simp [World.undelivered, World.arrive, Arrival.notifications, List.filter_append]
  | disconnected => exact .inr h.disconnected
  | turn linked =>
    unfold World.arrive
    dsimp only
    split
    · refine .inl ⟨rfl, rfl, by simp, ?_, h⟩
      simp [Arrival.notifications]
    · next data rest hready =>
      have hrest : Resting { w with ready := rest } := ⟨h.reply, h.held, h.keys⟩
      exact .inr (hrest.deliver linked data)
    · next data rest hready =>
      refine .inl ⟨rfl, rfl, by simp, ?_, h.reply, h.held, h.keys⟩
      simp [World.undelivered, Arrival.notifications, hready]

/-- Whatever arrives, the keys are kept or gone. -/
theorem Resting.arrivals (h : Resting w) (arrivals : List Arrival) :
    Kept w arrivals (arrivals.foldl World.arrive w) ∨ Cleared (arrivals.foldl World.arrive w).view := by
  induction arrivals generalizing w with
  | nil => exact .inl ⟨rfl, rfl, nofun, (List.append_nil _).symm, h⟩
  | cons arrival rest ih =>
    rw [List.foldl_cons]
    rcases h.arrive arrival with hkept | hcleared
    · rcases ih hkept.resting with hrest | hcleared
      · refine .inl ⟨hrest.session.trans hkept.session, hrest.app.trans hkept.app, ?_, ?_, hrest.resting⟩
        · exact List.not_mem_cons_of_ne_of_not_mem (List.ne_of_not_mem_cons hkept.linked) hrest.linked
        · rw [hrest.undelivered, hkept.undelivered, List.append_assoc, ← List.flatMap_append]
          rfl
      · exact .inr hcleared
    · exact .inr (stable_cleared.arrivals rest hcleared)

/-- The keys at the end of a run that returns. -/
theorem At.resting (hat : At crypto aead stage result w.view) (hwaits : stage.waits = false)
    (hrank : 2 ≤ stage.rank) (hkeys : stage.active = true ∧ stage.app.isSome = true ∨
      stage.active = false ∧ stage.session.state = .appSecure ∧ stage.app = none) :
    Resting w ∨ Cleared w.view := by
  rcases hat with htracks | ⟨hclosed, hwiped⟩
  · refine .inl ⟨htracks.reply hwaits, htracks.held hrank, ?_⟩
    have hactive : w.applicationActive = stage.active := htracks.active
    have happ : w.app = stage.app := htracks.app
    have hsession : w.session = stage.session := htracks.session
    rw [hactive, hsession]
    rcases hkeys with ⟨hactive, hsome⟩ | hkeys
    · have hsome : w.app.isSome = true := happ ▸ hsome
      exact .inl ⟨hactive, hsome, htracks.cp4 hsome⟩
    · rw [happ]
      exact .inr hkeys
  · exact .inr ⟨hclosed.session, hwiped⟩

/-- What a run that returned leaves: its keys until a notification is delivered or the link goes. -/
structure Guarded (w : World) : Prop where
  secret : w.view.SecretGone
  keys : ∀ arrivals : List Arrival, Kept w arrivals (arrivals.foldl World.arrive w) ∨ Cleared (arrivals.foldl World.arrive w).view

theorem guarded_of_resting (hsecret : w.view.SecretGone) (h : Resting w ∨ Cleared w.view) : Guarded w := by
  refine ⟨hsecret, fun arrivals ↦ ?_⟩
  rcases h with hresting | hcleared
  · exact hresting.arrivals arrivals
  · exact .inr (stable_cleared.arrivals arrivals hcleared)

theorem DoneCp3.guarded (h : DoneCp3 crypto aead result w.view) (hsecret : w.view.SecretGone) : Guarded w := by
  obtain ⟨session, fragments, hat⟩ := h
  refine guarded_of_resting hsecret (hat.resting rfl (Nat.le_of_ble_eq_true rfl) (.inr ⟨rfl, ?_, rfl⟩))
  obtain ⟨trace, o, -, hsession, -⟩ := hat.recorded
  rw [hsession]
  rfl

theorem DoneCp4.guarded (h : DoneCp4 crypto aead result w.view) (hsecret : w.view.SecretGone) : Guarded w := by
  obtain ⟨session, fragments, channel, hat, -⟩ := h
  exact guarded_of_resting hsecret (hat.resting rfl (Nat.le_of_ble_eq_true rfl) (.inl ⟨rfl, rfl⟩))

/-- **No run of v1.0 leaves a key that nothing guards.** -/
theorem runV1_failClosed (crypto : Crypto) (aead : Aead) (env : ℕ → Answer) (earlier notified unpairFirst : Bool) :
    Wp (runV1Cp3 env crypto unpairFirst) (fun _ ↦ Guarded)
        (fun _ w ↦ ∀ arrivals : List Arrival, Blank (arrivals.foldl World.arrive w)) (World.initial earlier notified) ∧
      Wp (runV1Cp4 env crypto aead unpairFirst) (fun _ ↦ Guarded)
        (fun _ w ↦ ∀ arrivals : List Arrival, Blank (arrivals.foldl World.arrive w)) (World.initial earlier notified) := by
  have hfresh := fresh_initial crypto aead earlier notified
  refine ⟨wp_mono (triple_runV1Cp3 unpairFirst _ hfresh) ?_ ?_, wp_mono (triple_runV1Cp4 unpairFirst _ hfresh) ?_ ?_⟩
  · rintro _ w ⟨_, _, -, hdone, hsecret⟩
    exact hdone.guarded hsecret
  · exact fun _ _ hgone arrivals ↦ ((@stable_gone crypto aead).arrivals arrivals hgone).blank
  · rintro _ w ⟨_, _, -, hdone, hsecret⟩
    exact hdone.guarded hsecret
  · exact fun _ _ hgone arrivals ↦ ((@stable_gone crypto aead).arrivals arrivals hgone).blank

end PqBleHandshake.Python.V1
