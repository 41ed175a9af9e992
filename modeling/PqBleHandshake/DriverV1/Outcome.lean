import PqBleHandshake.DriverV1.Runs

/-!
# How runs of v1.0 end

A run that returns has gone through the whole protocol.  A run that raises has gone through a part of it, and none
of its keys is left.
-/

namespace PqBleHandshake.Python.V1

open Foundation Effect

variable {crypto : Crypto} {aead : Aead} {env : ℕ → Answer} {stage : Stage} {result : Result} {w : World}

/-- What the handshake adds to a result. -/
def Result.secured (result : Result) (fragments : ℕ) : Result :=
  { result with
    publicKeyLen := 1184, ciphertextFragments := fragments, startSent := true, transcriptMatch := true
    finishedCSent := true, finishedPVerified := true, appSecure := true }

theorem leads_startNotify :
    Leads crypto aead (Tracks crypto aead stage result) (startNotify env) fun _ ↦ At crypto aead stage result := by
  refine Triple.bind (leads_requireConnected fun _ h ↦ h.halted) fun _ ↦ ?_
  refine Triple.bind ((leads_await (sound_at crypto aead stage result)).strengthen fun _ h ↦ h.at) fun answer ↦ ?_
  exact Triple.update fun _ h ↦ h

/-- The second attestation, which is in the transcript. -/
theorem leads_reattest (pk ct ss : Bytes) :
    Leads crypto aead (fun v ↦ Tracks crypto aead (.transferred pk ct ss) result v ∧ v.Holds ss) (attest env)
      fun out v ↦ isAuthenticatedLevel4 out.2 = true ∧
        Tracks crypto aead (.reattested pk ct ss out.1) result v ∧ v.Holds ss :=
  ((leads_attest (.requeried pk ct ss) (.reattested pk ct ss)
    (fun _ h ↦ h.record .requery nofun trivial rfl rfl rfl (fun _ ↦ rfl) fun _ ↦ Nat.le_of_ble_eq_true rfl)
    fun _ _ hstrict h ↦ h.record (.reattest hstrict) nofun trivial rfl rfl rfl (fun _ ↦ rfl) fun _ ↦ Nat.le_of_ble_eq_true rfl).and
      (keeps_attest ss)).conseq (fun _ h ↦ ⟨h.1.at, h.2⟩) (fun _ _ h ↦ ⟨h.1.1, h.1.2, h.2⟩) fun _ _ h ↦ h.1

/-- The whole handshake. -/
theorem leads_handshake :
    Leads crypto aead (At crypto aead .installed result) (handshake env crypto) fun info v ↦
      isAuthenticatedLevel4 info = true ∧
        ∃ h fragments, Tracks crypto aead (.secure h) (result.secured fragments) v := by
  refine Triple.bind leads_requireSameLink fun _ ↦ Triple.bind leads_startNotify fun _ ↦ ?_
  refine Triple.bind (leads_attest .queried (fun _ ↦ .attested)
    (fun _ h ↦ h.record .query nofun trivial rfl rfl rfl (fun _ ↦ rfl) fun _ ↦ le_rfl)
    fun _ _ hstrict h ↦ h.record (.attest hstrict) nofun trivial rfl rfl rfl (fun _ ↦ rfl) fun _ ↦ Nat.le_of_ble_eq_true rfl)
    fun _ ↦ Triple.fact fun _ ↦ ?_
  refine Triple.bind leads_establishSecret fun keys ↦ Triple.exists_pre fun ss ↦ Triple.exists_pre fun fragments ↦ ?_
  obtain ⟨pk, ct⟩ := keys
  refine Triple.bind (leads_reattest pk ct ss) fun attestation ↦ Triple.fact fun hlevel ↦ ?_
  obtain ⟨sec, info⟩ := attestation
  refine Triple.bind leads_startHandshake fun ready ↦ Triple.exists_pre fun started ↦ ?_
  refine Triple.bind (leads_finishHandshake ready) fun finishedP ↦ Triple.exists_pre fun finished ↦ ?_
  refine Triple.bind (leads_secureHandshake finishedP) fun _ ↦ Triple.exists_pre fun secure ↦ ?_
  exact Triple.pure fun _ h ↦ ⟨hlevel, secure, fragments.length, h⟩

/-! ## The exchange -/

theorem secretGone_wipe (buffer : Bytes) : ∀ b ∈ wipe buffer, b = 0 := fun _ hmem ↦ List.eq_of_mem_replicate hmem

theorem Halted.withSecret {v : View} (h : Halted crypto aead v) (secret : Bytes) :
    Halted crypto aead { v with secret } := by
  obtain ⟨stage, result, htracks | hclosed⟩ := h
  · exact ⟨stage, result, .inl (htracks.withSecret secret)⟩
  · exact ⟨stage, result, .inr (hclosed.of_view rfl rfl hclosed.owned rfl)⟩

/-- Where a run can be when its exchange is over and raised. -/
def HaltedGone (crypto : Crypto) (aead : Aead) (v : View) : Prop := Halted crypto aead v ∧ v.SecretGone

theorem stable_haltedGone : Stable (HaltedGone crypto aead) := (stable_halted crypto aead).and stable_secretGone

/-- `_exchange` from the pairing to `D`, for an application exchange that ends in `D`. -/
theorem triple_exchange {application : Option (Run Unit)} {D : View → Prop} (hD : Sound crypto aead D)
    (hsecret : ∀ v secret, D v → D { v with secret })
    (happlication : ∀ h fragments, Leads crypto aead (Tracks crypto aead (.secure h) (result.secured fragments))
      (applicationExchange env application) fun _ ↦ D) :
    Triple (fun w : World ↦ Tracks crypto aead .paired result w.view) (exchange env crypto application)
      (fun info w ↦ isAuthenticatedLevel4 info = true ∧ D w.view ∧ w.view.SecretGone)
      fun _ w ↦ HaltedGone crypto aead w.view := by
  refine Triple.bind (Q := fun _ w ↦ Tracks crypto aead .paired result w.view ∧ w.secret = []) (Triple.update ?_)
    fun _ ↦ ?_
  · exact fun w h ↦ ⟨{ h with session := rfl, alive := nofun, active := rfl }, rfl⟩
  refine Triple.bind Triple.peek fun held ↦ ?_
  refine Triple.bind (Triple.require fun w h ↦ ⟨h.1.halted, ?_⟩) fun _ ↦ ?_
  · intro b hmem
    rw [show w.view.secret = [] from h.2] at hmem
    cases hmem
  refine Triple.bind (Q := fun _ w ↦ Tracks crypto aead .installed result w.view) (Triple.update fun w h ↦ ?_) fun _ ↦ ?_
  · exact h.2.1.move .install nofun trivial rfl h.2.1.session h.2.1.alive h.2.1.app h.2.1.active (fun _ ↦ h.2.1.reply rfl)
      (fun _ ↦ rfl) h.2.1.cp4 rfl
  refine Triple.ensuring (G := fun info w ↦ isAuthenticatedLevel4 info = true ∧ D w.view ∧ w.success = true)
    (F := fun _ w ↦ Halted crypto aead w.view) ?_ (fun info ↦ ?_) fun e ↦ ?_
  · refine Triple.onError (F := fun _ w ↦ Halted crypto aead w.view) ?_ fun e ↦ ?_
    · refine Triple.bind (leads_handshake.strengthen fun _ h ↦ h.at) fun info ↦ Triple.fact fun hlevel ↦ ?_
      refine Triple.exists_pre fun h ↦ Triple.exists_pre fun fragments ↦ ?_
      refine Triple.bind (happlication h fragments) fun _ ↦ ?_
      refine Triple.bind (Q := fun _ w ↦ D w.view ∧ w.success = true) (Triple.update fun _ h ↦ ⟨h, rfl⟩) fun _ ↦ ?_
      exact Triple.pure fun _ h ↦ ⟨hlevel, h⟩
    · split_ifs
      · exact Triple.bind (leads_ask (P := Halted crypto aead)) fun _ ↦ Triple.fail fun _ h ↦ h
      · exact Triple.fail fun _ h ↦ h
  · refine Triple.fact fun hlevel ↦ ?_
    refine Triple.bind (Q := fun _ w ↦ (D w.view ∧ w.view.SecretGone) ∧ w.success = true) (Triple.update fun w h ↦ ?_)
      fun _ ↦ ?_
    · exact ⟨⟨hsecret _ _ h.1, secretGone_wipe _⟩, h.2⟩
    refine Triple.bind (Q := fun success w ↦ (D w.view ∧ w.view.SecretGone) ∧ success = true)
      (Triple.look fun _ h ↦ h) fun success ↦ ?_
    refine Triple.bind (Q := fun _ w ↦ D w.view ∧ w.view.SecretGone) (fun w h ↦ ?_) fun _ ↦ ?_
    · obtain ⟨h, rfl⟩ := h
      exact h
    refine Triple.conseq (keeps_rest (hD.toStable.and stable_secretGone)) (fun _ h ↦ h)
      (fun _ _ h ↦ ⟨hlevel, h⟩) fun _ _ h ↦ ⟨hD.halted _ h.1, h.2⟩
  · refine Triple.bind (Q := fun _ w ↦ HaltedGone crypto aead w.view) (Triple.update fun w h ↦ ?_) fun _ ↦ ?_
    · exact ⟨h.withSecret _, secretGone_wipe _⟩
    refine Triple.bind Triple.peek fun success ↦ ?_
    refine Triple.bind (Q := fun _ w ↦ HaltedGone crypto aead w.view) ?_ fun _ ↦ keeps_rest stable_haltedGone
    unfold onlyIf
    split_ifs
    · exact Triple.update fun _ h ↦ ⟨h.1.clearSession, h.2⟩
    · exact Triple.pure fun _ h ↦ h

/-- The deadline of `_cp3_exchange` only renames the exception. -/
theorem triple_cp3Exchange {application : Option (Run Unit)} {P : World → Prop} {Q : SecurityInfo → World → Prop}
    (h : Triple P (exchange env crypto application) Q fun _ w ↦ HaltedGone crypto aead w.view) :
    Triple P (cp3Exchange env crypto application) Q fun _ w ↦ HaltedGone crypto aead w.view :=
  h.onError fun _ ↦ Triple.bind keeps_ask fun _ ↦ Triple.fail fun _ h ↦ h

/-- A run of CP3 is through. -/
def DoneCp3 (crypto : Crypto) (aead : Aead) (result : Result) (v : View) : Prop :=
  ∃ h fragments, At crypto aead (.secure h) (result.secured fragments) v

/-- A run of CP4 is through. -/
def DoneCp4 (crypto : Crypto) (aead : Aead) (result : Result) (v : View) : Prop :=
  ∃ h fragments, ∃ channel : Channel, At crypto aead (.idle h channel)
    { result.secured fragments with authenticatedRounds := result.authenticatedRounds + 2 } v ∧
      channel.txC2p = 2 ∧ channel.rxP2c = 2

theorem stable_const {p : Prop} : Stable fun _ ↦ p :=
  ⟨fun _ _ h _ ↦ h, fun _ h ↦ h, fun _ _ h ↦ h, fun _ h ↦ h⟩

theorem sound_doneCp3 : Sound crypto aead (DoneCp3 crypto aead result) where
  toStable := .exists fun _ ↦ .exists fun _ ↦ stable_at _ _ _ _
  halted := fun _ ⟨_, _, hat⟩ ↦ hat.halted

theorem sound_doneCp4 : Sound crypto aead (DoneCp4 crypto aead result) where
  toStable := .exists fun _ ↦ .exists fun _ ↦ .exists fun _ ↦ (stable_at _ _ _ _).and stable_const
  halted := fun _ ⟨_, _, _, hat, _⟩ ↦ hat.halted

theorem At.withSecret {v : View} (h : At crypto aead stage result v) (secret : Bytes) :
    At crypto aead stage result { v with secret } := by
  rcases h with htracks | ⟨hclosed, hwiped⟩
  · exact .inl (htracks.withSecret secret)
  · exact .inr ⟨hclosed.of_view rfl rfl hclosed.owned rfl, hwiped⟩

/-- The application exchange of CP4. -/
theorem leads_applicationExchange {h : CentralHandshake} {fragments : ℕ} :
    Leads crypto aead (Tracks crypto aead (.secure h) (result.secured fragments))
      (applicationExchange env (some (rounds env crypto aead 2))) fun _ ↦ DoneCp4 crypto aead result := by
  refine Triple.bind (Q := fun _ w ↦ At crypto aead (.entered h) (result.secured fragments) w.view)
    (Triple.update fun w htracks ↦ ?_) fun _ ↦ ?_
  · have hentered : Tracks crypto aead (.entered h) (result.secured fragments) { w.view with active := true } :=
      htracks.move .enter nofun trivial rfl htracks.session htracks.alive htracks.app rfl (fun _ ↦ htracks.reply rfl)
        (fun _ ↦ htracks.held (Nat.le_of_ble_eq_true rfl)) htracks.cp4 rfl
    exact hentered.at
  refine Triple.bind (leads_rounds le_rfl) fun _ ↦ Triple.exists_pre fun channel ↦ Triple.fact fun hchannel ↦ ?_
  exact leads_requireSameLink.weaken fun _ _ htracks ↦ ⟨h, fragments, channel, htracks.at, hchannel⟩

/-! ## Keys that are gone -/

/-- No key is in the session: it is new, or it is closed. -/
def Erased (session : CentralHandshake) : Prop := session = {} ∨ session.Closed

/-- Where a run is when it has raised: at a stage of the protocol, without keys, and without a hold of the client. -/
structure Gone (crypto : Crypto) (aead : Aead) (v : View) : Prop where
  halted : Halted crypto aead v
  erased : Erased v.session
  wiped : v.Wiped
  held : v.held ≠ .mine
  cp4 : v.cp4 = false
  secret : v.SecretGone

theorem erased_clear (session : CentralHandshake) : Erased session.clear := .inr (CentralHandshake.closed_clear session)

theorem client_clearApp (w : World) : w.clearApp.client = w.client := by
  unfold World.clearApp
  split_ifs <;> rfl

theorem client_clearV1Cp3 (w : World) : w.clearV1Cp3.client = {} := by
  unfold World.clearV1Cp3
  split_ifs <;> rfl

theorem session_clearApp (w : World) : w.clearApp.session = w.session ∨ w.clearApp.session = w.session.clear := by
  unfold World.clearApp
  split_ifs
  · exact .inr rfl
  · exact .inl rfl

theorem Erased.clearApp (h : Erased w.session) : Erased w.clearApp.session := by
  rcases session_clearApp w with hsame | hclear
  · rwa [hsame]
  · rw [hclear]
    exact erased_clear _

theorem Erased.release (h : Erased w.session) : Erased w.release.session := by
  unfold World.release
  split_ifs
  · exact erased_clear _
  · exact h

theorem Erased.clearV1Cp3 (h : Erased w.session) : Erased w.clearV1Cp3.session := by
  unfold World.clearV1Cp3
  split_ifs
  · exact (Erased.clearApp h).release
  · exact h.release

theorem closed_clearV1Cp3 (hheld : w.client.v1Cp3Session = .mine) : w.clearV1Cp3.session.Closed := by
  unfold World.clearV1Cp3 World.release
  rw [client_clearApp, if_pos hheld, if_pos hheld]
  split_ifs
  · exact CentralHandshake.closed_clear _
  · exact CentralHandshake.closed_clear _

/-- The client lets go of a run that has raised: nothing of it is left. -/
theorem HaltedGone.clearV1Cp3 (h : HaltedGone crypto aead w.view) : Gone crypto aead w.clearV1Cp3.view := by
  have herased : Erased w.clearV1Cp3.session := by
    obtain ⟨⟨stage, result, htracks | hclosed⟩, -⟩ := h
    · by_cases hrank : 2 ≤ stage.rank
      · exact .inr (closed_clearV1Cp3 (htracks.held hrank))
      · exact Erased.clearV1Cp3 (.inl (htracks.session.trans (Stage.of_rank_lt (not_le.mp hrank)).1))
    · exact Erased.clearV1Cp3 (.inr hclosed.session)
  have hwiped : w.clearV1Cp3.view.Wiped := by
    obtain ⟨⟨stage, result, htracks | hclosed⟩, -⟩ := h
    · exact Wiped.clearV1Cp3 htracks.owned
    · exact Wiped.clearV1Cp3 hclosed.owned
  have hclient := client_clearV1Cp3 w
  exact ⟨(stable_halted crypto aead).clearV1Cp3 w h.1, herased, hwiped, by
    rw [show w.clearV1Cp3.view.held = w.clearV1Cp3.client.v1Cp3Session from rfl, hclient]
    decide, by
    rw [show w.clearV1Cp3.view.cp4 = w.clearV1Cp3.client.v1Cp4Session from rfl, hclient],
    stable_secretGone.clearV1Cp3 w h.2⟩

theorem triple_cp3 :
    Triple (fun w : World ↦ Tracks crypto aead .paired result w.view) (cp3Exchange env crypto none)
      (fun info w ↦ isAuthenticatedLevel4 info = true ∧ DoneCp3 crypto aead result w.view ∧ w.view.SecretGone)
      fun _ w ↦ HaltedGone crypto aead w.view :=
  triple_cp3Exchange (triple_exchange sound_doneCp3
    (fun _ secret ⟨h, fragments, hat⟩ ↦ ⟨h, fragments, hat.withSecret secret⟩)
    fun h fragments ↦ Triple.pure fun _ htracks ↦ ⟨h, fragments, htracks.at⟩)

theorem triple_cp4 :
    Triple (fun w : World ↦ Tracks crypto aead .paired result w.view) (cp4Exchange env crypto aead)
      (fun info w ↦ isAuthenticatedLevel4 info = true ∧ DoneCp4 crypto aead result w.view ∧ w.view.SecretGone)
      fun _ w ↦ HaltedGone crypto aead w.view :=
  (triple_cp3Exchange (triple_exchange sound_doneCp4
    (fun _ secret ⟨h, fragments, channel, hat, hcounters⟩ ↦ ⟨h, fragments, channel, hat.withSecret secret, hcounters⟩)
    fun _ _ ↦ leads_applicationExchange)).onError fun _ ↦
      Triple.bind (Triple.update fun w h ↦ stable_haltedGone.clearApp w h) fun _ ↦ Triple.fail fun _ h ↦ h

theorem stable_gone : Stable (Gone crypto aead) where
  reply v reply h hreply :=
    ⟨(stable_halted crypto aead).reply v reply h.halted hreply, h.erased, h.wiped, h.held, h.cp4, h.secret⟩
  clearApp w h := by
    have hclient : w.clearApp.client = w.client := client_clearApp w
    refine ⟨h.halted.clearApp, Erased.clearApp h.erased, Wiped.clearApp w, ?_, ?_, stable_secretGone.clearApp w h.secret⟩
    · rw [show w.clearApp.view.held = w.clearApp.client.v1Cp3Session from rfl, hclient]
      exact h.held
    · rw [show w.clearApp.view.cp4 = w.clearApp.client.v1Cp4Session from rfl, hclient]
      exact h.cp4
  clearSession w _ h := ⟨h.halted.clearSession, erased_clear _, h.wiped, h.held, h.cp4, h.secret⟩
  clearV1Cp3 _ h := HaltedGone.clearV1Cp3 ⟨h.halted, h.secret⟩

/-! ## Before the exchange -/

/-- A run before its exchange. -/
structure Fresh (crypto : Crypto) (aead : Aead) (stage : Stage) (result : Result) (v : View) : Prop where
  tracks : Tracks crypto aead stage result v
  held : v.held ≠ .mine
  cp4 : v.cp4 = false
  secret : v.secret = []

theorem Fresh.rank_lt {v : View} (h : Fresh crypto aead stage result v) : stage.rank < 2 :=
  not_le.mp fun hrank ↦ h.held (h.tracks.held hrank)

theorem Fresh.gone {v : View} (h : Fresh crypto aead stage result v) : Gone crypto aead v where
  halted := h.tracks.halted
  erased := .inl (h.tracks.session.trans (Stage.of_rank_lt h.rank_lt).1)
  wiped := View.Wiped.of_none (h.tracks.app.trans (Stage.of_rank_lt h.rank_lt).2.1)
  held := h.held
  cp4 := h.cp4
  secret := fun b hmem ↦ by
    rw [h.secret] at hmem
    cases hmem

theorem Fresh.clearV1Cp3 (h : Fresh crypto aead stage result w.view) :
    Fresh crypto aead stage result w.clearV1Cp3.view := by
  have hcp4 : ¬w.client.v1Cp4Session = true := Bool.not_eq_true _ ▸ h.cp4
  have hheld : ¬w.client.v1Cp3Session = .mine := h.held
  unfold World.clearV1Cp3 World.release
  rw [if_neg hcp4, if_neg hheld]
  have happ : w.app = none := h.tracks.app.trans (Stage.of_rank_lt h.rank_lt).2.1
  refine ⟨{ h.tracks with held := fun hrank ↦ absurd h.rank_lt (not_lt.mpr hrank), cp4 := fun hsome ↦ ?_ }, nofun, rfl,
    h.secret⟩
  have hsome : w.app.isSome = true := hsome
  rw [happ] at hsome
  cases hsome

theorem Fresh.arriveBefore (h : Fresh crypto aead stage result w.view) (arrival : Arrival) :
    Fresh crypto aead stage result (w.arriveBefore arrival).view := by
  unfold World.arriveBefore
  cases arrival with
  | notification data => exact h
  | turn linked =>
    dsimp only
    split
    · exact h
    · exact h
  | disconnected =>
    dsimp only
    split_ifs
    · exact h
    · exact h.clearV1Cp3

/-- A coroutine before the exchange keeps what holds there, or raises. -/
abbrev Prepares {α : Type} (crypto : Crypto) (aead : Aead) (P : View → Prop) (x : Run α) (Q : α → View → Prop) : Prop :=
  Triple (fun w : World ↦ P w.view) x (fun a w ↦ Q a w.view) fun _ w ↦ Gone crypto aead w.view

theorem prepares_ask {P : View → Prop} : Prepares crypto aead P (ask env) fun _ ↦ P := fun _ h ↦ h

theorem prepares_waitBefore : Prepares crypto aead (Fresh crypto aead stage result) (waitBefore env) fun _ ↦
    Fresh crypto aead stage result := by
  refine Triple.bind prepares_ask fun answer ↦ Triple.bind (Triple.update fun w h ↦ ?_) fun _ ↦ Triple.pure fun _ h ↦ h
  show Fresh crypto aead stage result (answer.arrivals.foldl World.arriveBefore w).view
  generalize answer.arrivals = arrivals
  induction arrivals generalizing w with
  | nil => exact h
  | cons arrival rest ih => exact ih _ (h.arriveBefore arrival)

theorem prepares_awaitBefore : Prepares crypto aead (Fresh crypto aead stage result) (awaitBefore env) fun _ ↦
    Fresh crypto aead stage result := by
  refine Triple.bind prepares_waitBefore fun answer ↦ ?_
  split
  · exact Triple.fail fun _ h ↦ h.gone
  · exact Triple.pure fun _ h ↦ h

theorem Fresh.record {next : Stage} {event : Event} {v : View} (h : Fresh crypto aead stage result v)
    (hmove : Moves crypto aead stage (some event) next) (hevent : event ≠ .closed) (hnotes : result.Notes event)
    (hnext : next.rank < 2) : Fresh crypto aead next result { v with trace := event :: v.trace } where
  tracks := by
    obtain ⟨hsession, happ, hactive, hwaits⟩ := Stage.of_rank_lt h.rank_lt
    obtain ⟨hsession', happ', hactive', -⟩ := Stage.of_rank_lt hnext
    exact h.tracks.record hmove hevent hnotes (hsession'.trans hsession.symm) (happ'.trans happ.symm)
      (hactive'.trans hactive.symm) (fun _ ↦ hwaits) fun hrank ↦ absurd hnext (not_lt.mpr hrank)
  held := h.held
  cp4 := h.cp4
  secret := h.secret

theorem Fresh.report {v : View} (h : Fresh crypto aead stage result v) (f : Result → Result)
    (htruthful : Truthful (f result) stage) (hkeeping : Keeping f result stage) :
    Fresh crypto aead stage (f result) { v with result := f v.result } :=
  ⟨h.tracks.report f htruthful hkeeping, h.held, h.cp4, h.secret⟩

theorem prepares_setResult {f : Result → Result} (htruthful : Truthful result stage → Truthful (f result) stage)
    (hkeeping : Keeping f result stage) :
    Prepares crypto aead (Fresh crypto aead stage result) (setResult f) fun _ ↦ Fresh crypto aead stage (f result) :=
  Triple.update fun _ h ↦ h.report f (htruthful h.tracks.truthful) hkeeping

theorem prepares_orRaise {α : Type} (value : Option α) :
    Prepares crypto aead (Fresh crypto aead stage result) (orRaise value) fun a v ↦
      value = some a ∧ Fresh crypto aead stage result v := by
  cases value with
  | none => exact Triple.fail fun _ h ↦ h.gone
  | some a => exact Triple.pure fun _ h ↦ ⟨rfl, h⟩

theorem prepares_probeDenied {denied : List Probe} (probe : Probe) :
    Prepares crypto aead (Fresh crypto aead (.probing denied) result) (probeDenied env probe) fun _ ↦
      Fresh crypto aead (.probing (denied ++ [probe])) result := by
  refine Triple.bind prepares_waitBefore fun answer ↦ ?_
  split
  · exact Triple.fail fun _ h ↦ h.gone
  · exact Triple.fail fun _ h ↦ h.gone
  · refine Triple.bind (Triple.require fun _ h ↦ h.gone) fun _ ↦ ?_
    exact Triple.update fun _ h ↦ h.2.record .denied nofun trivial (by simp only [Stage.rank]; decide)

theorem prepares_runProbes {denied : List Probe} (probes : List Probe) :
    Prepares crypto aead (Fresh crypto aead (.probing denied) result) (runProbes env probes) fun denials v ↦
      denials = probes ∧ Fresh crypto aead (.probing (denied ++ probes)) result v := by
  induction probes generalizing denied with
  | nil =>
    refine Triple.pure fun w h ↦ ⟨rfl, ?_⟩
    rwa [List.append_nil]
  | cons probe later ih =>
    refine Triple.bind (prepares_probeDenied probe) fun _ ↦ Triple.bind ih fun denials ↦ Triple.fact fun hdenials ↦ ?_
    refine Triple.pure fun w h ↦ ⟨by rw [hdenials], ?_⟩
    rwa [List.append_assoc] at h

/-- Every probe is denied. -/
theorem prepares_runPreL4Probes :
    Prepares crypto aead (Fresh crypto aead (.probing []) result) (runPreL4Probes env) fun denials v ↦
      denials = preL4Probes ∧ Fresh crypto aead (.probing preL4Probes) result v := by
  refine Triple.bind prepares_ask fun answer ↦ ?_
  refine Triple.bind (prepares_orRaise _) fun _ ↦ Triple.fact fun _ ↦ ?_
  refine Triple.bind (prepares_runProbes preL4Probes) fun denials ↦ Triple.fact fun hdenials ↦ ?_
  refine Triple.bind (Triple.require fun _ h ↦ h.gone) fun _ ↦ Triple.pure fun _ h ↦ ⟨hdenials, h.2⟩

theorem prepares_ensureConnected :
    Prepares crypto aead (Fresh crypto aead stage result) (ensureConnected env) fun _ ↦
      Fresh crypto aead stage result := by
  refine Triple.bind prepares_ask fun answer ↦ ?_
  unfold onlyIf
  split_ifs
  · refine Triple.bind (Triple.update fun _ h ↦ h.clearV1Cp3) fun _ ↦ Triple.bind prepares_awaitBefore fun _ ↦ ?_
    exact (Triple.require fun _ h ↦ h.gone).weaken fun _ _ h ↦ h.2
  · exact Triple.pure fun _ h ↦ h

theorem prepares_inspectBond (unpairFirst : Bool) :
    Prepares crypto aead (Fresh crypto aead stage result) (inspectBond env unpairFirst) fun _ ↦
      Fresh crypto aead stage result := by
  refine Triple.bind prepares_awaitBefore fun state ↦ ?_
  split_ifs
  · refine Triple.bind prepares_awaitBefore fun _ ↦ Triple.bind prepares_ensureConnected fun _ ↦ ?_
    refine Triple.bind prepares_awaitBefore fun _ ↦ Triple.bind (Triple.require fun _ h ↦ h.gone) fun _ ↦ ?_
    exact Triple.pure fun _ h ↦ h.2
  · exact Triple.pure fun _ h ↦ h

/-- The pairing of a peer without a bond, after the probes. -/
theorem prepares_pair (hbonded : result.bonded = false) :
    Prepares crypto aead (Fresh crypto aead (.probing []) result) (pair env) fun _ ↦
      Fresh crypto aead .paired { result with preL4Denials := preL4Probes } := by
  refine Triple.bind prepares_runPreL4Probes fun denials ↦ Triple.fact fun hdenials ↦ ?_
  subst hdenials
  refine Triple.bind (prepares_setResult (fun h ↦ { h with denials := List.prefix_rfl }) (keeping_early rfl rfl)) fun _ ↦ ?_
  refine Triple.bind prepares_awaitBefore fun _ ↦ ?_
  refine Triple.bind (Triple.require fun _ h ↦ h.gone) fun _ ↦ Triple.fact fun _ ↦ ?_
  refine Triple.bind (Triple.require fun _ h ↦ h.gone) fun _ ↦ Triple.fact fun _ ↦ ?_
  refine Triple.bind (Triple.update fun _ h ↦ ?_) fun _ ↦ prepares_ensureConnected
  exact h.record .paired nofun ⟨hbonded, rfl⟩ (by simp only [Stage.rank]; decide)

/-! ## The whole run -/

/-- A run before `_run_v1`; the client may hold the session of an earlier one. -/
def World.initial (earlier notified : Bool) : World where
  client := { v1Cp3Session := if earlier = true then .earlier else .none, v1NotifyLink := notified }

theorem fresh_initial (crypto : Crypto) (aead : Aead) (earlier notified : Bool) :
    Fresh crypto aead (.probing []) {} (World.initial earlier notified).view where
  tracks := {
    reaches := .nil
    session := rfl
    alive := nofun
    app := rfl
    active := rfl
    reply := nofun
    held := nofun
    cp4 := nofun
    reported := rfl
    truthful := {
      securityInfo := nofun
      denials := List.nil_prefix
      publicKeyLen := fun h ↦ absurd rfl h
      ciphertextFragments := fun h ↦ absurd rfl h
      startSent := nofun
      transcriptMatch := nofun
      finishedCSent := nofun
      finishedPVerified := nofun
      appSecure := nofun
      rounds := le_rfl }
    noted := nofun }
  held := by cases earlier <;> exact nofun
  cp4 := rfl
  secret := rfl

/-- The result of `_run_v1` before its exchange. -/
def Result.prepared (bonded : Bool) : Result where
  bonded := bonded
  preL4Denials := if bonded = true then [] else preL4Probes

theorem prepares_prepare {bonded : Bool} :
    Prepares crypto aead (Fresh crypto aead (.probing []) { bonded := bonded }) (prepare env bonded) fun _ ↦
      Fresh crypto aead .paired (.prepared bonded) := by
  cases bonded
  · exact prepares_pair rfl
  · exact Triple.update fun _ h ↦ h.record .bonded nofun ⟨rfl, rfl⟩ (by simp only [Stage.rank]; decide)

/-- `_run_v1` around an exchange that ends in `D`. -/
theorem triple_runV1 {postL4Exchange : Run SecurityInfo} {D : Result → View → Prop}
    (hD : ∀ result info v, D result v →
      D { result with securityInfo := some info } { v with result := { v.result with securityInfo := some info } })
    (hexchange : ∀ result, Triple (fun w : World ↦ Tracks crypto aead .paired result w.view) postL4Exchange
      (fun info w ↦ isAuthenticatedLevel4 info = true ∧ D result w.view ∧ w.view.SecretGone)
      fun _ w ↦ HaltedGone crypto aead w.view) (unpairFirst : Bool) :
    Triple (fun w : World ↦ Fresh crypto aead (.probing []) {} w.view) (runV1 env unpairFirst postL4Exchange)
      (fun _ w ↦ ∃ bonded info, isAuthenticatedLevel4 info = true ∧
        D { Result.prepared bonded with securityInfo := some info } w.view ∧ w.view.SecretGone)
      fun _ w ↦ Gone crypto aead w.view := by
  refine Triple.bind prepares_ask fun answer ↦ Triple.bind (Triple.require fun _ h ↦ h.gone) fun _ ↦ ?_
  refine Triple.fact fun _ ↦ Triple.bind (prepares_inspectBond unpairFirst) fun bonded ↦ ?_
  refine Triple.bind (prepares_setResult (fun h ↦ { h with }) (keeping_early rfl rfl)) fun _ ↦ ?_
  refine Triple.bind prepares_prepare fun _ ↦ ?_
  refine Triple.onError (F := fun _ w ↦ HaltedGone crypto aead w.view) ?_ fun e ↦ ?_
  · refine Triple.bind (Triple.onError ((hexchange (.prepared bonded)).strengthen fun _ h ↦ h.tracks) fun e ↦
      Triple.fail fun _ h ↦ h) fun info ↦ ?_
    exact Triple.fact fun hlevel ↦ Triple.update fun w h ↦ ⟨bonded, info, hlevel, hD _ _ _ h.1, h.2⟩
  · refine Triple.bind (Q := fun _ w ↦ Gone crypto aead w.view) ?_ fun _ ↦ Triple.fail fun _ h ↦ h
    exact Triple.bind (Triple.update fun w h ↦ h.clearV1Cp3) fun _ ↦ keeps_rest stable_gone

/-- Nothing is left for the last handler to clear. -/
theorem triple_clearHeld {P : World → Prop} {x : Run Unit} {Q : Unit → World → Prop}
    (h : Triple P x Q fun _ w ↦ Gone crypto aead w.view) :
    Triple P (onError x fun e ↦ do
      update World.clearHeld
      fail e) Q fun _ w ↦ Gone crypto aead w.view := by
  refine h.onError fun e ↦ Triple.bind (Triple.update fun w hgone ↦ ?_) fun _ ↦ Triple.fail fun _ h ↦ h
  have hcp4 : ¬w.client.v1Cp4Session = true := Bool.not_eq_true _ ▸ hgone.cp4
  have hheld : ¬w.client.v1Cp3Session = .mine := hgone.held
  show Gone crypto aead w.clearHeld.view
  unfold World.clearHeld
  rw [if_neg hcp4]
  dsimp only
  rwa [if_neg hheld]

theorem triple_runV1Cp3 (unpairFirst : Bool) :
    Triple (fun w : World ↦ Fresh crypto aead (.probing []) {} w.view) (runV1Cp3 env crypto unpairFirst)
      (fun _ w ↦ ∃ bonded info, isAuthenticatedLevel4 info = true ∧
        DoneCp3 crypto aead { Result.prepared bonded with securityInfo := some info } w.view ∧ w.view.SecretGone)
      fun _ w ↦ Gone crypto aead w.view := by
  refine triple_clearHeld (triple_runV1 (fun result info v hdone ↦ ?_) (fun _ ↦ triple_cp3) unpairFirst)
  obtain ⟨h, fragments, hat⟩ := hdone
  exact ⟨h, fragments, hat.report (fun result ↦ { result with securityInfo := some info })
    { hat.truthful with securityInfo := fun _ ↦ le_rfl } fun _ _ ↦ id⟩

theorem triple_runV1Cp4 (unpairFirst : Bool) :
    Triple (fun w : World ↦ Fresh crypto aead (.probing []) {} w.view) (runV1Cp4 env crypto aead unpairFirst)
      (fun _ w ↦ ∃ bonded info, isAuthenticatedLevel4 info = true ∧
        DoneCp4 crypto aead { Result.prepared bonded with securityInfo := some info } w.view ∧ w.view.SecretGone)
      fun _ w ↦ Gone crypto aead w.view := by
  refine triple_clearHeld (triple_runV1 (fun result info v hdone ↦ ?_) (fun _ ↦ triple_cp4) unpairFirst)
  obtain ⟨h, fragments, channel, hat, hcounters⟩ := hdone
  exact ⟨h, fragments, channel, hat.report (fun result ↦ { result with securityInfo := some info })
    { hat.truthful with securityInfo := fun _ ↦ Nat.le_of_ble_eq_true rfl } fun _ _ ↦ id, hcounters⟩

end PqBleHandshake.Python.V1
