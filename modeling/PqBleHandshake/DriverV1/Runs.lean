import PqBleHandshake.DriverV1.Tracking

/-!
# Runs of v1.0

Every coroutine of the runner leads from one stage of the protocol to another, or ends where the protocol allows it.
-/

namespace PqBleHandshake.Python.V1

open Foundation Effect

section Leads

variable {crypto : Crypto} {aead : Aead} {env : ℕ → Answer} {α : Type}

/-- From a view with `P`, a return satisfies `Q`, and an exception leaves the run at a stage of the protocol. -/
abbrev Leads (crypto : Crypto) (aead : Aead) (P : View → Prop) (x : Run α) (Q : α → View → Prop) : Prop :=
  Triple (fun w : World ↦ P w.view) x (fun a w ↦ Q a w.view) fun _ w ↦ Halted crypto aead w.view

/-- An assertion that holds through every await. -/
structure Sound (crypto : Crypto) (aead : Aead) (P : View → Prop) : Prop extends Stable P where
  halted : ∀ v, P v → Halted crypto aead v

theorem sound_at (crypto : Crypto) (aead : Aead) (stage : Stage) (result : Result) :
    Sound crypto aead (At crypto aead stage result) :=
  ⟨stable_at crypto aead stage result, fun _ h ↦ h.halted⟩

variable {P : View → Prop} {stage next : Stage} {result : Result} {v : View}

/-! ## Awaits and the client -/

theorem leads_ask : Leads crypto aead P (ask env) fun _ ↦ P := fun _ h ↦ h

/-- From a view with `P` to a view with `P`, whether the coroutine returns or raises. -/
abbrev Keeps (P : View → Prop) (x : Run α) : Prop :=
  Triple (fun w : World ↦ P w.view) x (fun _ w ↦ P w.view) fun _ w ↦ P w.view

theorem Keeps.leads {x : Run α} (h : Keeps P x) (hP : ∀ v, P v → Halted crypto aead v) :
    Leads crypto aead P x fun _ ↦ P :=
  h.conseq (fun _ h ↦ h) (fun _ _ h ↦ h) fun _ _ h ↦ hP _ h

theorem keeps_ask : Keeps P (ask env) := fun _ h ↦ h

theorem keeps_wait (hP : Stable P) : Keeps P (wait env) := fun _ h ↦ hP.arrivals _ h

theorem keeps_await (hP : Stable P) : Keeps P (await env) := by
  refine Triple.bind (keeps_wait hP) fun answer ↦ ?_
  split
  · exact Triple.fail fun _ h ↦ h
  · exact Triple.pure fun _ h ↦ h

theorem leads_await (hP : Sound crypto aead P) : Leads crypto aead P (await env) fun _ ↦ P :=
  (keeps_await hP.toStable).leads hP.halted

theorem keeps_rest (hP : Stable P) : Keeps P (rest env) :=
  Triple.bind (keeps_wait hP) fun _ ↦
    Triple.weaken (Triple.require (P := fun w : World ↦ P w.view) fun _ h ↦ h) fun _ _ h ↦ h.2

theorem leads_rest (hP : Sound crypto aead P) : Leads crypto aead P (rest env) fun _ ↦ P :=
  (keeps_rest hP.toStable).leads hP.halted

theorem leads_requireConnected (hP : ∀ v, P v → Halted crypto aead v) :
    Leads crypto aead P (requireConnected env) fun _ ↦ P :=
  Triple.bind leads_ask fun _ ↦ Triple.bind (Triple.require fun _ h ↦ hP _ h) fun _ ↦ Triple.pure fun _ h ↦ h.2

theorem leads_orRaise (hP : ∀ v, P v → Halted crypto aead v) (value : Option α) :
    Leads crypto aead P (orRaise value) fun a v ↦ value = some a ∧ P v := by
  cases value with
  | none => exact Triple.fail fun _ h ↦ hP _ h
  | some a => exact Triple.pure fun _ h ↦ ⟨rfl, h⟩

/-- `require_same_link` holds only while the session is alive. -/
theorem leads_requireSameLink :
    Leads crypto aead (At crypto aead stage result) (requireSameLink env) fun _ ↦ Tracks crypto aead stage result := by
  refine Triple.bind leads_ask fun answer ↦ fun w h ↦ ?_
  refine wp_bind.mpr (wp_look.mpr ?_)
  unfold onlyIf
  split_ifs with hcondition
  · exact wp_fail.mpr h.halted
  · exact wp_pure.mpr (h.tracks fun hclosed ↦ hcondition (.inr (.inr hclosed)))

theorem leads_requireQuiet :
    Leads crypto aead (Tracks crypto aead stage result) requireQuiet fun _ ↦ Tracks crypto aead stage result :=
  Triple.bind Triple.peek fun _ ↦ (Triple.require fun _ h ↦ h.halted).weaken fun _ _ h ↦ h.2

theorem leads_requireSilence :
    Leads crypto aead (At crypto aead stage result) (requireSilence env) fun _ ↦ Tracks crypto aead stage result :=
  Triple.bind (leads_rest (sound_at crypto aead stage result)) fun _ ↦
    Triple.bind leads_requireSameLink fun _ ↦ leads_requireQuiet

/-- A control write is a move of the protocol. -/
theorem leads_sendControl (next : Stage) {wire : Bytes}
    (hsent : ∀ v, Tracks crypto aead stage result v →
      Tracks crypto aead next result { v with trace := .sent wire :: v.trace }) :
    Leads crypto aead (Tracks crypto aead stage result) (sendControl env wire) fun _ ↦ At crypto aead next result :=
  Triple.bind (leads_requireConnected fun _ h ↦ h.halted) fun _ ↦
    Triple.bind (Triple.update fun _ h ↦ (hsent _ h).at) fun _ ↦
      Triple.bind (leads_await (sound_at crypto aead next result)) fun _ ↦ Triple.pure fun _ h ↦ h

theorem keeps_getNotification (hP : Stable P) : Keeps P (getNotification env) := by
  refine Triple.bind (keeps_await hP) fun _ ↦ Triple.bind Triple.peek fun notifications ↦ ?_
  split
  · exact Triple.fail fun _ h ↦ h
  · exact Triple.bind (Triple.update fun _ h ↦ h) fun _ ↦ Triple.pure fun _ h ↦ h

theorem leads_receive {subtype : UInt8} :
    Leads crypto aead (At crypto aead stage result) (receive env subtype) fun _ ↦
      Tracks crypto aead stage result := by
  refine Triple.bind leads_requireSameLink fun _ ↦ ?_
  refine Triple.bind (Q := fun _ w ↦ At crypto aead stage result w.view) ?_ fun raw ↦ ?_
  · exact Triple.onError ((keeps_getNotification (stable_at crypto aead stage result)).strengthen fun _ h ↦ h.at)
      fun _ ↦ Triple.fail fun _ h ↦ h.halted
  refine Triple.bind leads_requireSameLink fun _ ↦ ?_
  refine Triple.bind (leads_orRaise (fun _ h ↦ h.halted) _) fun frame ↦ Triple.fact fun _ ↦ ?_
  refine Triple.bind (Triple.require fun _ h ↦ h.halted) fun _ ↦ ?_
  exact Triple.bind (Triple.require fun _ h ↦ h.2.halted) fun _ ↦ Triple.pure fun _ h ↦ h.2.2

/-! ## The handshake -/

/-- An attestation accepts a SEC_INFO of strict Level 4. -/
theorem leads_attest (mid : Stage) (after : Bytes → Stage)
    (hsent : ∀ v, Tracks crypto aead stage result v →
      Tracks crypto aead mid result { v with trace := .sent (v1Frame pqV10 pqV1SecQuery []) :: v.trace })
    (haccepted : ∀ sec v, Strict sec → Tracks crypto aead mid result v →
      Tracks crypto aead (after sec) result { v with trace := .accepted sec :: v.trace }) :
    Leads crypto aead (At crypto aead stage result) (attest env) fun out v ↦
      isAuthenticatedLevel4 out.2 = true ∧ Tracks crypto aead (after out.1) result v := by
  refine Triple.bind leads_requireSameLink fun _ ↦ Triple.bind leads_requireQuiet fun _ ↦ ?_
  refine Triple.bind (leads_orRaise (fun _ h ↦ h.halted) _) fun query ↦ Triple.fact fun hquery ↦ ?_
  obtain ⟨-, rfl⟩ := encodeV1Frame_eq_some_iff.mp hquery
  refine Triple.bind (leads_sendControl mid hsent) fun _ ↦ Triple.bind leads_receive fun sec ↦ ?_
  refine Triple.bind (leads_orRaise (fun _ h ↦ h.halted) _) fun info ↦ Triple.fact fun hinfo ↦ ?_
  refine Triple.bind (Triple.require fun _ h ↦ h.halted) fun _ ↦ Triple.fact fun hlevel ↦ ?_
  rw [Bool.not_eq_false] at hlevel
  exact Triple.bind (Triple.update fun _ h ↦ haccepted sec _ ⟨info, hinfo, hlevel⟩ h) fun _ ↦
    Triple.pure fun _ h ↦ ⟨hlevel, h⟩

/-- The secret buffer holds the shared secret. -/
def View.Holds (ss : Bytes) (v : View) : Prop := v.secret = ss

theorem stable_holds (ss : Bytes) : Stable (View.Holds ss) where
  reply _ _ h _ := h
  clearApp w h := (secret_clearApp w).trans h
  clearSession _ _ h := h
  clearV1Cp3 w h := (secret_clearV1Cp3 w).trans h

/-- A stage of the protocol, with the shared secret in its buffer. -/
theorem sound_at_holds (crypto : Crypto) (aead : Aead) (stage : Stage) (result : Result) (ss : Bytes) :
    Sound crypto aead fun v ↦ At crypto aead stage result v ∧ v.Holds ss :=
  ⟨(stable_at crypto aead stage result).and (stable_holds ss), fun _ h ↦ h.1.halted⟩

theorem Keeps.bind {β : Type} {x : Run α} {f : α → Run β} (hx : Keeps P x) (hf : ∀ a, Keeps P (f a)) :
    Keeps P (x >>= f) :=
  Triple.bind hx hf

theorem keeps_require {condition : Prop} [Decidable condition] {e : Exn} : Keeps P (onlyIf condition (fail e)) :=
  Triple.weaken (Triple.require (P := fun w : World ↦ P w.view) fun _ h ↦ h) fun _ _ h ↦ h.2

theorem keeps_requireSameLink : Keeps P (requireSameLink env) :=
  keeps_ask.bind fun _ ↦ Keeps.bind Triple.peek fun _ ↦ keeps_require

theorem keeps_orRaise (value : Option α) : Keeps P (orRaise value) := by
  cases value with
  | none => exact Triple.fail fun _ h ↦ h
  | some _ => exact Triple.pure fun _ h ↦ h

/-- An attestation leaves the shared secret. -/
theorem keeps_attest (ss : Bytes) : Keeps (View.Holds ss) (attest env) := by
  have hpure : ∀ {β : Type} (b : β), Keeps (View.Holds ss) (pure b : Run β) := fun _ ↦ Triple.pure fun _ h ↦ h
  have hsend : ∀ wire, Keeps (View.Holds ss) (sendControl env wire) := fun wire ↦
    Keeps.bind (keeps_ask.bind fun _ ↦ keeps_require.bind fun _ ↦ hpure _) fun _ ↦
      Keeps.bind (Triple.update fun _ h ↦ h) fun _ ↦ (keeps_await (stable_holds ss)).bind fun _ ↦ hpure _
  have hreceive : Keeps (View.Holds ss) (receive env pqV1SecInfo) := by
    refine keeps_requireSameLink.bind fun _ ↦ Keeps.bind ?_ fun raw ↦ keeps_requireSameLink.bind fun _ ↦ ?_
    · exact Triple.onError (keeps_getNotification (stable_holds ss)) fun _ ↦ Triple.fail fun _ h ↦ h
    · exact (keeps_orRaise _).bind fun _ ↦ keeps_require.bind fun _ ↦ keeps_require.bind fun _ ↦ hpure _
  refine keeps_requireSameLink.bind fun _ ↦ Keeps.bind (Keeps.bind Triple.peek fun _ ↦ keeps_require) fun _ ↦ ?_
  refine (keeps_orRaise _).bind fun query ↦ (hsend query).bind fun _ ↦ hreceive.bind fun raw ↦ ?_
  refine (keeps_orRaise _).bind fun _ ↦ keeps_require.bind fun _ ↦ Keeps.bind (Triple.update fun _ h ↦ h) fun _ ↦ hpure _

/-- A method of the session, which no closed session lets through. -/
theorem leads_onSession (stage : Stage) {event : Option Event} {method : CentralHandshake → Option (α × CentralHandshake)}
    {Q : α → View → Prop} (hclosed : ∀ h, h.state = .closed → method h = none)
    (hsome : ∀ v value h, Tracks crypto aead stage result v → method v.session = some (value, h) →
      Q value { v with session := h, trace := event.toList ++ v.trace }) :
    Leads crypto aead (At crypto aead stage result) (onSession event method) Q := by
  intro w h
  refine wp_bind.mpr (wp_look.mpr ?_)
  cases hmethod : method w.session with
  | none => exact h.halted.clearSession
  | some out =>
    have halive : w.session.state ≠ .closed := by
      intro hstate
      rw [hclosed _ hstate] at hmethod
      cases hmethod
    exact hsome w.view out.1 out.2 (h.tracks halive) hmethod

theorem begin_of_closed {h : CentralHandshake} (hstate : h.state = .closed) (ss sec pk ct start : Bytes) :
    h.begin crypto ss sec pk ct start = none := by
  cases hbegin : h.begin crypto ss sec pk ct start with
  | none => rfl
  | some h' =>
    have hnew := (CentralHandshake.begin_eq_some hbegin).1
    rw [hstate] at hnew
    cases hnew

theorem acceptReady_of_closed {h : CentralHandshake} (hstate : h.state = .closed) (raw : Bytes) :
    h.acceptReady crypto raw = none := by
  cases haccept : h.acceptReady crypto raw with
  | none => rfl
  | some out =>
    have hwait := (CentralHandshake.acceptReady_eq_some haccept).1
    rw [hstate] at hwait
    cases hwait

theorem acceptFinishedP_of_closed {h : CentralHandshake} (hstate : h.state = .closed) (raw : Bytes) :
    h.acceptFinishedP crypto raw = none := by
  cases haccept : h.acceptFinishedP crypto raw with
  | none => rfl
  | some h' =>
    have hwait := (CentralHandshake.acceptFinishedP_eq_some haccept).1
    rw [hstate] at hwait
    cases hwait

theorem leads_writeFragments (hP : Sound crypto aead P) (fragments : List Bytes) :
    Leads crypto aead P (writeFragments env fragments) fun _ ↦ P := by
  induction fragments with
  | nil => exact Triple.pure fun _ h ↦ h
  | cons _ _ ih => exact Triple.bind (leads_await hP) fun _ ↦ ih

theorem leads_sendCiphertext (hP : Sound crypto aead P) (ct : Bytes) :
    Leads crypto aead P (sendCiphertext env ct) fun fragments v ↦
      (∃ mtu, writeFragmentedCiphertext ct mtu = some fragments) ∧ P v := by
  refine Triple.bind (leads_requireConnected hP.halted) fun answer ↦ ?_
  refine Triple.bind (leads_orRaise hP.halted _) fun fragments ↦ Triple.fact fun hfragments ↦ ?_
  exact Triple.bind (leads_writeFragments hP _) fun _ ↦ Triple.pure fun _ h ↦ ⟨⟨_, hfragments⟩, h⟩

/-- A change of the result keeps what it says of the events until a stage. -/
def Keeping (f : Result → Result) (result : Result) (stage : Stage) : Prop :=
  ∀ event, event.rank ≤ stage.rank → result.Notes event → (f result).Notes event

/-- Before the transfer is recorded, the number of its fragments is free. -/
theorem keeping_transfer (hrank : stage.rank ≤ 6) (fragments : ℕ) :
    Keeping (fun result ↦ { result with ciphertextFragments := fragments }) result stage := by
  intro event hevent hnotes
  cases event with
  | transferred => exact absurd (hevent.trans hrank) (by simp only [Event.rank]; decide)
  | _ => exact hnotes

/-- Before the pairing, only the number of the fragments is noted. -/
theorem keeping_early {f : Result → Result} (hrank : stage.rank = 0)
    (hfragments : (f result).ciphertextFragments = result.ciphertextFragments) : Keeping f result stage := by
  intro event hevent hnotes
  rw [hrank, Nat.le_zero] at hevent
  cases event with
  | transferred => exact hfragments.trans hnotes
  | paired => cases hevent
  | bonded => cases hevent
  | _ => exact trivial

theorem Tracks.report (h : Tracks crypto aead stage result v) (f : Result → Result)
    (htruthful : Truthful (f result) stage) (hkeeping : Keeping f result stage) :
    Tracks crypto aead stage (f result) { v with result := f v.result } :=
  { h with
    reported := congrArg f h.reported
    truthful := htruthful
    noted := fun event hmem ↦ hkeeping event (h.reaches.rank_le event hmem) (h.noted event hmem) }

theorem Closed.report (h : Closed crypto aead stage result v) (f : Result → Result)
    (htruthful : Truthful (f result) stage) (hkeeping : Keeping f result stage) :
    Closed crypto aead stage (f result) { v with result := f v.result } where
  trace := h.trace
  session := h.session
  owned := h.owned
  reported := congrArg f h.reported
  truthful := htruthful
  noted := by
    intro event hmem
    obtain ⟨past, htrace, hreaches⟩ := h.trace
    have hnoted := h.noted event hmem
    rw [show v.trace = _ from htrace] at hmem
    rcases List.mem_cons.mp hmem with rfl | hmem
    · exact trivial
    · exact hkeeping event (hreaches.rank_le event hmem) hnoted

theorem At.report (h : At crypto aead stage result v) (f : Result → Result) (htruthful : Truthful (f result) stage)
    (hkeeping : Keeping f result stage) : At crypto aead stage (f result) { v with result := f v.result } := by
  rcases h with htracks | ⟨hclosed, hwiped⟩
  · exact .inl (htracks.report f htruthful hkeeping)
  · exact .inr ⟨hclosed.report f htruthful hkeeping, hwiped⟩

theorem At.truthful (h : At crypto aead stage result v) : Truthful result stage := by
  rcases h with htracks | ⟨hclosed, -⟩
  · exact htracks.truthful
  · exact hclosed.truthful

theorem leads_setResult_tracks {f : Result → Result} (htruthful : Truthful result stage → Truthful (f result) stage)
    (hkeeping : Keeping f result stage) :
    Leads crypto aead (Tracks crypto aead stage result) (setResult f) fun _ ↦ Tracks crypto aead stage (f result) :=
  Triple.update fun _ h ↦ h.report f (htruthful h.truthful) hkeeping

theorem Tracks.withSecret (h : Tracks crypto aead stage result v) (secret : Bytes) :
    Tracks crypto aead stage result { v with secret } :=
  { h with }

/-- The public key is read, and the ciphertext transferred. -/
theorem leads_establishSecret :
    Leads crypto aead (Tracks crypto aead .attested result) (establishSecret env) fun out v ↦
      ∃ ss, ∃ fragments : List Bytes, Tracks crypto aead (.transferred out.1 out.2 ss)
        { result with publicKeyLen := 1184, ciphertextFragments := fragments.length } v ∧ v.Holds ss := by
  refine Triple.bind (Q := fun _ w ↦ At crypto aead .attested result w.view) ?_ fun pk ↦ ?_
  · refine Triple.strengthen (Triple.bind (leads_requireConnected fun _ h ↦ h.halted) fun _ ↦ ?_) fun _ h ↦ h.at
    exact Triple.bind (leads_await (sound_at crypto aead .attested result)) fun _ ↦ Triple.pure fun _ h ↦ h
  refine Triple.bind leads_requireSameLink fun _ ↦ ?_
  refine Triple.bind (Triple.require fun _ h ↦ h.halted) fun _ ↦ Triple.fact fun hlength ↦ ?_
  rw [not_not] at hlength
  refine Triple.bind (Q := fun _ w ↦ Tracks crypto aead (.keyed pk) result w.view) ?_ fun _ ↦ ?_
  · exact Triple.update fun _ h ↦ h.record (.read hlength) nofun trivial rfl rfl rfl (fun _ ↦ rfl) fun _ ↦ Nat.le_of_ble_eq_true rfl
  refine Triple.bind (leads_setResult_tracks (fun h ↦ { h with publicKeyLen := fun _ ↦ le_rfl }) fun _ _ ↦ id) fun _ ↦ ?_
  rw [hlength]
  refine Triple.bind leads_ask fun encapsulated ↦ ?_
  refine Triple.bind (Triple.require fun _ h ↦ h.halted) fun _ ↦ Triple.fact fun _ ↦ ?_
  refine Triple.bind (Q := fun _ w ↦ Tracks crypto aead (.keyed pk) { result with publicKeyLen := 1184 } w.view ∧
    w.view.Holds encapsulated.more) (Triple.update fun _ h ↦ ⟨h.withSecret _, rfl⟩) fun _ ↦ ?_
  refine Triple.bind (Triple.require fun _ h ↦ h.1.halted) fun _ ↦ Triple.fact fun hsizes ↦ ?_
  rw [not_or, not_not, not_not] at hsizes
  refine Triple.bind (Q := fun _ w ↦ Tracks crypto aead (.encapsulated pk encapsulated.bytes encapsulated.more)
    { result with publicKeyLen := 1184 } w.view ∧ w.view.Holds encapsulated.more) (Triple.update fun _ h ↦ ?_) fun _ ↦ ?_
  · exact ⟨h.1.record (.encapsulate hsizes.1 hsizes.2) nofun trivial rfl rfl rfl (fun _ ↦ rfl) fun _ ↦ Nat.le_of_ble_eq_true rfl,
      h.2⟩
  refine Triple.bind ((leads_requireSameLink.and keeps_requireSameLink).conseq (fun _ h ↦ ⟨h.1.at, h.2⟩) (fun _ _ h ↦ h)
    fun _ _ h ↦ h.1) fun _ ↦ ?_
  refine Triple.bind ((leads_sendCiphertext (sound_at_holds crypto aead _ _ encapsulated.more)
    encapsulated.bytes).strengthen fun _ h ↦ ⟨h.1.at, h.2⟩) fun fragments ↦ Triple.fact fun hfragments ↦ ?_
  obtain ⟨mtu, hfragments⟩ := hfragments
  refine Triple.bind (Q := fun _ w ↦ At crypto aead (.encapsulated pk encapsulated.bytes encapsulated.more)
    { result with publicKeyLen := 1184, ciphertextFragments := fragments.length } w.view ∧
      w.view.Holds encapsulated.more) (Triple.update fun _ h ↦ ?_) fun _ ↦ ?_
  · exact ⟨h.1.report (fun result ↦ { result with ciphertextFragments := fragments.length })
      { h.1.truthful with ciphertextFragments := fun _ ↦ le_rfl } (keeping_transfer le_rfl _), h.2⟩
  refine Triple.bind ((leads_requireSameLink.and keeps_requireSameLink).conseq (fun _ h ↦ h) (fun _ _ h ↦ h)
    fun _ _ h ↦ h.1) fun _ ↦ ?_
  refine Triple.bind (Triple.update fun w h ↦ ?_) fun _ ↦ Triple.pure fun _ h ↦ ⟨encapsulated.more, fragments, h⟩
  exact ⟨h.1.record (.transfer hfragments) nofun rfl rfl rfl rfl (fun _ ↦ rfl) fun _ ↦ Nat.le_of_ble_eq_true rfl, h.2⟩

/-- The session begins, and START_CP3 goes out. -/
theorem leads_startHandshake {pk ct ss sec : Bytes} :
    Leads crypto aead (fun v ↦ Tracks crypto aead (.reattested pk ct ss sec) result v ∧ v.Holds ss)
      (startHandshake env crypto sec pk ct)
      fun _ v ↦ ∃ h, Tracks crypto aead (.started h) { result with startSent := true } v := by
  refine Triple.bind (leads_ask (P := fun v ↦ Tracks crypto aead (.reattested pk ct ss sec) result v ∧ v.Holds ss))
    fun drawn ↦ ?_
  refine Triple.bind (leads_orRaise (P := fun v ↦ Tracks crypto aead (.reattested pk ct ss sec) result v ∧ v.Holds ss)
    (fun _ h ↦ h.1.halted) _) fun start ↦ Triple.fact fun hstart ↦ ?_
  obtain ⟨-, rfl⟩ := encodeV1Frame_eq_some_iff.mp hstart
  refine Triple.bind (Q := fun secret w ↦ secret = ss ∧ Tracks crypto aead (.reattested pk ct ss sec) result w.view)
    (Triple.look fun _ h ↦ ⟨h.2, h.1⟩) fun secret ↦ Triple.fact fun hsecret ↦ ?_
  subst hsecret
  refine Triple.bind ((leads_onSession (.reattested pk ct secret sec) (Q := fun _ v ↦ ∃ h, Tracks crypto aead
    (.begun (v1Frame pqV10 pqV1StartCp3 (Block.ofBytes 16 drawn.bytes).bytes) h) result v) ?_ ?_).strengthen
      fun _ h ↦ h.at) fun _ ↦ Triple.exists_pre fun h ↦ ?_
  · intro h hstate
    rw [begin_of_closed hstate]
    rfl
  · intro v _ h htracks hmethod
    obtain ⟨_, hbegin, hpair⟩ := Option.map_eq_some_iff.mp hmethod
    obtain ⟨-, rfl⟩ := Prod.mk.inj hpair
    rw [htracks.session] at hbegin
    have hstate := (CentralHandshake.begin_eq_some hbegin).2.1
    exact ⟨_, htracks.move (.begin hbegin) nofun trivial rfl rfl (by rw [hstate]; decide) htracks.app htracks.active
      (fun _ ↦ htracks.reply rfl) (fun _ ↦ htracks.held (Nat.le_of_ble_eq_true rfl)) htracks.cp4 rfl⟩
  refine Triple.bind (leads_requireSilence.strengthen fun _ h ↦ h.at) fun _ ↦ ?_
  refine Triple.bind (leads_sendControl (.started h) fun v htracks ↦
    htracks.record .start nofun trivial rfl rfl rfl (fun _ ↦ rfl) fun _ ↦ Nat.le_of_ble_eq_true rfl) fun _ ↦ ?_
  refine Triple.bind leads_requireSameLink fun _ ↦ ?_
  refine Triple.bind (leads_setResult_tracks (fun h ↦ { h with startSent := fun _ ↦ le_rfl }) fun _ _ ↦ id) fun _ ↦ ?_
  exact (leads_receive.strengthen fun _ h ↦ h.at).weaken fun _ _ htracks ↦ ⟨h, htracks⟩

/-- READY_CP3 is verified, and FINISHED_C goes out. -/
theorem leads_finishHandshake {h : CentralHandshake} (ready : Bytes) :
    Leads crypto aead (Tracks crypto aead (.started h) result) (finishHandshake env crypto ready)
      fun _ v ↦ ∃ h', Tracks crypto aead (.finished h')
        { result with transcriptMatch := true, finishedCSent := true } v := by
  refine Triple.bind ((leads_onSession (.started h) (Q := fun finishedC v ↦ ∃ h', Tracks crypto aead
    (.readied finishedC h') result v) ?_ ?_).strengthen fun _ h ↦ h.at) fun finishedC ↦ Triple.exists_pre fun h' ↦ ?_
  · exact fun h hstate ↦ acceptReady_of_closed hstate ready
  · intro v finishedC h' htracks haccept
    rw [htracks.session] at haccept
    have hstate := (CentralHandshake.acceptReady_eq_some haccept).2.1
    exact ⟨h', htracks.move (.ready haccept) nofun trivial rfl rfl (by rw [hstate]; decide) htracks.app htracks.active
      (fun _ ↦ htracks.reply rfl) (fun _ ↦ htracks.held (Nat.le_of_ble_eq_true rfl)) htracks.cp4 rfl⟩
  refine Triple.bind (leads_setResult_tracks (fun h ↦ { h with transcriptMatch := fun _ ↦ le_rfl }) fun _ _ ↦ id) fun _ ↦ ?_
  refine Triple.bind (leads_requireSilence.strengthen fun _ h ↦ h.at) fun _ ↦ ?_
  refine Triple.bind (leads_sendControl (.finished h') fun v htracks ↦
    htracks.record .finishC nofun trivial rfl rfl rfl (fun _ ↦ rfl) fun _ ↦ Nat.le_of_ble_eq_true rfl) fun _ ↦ ?_
  refine Triple.bind leads_requireSameLink fun _ ↦ ?_
  refine Triple.bind (leads_setResult_tracks (fun h ↦ { h with finishedCSent := fun _ ↦ le_rfl }) fun _ _ ↦ id) fun _ ↦ ?_
  exact (leads_receive.strengthen fun _ h ↦ h.at).weaken fun _ _ htracks ↦ ⟨h', htracks⟩

/-- FINISHED_P is verified, and nothing follows it. -/
theorem leads_secureHandshake {h : CentralHandshake} (finishedP : Bytes) :
    Leads crypto aead (Tracks crypto aead (.finished h) result) (secureHandshake env crypto finishedP)
      fun _ v ↦ ∃ h', Tracks crypto aead (.secure h') { result with finishedPVerified := true, appSecure := true } v := by
  refine Triple.bind ((leads_onSession (.finished h) (Q := fun _ v ↦ ∃ h', Tracks crypto aead
    (.secure h') result v) ?_ ?_).strengthen fun _ h ↦ h.at) fun _ ↦ Triple.exists_pre fun h' ↦ ?_
  · intro h hstate
    rw [acceptFinishedP_of_closed hstate]
    rfl
  · intro v _ h' htracks hmethod
    obtain ⟨_, haccept, hpair⟩ := Option.map_eq_some_iff.mp hmethod
    obtain ⟨-, rfl⟩ := Prod.mk.inj hpair
    rw [htracks.session] at haccept
    have hstate := (CentralHandshake.acceptFinishedP_eq_some haccept).2.1
    exact ⟨_, htracks.move (.finishP haccept) nofun trivial rfl rfl (by rw [hstate]; decide) htracks.app htracks.active
      (fun _ ↦ htracks.reply rfl) (fun _ ↦ htracks.held (Nat.le_of_ble_eq_true rfl)) htracks.cp4 rfl⟩
  refine Triple.bind (Q := fun _ w ↦ At crypto aead (.secure h') result w.view)
    (Triple.update fun _ h ↦ (h.withSecret _).at) fun _ ↦ ?_
  refine Triple.bind (Q := fun _ w ↦ At crypto aead (.secure h') result w.view) ?_ fun _ ↦ ?_
  · refine Triple.onError (F := fun _ w ↦ At crypto aead (.secure h') result w.view) ?_ fun e ↦ ?_
    · exact Triple.bind (keeps_getNotification (stable_at crypto aead (.secure h') result)) fun _ ↦
        Triple.fail fun _ h ↦ h
    · split_ifs
      · exact Triple.pure fun _ h ↦ h
      · exact Triple.fail fun _ h ↦ h.halted
  refine Triple.bind leads_requireSameLink fun _ ↦ ?_
  refine (leads_setResult_tracks (fun h ↦ { h with
    finishedPVerified := fun _ ↦ le_rfl
    appSecure := fun _ ↦ le_rfl }) fun _ _ ↦ id).weaken fun _ _ h ↦ ⟨h', h⟩

/-! ## The application -/

theorem leads_requireLive (hP : ∀ v, P v → Halted crypto aead v) :
    Leads crypto aead P (requireLive env) fun _ v ↦ v.session.state ≠ .closed ∧ P v := by
  refine Triple.bind leads_ask fun answer ↦ fun w h ↦ wp_bind.mpr (wp_look.mpr ?_)
  unfold onlyIf
  split_ifs with hlive
  · exact wp_fail.mpr (hP _ h)
  · refine wp_pure.mpr ⟨fun hclosed ↦ hlive ?_, h⟩
    have hstate : w.session.state = .closed := hclosed
    simp [World.live, hstate]

/-- `require_live` holds only while the session is alive. -/
theorem leads_requireLive_tracks :
    Leads crypto aead (At crypto aead stage result) (requireLive env) fun _ ↦ Tracks crypto aead stage result :=
  (leads_requireLive fun _ h ↦ h.halted).weaken fun _ _ h ↦ h.2.tracks h.1

theorem leads_requireLive_settled :
    Leads crypto aead (fun v ↦ v.reply ≠ some .pending ∧ At crypto aead stage result v) (requireLive env) fun _ v ↦
      v.reply ≠ some .pending ∧ Tracks crypto aead stage result v :=
  (leads_requireLive (P := fun v ↦ v.reply ≠ some .pending ∧ At crypto aead stage result v)
    fun _ h ↦ h.2.halted).weaken fun _ _ h ↦ ⟨h.2.1, h.2.2.tracks h.1⟩

/-- A method of the application. -/
theorem leads_onApp {event : Option Event} {method : CentralApplication → Option α × CentralApplication}
    {Q : α → View → Prop} (hP : ∀ v, P v → Halted crypto aead v)
    (hsome : ∀ v channel value app, P v → v.app = some channel → method (channel.over v.session) = (some value, app) →
      Q value { v with app := some (.of app), trace := event.toList ++ v.trace }) :
    Leads crypto aead P (onApp event method) Q := by
  intro w h
  refine wp_bind.mpr (wp_look.mpr ?_)
  cases happ : (id w).app with
  | none => exact hP _ h
  | some channel =>
    rcases hmethod : method (channel.over (id w).session) with ⟨_ | value, app⟩
    · dsimp only
      rw [hmethod]
      exact (hP _ h).clearApp
    · dsimp only
      rw [hmethod]
      exact hsome w.view channel value app h happ hmethod

/-- A new application counts from zero. -/
theorem create_eq_some {handshake : Handshake} {app : CentralApplication}
    (hcreate : CentralApplication.create crypto handshake none none = some app) :
    handshake.secure = true ∧ app.txC2p = 0 ∧ app.rxP2c = 0 := by
  simp only [CentralApplication.create, Option.bind_eq_bind, Option.bind_eq_some_iff, Option.guard_eq_some',
    Option.pure_def, Option.some.injEq] at hcreate
  obtain ⟨_, hsecure, _, -, _, -, rfl⟩ := hcreate
  exact ⟨hsecure, rfl, rfl⟩

theorem leads_createApp {h : CentralHandshake} :
    Leads crypto aead (At crypto aead (.entered h) result) (createApp crypto) fun _ v ↦
      ∃ channel : Channel, (channel.txC2p = 0 ∧ channel.rxP2c = 0) ∧ Tracks crypto aead (.idle h channel) result v := by
  intro w hat
  refine wp_bind.mpr (wp_look.mpr ?_)
  cases hcreate : CentralApplication.create crypto (borrowed w.session) none none with
  | none => exact hat.halted.clearSession
  | some app =>
    obtain ⟨hsecure, happ⟩ := create_eq_some hcreate
    have htracks : Tracks crypto aead (.entered h) result w.view := hat.tracks (by
      rw [show w.view.session.state = .appSecure from of_decide_eq_true hsecure]
      decide)
    have hsession : w.session = h := htracks.session
    rw [hsession] at hcreate
    exact ⟨.of app, happ, htracks.move (.create hcreate) nofun trivial rfl hsession htracks.alive rfl htracks.active
      (fun _ ↦ htracks.reply rfl) (fun _ ↦ htracks.held (Nat.le_of_ble_eq_true rfl)) (fun _ ↦ rfl) rfl⟩

/-- A PING is encrypted under the next sequence number. -/
theorem leads_encryptPing {h : CentralHandshake} {channel : Channel} {challenge : Bytes} {mtu : ℕ}
    (hcount : channel.txC2p < 2) (hlength : challenge.length = 16) :
    Leads crypto aead (Tracks crypto aead (.idle h channel) result)
      (onApp none fun app ↦ app.encryptPing aead challenge mtu) fun wire v ↦
        ∃ channel' : Channel, (channel'.txC2p = channel.txC2p + 1 ∧ channel'.rxP2c = channel.rxP2c) ∧
          Tracks crypto aead (.sealed h channel' challenge wire) result v := by
  refine leads_onApp (fun _ h ↦ h.halted) fun v channel₁ wire app htracks happ hencrypt ↦ ?_
  obtain rfl : channel₁ = channel := Option.some.inj (happ.symm.trans htracks.app)
  rw [htracks.session] at hencrypt
  refine ⟨.of app, ?_, htracks.move (.encrypt hcount hlength hencrypt) nofun trivial rfl htracks.session htracks.alive rfl
    htracks.active nofun (fun _ ↦ htracks.held (Nat.le_of_ble_eq_true rfl))
    (fun _ ↦ htracks.cp4 (by rw [happ]; rfl)) rfl⟩
  rcases CentralApplication.encryptPing_cases hencrypt with ⟨_, _, -, hpinged⟩ | ⟨hnone, -⟩
  · rw [hpinged.app_eq]
    exact ⟨rfl, rfl⟩
  · cases hnone

/-- A PONG that answers it is accepted under the next sequence number. -/
theorem leads_acceptPong {h : CentralHandshake} {channel : Channel} {challenge raw : Bytes} {mtu : ℕ} :
    Leads crypto aead (fun v ↦ v.reply ≠ some .pending ∧ Tracks crypto aead (.pinging h channel challenge) result v)
      (onApp (some (.accepted raw)) fun app ↦ app.acceptPong aead raw challenge mtu) fun _ v ↦
        ∃ channel' : Channel, (channel'.txC2p = channel.txC2p ∧ channel'.rxP2c = channel.rxP2c + 1) ∧
          result.authenticatedRounds + 1 ≤ channel'.rxP2c ∧ Tracks crypto aead (.idle h channel') result v := by
  refine leads_onApp (fun _ h ↦ h.2.halted) fun v channel₁ _ app ⟨hreply, htracks⟩ happ haccept ↦ ?_
  obtain rfl : channel₁ = channel := Option.some.inj (happ.symm.trans htracks.app)
  rw [htracks.session] at haccept
  have hcounters : app.txC2p = channel₁.txC2p ∧ app.rxP2c = channel₁.rxP2c + 1 := by
    rcases CentralApplication.acceptPong_cases haccept with ⟨_, _, -, hponged⟩ | ⟨hnone, -⟩
    · rw [hponged.app_eq]
      exact ⟨rfl, rfl⟩
    · cases hnone
  refine ⟨.of app, hcounters, ?_, htracks.move (.pong haccept) nofun trivial rfl htracks.session htracks.alive rfl
    htracks.active (fun _ ↦ hreply) (fun _ ↦ htracks.held (Nat.le_of_ble_eq_true rfl))
    (fun _ ↦ htracks.cp4 (by rw [happ]; rfl)) rfl⟩
  rw [show (Channel.of app).rxP2c = _ from hcounters.2]
  exact Nat.succ_le_succ htracks.truthful.rounds

/-- A reply that returns leaves no future behind. -/
theorem leads_awaitReply :
    Leads crypto aead (At crypto aead stage result) (awaitReply env) fun _ v ↦
      v.reply ≠ some .pending ∧ At crypto aead stage result v := by
  refine Triple.bind ((keeps_wait (stable_at crypto aead stage result)).leads fun _ h ↦ h.halted) fun answer ↦ ?_
  intro w h
  refine wp_bind.mpr (wp_look.mpr ?_)
  have hsettle : Halted crypto aead { w with reply := some .cancelled }.view :=
    ((stable_at crypto aead stage result).reply w.view (some .cancelled) h (by rintro ⟨⟩)).halted
  cases hfault : answer.fault with
  | some fault =>
    by_cases hpending : w.reply = some .pending
    · simp only [onlyIf, if_pos hpending, wp_bind, wp_update, wp_fail]
      exact hsettle
    · simp only [onlyIf, if_neg hpending, wp_bind, wp_pure, wp_fail]
      exact h.halted
  | none =>
    rcases hreply : w.reply with _ | _ | data | _ | _
    · exact hsettle
    · exact hsettle
    · refine wp_pure.mpr ⟨?_, h⟩
      rw [show w.view.reply = _ from hreply]
      rintro ⟨⟩
    · exact h.halted
    · exact hsettle

/-- One PING and its PONG. -/
theorem leads_round {h : CentralHandshake} {channel : Channel} (hcount : channel.txC2p < 2) :
    Leads crypto aead (At crypto aead (.idle h channel) result) (round env aead) fun _ v ↦
      ∃ channel' : Channel, (channel'.txC2p = channel.txC2p + 1 ∧ channel'.rxP2c = channel.rxP2c + 1) ∧
        Tracks crypto aead (.idle h channel')
          { result with authenticatedRounds := result.authenticatedRounds + 1 } v := by
  refine Triple.bind leads_requireLive_tracks fun _ ↦ Triple.bind leads_ask fun drawn ↦ ?_
  refine Triple.bind (leads_encryptPing hcount (Block.length_bytes _))
    fun wire ↦ Triple.exists_pre fun sealedBy ↦ Triple.fact fun hsealed ↦ ?_
  refine Triple.bind (Q := fun _ w ↦ Tracks crypto aead (.sealed h sealedBy _ wire) result w.view)
    (Triple.update fun _ h ↦ { h with reply := nofun }) fun _ ↦ ?_
  refine Triple.bind (leads_sendControl (.pinging h sealedBy _) fun v htracks ↦
    htracks.record .ping nofun trivial rfl rfl rfl nofun fun _ ↦ Nat.le_of_ble_eq_true rfl) fun _ ↦ ?_
  refine Triple.bind leads_requireLive_tracks fun _ ↦ ?_
  refine Triple.bind (leads_awaitReply.strengthen fun _ h ↦ h.at) fun raw ↦ ?_
  refine Triple.bind leads_requireLive_settled fun _ ↦ ?_
  refine Triple.bind (leads_ask (P := fun v ↦ v.reply ≠ some .pending ∧ Tracks crypto aead _ result v)) fun link ↦ ?_
  refine Triple.bind leads_acceptPong fun _ ↦ Triple.exists_pre fun after ↦ Triple.fact fun hafter ↦ Triple.fact fun hrounds ↦ ?_
  refine Triple.bind (Q := fun _ w ↦ Tracks crypto aead (.idle h after) result w.view)
    (Triple.update fun _ h ↦ h.settle none nofun) fun _ ↦ ?_
  refine (leads_setResult_tracks (fun h ↦ { h with rounds := hrounds }) fun _ _ ↦ id).weaken fun _ _ h ↦ ⟨after, ?_, h⟩
  rw [hafter.1, hafter.2, hsealed.1, hsealed.2]
  exact ⟨rfl, rfl⟩

/-- The rounds of the loop. -/
theorem leads_roundLoop {h : CentralHandshake} (n : ℕ) (channel : Channel) (hcount : channel.txC2p + n ≤ 2) :
    Leads crypto aead (At crypto aead (.idle h channel) result) (roundLoop env aead n) fun _ v ↦
      ∃ channel' : Channel, (channel'.txC2p = channel.txC2p + n ∧ channel'.rxP2c = channel.rxP2c + n) ∧
        At crypto aead (.idle h channel') { result with authenticatedRounds := result.authenticatedRounds + n } v := by
  induction n generalizing channel result with
  | zero => exact Triple.pure fun _ hat ↦ ⟨channel, ⟨rfl, rfl⟩, hat⟩
  | succ n ih =>
    refine Triple.bind (leads_round (by omega)) fun _ ↦ Triple.exists_pre fun after ↦ Triple.fact fun hafter ↦ ?_
    refine ((ih after (by omega)).strengthen fun _ h ↦ h.at).weaken fun _ _ hnext ↦ ?_
    obtain ⟨last, hlast, hat⟩ := hnext
    refine ⟨last, ⟨by omega, by omega⟩, ?_⟩
    rw [show result.authenticatedRounds + (n + 1) = result.authenticatedRounds + 1 + n by omega]
    exact hat

/-- `rounds` ends with as many PONGs as PINGs, and no future. -/
theorem leads_rounds {h : CentralHandshake} {count : ℕ} (hcount : count ≤ 2) :
    Leads crypto aead (At crypto aead (.entered h) result) (rounds env crypto aead count) fun _ v ↦
      ∃ channel : Channel, (channel.txC2p = count ∧ channel.rxP2c = count) ∧ At crypto aead (.idle h channel)
        { result with authenticatedRounds := result.authenticatedRounds + count } v := by
  refine Triple.bind leads_createApp fun _ ↦ Triple.exists_pre fun first ↦ Triple.fact fun hfirst ↦ ?_
  refine Triple.ensuring (G := fun _ w ↦ ∃ channel : Channel, (channel.txC2p = count ∧ channel.rxP2c = count) ∧
      At crypto aead (.idle h channel) { result with authenticatedRounds := result.authenticatedRounds + count } w.view)
    (F := fun _ w ↦ Halted crypto aead w.view) ?_ (fun _ ↦ ?_) fun _ ↦ ?_
  · refine Triple.onError (F := fun _ w ↦ Halted crypto aead w.view) ?_ fun e ↦ ?_
    · refine Triple.bind ((leads_roundLoop count first (by omega)).strengthen fun _ h ↦ h.at) fun _ ↦
        Triple.exists_pre fun channel ↦ Triple.fact fun hchannel ↦ ?_
      refine Triple.bind (leads_rest (sound_at _ _ _ _)) fun _ ↦ ?_
      exact leads_requireLive_tracks.weaken fun _ _ h ↦ ⟨channel, ⟨by omega, by omega⟩, h.at⟩
    · exact Triple.bind (Triple.update fun _ h ↦ h.clearApp) fun _ ↦ Triple.fail fun _ h ↦ h
  · exact Triple.update fun _ ⟨channel, hchannel, hat⟩ ↦
      ⟨channel, hchannel, (stable_at _ _ _ _).reply _ _ hat nofun⟩
  · exact Triple.update fun _ h ↦ (stable_halted crypto aead).reply _ _ h nofun

end Leads

end PqBleHandshake.Python.V1
