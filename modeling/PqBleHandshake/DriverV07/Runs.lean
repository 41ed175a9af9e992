import PqBleHandshake.DriverV07.Authentication

/-!
# Runs of v0.7

The rounds and the whole run: every way in which the runner returns or raises, in every test mode, with the trace
that it leaves and no secret in its buffers.
-/

namespace PqBleHandshake.Python.V07

open Foundation Effect

section Rounds

variable {crypto : Crypto} {onCurve : Bytes → Bool} {aead : Aead} {mode : Option NegativeTest} {env : ℕ → Answer}
variable {o : Opening} {v : View} {sid probe : Bytes} {sas : ℕ} {rounds : List Round} {trace : List Event}

/-- The buffers of the rounds. -/
def Opening.trafficKeys (crypto : Crypto) (o : Opening) : Buffers :=
  { o.verified crypto with
    applicationKey := (Block.zero 32).bytes
    c2pKey := (hybridTraffic crypto pqV07 o.inputs).centralToPeripheral.bytes
    p2cKey := (hybridTraffic crypto pqV07 o.inputs).peripheralToCentral.bytes }

/-- The view in the rounds: the trace, the PINGs sealed and the PONGs accepted. -/
def Opening.inRounds (crypto : Crypto) (o : Opening) (trace : List Event) (pings pongs : ℕ) : View where
  trace := trace
  buffers := o.trafficKeys crypto
  c2p := some (o.sender crypto pings)
  p2c := some (o.receiver crypto pongs)

theorem leads_openChannels :
    Leads crypto onCurve aead mode (· = { trace := trace, buffers := o.verified crypto })
      (openChannels crypto o.inputs.sid.bytes) fun _ v' ↦ v' = o.inRounds crypto trace 0 0 := by
  refine Triple.bind leads_buffers fun buffers ↦ Triple.fact fun hbuffers ↦ ?_
  subst hbuffers
  refine Triple.bind (leads_orRaise (derivePhase7TrafficKeys_eq crypto o.inputs)) fun keys ↦ Triple.fact fun hkeys ↦ ?_
  subst hkeys
  refine Triple.bind (leads_setBuffers _) fun _ ↦ ?_
  refine Triple.bind leads_buffers fun buffers ↦ Triple.fact fun hbuffers ↦ ?_
  subst hbuffers
  refine Triple.bind (leads_orRaise (create_sender crypto o)) fun c2p ↦ Triple.fact fun hc2p ↦ ?_
  subst hc2p
  refine Triple.bind (leads_setC2p _) fun _ ↦ ?_
  refine Triple.bind (leads_orRaise (create_receiver crypto o)) fun p2c ↦ Triple.fact fun hp2c ↦ ?_
  subst hp2c
  refine (leads_setP2c _).weaken fun _ w hw ↦ hw.trans ?_
  have hzeroed : zeroed (o.verified crypto).applicationKey = (Block.zero 32).bytes := zeroed_block _
  simp only [hzeroed]
  rfl

/-! ## PING -/

theorem leads_sealPing {index pongs : ℕ} (hindex : index ≤ 3)
    (hstopped : Stopped crypto onCurve aead mode trace) :
    Leads crypto onCurve aead mode (· = o.inRounds crypto trace index pongs) (sealPing env aead index) fun wire v' ↦
      ∃ iv, wire = o.frame crypto aead index iv ∧ v' = o.inRounds crypto trace (index + 1) pongs := by
  refine Triple.bind (waits_ask.leads hstopped) fun drawn ↦ Triple.fact fun _ ↦ fun w hw ↦ ?_
  have hchannel : w.c2p = some (o.sender crypto index) := congrArg View.c2p hw
  refine wp_bind.mpr (wp_look.mpr ?_)
  have hsealed := @encrypt_sender crypto aead o index hindex (.ofBytes 12 drawn.bytes)
  unfold ping at hsealed
  simp only [hchannel, hsealed]
  exact wp_seq (leads_setC2p _ w hw) fun _ w' hw' ↦ wp_pure.mpr ⟨.ofBytes 12 drawn.bytes, rfl, hw'⟩

/-- A test in the first round. -/
theorem leads_inFirstRound {test : NegativeTest} {index : ℕ} {check : Run Unit} {after : View}
    (hcheck : index = 0 ∧ mode = some test → Leads crypto onCurve aead mode (· = v) check fun _ v' ↦ v' = after)
    (hskip : ¬(index = 0 ∧ mode = some test) → v = after) :
    Leads crypto onCurve aead mode (· = v) (inFirstRound mode test index check) fun _ v' ↦ v' = after := by
  unfold inFirstRound onlyIf
  split_ifs with htest
  · exact Triple.bind (hcheck htest) fun _ ↦ Triple.update fun _ hw ↦ hw
  · exact Triple.pure fun _ hw ↦ hw.trans (hskip htest)

theorem leads_requireRefusal {wire : Bytes} {status : UInt8} (hbefore : Stopped crypto onCurve aead mode v.trace)
    (htest : ∀ events, Refusing wire status events → Stopped crypto onCurve aead mode (events ++ v.trace)) :
    Leads crypto onCurve aead mode (· = v) (requireRefusal env onCurve wire status) fun _ v' ↦
      v' = v.extend (refusal wire status) := by
  have hwrote := htest _ .wrote
  refine Triple.bind (leads_writeSecureData hbefore hwrote) fun _ ↦ ?_
  refine Triple.bind (waits_receive.leads hwrote) fun raw ↦ Triple.fact fun _ ↦ ?_
  refine Triple.bind (leads_requireErrorStatus hwrote) fun _ ↦ ?_
  refine (leads_requireQuiet fun events hquieting ↦ ?_).weaken fun _ w hw ↦ ?_
  · have hstopped := htest _ (.quieting hquieting)
    rwa [List.append_assoc] at hstopped
  · rw [hw]
    simp [View.extend, View.record, refusal]

/-- The rounds so far. -/
structure Ongoing (crypto : Crypto) (onCurve : Bytes → Bool) (aead : Aead) (mode : Option NegativeTest) (sid : Bytes)
    (sas : ℕ) (probe : Bytes) (o : Opening) (rounds : List Round) : Prop
    extends Authenticated crypto onCurve aead mode sid sas probe o where
  answered : o.Answered crypto aead mode rounds

theorem Ongoing.plays (h : Ongoing crypto onCurve aead mode sid sas probe o rounds) (hcount : rounds.length ≤ 3) :
    o.Plays crypto onCurve aead mode rounds :=
  ⟨h.asked, h.mode_ne, h.mode_ne', hcount, h.answered⟩

theorem leads_sendPing (h : Ongoing crypto onCurve aead mode sid sas probe o rounds) (hcount : rounds.length < 3) :
    Leads crypto onCurve aead mode
      (· = o.inRounds crypto (o.roundsTrace crypto aead mode rounds) rounds.length rounds.length)
      (sendPing env onCurve aead mode probe rounds.length) fun wire v' ↦
        ∃ iv, wire = o.wire crypto aead mode rounds.length iv ∧
          v' = o.inRounds crypto (o.pinged crypto aead mode rounds.length iv (o.roundsTrace crypto aead mode rounds))
            (rounds.length + 1) rounds.length := by
  have hplays := h.plays hcount.le
  have hrounds := Stopped.rounds o rounds hplays
  refine Triple.bind (leads_sealPing hcount.le hrounds) fun fresh ↦ Triple.exists_pre fun iv ↦ ?_
  refine Triple.fact fun hfresh ↦ ?_
  have hwire : (if rounds.length = 0 ∧ mode = some .preAuth then probe else fresh) =
      o.wire crypto aead mode rounds.length iv := by
    unfold Opening.wire
    split_ifs with hprobe
    · exact h.probe_eq (.inr (.inr hprobe.2))
    · exact hfresh
  have htampered := Stopped.tampered o rounds iv hplays hcount
  have hpinged := Stopped.pinged o rounds iv hplays hcount
  rw [hwire]
  refine Triple.bind ((waits_require (by decide)).leads hrounds) fun _ ↦ Triple.fact fun _ ↦ ?_
  refine Triple.bind ((waits_require (by decide)).leads hrounds) fun _ ↦ Triple.fact fun _ ↦ ?_
  refine Triple.bind (Q := fun _ w ↦ w.view = o.inRounds crypto
    (o.tamperEvents crypto aead mode rounds.length iv ++ o.roundsTrace crypto aead mode rounds)
    (rounds.length + 1) rounds.length) (leads_inFirstRound ?_ ?_) fun _ ↦ ?_
  · intro hmode
    rw [Opening.tamperEvents, if_pos hmode]
    exact leads_requireRefusal hrounds fun _ htest ↦ .tampering o rounds iv hplays hmode htest
  · intro hmode
    rw [Opening.tamperEvents, if_neg hmode, List.nil_append]
  · exact Triple.bind (leads_writeSecureData htampered hpinged) fun _ ↦ Triple.pure fun w hw ↦ ⟨iv, rfl, hw⟩

/-! ## PONG -/

theorem receivesFor_receiver (crypto : Crypto) (o : Opening) (n : ℕ) :
    (o.receiver crypto n).ReceivesFor (hybridTraffic crypto pqV07 o.inputs).peripheralToCentral o.inputs.sid
      pqSecurePeripheralRole := ⟨rfl, rfl, rfl⟩

/-- The state after a decryption that succeeds. -/
theorem decrypt_receiver {n : ℕ} {raw plaintext : Bytes} {channel : SecureChannel} (hn : n ≤ 3)
    (hseq : ofBigEndian (raw.take 8) = n)
    (h : (o.receiver crypto n).decrypt aead raw [pqSecureMsgTypeData] = (some plaintext, channel)) :
    channel = o.receiver crypto (n + 1) ∧ ∃ iv sealed, SecureOpened aead
      (hybridTraffic crypto pqV07 o.inputs).peripheralToCentral o.inputs.sid pqSecurePeripheralRole
      pqSecureMsgTypeData raw (UInt64.ofNat n) iv sealed plaintext := by
  unfold SecureChannel.decrypt at h
  cases hbody : (o.receiver crypto n).decryptBody aead raw [pqSecureMsgTypeData] with
  | none =>
    rw [hbody] at h
    exact nomatch (Prod.mk.inj h).1
  | some out =>
    rw [hbody] at h
    obtain ⟨hplaintext, hchannel⟩ := Prod.mk.inj h
    obtain rfl := Option.some.inj hplaintext
    obtain ⟨-, seq, iv, sealed, hnumber, hopened⟩ :=
      (SecureChannel.decryptBody_eq_some_iff (receivesFor_receiver crypto o n)).mp hbody
    have hvalue : seq = UInt64.ofNat n := by
      rw [hopened.wire_eq, take_secureFrame, ofBigEndian_bigEndian seq.toNat_lt] at hseq
      rw [← hseq, UInt64.ofNat_toNat]
    rw [hvalue] at hopened
    refine ⟨hchannel.symm.trans ?_, iv, sealed, hopened⟩
    rw [hnumber, hvalue, toNat_ofNat hn]
    simp [Opening.receiver]

/-- A frame that does not decrypt as the next message does not open as it. -/
theorem not_opens_of_decrypt {n : ℕ} {raw : Bytes} {channel : SecureChannel} (hn : n ≤ 3)
    (h : (o.receiver crypto n).decrypt aead raw [pqSecureMsgTypeData] = (none, channel)) (plaintext : Bytes) :
    ¬o.Opens crypto aead n raw plaintext := by
  rintro ⟨iv, sealed, hopened⟩
  have hlater : (o.receiver crypto n).lastRecvSeq < ((UInt64.ofNat n).toNat : ℤ) := by
    rw [toNat_ofNat hn]
    simp [Opening.receiver]
  have hbody := (SecureChannel.decryptBody_eq_some_iff (receivesFor_receiver crypto o n)).mpr
    ⟨hlater, UInt64.ofNat n, iv, sealed, rfl, hopened⟩
  unfold SecureChannel.decrypt at h
  rw [hbody] at h
  exact nomatch (Prod.mk.inj h).1

/-- A decryption fails and leaves only its event, or succeeds. -/
theorem leads_decryptPong {pings n : ℕ} {raw : Bytes} {α : Type} {f : Except DecryptError Bytes → Run α}
    {Q : α → View → Prop}
    (hfailed : ∀ error channel,
      (o.receiver crypto n).decrypt aead raw [pqSecureMsgTypeData] = (none, channel) →
        Leads crypto onCurve aead mode (· = o.inRounds crypto (.unopened raw error :: trace) pings n)
          (f (.error error)) Q)
    (hopened : ∀ plaintext channel,
      (o.receiver crypto n).decrypt aead raw [pqSecureMsgTypeData] = (some plaintext, channel) →
        Leads crypto onCurve aead mode (· = { o.inRounds crypto trace pings n with p2c := some channel })
          (f (.ok plaintext)) Q) :
    Leads crypto onCurve aead mode (· = o.inRounds crypto trace pings n) (decryptPong aead raw >>= f) Q := by
  intro w hw
  have hchannel : w.p2c = some (o.receiver crypto n) := congrArg View.p2c hw
  refine wp_bind.mpr (wp_bind.mpr (wp_look.mpr ?_))
  rw [hchannel]
  dsimp only
  cases hresult : (o.receiver crypto n).decrypt aead raw [pqSecureMsgTypeData] with
  | mk plaintext channel =>
    cases plaintext with
    | none =>
      refine wp_bind.mpr ?_
      refine wp_mono (leads_emit (.unopened raw _) w hw) (fun _ w' hw' ↦ ?_) fun _ _ h ↦ h
      exact wp_pure.mpr (hfailed _ channel hresult w' hw')
    | some plaintext =>
      refine wp_bind.mpr ?_
      refine wp_mono (leads_setP2c channel w hw) (fun _ w' hw' ↦ ?_) fun _ _ h ↦ h
      exact wp_pure.mpr (hopened plaintext channel hresult w' hw')

theorem waits_recvCount {P : View → Prop} : Waits P recvCount fun _ ↦ True := Triple.look fun _ h ↦ ⟨trivial, h⟩

/-- The tampered copy of a PONG fails at the tag, and does not open. -/
theorem leads_requireTagFailure {pings n : ℕ} {raw : Bytes} (hn : n ≤ 3)
    (hbefore : Stopped crypto onCurve aead mode trace)
    (htest : ∀ error, Stopped crypto onCurve aead mode (.unopened (tamperLastBit raw) error :: trace)) :
    Leads crypto onCurve aead mode (· = o.inRounds crypto trace pings n) (requireTagFailure aead raw) fun _ v' ↦
      (∀ plaintext, ¬o.Opens crypto aead n (tamperLastBit raw) plaintext) ∧
        v' = o.inRounds crypto (.unopened (tamperLastBit raw) .invalidTag :: trace) pings n := by
  refine Triple.bind (waits_recvCount.leads hbefore) fun before ↦ Triple.fact fun _ ↦ ?_
  refine leads_decryptPong (Q := fun _ v' ↦ (∀ plaintext, ¬o.Opens crypto aead n (tamperLastBit raw) plaintext) ∧
    v' = o.inRounds crypto (.unopened (tamperLastBit raw) .invalidTag :: trace) pings n) ?_ ?_
  · intro error channel hdecrypt
    have hstopped := htest error
    cases error with
    | invalidTag =>
      refine Triple.bind (waits_recvCount.leads hstopped) fun after ↦ Triple.fact fun _ ↦ ?_
      exact ((waits_require (by decide)).leads hstopped).weaken fun _ _ h ↦ ⟨not_opens_of_decrypt hn hdecrypt, h.2⟩
    | replay => exact Triple.fail fun _ h ↦ ends_of_ne (by decide) hstopped h
    | value => exact Triple.fail fun _ h ↦ ends_of_ne (by decide) hstopped h
  · intro plaintext channel _
    exact Triple.fail fun _ h ↦ ends_of_ne (by decide) hbefore h

/-- The second copy of a PONG fails as a replay. -/
theorem leads_requireReplayFailure {pings n : ℕ} {raw : Bytes} (hbefore : Stopped crypto onCurve aead mode trace)
    (htest : ∀ error, Stopped crypto onCurve aead mode (.unopened raw error :: trace)) :
    Leads crypto onCurve aead mode (· = o.inRounds crypto trace pings n) (requireReplayFailure aead raw) fun _ v' ↦
      v' = o.inRounds crypto (.unopened raw .replay :: trace) pings n := by
  refine Triple.bind (waits_recvCount.leads hbefore) fun before ↦ Triple.fact fun _ ↦ ?_
  refine leads_decryptPong
    (Q := fun _ v' ↦ v' = o.inRounds crypto (.unopened raw .replay :: trace) pings n) ?_ ?_
  · intro error channel _
    have hstopped := htest error
    cases error with
    | replay =>
      refine Triple.bind (waits_recvCount.leads hstopped) fun after ↦ Triple.fact fun _ ↦ ?_
      exact ((waits_require (by decide)).leads hstopped).weaken fun _ _ h ↦ h.2
    | invalidTag => exact Triple.fail fun _ h ↦ ends_of_ne (by decide) hstopped h
    | value => exact Triple.fail fun _ h ↦ ends_of_ne (by decide) hstopped h
  · intro plaintext channel _
    exact Triple.fail fun _ h ↦ ends_of_ne (by decide) hbefore h

theorem leads_acceptPong (h : Ongoing crypto onCurve aead mode sid sas probe o rounds) (hcount : rounds.length < 3)
    (iv : Block 12) :
    let past := o.pinged crypto aead mode rounds.length iv (o.roundsTrace crypto aead mode rounds)
    Leads crypto onCurve aead mode (· = o.inRounds crypto past (rounds.length + 1) rounds.length)
      (acceptPong env onCurve aead mode rounds.length) fun raw v' ↦
        o.Answers crypto aead mode rounds.length raw ∧
          v' = o.inRounds crypto (.accepted raw :: (Opening.copyEvents mode rounds.length raw ++ past))
            (rounds.length + 1) (rounds.length + 1) := by
  intro past
  have hplays := h.plays hcount.le
  have hpinged : Stopped crypto onCurve aead mode past := .pinged o rounds iv hplays hcount
  refine Triple.bind (waits_receive.leads hpinged) fun raw ↦ Triple.fact fun _ ↦ ?_
  refine Triple.bind ((waits_checkErrorFrame raw).leads hpinged) fun _ ↦ Triple.fact fun _ ↦ ?_
  refine Triple.bind ((waits_require (by decide)).leads hpinged) fun _ ↦ Triple.fact fun _ ↦ ?_
  refine Triple.bind ((waits_require (by decide)).leads hpinged) fun _ ↦ Triple.fact fun hseq ↦ ?_
  have hcopied : Stopped crypto onCurve aead mode (Opening.copyEvents mode rounds.length raw ++ past) :=
    .copied o rounds iv raw hplays hcount
  refine Triple.bind (Q := fun _ w ↦ (rounds.length = 0 ∧ mode = some .p2cTamper →
      ∀ plaintext, ¬o.Opens crypto aead rounds.length (tamperLastBit raw) plaintext) ∧
    w.view = o.inRounds crypto (Opening.copyEvents mode rounds.length raw ++ past) (rounds.length + 1) rounds.length)
    ?_ fun _ ↦ Triple.fact fun htampered ↦ ?_
  · unfold inFirstRound onlyIf Opening.copyEvents
    split_ifs with hmode
    · refine Triple.bind (leads_requireTagFailure hcount.le hpinged fun error ↦
        .copying o rounds iv raw error hplays hmode) fun _ ↦ Triple.fact fun hforged ↦ ?_
      exact Triple.update fun _ hw ↦ ⟨fun _ ↦ hforged, hw⟩
    · exact Triple.pure fun _ hw ↦ ⟨fun hmode' ↦ absurd hmode' hmode, hw⟩
  refine leads_decryptPong (Q := fun raw v' ↦ o.Answers crypto aead mode rounds.length raw ∧
    v' = o.inRounds crypto (.accepted raw :: (Opening.copyEvents mode rounds.length raw ++ past))
      (rounds.length + 1) (rounds.length + 1)) ?_ ?_
  · intro error channel _
    exact Triple.fail fun _ h ↦ ends_of_ne (by decide) (Stopped.unopened o rounds iv raw error hplays hcount) h
  · intro plaintext channel hdecrypt
    obtain ⟨rfl, hopened⟩ := decrypt_receiver hcount.le (not_not.mp hseq) hdecrypt
    refine Triple.bind ((waits_require (by decide)).leads hcopied) fun _ ↦ Triple.fact fun hplaintext ↦ ?_
    obtain rfl := not_not.mp hplaintext
    exact Triple.bind (leads_emit _) fun _ ↦ Triple.pure fun w hw ↦ ⟨⟨hopened, htampered⟩, hw⟩

/-! ## The loop -/

theorem leads_round (h : Ongoing crypto onCurve aead mode sid sas probe o rounds) (hcount : rounds.length < 3) :
    Leads crypto onCurve aead mode
      (· = o.inRounds crypto (o.roundsTrace crypto aead mode rounds) rounds.length rounds.length)
      (round env onCurve aead mode probe rounds.length) fun _ v' ↦
        ∃ round, o.Answers crypto aead mode rounds.length round.pong ∧
          v' = o.inRounds crypto (o.roundsTrace crypto aead mode (round :: rounds)) (rounds.length + 1)
            (rounds.length + 1) := by
  refine Triple.bind (leads_sendPing h hcount) fun wire ↦ Triple.exists_pre fun iv ↦ Triple.fact fun hwire ↦ ?_
  subst hwire
  refine Triple.bind (leads_acceptPong h hcount iv) fun raw ↦ Triple.fact fun hanswers ↦ ?_
  have hplays : o.Plays crypto onCurve aead mode (⟨iv, raw⟩ :: rounds) :=
    ⟨h.asked, h.mode_ne, h.mode_ne', hcount, hanswers, h.answered⟩
  have hponged := Stopped.ponged o rounds ⟨iv, raw⟩ hplays
  have hreplayed := Stopped.replayed o rounds ⟨iv, raw⟩ hplays
  refine Triple.bind (Q := fun _ w ↦ w.view = o.inRounds crypto
    (o.replayEvents crypto aead mode rounds.length iv ++
      o.ponged crypto aead mode rounds.length ⟨iv, raw⟩ (o.roundsTrace crypto aead mode rounds))
    (rounds.length + 1) (rounds.length + 1)) (leads_inFirstRound ?_ ?_) fun _ ↦ ?_
  · intro hmode
    rw [Opening.replayEvents, if_pos hmode]
    exact leads_requireRefusal hponged fun _ htest ↦ .replaying o rounds ⟨iv, raw⟩ hplays hmode htest
  · intro hmode
    rw [Opening.replayEvents, if_neg hmode, List.nil_append]
    rfl
  · refine Triple.weaken (Q := fun _ w ↦ w.view = o.inRounds crypto
      (o.roundsTrace crypto aead mode (⟨iv, raw⟩ :: rounds)) (rounds.length + 1) (rounds.length + 1))
      (leads_inFirstRound (fun hmode ↦ ?_) fun hmode ↦ ?_) fun _ _ hw ↦ ⟨⟨iv, raw⟩, hanswers, hw⟩
    · rw [Opening.roundsTrace, Opening.played, Opening.recopyEvents, if_pos hmode]
      exact leads_requireReplayFailure hreplayed fun error ↦ .recopying o rounds ⟨iv, raw⟩ error hplays hmode
    · rw [Opening.roundsTrace, Opening.played, Opening.recopyEvents, if_neg hmode, List.nil_append]

/-- The rest of the loop. -/
theorem leads_roundLoop (n : ℕ) (h : Ongoing crypto onCurve aead mode sid sas probe o rounds)
    (hcount : rounds.length + n = 3) :
    Leads crypto onCurve aead mode
      (· = o.inRounds crypto (o.roundsTrace crypto aead mode rounds) rounds.length rounds.length)
      (roundLoop env onCurve aead mode probe rounds.length n) fun _ v' ↦
        ∃ rounds', (rounds'.length = 3 ∧ Ongoing crypto onCurve aead mode sid sas probe o rounds') ∧
          v' = o.inRounds crypto (o.roundsTrace crypto aead mode rounds') 3 3 := by
  induction n generalizing rounds with
  | zero =>
    replace hcount : rounds.length = 3 := hcount
    refine Triple.pure fun w hw ↦ ⟨rounds, ⟨hcount, h⟩, ?_⟩
    rwa [hcount] at hw
  | succ n ih =>
    refine Triple.bind (leads_round h (by omega)) fun _ ↦ Triple.exists_pre fun round ↦ Triple.fact fun hanswers ↦ ?_
    exact @ih (round :: rounds) { h with answered := ⟨hanswers, h.answered⟩ } (by rw [List.length_cons]; omega)

end Rounds

/-! ## The whole run -/

/-- A buffer of zeros. -/
def Zeros (buffer : Bytes) : Prop := ∀ byte ∈ buffer, byte = 0

/-- No buffer and no channel holds a secret. -/
structure World.Wiped (w : World) : Prop where
  ssMlkem : Zeros w.buffers.ssMlkem
  ssEcdh : Zeros w.buffers.ssEcdh
  applicationKey : Zeros w.buffers.applicationKey
  finishedC : Zeros w.buffers.finishedC
  expectedFinishedP : Zeros w.buffers.expectedFinishedP
  c2pKey : Zeros w.buffers.c2pKey
  p2cKey : Zeros w.buffers.p2cKey
  c2p : w.c2p = none
  p2c : w.p2c = none

/-- A run that returned. -/
structure Completed (crypto : Crypto) (onCurve : Bytes → Bool) (aead : Aead) (mode : Option NegativeTest)
    (o : Opening) (rounds : List Round) (result : Result) (trace : List Event) : Prop where
  asked : o.Asked onCurve none
  answered : o.Answered crypto aead none rounds
  length_rounds : rounds.length = 3
  mode_eq : mode = none
  trace_eq : trace = o.roundsTrace crypto aead none rounds
  result_eq : result = { sas := (o.schedule crypto).sas, rounds := 3 }

section Whole

variable {crypto : Crypto} {onCurve : Bytes → Bool} {aead : Aead} {mode : Option NegativeTest} {env : ℕ → Answer}
variable {sid probe : Bytes} {sas : ℕ} {o : Opening} {rounds : List Round} {trace : List Event}

theorem zeros_zeroed (buffer : Bytes) : Zeros (zeroed buffer) := fun _ h ↦ List.eq_of_mem_replicate h

/-- Outside the first two modes the rounds and the quiet after them are all of the trace. -/
theorem Ongoing.passed {test : NegativeTest} (h : Ongoing crypto onCurve aead (some test) sid sas probe o rounds)
    (hcount : rounds.length = 3) :
    Passed crypto onCurve aead test (quiet ++ o.roundsTrace crypto aead (some test) rounds) := by
  refine ⟨o, h.asked, ?_⟩
  split
  · exact absurd rfl h.mode_ne
  · exact absurd rfl h.mode_ne'
  · exact ⟨rounds, hcount, h.answered, rfl⟩

theorem quieting_quiet : Quieting quiet := .linked true

theorem denying_denial {wire : Bytes} {answer : Answer} (h : answer.Denies) : Denying wire (denial wire answer) :=
  .quieting answer h quieting_quiet

/-- A run that passes can still stop. -/
theorem Passed.stopped {test : NegativeTest} (h : Passed crypto onCurve aead test trace) :
    Stopped crypto onCurve aead (some test) trace := by
  obtain ⟨o, hasked, h⟩ := h
  split at h
  · obtain ⟨answer, hdenies, rfl⟩ := h
    exact .rejecting o hasked rfl (denying_denial hdenies)
  · obtain ⟨answer, hdenies, rfl⟩ := h
    exact .blocking o hasked rfl (denying_denial hdenies)
  · rename_i hmode hmode'
    obtain ⟨rounds, hcount, hanswered, rfl⟩ := h
    have hplays : o.Plays crypto onCurve aead (some test) rounds :=
      ⟨hasked, fun heq ↦ hmode (Option.some.inj heq), fun heq ↦ hmode' (Option.some.inj heq), hcount.le, hanswered⟩
    exact .quieting o rounds hplays hcount (Option.some_ne_none test) quieting_quiet

theorem Ends.stopped {e : Exn} (h : Ends crypto onCurve aead mode e trace) :
    Stopped crypto onCurve aead mode trace := by
  unfold Ends at h
  split_ifs at h
  · obtain ⟨test, rfl, hpassed⟩ := h
    exact hpassed.stopped
  · exact h

theorem leads_finishTest (h : Ongoing crypto onCurve aead mode sid sas probe o rounds) (hcount : rounds.length = 3) :
    Leads crypto onCurve aead mode (· = o.inRounds crypto (o.roundsTrace crypto aead mode rounds) 3 3)
      (finishTest env mode) fun _ v' ↦
        mode = none ∧ v' = o.inRounds crypto (o.roundsTrace crypto aead mode rounds) 3 3 := by
  have hplays := h.plays hcount.le
  unfold finishTest onlyIf
  split_ifs with hmode
  · refine Triple.bind Triple.peek fun checked ↦ ?_
    refine Triple.bind ((waits_require (by decide)).leads (Stopped.rounds o rounds hplays)) fun _ ↦
      Triple.fact fun _ ↦ ?_
    refine Triple.bind (leads_requireQuiet fun _ htest ↦ .quieting o rounds hplays hcount hmode htest) fun _ ↦
      Triple.fail fun w hw ↦ ?_
    obtain ⟨test, rfl⟩ := Option.ne_none_iff_exists'.mp hmode
    rw [Ends, if_pos rfl, hw]
    exact ⟨test, rfl, h.passed hcount⟩
  · exact Triple.pure fun _ hw ↦ ⟨not_not.mp hmode, hw⟩

theorem leads_runBody {callback : Bool} :
    Leads crypto onCurve aead mode (· = {}) (runBody env crypto onCurve aead mode callback) fun result v' ↦
      ∃ o rounds, Completed crypto onCurve aead mode o rounds result v'.trace := by
  have hnone : Stopped crypto onCurve aead mode [] :=
    stopped_nil
  refine Triple.bind (Q := fun _ w ↦ w.view = {}) ?_ fun _ ↦ ?_
  · refine Triple.bind (waits_requireConnected.leads hnone) fun _ ↦ Triple.fact fun _ ↦ ?_
    exact Triple.bind (waits_await.leads hnone) fun _ ↦ Triple.fact fun _ ↦ Triple.update fun _ hw ↦ hw
  refine Triple.bind leads_negotiate fun out ↦ Triple.exists_pre fun o ↦ Triple.fact fun hnegotiated ↦ ?_
  obtain ⟨sid, sas⟩ := out
  obtain ⟨hvalid, rfl, hsas⟩ := id hnegotiated
  refine Triple.bind (leads_authenticate hnegotiated) fun probe ↦ Triple.exists_pre fun o' ↦ Triple.fact fun h ↦ ?_
  have hsid : o.inputs.sid.bytes = o'.inputs.sid.bytes := h.sid_eq
  rw [hsid] at h ⊢
  refine Triple.bind leads_openChannels fun _ ↦ ?_
  refine Triple.bind (@leads_roundLoop _ _ _ _ _ _ _ _ _ [] 3 ⟨h, trivial⟩ rfl) fun _ ↦ Triple.exists_pre fun rounds ↦ ?_
  refine Triple.fact fun hrounds ↦ ?_
  refine Triple.bind (leads_finishTest hrounds.2 hrounds.1) fun _ ↦ Triple.fact fun hmode ↦ Triple.pure fun w hw ↦ ?_
  subst hmode
  exact ⟨o', rounds, h.asked, hrounds.2.answered, hrounds.1, rfl, congrArg View.trace hw, by rw [← h.sas_eq]⟩

/-- The cleanup keeps the trace, and only a run that is over reaches it. -/
theorem triple_cleanup {Q : List Event → Prop} (hQ : ∀ trace, Q trace → Stopped crypto onCurve aead mode trace) :
    Triple (fun w : World ↦ Q w.trace)
      (do
        update fun w ↦ { w with buffers := w.buffers.wipe, c2p := none, p2c := none }
        stopNotify env mode)
      (fun _ w ↦ w.Wiped ∧ Q w.trace) fun e w ↦ w.Wiped ∧ Ends crypto onCurve aead mode e w.trace := by
  have hfail : ∀ e : Exn, e ≠ .negativePassed → ∀ w : World, w.Wiped ∧ Q w.trace →
      w.Wiped ∧ Ends crypto onCurve aead mode e w.trace := fun e he w h ↦
    ⟨h.1, by
      rw [Ends, if_neg he]
      exact hQ _ h.2⟩
  refine Triple.bind (Q := fun _ w ↦ w.Wiped ∧ Q w.trace) (Triple.update fun w h ↦ ⟨?_, h⟩) fun _ ↦ ?_
  · constructor <;> first | exact zeros_zeroed _ | rfl
  refine Triple.bind Triple.peek fun started ↦ ?_
  unfold onlyIf
  split_ifs
  · refine Triple.bind (Q := fun _ w ↦ w.Wiped ∧ Q w.trace) ?_ fun answer ↦ ?_
    · exact fun w h ↦ ⟨⟨h.1.1, h.1.2, h.1.3, h.1.4, h.1.5, h.1.6, h.1.7, h.1.8, h.1.9⟩, h.2⟩
    split_ifs
    · exact Triple.bind (Triple.fail (hfail _ (by decide))) fun _ ↦ Triple.fail (hfail _ (by decide))
    · exact Triple.bind (Triple.fail (hfail _ (by decide))) fun _ ↦ Triple.pure fun _ h ↦ h
    · exact Triple.bind (Triple.pure fun _ h ↦ h) fun _ ↦ Triple.fail (hfail _ (by decide))
    · exact Triple.bind (Triple.pure fun _ h ↦ h) fun _ ↦ Triple.pure fun _ h ↦ h
  · exact Triple.pure fun _ h ↦ h

end Whole

/-- **The runner of v0.7.**  In every mode, against every behaviour of the outside, a run returns only without a
test mode, after the handshake whose SAS was confirmed and three answered rounds.  It reports a test as passed only
after the refusals that the mode is about.  Any other exception leaves a beginning of one of these runs.  No
secret stays in a buffer. -/
theorem runPhase7AuthenticatedHybrid_ends (env : ℕ → Answer) (crypto : Crypto) (onCurve : Bytes → Bool) (aead : Aead)
    (mode : Option NegativeTest) (callback : Bool) :
    let run := runPhase7AuthenticatedHybrid env crypto onCurve aead mode callback {}
    run.2.Wiped ∧
      match run.1 with
      | .ok result => ∃ o rounds, Completed crypto onCurve aead mode o rounds result run.2.trace
      | .error e => Ends crypto onCurve aead mode e run.2.trace := by
  have htriple : Triple (fun w : World ↦ w = {}) (runPhase7AuthenticatedHybrid env crypto onCurve aead mode callback)
      (fun result w ↦ w.Wiped ∧ ∃ o rounds, Completed crypto onCurve aead mode o rounds result w.trace)
      fun e w ↦ w.Wiped ∧ Ends crypto onCurve aead mode e w.trace := by
    refine Triple.bind (Q := fun _ w ↦ w.view = {}) (fun w hw ↦ by rw [hw]; rfl) fun link ↦ ?_
    refine Triple.bind (Triple.require fun w hw ↦ ?_) fun _ ↦ Triple.fact fun _ ↦ ?_
    · obtain ⟨htrace, hbuffers, hc2p, hp2c⟩ := View.mk.inj hw
      refine ⟨?_, ?_⟩
      · constructor <;> first | exact hc2p | exact hp2c | (rw [hbuffers]; rintro _ ⟨⟩)
      · rw [Ends, if_neg (by decide), htrace]
        exact stopped_nil
    · refine Triple.ensuring leads_runBody (fun result ↦ ?_) fun e ↦ ?_
      · refine triple_cleanup (Q := fun trace ↦ ∃ o rounds, Completed crypto onCurve aead mode o rounds result trace) ?_
        rintro trace ⟨o, rounds, h⟩
        obtain ⟨hasked, hanswered, hcount, rfl, rfl, -⟩ := h
        exact .rounds o rounds ⟨hasked, (Option.some_ne_none _).symm, (Option.some_ne_none _).symm, hcount.le, hanswered⟩
      · exact triple_cleanup (Q := Ends crypto onCurve aead mode e) fun _ h ↦ h.stopped
  have hrun := htriple {} rfl
  unfold Wp at hrun
  dsimp only
  rcases hresult : runPhase7AuthenticatedHybrid env crypto onCurve aead mode callback {} with ⟨_ | _, w⟩ <;>
    rw [hresult] at hrun <;> exact hrun

end PqBleHandshake.Python.V07
