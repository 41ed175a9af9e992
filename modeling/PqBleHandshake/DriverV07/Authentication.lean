import PqBleHandshake.DriverV07.Opening

/-!
# The authentication of v0.7

From the SAS to the verified FINISHED_P, in every test mode.
-/

namespace PqBleHandshake.Python.V07

open Foundation Effect

section Authentication

variable {crypto : Crypto} {onCurve : Bytes → Bool} {aead : Aead} {mode : Option NegativeTest} {env : ℕ → Answer}
variable {o : Opening} {v : View}

/-! ## The probe and the SAS -/

/-- The modes that write the probe. -/
def NeedsProbe (mode : Option NegativeTest) : Prop :=
  mode = some .sasReject ∨ mode = some .finishedC ∨ mode = some .preAuth

theorem toNat_ofNat {n : ℕ} (h : n ≤ 3) : (UInt64.ofNat n).toNat = n :=
  UInt64.toNat_ofNat_of_lt (by norm_num [UInt64.size]; omega)

theorem ping_zero : ping 0 = ascii "PING 0" := by decide

/-- The sending channel after some PINGs. -/
def Opening.sender (crypto : Crypto) (o : Opening) (n : ℕ) : SecureChannel where
  key := (hybridTraffic crypto pqV07 o.inputs).centralToPeripheral
  sessionId := o.inputs.sid.bytes
  role := [pqSecureCentralRole]
  peerRole := [pqSecurePeripheralRole]
  sendSeq := n
  sentCount := n

/-- The receiving channel after some PONGs. -/
def Opening.receiver (crypto : Crypto) (o : Opening) (n : ℕ) : SecureChannel where
  key := (hybridTraffic crypto pqV07 o.inputs).peripheralToCentral
  sessionId := o.inputs.sid.bytes
  role := [pqSecureCentralRole]
  peerRole := [pqSecurePeripheralRole]
  lastRecvSeq := n - 1
  recvCount := n

theorem encrypt_sender {n : ℕ} (hn : n ≤ 3) (iv : Block 12) :
    (o.sender crypto n).encrypt aead iv (ping n) [pqSecureMsgTypeData] =
      (some (o.frame crypto aead n iv), o.sender crypto (n + 1)) := by
  have haad : (o.sender crypto n).buildAad (o.sender crypto n).sendSeq (o.sender crypto n).role [pqSecureMsgTypeData] =
      some (PqBleHandshake.buildAad o.inputs.sid pqSecureCentralRole (UInt64.ofNat n) pqSecureMsgTypeData) := by
    have hbuild := @SecureChannel.buildAad_eq o.inputs.sid pqSecureCentralRole pqSecureMsgTypeData
      (o.sender crypto n) rfl (UInt64.ofNat n)
    rwa [toNat_ofNat hn] at hbuild
  have hframe : o.frame crypto aead n iv = bigEndian 8 n ++ [pqSecureMsgTypeData] ++ iv.bytes ++
      aead.encrypt (o.sender crypto n).key iv
        (PqBleHandshake.buildAad o.inputs.sid pqSecureCentralRole (UInt64.ofNat n) pqSecureMsgTypeData) (ping n) := by
    rw [Opening.frame, secureFrame, toNat_ofNat hn]
    rfl
  rw [hframe, SecureChannel.encrypt, haad]
  rfl

theorem create_sender (crypto : Crypto) (o : Opening) :
    SecureChannel.create (hybridTraffic crypto pqV07 o.inputs).centralToPeripheral.bytes (some o.inputs.sid.bytes)
      (some [pqSecureCentralRole]) = some (o.sender crypto 0) :=
  SecureChannel.create_eq _ _ (.inl rfl)

theorem create_receiver (crypto : Crypto) (o : Opening) :
    SecureChannel.create (hybridTraffic crypto pqV07 o.inputs).peripheralToCentral.bytes (some o.inputs.sid.bytes)
      (some [pqSecureCentralRole]) = some (o.receiver crypto 0) :=
  SecureChannel.create_eq _ _ (.inl rfl)

theorem leads_prepareProbe {sas : ℕ} (h : Negotiated crypto onCurve o.inputs.sid.bytes sas o) :
    Leads crypto onCurve aead mode (· = o.at crypto o.trace)
      (prepareProbe env crypto aead mode o.inputs.sid.bytes) fun probe v' ↦
        ∃ o' : Opening, (Negotiated crypto onCurve o.inputs.sid.bytes sas o' ∧
          (NeedsProbe mode → probe = o'.probe crypto aead)) ∧ v' = o'.at crypto o'.trace := by
  unfold prepareProbe
  split_ifs with hneeds
  · refine Triple.bind leads_buffers fun buffers ↦ Triple.fact fun hbuffers ↦ ?_
    subst hbuffers
    refine Triple.bind (leads_orRaise (derivePhase7TrafficKeys_eq crypto o.inputs)) fun keys ↦ Triple.fact fun hkeys ↦ ?_
    subst hkeys
    refine Triple.bind (leads_orRaise (create_sender crypto o)) fun channel ↦ Triple.fact fun hchannel ↦ ?_
    subst hchannel
    refine Triple.bind (waits_ask.leads (h.valid.stopped_drop 0)) fun drawn ↦ Triple.fact fun _ ↦ ?_
    rw [← ping_zero, encrypt_sender (by omega)]
    refine (leads_orRaise rfl).weaken fun probe w hw ↦ ?_
    refine ⟨{ o with probeIv := .ofBytes 12 drawn.bytes }, ⟨⟨?_, rfl, h.sas_eq⟩, fun _ ↦ hw.1⟩, hw.2⟩
    exact ⟨h.valid.central, h.valid.peripheral, h.valid.fragments⟩
  · exact Triple.pure fun w hw ↦ ⟨o, ⟨h, fun hneeds' ↦ absurd hneeds' hneeds⟩, hw⟩

theorem leads_probeEarly {sas : ℕ} {probe : Bytes} (h : Negotiated crypto onCurve o.inputs.sid.bytes sas o)
    (hprobe : NeedsProbe mode → probe = o.probe crypto aead) :
    Leads crypto onCurve aead mode (· = o.at crypto o.trace) (probeEarly env mode probe) fun _ v' ↦
      ∃ o' : Opening, ((o'.Asked onCurve mode ∧ Negotiated crypto onCurve o.inputs.sid.bytes sas o') ∧
        (NeedsProbe mode → probe = o'.probe crypto aead)) ∧ v' = o'.at crypto (o'.promptTrace crypto aead mode) := by
  unfold probeEarly onlyIf
  split_ifs with hmode
  · rw [hprobe (.inr (.inr hmode))]
    refine Triple.bind (leads_requirePreauthRejection (h.valid.stopped_drop 0) fun _ htest ↦
      .prompting o h.valid hmode htest) fun _ ↦ Triple.exists_pre fun answer ↦ Triple.fact fun hdenies ↦ ?_
    refine Triple.update fun w hw ↦ ⟨{ o with outcome := answer }, ⟨⟨?_, ?_⟩, fun _ ↦ rfl⟩, ?_⟩
    · exact ⟨⟨h.valid.central, h.valid.peripheral, h.valid.fragments⟩, fun _ ↦ hdenies⟩
    · exact ⟨⟨h.valid.central, h.valid.peripheral, h.valid.fragments⟩, rfl, h.sas_eq⟩
    · refine Eq.trans hw ?_
      rw [Opening.promptTrace, if_pos hmode]
      rfl
  · refine Triple.pure fun w hw ↦ ⟨o, ⟨⟨⟨h.valid, fun hmode' ↦ absurd hmode' hmode⟩, h⟩, hprobe⟩, hw.trans ?_⟩
    rw [Opening.promptTrace, if_neg hmode]

theorem waits_confirmSas {P : View → Prop} {callback : Bool} :
    Waits P (confirmSas env mode callback) fun _ ↦ True := by
  unfold confirmSas
  split_ifs
  · exact Triple.pure fun _ h ↦ ⟨trivial, h⟩
  · exact waits_await.bind fun _ _ ↦ Triple.pure fun _ h ↦ ⟨trivial, h⟩

theorem leads_confirm {probe : Bytes} {callback : Bool} (hasked : o.Asked onCurve mode)
    (hprobe : NeedsProbe mode → probe = o.probe crypto aead) :
    Leads crypto onCurve aead mode (· = o.at crypto (o.promptTrace crypto aead mode))
      (confirm env mode callback probe (o.schedule crypto).sas) fun _ v' ↦
        mode ≠ some .sasReject ∧ v' = o.at crypto (o.confirmTrace crypto aead mode) := by
  refine Triple.bind (waits_confirmSas.leads (Stopped.prompted o hasked)) fun confirmed ↦ Triple.fact fun _ ↦ ?_
  split_ifs
  · have hdeclined := @Stopped.declined crypto onCurve aead mode o hasked
    refine Triple.bind (leads_emit _) fun _ ↦ ?_
    refine Triple.bind (Q := fun _ w ↦ w.view = o.at crypto (o.declineTrace crypto aead mode)) ?_
      fun _ ↦ Triple.fail fun _ h ↦ ends_of_ne (by decide) hdeclined h
    unfold onlyIf
    split_ifs with hmode
    · rw [hprobe (.inl hmode)]
      refine Triple.bind (leads_requirePreauthRejection hdeclined fun _ htest ↦
        .rejecting o hasked hmode htest) fun _ ↦ Triple.exists_pre fun answer ↦ Triple.fact fun hdenies ↦ ?_
      refine Triple.fail fun w hw ↦ ?_
      subst hmode
      rw [Ends, if_pos rfl, hw]
      exact ⟨.sasReject, rfl, o, hasked, answer, hdenies, rfl⟩
    · exact Triple.pure fun _ h ↦ h
  · refine Triple.bind (leads_emit _) fun _ ↦ ?_
    exact (waits_require (by decide)).leads (Stopped.confirmed o hasked)

/-! ## FINISHED -/

theorem length_tamperLastBit {wire : Bytes} (h : wire ≠ []) : (tamperLastBit wire).length = wire.length := by
  have hpositive := List.length_pos_iff.mpr h
  rw [tamperLastBit, List.length_append, List.length_dropLast, List.length_singleton]
  omega

/-- The buffers after FINISHED_C. -/
def Opening.awaiting (crypto : Crypto) (o : Opening) : Buffers :=
  { o.derived crypto with finishedC := (Block.zero 32).bytes }

theorem encodePhase7FinishedC_eq (tag : Block 32) :
    encodePhase7FinishedC onCurve tag.bytes = some (phase7Frame pqV07 pqPhase7FinishedC tag.bytes) := by
  simp only [encodePhase7FinishedC, requireSize_block, Option.bind_eq_bind, Option.bind_some,
    encodePhase7Frame_eq (.inl rfl)]

theorem leads_sendFinishedC (hasked : o.Asked onCurve mode) (hmode : mode ≠ some .sasReject) :
    Leads crypto onCurve aead mode (· = o.at crypto (o.confirmTrace crypto aead mode))
      (sendFinishedC env onCurve mode) fun _ v' ↦
        v' = { trace := o.finishedTrace crypto aead mode, buffers := o.awaiting crypto } := by
  obtain ⟨tag, htag⟩ : ∃ tag : Block 32, tag.bytes = if mode = some .finishedC then
      tamperLastBit (hybridTagC crypto pqV07 o.inputs).bytes else (hybridTagC crypto pqV07 o.inputs).bytes := by
    split_ifs
    · have hne : (hybridTagC crypto pqV07 o.inputs).bytes ≠ [] :=
        List.ne_nil_of_length_pos (by rw [Block.length_bytes]; decide)
      exact ⟨⟨_, (length_tamperLastBit hne).trans (Block.length_bytes _)⟩, rfl⟩
    · exact ⟨_, rfl⟩
  have hframe : phase7Frame pqV07 pqPhase7FinishedC tag.bytes = o.finishedC crypto mode := by
    rw [htag]
    rfl
  refine Triple.bind (Q := fun _ w ↦ w.view =
      { o.at crypto (o.confirmTrace crypto aead mode) with
        buffers := { o.derived crypto with finishedC := tag.bytes } }) ?_ fun _ ↦ ?_
  · rw [htag]
    unfold onlyIf
    split_ifs
    · exact leads_setBuffers _
    · exact Triple.pure fun _ h ↦ h
  refine Triple.bind leads_buffers fun buffers ↦ Triple.fact fun hbuffers ↦ ?_
  subst hbuffers
  refine Triple.bind (leads_orRaise (encodePhase7FinishedC_eq tag)) fun frame ↦ Triple.fact fun heq ↦ ?_
  subst heq
  rw [hframe]
  refine Triple.bind (leads_sendControl (Stopped.confirmed o hasked) (Stopped.finished o hasked hmode)) fun _ ↦ ?_
  refine (leads_setBuffers _).weaken fun _ w hw ↦ hw.trans ?_
  simp only [View.record, Opening.at, zeroed_block]
  rfl

/-- The buffers after FINISHED_P. -/
def Opening.verified (crypto : Crypto) (o : Opening) : Buffers :=
  { o.awaiting crypto with expectedFinishedP := (Block.zero 32).bytes }

theorem leads_acceptFinishedP {probe : Bytes} (hasked : o.Asked onCurve mode) (hmode : mode ≠ some .sasReject)
    (hprobe : NeedsProbe mode → probe = o.probe crypto aead) :
    Leads crypto onCurve aead mode
      (· = { trace := o.finishedTrace crypto aead mode, buffers := o.awaiting crypto })
      (acceptFinishedP env onCurve mode probe) fun _ v' ↦ mode ≠ some .finishedC ∧
        v' = { trace := o.secureTrace crypto aead mode, buffers := o.verified crypto } := by
  have hfinished := @Stopped.finished crypto onCurve aead mode o hasked hmode
  refine Triple.bind (waits_receive.leads hfinished) fun raw ↦ Triple.fact fun _ ↦ ?_
  refine Triple.bind (Q := fun _ w ↦ mode ≠ some .finishedC ∧
      w.view = { trace := o.finishedTrace crypto aead mode, buffers := o.awaiting crypto }) ?_ fun _ ↦ ?_
  · unfold onlyIf
    split_ifs with htest
    · rw [hprobe (.inr (.inl htest))]
      refine Triple.bind (leads_requireErrorStatus hfinished) fun _ ↦ ?_
      refine Triple.bind (leads_requirePreauthRejection (Stopped.refused o hasked htest) fun _ hdenying ↦
        .blocking o hasked htest hdenying) fun _ ↦ Triple.exists_pre fun answer ↦ Triple.fact fun hdenies ↦ ?_
      refine Triple.fail fun w hw ↦ ?_
      subst htest
      rw [Ends, if_pos rfl, hw]
      exact ⟨.finishedC, rfl, o, hasked, answer, hdenies, rfl⟩
    · exact Triple.pure fun _ h ↦ ⟨htest, h⟩
  refine Triple.fact fun htest ↦ ?_
  refine Triple.bind ((waits_checkErrorFrame raw).leads hfinished) fun _ ↦ Triple.fact fun _ ↦ ?_
  refine Triple.bind ((waits_orAuthError _).leads hfinished) fun received ↦ Triple.fact fun hreceived ↦ ?_
  obtain rfl := parsePhase7FinishedP_eq_some hreceived
  refine Triple.bind leads_buffers fun buffers ↦ Triple.fact fun hbuffers ↦ ?_
  subst hbuffers
  refine Triple.bind ((waits_require (by decide)).leads hfinished) fun _ ↦ Triple.fact fun htag ↦ ?_
  obtain rfl := not_not.mp htag
  refine Triple.bind (leads_emit _) fun _ ↦ ?_
  refine (leads_setBuffers _).weaken fun _ w hw ↦ ⟨htest, hw.trans ?_⟩
  have hzeroed : zeroed (o.awaiting crypto).expectedFinishedP = (Block.zero 32).bytes := zeroed_block _
  simp only [View.record, hzeroed]
  rfl

/-- The handshake is done. -/
structure Authenticated (crypto : Crypto) (onCurve : Bytes → Bool) (aead : Aead) (mode : Option NegativeTest)
    (sid : Bytes) (sas : ℕ) (probe : Bytes) (o : Opening) : Prop extends Negotiated crypto onCurve sid sas o where
  asked : o.Asked onCurve mode
  probe_eq : NeedsProbe mode → probe = o.probe crypto aead
  mode_ne : mode ≠ some .sasReject
  mode_ne' : mode ≠ some .finishedC

theorem leads_authenticate {sas : ℕ} {callback : Bool} (h : Negotiated crypto onCurve o.inputs.sid.bytes sas o) :
    Leads crypto onCurve aead mode (· = o.at crypto o.trace)
      (authenticate env crypto onCurve aead mode callback o.inputs.sid.bytes sas) fun probe v' ↦
        ∃ o' : Opening, Authenticated crypto onCurve aead mode o.inputs.sid.bytes sas probe o' ∧
          v' = { trace := o'.secureTrace crypto aead mode, buffers := o'.verified crypto } := by
  refine Triple.bind (leads_prepareProbe h) fun probe ↦ Triple.exists_pre fun o' ↦ Triple.fact fun hprobe ↦ ?_
  obtain ⟨hnegotiated, hprobe⟩ := hprobe
  have hsid : o.inputs.sid.bytes = o'.inputs.sid.bytes := hnegotiated.sid_eq
  rw [hsid] at hnegotiated ⊢
  refine Triple.bind (leads_probeEarly hnegotiated hprobe) fun _ ↦ Triple.exists_pre fun o' ↦ Triple.fact fun hasked ↦ ?_
  obtain ⟨⟨hasked, hnegotiated⟩, hprobe⟩ := hasked
  obtain ⟨-, -, rfl⟩ := id hnegotiated
  refine Triple.bind (leads_confirm hasked hprobe) fun _ ↦ Triple.fact fun hmode ↦ ?_
  refine Triple.bind (leads_sendFinishedC hasked hmode) fun _ ↦ ?_
  refine Triple.bind (leads_acceptFinishedP hasked hmode hprobe) fun _ ↦ Triple.fact fun hmode' ↦ ?_
  exact Triple.pure fun w hw ↦ ⟨o', ⟨hnegotiated, hasked, hprobe, hmode, hmode'⟩, hw⟩

end Authentication

end PqBleHandshake.Python.V07
