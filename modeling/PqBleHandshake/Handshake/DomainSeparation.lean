import PqBleHandshake.Foundation.Codec
import PqBleHandshake.Handshake.Interoperability

/-!
# Domain separation

The transcripts of every profile in one type, whose encoding is injective, and the messages that each
symmetric key authenticates, by the use they are for.  The uses of one key never share a message.
-/

namespace PqBleHandshake

open Foundation Resumption

/-! ## Transcripts -/

/-- What a transcript hash binds, for every protocol and profile. -/
inductive Transcript
  /-- A resumption, in v0.8 and v1.1. -/
  | resumption (profile : UInt8) (known : KnownProfile profile) (rid sid : Block 16) (nc np : Block 32)
  /-- The ML-KEM handshake over an SMP link, in v1.0 and v1.1. -/
  | cp3 (version : UInt8) (known : SmpProfile version) (sec start : Bytes)
      (secInfo : ∃ payload, pqV1ParseFrame version sec = .ok (pqV1SecInfo, payload))
      (startCp3 : ∃ payload, pqV1ParseFrame version start = .ok (pqV1StartCp3, payload))
      (pk : Block 1184) (ct : Block 1088)
  /-- A FINISHED frame chained to the hash before it, in v1.0 and v1.1. -/
  | chain (version : UInt8) (known : SmpProfile version) (th : Block 32)
      (frame : Bytes)
      (finished : ∃ subtype payload, pqV1ParseFrame version frame = .ok (subtype, payload) ∧
        (subtype = pqV1FinishedC ∨ subtype = pqV1FinishedP))
  /-- The hybrid handshake, in v0.7 and v0.8. -/
  | phase7 (version : UInt8) (known : version = pqV07 ∨ version = pqResumeV08) (sid : Block 16)
      (pk : Block 1184) (ct : Block 1088) (centralKey peripheralKey : P256Key)

/-- The bytes that are hashed. -/
def Transcript.bytes : Transcript → Bytes
  | .resumption profile _ rid sid nc np => transcriptBytes profile rid sid nc np
  | .cp3 version _ sec start _ _ pk ct => cp3Transcript version sec pk.bytes ct.bytes start
  | .chain _ _ th frame _ => th.bytes ++ frame
  | .phase7 version _ sid pk ct centralKey peripheralKey =>
    ([hybridDomain version, [0x01], [0x02], sid.bytes, pk.bytes, ct.bytes, centralKey.bytes,
      peripheralKey.bytes].map putField).flatten

section Transcripts

/-- The frames inside a v1 transcript have one size each. -/
theorem length_of_parse {version subtype : UInt8} {wire : Bytes} {n : ℕ}
    (hsize : ∀ length, payloadSizeValid subtype length = true → length = n)
    (h : ∃ payload, pqV1ParseFrame version wire = .ok (subtype, payload)) : wire.length = 8 + n := by
  obtain ⟨payload, hparse⟩ := h
  obtain ⟨hvalid, rfl⟩ := pqV1ParseFrame_eq_ok_iff.mp hparse
  rw [length_v1Frame, hsize _ hvalid.size]

theorem length_secInfo {version : UInt8} {wire : Bytes}
    (h : ∃ payload, pqV1ParseFrame version wire = .ok (pqV1SecInfo, payload)) : wire.length = 12 :=
  length_of_parse (n := 4) (fun length hlength ↦ by simpa [payloadSizeValid, IsApp, pqV1SecInfo,
    pqV1AppC2p, pqV1AppP2c, pqV1StartCp3, pqV1ReadyCp3, pqV1FinishedC, pqV1FinishedP, pqV1Start, pqV1Ready,
    pqV1SecQuery] using hlength) h

theorem length_startCp3 {version : UInt8} {wire : Bytes}
    (h : ∃ payload, pqV1ParseFrame version wire = .ok (pqV1StartCp3, payload)) : wire.length = 24 :=
  length_of_parse (n := 16) (fun length hlength ↦ by simpa [payloadSizeValid, IsApp, pqV1StartCp3,
    pqV1AppC2p, pqV1AppP2c] using hlength) h

/-- The v1 transcript determines its profile and its fields. -/
theorem cp3Transcript_inj {version version' : UInt8} (h : SmpProfile version)
    (h' : SmpProfile version') {sec sec' start start' : Bytes}
    (hsec : sec.length = sec'.length) {pk pk' : Block 1184} {ct ct' : Block 1088}
    (heq : cp3Transcript version sec pk.bytes ct.bytes start =
      cp3Transcript version' sec' pk'.bytes ct'.bytes start') :
    version = version' ∧ sec = sec' ∧ pk = pk' ∧ ct = ct' ∧ start = start' := by
  simp only [cp3Transcript, List.append_assoc] at heq
  obtain ⟨hdomain, hrest⟩ := List.append_inj heq (by rw [length_appDomain h, length_appDomain h'])
  obtain ⟨hsecEq, hfields⟩ := List.append_inj (List.append_cancel_left hrest) hsec
  obtain ⟨hpk, htail⟩ := block_append_inj.mp hfields
  obtain ⟨hct, hstart⟩ := block_append_inj.mp htail
  refine ⟨?_, hsecEq, hpk, hct, hstart⟩
  rcases h with rfl | rfl <;> rcases h' with rfl | rfl
  all_goals first | rfl | exact absurd hdomain (by decide)

/-- A length-prefixed list of short fields of fixed number determines them. -/
theorem flatten_putField_inj {fields fields' : List Bytes}
    (h : ∀ field ∈ fields, field.length < 65536) (h' : ∀ field ∈ fields', field.length < 65536)
    (heq : (fields.map putField).flatten = (fields'.map putField).flatten)
    (hcount : fields.length = fields'.length) : fields = fields' := by
  induction fields generalizing fields' with
  | nil => exact (List.length_eq_zero_iff.mp hcount.symm).symm
  | cons field rest ih =>
    obtain _ | ⟨field', rest'⟩ := fields'
    · exact absurd hcount (Nat.succ_ne_zero _)
    simp only [List.map_cons, List.flatten_cons, putField] at heq
    obtain ⟨rfl, hrest⟩ := prefixed_inj (h field List.mem_cons_self) (h' field' List.mem_cons_self) heq
    rw [ih (fun other hmem ↦ h other (List.mem_cons_of_mem _ hmem))
      (fun other hmem ↦ h' other (List.mem_cons_of_mem _ hmem)) hrest (Nat.succ.inj hcount)]

theorem P256Key.bytes_injective : Function.Injective P256Key.bytes := by
  intro key key' h
  obtain ⟨point⟩ := key
  obtain ⟨point'⟩ := key'
  exact congrArg P256Key.mk (Block.bytes_injective (List.cons.inj h).2)

/-- The hybrid transcript determines its profile and its fields. -/
theorem phase7Transcript_inj {version version' : UInt8} (h : version = pqV07 ∨ version = pqResumeV08)
    (h' : version' = pqV07 ∨ version' = pqResumeV08) {sid sid' : Block 16} {pk pk' : Block 1184}
    {ct ct' : Block 1088} {centralKey centralKey' peripheralKey peripheralKey' : P256Key}
    (heq : (Transcript.phase7 version h sid pk ct centralKey peripheralKey).bytes =
      (Transcript.phase7 version' h' sid' pk' ct' centralKey' peripheralKey').bytes) :
    version = version' ∧ sid = sid' ∧ pk = pk' ∧ ct = ct' ∧ centralKey = centralKey' ∧
      peripheralKey = peripheralKey' := by
  have hshort : ∀ (version : UInt8) (sid : Block 16) (pk : Block 1184) (ct : Block 1088)
      (centralKey peripheralKey : P256Key), ∀ field ∈ [hybridDomain version, [0x01], [0x02], sid.bytes,
        pk.bytes, ct.bytes, centralKey.bytes, peripheralKey.bytes], field.length < 65536 := by
    intro version sid pk ct centralKey peripheralKey field hmem
    simp only [List.mem_cons, List.not_mem_nil, or_false] at hmem
    rcases hmem with rfl | rfl | rfl | rfl | rfl | rfl | rfl | rfl <;>
      simp [length_hybridDomain, P256Key.bytes]
  have hfields := flatten_putField_inj (hshort version sid pk ct centralKey peripheralKey)
    (hshort version' sid' pk' ct' centralKey' peripheralKey') heq rfl
  simp only [List.cons.injEq, and_true, true_and] at hfields
  obtain ⟨hdomain, hsid, hpk, hct, hcentral, hperipheral⟩ := hfields
  refine ⟨?_, Block.bytes_injective hsid, Block.bytes_injective hpk, Block.bytes_injective hct,
    P256Key.bytes_injective hcentral, P256Key.bytes_injective hperipheral⟩
  rcases h with rfl | rfl <;> rcases h' with rfl | rfl
  all_goals first | rfl | exact absurd hdomain (by decide)

theorem length_finished {version : UInt8} {wire : Bytes}
    (h : ∃ subtype payload, pqV1ParseFrame version wire = .ok (subtype, payload) ∧
      (subtype = pqV1FinishedC ∨ subtype = pqV1FinishedP)) : wire.length = 40 := by
  obtain ⟨subtype, payload, hparse, rfl | rfl⟩ := h
  all_goals
    exact length_of_parse (n := 32) (fun length hlength ↦ by simpa [payloadSizeValid, IsApp,
      pqV1AppC2p, pqV1AppP2c, pqV1StartCp3, pqV1ReadyCp3, pqV1FinishedC, pqV1FinishedP]
      using hlength) ⟨payload, hparse⟩

/-- A frame that parses under two profiles has one profile. -/
theorem version_of_parse {version version' subtype subtype' : UInt8} {wire payload payload' : Bytes}
    (h : pqV1ParseFrame version wire = .ok (subtype, payload))
    (h' : pqV1ParseFrame version' wire = .ok (subtype', payload')) : version = version' := by
  obtain ⟨-, hwire⟩ := pqV1ParseFrame_eq_ok_iff.mp h
  obtain ⟨-, hwire'⟩ := pqV1ParseFrame_eq_ok_iff.mp h'
  exact congrArg (fun frame : Bytes ↦ frame.getD 4 0) (hwire.symm.trans hwire')

/-- The size tells the protocol. -/
def Transcript.size : Transcript → ℕ
  | .resumption .. => 148
  | .cp3 .. => 2344
  | .chain .. => 72
  | .phase7 .. => 2457

theorem Transcript.length_bytes (transcript : Transcript) :
    transcript.bytes.length = transcript.size := by
  cases transcript with
  | resumption profile known rid sid nc np => exact length_transcriptBytes known rid sid nc np
  | cp3 version known sec start secInfo startCp3 pk ct =>
    have hlabel : (ascii "/CP3-TRANSCRIPT").length = 15 := by decide
    simp only [bytes, cp3Transcript, List.length_append, length_appDomain known, hlabel,
      length_secInfo secInfo, length_startCp3 startCp3, Block.length_bytes, size]
  | chain version known th frame finished =>
    rw [bytes, List.length_append, Block.length_bytes, length_finished finished, size]
  | phase7 version known sid pk ct centralKey peripheralKey =>
    simp [bytes, size, putField, length_hybridDomain, P256Key.bytes]

/-- **Transcripts are injective**, within a protocol and across all of them. -/
theorem Transcript.bytes_injective : Function.Injective Transcript.bytes := by
  intro transcript transcript' heq
  have hsize : transcript.size = transcript'.size := by
    rw [← length_bytes, ← length_bytes, heq]
  cases transcript <;> cases transcript' <;> dsimp only [size] at hsize <;>
    try exact absurd hsize (by decide)
  case resumption.resumption profile known rid sid nc np profile' known' rid' sid' nc' np' =>
    obtain ⟨rfl, rfl, rfl, rfl, rfl⟩ := (transcriptBytes_inj known known').mp heq
    rfl
  case cp3.cp3 version known sec start secInfo startCp3 pk ct version' known' sec' start' secInfo'
      startCp3' pk' ct' =>
    have hlength := (length_secInfo secInfo).trans (length_secInfo secInfo').symm
    obtain ⟨rfl, rfl, rfl, rfl, rfl⟩ := cp3Transcript_inj known known' hlength heq
    rfl
  case chain.chain version known th frame finished version' known' th' frame' finished' =>
    obtain ⟨rfl, rfl⟩ := block_append_inj.mp heq
    obtain ⟨subtype, payload, hparse, -⟩ := id finished
    obtain ⟨subtype', payload', hparse', -⟩ := id finished'
    obtain rfl := version_of_parse hparse hparse'
    rfl
  case phase7.phase7 version known sid pk ct centralKey peripheralKey version' known' sid' pk' ct'
      centralKey' peripheralKey' =>
    obtain ⟨rfl, rfl, rfl, rfl, rfl, rfl⟩ := phase7Transcript_inj known known' heq
    rfl

end Transcripts

/-! ## What both programs hash -/

section Hashed

variable {crypto : Crypto} {faults : Faults}

theorem pqResumeTranscript_bytes {profile : UInt8} {rid sid : Block 16} {nc np : Block 32} {input : Bytes}
    (h : pqResumeTranscript profile rid sid nc np = some input) :
    ∃ known, input = (Transcript.resumption profile known rid sid nc np).bytes := by
  by_cases hknown : KnownProfile profile
  · rw [pqResumeTranscript_eq hknown] at h
    exact ⟨hknown, (Option.some.inj h).symm⟩
  · rw [pqResumeTranscript, label, domain_eq_none_iff.mpr hknown] at h
    cases h

theorem transcript_bytes {profile : UInt8} {rid sid nc np input : Bytes}
    (h : transcript profile rid sid nc np = .ok input) :
    ∃ known rid' sid' nc' np', rid = rid'.bytes ∧ sid = sid'.bytes ∧ nc = nc'.bytes ∧ np = np'.bytes ∧
      input = (Transcript.resumption profile known rid' sid' nc' np').bytes := by
  simp only [transcript, except_bind_eq_ok_iff, domainOf_eq_ok_iff, sized_eq_ok_iff] at h
  obtain ⟨_, ⟨hknown, rfl⟩, rid', rfl, sid', rfl, nc', rfl, np', rfl, hinput⟩ := h
  exact ⟨hknown, rid', sid', nc', np', rfl, rfl, rfl, rfl, (Except.ok.inj hinput).symm⟩

theorem pqV1Cp3Transcript_bytes {version : UInt8} (known : SmpProfile version) {sec pk ct start : Bytes}
    {th0 : Block 32} (h : pqV1Cp3Transcript crypto faults version sec pk ct start = some th0) :
    ∃ secInfo startCp3 hpk hct, th0 = crypto.hash
      (Transcript.cp3 version known sec start secInfo startCp3 ⟨pk, hpk⟩ ⟨ct, hct⟩).bytes := by
  obtain ⟨hhash, hpk, hct⟩ := pqV1Cp3Transcript_eq_some h
  simp only [pqV1Cp3Transcript, Option.bind_eq_bind, Option.bind_eq_some_iff, Option.guard_eq_some',
    Prod.exists, exists_and_left, exists_const, toOption_eq_some_iff] at h
  obtain ⟨-, subtype, payload, hsec, ⟨rfl, -⟩, subtype', payload', hstart, rfl, -⟩ := h
  exact ⟨⟨payload, hsec⟩, ⟨payload', hstart⟩, hpk, hct, hhash⟩

theorem buildTranscript_bytes {sec pk ct start input : Bytes}
    (h : Python.buildTranscript sec pk ct start = some input) :
    ∃ secInfo startCp3 hpk hct, input =
      (Transcript.cp3 pqV10 (.inl rfl) sec start secInfo startCp3 ⟨pk, hpk⟩ ⟨ct, hct⟩).bytes := by
  obtain ⟨hinput, hsec⟩ := Python.buildTranscript_eq_some h
  obtain ⟨payload, hvalid, -, hsec⟩ := Python.encodeSecInfo_parseSecInfo.mp hsec
  simp only [Python.buildTranscript, Option.bind_eq_bind, Option.bind_eq_some_iff, Option.guard_eq_some',
    Prod.exists, exists_and_left, exists_const, parseV1Frame_eq_some_iff] at h
  obtain ⟨-, -, -, -, -, ⟨hpk, hct⟩, subtype, payload', hstart, rfl, -⟩ := h
  exact ⟨⟨payload, pqV1ParseFrame_eq_ok_iff.mpr ⟨hvalid, hsec⟩⟩,
    ⟨payload', pqV1ParseFrame_eq_ok_iff.mpr hstart⟩, hpk, hct, hinput⟩

theorem pqV1Cp3Chain_bytes {version : UInt8} (known : SmpProfile version) {th output : Block 32}
    {frame : Bytes} (h : pqV1Cp3Chain crypto faults version th frame = some output) :
    ∃ finished, output = crypto.hash (Transcript.chain version known th frame finished).bytes := by
  have hhash := pqV1Cp3Chain_eq_some h
  simp only [pqV1Cp3Chain, Option.bind_eq_bind, Option.bind_eq_some_iff, Option.guard_eq_some',
    Prod.exists, exists_and_left, exists_const, toOption_eq_some_iff] at h
  obtain ⟨subtype, payload, hparse, hsubtype, -⟩ := h
  exact ⟨⟨subtype, payload, hparse, hsubtype⟩, hhash⟩

theorem chain_bytes {th output : Block 32} {frame : Bytes}
    (h : Python.chain crypto th frame = some output) :
    ∃ finished, output = crypto.hash (Transcript.chain pqV10 (.inl rfl) th frame finished).bytes := by
  simp only [Python.chain, Option.bind_eq_bind, Option.bind_eq_some_iff, Option.guard_eq_some',
    Prod.exists, exists_and_left, exists_const, parseV1Frame_eq_some_iff, Option.pure_def,
    Option.some.injEq] at h
  obtain ⟨subtype, payload, hparse, hsubtype, rfl⟩ := h
  exact ⟨⟨subtype, payload, pqV1ParseFrame_eq_ok_iff.mpr hparse, hsubtype⟩, rfl⟩

/-- A key of the right shape is an uncompressed point. -/
theorem exists_p256Key {key : Bytes} (h : validSec1PublicKeyShape key = true) :
    ∃ point : P256Key, key = point.bytes := by
  obtain ⟨hlength, hfirst⟩ : key.length = 65 ∧ key.getD 0 0 = 0x04 := by
    simpa [validSec1PublicKeyShape] using h
  obtain _ | ⟨first, rest⟩ := key
  · cases hlength
  · obtain rfl : first = 0x04 := hfirst
    exact ⟨⟨⟨rest, Nat.succ.inj hlength⟩⟩, rfl⟩

theorem pqPhase7TranscriptHash_bytes {version : UInt8} (known : version = pqV07 ∨ version = pqResumeV08)
    {sid : Block 16} {pk ct centralKey peripheralKey : Bytes} {hash : Block 32}
    (h : pqPhase7TranscriptHash crypto faults version sid pk ct centralKey peripheralKey = some hash) :
    ∃ hpk hct central peripheral, centralKey = central.bytes ∧ peripheralKey = peripheral.bytes ∧
      hash = crypto.hash
        (Transcript.phase7 version known sid ⟨pk, hpk⟩ ⟨ct, hct⟩ central peripheral).bytes := by
  simp only [pqPhase7TranscriptHash, Option.bind_eq_bind, Option.bind_eq_some_iff, Option.guard_eq_some',
    exists_and_left, exists_const] at h
  obtain ⟨⟨hpk, hct⟩, ⟨hcentral, hperipheral⟩, hhash⟩ := h
  obtain ⟨central, rfl⟩ := exists_p256Key hcentral
  obtain ⟨peripheral, rfl⟩ := exists_p256Key hperipheral
  exact ⟨hpk, hct, central, peripheral, rfl, rfl, pqCryptoHashParts_eq_some hhash⟩

theorem exists_p256Key_of_validate {key encoded : Bytes}
    (h : Python.validateTranscriptPublicKey key = some encoded) :
    ∃ point : P256Key, key = point.bytes ∧ encoded = point.bytes := by
  simp only [Python.validateTranscriptPublicKey, Option.bind_eq_bind, Option.bind_eq_some_iff,
    Option.guard_eq_some', exists_and_left, exists_const, Option.pure_def, Option.some.injEq] at h
  obtain ⟨block, hblock, hfirst, rfl⟩ := h
  obtain ⟨point, hpoint⟩ := @exists_p256Key block.bytes
    (by simpa [validSec1PublicKeyShape] using hfirst)
  exact ⟨point, (Python.requireSize_eq_some hblock).trans hpoint, hpoint⟩

theorem buildPhase7Transcript_bytes {sid pk ct centralKey peripheralKey input : Bytes}
    (h : Python.buildPhase7Transcript sid pk ct centralKey peripheralKey = some input) :
    ∃ sid' pk' ct' central peripheral, sid = sid'.bytes ∧ pk = pk'.bytes ∧ ct = ct'.bytes ∧
      centralKey = central.bytes ∧ peripheralKey = peripheral.bytes ∧
      input = (Transcript.phase7 pqV07 (.inl rfl) sid' pk' ct' central peripheral).bytes := by
  have hreturned := h
  simp only [Python.buildPhase7Transcript, Option.bind_eq_bind, Option.bind_eq_some_iff] at h
  obtain ⟨sid', hsid, pk', hpk, ct', hct, central, hcentral, peripheral, hperipheral, -⟩ := h
  obtain ⟨central, rfl, -⟩ := exists_p256Key_of_validate hcentral
  obtain ⟨peripheral, rfl, -⟩ := exists_p256Key_of_validate hperipheral
  obtain rfl := Python.requireSize_eq_some hsid
  obtain rfl := Python.requireSize_eq_some hpk
  obtain rfl := Python.requireSize_eq_some hct
  refine ⟨sid', pk', ct', central, peripheral, rfl, rfl, rfl, rfl, rfl, ?_⟩
  let inputs : FullInputs := { ss := .zero 32, ssEcdh := .zero 32, sid := sid', pk := pk', ct := ct'
                               centralKey := central, peripheralKey := peripheral, sec := [] }
  exact Option.some.inj (hreturned.symm.trans (Python.buildPhase7Transcript_eq inputs))

/-- The v0.8 session of the Central hashes the transcript of its own profile. -/
theorem begin_v08_bytes {onCurve : Bytes → Bool} {handshake next : Python.FullHandshake}
    {ss pk ct sid ecdh centralKey peripheralKey sec : Bytes} (hprofile : handshake.profile = pqResumeV08)
    (h : handshake.begin crypto onCurve ss pk ct sid ecdh centralKey peripheralKey sec = some next) :
    ∃ sid' pk' ct' central peripheral, sid = sid'.bytes ∧ pk = pk'.bytes ∧ ct = ct'.bytes ∧
      centralKey = central.bytes ∧ peripheralKey = peripheral.bytes ∧ next.th =
        crypto.hash (Transcript.phase7 pqResumeV08 (.inr rfl) sid' pk' ct' central peripheral).bytes := by
  simp only [Python.FullHandshake.begin, Option.bind_eq_bind, Option.bind_eq_some_iff,
    Option.guard_eq_some', exists_and_left, exists_const, hprofile, if_true, Option.pure_def,
    Option.some.injEq] at h
  obtain ⟨-, sid', hsid, ss', -, -, d, hd, baseline, hbaseline, ikm, -, rfl⟩ := h
  obtain rfl := Python.requireSize_eq_some hsid
  obtain ⟨sid'', pk', ct', central, peripheral, hsid', rfl, rfl, rfl, rfl, rfl⟩ :=
    buildPhase7Transcript_bytes hbaseline
  obtain rfl := Block.bytes_injective hsid'
  cases hd
  let inputs : FullInputs := { ss := .zero 32, ssEcdh := .zero 32, sid := sid', pk := pk', ct := ct'
                               centralKey := central, peripheralKey := peripheral, sec := [] }
  exact ⟨sid', pk', ct', central, peripheral, rfl, rfl, rfl, rfl, rfl,
    congrArg crypto.hash (Python.hybridTranscript_splice inputs)⟩

/-- The v1.1 session of the Central hashes the transcript of its own profile. -/
theorem begin_v11_bytes {onCurve : Bytes → Bool} {handshake next : Python.FullHandshake}
    {ss pk ct sid ecdh centralKey peripheralKey sec : Bytes} (hprofile : handshake.profile = pqResumeV11)
    (h : handshake.begin crypto onCurve ss pk ct sid ecdh centralKey peripheralKey sec = some next) :
    ∃ secInfo startCp3 hpk hct, next.th = crypto.hash (Transcript.cp3 pqResumeV11 (.inr rfl) sec
      (v1Frame pqResumeV11 pqV1StartCp3 sid) secInfo startCp3 ⟨pk, hpk⟩ ⟨ct, hct⟩).bytes := by
  have hne : pqResumeV11 ≠ pqResumeV08 := by decide
  simp only [Python.FullHandshake.begin, Option.bind_eq_bind, Option.bind_eq_some_iff,
    Option.guard_eq_some', exists_and_left, exists_const, hprofile, if_neg hne, Python.encodeFull_v11,
    Python.encode_eq_some_iff, Option.pure_def, Option.some.injEq] at h
  obtain ⟨-, sid', hsid, ss', -, ⟨hpk, hct⟩, d, hd, value, hsec, start, ⟨-, hvalid, rfl⟩, rfl⟩ := h
  obtain rfl := Python.requireSize_eq_some hsid
  have hsec := Python.securityInfo_iff.mp hsec
  cases hd
  refine ⟨⟨[4, 7, 16, pqResumeV11], ?_⟩, ⟨sid'.bytes, ?_⟩, hpk, hct, rfl⟩
  · exact pqV1ParseFrame_eq_ok_iff.mpr ⟨validPayload_secInfo _ _ _ _, by rw [hsec, strictSec_eq]⟩
  · exact pqV1ParseFrame_eq_ok_iff.mpr ⟨hvalid, rfl⟩

/-- The transcript functions of both programs hash transcripts, of their protocol and with their arguments. -/
structure Transcribes (crypto : Crypto) (faults : Faults) : Prop where
  resume {profile : UInt8} {rid sid : Block 16} {nc np : Block 32} {input : Bytes}
    (h : pqResumeTranscript profile rid sid nc np = some input) :
    ∃ known, input = (Transcript.resumption profile known rid sid nc np).bytes
  centralResume {profile : UInt8} {rid sid nc np input : Bytes} (h : transcript profile rid sid nc np = .ok input) :
    ∃ known rid' sid' nc' np', rid = rid'.bytes ∧ sid = sid'.bytes ∧ nc = nc'.bytes ∧ np = np'.bytes ∧
      input = (Transcript.resumption profile known rid' sid' nc' np').bytes
  cp3 {version : UInt8} (known : SmpProfile version) {sec pk ct start : Bytes} {th0 : Block 32}
    (h : pqV1Cp3Transcript crypto faults version sec pk ct start = some th0) :
    ∃ secInfo startCp3 hpk hct, th0 = crypto.hash
      (Transcript.cp3 version known sec start secInfo startCp3 ⟨pk, hpk⟩ ⟨ct, hct⟩).bytes
  centralCp3 {sec pk ct start input : Bytes} (h : Python.buildTranscript sec pk ct start = some input) :
    ∃ secInfo startCp3 hpk hct,
      input = (Transcript.cp3 pqV10 (.inl rfl) sec start secInfo startCp3 ⟨pk, hpk⟩ ⟨ct, hct⟩).bytes
  chain {version : UInt8} (known : SmpProfile version) {th output : Block 32} {frame : Bytes}
    (h : pqV1Cp3Chain crypto faults version th frame = some output) :
    ∃ finished, output = crypto.hash (Transcript.chain version known th frame finished).bytes
  centralChain {th output : Block 32} {frame : Bytes} (h : Python.chain crypto th frame = some output) :
    ∃ finished, output = crypto.hash (Transcript.chain pqV10 (.inl rfl) th frame finished).bytes
  phase7 {version : UInt8} (known : version = pqV07 ∨ version = pqResumeV08) {sid : Block 16}
    {pk ct centralKey peripheralKey : Bytes} {hash : Block 32}
    (h : pqPhase7TranscriptHash crypto faults version sid pk ct centralKey peripheralKey = some hash) :
    ∃ hpk hct central peripheral, centralKey = central.bytes ∧ peripheralKey = peripheral.bytes ∧
      hash = crypto.hash (Transcript.phase7 version known sid ⟨pk, hpk⟩ ⟨ct, hct⟩ central peripheral).bytes
  centralPhase7 {sid pk ct centralKey peripheralKey input : Bytes}
    (h : Python.buildPhase7Transcript sid pk ct centralKey peripheralKey = some input) :
    ∃ sid' pk' ct' central peripheral, sid = sid'.bytes ∧ pk = pk'.bytes ∧ ct = ct'.bytes ∧
      centralKey = central.bytes ∧ peripheralKey = peripheral.bytes ∧
      input = (Transcript.phase7 pqV07 (.inl rfl) sid' pk' ct' central peripheral).bytes
  begin_v08 {onCurve : Bytes → Bool} {handshake next : Python.FullHandshake}
    {ss pk ct sid ecdh centralKey peripheralKey sec : Bytes} (hprofile : handshake.profile = pqResumeV08)
    (h : handshake.begin crypto onCurve ss pk ct sid ecdh centralKey peripheralKey sec = some next) :
    ∃ sid' pk' ct' central peripheral, sid = sid'.bytes ∧ pk = pk'.bytes ∧ ct = ct'.bytes ∧
      centralKey = central.bytes ∧ peripheralKey = peripheral.bytes ∧ next.th =
        crypto.hash (Transcript.phase7 pqResumeV08 (.inr rfl) sid' pk' ct' central peripheral).bytes
  begin_v11 {onCurve : Bytes → Bool} {handshake next : Python.FullHandshake}
    {ss pk ct sid ecdh centralKey peripheralKey sec : Bytes} (hprofile : handshake.profile = pqResumeV11)
    (h : handshake.begin crypto onCurve ss pk ct sid ecdh centralKey peripheralKey sec = some next) :
    ∃ secInfo startCp3 hpk hct, next.th = crypto.hash (Transcript.cp3 pqResumeV11 (.inr rfl) sec
      (v1Frame pqResumeV11 pqV1StartCp3 sid) secInfo startCp3 ⟨pk, hpk⟩ ⟨ct, hct⟩).bytes

theorem transcribes (crypto : Crypto) (faults : Faults) : Transcribes crypto faults where
  resume := pqResumeTranscript_bytes
  centralResume := transcript_bytes
  cp3 := pqV1Cp3Transcript_bytes
  centralCp3 := buildTranscript_bytes
  chain := pqV1Cp3Chain_bytes
  centralChain := chain_bytes
  phase7 := pqPhase7TranscriptHash_bytes
  centralPhase7 := buildPhase7Transcript_bytes
  begin_v08 := begin_v08_bytes
  begin_v11 := begin_v11_bytes

end Hashed

/-! ## The uses of a key -/

/-- What the MAC under a resumption root is for. -/
inductive RootUse
  | id | init | accept

/-- The messages of each use, for all values of their fields. -/
def RootUse.messages (profile : UInt8) : RootUse → Set Bytes
  | .id => {message | ∃ th : Block 32, message = domainName profile ++ ascii "/RESUME-ID" ++ th.bytes}
  | .init => {message | ∃ rid sid nc, message = initMessage profile rid sid nc}
  | .accept => {message | ∃ rid sid nc np, message = acceptMessage profile rid sid nc np}

/-- What the MAC under the PRK of a v1.0 or v1.1 handshake is for. -/
inductive SmpPrkUse
  | finishedC | finishedP | appC2p | appP2c | resumeRoot

/-- The label of each use. -/
def SmpPrkUse.suffix : SmpPrkUse → String
  | .finishedC => "/FINISHED-C"
  | .finishedP => "/FINISHED-P"
  | .appC2p => "/APP-C2P"
  | .appP2c => "/APP-P2C"
  | .resumeRoot => "/RESUME-ROOT"

def SmpPrkUse.messages (version : UInt8) (use : SmpPrkUse) : Set Bytes :=
  {message | ∃ th, message = expandMessage (appDomain version ++ ascii use.suffix) th}

/-- What the MAC under the PRK of a v0.7 or v0.8 handshake is for: the four blocks of the key schedule,
each of which is one key, and the resumption root. -/
inductive HybridPrkUse
  | application | sas | finishedC | finishedP | resumeRoot

/-- The number of the HKDF block that holds the key. -/
def HybridPrkUse.round : HybridPrkUse → ℕ
  | .application => 1
  | .sas => 2
  | .finishedC => 3
  | .finishedP => 4
  | .resumeRoot => 0

/-- The messages of the key schedule chain one block into the next. -/
def HybridPrkUse.messages (version : UInt8) : HybridPrkUse → Set Bytes
  | .resumeRoot =>
    {message | ∃ th, message = expandMessage (hybridDomain version ++ ascii "/RESUME-ROOT") th}
  | .application => {hybridDomain version ++ ascii "/hybrid-key-schedule" ++ [1]}
  | use => {message | ∃ last : Block 32, message =
      last.bytes ++ (hybridDomain version ++ ascii "/hybrid-key-schedule") ++ [UInt8.ofNat use.round]}

/-- What the MAC under the PRK of a resumption is for: the outputs of its schedule. -/
inductive ResumptionPrkUse
  | confirmC | confirmP | c2p | p2c | ivC2p | ivP2c

/-- The label of each use. -/
def ResumptionPrkUse.suffix : ResumptionPrkUse → String
  | .confirmC => "/RESUME-CONFIRM-C"
  | .confirmP => "/RESUME-CONFIRM-P"
  | .c2p => "/RESUME-APP-C2P"
  | .p2c => "/RESUME-APP-P2C"
  | .ivC2p => "/RESUME-IV-C2P"
  | .ivP2c => "/RESUME-IV-P2C"

def ResumptionPrkUse.messages (profile : UInt8) (use : ResumptionPrkUse) : Set Bytes :=
  {message | ∃ th, message = expandMessage (domainName profile ++ ascii use.suffix) th}

/-- What the MAC under the application key of a v0.7 or v0.8 handshake is for. -/
inductive TrafficUse
  | c2p | p2c

/-- The message of each use; it has no field. -/
def TrafficUse.messages (version : UInt8) : TrafficUse → Set Bytes
  | .c2p => {hybridTrafficDomain version ++ ascii "/CENTRAL-TO-PERIPHERAL"}
  | .p2c => {hybridTrafficDomain version ++ ascii "/PERIPHERAL-TO-CENTRAL"}

section Uses

theorem rootUse_disjoint (profile : UInt8) :
    Pairwise (Function.onFun Disjoint (RootUse.messages profile)) := by
  refine pairwise_disjoint_of_labels (fun use ↦ domainName profile ++ match use with
    | .id => ascii "/RESUME-ID"
    | .init => ascii "/RESUME-INIT"
    | .accept => ascii "/RESUME-ACCEPT") ?_ ?_
  · rintro (_ | _ | _) message hmem
    · obtain ⟨th, rfl⟩ := hmem
      exact List.prefix_append _ _
    · obtain ⟨rid, sid, nc, rfl⟩ := hmem
      exact List.prefix_append _ _
    · obtain ⟨rid, sid, nc, np, rfl⟩ := hmem
      exact List.prefix_append _ _
  · intro use use' hne
    rw [List.prefix_append_right_inj]
    cases use <;> cases use' <;> first | exact absurd rfl hne | decide

theorem expandMessages_disjoint {κ : Type*} (domain : Bytes) (suffix : κ → String)
    (hfree : ∀ use use', use ≠ use' → ¬ascii (suffix use) <+: ascii (suffix use')) :
    Pairwise (Function.onFun Disjoint fun use : κ ↦
      {message | ∃ th, message = expandMessage (domain ++ ascii (suffix use)) th}) := by
  refine pairwise_disjoint_of_labels (fun use ↦ domain ++ ascii (suffix use)) ?_ ?_
  · rintro use message ⟨th, rfl⟩
    rw [expandMessage, List.append_assoc]
    exact List.prefix_append _ _
  · intro use use' hne
    rw [List.prefix_append_right_inj]
    exact hfree use use' hne

theorem smpPrkUse_disjoint (version : UInt8) :
    Pairwise (Function.onFun Disjoint (SmpPrkUse.messages version)) := by
  refine expandMessages_disjoint (appDomain version) SmpPrkUse.suffix fun use use' hne ↦ ?_
  cases use <;> cases use' <;> first | exact absurd rfl hne | decide

theorem resumptionPrkUse_disjoint (profile : UInt8) :
    Pairwise (Function.onFun Disjoint (ResumptionPrkUse.messages profile)) := by
  refine expandMessages_disjoint (domainName profile) ResumptionPrkUse.suffix fun use use' hne ↦ ?_
  cases use <;> cases use' <;> first | exact absurd rfl hne | decide

/-- The size and the last byte of the messages of the hybrid schedule. -/
def HybridPrkUse.shape : HybridPrkUse → ℕ × UInt8
  | .application => (42, 1)
  | .sas => (74, 2)
  | .finishedC => (74, 3)
  | .finishedP => (74, 4)
  | .resumeRoot => (66, 1)

theorem HybridPrkUse.shape_eq {version : UInt8} {message : Bytes} (use : HybridPrkUse)
    (hmem : message ∈ use.messages version) : (message.length, message.getLastD 0) = use.shape := by
  have hinfo : (ascii "/hybrid-key-schedule").length = 20 := by decide
  have hroot : (ascii "/RESUME-ROOT").length = 12 := by decide
  cases use with
  | application =>
    rw [Set.mem_singleton_iff.mp hmem]
    simp [shape, length_hybridDomain, hinfo]
  | resumeRoot =>
    obtain ⟨th, rfl⟩ := hmem
    simp [shape, expandMessage, length_hybridDomain, hroot]
  | sas | finishedC | finishedP =>
    obtain ⟨last, rfl⟩ := hmem
    simp [shape, round, length_hybridDomain, hinfo]

theorem hybridPrkUse_disjoint (version : UInt8) :
    Pairwise (Function.onFun Disjoint (HybridPrkUse.messages version)) := by
  intro use use' hne
  refine Set.disjoint_left.mpr fun message hmem hmem' ↦ ?_
  have hshape := (use.shape_eq hmem).symm.trans (use'.shape_eq hmem')
  cases use <;> cases use' <;> first | exact absurd rfl hne | exact absurd hshape (by decide)

theorem trafficUse_disjoint (version : UInt8) :
    Pairwise (Function.onFun Disjoint (TrafficUse.messages version)) := by
  intro use use' hne
  cases use <;> cases use' <;> first
    | exact absurd rfl hne
    | exact Set.disjoint_singleton.mpr fun h ↦ absurd (List.append_cancel_left h) (by decide)

end Uses

/-! ## What the firmware computes from a key

The Python functions agree with these, so one side is enough. -/

/-- The value is the MAC of a message of the set, or begins it. -/
def Yields (crypto : Crypto) (key : Block 32) (messages : Set Bytes) (value : Bytes) : Prop :=
  ∃ message ∈ messages, value <+: (crypto.mac key message).bytes

section Yields

variable {crypto : Crypto} {faults : Faults}

theorem ofBytes_prefix {n m : ℕ} (h : n ≤ m) (block : Block m) :
    (Block.ofBytes n block.bytes).bytes <+: block.bytes := by
  rw [Block.ofBytes_bytes (by rwa [block.length_bytes])]
  exact List.take_prefix _ _

theorem pqResumeId_yields {profile : UInt8} (known : KnownProfile profile) {root th : Block 32}
    {rid : Block 16} (h : pqResumeId crypto faults profile root th = some rid) :
    Yields crypto root (RootUse.messages profile .id) rid.bytes := by
  have hrid := (agrees_id known root th).only faults rid h
  rw [resumeId_eq known] at hrid
  obtain rfl := Except.ok.inj hrid
  exact ⟨_, ⟨th, rfl⟩, ofBytes_prefix (by decide) _⟩

theorem authentication_yields {profile : UInt8} (known : KnownProfile profile) {root tag : Block 32}
    {accept : Bool} {context : Block 64} {np : Block 32}
    (h : authentication crypto faults profile root accept context np = some tag) :
    Yields crypto root (RootUse.messages profile (if accept then .accept else .init)) tag.bytes := by
  obtain ⟨rid, rest, hrid, hrest⟩ := Block.exists_eq_append (n := 16) context.bytes (by simp)
  obtain ⟨sid, rest', hsid, hrest'⟩ := Block.exists_eq_append (n := 16) rest (by simp [hrest])
  have hlength : rest'.length = 32 := by
    rw [hrest', hrest, context.length_bytes]
  have hcontext : context.bytes = rid.bytes ++ sid.bytes ++ (⟨rest', hlength⟩ : Block 32).bytes := by
    rw [hrid, hsid, List.append_assoc]
  cases accept with
  | false =>
    rw [authentication_init_eq_some known hcontext h]
    exact ⟨_, ⟨rid, sid, _, rfl⟩, List.prefix_rfl⟩
  | true =>
    rw [authentication_accept_eq_some known hcontext h]
    exact ⟨_, ⟨rid, sid, _, np, rfl⟩, List.prefix_rfl⟩

theorem pqV1Cp3Derive_yields {version : UInt8} {ss th0 : Block 32} {handshake : V1Handshake}
    (h : pqV1Cp3Derive crypto faults version ss th0 = some handshake) :
    Yields crypto handshake.prk (SmpPrkUse.messages version .finishedC) handshake.finishedC.bytes ∧
      Yields crypto handshake.prk (SmpPrkUse.messages version .finishedP) handshake.finishedP.bytes := by
  obtain rfl := pqV1Cp3Derive_eq_some h
  exact ⟨⟨_, ⟨th0, rfl⟩, List.prefix_rfl⟩, ⟨_, ⟨th0, rfl⟩, List.prefix_rfl⟩⟩

theorem pqV1Cp3Finish_yields {version : UInt8} {handshake : V1Handshake} {finishedC finishedP : Bytes}
    {app : V1Application}
    (h : pqV1Cp3Finish crypto faults version handshake finishedC = some (finishedP, app)) :
    Yields crypto handshake.prk (SmpPrkUse.messages version .appC2p) app.c2p.bytes ∧
      Yields crypto handshake.prk (SmpPrkUse.messages version .appP2c) app.p2c.bytes ∧
      (version = pqResumeV11 →
        Yields crypto handshake.prk (SmpPrkUse.messages version .resumeRoot) app.resumeRoot.bytes) := by
  obtain ⟨-, -, rfl⟩ := pqV1Cp3Finish_eq_some h
  refine ⟨⟨_, ⟨_, rfl⟩, List.prefix_rfl⟩, ⟨_, ⟨_, rfl⟩, List.prefix_rfl⟩, fun hversion ↦ ?_⟩
  rw [cp3Application, if_pos hversion]
  exact ⟨_, ⟨_, rfl⟩, List.prefix_rfl⟩

/-- The four blocks of the key schedule: each goes into the message of the next one. -/
theorem hkdfExpand_slice (prk : Block 32) (info : Bytes) :
    let output := hkdfExpand crypto prk info 128
    Block.slice output 0 32 = crypto.mac prk (info ++ [1]) ∧
      ∃ last₂ last₃ last₄ : Block 32,
        Block.slice output 32 32 = crypto.mac prk (last₂.bytes ++ info ++ [2]) ∧
        Block.slice output 64 32 = crypto.mac prk (last₃.bytes ++ info ++ [3]) ∧
        Block.slice output 96 32 = crypto.mac prk (last₄.bytes ++ info ++ [4]) := by
  intro output
  let block₁ := crypto.mac prk (info ++ [1])
  let block₂ := crypto.mac prk (block₁.bytes ++ info ++ [2])
  let block₃ := crypto.mac prk (block₂.bytes ++ info ++ [3])
  let block₄ := crypto.mac prk (block₃.bytes ++ info ++ [4])
  have houtput : output = block₁.bytes ++ (block₂.bytes ++ (block₃.bytes ++ block₄.bytes)) := by
    have hrounds : (hkdfRounds crypto prk info 4).1 =
        [] ++ block₁.bytes ++ block₂.bytes ++ block₃.bytes ++ block₄.bytes := rfl
    have hlength := length_hkdfRounds crypto prk info 4
    rw [show output = (hkdfRounds crypto prk info 4).1.take 128 from rfl,
      List.take_of_length_le hlength.le, hrounds]
    simp only [List.nil_append, List.append_assoc]
  rw [houtput]
  refine ⟨Block.slice_zero_append _ _, block₁, block₂, block₃, ?_, ?_, ?_⟩
  · rw [Block.slice_append_of_le (by decide), Block.slice_zero_append]
  · rw [Block.slice_append_of_le (by decide), Block.slice_append_of_le (by decide),
      Block.slice_zero_append]
  · rw [Block.slice_append_of_le (by decide), Block.slice_append_of_le (by decide),
      Block.slice_append_of_le (by decide), Block.slice_zero_self]

theorem pqPhase7DeriveKeys_yields {version : UInt8} {ikm : Block 68} {hash : Block 32}
    {keys : Phase7Keys} (h : pqPhase7DeriveKeys crypto faults version ikm hash = some keys) :
    let prk := hkdfExtract crypto hash ikm.bytes
    Yields crypto prk (HybridPrkUse.messages version .application) keys.application.bytes ∧
      Yields crypto prk (HybridPrkUse.messages version .sas) keys.sas.bytes ∧
      Yields crypto prk (HybridPrkUse.messages version .finishedC) keys.finishedC.bytes ∧
      Yields crypto prk (HybridPrkUse.messages version .finishedP) keys.finishedP.bytes := by
  intro prk
  unfold pqPhase7DeriveKeys at h
  dsimp only at h
  split_ifs at h
  obtain rfl := Option.some.inj h
  obtain ⟨h₁, last₂, last₃, last₄, h₂, h₃, h₄⟩ :=
    @hkdfExpand_slice crypto prk (hybridDomain version ++ ascii "/hybrid-key-schedule")
  dsimp only
  rw [h₁, h₂, h₃, h₄]
  exact ⟨⟨_, rfl, List.prefix_rfl⟩, ⟨_, ⟨last₂, rfl⟩, List.prefix_rfl⟩,
    ⟨_, ⟨last₃, rfl⟩, List.prefix_rfl⟩, ⟨_, ⟨last₄, rfl⟩, List.prefix_rfl⟩⟩

theorem phase8Root_yields {ikm : Block 68} {hash root : Block 32}
    (h : phase8Root crypto faults pqResumeV08 ikm hash = some root) :
    Yields crypto (hkdfExtract crypto hash ikm.bytes) (HybridPrkUse.messages pqResumeV08 .resumeRoot)
      root.bytes := by
  rw [phase8Root, if_pos rfl, Option.bind_eq_bind, Option.bind_eq_some_iff] at h
  obtain ⟨prk, hprk, hroot⟩ := h
  have honly := (agrees_root (.inl rfl) prk hash).only faults root hroot
  rw [deriveRoot_eq (.inl rfl)] at honly
  obtain rfl := Except.ok.inj honly
  obtain rfl := pqCryptoMac_eq_some hprk
  exact ⟨_, ⟨hash, rfl⟩, List.prefix_rfl⟩

theorem pqPhase7DeriveTrafficKeys_yields {version : UInt8} {root : Block 32} {keys : Phase7TrafficKeys}
    (h : pqPhase7DeriveTrafficKeys crypto faults version root = some keys) :
    Yields crypto root (TrafficUse.messages version .c2p) keys.centralToPeripheral.bytes ∧
      Yields crypto root (TrafficUse.messages version .p2c) keys.peripheralToCentral.bytes := by
  simp only [pqPhase7DeriveTrafficKeys, Option.bind_eq_bind, Option.bind_eq_some_iff, Option.pure_def,
    Option.some.injEq] at h
  obtain ⟨c2p, hc2p, p2c, hp2c, rfl⟩ := h
  rw [hmacSha256_eq_some hc2p, hmacSha256_eq_some hp2c, List.append_nil, List.append_nil]
  exact ⟨⟨_, rfl, List.prefix_rfl⟩, ⟨_, rfl, List.prefix_rfl⟩⟩

/-- The output of a use among the keys of a resumption. -/
def ResumptionPrkUse.output (keys : Keys) : ResumptionPrkUse → Bytes
  | .confirmC => keys.confirmC.bytes
  | .confirmP => keys.confirmP.bytes
  | .c2p => keys.c2p.bytes
  | .p2c => keys.p2c.bytes
  | .ivC2p => keys.ivC2p.bytes
  | .ivP2c => keys.ivP2c.bytes

theorem pqResumeDerive_yields {profile : UInt8} (known : KnownProfile profile) {root : Block 32}
    {rid sid : Block 16} {nc np : Block 32} {keys : Keys}
    (h : pqResumeDerive crypto faults profile root rid sid nc np = some keys) (use : ResumptionPrkUse) :
    Yields crypto (resumePrk crypto root (transcriptBytes profile rid sid nc np))
      (use.messages profile) (use.output keys) := by
  obtain rfl := pqResumeDerive_eq_some known h
  cases use
  case ivC2p | ivP2c => exact ⟨_, ⟨_, rfl⟩, ofBytes_prefix (by decide) _⟩
  all_goals exact ⟨_, ⟨_, rfl⟩, List.prefix_rfl⟩

/-- What the firmware computes from a key is the MAC of a message for its use, or begins it. -/
structure Derives (crypto : Crypto) (faults : Faults) : Prop where
  id {profile : UInt8} (known : KnownProfile profile) {root th : Block 32} {rid : Block 16}
    (h : pqResumeId crypto faults profile root th = some rid) :
    Yields crypto root (RootUse.messages profile .id) rid.bytes
  authentication {profile : UInt8} (known : KnownProfile profile) {root tag : Block 32} {accept : Bool}
    {context : Block 64} {np : Block 32} (h : authentication crypto faults profile root accept context np = some tag) :
    Yields crypto root (RootUse.messages profile (if accept then .accept else .init)) tag.bytes
  resumption {profile : UInt8} (known : KnownProfile profile) {root : Block 32} {rid sid : Block 16}
    {nc np : Block 32} {keys : Keys} (h : pqResumeDerive crypto faults profile root rid sid nc np = some keys)
    (use : ResumptionPrkUse) :
    Yields crypto (resumePrk crypto root (transcriptBytes profile rid sid nc np)) (use.messages profile)
      (use.output keys)
  finished {version : UInt8} {ss th0 : Block 32} {handshake : V1Handshake}
    (h : pqV1Cp3Derive crypto faults version ss th0 = some handshake) :
    Yields crypto handshake.prk (SmpPrkUse.messages version .finishedC) handshake.finishedC.bytes ∧
      Yields crypto handshake.prk (SmpPrkUse.messages version .finishedP) handshake.finishedP.bytes
  application {version : UInt8} {handshake : V1Handshake} {finishedC finishedP : Bytes} {app : V1Application}
    (h : pqV1Cp3Finish crypto faults version handshake finishedC = some (finishedP, app)) :
    Yields crypto handshake.prk (SmpPrkUse.messages version .appC2p) app.c2p.bytes ∧
      Yields crypto handshake.prk (SmpPrkUse.messages version .appP2c) app.p2c.bytes ∧
      (version = pqResumeV11 →
        Yields crypto handshake.prk (SmpPrkUse.messages version .resumeRoot) app.resumeRoot.bytes)
  hybrid {version : UInt8} {ikm : Block 68} {hash : Block 32} {keys : Phase7Keys}
    (h : pqPhase7DeriveKeys crypto faults version ikm hash = some keys) :
    let prk := hkdfExtract crypto hash ikm.bytes
    Yields crypto prk (HybridPrkUse.messages version .application) keys.application.bytes ∧
      Yields crypto prk (HybridPrkUse.messages version .sas) keys.sas.bytes ∧
      Yields crypto prk (HybridPrkUse.messages version .finishedC) keys.finishedC.bytes ∧
      Yields crypto prk (HybridPrkUse.messages version .finishedP) keys.finishedP.bytes
  hybridRoot {ikm : Block 68} {hash root : Block 32} (h : phase8Root crypto faults pqResumeV08 ikm hash = some root) :
    Yields crypto (hkdfExtract crypto hash ikm.bytes) (HybridPrkUse.messages pqResumeV08 .resumeRoot) root.bytes
  traffic {version : UInt8} {root : Block 32} {keys : Phase7TrafficKeys}
    (h : pqPhase7DeriveTrafficKeys crypto faults version root = some keys) :
    Yields crypto root (TrafficUse.messages version .c2p) keys.centralToPeripheral.bytes ∧
      Yields crypto root (TrafficUse.messages version .p2c) keys.peripheralToCentral.bytes

theorem derives (crypto : Crypto) (faults : Faults) : Derives crypto faults where
  id := pqResumeId_yields
  authentication := authentication_yields
  resumption := pqResumeDerive_yields
  finished := pqV1Cp3Derive_yields
  application := pqV1Cp3Finish_yields
  hybrid := pqPhase7DeriveKeys_yields
  hybridRoot := phase8Root_yields
  traffic := pqPhase7DeriveTrafficKeys_yields

end Yields

/-! ## Domain separation -/

/-- **Domain separation.**  A transcript determines its protocol, its profile and all its fields, and no
message that one symmetric key authenticates serves two uses of that key.  These are the transcripts that both
programs hash and the messages that they authenticate. -/
theorem domain_separation :
    Function.Injective Transcript.bytes ∧
      (∀ profile, Pairwise (Function.onFun Disjoint (RootUse.messages profile))) ∧
      (∀ version, Pairwise (Function.onFun Disjoint (SmpPrkUse.messages version))) ∧
      (∀ version, Pairwise (Function.onFun Disjoint (HybridPrkUse.messages version))) ∧
      (∀ version, Pairwise (Function.onFun Disjoint (TrafficUse.messages version))) ∧
      (∀ profile, Pairwise (Function.onFun Disjoint (ResumptionPrkUse.messages profile))) ∧
      ∀ crypto faults, Transcribes crypto faults ∧ Derives crypto faults :=
  ⟨Transcript.bytes_injective, rootUse_disjoint, smpPrkUse_disjoint, hybridPrkUse_disjoint,
    trafficUse_disjoint, resumptionPrkUse_disjoint, fun crypto faults ↦
      ⟨transcribes crypto faults, derives crypto faults⟩⟩

end PqBleHandshake
