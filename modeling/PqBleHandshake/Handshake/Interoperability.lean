import PqBleHandshake.Handshake.Central

/-!
# Both programs compute the same full handshake

For every input of all four profiles the firmware and the Central compute one schedule.  `FullOutputs` is what
a handshake yields on either side.  `Interoperate` says that the two programs complete with each other, and
that two completed sides, whatever frames they received, have exchanged the expected frames and hold equal
outputs.
-/

namespace PqBleHandshake

open Foundation

/-! ## The reduction of the SAS -/

theorem sasRemainder_foldl (mac : Bytes) {remainder value : ℕ} (h : remainder = value % 1000000) :
    mac.foldl (fun remainder byte ↦ (remainder * 256 + byte.toNat) % 2 ^ 32 % 1000000) remainder =
      mac.foldl (fun value byte ↦ value * 256 + byte.toNat) value % 1000000 := by
  induction mac generalizing remainder value with
  | nil => exact h
  | cons byte rest ih =>
    have hbyte := byte.toNat_lt
    rw [List.foldl_cons, List.foldl_cons]
    refine ih ?_
    -- No intermediate value leaves the 32-bit range.
    have hsmall : remainder * 256 + byte.toNat < 2 ^ 32 := by omega
    rw [Nat.mod_eq_of_lt hsmall]
    omega

/-- The bytewise reduction is the reduction of the whole MAC. -/
theorem sasRemainder_eq (mac : Bytes) : sasRemainder mac = ofBigEndian mac % 1000000 :=
  sasRemainder_foldl mac rfl

/-! ## Hybrid frames -/

/-- The PQS7 frame with a given subtype and payload. -/
def phase7Frame (version subtype : UInt8) (payload : Bytes) : Bytes :=
  phase7Magic ++ [version, subtype] ++ bigEndian 2 payload.length ++ payload

theorem validPhase7Payload_finished {subtype : UInt8}
    (h : subtype = pqPhase7FinishedC ∨ subtype = pqPhase7FinishedP) (payload : Bytes) :
    validPhase7Payload subtype payload = true ↔ payload.length = 32 := by
  rcases h with rfl | rfl <;> simp [validPhase7Payload, pqPhase7FinishedC, pqPhase7FinishedP,
    pqPhase7Start7, pqPhase7Start7Auth, pqPhase7Ready7Cp2, pqPhase7Ready7Auth]

theorem validatePhase7Payload_finished {onCurve : Bytes → Bool} {subtype : UInt8}
    (h : subtype = pqPhase7FinishedC ∨ subtype = pqPhase7FinishedP) (payload : Bytes) :
    Python.validatePhase7Payload onCurve subtype payload = some () ↔ payload.length = 32 := by
  rcases h with rfl | rfl <;> simp [Python.validatePhase7Payload, pqPhase7FinishedC,
    pqPhase7FinishedP, pqPhase7Start7, pqPhase7Start7Auth, pqPhase7Ready7Cp2, pqPhase7Ready7Auth,
    Option.guard_eq_some']

theorem pqPhase7EncodeFrame_eq {version subtype : UInt8}
    (h : subtype = pqPhase7FinishedC ∨ subtype = pqPhase7FinishedP) (tag : Block 32) {capacity : ℕ}
    (hcapacity : 40 ≤ capacity) :
    pqPhase7EncodeFrame version subtype tag.bytes capacity =
      .ok (phase7Frame version subtype tag.bytes) := by
  have hvalid := (validPhase7Payload_finished h tag.bytes).mpr tag.length_bytes
  have hroom : 8 + tag.bytes.length ≤ capacity := by
    rw [tag.length_bytes]
    exact hcapacity
  rw [pqPhase7EncodeFrame, require_bind_of hvalid, require_bind_of hroom]
  rfl

theorem pqPhase7ParseFrame_phase7Frame {version subtype : UInt8}
    (h : subtype = pqPhase7FinishedC ∨ subtype = pqPhase7FinishedP) (tag : Block 32) :
    pqPhase7ParseFrame version (phase7Frame version subtype tag.bytes) = .ok (subtype, tag.bytes) := by
  have hlength : (phase7Frame version subtype tag.bytes).length = 40 := by
    simp [phase7Frame, phase7Magic, ascii]
  have hdeclared : Resumption.declaredLength (phase7Frame version subtype tag.bytes) = 32 := by
    simp [Resumption.declaredLength, phase7Frame, phase7Magic, ascii, bigEndian]
  have hvalid := (validPhase7Payload_finished h tag.bytes).mpr tag.length_bytes
  simp only [pqPhase7ParseFrame, except_bind_eq_ok_iff, require_eq_ok_iff, exists_and_left,
    exists_const]
  exact ⟨⟨by omega, rfl, rfl⟩, ⟨by rw [hlength, hdeclared], hvalid⟩, rfl⟩

theorem pqPhase7ParseFrame_eq_ok {version subtype : UInt8} {wire payload : Bytes}
    (h : pqPhase7ParseFrame version wire = .ok (subtype, payload)) :
    validPhase7Payload subtype payload = true ∧ wire = phase7Frame version subtype payload := by
  simp only [pqPhase7ParseFrame, except_bind_eq_ok_iff, require_eq_ok_iff, exists_and_left,
    exists_const] at h
  obtain ⟨⟨hlength, hmagic, hversion⟩, ⟨hdeclared, hvalid⟩, hresult⟩ := h
  cases hresult
  exact ⟨hvalid, eq_header_append hlength hmagic hversion hdeclared⟩

theorem parsePhase7Frame_eq_some {onCurve : Bytes → Bool} {subtype : UInt8} {data payload : Bytes}
    (h : Python.parsePhase7Frame onCurve data = some (subtype, payload)) :
    Python.validatePhase7Payload onCurve subtype payload = some () ∧
      data = phase7Frame pqV07 subtype payload := by
  simp only [Python.parsePhase7Frame, Option.bind_eq_bind, Option.bind_eq_some_iff,
    Option.guard_eq_some', exists_and_left, exists_const, Option.pure_def, Option.some.injEq] at h
  obtain ⟨hlength, hmagic, hversion, hdeclared, ⟨⟩, hvalid, hresult⟩ := h
  cases hresult
  rw [ofBigEndian_slice (by omega)] at hdeclared
  exact ⟨hvalid, eq_header_append hlength hmagic hversion hdeclared⟩

theorem parsePhase7Frame_phase7Frame {onCurve : Bytes → Bool} {subtype : UInt8}
    (h : subtype = pqPhase7FinishedC ∨ subtype = pqPhase7FinishedP) (tag : Block 32) :
    Python.parsePhase7Frame onCurve (phase7Frame pqV07 subtype tag.bytes) =
      some (subtype, tag.bytes) := by
  have hlength : (phase7Frame pqV07 subtype tag.bytes).length = 40 := by
    simp [phase7Frame, phase7Magic, ascii]
  have hdeclared : ofBigEndian (((phase7Frame pqV07 subtype tag.bytes).drop 6).take 2) = 32 := by
    simp [ofBigEndian, phase7Frame, phase7Magic, ascii, bigEndian]
  simp only [Python.parsePhase7Frame, Option.bind_eq_bind, Option.bind_eq_some_iff,
    Option.guard_eq_some', exists_and_left, exists_const, Option.pure_def, Option.some.injEq]
  refine ⟨by omega, rfl, rfl, by omega, (), ?_, rfl⟩
  exact (validatePhase7Payload_finished h tag.bytes).mpr tag.length_bytes

theorem encodePhase7Frame_eq {onCurve : Bytes → Bool} {subtype : UInt8}
    (h : subtype = pqPhase7FinishedC ∨ subtype = pqPhase7FinishedP) (tag : Block 32) :
    Python.encodePhase7Frame onCurve subtype tag.bytes =
      some (phase7Frame pqV07 subtype tag.bytes) := by
  rw [Python.encodePhase7Frame, (validatePhase7Payload_finished h tag.bytes).mpr tag.length_bytes]
  rfl

/-! ## Inputs and outputs -/

/-- An encoded P-256 key: `0x04` and two coordinates. -/
@[ext]
structure P256Key where
  point : Block 64
deriving DecidableEq

/-- The SEC1 encoding. -/
def P256Key.bytes (key : P256Key) : Bytes := 0x04 :: key.point.bytes

/-- The inputs of a full handshake; the hybrid profiles ignore SEC_INFO and the others the P-256 part. -/
structure FullInputs where
  pk : Block 1184
  ct : Block 1088
  ss : Block 32
  ssEcdh : Block 32
  sid : Block 16
  centralKey : P256Key
  peripheralKey : P256Key
  sec : Bytes

/-- What a full handshake yields on either side. -/
@[ext]
structure FullOutputs where
  th0 : Block 32
  sas : Option ℕ
  finishedC : Bytes
  finishedP : Bytes
  c2p : Block 32
  p2c : Block 32
  ivC2p : Option (Block 12)
  ivP2c : Option (Block 12)
  root : Option (Block 32)
  rid : Option (Block 16)
deriving DecidableEq

/-- `secure_wire` holds at least the READY frame of the hybrid diagnostic. -/
def legacyWireSize : ℕ := 105

section Programs

variable (crypto : Crypto) (inputs : FullInputs)

/-- The firmware of v0.7 and v0.8: READY, and what it makes of a FINISHED_C frame. -/
def hybridFirmware (version : UInt8) (faults : Faults) :
    Option (Bytes × (Bytes → Option FullOutputs)) := do
  let start ← phase7AuthStartResult crypto faults version inputs.ss inputs.ssEcdh inputs.sid
    inputs.pk.bytes inputs.ct.bytes inputs.centralKey.bytes inputs.peripheralKey.bytes legacyWireSize
  return (start.ready, fun finishedC ↦ do
    let (subtype, payload) ← (pqPhase7ParseFrame version finishedC).toOption
    guard (subtype = pqPhase7FinishedC)
    let (finishedP, traffic) ← phase7FinishedResult crypto faults version start.keys start.hash
      (.ofBytes 32 payload) legacyWireSize
    let rid ← (if version = Resumption.pqResumeV08 then
        (Resumption.pqResumeId crypto faults version start.resumeRoot start.hash).map some
      else some none)
    return {
      th0 := start.hash, sas := some start.sas, finishedC, finishedP
      c2p := traffic.centralToPeripheral, p2c := traffic.peripheralToCentral
      ivC2p := none, ivP2c := none
      root := if version = Resumption.pqResumeV08 then some start.resumeRoot else none
      rid })

/-- The firmware of v1.0 and v1.1. -/
def smpFirmware (version : UInt8) (faults : Faults) :
    Option (Bytes × (Bytes → Option FullOutputs)) := do
  let th0 ← pqV1Cp3Transcript crypto faults version inputs.sec inputs.pk.bytes inputs.ct.bytes
    (v1Frame version pqV1StartCp3 inputs.sid.bytes)
  let handshake ← pqV1Cp3Derive crypto faults version inputs.ss th0
  let ready ← (pqV1EncodeFrame version pqV1ReadyCp3 th0.bytes legacyWireSize).toOption
  return (ready, fun finishedC ↦ do
    let (finishedP, app) ← pqV1Cp3Finish crypto faults version handshake finishedC
    let ivC2p ← (pqV1Cp4Iv crypto faults version app.c2p inputs.sid pqV1AppC2p).toOption
    let ivP2c ← (pqV1Cp4Iv crypto faults version app.p2c inputs.sid pqV1AppP2c).toOption
    let rid ← (if version = Resumption.pqResumeV11 then
        (Resumption.pqResumeId crypto faults version app.resumeRoot app.fullTh).map some
      else some none)
    return {
      th0, sas := none, finishedC, finishedP, c2p := app.c2p, p2c := app.p2c
      ivC2p := some ivC2p, ivP2c := some ivP2c
      root := if version = Resumption.pqResumeV11 then some app.resumeRoot else none
      rid })

end Programs

namespace Python

section Programs

variable (crypto : Crypto) (onCurve : Bytes → Bool) (inputs : FullInputs)

/-- The Central of v0.7: FINISHED_C, and what it makes of a FINISHED_P frame. -/
def phase7Central : Option (Bytes × (Bytes → Option FullOutputs)) := do
  let th0 ← computePhase7TranscriptHash crypto inputs.sid.bytes inputs.pk.bytes inputs.ct.bytes
    inputs.centralKey.bytes inputs.peripheralKey.bytes
  let keys ← derivePhase7Keys crypto inputs.ss.bytes inputs.ssEcdh.bytes th0.bytes
  let finished ← computePhase7FinishedC crypto keys.finishedC.bytes th0.bytes
  let expected ← computePhase7FinishedP crypto keys.finishedP.bytes th0.bytes
  let sas ← computePhase7Sas crypto keys.sas.bytes th0.bytes
  let finishedC ← encodePhase7FinishedC onCurve finished.bytes
  return (finishedC, fun finishedP ↦ do
    let received ← parsePhase7FinishedP onCurve finishedP
    guard (expected.bytes = received)
    let traffic ← derivePhase7TrafficKeys crypto keys.application.bytes
    return {
      th0, sas := some sas, finishedC, finishedP
      c2p := traffic.centralToPeripheral, p2c := traffic.peripheralToCentral
      ivC2p := none, ivP2c := none, root := none, rid := none })

/-- The Central of v0.8 and v1.1.  The caller compares the READY of v1.1 with the transcript hash. -/
def fullCentral (profile : UInt8) (peer : Block 7) (now : ℚ) (ready : Bytes) :
    Option (Bytes × (Bytes → Option FullOutputs)) := do
  let h ← FullHandshake.begin crypto onCurve { profile } inputs.ss.bytes inputs.pk.bytes inputs.ct.bytes
    inputs.sid.bytes inputs.ssEcdh.bytes inputs.centralKey.bytes inputs.peripheralKey.bytes inputs.sec
  let sas ← (if profile = Resumption.pqResumeV08 then (h.sas crypto).map some
    else do
      let (subtype, payload) ← parseFull onCurve profile ready
      guard (subtype = pqV1ReadyCp3 ∧ payload = h.th.bytes)
      return none)
  let (finishedC, waiting) ← h.finishC crypto onCurve true
  return (finishedC, fun finishedP ↦ do
    let secure ← waiting.finishP crypto onCurve finishedP peer now
    let ticket ← secure.ticket
    let rid ← requireSize 16 ticket.rid
    let iv := fun key subtype ↦ deriveIvBase crypto profile key secure.sessionId subtype
    return {
      th0 := h.th, sas, finishedC, finishedP, c2p := secure.appC2p, p2c := secure.appP2c
      ivC2p := if profile = Resumption.pqResumeV08 then none else iv secure.appC2p pqV1AppC2p
      ivP2c := if profile = Resumption.pqResumeV08 then none else iv secure.appP2c pqV1AppP2c
      root := some ticket.root, rid := some rid })

/-- The Central of v1.0. -/
def smpCentral (ready : Bytes) : Option (Bytes × (Bytes → Option FullOutputs)) := do
  let start ← encodeV1Frame pqV1StartCp3 inputs.sid.bytes
  let h ← CentralHandshake.begin crypto {} inputs.ss.bytes inputs.sec inputs.pk.bytes inputs.ct.bytes start
  let (finishedC, waiting) ← h.acceptReady crypto ready
  return (finishedC, fun finishedP ↦ do
    let secure ← waiting.acceptFinishedP crypto finishedP
    return {
      th0 := h.th, sas := none, finishedC, finishedP, c2p := secure.appC2p, p2c := secure.appP2c
      ivC2p := deriveIvBase crypto pqV10 secure.appC2p secure.sessionId pqV1AppC2p
      ivP2c := deriveIvBase crypto pqV10 secure.appP2c secure.sessionId pqV1AppP2c
      root := none, rid := none })

end Programs

end Python

/-- The two programs complete with each other on accepted inputs; two sides that completed exchanged the
expected frames and hold equal outputs, whatever they received and whichever platform calls failed. -/
structure Interoperate (accepted : Prop)
    (firmware : Faults → Option (Bytes × (Bytes → Option FullOutputs)))
    (central : Bytes → Option (Bytes × (Bytes → Option FullOutputs))) : Prop where
  refuses : ∀ ready result, central ready = some result → accepted
  returns : accepted → ∃ ready answer accept outputs, firmware {} = some (ready, answer) ∧
    central ready = some (outputs.finishedC, accept) ∧ answer outputs.finishedC = some outputs ∧
      accept outputs.finishedP = some outputs
  agree : ∀ faults ready answer received outputs ready' finishedC accept received' outputs',
    firmware faults = some (ready, answer) → answer received = some outputs →
      central ready' = some (finishedC, accept) → accept received' = some outputs' →
        outputs = outputs' ∧ received = finishedC ∧ received' = outputs.finishedP

/-- Both programs compute one value of the outputs. -/
theorem Interoperate.of_outputs {accepted : Prop}
    {firmware : Faults → Option (Bytes × (Bytes → Option FullOutputs))}
    {central : Bytes → Option (Bytes × (Bytes → Option FullOutputs))} (outputs : FullOutputs)
    (hfirmware : accepted → ∃ ready answer, firmware {} = some (ready, answer) ∧
      answer outputs.finishedC = some outputs ∧ ∃ accept,
        central ready = some (outputs.finishedC, accept) ∧ accept outputs.finishedP = some outputs)
    (hanswer : ∀ faults ready answer received value, firmware faults = some (ready, answer) →
      answer received = some value → received = outputs.finishedC ∧ value = outputs)
    (haccept : ∀ ready finishedC accept, central ready = some (finishedC, accept) →
      accepted ∧ finishedC = outputs.finishedC ∧ ∀ received value, accept received = some value →
        received = outputs.finishedP ∧ value = outputs) :
    Interoperate accepted firmware central where
  refuses ready result h := (haccept ready result.1 result.2 h).1
  returns h := by
    obtain ⟨ready, answer, hready, hanswer, accept, hcentral, haccept⟩ := hfirmware h
    exact ⟨ready, answer, accept, outputs, hready, hcentral, hanswer, haccept⟩
  agree faults ready answer received value ready' finishedC accept received' value' hready hvalue
      hcentral hvalue' := by
    obtain ⟨hreceived, rfl⟩ := hanswer faults ready answer received value hready hvalue
    obtain ⟨-, hfinishedC, hrest⟩ := haccept ready' finishedC accept hcentral
    obtain ⟨hreceived', rfl⟩ := hrest received' value' hvalue'
    exact ⟨rfl, hreceived.trans hfinishedC.symm, hreceived'⟩

/-! ## The hybrid schedule -/

section Hybrid

variable (crypto : Crypto) (version : UInt8) (inputs : FullInputs)

/-- The canonical transcript. -/
def hybridTranscript : Bytes :=
  ([hybridDomain version, [0x01], [0x02], inputs.sid.bytes, inputs.pk.bytes, inputs.ct.bytes,
    inputs.centralKey.bytes, inputs.peripheralKey.bytes].map Resumption.putField).flatten

/-- The four keys of a pseudorandom key. -/
def hybridKeys (prk : Block 32) : Phase7Keys :=
  let block := hkdfExpand crypto prk (hybridDomain version ++ ascii "/hybrid-key-schedule") 128
  { application := .slice block 0 32
    sas := .slice block 32 32
    finishedC := .slice block 64 32
    finishedP := .slice block 96 32 }

/-- The schedule up to READY. -/
def hybridStart : Phase7Start :=
  let hash := crypto.hash (hybridTranscript version inputs)
  let prk := crypto.mac hash (pqPhase7BuildHybridIkm inputs.ss inputs.ssEcdh).bytes
  let keys := hybridKeys crypto version prk
  { hash, keys
    sas := ofBigEndian
      (crypto.mac keys.sas (hybridDomain version ++ ascii "/SAS" ++ hash.bytes)).bytes % 1000000
    resumeRoot :=
      if version = Resumption.pqResumeV08 then
        expand crypto prk (Resumption.domainName Resumption.pqResumeV08 ++ ascii "/RESUME-ROOT") hash
      else .zero 32
    ready := phase7Frame version pqPhase7Ready7Auth inputs.peripheralKey.bytes }

/-- The FINISHED_C tag. -/
def hybridTagC : Block 32 :=
  let start := hybridStart crypto version inputs
  crypto.mac start.keys.finishedC (hybridDomain version ++ ascii "/FINISHED/C" ++ start.hash.bytes)

/-- The FINISHED_P tag. -/
def hybridTagP : Block 32 :=
  let start := hybridStart crypto version inputs
  crypto.mac start.keys.finishedP (hybridDomain version ++ ascii "/FINISHED/P" ++ start.hash.bytes)

/-- The traffic keys. -/
def hybridTraffic : Phase7TrafficKeys :=
  let root := (hybridStart crypto version inputs).keys.application
  { centralToPeripheral :=
      crypto.mac root (hybridTrafficDomain version ++ ascii "/CENTRAL-TO-PERIPHERAL")
    peripheralToCentral :=
      crypto.mac root (hybridTrafficDomain version ++ ascii "/PERIPHERAL-TO-CENTRAL") }

/-- The outputs of the hybrid profiles. -/
def hybridOutputs : FullOutputs :=
  let start := hybridStart crypto version inputs
  let traffic := hybridTraffic crypto version inputs
  { th0 := start.hash, sas := some start.sas
    finishedC := phase7Frame version pqPhase7FinishedC (hybridTagC crypto version inputs).bytes
    finishedP := phase7Frame version pqPhase7FinishedP (hybridTagP crypto version inputs).bytes
    c2p := traffic.centralToPeripheral, p2c := traffic.peripheralToCentral
    ivC2p := none, ivP2c := none
    root := if version = Resumption.pqResumeV08 then some start.resumeRoot else none
    rid :=
      if version = Resumption.pqResumeV08 then
        some (.ofBytes 16 (verifyData crypto start.resumeRoot
          (Resumption.domainName Resumption.pqResumeV08 ++ ascii "/RESUME-ID") start.hash).bytes)
      else none }

end Hybrid

/-! ## The firmware computes the hybrid schedule -/

section HybridFirmware

variable {crypto : Crypto} {version : UInt8} {inputs : FullInputs} {faults : Faults}

theorem length_hybridDomain (version : UInt8) : (hybridDomain version).length = 21 := by
  unfold hybridDomain
  split_ifs <;> decide

theorem length_hybridTrafficDomain (version : UInt8) : (hybridTrafficDomain version).length = 19 := by
  unfold hybridTrafficDomain
  split_ifs <;> decide

theorem validSec1PublicKeyShape_bytes (key : P256Key) : validSec1PublicKeyShape key.bytes = true := by
  simp [validSec1PublicKeyShape, P256Key.bytes]

theorem hmacSha256_eq_some {key output : Block 32} {label suffix : Bytes}
    (h : hmacSha256 crypto faults key label suffix = some output) :
    output = crypto.mac key (label ++ suffix) := by
  unfold hmacSha256 at h
  split_ifs at h
  exact pqCryptoMac_eq_some h

theorem hmacSha256_ok {label suffix : Bytes} (h : label.length + suffix.length ≤ 96) (key : Block 32) :
    hmacSha256 crypto {} key label suffix = some (crypto.mac key (label ++ suffix)) := by
  rw [hmacSha256, if_neg (by omega)]
  rfl

/-- A domain and a short suffix leave room for a hash. -/
theorem hmacSha256_domain_ok {suffix : Bytes} (h : suffix.length ≤ 43) (key hash : Block 32) :
    hmacSha256 crypto {} key (hybridDomain version ++ suffix) hash.bytes =
      some (crypto.mac key (hybridDomain version ++ suffix ++ hash.bytes)) := by
  refine hmacSha256_ok ?_ key
  rw [List.length_append, length_hybridDomain, hash.length_bytes]
  omega

theorem hmacSha256_traffic_ok {suffix : Bytes} (h : suffix.length ≤ 43) (key : Block 32) :
    hmacSha256 crypto {} key (hybridTrafficDomain version ++ suffix) [] =
      some (crypto.mac key (hybridTrafficDomain version ++ suffix)) := by
  rw [hmacSha256_ok _ key, List.append_nil]
  rw [List.length_append, length_hybridTrafficDomain, List.length_nil]
  omega

theorem pqPhase7EncodeFrame_ready (version : UInt8) (key : P256Key) :
    pqPhase7EncodeFrame version pqPhase7Ready7Auth key.bytes legacyWireSize =
      .ok (phase7Frame version pqPhase7Ready7Auth key.bytes) := by
  have hshape := validSec1PublicKeyShape_bytes key
  have hlength : key.bytes.length = 65 := by simp [P256Key.bytes]
  have hvalid : validPhase7Payload pqPhase7Ready7Auth key.bytes = true := by
    simp [validPhase7Payload, pqPhase7Start7, pqPhase7Start7Auth, pqPhase7Ready7Cp2,
      pqPhase7Ready7Auth, hlength, hshape]
  have hroom : 8 + key.bytes.length ≤ legacyWireSize := by
    rw [hlength]
    decide
  rw [pqPhase7EncodeFrame, require_bind_of hvalid, require_bind_of hroom]
  rfl

/-- With no platform failure the START job computes the schedule. -/
theorem phase7AuthStartResult_ok (crypto : Crypto) (version : UInt8) (inputs : FullInputs) :
    phase7AuthStartResult crypto {} version inputs.ss inputs.ssEcdh inputs.sid inputs.pk.bytes
        inputs.ct.bytes inputs.centralKey.bytes inputs.peripheralKey.bytes legacyWireSize =
      some (hybridStart crypto version inputs) := by
  have hroot := (@Resumption.agrees_root crypto _ (.inl rfl)
    (crypto.mac (crypto.hash (hybridTranscript version inputs))
      (pqPhase7BuildHybridIkm inputs.ss inputs.ssEcdh).bytes)
    (crypto.hash (hybridTranscript version inputs))).returns
  rw [Resumption.deriveRoot_eq (.inl rfl)] at hroot
  obtain ⟨root, hroot, heq⟩ := hroot
  cases heq
  have hhash : pqPhase7TranscriptHash crypto {} version inputs.sid inputs.pk.bytes inputs.ct.bytes
      inputs.centralKey.bytes inputs.peripheralKey.bytes =
        some (crypto.hash (hybridTranscript version inputs)) := by
    simp [pqPhase7TranscriptHash, validSec1PublicKeyShape_bytes, hybridTranscript]
  have hsas : ∀ key hash : Block 32, pqPhase7ComputeSas crypto {} version key hash =
      some (ofBigEndian (crypto.mac key (hybridDomain version ++ ascii "/SAS" ++ hash.bytes)).bytes %
        1000000) := by
    intro key hash
    rw [pqPhase7ComputeSas, hmacSha256_domain_ok (by decide)]
    exact congrArg some (sasRemainder_eq _)
  have hkeys : ∀ ikm hash, pqPhase7DeriveKeys crypto {} version ikm hash =
      some (hybridKeys crypto version (crypto.mac hash ikm.bytes)) := fun ikm hash ↦ rfl
  simp only [phase7AuthStartResult, phase8Root, hhash, hsas, hkeys, pqPhase7EncodeFrame_ready,
    pqCryptoMac_ok, Option.bind_eq_bind, Option.bind_some, hroot, Except.toOption, Option.pure_def]
  unfold hybridStart
  split_ifs <;> rfl

/-- A START job that succeeds has computed the schedule. -/
theorem phase7AuthStartResult_eq_some {start : Phase7Start}
    (h : phase7AuthStartResult crypto faults version inputs.ss inputs.ssEcdh inputs.sid inputs.pk.bytes
      inputs.ct.bytes inputs.centralKey.bytes inputs.peripheralKey.bytes legacyWireSize = some start) :
    start = hybridStart crypto version inputs := by
  simp only [phase7AuthStartResult, pqPhase7TranscriptHash, pqPhase7ComputeSas,
    pqPhase7EncodeFrame_ready, Except.toOption, Option.bind_eq_bind, Option.bind_eq_some_iff,
    Option.guard_eq_some', exists_and_left, exists_const, Option.pure_def, Option.some.injEq] at h
  obtain ⟨hash, ⟨-, -, hhash⟩, root, hroot, keys, hkeys, sas, ⟨mac, hmac, rfl⟩, wire, rfl, rfl⟩ := h
  have hhash := pqCryptoHashParts_eq_some hhash
  have hmac := hmacSha256_eq_some hmac
  have hkeys : keys = hybridKeys crypto version
      (crypto.mac hash (pqPhase7BuildHybridIkm inputs.ss inputs.ssEcdh).bytes) := by
    unfold pqPhase7DeriveKeys at hkeys
    dsimp only at hkeys
    split_ifs at hkeys
    exact (Option.some.inj hkeys).symm
  have hhash' : hash = crypto.hash (hybridTranscript version inputs) := hhash
  have hroot : root = (hybridStart crypto version inputs).resumeRoot := by
    unfold hybridStart
    unfold phase8Root at hroot
    split_ifs at hroot with hversion
    · simp only [Option.bind_eq_bind, Option.bind_eq_some_iff] at hroot
      obtain ⟨prk, hprk, hroot⟩ := hroot
      have honly := (@Resumption.agrees_root crypto _ (.inl rfl) prk hash).only faults root hroot
      rw [Resumption.deriveRoot_eq (.inl rfl)] at honly
      cases honly
      rw [pqCryptoMac_eq_some hprk, hhash']
      simp only [hversion, if_true]
    · cases hroot
      simp only [hversion, if_false]
  rw [hroot, hmac, sasRemainder_eq, hkeys, hhash']
  rfl

/-- What the FINISHED_C job computes from the START job's results. -/
theorem phase7FinishedResult_ok (crypto : Crypto) (version : UInt8) (inputs : FullInputs) :
    let start := hybridStart crypto version inputs
    phase7FinishedResult crypto {} version start.keys start.hash (hybridTagC crypto version inputs)
        legacyWireSize =
      some (phase7Frame version pqPhase7FinishedP (hybridTagP crypto version inputs).bytes,
        hybridTraffic crypto version inputs) := by
  intro start
  simp only [phase7FinishedResult, pqPhase7ComputeFinishedC, pqPhase7ComputeFinishedP, computeFinished,
    pqPhase7DeriveTrafficKeys]
  rw [hmacSha256_domain_ok (by decide), hmacSha256_domain_ok (by decide),
    hmacSha256_traffic_ok (by decide), hmacSha256_traffic_ok (by decide)]
  simp only [Option.bind_eq_bind, Option.bind_some, pqPhase7EncodeFrame_eq (.inr rfl) _
    (by decide : 40 ≤ legacyWireSize), Except.toOption, Option.pure_def]
  exact Option.bind_eq_some_iff.mpr ⟨(), by simp only [Option.guard_eq_some', hybridTagC, start], rfl⟩

theorem phase7FinishedResult_eq_some {received : Block 32} {finishedP : Bytes}
    {traffic : Phase7TrafficKeys}
    (h : phase7FinishedResult crypto faults version (hybridStart crypto version inputs).keys
      (hybridStart crypto version inputs).hash received legacyWireSize = some (finishedP, traffic)) :
    received = hybridTagC crypto version inputs ∧
      finishedP = phase7Frame version pqPhase7FinishedP (hybridTagP crypto version inputs).bytes ∧
        traffic = hybridTraffic crypto version inputs := by
  simp only [phase7FinishedResult, pqPhase7ComputeFinishedC, pqPhase7ComputeFinishedP, computeFinished,
    pqPhase7DeriveTrafficKeys, Option.bind_eq_bind, Option.bind_eq_some_iff, Option.guard_eq_some',
    exists_and_left, exists_const, Option.pure_def, Option.some.injEq, Prod.mk.injEq,
    pqPhase7EncodeFrame_eq (.inr rfl) _ (by decide : 40 ≤ legacyWireSize), Except.toOption] at h
  obtain ⟨tagC, htagC, rfl, tagP, htagP, wire, rfl, keys, ⟨c2p, hc2p, p2c, hp2c, rfl⟩, rfl, rfl⟩ := h
  refine ⟨hmacSha256_eq_some htagC, ?_, ?_⟩
  · rw [hmacSha256_eq_some htagP]
    rfl
  · rw [hmacSha256_eq_some hc2p, hmacSha256_eq_some hp2c, List.append_nil, List.append_nil]
    rfl

end HybridFirmware

/-- The firmware answers only the expected FINISHED_C, with the outputs of the schedule. -/
theorem hybridFirmware_answers {crypto : Crypto} {version : UInt8} {inputs : FullInputs} {faults : Faults}
    {ready received : Bytes} {answer : Bytes → Option FullOutputs} {value : FullOutputs}
    (hstart : hybridFirmware crypto inputs version faults = some (ready, answer))
    (hanswer : answer received = some value) :
    received = (hybridOutputs crypto version inputs).finishedC ∧
      value = hybridOutputs crypto version inputs := by
  simp only [hybridFirmware, Option.bind_eq_bind, Option.bind_eq_some_iff, Option.pure_def,
    Option.some.injEq, Prod.mk.injEq] at hstart
  obtain ⟨start, hstart, rfl, rfl⟩ := hstart
  obtain rfl := phase7AuthStartResult_eq_some hstart
  simp only [Option.bind_eq_some_iff, Option.guard_eq_some', Prod.exists, exists_and_left,
    exists_const, Option.some.injEq] at hanswer
  obtain ⟨subtype, payload, hparse, rfl, finishedP, traffic, hfinished, rid, hrid, rfl⟩ := hanswer
  have hparse : pqPhase7ParseFrame version received = .ok (pqPhase7FinishedC, payload) := by
    cases hresult : pqPhase7ParseFrame version received with
    | error e => simp [hresult, Except.toOption] at hparse
    | ok value => simpa [hresult, Except.toOption] using hparse
  obtain ⟨hvalid, rfl⟩ := pqPhase7ParseFrame_eq_ok hparse
  have hlength := (validPhase7Payload_finished (.inl rfl) payload).mp hvalid
  obtain ⟨htag, rfl, rfl⟩ := phase7FinishedResult_eq_some hfinished
  have hpayload : payload = (hybridTagC crypto version inputs).bytes := by
    rw [← htag, Block.ofBytes_eq_self hlength]
  have hrid : rid = (hybridOutputs crypto version inputs).rid := by
    unfold hybridOutputs
    split_ifs at hrid with hversion
    · obtain ⟨id, hid, rfl⟩ := Option.map_eq_some_iff.mp hrid
      rw [hversion] at hid
      have honly := (@Resumption.agrees_id crypto _ (.inl rfl) _ _).only faults id hid
      rw [Resumption.resumeId_eq (.inl rfl)] at honly
      cases honly
      simp only [hversion, if_true]
    · cases hrid
      simp only [hversion, if_false]
  subst hpayload hrid
  exact ⟨rfl, rfl⟩

/-- With no platform failure the firmware answers the expected FINISHED_C. -/
theorem hybridFirmware_ok (crypto : Crypto) (version : UInt8) (inputs : FullInputs) :
    ∃ ready answer, hybridFirmware crypto inputs version {} = some (ready, answer) ∧
      answer (hybridOutputs crypto version inputs).finishedC =
        some (hybridOutputs crypto version inputs) := by
  have hrid : (if version = Resumption.pqResumeV08 then
        (Resumption.pqResumeId crypto {} version (hybridStart crypto version inputs).resumeRoot
          (hybridStart crypto version inputs).hash).map some
      else some none) = some (hybridOutputs crypto version inputs).rid := by
    unfold hybridOutputs
    split_ifs with hversion
    · obtain ⟨id, hid, heq⟩ := (@Resumption.agrees_id crypto _ (.inl rfl)
        (hybridStart crypto version inputs).resumeRoot (hybridStart crypto version inputs).hash).returns
      rw [Resumption.resumeId_eq (.inl rfl)] at heq
      cases heq
      simp only [hversion] at hid ⊢
      rw [hid, Option.map_some]
    · rfl
  have hparse := @pqPhase7ParseFrame_phase7Frame version pqPhase7FinishedC (.inl rfl)
    (hybridTagC crypto version inputs)
  have hfinished := phase7FinishedResult_ok crypto version inputs
  simp only [hybridFirmware, phase7AuthStartResult_ok, Option.bind_eq_bind, Option.bind_some,
    Option.pure_def]
  refine ⟨_, _, rfl, ?_⟩
  dsimp only [hybridOutputs] at hrid hfinished ⊢
  rw [hparse]
  simp only [Except.toOption, Option.bind_some, Block.ofBytes_self, hfinished, hrid]
  exact Option.bind_eq_some_iff.mpr ⟨(), by simp only [Option.guard_eq_some'], rfl⟩

/-! ## The Central computes the hybrid schedule -/

namespace Python

section Hybrid

variable {crypto : Crypto} {onCurve : Bytes → Bool} {inputs : FullInputs}

@[simp]
theorem requireSize_block {n : ℕ} (block : Block n) : requireSize n block.bytes = some block := by
  simp [requireSize]

theorem requireSize_eq_some {n : ℕ} {value : Bytes} {block : Block n}
    (h : requireSize n value = some block) : value = block.bytes := by
  unfold requireSize at h
  split_ifs at h
  cases h
  rfl

theorem mapM_lengthPrefixed {fields : List Bytes} (h : ∀ field ∈ fields, field.length ≤ 0xFFFF) :
    fields.mapM lengthPrefixed = some (fields.map Resumption.putField) := by
  induction fields with
  | nil => rfl
  | cons field rest ih =>
    have hfield : lengthPrefixed field = some (Resumption.putField field) :=
      if_neg (not_lt.mpr (h field List.mem_cons_self))
    rw [List.mapM_cons, hfield, ih fun field' hmem ↦ h field' (List.mem_cons_of_mem _ hmem)]
    rfl

theorem validateTranscriptPublicKey_bytes (key : P256Key) :
    validateTranscriptPublicKey key.bytes = some key.bytes := by
  have hlength : key.bytes.length = 65 := by simp [P256Key.bytes]
  rw [validateTranscriptPublicKey, requireSize, dif_pos hlength]
  rfl

theorem buildPhase7Transcript_eq (inputs : FullInputs) :
    buildPhase7Transcript inputs.sid.bytes inputs.pk.bytes inputs.ct.bytes inputs.centralKey.bytes
      inputs.peripheralKey.bytes = some (hybridTranscript pqV07 inputs) := by
  have hkey : ∀ key : P256Key, key.bytes.length = 65 := fun key ↦ by simp [P256Key.bytes]
  have hdomain : phase7Domain.length = 21 := by decide
  have hfields : [phase7Domain, [0x01], [0x02], inputs.sid.bytes, inputs.pk.bytes, inputs.ct.bytes,
      inputs.centralKey.bytes, inputs.peripheralKey.bytes].mapM lengthPrefixed =
        some ([phase7Domain, [0x01], [0x02], inputs.sid.bytes, inputs.pk.bytes, inputs.ct.bytes,
          inputs.centralKey.bytes, inputs.peripheralKey.bytes].map Resumption.putField) := by
    refine mapM_lengthPrefixed fun field hmem ↦ ?_
    simp only [List.mem_cons, List.not_mem_nil, or_false] at hmem
    rcases hmem with rfl | rfl | rfl | rfl | rfl | rfl | rfl | rfl <;> simp [hkey, hdomain]
  simp only [buildPhase7Transcript, requireSize_block, validateTranscriptPublicKey_bytes, hfields,
    Option.bind_eq_bind, Option.bind_some]
  refine Option.bind_eq_some_iff.mpr ⟨(), ?_, rfl⟩
  simp [Resumption.putField, hkey, hdomain]

theorem buildHybridIkm_eq (ss ssEcdh : Block 32) :
    buildHybridIkm ss.bytes ssEcdh.bytes = some (pqPhase7BuildHybridIkm ss ssEcdh).bytes := by
  have hprefixed : ∀ block : Block 32, lengthPrefixed block.bytes =
      some ([0x00, 0x20] ++ block.bytes) := by
    intro block
    rw [lengthPrefixed, block.length_bytes]
    rfl
  simp only [buildHybridIkm, requireSize_block, hprefixed, Option.bind_eq_bind, Option.bind_some]
  refine Option.bind_eq_some_iff.mpr ⟨(), ?_, ?_⟩
  · simp
  · simp [pqPhase7BuildHybridIkm]

/-- What both hybrid Centrals do with FINISHED_P. -/
theorem parsePhase7FinishedP_eq_some {raw payload : Bytes}
    (h : parsePhase7FinishedP onCurve raw = some payload) :
    raw = phase7Frame pqV07 pqPhase7FinishedP payload := by
  simp only [parsePhase7FinishedP, Option.bind_eq_bind, Option.bind_eq_some_iff, Prod.exists,
    Option.guard_eq_some', exists_and_left, exists_const, Option.pure_def, Option.some.injEq] at h
  obtain ⟨subtype, payload', hparse, rfl, rfl⟩ := h
  exact (parsePhase7Frame_eq_some hparse).2

/-- The v0.7 Central sends the expected FINISHED_C, and accepts the expected FINISHED_P and no other. -/
theorem phase7Central_eq (crypto : Crypto) (onCurve : Bytes → Bool) (inputs : FullInputs) :
    ∃ accept, phase7Central crypto onCurve inputs =
        some ((hybridOutputs crypto pqV07 inputs).finishedC, accept) ∧
      accept (hybridOutputs crypto pqV07 inputs).finishedP =
          some (hybridOutputs crypto pqV07 inputs) ∧
        ∀ received value, accept received = some value →
          received = (hybridOutputs crypto pqV07 inputs).finishedP ∧
            value = hybridOutputs crypto pqV07 inputs := by
  have hhash : computePhase7TranscriptHash crypto inputs.sid.bytes inputs.pk.bytes inputs.ct.bytes
      inputs.centralKey.bytes inputs.peripheralKey.bytes =
        some (hybridStart crypto pqV07 inputs).hash := by
    rw [computePhase7TranscriptHash, buildPhase7Transcript_eq]
    rfl
  have hkeys : derivePhase7Keys crypto inputs.ss.bytes inputs.ssEcdh.bytes
      (hybridStart crypto pqV07 inputs).hash.bytes = some (hybridStart crypto pqV07 inputs).keys := by
    simp only [derivePhase7Keys, requireSize_block, buildHybridIkm_eq, Option.bind_eq_bind,
      Option.bind_some, Option.pure_def]
    rfl
  have htagC : computePhase7FinishedC crypto (hybridStart crypto pqV07 inputs).keys.finishedC.bytes
      (hybridStart crypto pqV07 inputs).hash.bytes = some (hybridTagC crypto pqV07 inputs) := by
    simp only [computePhase7FinishedC, computeFinished, requireSize_block, Option.bind_eq_bind,
      Option.bind_some, Option.pure_def]
    rfl
  have htagP : computePhase7FinishedP crypto (hybridStart crypto pqV07 inputs).keys.finishedP.bytes
      (hybridStart crypto pqV07 inputs).hash.bytes = some (hybridTagP crypto pqV07 inputs) := by
    simp only [computePhase7FinishedP, computeFinished, requireSize_block, Option.bind_eq_bind,
      Option.bind_some, Option.pure_def]
    rfl
  have hsas : computePhase7Sas crypto (hybridStart crypto pqV07 inputs).keys.sas.bytes
      (hybridStart crypto pqV07 inputs).hash.bytes = some (hybridStart crypto pqV07 inputs).sas := by
    simp only [computePhase7Sas, requireSize_block, Option.bind_eq_bind, Option.bind_some,
      Option.pure_def]
    rfl
  have htraffic : derivePhase7TrafficKeys crypto
      (hybridStart crypto pqV07 inputs).keys.application.bytes =
        some (hybridTraffic crypto pqV07 inputs) := by
    simp only [derivePhase7TrafficKeys, requireSize_block, Option.bind_eq_bind, Option.bind_some,
      Option.pure_def]
    rfl
  have hencode : encodePhase7FinishedC onCurve (hybridTagC crypto pqV07 inputs).bytes =
      some (phase7Frame pqV07 pqPhase7FinishedC (hybridTagC crypto pqV07 inputs).bytes) := by
    simp only [encodePhase7FinishedC, requireSize_block, Option.bind_eq_bind, Option.bind_some,
      encodePhase7Frame_eq (.inl rfl)]
  have hparse := @parsePhase7Frame_phase7Frame onCurve pqPhase7FinishedP (.inr rfl)
    (hybridTagP crypto pqV07 inputs)
  simp only [phase7Central, hhash, hkeys, htagC, htagP, hsas, hencode, htraffic, Option.bind_eq_bind,
    Option.bind_some, Option.pure_def]
  refine ⟨_, rfl, ?_, fun received value hvalue ↦ ?_⟩
  · dsimp only [hybridOutputs]
    simp only [parsePhase7FinishedP, hparse, Option.bind_eq_bind, Option.bind_some, Option.pure_def]
    simp [pqV07, Resumption.pqResumeV08]
  · simp only [Option.bind_eq_some_iff, Option.guard_eq_some', exists_and_left, exists_const,
      Option.some.injEq] at hvalue
    obtain ⟨payload, hpayload, rfl, rfl⟩ := hvalue
    obtain rfl := parsePhase7FinishedP_eq_some hpayload
    exact ⟨rfl, rfl⟩

/-! ### v0.8 -/

/-- Changing the version byte of a frame. -/
theorem setVersion_phase7Frame (version version' subtype : UInt8) (payload : Bytes) :
    (phase7Frame version subtype payload).take 4 ++ [version'] ++
        (phase7Frame version subtype payload).drop 5 = phase7Frame version' subtype payload := by
  rfl

theorem parseFull_v08_eq_some {raw payload : Bytes} {subtype : UInt8}
    (h : parseFull onCurve Resumption.pqResumeV08 raw = some (subtype, payload)) :
    raw = phase7Frame Resumption.pqResumeV08 subtype payload := by
  simp only [parseFull, Option.bind_eq_bind, Option.bind_eq_some_iff, Option.guard_eq_some',
    exists_and_left, exists_const, if_true] at h
  obtain ⟨_, -, ⟨hlength, hversion⟩, hparse⟩ := h
  have hframe := (parsePhase7Frame_eq_some hparse).2
  obtain ⟨b0, b1, b2, b3, b4, b5, b6, b7, rest, rfl⟩ := exists_header hlength
  obtain rfl : b4 = Resumption.pqResumeV08 := hversion
  rw [← setVersion_phase7Frame pqV07, ← hframe]
  rfl

theorem parseFull_v08_phase7Frame {subtype : UInt8}
    (h : subtype = pqPhase7FinishedC ∨ subtype = pqPhase7FinishedP) (tag : Block 32) :
    parseFull onCurve Resumption.pqResumeV08 (phase7Frame Resumption.pqResumeV08 subtype tag.bytes) =
      some (subtype, tag.bytes) := by
  have hlength : 8 ≤ (phase7Frame Resumption.pqResumeV08 subtype tag.bytes).length := by
    simp [phase7Frame, phase7Magic, ascii]
  simp only [parseFull, Option.bind_eq_bind, if_true]
  rw [show Resumption.domain Resumption.pqResumeV08 = some _ from rfl, Option.bind_some,
    guard_bind_of ⟨hlength, rfl⟩, show (7 : UInt8) = pqV07 from rfl, setVersion_phase7Frame]
  exact parsePhase7Frame_phase7Frame h tag

theorem encodeFull_v08_eq {subtype : UInt8}
    (h : subtype = pqPhase7FinishedC ∨ subtype = pqPhase7FinishedP) (tag : Block 32) :
    encodeFull onCurve Resumption.pqResumeV08 subtype tag.bytes =
      some (phase7Frame Resumption.pqResumeV08 subtype tag.bytes) := by
  simp only [encodeFull, encodePhase7Frame_eq h, Option.bind_eq_bind, if_true]
  rfl

/-- The v0.8 session after `begin`. -/
def hybridSession (crypto : Crypto) (inputs : FullInputs) : FullHandshake :=
  let start := hybridStart crypto Resumption.pqResumeV08 inputs
  { profile := Resumption.pqResumeV08, sessionId := inputs.sid.bytes, th := start.hash
    prk := crypto.mac start.hash (pqPhase7BuildHybridIkm inputs.ss inputs.ssEcdh).bytes
    application := start.keys.application, sasKey := start.keys.sas
    confirmC := start.keys.finishedC, confirmP := start.keys.finishedP, state := .waitAuth }

/-- Replacing the domain field of the v0.7 transcript gives the one of v0.8. -/
theorem hybridTranscript_splice (inputs : FullInputs) :
    Resumption.putField (Resumption.domainName Resumption.pqResumeV08) ++
        (hybridTranscript pqV07 inputs).drop (2 + phase7Domain.length) =
      hybridTranscript Resumption.pqResumeV08 inputs := by
  have hfield : (Resumption.putField (hybridDomain pqV07)).length = 2 + phase7Domain.length := by
    decide
  rw [hybridTranscript, List.map_cons, List.flatten_cons, List.drop_left' hfield]
  rfl

theorem begin_v08 (crypto : Crypto) (onCurve : Bytes → Bool) (inputs : FullInputs) :
    FullHandshake.begin crypto onCurve { profile := Resumption.pqResumeV08 } inputs.ss.bytes
      inputs.pk.bytes inputs.ct.bytes inputs.sid.bytes inputs.ssEcdh.bytes inputs.centralKey.bytes
      inputs.peripheralKey.bytes inputs.sec = some (hybridSession crypto inputs) := by
  have hdomain : Resumption.domain Resumption.pqResumeV08 =
      some (Resumption.domainName Resumption.pqResumeV08) := rfl
  simp only [FullHandshake.begin, requireSize_block, buildPhase7Transcript_eq, buildHybridIkm_eq,
    hdomain, Block.length_bytes, Option.bind_eq_bind, Option.bind_some, Option.pure_def, if_true,
    hybridTranscript_splice]
  exact Option.bind_eq_some_iff.mpr ⟨(), rfl, Option.bind_eq_some_iff.mpr ⟨(), rfl, rfl⟩⟩

theorem issueTicket_eq {profile : UInt8} (h : Resumption.KnownProfile profile) (peer : Block 7)
    (prk th : Block 32) (now : ℚ) :
    issueTicket crypto profile peer prk th now =
      let root := expand crypto prk (Resumption.domainName profile ++ ascii "/RESUME-ROOT") th
      some { profile, peer, root, createdAt := now, successfulResumes := 0, replay := [], valid := true
             rid := (Block.ofBytes 16 (verifyData crypto root
               (Resumption.domainName profile ++ ascii "/RESUME-ID") th).bytes).bytes } := by
  simp only [issueTicket, Resumption.deriveRoot_eq h, Resumption.resumeId_eq h, Except.toOption,
    Option.bind_eq_bind, Option.bind_some, Option.pure_def]

/-- The v0.8 Central sends the expected FINISHED_C, and accepts the expected FINISHED_P and no other. -/
theorem fullCentral_v08_eq (crypto : Crypto) (onCurve : Bytes → Bool) (inputs : FullInputs)
    (peer : Block 7) (now : ℚ) (ready : Bytes) :
    let outputs := hybridOutputs crypto Resumption.pqResumeV08 inputs
    ∃ accept, fullCentral crypto onCurve inputs Resumption.pqResumeV08 peer now ready =
        some (outputs.finishedC, accept) ∧ accept outputs.finishedP = some outputs ∧
      ∀ received value, accept received = some value →
        received = outputs.finishedP ∧ value = outputs := by
  intro outputs
  have hsas : (hybridSession crypto inputs).sas crypto =
      some (hybridStart crypto Resumption.pqResumeV08 inputs).sas := rfl
  have hprofile : (hybridSession crypto inputs).profile = Resumption.pqResumeV08 := rfl
  have hdomain : Resumption.domain Resumption.pqResumeV08 =
      some (Resumption.domainName Resumption.pqResumeV08) := rfl
  have hfinishC : (hybridSession crypto inputs).finishC crypto onCurve true =
      some (outputs.finishedC, { hybridSession crypto inputs with state := .waitFinishedP }) := by
    have htag : verifyData crypto (hybridSession crypto inputs).confirmC
        (Resumption.domainName Resumption.pqResumeV08 ++ ascii "/FINISHED/C")
        (hybridSession crypto inputs).th = hybridTagC crypto Resumption.pqResumeV08 inputs := rfl
    simp only [FullHandshake.finishC, hprofile, hdomain, decide_true, if_true, htag,
      encodeFull_v08_eq (.inl rfl), Option.bind_eq_bind, Option.bind_some, Option.pure_def]
    exact guard_bind_of ⟨rfl, trivial⟩ _
  have hexpected : verifyData crypto (hybridSession crypto inputs).confirmP
      (Resumption.domainName Resumption.pqResumeV08 ++ ascii "/FINISHED/P")
      (hybridSession crypto inputs).th = hybridTagP crypto Resumption.pqResumeV08 inputs := rfl
  have hissue := @issueTicket_eq crypto Resumption.pqResumeV08 (.inl rfl) peer
    (hybridSession crypto inputs).prk (hybridSession crypto inputs).th now
  simp only [fullCentral, begin_v08, hsas, hfinishC, Option.bind_eq_bind, Option.bind_some, if_true,
    Option.map_some, Option.pure_def]
  refine ⟨_, rfl, ?_, fun received value hvalue ↦ ?_⟩
  · have hparse := @parseFull_v08_phase7Frame onCurve pqPhase7FinishedP (.inr rfl)
      (hybridTagP crypto Resumption.pqResumeV08 inputs)
    have hwire : outputs.finishedP = phase7Frame Resumption.pqResumeV08 pqPhase7FinishedP
      (hybridTagP crypto Resumption.pqResumeV08 inputs).bytes := rfl
    simp only [FullHandshake.finishP, hprofile, hdomain, decide_true, if_true, hwire, hparse, hexpected,
      hissue, Option.bind_eq_bind, Option.bind_some, Option.pure_def]
    rw [guard_bind_of trivial, guard_bind_of trivial, guard_bind_of trivial]
    simp only [Option.bind_some, requireSize_block]
    rfl
  · obtain ⟨secure, hsecure, hvalue⟩ := Option.bind_eq_some_iff.mp hvalue
    simp only [FullHandshake.finishP, hprofile, hdomain, decide_true, if_true, hexpected, hissue,
      Option.bind_eq_bind, Option.bind_eq_some_iff, Prod.exists, Option.guard_eq_some',
      exists_and_left, exists_const, Option.pure_def, Option.some.injEq, exists_eq_left'] at hsecure
    obtain ⟨-, subtype, payload, hparse, rfl, rfl, rfl⟩ := hsecure
    obtain rfl := parseFull_v08_eq_some hparse
    simp only [Option.bind_some, requireSize_block, Option.some.injEq] at hvalue
    exact ⟨rfl, hvalue.symm⟩

end Hybrid

end Python

/-! ## The firmware computes the v1.x schedule -/

section Smp

variable {crypto : Crypto} {version : UInt8} {inputs : FullInputs} {faults : Faults}

/-- The handshake secrets of the inputs. -/
def smpHandshake (crypto : Crypto) (version : UInt8) (inputs : FullInputs) : V1Handshake :=
  cp3Handshake crypto version inputs.ss (crypto.hash (cp3Transcript version inputs.sec inputs.pk.bytes
    inputs.ct.bytes (v1Frame version pqV1StartCp3 inputs.sid.bytes)))

/-- The IV base of a direction. -/
def cp4IvBase (crypto : Crypto) (version : UInt8) (key : Block 32) (sid : Block 16) (direction : UInt8) :
    Block 12 :=
  .ofBytes 12 (crypto.mac key (appDomain version ++
    ascii (if direction = pqV1AppC2p then "/IV-C2P" else "/IV-P2C") ++ sid.bytes ++ [1])).bytes

/-- The outputs of v1.0 and v1.1. -/
def smpOutputs (crypto : Crypto) (version : UInt8) (inputs : FullInputs) : FullOutputs :=
  let handshake := smpHandshake crypto version inputs
  let app := cp3Application crypto version handshake
  { th0 := handshake.th0, sas := none
    finishedC := cp3FinishedC crypto version handshake
    finishedP := cp3FinishedP crypto version handshake
    c2p := app.c2p, p2c := app.p2c
    ivC2p := some (cp4IvBase crypto version app.c2p inputs.sid pqV1AppC2p)
    ivP2c := some (cp4IvBase crypto version app.p2c inputs.sid pqV1AppP2c)
    root := if version = Resumption.pqResumeV11 then some app.resumeRoot else none
    rid :=
      if version = Resumption.pqResumeV11 then
        some (.ofBytes 16 (verifyData crypto app.resumeRoot
          (Resumption.domainName Resumption.pqResumeV11 ++ ascii "/RESUME-ID") app.fullTh).bytes)
      else none }

theorem pqV1Cp4Iv_eq_ok {key : Block 32} {sid : Block 16} {direction : UInt8} {iv : Block 12}
    (h : pqV1Cp4Iv crypto faults version key sid direction = .ok iv) :
    iv = cp4IvBase crypto version key sid direction := by
  simp only [pqV1Cp4Iv, except_bind_eq_ok_iff, require_eq_ok_iff, orFail_eq_ok_iff, exists_and_left,
    exists_const] at h
  obtain ⟨-, block, hblock, hresult⟩ := h
  cases hresult
  rw [pqCryptoMac_eq_some hblock]
  rfl

theorem pqV1Cp4Iv_ok {direction : UInt8} (h : IsApp direction) (key : Block 32) (sid : Block 16) :
    pqV1Cp4Iv crypto {} version key sid direction = .ok (cp4IvBase crypto version key sid direction) := by
  rw [pqV1Cp4Iv, require_bind_of h]
  rfl

/-- The firmware answers only the expected FINISHED_C, with the outputs of the schedule. -/
theorem smpFirmware_answers {ready received : Bytes} {answer : Bytes → Option FullOutputs}
    {value : FullOutputs} (hstart : smpFirmware crypto inputs version faults = some (ready, answer))
    (hanswer : answer received = some value) :
    received = (smpOutputs crypto version inputs).finishedC ∧ value = smpOutputs crypto version inputs := by
  simp only [smpFirmware, Option.bind_eq_bind, Option.bind_eq_some_iff, Option.pure_def,
    Option.some.injEq, Prod.mk.injEq] at hstart
  obtain ⟨th0, hth0, handshake, hderive, wire, -, -, rfl⟩ := hstart
  obtain ⟨rfl, -, -⟩ := pqV1Cp3Transcript_eq_some hth0
  obtain rfl := pqV1Cp3Derive_eq_some hderive
  simp only [Option.bind_eq_some_iff, Prod.exists, Option.some.injEq, toOption_eq_some_iff] at hanswer
  obtain ⟨finishedP, app, hfinish, ivC2p, hivC2p, ivP2c, hivP2c, rid, hrid, rfl⟩ := hanswer
  obtain ⟨rfl, rfl, rfl⟩ := pqV1Cp3Finish_eq_some hfinish
  obtain rfl := pqV1Cp4Iv_eq_ok hivC2p
  obtain rfl := pqV1Cp4Iv_eq_ok hivP2c
  have hrid : rid = (smpOutputs crypto version inputs).rid := by
    unfold smpOutputs
    split_ifs at hrid with hversion
    · obtain ⟨id, hid, rfl⟩ := Option.map_eq_some_iff.mp hrid
      rw [hversion] at hid
      have honly := (@Resumption.agrees_id crypto _ (.inr rfl) _ _).only faults id hid
      rw [Resumption.resumeId_eq (.inr rfl)] at honly
      cases honly
      simp only [hversion, if_true]
      rfl
    · cases hrid
      simp only [hversion, if_false]
  subst hrid
  exact ⟨rfl, rfl⟩

/-- The profiles that `pq_v1_cp3.c` is built for. -/
def SmpProfile (version : UInt8) : Prop := version = pqV10 ∨ version = Resumption.pqResumeV11

theorem length_appDomain (h : SmpProfile version) : (appDomain version).length = 21 := by
  rcases h with rfl | rfl <;> decide

theorem pqV1Cp3Expand_domain_ok (h : SmpProfile version) {suffix : Bytes} (hsuffix : suffix.length ≤ 42)
    (prk th : Block 32) : pqV1Cp3Expand crypto {} prk (appDomain version ++ suffix) th =
      some (expand crypto prk (appDomain version ++ suffix) th) := by
  refine pqV1Cp3Expand_ok ?_ prk th
  rw [List.length_append, length_appDomain h]
  omega

theorem pqV1Cp3VerifyData_domain_ok (h : SmpProfile version) {suffix : Bytes}
    (hsuffix : suffix.length ≤ 42) (key th : Block 32) :
    pqV1Cp3VerifyData crypto {} key (appDomain version ++ suffix) th =
      some (verifyData crypto key (appDomain version ++ suffix) th) := by
  refine pqV1Cp3VerifyData_ok ?_ key th
  rw [List.length_append, length_appDomain h]
  omega

/-- A payload of the size that its control subtype has. -/
theorem validPayload_block {n : ℕ} {subtype : UInt8} (block : Block n)
    (h : payloadSizeValid subtype n = true) (happ : ¬IsApp subtype) :
    ValidPayload subtype block.bytes where
  size := by rw [block.length_bytes]; exact h
  inner hdirection := absurd hdirection happ

theorem pqV1ParseFrame_v1Frame {subtype : UInt8} {payload : Bytes} (h : ValidPayload subtype payload) :
    (pqV1ParseFrame version (v1Frame version subtype payload)).toOption = some (subtype, payload) :=
  toOption_pqV1ParseFrame_eq_some_iff.mpr ⟨h, rfl⟩

theorem pqV1Cp3Chain_ok {subtype : UInt8} (h : subtype = pqV1FinishedC ∨ subtype = pqV1FinishedP)
    (th tag : Block 32) : pqV1Cp3Chain crypto {} version th (v1Frame version subtype tag.bytes) =
      some (crypto.hash (th.bytes ++ v1Frame version subtype tag.bytes)) := by
  have hvalid : ValidPayload subtype tag.bytes := by
    rcases h with rfl | rfl <;> exact validPayload_block tag (by decide) (by decide)
  simp only [pqV1Cp3Chain, pqV1ParseFrame_v1Frame hvalid, Option.bind_eq_bind, Option.bind_some]
  rw [guard_bind_of h, pqCryptoHashParts_ok]
  simp

/-- With no platform failure the firmware answers the expected FINISHED_C. -/
theorem pqV1Cp3Finish_ok (h : SmpProfile version) (handshake : V1Handshake) :
    pqV1Cp3Finish crypto {} version handshake (cp3FinishedC crypto version handshake) =
      some (cp3FinishedP crypto version handshake, cp3Application crypto version handshake) := by
  have hparse : (pqV1ParseFrame version (cp3FinishedC crypto version handshake)).toOption =
      some (pqV1FinishedC, (verifyData crypto handshake.finishedC (appDomain version ++ ascii "/VERIFY-C")
        handshake.th0).bytes) :=
    pqV1ParseFrame_v1Frame (validPayload_block _ (by decide) (by decide))
  have hth1 : pqV1Cp3Chain crypto {} version handshake.th0 (cp3FinishedC crypto version handshake) =
      some (cp3Th1 crypto version handshake) := pqV1Cp3Chain_ok (.inl rfl) _ _
  have hencode : (pqV1EncodeFrame version pqV1FinishedP (verifyData crypto handshake.finishedP
      (appDomain version ++ ascii "/VERIFY-P") (cp3Th1 crypto version handshake)).bytes 40).toOption =
        some (cp3FinishedP crypto version handshake) := by
    refine toOption_eq_some_iff.mpr (pqV1EncodeFrame_eq_ok_iff.mpr ⟨?_, ?_, rfl⟩)
    · exact validPayload_block _ (by decide) (by decide)
    · rw [Block.length_bytes]
  have hth2 : pqV1Cp3Chain crypto {} version (cp3Th1 crypto version handshake)
      (cp3FinishedP crypto version handshake) = some (cp3Th2 crypto version handshake) :=
    pqV1Cp3Chain_ok (.inr rfl) _ _
  simp only [pqV1Cp3Finish, hparse, hth1, hencode, hth2, pqV1Cp3VerifyData_domain_ok h
    (show (ascii "/VERIFY-C").length ≤ 42 by decide), pqV1Cp3VerifyData_domain_ok h
    (show (ascii "/VERIFY-P").length ≤ 42 by decide), pqV1Cp3Expand_domain_ok h
    (show (ascii "/APP-C2P").length ≤ 42 by decide), pqV1Cp3Expand_domain_ok h
    (show (ascii "/APP-P2C").length ≤ 42 by decide), Block.slice_zero_self, Option.bind_eq_bind,
    Option.bind_some]
  rw [guard_bind_of trivial, guard_bind_of trivial]
  unfold cp3Application
  split_ifs with hversion
  · obtain ⟨root, hroot, heq⟩ := (@Resumption.agrees_root crypto _ (.inr rfl) handshake.prk
      (cp3Th2 crypto version handshake)).returns
    rw [Resumption.deriveRoot_eq (.inr rfl)] at heq
    cases heq
    rw [hroot, hversion]
    rfl
  · rfl

theorem pqV1Cp3Derive_ok (h : SmpProfile version) (ss th0 : Block 32) :
    pqV1Cp3Derive crypto {} version ss th0 = some (cp3Handshake crypto version ss th0) := by
  simp only [pqV1Cp3Derive, pqCryptoMac_ok, pqV1Cp3Expand_domain_ok h
    (show (ascii "/FINISHED-C").length ≤ 42 by decide), pqV1Cp3Expand_domain_ok h
    (show (ascii "/FINISHED-P").length ≤ 42 by decide), Option.bind_eq_bind, Option.bind_some]
  rfl

theorem strictSec_eq (version : UInt8) :
    strictSec version = v1Frame version pqV1SecInfo [4, 7, 16, version] := by
  simp [strictSec, v1Frame, bigEndian]

theorem validPayload_secInfo (b0 b1 b2 b3 : UInt8) : ValidPayload pqV1SecInfo [b0, b1, b2, b3] where
  size := rfl
  inner happ := absurd happ (by decide)

/-- The transcript over the SEC_INFO of an authenticated Level 4 link. -/
theorem pqV1Cp3Transcript_ok {sec : Bytes} (hsec : sec = strictSec version) (pk : Block 1184)
    (ct : Block 1088) (sid : Block 16) :
    pqV1Cp3Transcript crypto {} version sec pk.bytes ct.bytes
        (v1Frame version pqV1StartCp3 sid.bytes) =
      some (crypto.hash (cp3Transcript version sec pk.bytes ct.bytes
        (v1Frame version pqV1StartCp3 sid.bytes))) := by
  have hparse : (pqV1ParseFrame version sec).toOption = some (pqV1SecInfo, [4, 7, 16, version]) := by
    rw [hsec, strictSec_eq]
    exact pqV1ParseFrame_v1Frame (validPayload_secInfo _ _ _ _)
  have hstart : (pqV1ParseFrame version (v1Frame version pqV1StartCp3 sid.bytes)).toOption =
      some (pqV1StartCp3, sid.bytes) :=
    pqV1ParseFrame_v1Frame (validPayload_block sid (by decide) (by decide))
  have hflags : (7 : UInt8) &&& ~~~7 = 0 := by decide
  simp only [pqV1Cp3Transcript, hparse, hstart, Option.bind_eq_bind, Option.bind_some]
  rw [guard_bind_of ⟨pk.length_bytes, ct.length_bytes⟩, guard_bind_of ⟨trivial, hflags⟩,
    guard_bind_of trivial, pqCryptoHashParts_ok]
  simp [cp3Transcript]

theorem smpFirmware_ok (h : SmpProfile version) (hsec : inputs.sec = strictSec version) :
    ∃ answer, smpFirmware crypto inputs version {} =
        some (v1Frame version pqV1ReadyCp3 (smpOutputs crypto version inputs).th0.bytes, answer) ∧
      answer (smpOutputs crypto version inputs).finishedC = some (smpOutputs crypto version inputs) := by
  have hready : (pqV1EncodeFrame version pqV1ReadyCp3 (smpOutputs crypto version inputs).th0.bytes
      legacyWireSize).toOption =
        some (v1Frame version pqV1ReadyCp3 (smpOutputs crypto version inputs).th0.bytes) := by
    refine toOption_eq_some_iff.mpr (pqV1EncodeFrame_eq_ok_iff.mpr ⟨?_, ?_, rfl⟩)
    · exact validPayload_block _ (by decide) (by decide)
    · rw [Block.length_bytes]
      decide
  have hrid : (if version = Resumption.pqResumeV11 then
        (Resumption.pqResumeId crypto {} version
          (cp3Application crypto version (smpHandshake crypto version inputs)).resumeRoot
          (cp3Application crypto version (smpHandshake crypto version inputs)).fullTh).map some
      else some none) = some (smpOutputs crypto version inputs).rid := by
    unfold smpOutputs
    split_ifs with hversion
    · obtain ⟨id, hid, heq⟩ := (@Resumption.agrees_id crypto _ (.inr rfl)
        (cp3Application crypto version (smpHandshake crypto version inputs)).resumeRoot
        (cp3Application crypto version (smpHandshake crypto version inputs)).fullTh).returns
      rw [Resumption.resumeId_eq (.inr rfl)] at heq
      cases heq
      rw [hversion] at hid ⊢
      rw [hid, Option.map_some]
    · rfl
  have hth0 : crypto.hash (cp3Transcript version inputs.sec inputs.pk.bytes inputs.ct.bytes
      (v1Frame version pqV1StartCp3 inputs.sid.bytes)) = (smpOutputs crypto version inputs).th0 := rfl
  simp only [smpFirmware, pqV1Cp3Transcript_ok hsec, pqV1Cp3Derive_ok h, hth0, hready,
    Option.bind_eq_bind, Option.bind_some, Option.pure_def]
  refine ⟨_, rfl, ?_⟩
  have hfinish := @pqV1Cp3Finish_ok crypto _ h (smpHandshake crypto version inputs)
  have hhandshake : cp3Handshake crypto version inputs.ss (smpOutputs crypto version inputs).th0 =
      smpHandshake crypto version inputs := rfl
  have hwire : (smpOutputs crypto version inputs).finishedC =
      cp3FinishedC crypto version (smpHandshake crypto version inputs) := rfl
  simp only [hhandshake, hwire, hfinish, hrid, Option.bind_some,
    pqV1Cp4Iv_ok (show IsApp pqV1AppC2p by decide), pqV1Cp4Iv_ok (show IsApp pqV1AppP2c by decide),
    Except.toOption]
  rfl

end Smp

/-! ## The Central computes the v1.x schedule -/

namespace Python

section Smp

variable {crypto : Crypto} {onCurve : Bytes → Bool} {inputs : FullInputs}

/-! ### v1.1 -/

theorem parseFull_v11 (raw : Bytes) :
    parseFull onCurve Resumption.pqResumeV11 raw = parse Resumption.pqResumeV11 raw := rfl

theorem encodeFull_v11 (subtype : UInt8) (payload : Bytes) :
    encodeFull onCurve Resumption.pqResumeV11 subtype payload =
      encode Resumption.pqResumeV11 subtype payload := by
  unfold encodeFull encode
  cases encodeV1Frame subtype payload <;> rfl

theorem parse_v1Frame {profile subtype : UInt8} {payload : Bytes} (h : KnownApp profile)
    (hvalid : ValidPayload subtype payload) :
    parse profile (v1Frame profile subtype payload) = some (subtype, payload) :=
  parse_eq_some_iff.mpr ⟨h, hvalid, rfl⟩

theorem knownApp_v11 : KnownApp Resumption.pqResumeV11 := .inr (.inr rfl)

/-- `security_info` accepts one frame. -/
theorem securityInfo_iff {raw : Bytes} :
    securityInfo onCurve raw = some () ↔ raw = strictSec Resumption.pqResumeV11 := by
  simp only [securityInfo, parseFull_v11, Option.bind_eq_bind, Option.bind_eq_some_iff, Prod.exists,
    parse_eq_some_iff, Option.guard_eq_some', exists_and_left, exists_const, strictSec_eq]
  constructor
  · rintro ⟨subtype, payload, ⟨-, -, rfl⟩, rfl, rfl⟩
    rfl
  · rintro rfl
    exact ⟨_, _, ⟨knownApp_v11, validPayload_secInfo _ _ _ _, rfl⟩, rfl, rfl⟩

/-- The v1.1 session after `begin`. -/
def smpSession (crypto : Crypto) (inputs : FullInputs) : FullHandshake :=
  let handshake := smpHandshake crypto Resumption.pqResumeV11 inputs
  { profile := Resumption.pqResumeV11, sessionId := inputs.sid.bytes, th := handshake.th0
    prk := handshake.prk, confirmC := handshake.finishedC, confirmP := handshake.finishedP
    state := .waitAuth }

theorem begin_v11 {h : FullHandshake}
    (hbegin : FullHandshake.begin crypto onCurve { profile := Resumption.pqResumeV11 } inputs.ss.bytes
      inputs.pk.bytes inputs.ct.bytes inputs.sid.bytes inputs.ssEcdh.bytes inputs.centralKey.bytes
      inputs.peripheralKey.bytes inputs.sec = some h) :
    inputs.sec = strictSec Resumption.pqResumeV11 ∧ h = smpSession crypto inputs := by
  have hne : Resumption.pqResumeV11 ≠ Resumption.pqResumeV08 := by decide
  simp only [FullHandshake.begin, requireSize_block, Option.bind_eq_bind, Option.bind_eq_some_iff,
    Option.guard_eq_some', exists_and_left, exists_const, if_neg hne, encodeFull_v11,
    encode_eq_some_iff, Option.pure_def, Option.some.injEq, exists_eq_left'] at hbegin
  obtain ⟨-, -, d, hd, value, hsec, start, ⟨-, -, rfl⟩, rfl⟩ := hbegin
  cases hd
  exact ⟨securityInfo_iff.mp hsec, rfl⟩

theorem begin_v11_ok (h : inputs.sec = strictSec Resumption.pqResumeV11) :
    FullHandshake.begin crypto onCurve { profile := Resumption.pqResumeV11 } inputs.ss.bytes
      inputs.pk.bytes inputs.ct.bytes inputs.sid.bytes inputs.ssEcdh.bytes inputs.centralKey.bytes
      inputs.peripheralKey.bytes inputs.sec = some (smpSession crypto inputs) := by
  have hdomain : Resumption.domain Resumption.pqResumeV11 =
      some (Resumption.domainName Resumption.pqResumeV11) := rfl
  have hne : Resumption.pqResumeV11 ≠ Resumption.pqResumeV08 := by decide
  have hstart : encode Resumption.pqResumeV11 pqV1StartCp3 inputs.sid.bytes =
      some (v1Frame Resumption.pqResumeV11 pqV1StartCp3 inputs.sid.bytes) :=
    encode_eq_some_iff.mpr ⟨knownApp_v11, validPayload_block _ (by decide) (by decide), rfl⟩
  simp only [FullHandshake.begin, requireSize_block, hdomain, if_neg hne, encodeFull_v11, hstart,
    securityInfo_iff.mpr h, Option.bind_eq_bind, Option.bind_some, Option.pure_def]
  rw [guard_bind_of trivial, guard_bind_of ⟨inputs.pk.length_bytes, inputs.ct.length_bytes⟩]
  rfl

theorem deriveIvBase_eq {profile direction : UInt8} (h : KnownApp profile) (hdirection : IsApp direction)
    (key : Block 32) (sid : Block 16) :
    deriveIvBase crypto profile key sid.bytes direction =
      some (cp4IvBase crypto profile key sid direction) := by
  have hlabel := @profileLabel_eq_some_iff profile
    (if direction = pqV1AppC2p then "/IV-C2P" else "/IV-P2C") _ |>.mpr ⟨h, rfl⟩
  rw [deriveIvBase, if_neg (by simp [hdirection]), hlabel]
  rfl

/-- The v1.1 session after `finish_c`. -/
def smpWaiting (crypto : Crypto) (inputs : FullInputs) : FullHandshake :=
  { smpSession crypto inputs with
    th := cp3Th1 crypto Resumption.pqResumeV11 (smpHandshake crypto Resumption.pqResumeV11 inputs)
    state := .waitFinishedP }

theorem finishC_v11 (crypto : Crypto) (onCurve : Bytes → Bool) (inputs : FullInputs) :
    (smpSession crypto inputs).finishC crypto onCurve true =
      some ((smpOutputs crypto Resumption.pqResumeV11 inputs).finishedC, smpWaiting crypto inputs) := by
  have hprofile : (smpSession crypto inputs).profile = Resumption.pqResumeV11 := rfl
  have hdomain : Resumption.domain Resumption.pqResumeV11 =
      some (Resumption.domainName Resumption.pqResumeV11) := rfl
  have hne : decide (Resumption.pqResumeV11 = Resumption.pqResumeV08) = false := by decide
  have hencode : ∀ tag : Block 32, encode Resumption.pqResumeV11 pqV1FinishedC tag.bytes =
      some (v1Frame Resumption.pqResumeV11 pqV1FinishedC tag.bytes) := fun tag ↦
    encode_eq_some_iff.mpr ⟨knownApp_v11, validPayload_block tag (by decide) (by decide), rfl⟩
  simp only [FullHandshake.finishC, hprofile, hdomain, hne, Bool.false_eq_true, if_false,
    encodeFull_v11, hencode, Option.bind_eq_bind, Option.bind_some, Option.pure_def]
  exact guard_bind_of ⟨rfl, trivial⟩ _

/-- The v1.1 session after `finish_p`. -/
def smpSecure (crypto : Crypto) (inputs : FullInputs) (ticket : Resumption.Python.Ticket) :
    FullHandshake :=
  let handshake := smpHandshake crypto Resumption.pqResumeV11 inputs
  let app := cp3Application crypto Resumption.pqResumeV11 handshake
  { (smpWaiting crypto inputs).clearHandshake with
    appC2p := app.c2p, appP2c := app.p2c, ticket := some ticket, state := .appSecure }

/-- `finish_p` accepts one frame. -/
theorem finishP_v11_iff {raw : Bytes} {peer : Block 7} {now : ℚ} {secure : FullHandshake} :
    (smpWaiting crypto inputs).finishP crypto onCurve raw peer now = some secure ↔
      raw = (smpOutputs crypto Resumption.pqResumeV11 inputs).finishedP ∧
        ∃ ticket, issueTicket crypto Resumption.pqResumeV11 peer
            (smpHandshake crypto Resumption.pqResumeV11 inputs).prk
            (cp3Th2 crypto Resumption.pqResumeV11 (smpHandshake crypto Resumption.pqResumeV11 inputs))
            now = some ticket ∧
          secure = smpSecure crypto inputs ticket := by
  have hprofile : (smpWaiting crypto inputs).profile = Resumption.pqResumeV11 := rfl
  have hstate : (smpWaiting crypto inputs).state = .waitFinishedP := rfl
  have hdomain : Resumption.domain Resumption.pqResumeV11 =
      some (Resumption.domainName Resumption.pqResumeV11) := rfl
  have hne : decide (Resumption.pqResumeV11 = Resumption.pqResumeV08) = false := by decide
  have hframe : (smpOutputs crypto Resumption.pqResumeV11 inputs).finishedP =
      v1Frame Resumption.pqResumeV11 pqV1FinishedP (verifyData crypto (smpWaiting crypto inputs).confirmP
        (Resumption.domainName Resumption.pqResumeV11 ++ ascii "/VERIFY-P")
        (smpWaiting crypto inputs).th).bytes := rfl
  simp only [FullHandshake.finishP, hprofile, hstate, hdomain, hne, Bool.false_eq_true, if_false,
    parseFull_v11, parse_eq_some_iff, Option.bind_eq_bind, Option.bind_eq_some_iff, Prod.exists,
    Option.guard_eq_some', exists_and_left, exists_const, Option.pure_def, Option.some.injEq,
    exists_eq_left']
  constructor
  · rintro ⟨-, subtype, payload, ⟨-, hvalid, rfl⟩, rfl, rfl, ticket, hticket, rfl⟩
    exact ⟨rfl, ticket, hticket, rfl⟩
  · rintro ⟨rfl, ticket, hticket, rfl⟩
    refine ⟨trivial, _, _, ⟨knownApp_v11, ?_, hframe⟩, rfl, rfl, ticket, hticket, rfl⟩
    exact validPayload_block _ (by decide) (by decide)

/-- The frame with which the firmware of a v1.x profile answers START. -/
def smpReady (crypto : Crypto) (version : UInt8) (inputs : FullInputs) : Bytes :=
  v1Frame version pqV1ReadyCp3 (smpOutputs crypto version inputs).th0.bytes

theorem issueTicket_v11 (crypto : Crypto) (inputs : FullInputs) (peer : Block 7) (now : ℚ) :
    ∃ ticket rid, issueTicket crypto Resumption.pqResumeV11 peer
        (smpHandshake crypto Resumption.pqResumeV11 inputs).prk
        (cp3Th2 crypto Resumption.pqResumeV11 (smpHandshake crypto Resumption.pqResumeV11 inputs)) now =
          some ticket ∧
      requireSize 16 ticket.rid = some rid ∧
        some ticket.root = (smpOutputs crypto Resumption.pqResumeV11 inputs).root ∧
          some rid = (smpOutputs crypto Resumption.pqResumeV11 inputs).rid := by
  have hissue := @issueTicket_eq crypto Resumption.pqResumeV11 (.inr rfl) peer
    (smpHandshake crypto Resumption.pqResumeV11 inputs).prk
    (cp3Th2 crypto Resumption.pqResumeV11 (smpHandshake crypto Resumption.pqResumeV11 inputs)) now
  exact ⟨_, _, hissue, requireSize_block _, rfl, rfl⟩

/-- The v1.1 Central sends the expected FINISHED_C on a strict SEC_INFO, and accepts the expected
FINISHED_P and no other. -/
theorem fullCentral_v11_eq_some {peer : Block 7} {now : ℚ} {ready finishedC : Bytes}
    {accept : Bytes → Option FullOutputs}
    (h : fullCentral crypto onCurve inputs Resumption.pqResumeV11 peer now ready =
      some (finishedC, accept)) :
    inputs.sec = strictSec Resumption.pqResumeV11 ∧
      finishedC = (smpOutputs crypto Resumption.pqResumeV11 inputs).finishedC ∧
        ∀ received value, accept received = some value →
          received = (smpOutputs crypto Resumption.pqResumeV11 inputs).finishedP ∧
            value = smpOutputs crypto Resumption.pqResumeV11 inputs := by
  have hne : Resumption.pqResumeV11 ≠ Resumption.pqResumeV08 := by decide
  simp only [fullCentral, Option.bind_eq_bind, Option.bind_eq_some_iff, if_neg hne, Option.pure_def,
    Option.some.injEq, Prod.mk.injEq] at h
  obtain ⟨session, hbegin, sas, hsas, ⟨wire, waiting⟩, hfinishC, rfl, rfl⟩ := h
  obtain ⟨hsec, rfl⟩ := begin_v11 hbegin
  obtain ⟨⟨subtype, payload⟩, -, -, -, rfl⟩ := hsas
  rw [finishC_v11, Option.some.injEq, Prod.mk.injEq] at hfinishC
  obtain ⟨rfl, rfl⟩ := hfinishC
  refine ⟨hsec, rfl, fun received value hvalue ↦ ?_⟩
  simp only [Option.bind_eq_some_iff, Option.some.injEq] at hvalue
  obtain ⟨secure, hsecure, ticket, hticket, rid, hrid, rfl⟩ := hvalue
  obtain ⟨rfl, ticket', hissue, rfl⟩ := finishP_v11_iff.mp hsecure
  cases hticket
  obtain ⟨ticket', rid', hissue', hrid', hroot, hid⟩ := issueTicket_v11 crypto inputs peer now
  obtain rfl := Option.some.inj (hissue.symm.trans hissue')
  obtain rfl := Option.some.inj (hrid.symm.trans hrid')
  refine ⟨rfl, ?_⟩
  have hiv : ∀ key direction, IsApp direction → deriveIvBase crypto Resumption.pqResumeV11 key
      (smpSecure crypto inputs ticket).sessionId direction =
        some (cp4IvBase crypto Resumption.pqResumeV11 key inputs.sid direction) := fun key direction happ ↦
    deriveIvBase_eq knownApp_v11 happ key inputs.sid
  rw [hroot, hid, hiv _ _ (.inl rfl), hiv _ _ (.inr rfl)]
  rfl

theorem fullCentral_v11_ok (h : inputs.sec = strictSec Resumption.pqResumeV11) (peer : Block 7)
    (now : ℚ) :
    ∃ accept, fullCentral crypto onCurve inputs Resumption.pqResumeV11 peer now
        (smpReady crypto Resumption.pqResumeV11 inputs) =
          some ((smpOutputs crypto Resumption.pqResumeV11 inputs).finishedC, accept) ∧
      ∃ value, accept (smpOutputs crypto Resumption.pqResumeV11 inputs).finishedP = some value := by
  have hne : Resumption.pqResumeV11 ≠ Resumption.pqResumeV08 := by decide
  have hready : parse Resumption.pqResumeV11 (smpReady crypto Resumption.pqResumeV11 inputs) =
      some (pqV1ReadyCp3, (smpSession crypto inputs).th.bytes) :=
    parse_v1Frame knownApp_v11 (validPayload_block _ (by decide) (by decide))
  obtain ⟨ticket, rid, hissue, hrid, -, -⟩ := issueTicket_v11 crypto inputs peer now
  have hsecure := (@finishP_v11_iff crypto onCurve inputs _ peer now _).mpr
    ⟨rfl, ticket, hissue, rfl⟩
  have hticket : (smpSecure crypto inputs ticket).ticket = some ticket := rfl
  simp only [fullCentral, begin_v11_ok h, if_neg hne, parseFull_v11, hready, finishC_v11,
    Option.bind_eq_bind, Option.bind_some, Option.pure_def]
  rw [guard_bind_of ⟨trivial, trivial⟩]
  refine ⟨_, rfl, ?_⟩
  simp only [hsecure, hticket, hrid, Option.bind_some, Option.some.injEq, exists_eq']

/-! ### v1.0 -/

/-- The labels of `v1_cp3.py` are those of the firmware. -/
theorem v1Label_eq {suffix slashed : String}
    (h : (suffix, slashed) ∈ [("CP3-TRANSCRIPT", "/CP3-TRANSCRIPT"), ("FINISHED-C", "/FINISHED-C"),
      ("FINISHED-P", "/FINISHED-P"), ("VERIFY-C", "/VERIFY-C"), ("VERIFY-P", "/VERIFY-P"),
      ("APP-C2P", "/APP-C2P"), ("APP-P2C", "/APP-P2C")]) :
    v1Label suffix = appDomain pqV10 ++ ascii slashed := by
  simp only [List.mem_cons, Prod.mk.injEq, List.not_mem_nil, or_false] at h
  rcases h with ⟨rfl, rfl⟩ | ⟨rfl, rfl⟩ | ⟨rfl, rfl⟩ | ⟨rfl, rfl⟩ | ⟨rfl, rfl⟩ | ⟨rfl, rfl⟩ | ⟨rfl, rfl⟩ <;>
    decide

theorem isAuthenticatedLevel4_iff {info : SecurityInfo} :
    isAuthenticatedLevel4 info = true ↔ info = ⟨4, true, true, true, 16, 0x10⟩ := by
  obtain ⟨level, secureConnections, authenticated, gateOpen, encKeySize, profile⟩ := info
  simp [isAuthenticatedLevel4, and_assoc]

/-- The v1.0 session with given secrets after `begin`. -/
def v10Session (handshake : V1Handshake) (sid : Bytes) : CentralHandshake where
  th := handshake.th0
  prk := handshake.prk
  finishedC := handshake.finishedC
  finishedP := handshake.finishedP
  sessionId := sid
  state := .waitReadyCp3

theorem buildTranscript_eq_some {sec pk ct start transcript : Bytes}
    (h : buildTranscript sec pk ct start = some transcript) :
    transcript = cp3Transcript pqV10 sec pk ct start ∧
      ∃ info, parseSecInfo sec = some info ∧ encodeSecInfo info = some sec := by
  simp only [buildTranscript, Option.bind_eq_bind, Option.bind_eq_some_iff, Option.guard_eq_some',
    Prod.exists, exists_and_left, exists_const, Option.pure_def, Option.some.injEq] at h
  obtain ⟨info, hinfo, encoded, hencoded, rfl, -, -, -, -, -, rfl⟩ := h
  refine ⟨?_, info, hinfo, hencoded⟩
  rw [@v1Label_eq "CP3-TRANSCRIPT" "/CP3-TRANSCRIPT" (by decide)]
  rfl

/-- `begin` accepts one SEC_INFO. -/
theorem begin_v10_iff {session : CentralHandshake} :
    CentralHandshake.begin crypto {} inputs.ss.bytes inputs.sec inputs.pk.bytes inputs.ct.bytes
        (v1Frame pqV10 pqV1StartCp3 inputs.sid.bytes) = some session ↔
      inputs.sec = strictSec pqV10 ∧
        session = v10Session (smpHandshake crypto pqV10 inputs) inputs.sid.bytes := by
  have hstart : parseV1Frame (v1Frame pqV10 pqV1StartCp3 inputs.sid.bytes) =
      some (pqV1StartCp3, inputs.sid.bytes) :=
    parseV1Frame_eq_some_iff.mpr ⟨validPayload_block _ (by decide) (by decide), rfl⟩
  have hc := @v1Label_eq "FINISHED-C" "/FINISHED-C" (by decide)
  have hp := @v1Label_eq "FINISHED-P" "/FINISHED-P" (by decide)
  constructor
  · intro h
    simp only [CentralHandshake.begin, hstart, transcriptHash, extract, requireSize_block,
      Option.bind_eq_bind, Option.bind_eq_some_iff, Option.guard_eq_some', exists_and_left,
      exists_const, Option.map_eq_some_iff, Option.pure_def, Option.some.injEq, exists_eq_left'] at h
    obtain ⟨-, info, hinfo, hlevel, th, ⟨transcript, htranscript, rfl⟩, rfl⟩ := h
    obtain ⟨rfl, info', hinfo', hencode⟩ := buildTranscript_eq_some htranscript
    obtain rfl := Option.some.inj (hinfo'.symm.trans hinfo)
    obtain rfl := isAuthenticatedLevel4_iff.mp hlevel
    have hsec : inputs.sec = strictSec pqV10 := by
      rw [(encodeV1Frame_eq_some_iff.mp hencode).2]
      decide
    refine ⟨hsec, ?_⟩
    rw [hc, hp]
    rfl
  · rintro ⟨hsec, rfl⟩
    have hinfo : parseSecInfo inputs.sec = some ⟨4, true, true, true, 16, 0x10⟩ := by
      rw [hsec]
      decide
    have hencode : encodeSecInfo ⟨4, true, true, true, 16, 0x10⟩ = some inputs.sec := by
      rw [hsec]
      decide
    have htranscript : buildTranscript inputs.sec inputs.pk.bytes inputs.ct.bytes
        (v1Frame pqV10 pqV1StartCp3 inputs.sid.bytes) = some (cp3Transcript pqV10 inputs.sec
          inputs.pk.bytes inputs.ct.bytes (v1Frame pqV10 pqV1StartCp3 inputs.sid.bytes)) := by
      simp only [buildTranscript, hinfo, hencode, hstart, Option.bind_eq_bind, Option.bind_some]
      rw [guard_bind_of trivial, guard_bind_of ⟨inputs.pk.length_bytes, inputs.ct.length_bytes⟩,
        guard_bind_of trivial, @v1Label_eq "CP3-TRANSCRIPT" "/CP3-TRANSCRIPT" (by decide)]
      rfl
    simp only [CentralHandshake.begin, hinfo, hstart, transcriptHash, htranscript, extract,
      requireSize_block, Option.map_some, Option.bind_eq_bind, Option.bind_some, Option.pure_def]
    rw [guard_bind_of trivial, guard_bind_of (isAuthenticatedLevel4_iff.mpr rfl), hc, hp]
    rfl

/-- `chain` of the Central on a FINISHED frame. -/
theorem chain_eq {subtype : UInt8} (h : subtype = pqV1FinishedC ∨ subtype = pqV1FinishedP)
    (th tag : Block 32) : chain crypto th (v1Frame pqV10 subtype tag.bytes) =
      some (crypto.hash (th.bytes ++ v1Frame pqV10 subtype tag.bytes)) := by
  have hvalid : ValidPayload subtype tag.bytes := by
    rcases h with rfl | rfl <;> exact validPayload_block tag (by decide) (by decide)
  have hparse := parseV1Frame_eq_some_iff.mpr ⟨hvalid, rfl⟩
  simp only [chain, hparse, Option.bind_eq_bind, Option.bind_some]
  exact guard_bind_of h _

section Session

variable (crypto : Crypto) (handshake : V1Handshake) (sid : Bytes)

theorem chain_cp3FinishedC : chain crypto handshake.th0 (cp3FinishedC crypto pqV10 handshake) =
    some (cp3Th1 crypto pqV10 handshake) := chain_eq (.inl rfl) _ _

theorem chain_cp3FinishedP :
    chain crypto (cp3Th1 crypto pqV10 handshake) (cp3FinishedP crypto pqV10 handshake) =
      some (cp3Th2 crypto pqV10 handshake) := chain_eq (.inr rfl) _ _

/-- The v1.0 session after `accept_ready`. -/
def v10Waiting : CentralHandshake :=
  { v10Session handshake sid with th := cp3Th1 crypto pqV10 handshake, state := .waitFinishedP }

/-- The v1.0 session after `accept_finished_p`. -/
def v10Secure : CentralHandshake :=
  { (v10Waiting crypto handshake sid).clearHandshake with
    appC2p := (cp3Application crypto pqV10 handshake).c2p
    appP2c := (cp3Application crypto pqV10 handshake).p2c
    state := .appSecure }

end Session

/-- `accept_ready` accepts one frame. -/
theorem acceptReady_v10_iff {handshake : V1Handshake} {sid raw wire : Bytes}
    {waiting : CentralHandshake} :
    (v10Session handshake sid).acceptReady crypto raw = some (wire, waiting) ↔
      raw = v1Frame pqV10 pqV1ReadyCp3 handshake.th0.bytes ∧
        wire = cp3FinishedC crypto pqV10 handshake ∧ waiting = v10Waiting crypto handshake sid := by
  have hlabel := @v1Label_eq "VERIFY-C" "/VERIFY-C" (by decide)
  have hencode : encodeV1Frame pqV1FinishedC (verifyData crypto handshake.finishedC
      (appDomain pqV10 ++ ascii "/VERIFY-C") handshake.th0).bytes =
        some (cp3FinishedC crypto pqV10 handshake) :=
    encodeV1Frame_eq_some_iff.mpr ⟨validPayload_block _ (by decide) (by decide), rfl⟩
  simp only [CentralHandshake.acceptReady, v10Session, hlabel, hencode, chain_cp3FinishedC,
    Option.bind_eq_bind, Option.bind_some, Option.bind_eq_some_iff, parseV1Frame_eq_some_iff,
    Prod.exists, Option.guard_eq_some', exists_and_left, exists_const, Option.pure_def,
    Option.some.injEq, Prod.mk.injEq]
  constructor
  · rintro ⟨subtype, payload, ⟨-, rfl⟩, ⟨-, rfl, rfl⟩, rfl, rfl⟩
    exact ⟨rfl, rfl, rfl⟩
  · rintro ⟨rfl, rfl, rfl⟩
    refine ⟨_, _, ⟨?_, rfl⟩, ⟨trivial, rfl, rfl⟩, rfl, rfl⟩
    exact validPayload_block _ (by decide) (by decide)

/-- `accept_finished_p` accepts one frame. -/
theorem acceptFinishedP_v10_iff {handshake : V1Handshake} {sid raw : Bytes}
    {secure : CentralHandshake} :
    (v10Waiting crypto handshake sid).acceptFinishedP crypto raw = some secure ↔
      raw = cp3FinishedP crypto pqV10 handshake ∧ secure = v10Secure crypto handshake sid := by
  have hlabel := @v1Label_eq "VERIFY-P" "/VERIFY-P" (by decide)
  have hc := @v1Label_eq "APP-C2P" "/APP-C2P" (by decide)
  have hp := @v1Label_eq "APP-P2C" "/APP-P2C" (by decide)
  have hwire : v1Frame pqV10 pqV1FinishedP (verifyData crypto handshake.finishedP
      (appDomain pqV10 ++ ascii "/VERIFY-P") (cp3Th1 crypto pqV10 handshake)).bytes =
        cp3FinishedP crypto pqV10 handshake := rfl
  simp only [CentralHandshake.acceptFinishedP, v10Waiting, v10Session, hlabel, hc, hp,
    Option.bind_eq_bind, Option.bind_eq_some_iff, parseV1Frame_eq_some_iff, Prod.exists,
    Option.guard_eq_some', exists_and_left, exists_const, Option.pure_def, Option.some.injEq]
  constructor
  · rintro ⟨subtype, payload, ⟨-, rfl⟩, ⟨-, rfl⟩, rfl, th, hth, rfl⟩
    rw [hwire, chain_cp3FinishedP, Option.some.injEq] at hth
    subst hth
    exact ⟨hwire, rfl⟩
  · rintro ⟨rfl, rfl⟩
    refine ⟨_, _, ⟨?_, hwire.symm⟩, ⟨trivial, rfl⟩, rfl, _, chain_cp3FinishedP crypto handshake, rfl⟩
    exact validPayload_block _ (by decide) (by decide)

theorem encode_start (sid : Block 16) :
    encodeV1Frame pqV1StartCp3 sid.bytes = some (v1Frame pqV10 pqV1StartCp3 sid.bytes) :=
  encodeV1Frame_eq_some_iff.mpr ⟨validPayload_block _ (by decide) (by decide), rfl⟩

theorem smpCentral_eq_some {ready finishedC : Bytes} {accept : Bytes → Option FullOutputs}
    (h : smpCentral crypto inputs ready = some (finishedC, accept)) :
    inputs.sec = strictSec pqV10 ∧ finishedC = (smpOutputs crypto pqV10 inputs).finishedC ∧
      ∀ received value, accept received = some value →
        received = (smpOutputs crypto pqV10 inputs).finishedP ∧
          value = smpOutputs crypto pqV10 inputs := by
  simp only [smpCentral, encode_start, Option.bind_eq_bind, Option.bind_some, Option.bind_eq_some_iff,
    begin_v10_iff, Prod.exists, Option.pure_def, Option.some.injEq, Prod.mk.injEq] at h
  obtain ⟨session, ⟨hsec, rfl⟩, wire, waiting, hready, rfl, rfl⟩ := h
  obtain ⟨rfl, rfl, rfl⟩ := acceptReady_v10_iff.mp hready
  refine ⟨hsec, rfl, fun received value hvalue ↦ ?_⟩
  simp only [Option.bind_eq_some_iff, acceptFinishedP_v10_iff, Option.some.injEq] at hvalue
  obtain ⟨secure, ⟨rfl, rfl⟩, rfl⟩ := hvalue
  have hiv : ∀ key direction, IsApp direction → deriveIvBase crypto pqV10 key
      (v10Secure crypto (smpHandshake crypto pqV10 inputs) inputs.sid.bytes).sessionId direction =
        some (cp4IvBase crypto pqV10 key inputs.sid direction) := fun key direction happ ↦
    deriveIvBase_eq (.inl rfl) happ key inputs.sid
  rw [hiv _ _ (.inl rfl), hiv _ _ (.inr rfl)]
  exact ⟨rfl, rfl⟩

theorem smpCentral_ok (h : inputs.sec = strictSec pqV10) :
    ∃ accept, smpCentral crypto inputs (smpReady crypto pqV10 inputs) =
        some ((smpOutputs crypto pqV10 inputs).finishedC, accept) ∧
      ∃ value, accept (smpOutputs crypto pqV10 inputs).finishedP = some value := by
  have hbegin := (@begin_v10_iff crypto inputs _).mpr ⟨h, rfl⟩
  have hready := (@acceptReady_v10_iff crypto (smpHandshake crypto pqV10 inputs) inputs.sid.bytes
    (smpReady crypto pqV10 inputs) _ _).mpr ⟨rfl, rfl, rfl⟩
  have hsecure := (@acceptFinishedP_v10_iff crypto (smpHandshake crypto pqV10 inputs) inputs.sid.bytes
    (smpOutputs crypto pqV10 inputs).finishedP _).mpr ⟨rfl, rfl⟩
  simp only [smpCentral, encode_start, hbegin, hready, Option.bind_eq_bind, Option.bind_some,
    Option.pure_def]
  refine ⟨_, rfl, ?_⟩
  simp only [hsecure, Option.bind_some, Option.some.injEq, exists_eq']

/-- The flags byte that `encode_sec_info` writes for the flags that `parse_sec_info` read. -/
def canonicalFlags (flags : UInt8) : UInt8 :=
  (if flags &&& 0x01 ≠ 0 then 0x01 else 0) ||| (if flags &&& 0x02 ≠ 0 then 0x02 else 0) |||
    (if flags &&& 0x04 ≠ 0 then 0x04 else 0)

theorem canonicalFlags_eq_iff (flags : UInt8) : canonicalFlags flags = flags ↔ flags &&& ~~~7 = 0 := by
  have hall : ∀ n : Fin 256, canonicalFlags (UInt8.ofFin n) = UInt8.ofFin n ↔
      UInt8.ofFin n &&& ~~~7 = 0 := by decide +kernel
  simpa using hall flags.toFin

theorem encodeSecInfo_parseSecInfo {sec : Bytes} :
    (∃ info, parseSecInfo sec = some info ∧ encodeSecInfo info = some sec) ↔
      ∃ payload, ValidPayload pqV1SecInfo payload ∧ payload.getD 1 0 &&& ~~~7 = 0 ∧
        sec = v1Frame pqV10 pqV1SecInfo payload := by
  have hpayload : ∀ payload, ValidPayload pqV1SecInfo payload →
      ∃ b0 b1 b2 b3, payload = [b0, b1, b2, b3] := by
    intro payload hvalid
    have hlength : payload.length = 4 :=
      (Option.some.inj ((payloadSizeValid_iff (by decide)).mp hvalid.size)).symm
    match payload, hlength with
    | [b0, b1, b2, b3], _ => exact ⟨b0, b1, b2, b3, rfl⟩
  have hencode : ∀ b0 b1 b2 b3 : UInt8,
      encodeSecInfo ⟨b0, b1 &&& 0x01 ≠ 0, b1 &&& 0x02 ≠ 0, b1 &&& 0x04 ≠ 0, b2, b3⟩ =
        some (v1Frame pqV10 pqV1SecInfo [b0, canonicalFlags b1, b2, b3]) := by
    intro b0 b1 b2 b3
    simp only [encodeSecInfo, decide_eq_true_eq]
    exact encodeV1Frame_eq_some_iff.mpr ⟨validPayload_secInfo _ _ _ _, rfl⟩
  constructor
  · rintro ⟨info, hinfo, hsec⟩
    simp only [parseSecInfo, Option.bind_eq_bind, Option.bind_eq_some_iff, Prod.exists,
      Option.guard_eq_some', exists_and_left, exists_const, parseV1Frame_eq_some_iff, Option.pure_def,
      Option.some.injEq] at hinfo
    obtain ⟨subtype, payload, ⟨hvalid, rfl⟩, rfl, rfl⟩ := hinfo
    obtain ⟨b0, b1, b2, b3, rfl⟩ := hpayload payload hvalid
    refine ⟨_, hvalid, ?_, rfl⟩
    have hframe := Option.some.inj ((hencode b0 b1 b2 b3).symm.trans hsec)
    obtain ⟨-, -, hbytes⟩ := v1Frame_inj.mp hframe
    simp only [List.cons.injEq, and_true, true_and] at hbytes
    exact (canonicalFlags_eq_iff b1).mp hbytes
  · rintro ⟨payload, hvalid, hflags, rfl⟩
    obtain ⟨b0, b1, b2, b3, rfl⟩ := hpayload payload hvalid
    refine ⟨⟨b0, b1 &&& 0x01 ≠ 0, b1 &&& 0x02 ≠ 0, b1 &&& 0x04 ≠ 0, b2, b3⟩, ?_, ?_⟩
    · simp only [parseSecInfo, parseV1Frame_eq_some_iff.mpr ⟨hvalid, rfl⟩, Option.bind_eq_bind,
        Option.bind_some]
      exact guard_bind_of trivial _
    · rw [hencode, (canonicalFlags_eq_iff b1).mpr hflags]

/-- Both v1.0 transcript functions accept the same frames and hash them alike. -/
theorem transcriptHash_eq (sec pk ct start : Bytes) :
    pqV1Cp3Transcript crypto {} pqV10 sec pk ct start = transcriptHash crypto sec pk ct start := by
  refine Option.ext fun th ↦ ?_
  have hhash : pqCryptoHashParts crypto {}
      [appDomain pqV10 ++ ascii "/CP3-TRANSCRIPT", sec, pk, ct, start] =
        some (crypto.hash (cp3Transcript pqV10 sec pk ct start)) := by
    rw [pqCryptoHashParts_ok]
    simp [cp3Transcript]
  have hlabel := @v1Label_eq "CP3-TRANSCRIPT" "/CP3-TRANSCRIPT" (by decide)
  simp only [pqV1Cp3Transcript, hhash, Option.bind_eq_bind, Option.bind_eq_some_iff, Option.guard_eq_some',
    Prod.exists, exists_and_left, exists_const, toOption_pqV1ParseFrame_eq_some_iff, Option.some.injEq,
    transcriptHash, buildTranscript, Option.map_eq_some_iff, parseV1Frame_eq_some_iff, Option.pure_def,
    hlabel]
  constructor
  · rintro ⟨hsizes, subtype, payload, ⟨hvalid, rfl⟩, ⟨rfl, hflags⟩, subtype', payload', hstart, rfl, rfl⟩
    obtain ⟨info, hinfo, hencode⟩ := encodeSecInfo_parseSecInfo.mpr ⟨payload, hvalid, hflags, rfl⟩
    exact ⟨_, ⟨info, hinfo, _, hencode, rfl, hsizes, _, payload', hstart, rfl, rfl⟩, rfl⟩
  · rintro ⟨_, ⟨info, hinfo, encoded, hencode, rfl, hsizes, subtype, payload', hstart, rfl, rfl⟩, rfl⟩
    obtain ⟨payload, hvalid, hflags, hsec⟩ := encodeSecInfo_parseSecInfo.mp ⟨info, hinfo, hencode⟩
    exact ⟨hsizes, _, payload, ⟨hvalid, hsec⟩, ⟨rfl, hflags⟩, _, payload', hstart, rfl, rfl⟩

end Smp

end Python

/-! ## Interoperability -/

/-- The full handshakes of all four profiles interoperate. -/
structure FullInteroperability (crypto : Crypto) (onCurve : Bytes → Bool) : Prop where
  v07 : ∀ inputs, Interoperate True (hybridFirmware crypto inputs pqV07)
    fun _ ↦ Python.phase7Central crypto onCurve inputs
  v08 : ∀ inputs peer now, Interoperate True (hybridFirmware crypto inputs Resumption.pqResumeV08)
    (Python.fullCentral crypto onCurve inputs Resumption.pqResumeV08 peer now)
  v10 : ∀ inputs, Interoperate (inputs.sec = strictSec pqV10) (smpFirmware crypto inputs pqV10)
    (Python.smpCentral crypto inputs)
  v11 : ∀ inputs peer now, Interoperate (inputs.sec = strictSec Resumption.pqResumeV11)
    (smpFirmware crypto inputs Resumption.pqResumeV11)
    (Python.fullCentral crypto onCurve inputs Resumption.pqResumeV11 peer now)
  transcript : ∀ sec pk ct start, pqV1Cp3Transcript crypto {} pqV10 sec pk ct start =
    Python.transcriptHash crypto sec pk ct start
  sas : ∀ mac : Bytes, sasRemainder mac = ofBigEndian mac % 1000000

theorem v10_interoperate (crypto : Crypto) (inputs : FullInputs) :
    Interoperate (inputs.sec = strictSec pqV10) (smpFirmware crypto inputs pqV10)
      (Python.smpCentral crypto inputs) := by
  refine .of_outputs (smpOutputs crypto pqV10 inputs) (fun hsec ↦ ?_) ?_ ?_
  · obtain ⟨answer, hstart, hanswer⟩ := @smpFirmware_ok crypto _ inputs (.inl rfl) hsec
    obtain ⟨accept, hcentral, value, hvalue⟩ := @Python.smpCentral_ok crypto inputs hsec
    obtain rfl := ((Python.smpCentral_eq_some hcentral).2.2 _ _ hvalue).2
    exact ⟨_, answer, hstart, hanswer, accept, hcentral, hvalue⟩
  · exact fun faults ready answer received value hstart hanswer ↦ smpFirmware_answers hstart hanswer
  · exact fun ready finishedC accept h ↦ Python.smpCentral_eq_some h

theorem v11_interoperate (crypto : Crypto) (onCurve : Bytes → Bool) (inputs : FullInputs)
    (peer : Block 7) (now : ℚ) :
    Interoperate (inputs.sec = strictSec Resumption.pqResumeV11)
      (smpFirmware crypto inputs Resumption.pqResumeV11)
      (Python.fullCentral crypto onCurve inputs Resumption.pqResumeV11 peer now) := by
  refine .of_outputs (smpOutputs crypto Resumption.pqResumeV11 inputs) (fun hsec ↦ ?_) ?_ ?_
  · obtain ⟨answer, hstart, hanswer⟩ := @smpFirmware_ok crypto _ inputs (.inr rfl) hsec
    obtain ⟨accept, hcentral, value, hvalue⟩ :=
      @Python.fullCentral_v11_ok crypto onCurve inputs hsec peer now
    obtain rfl := ((Python.fullCentral_v11_eq_some hcentral).2.2 _ _ hvalue).2
    exact ⟨_, answer, hstart, hanswer, accept, hcentral, hvalue⟩
  · exact fun faults ready answer received value hstart hanswer ↦ smpFirmware_answers hstart hanswer
  · exact fun ready finishedC accept h ↦ Python.fullCentral_v11_eq_some h

theorem v07_interoperate (crypto : Crypto) (onCurve : Bytes → Bool) (inputs : FullInputs) :
    Interoperate True (hybridFirmware crypto inputs pqV07)
      (fun _ ↦ Python.phase7Central crypto onCurve inputs) := by
  obtain ⟨accept, hcentral, haccept, honly⟩ := Python.phase7Central_eq crypto onCurve inputs
  refine .of_outputs (hybridOutputs crypto pqV07 inputs) (fun _ ↦ ?_) ?_ ?_
  · obtain ⟨ready, answer, hstart, hanswer⟩ := hybridFirmware_ok crypto pqV07 inputs
    exact ⟨ready, answer, hstart, hanswer, accept, hcentral, haccept⟩
  · exact fun faults ready answer received value hstart hanswer ↦ hybridFirmware_answers hstart hanswer
  · intro ready finishedC accept' h
    obtain ⟨rfl, rfl⟩ := Prod.mk.inj (Option.some.inj (hcentral.symm.trans h))
    exact ⟨trivial, rfl, honly⟩

theorem v08_interoperate (crypto : Crypto) (onCurve : Bytes → Bool) (inputs : FullInputs)
    (peer : Block 7) (now : ℚ) :
    Interoperate True (hybridFirmware crypto inputs Resumption.pqResumeV08)
      (Python.fullCentral crypto onCurve inputs Resumption.pqResumeV08 peer now) := by
  have hcentral := Python.fullCentral_v08_eq crypto onCurve inputs peer now
  refine .of_outputs (hybridOutputs crypto Resumption.pqResumeV08 inputs) (fun _ ↦ ?_) ?_ ?_
  · obtain ⟨ready, answer, hstart, hanswer⟩ := hybridFirmware_ok crypto Resumption.pqResumeV08 inputs
    obtain ⟨accept, hsent, haccept, -⟩ := hcentral ready
    exact ⟨ready, answer, hstart, hanswer, accept, hsent, haccept⟩
  · exact fun faults ready answer received value hstart hanswer ↦ hybridFirmware_answers hstart hanswer
  · intro ready finishedC accept' h
    obtain ⟨accept, hsent, -, honly⟩ := hcentral ready
    obtain ⟨rfl, rfl⟩ := Prod.mk.inj (Option.some.inj (hsent.symm.trans h))
    exact ⟨trivial, rfl, honly⟩

/-- **Interoperability of the full handshakes**, for all four profiles and all inputs. -/
theorem full_handshake_interoperability (crypto : Crypto) (onCurve : Bytes → Bool) :
    FullInteroperability crypto onCurve where
  v07 := v07_interoperate crypto onCurve
  v08 := v08_interoperate crypto onCurve
  v10 := v10_interoperate crypto
  v11 := v11_interoperate crypto onCurve
  transcript := Python.transcriptHash_eq
  sas := sasRemainder_eq

end PqBleHandshake
