import PqBleHandshake.Foundation.Codec
import PqBleHandshake.Handshake.Interoperability
import PqBleHandshake.V1Codec

/-!
# The wire codecs of resumption and of the full handshake

`PQRS`, `PQS7` and `PQV1` frames share one layout: a magic, a version, a subtype, the length of the payload and
the payload.  Each codec of either program is canonical, and the magic and the version that a parser asks for
keep the formats apart.
-/

namespace PqBleHandshake

open Foundation

namespace Resumption

/-- The Python `parse`: the subtype and the payload. -/
def parseFrame (raw : Bytes) (profile : UInt8) (expected : Option UInt8) :
    Except Reason (UInt8 × Bytes) :=
  if domain profile = none then .error .profileMismatch
  else if raw.length < 8 ∨ raw.take 4 ≠ magic then .error .malformed
  else if raw.getD 4 0 ≠ profile then .error .profileMismatch
  else if (payloadSize (raw.getD 5 0)).all (fun size ↦
      raw.length ≠ 8 + size ∨ declaredLength raw ≠ size) ∨
      expected.any (fun subtype ↦ raw.getD 5 0 ≠ subtype) then
    .error .malformed
  else .ok (raw.getD 5 0, raw.drop 8)

/-- `parse` keeps the payload of a frame of the subtype that it expects. -/
theorem parse_eq_map (raw : Bytes) (profile expected : UInt8) :
    parse raw profile expected = (parseFrame raw profile (some expected)).map Prod.snd := by
  unfold parse parseFrame
  simp only [Option.any_some, decide_eq_true_eq]
  split_ifs <;> rfl

/-- **The Python parser accepts exactly what the C parser accepts**, up to the subtype it may expect. -/
theorem parseFrame_eq_ok_iff {raw payload : Bytes} {profile subtype : UInt8} {expected : Option UInt8} :
    parseFrame raw profile expected = .ok (subtype, payload) ↔
      pqResumeParse profile raw = some (subtype, payload) ∧ ∀ other ∈ expected, subtype = other := by
  unfold parseFrame pqResumeParse
  by_cases hdomain : KnownProfile profile
  swap
  · simp [hdomain]
  by_cases hlength : raw.length < 8
  · simp [hdomain, hlength]
  by_cases hmagic : raw.take 4 = magic
  swap
  · simp [hdomain, hmagic]
  by_cases hprofile : raw.getD 4 0 = profile
  swap
  · rw [if_neg (by simpa using hdomain), if_neg (by simp [hlength, hmagic]), if_pos hprofile,
      if_pos (by simp only [ne_eq, hprofile, not_false_eq_true, true_or, or_true])]
    simp
  rw [if_neg (by simpa using hdomain), if_neg (by simp [hlength, hmagic]), if_neg (not_not.mpr hprofile)]
  cases hsize : payloadSize (raw.getD 5 0) with
  | none => simp
  | some size =>
    have hboth : (raw.length ≠ 8 + size ∨ declaredLength raw ≠ raw.length - 8) ↔
        (raw.length ≠ 8 + size ∨ declaredLength raw ≠ size) := by omega
    simp only [Option.all_some, decide_eq_true_eq, hdomain, hlength, hmagic, hprofile,
      domain_eq_none_iff, not_true_eq_false, ne_eq, false_or, hboth]
    by_cases hsizes : raw.length ≠ 8 + size ∨ declaredLength raw ≠ size
    · simp [hsizes]
    cases expected with
    | none => simp [hsizes]
    | some other =>
      by_cases hother : raw.getD 5 0 = other
      · simp_all
      · simp_all
        rintro rfl _
        exact hother

/-- The messages of a profile that has resumption. -/
def ValidMessage (profile : UInt8) (message : UInt8 × Bytes) : Prop :=
  KnownProfile profile ∧ payloadSize message.1 = some message.2.length

theorem framed_pqResume (profile : UInt8) :
    Framed (ValidMessage profile) (fun message ↦ frame profile message.1 message.2)
      (fun message ↦ pqResumeEncode profile message.1 message.2) (pqResumeParse profile) where
  encoded {message capacity wire} h := by
    have hdefined := h
    unfold pqResumeEncode at hdefined
    split_ifs at hdefined with hbad
    simp only [not_or, not_not, not_lt, ne_eq, domain_eq_none_iff] at hbad
    obtain ⟨hdomain, hsize, -, hroom⟩ := hbad
    rw [pqResumeEncode_eq_some hdomain hsize hroom] at h
    exact ⟨⟨hdomain, hsize⟩, (Option.some.inj h).symm⟩
  encode_eq {message capacity} hvalid hroom := by
    rw [length_frame] at hroom
    exact pqResumeEncode_eq_some hvalid.1 hvalid.2 hroom
  parse_iff := pqResumeParse_eq_some_iff.trans and_assoc.symm

theorem framed_resumption (profile : UInt8) :
    Framed (ValidMessage profile) (fun message ↦ frame profile message.1 message.2)
      (fun message _ ↦ (encode profile message.1 message.2).toOption)
      (fun raw ↦ (parseFrame raw profile none).toOption) where
  encoded {message _ wire} h := by
    have hdefined := toOption_eq_some_iff.mp h
    unfold encode at hdefined
    split_ifs at hdefined with hdomain hsize
    rw [domain_eq_none_iff, not_not] at hdomain
    exact ⟨⟨hdomain, not_not.mp hsize⟩, (Except.ok.inj hdefined).symm⟩
  encode_eq hvalid _ := toOption_eq_some_iff.mpr (encode_eq_ok hvalid.1 hvalid.2)
  parse_iff := by
    intro message wire
    rw [toOption_eq_some_iff, parseFrame_eq_ok_iff, pqResumeParse_eq_some_iff, and_iff_left (by simp),
      ← and_assoc]
    rfl

end Resumption

/-! ## Hybrid frames -/

/-- The P-256 key inside a payload. -/
def embeddedPoint (subtype : UInt8) (payload : Bytes) : Option Bytes :=
  if subtype = pqPhase7Start7 ∨ subtype = pqPhase7Start7Auth then some (payload.drop 16)
  else if subtype = pqPhase7Ready7Cp2 ∨ subtype = pqPhase7Ready7Auth then some (payload.take 65)
  else none

/-- The embedded key, where there is one, is a point of the curve. -/
def OnCurve (onCurve : Bytes → Bool) (message : UInt8 × Bytes) : Prop :=
  ∀ point ∈ embeddedPoint message.1 message.2, onCurve point = true

theorem validatePhase7Payload_eq_some_iff {onCurve : Bytes → Bool} {subtype : UInt8} {payload : Bytes} :
    Python.validatePhase7Payload onCurve subtype payload = some () ↔
      validPhase7Payload subtype payload = true ∧ OnCurve onCurve (subtype, payload) := by
  unfold Python.validatePhase7Payload validPhase7Payload OnCurve embeddedPoint validSec1PublicKeyShape
  by_cases hstart : subtype = pqPhase7Start7 ∨ subtype = pqPhase7Start7Auth
  · simp [hstart, Option.guard_eq_some', and_assoc]
  by_cases hcp2 : subtype = pqPhase7Ready7Cp2
  · subst hcp2
    simp [hstart, Option.guard_eq_some', and_assoc]
  by_cases hready : subtype = pqPhase7Ready7Auth
  · subst hready
    rw [if_neg hstart, if_neg hstart, if_neg hstart, if_neg hcp2, if_neg hcp2, if_pos rfl, if_pos rfl,
      if_pos (.inr rfl)]
    have hwhole : payload.length = 65 → payload.take 65 = payload := fun h ↦
      List.take_of_length_le h.le
    simp only [Option.guard_eq_some', Option.mem_some_iff, forall_eq', Bool.and_eq_true, decide_eq_true_eq]
    constructor
    · rintro ⟨hlength, htake, hshape, hcurve⟩
      rw [hwhole hlength] at hshape hcurve ⊢
      exact ⟨⟨hlength, hlength, hshape⟩, hcurve⟩
    · rintro ⟨⟨hlength, -, hshape⟩, hcurve⟩
      rw [hwhole hlength] at hcurve ⊢
      exact ⟨hlength, hlength, hshape, hcurve⟩
  have hnone : ¬(subtype = pqPhase7Ready7Cp2 ∨ subtype = pqPhase7Ready7Auth) := not_or.mpr ⟨hcp2, hready⟩
  rw [if_neg hstart, if_neg hstart, if_neg hstart, if_neg hcp2, if_neg hcp2, if_neg hready, if_neg hready,
    if_neg hnone]
  simp only [Option.not_mem_none, false_implies, implies_true, and_true]
  by_cases hfinished : subtype = pqPhase7FinishedC ∨ subtype = pqPhase7FinishedP
  · simp only [if_pos hfinished, Option.guard_eq_some', decide_eq_true_eq]
  by_cases herror : subtype = pqPhase7Error
  · simp only [if_neg hfinished, if_pos herror, Option.guard_eq_some', decide_eq_true_eq]
  · simp only [if_neg hfinished, if_neg herror, reduceCtorEq]

theorem length_phase7Frame (version subtype : UInt8) (payload : Bytes) :
    (phase7Frame version subtype payload).length = 8 + payload.length := by
  simp only [phase7Frame, List.length_append, List.length_cons, List.length_nil, length_bigEndian,
    show phase7Magic.length = 4 from rfl]

/-- Valid payloads are short. -/
theorem validPhase7Payload_length_le {subtype : UInt8} {payload : Bytes}
    (h : validPhase7Payload subtype payload = true) : payload.length ≤ 97 := by
  unfold validPhase7Payload at h
  split_ifs at h <;> simp only [Bool.and_eq_true, decide_eq_true_eq] at h <;> omega

theorem declaredLength_phase7Frame (version subtype : UInt8) {payload : Bytes}
    (h : payload.length ≤ 97) :
    Resumption.declaredLength (phase7Frame version subtype payload) = payload.length := by
  have hvalue : ofBigEndian (bigEndian 2 payload.length) = payload.length :=
    ofBigEndian_bigEndian (by omega)
  have hbytes : bigEndian 2 payload.length = [(phase7Frame version subtype payload).getD 6 0,
      (phase7Frame version subtype payload).getD 7 0] := by
    rfl
  rw [hbytes] at hvalue
  simpa [ofBigEndian, Resumption.declaredLength] using hvalue

/-- **The C parser accepts exactly the frames of valid payloads.** -/
theorem pqPhase7ParseFrame_eq_ok_iff {version subtype : UInt8} {wire payload : Bytes} :
    pqPhase7ParseFrame version wire = .ok (subtype, payload) ↔
      validPhase7Payload subtype payload = true ∧ wire = phase7Frame version subtype payload := by
  constructor
  · exact pqPhase7ParseFrame_eq_ok
  · rintro ⟨hvalid, rfl⟩
    have hdeclared := declaredLength_phase7Frame version subtype (validPhase7Payload_length_le hvalid)
    have hlength := length_phase7Frame version subtype payload
    simp only [pqPhase7ParseFrame, except_bind_eq_ok_iff, require_eq_ok_iff, exists_and_left,
      exists_const]
    exact ⟨⟨by omega, rfl, rfl⟩, ⟨by omega, hvalid⟩, rfl⟩

/-- **The Python parser accepts the frames whose embedded key is a point of the curve.** -/
theorem parsePhase7Frame_eq_some_iff {onCurve : Bytes → Bool} {subtype : UInt8} {data payload : Bytes} :
    Python.parsePhase7Frame onCurve data = some (subtype, payload) ↔
      (validPhase7Payload subtype payload = true ∧ OnCurve onCurve (subtype, payload)) ∧
        data = phase7Frame pqV07 subtype payload := by
  rw [← validatePhase7Payload_eq_some_iff]
  constructor
  · exact parsePhase7Frame_eq_some
  · rintro ⟨hpayload, rfl⟩
    have hvalid := (validatePhase7Payload_eq_some_iff.mp hpayload).1
    have hdeclared := declaredLength_phase7Frame pqV07 subtype (validPhase7Payload_length_le hvalid)
    have hlength := length_phase7Frame pqV07 subtype payload
    simp only [Python.parsePhase7Frame, Option.bind_eq_bind, Option.bind_eq_some_iff,
      Option.guard_eq_some', exists_and_left, exists_const, Option.pure_def, Option.some.injEq]
    refine ⟨by omega, rfl, rfl, ?_, (), hpayload, rfl⟩
    rw [ofBigEndian_slice (by omega)]
    exact hlength.trans (congrArg (8 + ·) hdeclared.symm)

theorem encodePhase7Frame_eq_some_iff {onCurve : Bytes → Bool} {subtype : UInt8} {payload wire : Bytes} :
    Python.encodePhase7Frame onCurve subtype payload = some wire ↔
      (validPhase7Payload subtype payload = true ∧ OnCurve onCurve (subtype, payload)) ∧
        wire = phase7Frame pqV07 subtype payload := by
  rw [← validatePhase7Payload_eq_some_iff]
  simp only [Python.encodePhase7Frame, Option.bind_eq_bind, Option.bind_eq_some_iff, Option.pure_def,
    Option.some.injEq, exists_and_right]
  constructor
  · rintro ⟨⟨⟨⟩, hpayload⟩, rfl⟩
    exact ⟨hpayload, rfl⟩
  · rintro ⟨hpayload, rfl⟩
    exact ⟨⟨(), hpayload⟩, rfl⟩

/-- Changing the version byte of a frame. -/
theorem setVersion_phase7Frame (version version' subtype : UInt8) (payload : Bytes) :
    (phase7Frame version subtype payload).take 4 ++ [version'] ++
        (phase7Frame version subtype payload).drop 5 =
      phase7Frame version' subtype payload := by
  rfl

/-- The v0.8 encoder rewrites the version of a v0.7 frame. -/
theorem encodeFull_v08 {onCurve : Bytes → Bool} {subtype : UInt8} {payload wire : Bytes} :
    Python.encodeFull onCurve Resumption.pqResumeV08 subtype payload = some wire ↔
      (validPhase7Payload subtype payload = true ∧ OnCurve onCurve (subtype, payload)) ∧
        wire = phase7Frame Resumption.pqResumeV08 subtype payload := by
  have heq : Python.encodeFull onCurve Resumption.pqResumeV08 subtype payload = (do
      let raw ← Python.encodePhase7Frame onCurve subtype payload
      return raw.take 4 ++ [Resumption.pqResumeV08] ++ raw.drop 5) := by
    rfl
  simp only [heq, Option.bind_eq_bind, Option.bind_eq_some_iff, encodePhase7Frame_eq_some_iff,
    Option.pure_def, Option.some.injEq]
  constructor
  · rintro ⟨_, ⟨hvalid, rfl⟩, rfl⟩
    exact ⟨hvalid, rfl⟩
  · rintro ⟨hvalid, rfl⟩
    exact ⟨_, ⟨hvalid, rfl⟩, setVersion_phase7Frame _ _ _ _⟩

/-- The v0.8 parser reads a v0.7 frame under its own version byte. -/
theorem parseFull_v08 {onCurve : Bytes → Bool} {subtype : UInt8} {raw payload : Bytes} :
    Python.parseFull onCurve Resumption.pqResumeV08 raw = some (subtype, payload) ↔
      (validPhase7Payload subtype payload = true ∧ OnCurve onCurve (subtype, payload)) ∧
        raw = phase7Frame Resumption.pqResumeV08 subtype payload := by
  have heq : Python.parseFull onCurve Resumption.pqResumeV08 raw = (do
      guard (8 ≤ raw.length ∧ raw.getD 4 0 = Resumption.pqResumeV08)
      Python.parsePhase7Frame onCurve (raw.take 4 ++ [pqV07] ++ raw.drop 5)) := by
    rfl
  simp only [heq, Option.bind_eq_bind, Option.bind_eq_some_iff, Option.guard_eq_some',
    parsePhase7Frame_eq_some_iff, exists_and_left, exists_const]
  constructor
  · rintro ⟨⟨hlength, hversion⟩, hvalid, hframe⟩
    obtain ⟨b0, b1, b2, b3, b4, b5, b6, b7, rest, rfl⟩ := exists_header hlength
    obtain rfl : b4 = Resumption.pqResumeV08 := hversion
    refine ⟨hvalid, ?_⟩
    rw [← setVersion_phase7Frame pqV07, ← hframe]
    rfl
  · rintro ⟨hvalid, rfl⟩
    have hlength := length_phase7Frame Resumption.pqResumeV08 subtype payload
    exact ⟨⟨by omega, rfl⟩, hvalid, setVersion_phase7Frame _ _ _ _⟩

theorem framed_pqPhase7 (version : UInt8) :
    Framed (fun message ↦ validPhase7Payload message.1 message.2 = true)
      (fun message ↦ phase7Frame version message.1 message.2)
      (fun message capacity ↦ (pqPhase7EncodeFrame version message.1 message.2 capacity).toOption)
      (fun raw ↦ (pqPhase7ParseFrame version raw).toOption) where
  encoded {message capacity wire} h := by
    have hdefined := toOption_eq_some_iff.mp h
    simp only [pqPhase7EncodeFrame, except_bind_eq_ok_iff, require_eq_ok_iff, exists_and_left,
      exists_const] at hdefined
    obtain ⟨hvalid, -, hresult⟩ := hdefined
    exact ⟨hvalid, (Except.ok.inj hresult).symm⟩
  encode_eq {message capacity} hvalid hroom := by
    rw [length_phase7Frame] at hroom
    rw [pqPhase7EncodeFrame, require_bind_of hvalid, require_bind_of hroom]
    rfl
  parse_iff := toOption_eq_some_iff.trans pqPhase7ParseFrame_eq_ok_iff

theorem framed_full_v08 (onCurve : Bytes → Bool) :
    Framed (fun message ↦ validPhase7Payload message.1 message.2 = true ∧ OnCurve onCurve message)
      (fun message ↦ phase7Frame Resumption.pqResumeV08 message.1 message.2)
      (fun message _ ↦ Python.encodeFull onCurve Resumption.pqResumeV08 message.1 message.2)
      (Python.parseFull onCurve Resumption.pqResumeV08) where
  encoded h := encodeFull_v08.mp h
  encode_eq hvalid _ := encodeFull_v08.mpr ⟨hvalid, rfl⟩
  parse_iff := parseFull_v08

/-! ## v1.1 frames -/

theorem parseFull_v11 (onCurve : Bytes → Bool) :
    Python.parseFull onCurve Resumption.pqResumeV11 = Python.parse Resumption.pqResumeV11 := by
  rfl

theorem encodeFull_v11 (onCurve : Bytes → Bool) :
    Python.encodeFull onCurve Resumption.pqResumeV11 = Python.encode Resumption.pqResumeV11 := by
  rfl

theorem framed_pqV1 (version : UInt8) :
    Framed (fun message ↦ ValidPayload message.1 message.2)
      (fun message ↦ v1Frame version message.1 message.2)
      (fun message capacity ↦ (pqV1EncodeFrame version message.1 message.2 capacity).toOption)
      (fun raw ↦ (pqV1ParseFrame version raw).toOption) where
  encoded h := by
    obtain ⟨hvalid, -, hwire⟩ := pqV1EncodeFrame_eq_ok_iff.mp (toOption_eq_some_iff.mp h)
    exact ⟨hvalid, hwire⟩
  encode_eq hvalid hroom := by
    rw [length_v1Frame] at hroom
    exact toOption_eq_some_iff.mpr (pqV1EncodeFrame_eq_ok_iff.mpr ⟨hvalid, hroom, rfl⟩)
  parse_iff := toOption_eq_some_iff.trans pqV1ParseFrame_eq_ok_iff

theorem framed_full_v11 (onCurve : Bytes → Bool) :
    Framed (fun message ↦ ValidPayload message.1 message.2)
      (fun message ↦ v1Frame Resumption.pqResumeV11 message.1 message.2)
      (fun message _ ↦ Python.encodeFull onCurve Resumption.pqResumeV11 message.1 message.2)
      (Python.parseFull onCurve Resumption.pqResumeV11) where
  encoded h := by
    rw [encodeFull_v11] at h
    exact (Python.encode_eq_some_iff.mp h).2
  encode_eq hvalid _ := by
    rw [encodeFull_v11]
    exact Python.encode_eq_some_iff.mpr ⟨.inr (.inr rfl), hvalid, rfl⟩
  parse_iff := by
    intro message wire
    rw [parseFull_v11]
    exact Python.parse_eq_some_iff.trans (and_iff_right (.inr (.inr rfl)))

/-! ## The formats are disjoint -/

/-- The families that share the layout. -/
inductive Family
  | pqrs | pqs7 | pqv1
deriving DecidableEq, Repr

/-- The first four bytes of every frame of a family. -/
def Family.magic : Family → Bytes
  | .pqrs => Resumption.magic
  | .pqs7 => phase7Magic
  | .pqv1 => v1Magic

/-- A family and the version byte of one of its profiles. -/
structure Format where
  family : Family
  version : UInt8
deriving DecidableEq

/-- The frame of a format. -/
def Format.frame (format : Format) (message : UInt8 × Bytes) : Bytes :=
  format.family.magic ++ [format.version, message.1] ++ bigEndian 2 message.2.length ++ message.2

/-- **A frame determines its format and its message.** -/
theorem Format.frame_inj {format format' : Format} {message message' : UInt8 × Bytes}
    (h : format.frame message = format'.frame message') : format = format' ∧ message = message' := by
  simp only [Format.frame, List.append_assoc] at h
  have hmagics : ∀ family family' : Family, family.magic = family'.magic → family = family' := by
    intro family family' hmagic
    cases family <;> cases family' <;> first | rfl | exact absurd hmagic (by decide)
  have hlengths : ∀ family : Family, family.magic.length = 4 := by
    intro family
    cases family <;> rfl
  obtain ⟨hmagic, htail⟩ := List.append_inj h (by rw [hlengths, hlengths])
  simp only [List.cons_append, List.nil_append, List.cons.injEq] at htail
  obtain ⟨hversion, hsubtype, hrest⟩ := htail
  have hpayload := (List.append_inj hrest (by simp)).2
  obtain ⟨family, version⟩ := format
  obtain ⟨family', version'⟩ := format'
  cases hmagics _ _ hmagic
  cases hversion
  exact ⟨rfl, Prod.ext hsubtype hpayload⟩

/-- The frame parsers of both programs, with the version or the profile that they are called for. -/
inductive Parser
  | pqResumeParse (profile : UInt8)
  | resumptionParse (profile : UInt8) (expected : Option UInt8)
  | pqPhase7ParseFrame (version : UInt8)
  | parsePhase7Frame
  | pqV1ParseFrame (version : UInt8)
  | parseV1Frame
  | parseFull (profile : UInt8)
deriving DecidableEq

namespace Parser

/-- The message that a parser finds. -/
def run (onCurve : Bytes → Bool) (parser : Parser) (raw : Bytes) : Option (UInt8 × Bytes) :=
  match parser with
  | pqResumeParse profile => Resumption.pqResumeParse profile raw
  | resumptionParse profile expected => (Resumption.parseFrame raw profile expected).toOption
  | pqPhase7ParseFrame version => (PqBleHandshake.pqPhase7ParseFrame version raw).toOption
  | parsePhase7Frame => Python.parsePhase7Frame onCurve raw
  | pqV1ParseFrame version => (PqBleHandshake.pqV1ParseFrame version raw).toOption
  | parseV1Frame => PqBleHandshake.parseV1Frame raw
  | parseFull profile => Python.parseFull onCurve profile raw

/-- The format that a parser is for. -/
def format : Parser → Format
  | pqResumeParse profile | resumptionParse profile _ => ⟨.pqrs, profile⟩
  | pqPhase7ParseFrame version => ⟨.pqs7, version⟩
  | parsePhase7Frame => ⟨.pqs7, pqV07⟩
  | pqV1ParseFrame version => ⟨.pqv1, version⟩
  | parseV1Frame => ⟨.pqv1, pqV10⟩
  | parseFull profile => ⟨if profile = Resumption.pqResumeV08 then .pqs7 else .pqv1, profile⟩

variable {onCurve : Bytes → Bool} {raw : Bytes} {message : UInt8 × Bytes}

theorem known_of_parseFull {profile : UInt8} (h : Python.parseFull onCurve profile raw = some message) :
    Resumption.KnownProfile profile := by
  by_contra hunknown
  rw [Python.parseFull, Resumption.domain_eq_none_iff.mpr hunknown] at h
  cases h

/-- What a parser accepts is a frame of its format. -/
theorem eq_frame (parser : Parser) (h : parser.run onCurve raw = some message) :
    raw = parser.format.frame message := by
  cases parser with
  | pqResumeParse profile => exact (Resumption.pqResumeParse_eq_some_iff.mp h).2.2
  | resumptionParse profile expected =>
    have hparse := (Resumption.parseFrame_eq_ok_iff.mp (toOption_eq_some_iff.mp h)).1
    exact (Resumption.pqResumeParse_eq_some_iff.mp hparse).2.2
  | pqPhase7ParseFrame version => exact (pqPhase7ParseFrame_eq_ok (toOption_eq_some_iff.mp h)).2
  | parsePhase7Frame => exact (parsePhase7Frame_eq_some h).2
  | pqV1ParseFrame version => exact (pqV1ParseFrame_eq_ok_iff.mp (toOption_eq_some_iff.mp h)).2
  | parseV1Frame => exact (parseV1Frame_eq_some_iff.mp h).2
  | parseFull profile =>
    rcases known_of_parseFull h with rfl | rfl
    · exact (parseFull_v08.mp h).2
    · exact ((framed_full_v11 onCurve).parse_iff.mp h).2

/-- **One string, one format**: two parsers that accept it are for the same one and find the same message. -/
theorem run_unique {parser parser' : Parser} {message' : UInt8 × Bytes}
    (h : parser.run onCurve raw = some message) (h' : parser'.run onCurve raw = some message') :
    parser.format = parser'.format ∧ message = message' :=
  Format.frame_inj ((parser.eq_frame h).symm.trans (parser'.eq_frame h'))

end Parser

/-- **The wire codecs of resumption and of the v0.8 and v1.1 full handshakes.**  Each codec undoes itself in
both directions.  The two parsers of `PQRS` agree, and the endpoints of a resumption read the payload that they find;
those of v0.8 agree up to the embedded key, which Python wants on the curve, and those of v1.1 agree.  No string
belongs to two formats. -/
theorem wire_codecs (onCurve : Bytes → Bool) :
    (∀ profile,
      RoundTrip (Resumption.ValidMessage profile)
        (fun message ↦ Resumption.pqResumeEncode profile message.1 message.2)
        (Resumption.pqResumeParse profile) ∧
      RoundTrip (Resumption.ValidMessage profile)
        (fun message _ ↦ (Resumption.encode profile message.1 message.2).toOption)
        (fun raw ↦ (Resumption.parseFrame raw profile none).toOption) ∧
      (∀ raw, Resumption.pqResumeParse profile raw = (Resumption.parseFrame raw profile none).toOption) ∧
      ∀ raw expected,
        Resumption.parse raw profile expected = (Resumption.parseFrame raw profile (some expected)).map Prod.snd) ∧
    (RoundTrip (fun message : UInt8 × Bytes ↦ validPhase7Payload message.1 message.2 = true)
        (fun message capacity ↦
          (pqPhase7EncodeFrame Resumption.pqResumeV08 message.1 message.2 capacity).toOption)
        (fun raw ↦ (pqPhase7ParseFrame Resumption.pqResumeV08 raw).toOption) ∧
      RoundTrip
        (fun message ↦ validPhase7Payload message.1 message.2 = true ∧ OnCurve onCurve message)
        (fun message _ ↦ Python.encodeFull onCurve Resumption.pqResumeV08 message.1 message.2)
        (Python.parseFull onCurve Resumption.pqResumeV08) ∧
      ∀ raw message, Python.parseFull onCurve Resumption.pqResumeV08 raw = some message ↔
        pqPhase7ParseFrame Resumption.pqResumeV08 raw = .ok message ∧ OnCurve onCurve message) ∧
    (RoundTrip (fun message : UInt8 × Bytes ↦ ValidPayload message.1 message.2)
        (fun message capacity ↦
          (pqV1EncodeFrame Resumption.pqResumeV11 message.1 message.2 capacity).toOption)
        (fun raw ↦ (pqV1ParseFrame Resumption.pqResumeV11 raw).toOption) ∧
      RoundTrip (fun message : UInt8 × Bytes ↦ ValidPayload message.1 message.2)
        (fun message _ ↦ Python.encodeFull onCurve Resumption.pqResumeV11 message.1 message.2)
        (Python.parseFull onCurve Resumption.pqResumeV11) ∧
      ∀ raw, (pqV1ParseFrame Resumption.pqResumeV11 raw).toOption =
        Python.parseFull onCurve Resumption.pqResumeV11 raw) ∧
    ∀ (parser parser' : Parser) (raw : Bytes),
      (parser.run onCurve raw).isSome = true → (parser'.run onCurve raw).isSome = true →
        parser.format = parser'.format := by
  refine ⟨fun profile ↦ ⟨(Resumption.framed_pqResume profile).roundTrip,
      (Resumption.framed_resumption profile).roundTrip,
      congrFun ((Resumption.framed_pqResume profile).parse_eq (Resumption.framed_resumption profile)),
      fun raw expected ↦ Resumption.parse_eq_map raw profile expected⟩,
    ⟨(framed_pqPhase7 _).roundTrip, (framed_full_v08 onCurve).roundTrip, fun raw message ↦ ?_⟩,
    ⟨(framed_pqV1 _).roundTrip, (framed_full_v11 onCurve).roundTrip,
      congrFun ((framed_pqV1 _).parse_eq (framed_full_v11 onCurve))⟩,
    fun parser parser' raw haccepts haccepts' ↦ ?_⟩
  · rw [← toOption_eq_some_iff]
    exact (framed_pqPhase7 _).parse_iff_and (framed_full_v08 onCurve) (fun _ ↦ Iff.rfl) message raw
  · obtain ⟨message, h⟩ := Option.isSome_iff_exists.mp haccepts
    obtain ⟨message', h'⟩ := Option.isSome_iff_exists.mp haccepts'
    exact (Parser.run_unique h h').1

end PqBleHandshake
