import PqBleHandshake.Application.Central

/-!
# The PQV1 codec

The grammar of the PQV1 payloads in one place, and what both codecs make of it: they encode exactly the
payloads of the grammar, parse exactly their frames, and agree on every byte string.  The C parser is also
modelled with every read checked against the length it was given.
-/

namespace PqBleHandshake

open Foundation

/-! ## The grammar -/

/-- The subtypes with a payload of one size. -/
def v1PayloadSizes : List (UInt8 × ℕ) :=
  [(pqV1SecQuery, 0), (pqV1SecInfo, 4), (pqV1Start, 16), (pqV1Ready, 32), (pqV1FinishedC, 32),
    (pqV1FinishedP, 32), (pqV1StartCp3, 16), (pqV1ReadyCp3, 32), (pqV1Error, 1)]

/-- A payload of the grammar: of the one size of its subtype, or an application payload whose length field
is a plaintext length in range that fits its size. -/
def V1Payload (subtype : UInt8) (payload : Bytes) : Prop :=
  (subtype, payload.length) ∈ v1PayloadSizes ∨
    (subtype = pqV1AppC2p ∨ subtype = pqV1AppP2c) ∧ innerLength payload ≤ 128 ∧
      payload.length = 27 + innerLength payload

theorem payloadSizes_eq_some_iff {subtype : UInt8} {size : ℕ} :
    payloadSizes subtype = some size ↔ (subtype, size) ∈ v1PayloadSizes := by
  simp only [payloadSizes, v1PayloadSizes, List.mem_cons, Prod.mk.injEq, List.not_mem_nil, or_false]
  constructor
  · intro h
    split_ifs at h with h14 hfinished h10 h11 h01 h02 h7f <;> cases h
    all_goals grind
  · rintro (⟨rfl, rfl⟩ | ⟨rfl, rfl⟩ | ⟨rfl, rfl⟩ | ⟨rfl, rfl⟩ | ⟨rfl, rfl⟩ | ⟨rfl, rfl⟩ | ⟨rfl, rfl⟩ |
      ⟨rfl, rfl⟩ | ⟨rfl, rfl⟩) <;> rfl

theorem not_isApp_of_mem {subtype : UInt8} {size : ℕ} (h : (subtype, size) ∈ v1PayloadSizes) :
    ¬IsApp subtype := by
  have hall : ∀ entry ∈ v1PayloadSizes, ¬IsApp entry.1 := by decide
  exact hall _ h

/-- **The checks of both codecs are the grammar.** -/
theorem validPayload_iff {subtype : UInt8} {payload : Bytes} :
    ValidPayload subtype payload ↔ V1Payload subtype payload := by
  by_cases happ : IsApp subtype
  · have hnot : (subtype, payload.length) ∉ v1PayloadSizes := fun hmem ↦ not_isApp_of_mem hmem happ
    rw [V1Payload, or_iff_right hnot]
    constructor
    · intro h
      have hinner := h.inner happ
      have hsize := h.size
      rw [payloadSizeValid, if_pos happ] at hsize
      have hbound := (of_decide_eq_true hsize).2
      rw [hinner, Nat.add_le_add_iff_left] at hbound
      exact ⟨happ, hbound, hinner⟩
    · rintro ⟨-, hbound, hinner⟩
      refine ⟨?_, fun _ ↦ hinner⟩
      rw [payloadSizeValid, if_pos happ, hinner]
      exact decide_eq_true ⟨Nat.le_add_right _ _, Nat.add_le_add_left hbound _⟩
  · have hnot : ¬((subtype = pqV1AppC2p ∨ subtype = pqV1AppP2c) ∧ innerLength payload ≤ 128 ∧
        payload.length = 27 + innerLength payload) := fun h ↦ happ h.1
    rw [V1Payload, or_iff_left hnot, ← payloadSizes_eq_some_iff, ← payloadSizeValid_iff happ]
    exact ⟨fun h ↦ h.size, fun h ↦ ⟨h, fun h' ↦ absurd h' happ⟩⟩

/-! ## Checked reads -/

/-- `buffer[i]`; outside the buffer there is nothing to read. -/
def readByte (buffer : Bytes) (i : ℕ) : Option UInt8 := buffer[i]?

/-- The bytes that a `memcmp` of a given length reads. -/
def readBytes (buffer : Bytes) (offset n : ℕ) : Option Bytes :=
  if offset + n ≤ buffer.length then some ((buffer.drop offset).take n) else none

theorem readByte_eq {buffer : Bytes} {i : ℕ} (h : i < buffer.length) :
    readByte buffer i = some (buffer.getD i 0) := by
  rw [readByte, List.getElem?_eq_getElem h, List.getD_eq_getElem?_getD, List.getElem?_eq_getElem h]
  rfl

theorem readBytes_eq {buffer : Bytes} {offset n : ℕ} (h : offset + n ≤ buffer.length) :
    readBytes buffer offset n = some ((buffer.drop offset).take n) := if_pos h

/-- `pq_v1_parse_frame` read by read, in the order of the code: `none` is a read outside the frame.  The
result is the subtype and the payload, which starts at the eighth byte. -/
def pqV1ParseFrameReads (version : UInt8) (frame : Bytes) : Option (Except Errno (UInt8 × Bytes)) :=
  if frame.length < 8 then some (.error .emsgsize)
  else do
    let head ← readBytes frame 0 4
    if head ≠ v1Magic then return .error .ebadmsg
    else if (← readByte frame 4) ≠ version then return .error .eproto
    else
      let high ← readByte frame 6
      let low ← readByte frame 7
      let declared := high.toNat * 256 + low.toNat
      if frame.length ≠ 8 + declared then return .error .emsgsize
      else
        let subtype ← readByte frame 5
        if payloadSizeValid subtype declared = false then return .error .enotsup
        else if IsApp subtype then
          let high ← readByte frame 17
          let low ← readByte frame 18
          if declared ≠ pqV1Cp4PayloadOverhead + (high.toNat * 256 + low.toNat) then
            return .error .emsgsize
          else return .ok (subtype, ← readBytes frame 8 declared)
        else return .ok (subtype, ← readBytes frame 8 declared)

/-- **The C parser reads no byte beyond the frame.** -/
theorem pqV1ParseFrameReads_eq (version : UInt8) (frame : Bytes) :
    pqV1ParseFrameReads version frame = some (pqV1ParseFrame version frame) := by
  unfold pqV1ParseFrameReads pqV1ParseFrame
  by_cases hlength : frame.length < 8
  · rw [if_pos hlength, require_bind_of_not (not_le.mpr hlength)]
  rw [if_neg hlength, require_bind_of (not_lt.mp hlength), readBytes_eq (by omega),
    readByte_eq (by omega), readByte_eq (by omega), readByte_eq (by omega), readByte_eq (by omega)]
  simp only [Option.bind_eq_bind, Option.bind_some, List.drop_zero]
  by_cases hmagic : frame.take 4 = v1Magic
  swap
  · rw [if_pos hmagic, require_bind_of_not hmagic]
    rfl
  rw [if_neg (not_not.mpr hmagic), require_bind_of hmagic]
  by_cases hversion : frame.getD 4 0 = version
  swap
  · rw [if_pos hversion, require_bind_of_not hversion]
    rfl
  rw [if_neg (not_not.mpr hversion), require_bind_of hversion]
  change (if frame.length ≠ 8 + Resumption.declaredLength frame then _ else _) = _
  by_cases hdeclared : frame.length = 8 + Resumption.declaredLength frame
  swap
  · rw [if_pos hdeclared, require_bind_of_not hdeclared]
    rfl
  rw [if_neg (not_not.mpr hdeclared), require_bind_of hdeclared]
  have hpayload : readBytes frame 8 (Resumption.declaredLength frame) = some (frame.drop 8) := by
    rw [readBytes_eq (by omega), List.take_of_length_le (by rw [List.length_drop]; omega)]
  change (if payloadSizeValid (frame.getD 5 0) (Resumption.declaredLength frame) = false then _ else _) = _
  by_cases hsize : payloadSizeValid (frame.getD 5 0) (Resumption.declaredLength frame) = true
  swap
  · rw [if_pos (Bool.eq_false_of_not_eq_true hsize), require_bind_of_not hsize]
    rfl
  rw [if_neg (by rw [hsize]; exact Bool.false_ne_true ∘ Eq.symm), require_bind_of hsize]
  by_cases happ : IsApp (frame.getD 5 0)
  · -- An application frame is long enough for its inner length field.
    have hlong : 19 ≤ frame.length := by
      rw [payloadSizeValid, if_pos happ] at hsize
      have hmin := (of_decide_eq_true hsize).1
      rw [pqV1Cp4PayloadOverhead] at hmin
      omega
    rw [if_pos happ, readByte_eq (by omega), readByte_eq (by omega)]
    simp only [Option.bind_some]
    by_cases hinner : Resumption.declaredLength frame = pqV1Cp4PayloadOverhead +
        ((frame.getD 17 0).toNat * 256 + (frame.getD 18 0).toNat)
    · rw [require_bind_of fun _ ↦ hinner]
      change (if Resumption.declaredLength frame ≠ _ then _ else _) = _
      rw [if_neg (not_not.mpr hinner)]
      change (readBytes frame 8 (Resumption.declaredLength frame)).bind _ = _
      rw [hpayload]
      rfl
    · rw [require_bind_of_not fun h ↦ hinner (h happ)]
      exact if_pos hinner
  · rw [if_neg happ, require_bind_of fun h ↦ absurd h happ]
    change (readBytes frame 8 (Resumption.declaredLength frame)).bind _ = _
    rw [hpayload]
    rfl

/-! ## The codec -/

section Codec

variable {version subtype : UInt8} {payload data : Bytes}

/-- The two parsers agree on every byte string. -/
theorem toOption_pqV1ParseFrame (hversion : Python.KnownApp version) (data : Bytes) :
    (pqV1ParseFrame version data).toOption = Python.parse version data := by
  apply Option.ext
  rintro ⟨subtype, payload⟩
  rw [Python.parse_eq_some_iff]
  have hparse := @pqV1ParseFrame_eq_ok_iff version subtype data payload
  cases hresult : pqV1ParseFrame version data with
  | error error =>
    rw [hresult] at hparse
    constructor
    · exact fun h ↦ nomatch h
    · rintro ⟨-, hframe⟩
      exact nomatch hparse.mpr hframe
  | ok value =>
    rw [hresult] at hparse
    constructor
    · intro h
      cases h
      exact ⟨hversion, hparse.mp rfl⟩
    · rintro ⟨-, hframe⟩
      cases hparse.mpr hframe
      rfl

/-- The baseline codec of `v1_smp_mlkem.py` is the codec of the v1.0 profile. -/
theorem baseline_eq (subtype : UInt8) (payload data : Bytes) :
    encodeV1Frame subtype payload = Python.encode pqV10 subtype payload ∧
      parseV1Frame data = Python.parse pqV10 data := by
  constructor
  · apply Option.ext
    intro wire
    rw [encodeV1Frame_eq_some_iff, Python.encode_eq_some_iff]
    exact (and_iff_right (.inl rfl)).symm
  · apply Option.ext
    rintro ⟨subtype, payload⟩
    rw [parseV1Frame_eq_some_iff, Python.parse_eq_some_iff]
    exact (and_iff_right (.inl rfl)).symm

end Codec

/-- **The PQV1 frame codec**, of every profile that has one.  The baseline functions are its v1.0 case. -/
theorem v1_frame_codec {version : UInt8} (hversion : Python.KnownApp version) :
    (∀ subtype payload data, encodeV1Frame subtype payload = Python.encode pqV10 subtype payload ∧
      parseV1Frame data = Python.parse pqV10 data) ∧
    (∀ subtype payload,
      (∀ capacity, (∃ wire, pqV1EncodeFrame version subtype payload capacity = .ok wire) ↔
        V1Payload subtype payload ∧ 8 + payload.length ≤ capacity) ∧
      ((∃ wire, Python.encode version subtype payload = some wire) ↔ V1Payload subtype payload) ∧
      ∀ wire, (∃ capacity, pqV1EncodeFrame version subtype payload capacity = .ok wire) ∨
          Python.encode version subtype payload = some wire →
        wire = v1Frame version subtype payload ∧
          pqV1ParseFrame version wire = .ok (subtype, payload) ∧
          Python.parse version wire = some (subtype, payload)) ∧
    ∀ data,
      (pqV1ParseFrame version data).toOption = Python.parse version data ∧
      (∀ subtype payload, Python.parse version data = some (subtype, payload) →
        pqV1EncodeFrame version subtype payload data.length = .ok data ∧
          Python.encode version subtype payload = some data) ∧
      pqV1ParseFrameReads version data = some (pqV1ParseFrame version data) := by
  refine ⟨baseline_eq, fun subtype payload ↦ ⟨fun capacity ↦ ?_, ?_, fun wire hwire ↦ ?_⟩,
    fun data ↦ ⟨toOption_pqV1ParseFrame hversion data, fun subtype payload hparse ↦ ?_,
      pqV1ParseFrameReads_eq version data⟩⟩
  · simp only [pqV1EncodeFrame_eq_ok_iff, validPayload_iff, exists_and_left, exists_eq, and_true]
  · simp only [Python.encode_eq_some_iff, validPayload_iff, exists_and_left, exists_eq, and_true]
    exact and_iff_right hversion
  · have hframe : ValidPayload subtype payload ∧ wire = v1Frame version subtype payload := by
      rcases hwire with ⟨capacity, hwire⟩ | hwire
      · obtain ⟨hvalid, -, rfl⟩ := pqV1EncodeFrame_eq_ok_iff.mp hwire
        exact ⟨hvalid, rfl⟩
      · exact (Python.encode_eq_some_iff.mp hwire).2
    exact ⟨hframe.2, pqV1ParseFrame_eq_ok_iff.mpr hframe,
      Python.parse_eq_some_iff.mpr ⟨hversion, hframe⟩⟩
  · obtain ⟨-, hvalid, rfl⟩ := Python.parse_eq_some_iff.mp hparse
    refine ⟨pqV1EncodeFrame_eq_ok_iff.mpr ⟨hvalid, ?_, rfl⟩,
      Python.encode_eq_some_iff.mpr ⟨hversion, hvalid, rfl⟩⟩
    rw [length_v1Frame]

/-- A START frame of the v1.1 profile, on both sides. -/
theorem v1_frame_codec_start :
    let sid := List.replicate 16 7
    let wire := v1Frame Resumption.pqResumeV11 pqV1StartCp3 sid
    pqV1EncodeFrame Resumption.pqResumeV11 pqV1StartCp3 sid 24 = .ok wire ∧
      Python.encode Resumption.pqResumeV11 pqV1StartCp3 sid = some wire ∧
      (pqV1ParseFrame Resumption.pqResumeV11 wire).toOption = some (pqV1StartCp3, sid) ∧
      pqV1ParseFrameReads Resumption.pqResumeV11 wire = some (.ok (pqV1StartCp3, sid)) := by
  intro sid wire
  obtain ⟨-, hencode, hparse⟩ := v1_frame_codec (.inr (.inr rfl) : Python.KnownApp Resumption.pqResumeV11)
  obtain ⟨-, hpython, hframes⟩ := hencode pqV1StartCp3 sid
  obtain ⟨wire', hwire'⟩ := hpython.mpr (.inl (by decide))
  obtain ⟨rfl, hparsed, hparsed'⟩ := hframes wire' (.inr hwire')
  obtain ⟨hsame, hback, hreads⟩ := hparse wire
  refine ⟨?_, hwire', hsame.trans hparsed', hreads.trans (congrArg some hparsed)⟩
  have hlength : wire.length = 24 := length_v1Frame _ _ _
  rw [← hlength]
  exact (hback _ _ hparsed').1

end PqBleHandshake
