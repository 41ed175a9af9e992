import PqBleHandshake.Foundation.Transition
import PqBleHandshake.Resumption.Wire

/-!
# Wire format of the PQV1 messages

`pq_v1_frame.c` beside `encode_v1_frame` and `parse_v1_frame` of `v1_smp_mlkem.py`: a four-byte magic,
the version of the profile, the subtype, a two-byte length and the payload.  A payload is valid when
its size fits the subtype and, for an application frame, its inner length field fits its size.  Each
codec is characterised by one statement: exactly the frames of valid payloads parse, and encoding a
valid payload gives its frame.
-/

namespace PqBleHandshake

open Foundation

/-- The error numbers that the firmware functions return, without their sign. -/
inductive Errno
  | einval | emsgsize | ebadmsg | eproto | enotsup | enobufs | eio | eacces | ebusy | ecanceled
deriving DecidableEq, Repr

/-- `PQ_V1_SEC_QUERY` -/
def pqV1SecQuery : UInt8 := 0x01
/-- `PQ_V1_SEC_INFO` -/
def pqV1SecInfo : UInt8 := 0x02
/-- `PQ_V1_START` -/
def pqV1Start : UInt8 := 0x10
/-- `PQ_V1_READY` -/
def pqV1Ready : UInt8 := 0x11
/-- `PQ_V1_FINISHED_C` -/
def pqV1FinishedC : UInt8 := 0x12
/-- `PQ_V1_FINISHED_P` -/
def pqV1FinishedP : UInt8 := 0x13
/-- `PQ_V1_START_CP3` -/
def pqV1StartCp3 : UInt8 := 0x14
/-- `PQ_V1_READY_CP3` -/
def pqV1ReadyCp3 : UInt8 := 0x15
/-- `PQ_V1_APP_C2P` -/
def pqV1AppC2p : UInt8 := 0x20
/-- `PQ_V1_APP_P2C` -/
def pqV1AppP2c : UInt8 := 0x21
/-- `PQ_V1_ERROR` -/
def pqV1Error : UInt8 := 0x7F

/-- The version byte of the v1.0 profile. -/
def pqV10 : UInt8 := 0x10
/-- `PQ_V1_CP4_PAYLOAD_OVERHEAD` -/
def pqV1Cp4PayloadOverhead : ℕ := 27
/-- `PQ_V1_CP4_MAX_PLAINTEXT` -/
def pqV1Cp4MaxPlaintext : ℕ := 128

/-- `PQ_V1_FRAME_MAGIC` -/
def v1Magic : Bytes := ascii "PQV1"

/-- `PQ_APP_DOMAIN` of a profile. -/
def appDomain (version : UInt8) : Bytes :=
  if version = pqV10 then ascii "PQ-BLE-HANDSHAKE-v1.0" else Resumption.domainName version

/-- The subtypes of the two application directions. -/
def IsApp (subtype : UInt8) : Prop := subtype = pqV1AppC2p ∨ subtype = pqV1AppP2c

instance (subtype : UInt8) : Decidable (IsApp subtype) := inferInstanceAs (Decidable (_ ∨ _))

/-- `payload_size_valid` -/
def payloadSizeValid (subtype : UInt8) (payloadLen : ℕ) : Bool :=
  if IsApp subtype then
    pqV1Cp4PayloadOverhead ≤ payloadLen ∧
      payloadLen ≤ pqV1Cp4PayloadOverhead + pqV1Cp4MaxPlaintext
  else if subtype = pqV1StartCp3 then payloadLen = 16
  else if subtype = pqV1ReadyCp3 ∨ subtype = pqV1FinishedC ∨ subtype = pqV1FinishedP then
    payloadLen = 32
  else if subtype = pqV1Start then payloadLen = 16
  else if subtype = pqV1Ready then payloadLen = 32
  else if subtype = pqV1SecQuery then payloadLen = 0
  else if subtype = pqV1SecInfo then payloadLen = 4
  else if subtype = pqV1Error then payloadLen = 1
  else false

/-- The plaintext length that an application payload declares. -/
def innerLength (payload : Bytes) : ℕ := (payload.getD 9 0).toNat * 256 + (payload.getD 10 0).toNat

/-- `pq_v1_parse_frame`: the subtype and the payload. -/
def pqV1ParseFrame (version : UInt8) (frame : Bytes) : Except Errno (UInt8 × Bytes) := do
  require (8 ≤ frame.length) .emsgsize
  require (frame.take 4 = v1Magic) .ebadmsg
  require (frame.getD 4 0 = version) .eproto
  let declared := Resumption.declaredLength frame
  require (frame.length = 8 + declared) .emsgsize
  require (payloadSizeValid (frame.getD 5 0) declared = true) .enotsup
  require (IsApp (frame.getD 5 0) → declared = pqV1Cp4PayloadOverhead +
    ((frame.getD 17 0).toNat * 256 + (frame.getD 18 0).toNat)) .emsgsize
  return (frame.getD 5 0, frame.drop 8)

/-- `pq_v1_encode_frame` -/
def pqV1EncodeFrame (version subtype : UInt8) (payload : Bytes) (capacity : ℕ) :
    Except Errno Bytes := do
  require (payloadSizeValid subtype payload.length = true) .enotsup
  require (IsApp subtype → payload.length = pqV1Cp4PayloadOverhead + innerLength payload) .emsgsize
  require (8 + payload.length ≤ capacity) .enobufs
  return v1Magic ++ [version, subtype] ++ bigEndian 2 payload.length ++ payload

/-! ## The Python codec

A raised `ValueError` is `none`. -/

/-- `_PAYLOAD_SIZES` -/
def payloadSizes (subtype : UInt8) : Option ℕ :=
  if subtype = pqV1StartCp3 then some 16
  else if subtype = pqV1ReadyCp3 ∨ subtype = pqV1FinishedC ∨ subtype = pqV1FinishedP then some 32
  else if subtype = pqV1Start then some 16
  else if subtype = pqV1Ready then some 32
  else if subtype = pqV1SecQuery then some 0
  else if subtype = pqV1SecInfo then some 4
  else if subtype = pqV1Error then some 1
  else none

/-- `_validate_payload` -/
def validatePayload (subtype : UInt8) (payload : Bytes) : Option Unit :=
  if IsApp subtype then
    if ¬(27 ≤ payload.length ∧ payload.length ≤ 27 + 128) ∨
        payload.length ≠ 27 + ofBigEndian ((payload.drop 9).take 2) then none
    else some ()
  else if payloadSizes subtype = some payload.length then some ()
  else none

/-- `encode_v1_frame` -/
def encodeV1Frame (subtype : UInt8) (payload : Bytes) : Option Bytes := do
  validatePayload subtype payload
  return v1Magic ++ [pqV10, subtype] ++ bigEndian 2 payload.length ++ payload

/-- `parse_v1_frame`: the subtype and the payload. -/
def parseV1Frame (data : Bytes) : Option (UInt8 × Bytes) :=
  if data.length < 8 then none
  else if data.take 4 ≠ v1Magic then none
  else if data.getD 4 0 ≠ pqV10 then none
  else if data.length ≠ 8 + ofBigEndian ((data.drop 6).take 2) then none
  else (validatePayload (data.getD 5 0) (data.drop 8)).map fun _ ↦ (data.getD 5 0, data.drop 8)

/-! ## Frames of valid payloads -/

/-- The frame with a given subtype and payload. -/
def v1Frame (version subtype : UInt8) (payload : Bytes) : Bytes :=
  v1Magic ++ [version, subtype] ++ bigEndian 2 payload.length ++ payload

/-- A payload that fits its subtype. -/
structure ValidPayload (subtype : UInt8) (payload : Bytes) : Prop where
  size : payloadSizeValid subtype payload.length = true
  inner : IsApp subtype → payload.length = pqV1Cp4PayloadOverhead + innerLength payload

theorem v1Frame_inj {version version' subtype subtype' : UInt8} {payload payload' : Bytes} :
    v1Frame version subtype payload = v1Frame version' subtype' payload' ↔
      version = version' ∧ subtype = subtype' ∧ payload = payload' := by
  constructor
  · intro h
    simp only [v1Frame, List.append_assoc] at h
    have htail := List.append_cancel_left h
    simp only [List.cons_append, List.nil_append, List.cons.injEq] at htail
    obtain ⟨hversion, hsubtype, hrest⟩ := htail
    exact ⟨hversion, hsubtype, (List.append_inj hrest (by simp)).2⟩
  · rintro ⟨rfl, rfl, rfl⟩
    rfl

theorem length_v1Frame (version subtype : UInt8) (payload : Bytes) :
    (v1Frame version subtype payload).length = 8 + payload.length := by
  simp only [v1Frame, List.length_append, List.length_cons, List.length_nil, length_bigEndian,
    show v1Magic.length = 4 from rfl]

/-- Valid payloads are short. -/
theorem ValidPayload.length_le {subtype : UInt8} {payload : Bytes}
    (h : ValidPayload subtype payload) : payload.length ≤ 155 := by
  have hsize := h.size
  unfold payloadSizeValid pqV1Cp4PayloadOverhead pqV1Cp4MaxPlaintext at hsize
  split_ifs at hsize <;> simp only [decide_eq_true_eq] at hsize <;> omega

/-- The two length bytes of a frame declare the size of a short payload. -/
theorem declaredLength_v1Frame (version subtype : UInt8) {payload : Bytes}
    (h : payload.length ≤ 155) :
    Resumption.declaredLength (v1Frame version subtype payload) = payload.length := by
  have hvalue : ofBigEndian (bigEndian 2 payload.length) = payload.length :=
    ofBigEndian_bigEndian (by omega)
  have hbytes : bigEndian 2 payload.length =
      [(v1Frame version subtype payload).getD 6 0, (v1Frame version subtype payload).getD 7 0] := by
    rfl
  rw [hbytes] at hvalue
  simpa [ofBigEndian, Resumption.declaredLength] using hvalue

/-- A byte string with a magic, a version and a true length field is a frame of that magic. -/
theorem eq_header_append {version : UInt8} {wire magic : Bytes} (hlength : 8 ≤ wire.length)
    (hmagic : wire.take 4 = magic) (hversion : wire.getD 4 0 = version)
    (hdeclared : wire.length = 8 + Resumption.declaredLength wire) :
    wire = magic ++ [version, wire.getD 5 0] ++ bigEndian 2 (wire.drop 8).length ++ wire.drop 8 := by
  obtain ⟨b0, b1, b2, b3, b4, b5, b6, b7, payload, rfl⟩ := exists_header hlength
  simp only [List.getD_cons_succ, List.getD_cons_zero, List.drop_succ_cons, List.drop_zero,
    List.take_succ_cons, List.take_zero, List.length_cons, Resumption.declaredLength] at *
  have hlow : b6.toNat * 256 + b7.toNat = payload.length := by omega
  rw [← hmagic, ← hlow, bigEndian_two, hversion]
  rfl

/-- A byte string with the magic, a version and a true length field is a frame. -/
theorem eq_v1Frame {version : UInt8} {wire : Bytes} (hlength : 8 ≤ wire.length)
    (hmagic : wire.take 4 = v1Magic) (hversion : wire.getD 4 0 = version)
    (hdeclared : wire.length = 8 + Resumption.declaredLength wire) :
    wire = v1Frame version (wire.getD 5 0) (wire.drop 8) :=
  eq_header_append hlength hmagic hversion hdeclared

/-- **The C parser accepts exactly the frames of valid payloads.** -/
theorem pqV1ParseFrame_eq_ok_iff {version subtype : UInt8} {wire payload : Bytes} :
    pqV1ParseFrame version wire = .ok (subtype, payload) ↔
      ValidPayload subtype payload ∧ wire = v1Frame version subtype payload := by
  simp only [pqV1ParseFrame, except_bind_eq_ok_iff, require_eq_ok_iff, exists_and_left, exists_const]
  constructor
  · rintro ⟨hlength, hmagic, hversion, hdeclared, hsize, hinner, hresult⟩
    obtain ⟨rfl, rfl⟩ := Prod.mk.inj (Except.ok.inj hresult)
    have hpayload : (wire.drop 8).length = Resumption.declaredLength wire := by
      rw [List.length_drop]
      omega
    refine ⟨⟨?_, fun happ ↦ ?_⟩, eq_v1Frame hlength hmagic hversion hdeclared⟩
    · rw [hpayload]
      exact hsize
    · rw [hpayload, hinner happ, innerLength]
      simp only [List.getD_eq_getElem?_getD, List.getElem?_drop]
  · rintro ⟨hvalid, rfl⟩
    have hle := hvalid.length_le
    have hdeclared := declaredLength_v1Frame version subtype hle
    refine ⟨?_, rfl, rfl, ?_, ?_, fun happ ↦ ?_, rfl⟩
    · rw [length_v1Frame]
      omega
    · rw [hdeclared, length_v1Frame]
    · rw [hdeclared]
      exact hvalid.size
    · rw [hdeclared]
      exact hvalid.inner happ

/-- **The C encoder produces the frame of a valid payload that fits the buffer.** -/
theorem pqV1EncodeFrame_eq_ok_iff {version subtype : UInt8} {payload wire : Bytes}
    {capacity : ℕ} : pqV1EncodeFrame version subtype payload capacity = .ok wire ↔
      ValidPayload subtype payload ∧ 8 + payload.length ≤ capacity ∧
        wire = v1Frame version subtype payload := by
  simp only [pqV1EncodeFrame, except_bind_eq_ok_iff, require_eq_ok_iff, exists_and_left,
    exists_const]
  constructor
  · rintro ⟨hsize, hinner, hcapacity, hresult⟩
    exact ⟨⟨hsize, hinner⟩, hcapacity, (Except.ok.inj hresult).symm⟩
  · rintro ⟨hvalid, hcapacity, rfl⟩
    exact ⟨hvalid.size, hvalid.inner, hcapacity, rfl⟩

/-! ## The Python codec accepts the same payloads -/

theorem ofBigEndian_two (high low : UInt8) :
    ofBigEndian [high, low] = high.toNat * 256 + low.toNat := by
  simp [ofBigEndian]

/-- Two bytes of a long enough string, as Python slices them and as C indexes them. -/
theorem ofBigEndian_slice {source : Bytes} {offset : ℕ} (h : offset + 2 ≤ source.length) :
    ofBigEndian ((source.drop offset).take 2) =
      (source.getD offset 0).toNat * 256 + (source.getD (offset + 1) 0).toNat := by
  have hfirst : offset < source.length := by omega
  have hsecond : offset + 1 < source.length := by omega
  rw [List.drop_eq_getElem_cons hfirst, List.drop_eq_getElem_cons hsecond, List.take_succ_cons,
    List.take_succ_cons, List.take_zero, ofBigEndian_two]
  simp [List.getD_eq_getElem?_getD, hfirst, hsecond]

theorem payloadSizeValid_iff {subtype : UInt8} {size : ℕ} (h : ¬IsApp subtype) :
    payloadSizeValid subtype size = true ↔ payloadSizes subtype = some size := by
  rw [payloadSizeValid, if_neg h, payloadSizes]
  split_ifs <;> simp [eq_comm]

theorem ite_none_left_eq_some_iff {check : Prop} {_ : Decidable check} {value : Unit} :
    (if check then none else some ()) = some value ↔ ¬check := by
  split_ifs with h <;> simp [h]

theorem validatePayload_eq_some_iff {subtype : UInt8} {payload : Bytes} {value : Unit} :
    validatePayload subtype payload = some value ↔ ValidPayload subtype payload := by
  by_cases happ : IsApp subtype
  · rw [validatePayload, if_pos happ, ite_none_left_eq_some_iff, not_or, not_not, not_not]
    constructor
    · rintro ⟨hsize, hinner⟩
      refine ⟨?_, fun _ ↦ ?_⟩
      · rw [payloadSizeValid, if_pos happ]
        exact decide_eq_true hsize
      · rw [ofBigEndian_slice (by omega)] at hinner
        exact hinner
    · intro h
      have hsize := h.size
      rw [payloadSizeValid, if_pos happ] at hsize
      have hsize := of_decide_eq_true hsize
      have hlength : 9 + 2 ≤ payload.length := le_trans (by decide) hsize.1
      refine ⟨hsize, ?_⟩
      rw [ofBigEndian_slice hlength]
      exact h.inner happ
  · have hvalid : ValidPayload subtype payload ↔ payloadSizeValid subtype payload.length = true :=
      ⟨fun h ↦ h.size, fun h ↦ ⟨h, fun h' ↦ absurd h' happ⟩⟩
    rw [hvalid, payloadSizeValid_iff happ, validatePayload, if_neg happ]
    by_cases hsize : payloadSizes subtype = some payload.length
    · rw [if_pos hsize]
      exact ⟨fun _ ↦ hsize, fun _ ↦ rfl⟩
    · rw [if_neg hsize]
      exact ⟨fun h ↦ (nomatch h), fun h ↦ absurd h hsize⟩

theorem encodeV1Frame_eq_some_iff {subtype : UInt8} {payload wire : Bytes} :
    encodeV1Frame subtype payload = some wire ↔
      ValidPayload subtype payload ∧ wire = v1Frame pqV10 subtype payload := by
  simp only [encodeV1Frame, Option.bind_eq_bind, Option.bind_eq_some_iff,
    validatePayload_eq_some_iff, Option.pure_def, Option.some.injEq, exists_and_left, exists_const]
  rw [eq_comm (b := wire)]
  rfl

theorem parseV1Frame_eq_some_iff {subtype : UInt8} {data payload : Bytes} :
    parseV1Frame data = some (subtype, payload) ↔
      ValidPayload subtype payload ∧ data = v1Frame pqV10 subtype payload := by
  constructor
  · intro h
    unfold parseV1Frame at h
    split_ifs at h with hlength hmagic hversion hdeclared
    rw [not_lt] at hlength
    obtain ⟨value, hvalid, hresult⟩ := Option.map_eq_some_iff.mp h
    obtain ⟨rfl, rfl⟩ := Prod.mk.inj hresult
    rw [ofBigEndian_slice (by omega)] at hdeclared
    exact ⟨validatePayload_eq_some_iff.mp hvalid,
      eq_v1Frame hlength (not_not.mp hmagic) (not_not.mp hversion) (not_not.mp hdeclared)⟩
  · rintro ⟨hvalid, rfl⟩
    have hlength := length_v1Frame pqV10 subtype payload
    have hdeclared := declaredLength_v1Frame pqV10 subtype hvalid.length_le
    have hfield : ofBigEndian (((v1Frame pqV10 subtype payload).drop 6).take 2) =
        Resumption.declaredLength (v1Frame pqV10 subtype payload) := ofBigEndian_slice (by omega)
    rw [parseV1Frame, if_neg (by omega), if_neg (fun h ↦ h rfl), if_neg (fun h ↦ h rfl),
      if_neg (fun h ↦ h (by rw [hfield, hdeclared, hlength]))]
    exact Option.map_eq_some_iff.mpr ⟨(), validatePayload_eq_some_iff.mpr hvalid, rfl⟩

end PqBleHandshake
