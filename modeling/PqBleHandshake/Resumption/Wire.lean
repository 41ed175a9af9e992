import PqBleHandshake.Foundation.Bytes
import Mathlib.Tactic

/-!
# Wire format of the resumption messages

The `PQRS` frames of `pq_resume.c` and `resumption.py`: a four-byte magic, the profile, the subtype,
a two-byte length and the payload.  Both codecs are translated, the C one over `Option` and the
Python one over `Except Reason`, and both are characterised by one statement: a frame parses exactly
when it is `frame profile subtype payload` for a known profile and a payload of the subtype's size.
-/

namespace PqBleHandshake.Resumption

open Foundation

/-- `PQ_RESUME_V08` -/
def pqResumeV08 : UInt8 := 0x08
/-- `PQ_RESUME_V11` -/
def pqResumeV11 : UInt8 := 0x11
/-- `PQ_RESUME_TTL_MS` -/
def pqResumeTtlMs : ℤ := 86400000
/-- `PQ_RESUME_MAX_USES` -/
def pqResumeMaxUses : ℕ := 100
/-- `PQ_RESUME_REPLAY_CAPACITY` -/
def pqResumeReplayCapacity : ℕ := 128
/-- `PQ_RESUME_INIT` -/
def subtypeInit : UInt8 := 0x30
/-- `PQ_RESUME_ACCEPT` -/
def subtypeAccept : UInt8 := 0x31
/-- `PQ_RESUME_FINISH_C` -/
def subtypeFinishC : UInt8 := 0x32
/-- `PQ_RESUME_FINISH_P` -/
def subtypeFinishP : UInt8 := 0x33
/-- `PQ_RESUME_REJECT` -/
def subtypeReject : UInt8 := 0x34

/-- The result codes of `pq_resume.c`, and the `Reason` values of `resumption.py`. -/
inductive Reason
  | ok | noTicket | expired | maxed | profileMismatch | badAuth | replay | l4Required | malformed
  | internalError | replayCacheFull
deriving DecidableEq, Repr

/-- The magic of every resumption frame. -/
def magic : Bytes := ascii "PQRS"

/-- The domain string of a profile. -/
def domain (profile : UInt8) : Option Bytes :=
  if profile = pqResumeV08 then some (ascii "PQ-BLE-HANDSHAKE-v0.8")
  else if profile = pqResumeV11 then some (ascii "PQ-BLE-HANDSHAKE-v1.1")
  else none

/-- The profile's domain as a total function: empty for an unknown profile. -/
def domainName (profile : UInt8) : Bytes := (domain profile).getD []

/-- A domain-separated label; the C buffer holds 64 bytes with the terminating zero. -/
def label (profile : UInt8) (suffix : String) : Option Bytes :=
  (domain profile).bind fun name ↦
    if 64 ≤ name.length + (ascii suffix).length then none else some (name ++ ascii suffix)

/-- `payload_size` (`none` is `SIZE_MAX`) and the Python `PAYLOAD_SIZES`. -/
def payloadSize (subtype : UInt8) : Option ℕ :=
  if subtype = subtypeInit then some 96
  else if subtype = subtypeAccept then some 64
  else if subtype = subtypeFinishC ∨ subtype = subtypeFinishP then some 32
  else if subtype = subtypeReject then some 0
  else none

/-- The length field of a frame. -/
def declaredLength (wire : Bytes) : ℕ := (wire.getD 6 0).toNat * 256 + (wire.getD 7 0).toNat

/-- `pq_resume_parse`: the subtype and the payload. -/
def pqResumeParse (profile : UInt8) (wire : Bytes) : Option (UInt8 × Bytes) :=
  if domain profile = none ∨ wire.length < 8 ∨ wire.take 4 ≠ magic ∨ wire.getD 4 0 ≠ profile ∨
      (payloadSize (wire.getD 5 0)).all (fun size ↦ wire.length ≠ 8 + size) ∨
      declaredLength wire ≠ wire.length - 8 then
    none
  else some (wire.getD 5 0, wire.drop 8)

/-- `pq_resume_encode`; the two length bytes are `0` and the low byte of the length. -/
def pqResumeEncode (profile subtype : UInt8) (payload : Bytes) (capacity : ℕ) : Option Bytes :=
  if domain profile = none ∨ payloadSize subtype ≠ some payload.length ∨ 96 < payload.length ∨
      capacity < 8 + payload.length then
    none
  else some (magic ++ [profile, subtype, 0, UInt8.ofNat payload.length] ++ payload)

/-- The Python `encode`. -/
def encode (profile subtype : UInt8) (payload : Bytes) : Except Reason Bytes :=
  if domain profile = none then .error .profileMismatch
  else if payloadSize subtype ≠ some payload.length then .error .malformed
  else .ok (magic ++ [profile, subtype] ++ bigEndian 2 payload.length ++ payload)

/-- The Python `parse` with an expected subtype: the payload. -/
def parse (raw : Bytes) (profile expected : UInt8) : Except Reason Bytes :=
  if domain profile = none then .error .profileMismatch
  else if raw.length < 8 ∨ raw.take 4 ≠ magic then .error .malformed
  else if raw.getD 4 0 ≠ profile then .error .profileMismatch
  else if (payloadSize (raw.getD 5 0)).all (fun size ↦
      raw.length ≠ 8 + size ∨ declaredLength raw ≠ size) ∨ raw.getD 5 0 ≠ expected then
    .error .malformed
  else .ok (raw.drop 8)

/-! ## Profiles and labels -/

/-- The two profiles that have resumption. -/
def KnownProfile (profile : UInt8) : Prop := profile = pqResumeV08 ∨ profile = pqResumeV11

instance (profile : UInt8) : Decidable (KnownProfile profile) :=
  inferInstanceAs (Decidable (_ ∨ _))

@[simp]
theorem domain_eq_none_iff {profile : UInt8} : domain profile = none ↔ ¬KnownProfile profile := by
  unfold domain KnownProfile
  split_ifs <;> simp_all

theorem domain_eq_domainName {profile : UInt8} (h : KnownProfile profile) :
    domain profile = some (domainName profile) := by
  rcases h with rfl | rfl <;> rfl

/-- Both domains have the same length. -/
theorem length_domainName {profile : UInt8} (h : KnownProfile profile) :
    (domainName profile).length = 21 := by
  rcases h with rfl | rfl <;> decide

/-- The domain determines the profile. -/
theorem domainName_injective {profile profile' : UInt8} (h : KnownProfile profile)
    (h' : KnownProfile profile') (heq : domainName profile = domainName profile') :
    profile = profile' := by
  rcases h with rfl | rfl <;> rcases h' with rfl | rfl <;>
    first | rfl | (revert heq; decide)

theorem label_eq_some {profile : UInt8} {suffix : String} (h : KnownProfile profile)
    (hsuffix : (ascii suffix).length < 43) :
    label profile suffix = some (domainName profile ++ ascii suffix) := by
  have hlength := length_domainName h
  rw [label, domain_eq_domainName h, Option.bind_some, if_neg (by omega)]

/-! ## The frame -/

/-- The frame with a given subtype and payload. -/
def frame (profile subtype : UInt8) (payload : Bytes) : Bytes :=
  magic ++ [profile, subtype] ++ bigEndian 2 payload.length ++ payload

/-- The sizes of the payloads are below 256. -/
theorem payloadSize_le {subtype : UInt8} {size : ℕ} (h : payloadSize subtype = some size) :
    size ≤ 96 := by
  unfold payloadSize at h
  split_ifs at h <;> simp_all <;> omega

/-- The frame determines the profile, the subtype and the payload. -/
theorem frame_inj {profile profile' subtype subtype' : UInt8} {payload payload' : Bytes} :
    frame profile subtype payload = frame profile' subtype' payload' ↔
      profile = profile' ∧ subtype = subtype' ∧ payload = payload' := by
  constructor
  · intro h
    simp only [frame, List.append_assoc] at h
    have htail := List.append_cancel_left h
    simp only [List.cons_append, List.nil_append, List.cons.injEq] at htail
    obtain ⟨hprofile, hsubtype, hrest⟩ := htail
    exact ⟨hprofile, hsubtype, (List.append_inj hrest (by simp)).2⟩
  · rintro ⟨rfl, rfl, rfl⟩
    rfl

theorem length_frame (profile subtype : UInt8) (payload : Bytes) :
    (frame profile subtype payload).length = 8 + payload.length := by
  simp only [frame, List.length_append, List.length_cons, List.length_nil, length_bigEndian,
    show magic.length = 4 from rfl]

/-- Reading behind the header reads in the payload. -/
theorem slice_frame (profile subtype : UInt8) (payload : Bytes) (offset n : ℕ) :
    Block.slice (frame profile subtype payload) (8 + offset) n = Block.slice payload offset n := by
  rw [Block.slice, Block.slice, ← List.drop_drop]
  rfl

theorem declaredLength_frame {profile subtype : UInt8} {payload : Bytes}
    (h : payload.length ≤ 96) : declaredLength (frame profile subtype payload) = payload.length := by
  have hvalue : ofBigEndian (bigEndian 2 payload.length) = payload.length :=
    ofBigEndian_bigEndian (by omega)
  have hbytes : bigEndian 2 payload.length =
      [(frame profile subtype payload).getD 6 0, (frame profile subtype payload).getD 7 0] := by
    rfl
  rw [hbytes] at hvalue
  simpa [ofBigEndian, declaredLength] using hvalue

/-- **The C parser accepts exactly the frames.** -/
theorem pqResumeParse_eq_some_iff {profile subtype : UInt8} {wire payload : Bytes} :
    pqResumeParse profile wire = some (subtype, payload) ↔
      KnownProfile profile ∧ payloadSize subtype = some payload.length ∧
        wire = frame profile subtype payload := by
  constructor
  · intro h
    unfold pqResumeParse at h
    split_ifs at h with hbad
    simp only [not_or, not_lt, ne_eq, not_not, Option.some.injEq, Prod.mk.injEq,
      domain_eq_none_iff] at hbad h
    obtain ⟨hdomain, hlength, hmagic, hprofile, hsize, hdeclared⟩ := hbad
    obtain ⟨rfl, rfl⟩ := h
    obtain ⟨b0, b1, b2, b3, b4, b5, b6, b7, payload, rfl⟩ := exists_header hlength
    simp only [List.getD_cons_succ, List.getD_cons_zero, List.drop_succ_cons, List.drop_zero,
      List.take_succ_cons, List.take_zero, List.length_cons, declaredLength] at *
    refine ⟨hdomain, ?_, ?_⟩
    · cases hs : payloadSize b5 with
      | none => simp [hs] at hsize
      | some size =>
        simp only [hs, Option.all_some, decide_eq_true_eq, not_not] at hsize
        simp only [Option.some.injEq]
        omega
    · have hdeclared' : b6.toNat * 256 + b7.toNat = payload.length := by omega
      rw [frame, ← hmagic, ← hdeclared', bigEndian_two, hprofile]
      rfl
  · rintro ⟨hdomain, hsize, rfl⟩
    have hle := payloadSize_le hsize
    have hsubtype : (frame profile subtype payload).getD 5 0 = subtype := rfl
    have hprofile : (frame profile subtype payload).getD 4 0 = profile := rfl
    have hmagic : (frame profile subtype payload).take 4 = magic := rfl
    rw [pqResumeParse, if_neg]
    · rfl
    · rw [declaredLength_frame hle, length_frame, hsubtype, hprofile, hmagic, hsize]
      simp [hdomain]

/-- **The Python parser accepts exactly what the C parser accepts with the expected subtype.** -/
theorem parse_eq_ok_iff {profile expected : UInt8} {raw payload : Bytes} :
    parse raw profile expected = .ok payload ↔
      pqResumeParse profile raw = some (expected, payload) := by
  unfold parse pqResumeParse
  by_cases hdomain : KnownProfile profile
  swap
  · simp [hdomain]
  by_cases hlength : raw.length < 8
  · simp [hdomain, hlength]
  by_cases hmagic : raw.take 4 = magic
  swap
  · simp [hdomain, hmagic]
  by_cases hprofile : raw.getD 4 0 = profile
  swap
  · rw [if_neg (by simpa using hdomain), if_neg (by simp [hlength, hmagic]), if_pos hprofile,
      if_pos (by simp only [ne_eq, hprofile, not_false_eq_true, true_or, or_true])]
    simp
  cases hsize : payloadSize (raw.getD 5 0) with
  | none => simp_all
  | some size =>
    by_cases hsizes : raw.length = 8 + size ∧ declaredLength raw = size
    · by_cases hexpected : raw.getD 5 0 = expected <;> simp_all
    · rw [not_and_or] at hsizes
      rcases hsizes with h | h
      · simp_all
      · by_cases h' : raw.length = 8 + size <;> simp_all

/-- A successful C encoding is the frame. -/
theorem pqResumeEncode_eq_some {profile subtype : UInt8} {payload : Bytes} {capacity : ℕ}
    (hdomain : KnownProfile profile) (hsize : payloadSize subtype = some payload.length)
    (hcapacity : 8 + payload.length ≤ capacity) :
    pqResumeEncode profile subtype payload capacity = some (frame profile subtype payload) := by
  have hle := payloadSize_le hsize
  have hhigh : payload.length / 256 = 0 := by omega
  have hlow : payload.length % 256 = payload.length := by omega
  rw [pqResumeEncode, if_neg, frame]
  · simp [bigEndian, hhigh, hlow]
  · rw [domain_eq_none_iff, hsize]
    simp only [hdomain, not_true_eq_false, ne_eq, false_or]
    omega

/-- A successful Python encoding is the frame. -/
theorem encode_eq_ok {profile subtype : UInt8} {payload : Bytes}
    (hdomain : KnownProfile profile) (hsize : payloadSize subtype = some payload.length) :
    encode profile subtype payload = .ok (frame profile subtype payload) := by
  rw [encode, if_neg (by simpa using hdomain), if_neg (not_not.mpr hsize)]
  rfl

end PqBleHandshake.Resumption
