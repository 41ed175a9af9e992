import PqBleHandshake.Application.Cp4

/-!
# The Central's application channel

`v1_cp4.py`: the frame codec, the AEAD of one frame and `CentralApplication`.  Sequence numbers are
Python integers and are checked against the 64-bit range wherever the code checks them.  A raised
`ValueError` is `none`, and every method that raises has cleared the object.
-/

namespace PqBleHandshake.Python

open Foundation

/-- `UINT64_MAX` of `v1_cp4.py`. -/
def maxSequence : ℕ := 2 ^ 64 - 1

/-- `_profile_label`; the baseline profile has its own label, the others take it from `domain`. -/
def profileLabel (profile : UInt8) (suffix : String) : Option Bytes :=
  if profile = pqV10 then some (ascii "PQ-BLE-HANDSHAKE-v1.0" ++ ascii suffix)
  else (Resumption.domain profile).map fun name ↦ name ++ ascii suffix

/-- `_encode` -/
def encode (profile subtype : UInt8) (payload : Bytes) : Option Bytes := do
  let raw ← encodeV1Frame subtype payload
  let _ ← profileLabel profile "/"
  return raw.take 4 ++ [profile] ++ raw.drop 5

/-- `_parse`: the subtype and the payload. -/
def parse (profile : UInt8) (raw : Bytes) : Option (UInt8 × Bytes) := do
  let _ ← profileLabel profile "/"
  guard (8 ≤ raw.length ∧ raw.getD 4 0 = profile)
  parseV1Frame (raw.take 4 ++ [0x10] ++ raw.drop 5)

/-- `derive_iv_base` -/
def deriveIvBase (crypto : Crypto) (profile : UInt8) (key : Block 32) (sid : Bytes)
    (subtype : UInt8) : Option (Block 12) :=
  if ¬IsApp subtype ∨ sid.length ≠ 16 then none
  else (profileLabel profile (if subtype = pqV1AppC2p then "/IV-C2P" else "/IV-P2C")).map
    fun label ↦ .ofBytes 12 (crypto.mac key (label ++ sid ++ [1])).bytes

/-- `nonce_for_sequence` -/
def nonceForSequence (iv : Block 12) (seq : ℕ) : Option (Block 12) :=
  if seq ≤ maxSequence then
    some ⟨xorBytes iv.bytes (List.replicate 4 0 ++ bigEndian 8 seq), by simp⟩
  else none

/-- `validate_sequence` -/
def validateSequence (received expected : ℕ) : Option Unit :=
  if received ≤ maxSequence ∧ expected ≤ maxSequence ∧ expected ≠ maxSequence ∧
      received = expected then some ()
  else none

/-- `_prefix` -/
def framePrefix (subtype : UInt8) (seq : ℕ) (msgType : UInt8) (plaintextLen : ℕ) : Option Bytes :=
  if IsApp subtype ∧ seq ≤ maxSequence ∧ plaintextLen ≤ pqV1Cp4MaxPlaintext then
    some (bigEndian 8 seq ++ [msgType] ++ bigEndian 2 plaintextLen)
  else none

/-- `encode_application_frame` -/
def encodeApplicationFrame (profile subtype : UInt8) (seq : ℕ) (msgType : UInt8)
    (ciphertext tag : Bytes) : Option Bytes := do
  let front ← framePrefix subtype seq msgType ciphertext.length
  guard (tag.length = 16)
  encode profile subtype (front ++ ciphertext ++ tag)

/-- `ApplicationFrame` -/
structure ApplicationFrame where
  subtype : UInt8
  seq : ℕ
  msgType : UInt8
  ciphertext : Bytes
  tag : Bytes
deriving DecidableEq

/-- `parse_application_frame` -/
def parseApplicationFrame (profile : UInt8) (raw : Bytes) (expectedSubtype : UInt8) :
    Option ApplicationFrame := do
  let (subtype, payload) ← parse profile raw
  let size := ofBigEndian ((payload.drop 9).take 2)
  guard (IsApp expectedSubtype ∧ subtype = expectedSubtype ∧ size ≤ pqV1Cp4MaxPlaintext ∧
    payload.length = 27 + size)
  return { subtype, seq := ofBigEndian (payload.take 8), msgType := payload.getD 8 0
           ciphertext := (payload.drop 11).take (payload.length - 16 - 11)
           tag := payload.drop (payload.length - 16) }

/-- `build_aad` -/
def buildAad (profile : UInt8) (sid exactHeader : Bytes) (seq : ℕ) (msgType : UInt8)
    (plaintextLen : ℕ) : Option Bytes := do
  guard (sid.length = 16 ∧ exactHeader.length = 8)
  let front ← framePrefix (exactHeader.getD 5 0) seq msgType plaintextLen
  let expected := v1Magic ++ [profile] ++ [exactHeader.getD 5 0] ++ bigEndian 2 (27 + plaintextLen)
  let label ← profileLabel profile "/CP4-AAD"
  guard (exactHeader = expected)
  return label ++ sid ++ exactHeader ++ front

/-- `encrypt_application` -/
def encryptApplication (aead : Aead) (profile : UInt8) (key : Block 32) (iv : Block 12) (sid : Bytes)
    (subtype : UInt8) (seq : ℕ) (msgType : UInt8) (plaintext : Bytes) : Option Bytes := do
  let skeleton ← encodeApplicationFrame profile subtype seq msgType
    (List.replicate plaintext.length 0) (List.replicate 16 0)
  let aad ← buildAad profile sid (skeleton.take 8) seq msgType plaintext.length
  let nonce ← nonceForSequence iv seq
  return skeleton.take 19 ++ aead.encrypt key nonce aad plaintext

/-- `decrypt_application` -/
def decryptApplication (aead : Aead) (profile : UInt8) (key : Block 32) (iv : Block 12) (sid raw : Bytes)
    (expectedSubtype : UInt8) (expectedSeq : ℕ) : Option Bytes := do
  let frame ← parseApplicationFrame profile raw expectedSubtype
  validateSequence frame.seq expectedSeq
  let aad ← buildAad profile sid (raw.take 8) frame.seq frame.msgType frame.ciphertext.length
  let nonce ← nonceForSequence iv frame.seq
  let plaintext ← aead.decrypt key nonce aad (frame.ciphertext ++ frame.tag)
  let expectedType := if expectedSubtype = pqV1AppC2p then pqV1Cp4Ping else pqV1Cp4Pong
  guard (frame.msgType = expectedType ∧ plaintext.length = 16)
  return plaintext

/-- The part of a handshake object that the channel borrows; `secure` is its state `APP_SECURE`. -/
structure Handshake where
  profile : UInt8
  secure : Bool
  appC2p : Block 32
  appP2c : Block 32
  sessionId : Bytes
deriving DecidableEq

/-- `clear` of the handshake object. -/
def Handshake.clear (handshake : Handshake) : Handshake :=
  { handshake with secure := false, appC2p := .zero 32, appP2c := .zero 32, sessionId := [] }

/-- `CentralApplication` -/
structure CentralApplication where
  handshake : Handshake
  ivC2p : Block 12
  ivP2c : Block 12
  txC2p : ℕ
  rxP2c : ℕ
deriving DecidableEq

namespace CentralApplication

/-- `clear` -/
def clear (app : CentralApplication) : CentralApplication :=
  { app with handshake := app.handshake.clear, ivC2p := .zero 12, ivP2c := .zero 12 }

/-- The constructor: supplied IV bases are taken, missing ones derived. -/
def create (crypto : Crypto) (handshake : Handshake) (ivC2p ivP2c : Option (Block 12)) :
    Option CentralApplication := do
  guard (handshake.secure = true)
  let ivC2p ← ivC2p <|> deriveIvBase crypto handshake.profile handshake.appC2p
    handshake.sessionId pqV1AppC2p
  let ivP2c ← ivP2c <|> deriveIvBase crypto handshake.profile handshake.appP2c
    handshake.sessionId pqV1AppP2c
  return { handshake, ivC2p, ivP2c, txC2p := 0, rxP2c := 0 }

/-- The body of `encrypt_ping`: the frame. -/
def encryptPingBody (aead : Aead) (app : CentralApplication) (challenge : Bytes) (mtu : ℕ) :
    Option Bytes := do
  guard (app.handshake.secure = true)
  validateSequence app.txC2p app.txC2p
  guard (challenge.length = 16 ∧ pqV1Cp4FrameOverhead + challenge.length + 3 ≤ mtu)
  encryptApplication aead app.handshake.profile app.handshake.appC2p app.ivC2p
    app.handshake.sessionId pqV1AppC2p app.txC2p pqV1Cp4Ping challenge

/-- `encrypt_ping` -/
def encryptPing (aead : Aead) (app : CentralApplication) (challenge : Bytes) (mtu : ℕ) :
    Option Bytes × CentralApplication :=
  match encryptPingBody aead app challenge mtu with
  | some frame => (some frame, { app with txC2p := app.txC2p + 1 })
  | none => (none, app.clear)

/-- The body of `accept_pong`: the plaintext. -/
def acceptPongBody (aead : Aead) (app : CentralApplication) (raw challenge : Bytes) (mtu : ℕ) :
    Option Bytes := do
  guard (app.handshake.secure = true ∧ raw.length + 3 ≤ mtu)
  let plaintext ← decryptApplication aead app.handshake.profile app.handshake.appP2c app.ivP2c
    app.handshake.sessionId raw pqV1AppP2c app.rxP2c
  guard (plaintext = challenge)
  return plaintext

/-- `accept_pong`; the returned plaintext is the one that matched the challenge. -/
def acceptPong (aead : Aead) (app : CentralApplication) (raw challenge : Bytes) (mtu : ℕ) :
    Option Bytes × CentralApplication :=
  match acceptPongBody aead app raw challenge mtu with
  | some plaintext => (some plaintext, { app with rxP2c := app.rxP2c + 1 })
  | none => (none, app.clear)

end CentralApplication

/-! ## What the codec accepts and produces -/

/-- The profiles that `_profile_label` knows. -/
def KnownApp (profile : UInt8) : Prop := profile = pqV10 ∨ Resumption.KnownProfile profile

theorem profileLabel_eq_some_iff {profile : UInt8} {suffix : String} {label : Bytes} :
    profileLabel profile suffix = some label ↔
      KnownApp profile ∧ label = appDomain profile ++ ascii suffix := by
  by_cases hbase : profile = pqV10
  · simp [profileLabel, appDomain, KnownApp, hbase, eq_comm]
  by_cases hknown : Resumption.KnownProfile profile
  · simp [profileLabel, appDomain, KnownApp, hbase, hknown, Resumption.domain_eq_domainName hknown,
      eq_comm]
  · simp [profileLabel, KnownApp, hbase, hknown, Resumption.domain_eq_none_iff.mpr hknown]

/-- Changing the version byte of a frame. -/
theorem setVersion_v1Frame (version version' subtype : UInt8) (payload : Bytes) :
    (v1Frame version subtype payload).take 4 ++ [version'] ++ (v1Frame version subtype payload).drop 5 =
      v1Frame version' subtype payload := by
  rfl

theorem encode_eq_some_iff {profile subtype : UInt8} {payload wire : Bytes} :
    encode profile subtype payload = some wire ↔
      KnownApp profile ∧ ValidPayload subtype payload ∧ wire = v1Frame profile subtype payload := by
  simp only [encode, Option.bind_eq_bind, Option.bind_eq_some_iff, encodeV1Frame_eq_some_iff,
    profileLabel_eq_some_iff, Option.pure_def, Option.some.injEq]
  constructor
  · rintro ⟨_, ⟨hvalid, rfl⟩, _, ⟨hknown, -⟩, rfl⟩
    exact ⟨hknown, hvalid, setVersion_v1Frame _ _ _ _⟩
  · rintro ⟨hknown, hvalid, rfl⟩
    exact ⟨_, ⟨hvalid, rfl⟩, _, ⟨hknown, rfl⟩, setVersion_v1Frame _ _ _ _⟩

theorem parse_eq_some_iff {profile subtype : UInt8} {raw payload : Bytes} :
    parse profile raw = some (subtype, payload) ↔
      KnownApp profile ∧ ValidPayload subtype payload ∧ raw = v1Frame profile subtype payload := by
  constructor
  · intro h
    simp only [parse, Option.bind_eq_bind, Option.bind_eq_some_iff, profileLabel_eq_some_iff,
      Option.guard_eq_some'] at h
    obtain ⟨_, ⟨hknown, -⟩, hparse⟩ := h
    obtain ⟨_, hheader, hparse⟩ := hparse
    obtain ⟨hlength, hprofile⟩ := hheader
    obtain ⟨hvalid, hframe⟩ := parseV1Frame_eq_some_iff.mp hparse
    obtain ⟨b0, b1, b2, b3, b4, b5, b6, b7, rest, rfl⟩ := exists_header hlength
    obtain rfl : b4 = profile := hprofile
    refine ⟨hknown, hvalid, ?_⟩
    rw [← setVersion_v1Frame pqV10, ← hframe]
    rfl
  · rintro ⟨hknown, hvalid, rfl⟩
    have hlength := length_v1Frame profile subtype payload
    have hprofile : (v1Frame profile subtype payload).getD 4 0 = profile := rfl
    simp only [parse, Option.bind_eq_bind, Option.bind_eq_some_iff, profileLabel_eq_some_iff,
      Option.guard_eq_some']
    refine ⟨_, ⟨hknown, rfl⟩, (), ⟨by omega, hprofile⟩, ?_⟩
    rw [show (0x10 : UInt8) = pqV10 from rfl, setVersion_v1Frame]
    exact parseV1Frame_eq_some_iff.mpr ⟨hvalid, rfl⟩

theorem toNat_ofNat_sequence {seq : ℕ} (h : seq ≤ maxSequence) : (UInt64.ofNat seq).toNat = seq := by
  rw [UInt64.toNat_ofNat', Nat.mod_eq_of_lt]
  exact lt_of_le_of_lt h (by decide)

theorem nonceForSequence_eq_some_iff {iv nonce : Block 12} {seq : ℕ} :
    nonceForSequence iv seq = some nonce ↔
      seq ≤ maxSequence ∧ nonce = pqV1Cp4Nonce iv (UInt64.ofNat seq) := by
  unfold nonceForSequence
  split_ifs with h
  · simp only [pqV1Cp4Nonce, toNat_ofNat_sequence h, Option.some.injEq, h, true_and, eq_comm]
  · simp [h]

theorem framePrefix_eq_some_iff {subtype msgType : UInt8} {seq len : ℕ} {front : Bytes} :
    framePrefix subtype seq msgType len = some front ↔
      IsApp subtype ∧ seq ≤ maxSequence ∧ len ≤ pqV1Cp4MaxPlaintext ∧
        front = cp4Prefix (UInt64.ofNat seq) msgType len := by
  unfold framePrefix
  split_ifs with h
  · simp only [cp4Prefix, toNat_ofNat_sequence h.2.1, Option.some.injEq, h, true_and, eq_comm,
      List.append_assoc]
  · constructor
    · intro hnone
      cases hnone
    · rintro ⟨happ, hseq, hlen, -⟩
      exact absurd ⟨happ, hseq, hlen⟩ h

theorem validateSequence_eq_some_iff {received expected : ℕ} {value : Unit} :
    validateSequence received expected = some value ↔
      received = expected ∧ expected < maxSequence := by
  unfold validateSequence
  split_ifs with h
  · simp only [true_iff]
    omega
  · constructor
    · intro hnone
      cases hnone
    · rintro ⟨rfl, hlt⟩
      exact absurd ⟨hlt.le, hlt.le, hlt.ne, rfl⟩ h

/-- The associated data of a frame under its own header. -/
theorem buildAad_eq_some_iff {profile direction msgType : UInt8} {sid header aad : Bytes}
    {seq len : ℕ} (hdirection : header.getD 5 0 = direction) :
    buildAad profile sid header seq msgType len = some aad ↔
      KnownApp profile ∧ IsApp direction ∧ seq ≤ maxSequence ∧ len ≤ pqV1Cp4MaxPlaintext ∧
        header = v1Magic ++ [profile, direction] ++ bigEndian 2 (27 + len) ∧
        ∃ sid' : Block 16, sid = sid'.bytes ∧
          aad = cp4Aad profile sid' direction (UInt64.ofNat seq) msgType len := by
  have hheader : v1Magic ++ [profile] ++ [direction] ++ bigEndian 2 (27 + len) =
      v1Magic ++ [profile, direction] ++ bigEndian 2 (27 + len) := rfl
  simp only [buildAad, hdirection, hheader, Option.bind_eq_bind, Option.bind_eq_some_iff,
    framePrefix_eq_some_iff, profileLabel_eq_some_iff, Option.guard_eq_some', Option.pure_def,
    Option.some.injEq]
  constructor
  · rintro ⟨_, ⟨hsid, -⟩, front, ⟨happ, hseq, hlen, rfl⟩, label, ⟨hknown, rfl⟩, _, hexact, rfl⟩
    refine ⟨hknown, happ, hseq, hlen, hexact, ⟨sid, hsid⟩, rfl, ?_⟩
    rw [cp4Aad, hexact]
    simp only [List.append_assoc, pqV1Cp4PayloadOverhead]
  · rintro ⟨hknown, happ, hseq, hlen, rfl, sid', rfl, rfl⟩
    refine ⟨(), ⟨sid'.length_bytes, ?_⟩, _, ⟨happ, hseq, hlen, rfl⟩, _, ⟨hknown, rfl⟩, (), rfl, ?_⟩
    · simp only [List.length_append, List.length_cons, List.length_nil, length_bigEndian,
        show v1Magic.length = 4 from rfl]
    · rw [cp4Aad]
      simp only [List.append_assoc, pqV1Cp4PayloadOverhead]

/-- The frame that `parse_application_frame` returns, in terms of the wire bytes. -/
structure Parsed (profile : UInt8) (raw : Bytes) (direction : UInt8) (frame : ApplicationFrame) :
    Prop where
  known : KnownApp profile
  app : IsApp direction
  seq_le : frame.seq ≤ maxSequence
  length_le : frame.ciphertext.length ≤ pqV1Cp4MaxPlaintext
  length_sealed : (frame.ciphertext ++ frame.tag).length = frame.ciphertext.length + 16
  raw_eq : raw = cp4Wire profile direction (UInt64.ofNat frame.seq) frame.msgType
    (frame.ciphertext ++ frame.tag)

theorem parseApplicationFrame_eq_some {profile direction : UInt8} {raw : Bytes}
    {frame : ApplicationFrame} (h : parseApplicationFrame profile raw direction = some frame) :
    Parsed profile raw direction frame := by
  simp only [parseApplicationFrame, Option.bind_eq_bind, Option.bind_eq_some_iff,
    Option.guard_eq_some', Prod.exists, parse_eq_some_iff, Option.pure_def, Option.some.injEq] at h
  obtain ⟨subtype, payload, ⟨hknown, hvalid, rfl⟩, _, ⟨happ, rfl, hsize, hlength⟩, rfl⟩ := h
  have hlong : 9 + 2 ≤ payload.length := by omega
  rw [ofBigEndian_slice hlong] at hsize hlength
  have hinner : payload.length = pqV1Cp4PayloadOverhead + innerLength payload := hlength
  have hpieces : (payload.drop 11).take (payload.length - 16 - 11) ++
      payload.drop (payload.length - 16) = payload.drop 11 := by
    have hsplit := List.take_append_drop (payload.length - 16 - 11) (payload.drop 11)
    have hend : 11 + (payload.length - 16 - 11) = payload.length - 16 := by
      rw [hinner, pqV1Cp4PayloadOverhead]
      omega
    rwa [List.drop_drop, hend] at hsplit
  have hcipher : ((payload.drop 11).take (payload.length - 16 - 11)).length = innerLength payload := by
    rw [List.length_take, List.length_drop, hinner, pqV1Cp4PayloadOverhead]
    omega
  have hsealed : (payload.drop 11).length = innerLength payload + 16 := by
    rw [List.length_drop, hinner, pqV1Cp4PayloadOverhead]
    omega
  have hhead : (payload.take 8).length = 8 := by
    rw [List.length_take]
    omega
  have hseq := ofBigEndian_lt (payload.take 8)
  rw [hhead] at hseq
  refine ⟨hknown, happ, Nat.le_pred_of_lt hseq, ?_, ?_, ?_⟩
  · dsimp only
    rw [hcipher]
    exact hsize
  · dsimp only
    rw [hpieces, hcipher, hsealed]
  · dsimp only
    rw [hpieces, cp4Wire, hsealed, Nat.add_sub_cancel, ← eq_cp4Prefix_append hinner]

/-- **Success of `decrypt_application`.** -/
theorem decryptApplication_eq_some {aead : Aead} {profile direction : UInt8} {key : Block 32}
    {iv : Block 12} {sid raw plaintext : Bytes} {seq : ℕ}
    (h : decryptApplication aead profile key iv sid raw direction seq = some plaintext) :
    seq < maxSequence ∧ ∃ (sid' : Block 16) (sealed : Bytes), sid = sid'.bytes ∧
      Cp4Opened aead profile key iv sid' raw direction (UInt64.ofNat seq) plaintext sealed := by
  simp only [decryptApplication, Option.bind_eq_bind, Option.bind_eq_some_iff,
    validateSequence_eq_some_iff, nonceForSequence_eq_some_iff, Option.guard_eq_some',
    Option.pure_def, Option.some.injEq] at h
  obtain ⟨frame, hparse, _, ⟨rfl, hlt⟩, aad, haad, nonce, ⟨-, rfl⟩, opened, hopen, _,
    ⟨htype, hplain⟩, rfl⟩ := h
  obtain ⟨-, happ, -, hlen, hsealed, hraw⟩ := parseApplicationFrame_eq_some hparse
  have hdirection : (raw.take 8).getD 5 0 = direction := by
    rw [hraw]
    rfl
  obtain ⟨-, -, -, -, hheader, sid', rfl, rfl⟩ := (buildAad_eq_some_iff hdirection).mp haad
  -- What the AEAD opens is sixteen bytes shorter than what it was given.
  have hlength : frame.ciphertext.length = 16 := by
    have hboth := aead.length_decrypt _ _ _ _ _ hopen
    omega
  rw [hlength] at hsealed hopen
  rw [htype] at hraw hopen
  exact ⟨hlt, sid', _, rfl, happ, hraw, hsealed, hopen, hplain, by
    intro hmax
    have hvalue := congrArg UInt64.toNat hmax
    rw [toNat_ofNat_sequence hlt.le] at hvalue
    exact absurd hvalue hlt.ne⟩

/-- **Success of `encrypt_application`.** -/
theorem encryptApplication_eq_some {aead : Aead} {profile direction msgType : UInt8} {key : Block 32}
    {iv : Block 12} {sid plaintext wire : Bytes} {seq : ℕ}
    (h : encryptApplication aead profile key iv sid direction seq msgType plaintext = some wire) :
    seq ≤ maxSequence ∧ ∃ sid' : Block 16, sid = sid'.bytes ∧
      wire = cp4Wire profile direction (UInt64.ofNat seq) msgType
        (aead.encrypt key (pqV1Cp4Nonce iv (UInt64.ofNat seq))
          (cp4Aad profile sid' direction (UInt64.ofNat seq) msgType plaintext.length) plaintext) := by
  simp only [encryptApplication, encodeApplicationFrame, Option.bind_eq_bind,
    Option.bind_eq_some_iff, framePrefix_eq_some_iff, encode_eq_some_iff, Option.guard_eq_some',
    nonceForSequence_eq_some_iff, Option.pure_def, Option.some.injEq, List.length_replicate] at h
  obtain ⟨skeleton, ⟨_, ⟨happ, hseq, hlen, rfl⟩, _, -, -, -, rfl⟩, aad, haad, _, ⟨-, rfl⟩, rfl⟩ := h
  have hblank : (List.replicate plaintext.length (0 : UInt8) ++ List.replicate 16 0).length =
      plaintext.length + 16 := by simp
  have hskeleton : v1Frame profile direction (cp4Prefix (UInt64.ofNat seq) msgType plaintext.length ++
      List.replicate plaintext.length 0 ++ List.replicate 16 0) =
        cp4Wire profile direction (UInt64.ofNat seq) msgType
          (List.replicate plaintext.length 0 ++ List.replicate 16 0) := by
    rw [cp4Wire, hblank, Nat.add_sub_cancel, List.append_assoc]
  rw [hskeleton] at haad ⊢
  have hdirection : ((cp4Wire profile direction (UInt64.ofNat seq) msgType
      (List.replicate plaintext.length 0 ++ List.replicate 16 0)).take 8).getD 5 0 = direction := rfl
  obtain ⟨-, -, -, -, -, sid', rfl, rfl⟩ := (buildAad_eq_some_iff hdirection).mp haad
  refine ⟨hseq, sid', rfl, ?_⟩
  have hsealed := aead.length_encrypt key (pqV1Cp4Nonce iv (UInt64.ofNat seq))
    (cp4Aad profile sid' direction (UInt64.ofNat seq) msgType plaintext.length) plaintext
  exact take_cp4Wire_append hblank hsealed

namespace CentralApplication

/-- What a successful `encrypt_ping` did. -/
structure Pinged (aead : Aead) (app : CentralApplication) (challenge wire : Bytes)
    (app' : CentralApplication) (sid : Block 16) : Prop where
  secure : app.handshake.secure = true
  seq_lt : app.txC2p < maxSequence
  length_challenge : challenge.length = 16
  sid_eq : app.handshake.sessionId = sid.bytes
  wire_eq : wire = cp4Wire app.handshake.profile pqV1AppC2p (UInt64.ofNat app.txC2p) pqV1Cp4Ping
    (aead.encrypt app.handshake.appC2p (pqV1Cp4Nonce app.ivC2p (UInt64.ofNat app.txC2p))
      (cp4Aad app.handshake.profile sid pqV1AppC2p (UInt64.ofNat app.txC2p) pqV1Cp4Ping 16) challenge)
  app_eq : app' = { app with txC2p := app.txC2p + 1 }

/-- What a successful `accept_pong` did. -/
structure Ponged (aead : Aead) (app : CentralApplication) (raw challenge : Bytes)
    (app' : CentralApplication) (sid : Block 16) (sealed : Bytes) : Prop where
  secure : app.handshake.secure = true
  seq_lt : app.rxP2c < maxSequence
  sid_eq : app.handshake.sessionId = sid.bytes
  opened : Cp4Opened aead app.handshake.profile app.handshake.appP2c app.ivP2c sid raw pqV1AppP2c
    (UInt64.ofNat app.rxP2c) challenge sealed
  app_eq : app' = { app with rxP2c := app.rxP2c + 1 }

variable {aead : Aead} {app app' : CentralApplication} {challenge raw : Bytes} {mtu : ℕ}

/-- Both outcomes of `encrypt_ping`. -/
theorem encryptPing_cases {result : Option Bytes}
    (h : app.encryptPing aead challenge mtu = (result, app')) :
    (∃ wire sid, result = some wire ∧ Pinged aead app challenge wire app' sid) ∨
      result = none ∧ app' = app.clear := by
  unfold encryptPing at h
  cases hbody : encryptPingBody aead app challenge mtu with
  | none =>
    rw [hbody] at h
    obtain ⟨rfl, rfl⟩ := Prod.mk.inj h
    exact .inr ⟨rfl, rfl⟩
  | some wire =>
    rw [hbody] at h
    obtain ⟨rfl, rfl⟩ := Prod.mk.inj h
    simp only [encryptPingBody, Option.bind_eq_bind, Option.bind_eq_some_iff, Option.guard_eq_some',
      validateSequence_eq_some_iff] at hbody
    obtain ⟨_, hsecure, _, ⟨-, hlt⟩, _, ⟨hlength, -⟩, hencrypt⟩ := hbody
    obtain ⟨-, sid, hsid, hwire⟩ := encryptApplication_eq_some hencrypt
    rw [hlength] at hwire
    exact .inl ⟨wire, sid, rfl, hsecure, hlt, hlength, hsid, hwire, rfl⟩

/-- Both outcomes of `accept_pong`. -/
theorem acceptPong_cases {result : Option Bytes}
    (h : app.acceptPong aead raw challenge mtu = (result, app')) :
    (∃ sid sealed, result = some challenge ∧ Ponged aead app raw challenge app' sid sealed) ∨
      result = none ∧ app' = app.clear := by
  unfold acceptPong at h
  cases hbody : acceptPongBody aead app raw challenge mtu with
  | none =>
    rw [hbody] at h
    obtain ⟨rfl, rfl⟩ := Prod.mk.inj h
    exact .inr ⟨rfl, rfl⟩
  | some plaintext =>
    rw [hbody] at h
    obtain ⟨rfl, rfl⟩ := Prod.mk.inj h
    simp only [acceptPongBody, Option.bind_eq_bind, Option.bind_eq_some_iff, Option.guard_eq_some',
      Option.pure_def, Option.some.injEq] at hbody
    obtain ⟨_, ⟨hsecure, -⟩, opened, hdecrypt, _, rfl, rfl⟩ := hbody
    obtain ⟨hlt, sid, sealed, hsid, hopened⟩ := decryptApplication_eq_some hdecrypt
    exact .inl ⟨sid, sealed, rfl, hsecure, hlt, hsid, hopened, rfl⟩

end CentralApplication

end PqBleHandshake.Python
