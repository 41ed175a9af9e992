import PqBleHandshake.Primitives
import PqBleHandshake.V1Frame

/-!
# CP4 application frames

`pq_v1_cp4.c`: the IV base, the nonce of a sequence number, the frame parser, the associated data,
and the AEAD encryption and decryption of one frame.  The AEAD is a parameter.

A frame is accepted at one sequence number and in one direction only, and the associated data repeats
the session id, the direction, the sequence number and the message type, so what an AEAD opening
proves about the associated data it proves about the frame.
-/

namespace PqBleHandshake

open Foundation

/-- The AEAD of the cryptographic library: AES-256-GCM with a 12-byte nonce and a 16-byte tag behind
the ciphertext.  The arguments are the key, the nonce, the associated data and the input. -/
structure Aead where
  encrypt : Block 32 → Block 12 → Bytes → Bytes → Bytes
  decrypt : Block 32 → Block 12 → Bytes → Bytes → Option Bytes
  length_encrypt : ∀ key nonce aad plaintext,
    (encrypt key nonce aad plaintext).length = plaintext.length + 16
  length_decrypt : ∀ key nonce aad sealed plaintext,
    decrypt key nonce aad sealed = some plaintext → sealed.length = plaintext.length + 16
  decrypt_encrypt : ∀ key nonce aad plaintext,
    decrypt key nonce aad (encrypt key nonce aad plaintext) = some plaintext

/-- The tag of the computable instance. -/
def polynomialTag (key : Block 32) (nonce : Block 12) (aad plaintext : Bytes) : Block 16 :=
  .ofBytes 16 (polynomialCrypto.mac key (nonce.bytes ++ aad ++ plaintext)).bytes.reverse

/-- A computable instance that authenticates with the polynomial MAC; it stands in for AES-GCM where an
execution is evaluated. -/
def polynomialAead : Aead where
  encrypt key nonce aad plaintext := plaintext ++ (polynomialTag key nonce aad plaintext).bytes
  decrypt key nonce aad sealed :=
    let plaintext := sealed.take (sealed.length - 16)
    if 16 ≤ sealed.length ∧
        sealed.drop (sealed.length - 16) = (polynomialTag key nonce aad plaintext).bytes then
      some plaintext
    else none
  length_encrypt key nonce aad plaintext := by simp
  length_decrypt key nonce aad sealed plaintext h := by
    dsimp only at h
    split_ifs at h with hcheck
    obtain rfl := Option.some.inj h
    rw [List.length_take]
    omega
  decrypt_encrypt key nonce aad plaintext := by
    simp

/-- `PQ_V1_CP4_PING` -/
def pqV1Cp4Ping : UInt8 := 0x01
/-- `PQ_V1_CP4_PONG` -/
def pqV1Cp4Pong : UInt8 := 0x02
/-- `PQ_V1_CP4_FRAME_OVERHEAD` -/
def pqV1Cp4FrameOverhead : ℕ := 35
/-- `PQ_V1_CP4_FRAME_SIZE` -/
def pqV1Cp4FrameSize : ℕ := 51
/-- `UINT64_MAX`, which no session uses as a sequence number. -/
def uint64Max : UInt64 := 0xFFFFFFFFFFFFFFFF

/-- `pq_v1_cp4_iv`: one block of HKDF-Expand, cut to twelve bytes. -/
def pqV1Cp4Iv (crypto : Crypto) (faults : Faults) (version : UInt8) (key : Block 32)
    (sid : Block 16) (direction : UInt8) : Except Errno (Block 12) := do
  require (IsApp direction) .eio
  let label := appDomain version ++ ascii (if direction = pqV1AppC2p then "/IV-C2P" else "/IV-P2C")
  let block ← orFail .eio (pqCryptoMac crypto faults key (label ++ sid.bytes ++ [1]))
  return .ofBytes 12 block.bytes

/-- `pq_v1_cp4_nonce`: the IV base with the sequence number folded into its last eight bytes. -/
def pqV1Cp4Nonce (iv : Block 12) (seq : UInt64) : Block 12 :=
  ⟨xorBytes iv.bytes (List.replicate 4 0 ++ bigEndian 8 seq.toNat), by simp⟩

/-- `struct pq_v1_cp4_frame` -/
structure Cp4Frame where
  seq : UInt64
  msgType : UInt8
  plaintextLen : ℕ
  sealed : Bytes
deriving DecidableEq

/-- `pq_v1_cp4_parse` -/
def pqV1Cp4Parse (version : UInt8) (wire : Bytes) (direction : UInt8) : Except Errno Cp4Frame := do
  require (IsApp direction) .ebadmsg
  let (subtype, payload) ← (pqV1ParseFrame version wire).mapError fun _ ↦ .ebadmsg
  require (subtype = direction) .ebadmsg
  let plaintextLen := innerLength payload
  require (plaintextLen ≤ pqV1Cp4MaxPlaintext ∧
    payload.length = pqV1Cp4PayloadOverhead + plaintextLen) .emsgsize
  return { seq := UInt64.ofNat (ofBigEndian (payload.take 8)), msgType := payload.getD 8 0
           plaintextLen, sealed := payload.drop 11 }

/-- `pq_v1_cp4_aad`: the label, the session id and the first 19 bytes of the frame. -/
def pqV1Cp4Aad (version : UInt8) (sid : Block 16) (wire : Bytes) : Except Errno Bytes := do
  require (8 ≤ wire.length) .einval
  let _ ← (pqV1Cp4Parse version wire (wire.getD 5 0)).mapError fun _ ↦ .einval
  return appDomain version ++ ascii "/CP4-AAD" ++ sid.bytes ++ wire.take 19

/-- `pq_v1_cp4_encrypt`; `fault` is a failure of the AEAD call. -/
def pqV1Cp4Encrypt (aead : Aead) (fault : Bool) (version : UInt8) (key : Block 32) (iv : Block 12)
    (sid : Block 16) (direction : UInt8) (seq : UInt64) (msgType : UInt8) (plaintext : Bytes)
    (capacity : ℕ) : Except Errno Bytes := do
  require (IsApp direction ∧ plaintext.length ≤ pqV1Cp4MaxPlaintext ∧
    pqV1Cp4FrameOverhead + plaintext.length ≤ capacity) .einval
  let payload := bigEndian 8 seq.toNat ++ [msgType] ++ bigEndian 2 plaintext.length ++
    List.replicate (plaintext.length + 16) 0
  let wire ← pqV1EncodeFrame version direction payload capacity
  let aad ← pqV1Cp4Aad version sid wire
  require (fault = false) .eio
  let sealed := aead.encrypt key (pqV1Cp4Nonce iv seq) aad plaintext
  require (sealed.length = plaintext.length + 16) .eio
  return wire.take 19 ++ sealed

/-- `pq_v1_cp4_decrypt`; `fault` is a failure of the AEAD call.  A failed call returns no length, so the
length check replaces its error. -/
def pqV1Cp4Decrypt (aead : Aead) (fault : Bool) (version : UInt8) (key : Block 32) (iv : Block 12)
    (sid : Block 16) (wire : Bytes) (direction : UInt8) (expectedSeq : UInt64) (capacity : ℕ) :
    Except Errno Bytes := do
  let frame ← (pqV1Cp4Parse version wire direction).mapError fun _ ↦ .einval
  require (frame.seq = expectedSeq ∧ expectedSeq ≠ uint64Max ∧ frame.plaintextLen ≤ capacity) .einval
  let aad ← pqV1Cp4Aad version sid wire
  require (fault = false) .ebadmsg
  let plaintext ← orFail .ebadmsg (aead.decrypt key (pqV1Cp4Nonce iv frame.seq) aad frame.sealed)
  require (plaintext.length = 16 ∧ frame.plaintextLen = 16 ∧
    frame.msgType = if direction = pqV1AppC2p then pqV1Cp4Ping else pqV1Cp4Pong) .ebadmsg
  return plaintext

/-! ## Nonces -/

/-- **Nonces are injective in the sequence number.** -/
theorem pqV1Cp4Nonce_injective (iv : Block 12) : Function.Injective (pqV1Cp4Nonce iv) := by
  intro seq seq' h
  have hbytes : xorBytes iv.bytes (List.replicate 4 0 ++ bigEndian 8 seq.toNat) =
      xorBytes iv.bytes (List.replicate 4 0 ++ bigEndian 8 seq'.toNat) := congrArg Block.bytes h
  have hencoded := xorBytes_left_injective (by simp) (by simp) hbytes
  have hseq := bigEndian_injective seq.toNat_lt seq'.toNat_lt (List.append_cancel_left hencoded)
  exact UInt64.toNat_inj.mp hseq

/-! ## The frame of a message -/

/-- The eleven bytes of an application payload before the sealed string. -/
def cp4Prefix (seq : UInt64) (msgType : UInt8) (plaintextLen : ℕ) : Bytes :=
  bigEndian 8 seq.toNat ++ ([msgType] ++ bigEndian 2 plaintextLen)

/-- The frame of a sealed message. -/
def cp4Wire (version direction : UInt8) (seq : UInt64) (msgType : UInt8) (sealed : Bytes) : Bytes :=
  v1Frame version direction (cp4Prefix seq msgType (sealed.length - 16) ++ sealed)

/-- The associated data of a message. -/
def cp4Aad (version : UInt8) (sid : Block 16) (direction : UInt8) (seq : UInt64) (msgType : UInt8)
    (plaintextLen : ℕ) : Bytes :=
  appDomain version ++ ascii "/CP4-AAD" ++ sid.bytes ++
    (v1Magic ++ [version, direction] ++ bigEndian 2 (pqV1Cp4PayloadOverhead + plaintextLen) ++
      cp4Prefix seq msgType plaintextLen)

@[simp]
theorem length_cp4Prefix (seq : UInt64) (msgType : UInt8) (plaintextLen : ℕ) :
    (cp4Prefix seq msgType plaintextLen).length = 11 := by
  simp [cp4Prefix]

theorem cp4Prefix_inj {seq seq' : UInt64} {msgType msgType' : UInt8} {len len' : ℕ}
    (hlen : len < 65536) (hlen' : len' < 65536) :
    cp4Prefix seq msgType len = cp4Prefix seq' msgType' len' ↔
      seq = seq' ∧ msgType = msgType' ∧ len = len' := by
  constructor
  · intro h
    obtain ⟨hseq, hrest⟩ := List.append_inj h (by simp)
    obtain ⟨htype, hlength⟩ := List.append_inj hrest (by simp)
    exact ⟨UInt64.toNat_inj.mp (bigEndian_injective seq.toNat_lt seq'.toNat_lt hseq),
      by simpa using htype, bigEndian_injective hlen hlen' hlength⟩
  · rintro ⟨rfl, rfl, rfl⟩
    rfl

/-- **The associated data binds the session, the direction, the sequence number and the type.** -/
theorem cp4Aad_inj {version : UInt8} {sid sid' : Block 16} {direction direction' : UInt8}
    {seq seq' : UInt64} {msgType msgType' : UInt8} {len len' : ℕ} (hlen : len < 65536)
    (hlen' : len' < 65536) :
    cp4Aad version sid direction seq msgType len = cp4Aad version sid' direction' seq' msgType' len' ↔
      sid = sid' ∧ direction = direction' ∧ seq = seq' ∧ msgType = msgType' ∧ len = len' := by
  constructor
  · intro h
    simp only [cp4Aad, List.append_assoc, List.append_cancel_left_eq] at h
    obtain ⟨hsid, hrest⟩ := block_append_inj.mp h
    have hrest := List.append_cancel_left hrest
    simp only [List.cons_append, List.nil_append, List.cons.injEq, true_and] at hrest
    obtain ⟨hdirection, hrest⟩ := hrest
    have hprefix := (List.append_inj hrest (by simp)).2
    exact ⟨hsid, hdirection, (cp4Prefix_inj hlen hlen').mp hprefix⟩
  · rintro ⟨rfl, rfl, rfl, rfl, rfl⟩
    rfl

theorem cp4Prefix_fields (seq : UInt64) (msgType : UInt8) {len : ℕ} (hlen : len < 65536)
    (rest : Bytes) :
    UInt64.ofNat (ofBigEndian ((cp4Prefix seq msgType len ++ rest).take 8)) = seq ∧
      (cp4Prefix seq msgType len ++ rest).getD 8 0 = msgType ∧
      innerLength (cp4Prefix seq msgType len ++ rest) = len ∧
      (cp4Prefix seq msgType len ++ rest).drop 11 = rest := by
  have hseq : (bigEndian 8 seq.toNat).length = 8 := length_bigEndian 8 _
  have hinner : ofBigEndian (bigEndian 2 len) = len := ofBigEndian_bigEndian hlen
  refine ⟨?_, ?_, ?_, ?_⟩
  · rw [cp4Prefix, List.append_assoc, List.take_left' hseq, ofBigEndian_bigEndian seq.toNat_lt]
    exact UInt64.ofNat_toNat
  · rfl
  · have hlong : 9 + 2 ≤ (cp4Prefix seq msgType len ++ rest).length := by simp
    have hfield : ((cp4Prefix seq msgType len ++ rest).drop 9).take 2 = bigEndian 2 len := rfl
    rw [innerLength, ← ofBigEndian_slice hlong, hfield, hinner]
  · exact List.drop_left' (length_cp4Prefix seq msgType len)

/-! ## What the functions accept and produce -/

section Functions

variable {version direction : UInt8}

theorem validPayload_cp4 (happ : IsApp direction) {seq : UInt64} {msgType : UInt8} {len : ℕ}
    (hlen : len ≤ pqV1Cp4MaxPlaintext) {rest : Bytes} (hrest : rest.length = len + 16) :
    ValidPayload direction (cp4Prefix seq msgType len ++ rest) := by
  have hfit : len < 65536 := lt_of_le_of_lt hlen (by decide)
  have hlength : (cp4Prefix seq msgType len ++ rest).length = pqV1Cp4PayloadOverhead + len := by
    rw [List.length_append, length_cp4Prefix, hrest, pqV1Cp4PayloadOverhead]
    omega
  constructor
  · rw [hlength, payloadSizeValid, if_pos happ]
    exact decide_eq_true ⟨Nat.le_add_right _ _, Nat.add_le_add_left hlen _⟩
  · intro _
    rw [hlength, (cp4Prefix_fields seq msgType hfit rest).2.2.1]

/-- An application payload is its prefix and its sealed string. -/
theorem eq_cp4Prefix_append {payload : Bytes}
    (hlength : payload.length = pqV1Cp4PayloadOverhead + innerLength payload) :
    payload = cp4Prefix (UInt64.ofNat (ofBigEndian (payload.take 8))) (payload.getD 8 0)
      (innerLength payload) ++ payload.drop 11 := by
  have hlong : 11 ≤ payload.length := by
    rw [hlength, pqV1Cp4PayloadOverhead]
    omega
  have hhead : (payload.take 8).length = 8 := by
    rw [List.length_take]
    omega
  have hseq : bigEndian 8 (UInt64.ofNat (ofBigEndian (payload.take 8))).toNat = payload.take 8 := by
    have hlt : ofBigEndian (payload.take 8) < 2 ^ 64 := by
      have hfit := ofBigEndian_lt (payload.take 8)
      rw [hhead] at hfit
      exact lt_of_lt_of_eq hfit (by norm_num)
    have hvalue := bigEndian_ofBigEndian (payload.take 8)
    rw [hhead] at hvalue
    rw [UInt64.toNat_ofNat', Nat.mod_eq_of_lt hlt, hvalue]
  rw [cp4Prefix, hseq]
  obtain ⟨head, rest, rfl, hrest⟩ := Block.exists_eq_append (n := 8) payload (by omega)
  have hthree : 3 ≤ rest.length := by omega
  match rest, hthree with
  | b8 :: b9 :: b10 :: rest, _ =>
    have hget : ∀ i, (head.bytes ++ b8 :: b9 :: b10 :: rest).getD (8 + i) 0 =
        (b8 :: b9 :: b10 :: rest).getD i 0 := by
      intro i
      rw [List.getD_eq_getElem?_getD, List.getD_eq_getElem?_getD,
        List.getElem?_append_right (by simp), head.length_bytes, Nat.add_sub_cancel_left]
    have hdrop : (head.bytes ++ b8 :: b9 :: b10 :: rest).drop 11 = rest := by
      rw [show 11 = 8 + 3 from rfl, ← List.drop_drop, List.drop_left' head.length_bytes]
      rfl
    rw [innerLength, hget 0, hget 1, hget 2, hdrop, List.take_left' head.length_bytes]
    simp only [List.getD_cons_zero, List.getD_cons_succ, bigEndian_two, List.append_assoc,
      List.cons_append, List.nil_append]

/-- **The parser accepts exactly the application frames of its direction.** -/
theorem pqV1Cp4Parse_eq_ok_iff {wire : Bytes} {frame : Cp4Frame} :
    pqV1Cp4Parse version wire direction = .ok frame ↔
      IsApp direction ∧ frame.plaintextLen ≤ pqV1Cp4MaxPlaintext ∧
        frame.sealed.length = frame.plaintextLen + 16 ∧
        wire = cp4Wire version direction frame.seq frame.msgType frame.sealed := by
  simp only [pqV1Cp4Parse, except_bind_eq_ok_iff, require_eq_ok_iff, mapError_eq_ok_iff,
    Prod.exists, pqV1ParseFrame_eq_ok_iff, exists_and_left, exists_const]
  constructor
  · rintro ⟨happ, subtype, payload, ⟨hvalid, rfl⟩, rfl, ⟨hlen, hlength⟩, hresult⟩
    cases hresult
    have hsealed : (payload.drop 11).length = innerLength payload + 16 := by
      rw [List.length_drop, hlength, pqV1Cp4PayloadOverhead]
      omega
    refine ⟨happ, hlen, hsealed, ?_⟩
    rw [cp4Wire, hsealed, Nat.add_sub_cancel, ← eq_cp4Prefix_append hlength]
  · obtain ⟨seq, msgType, len, rest⟩ := frame
    rintro ⟨happ, hlen, hsealed, rfl⟩
    dsimp only at hlen hsealed ⊢
    obtain ⟨hseq, htype, hinner, hdrop⟩ :=
      cp4Prefix_fields seq msgType (lt_of_le_of_lt hlen (by decide)) rest
    rw [cp4Wire, hsealed, Nat.add_sub_cancel]
    refine ⟨happ, direction, _, ⟨validPayload_cp4 happ hlen hsealed, rfl⟩, rfl, ?_, ?_⟩
    · rw [hinner, List.length_append, length_cp4Prefix, hsealed, pqV1Cp4PayloadOverhead]
      exact ⟨hlen, by omega⟩
    · rw [hseq, htype, hinner, hdrop]
      rfl

theorem take_cp4Wire {seq : UInt64} {msgType : UInt8} {sealed : Bytes} {len : ℕ}
    (hsealed : sealed.length = len + 16) :
    (cp4Wire version direction seq msgType sealed).take 19 =
      v1Magic ++ [version, direction] ++ bigEndian 2 (pqV1Cp4PayloadOverhead + len) ++
        cp4Prefix seq msgType len := by
  have hlength : (cp4Prefix seq msgType len ++ sealed).length = pqV1Cp4PayloadOverhead + len := by
    rw [List.length_append, length_cp4Prefix, hsealed, pqV1Cp4PayloadOverhead]
    omega
  rw [cp4Wire, v1Frame, hsealed, Nat.add_sub_cancel, hlength, ← List.append_assoc,
    List.take_left' (by simp; rfl)]

/-- The header of a frame does not depend on the sealed bytes. -/
theorem take_cp4Wire_append {seq : UInt64} {msgType : UInt8} {blank sealed : Bytes} {len : ℕ}
    (hblank : blank.length = len + 16) (hsealed : sealed.length = len + 16) :
    (cp4Wire version direction seq msgType blank).take 19 ++ sealed =
      cp4Wire version direction seq msgType sealed := by
  have hpayload : (cp4Prefix seq msgType len ++ sealed).length = pqV1Cp4PayloadOverhead + len := by
    rw [List.length_append, length_cp4Prefix, hsealed, pqV1Cp4PayloadOverhead]
    omega
  rw [take_cp4Wire hblank, cp4Wire, v1Frame, hsealed, Nat.add_sub_cancel, hpayload,
    List.append_assoc]

/-- The associated data of an application frame. -/
theorem pqV1Cp4Aad_cp4Wire (happ : IsApp direction) (sid : Block 16) (seq : UInt64)
    (msgType : UInt8) {sealed : Bytes} {len : ℕ} (hlen : len ≤ pqV1Cp4MaxPlaintext)
    (hsealed : sealed.length = len + 16) :
    pqV1Cp4Aad version sid (cp4Wire version direction seq msgType sealed) =
      .ok (cp4Aad version sid direction seq msgType len) := by
  have hparse : pqV1Cp4Parse version (cp4Wire version direction seq msgType sealed) direction =
      .ok ⟨seq, msgType, len, sealed⟩ := pqV1Cp4Parse_eq_ok_iff.mpr ⟨happ, hlen, hsealed, rfl⟩
  have hsubtype : (cp4Wire version direction seq msgType sealed).getD 5 0 = direction := rfl
  have hlong : 8 ≤ (cp4Wire version direction seq msgType sealed).length := by
    rw [cp4Wire, length_v1Frame]
    omega
  rw [pqV1Cp4Aad, require_bind_of hlong, hsubtype, hparse, take_cp4Wire hsealed]
  rfl

/-- What an accepted frame is: sixteen bytes sealed for this session, direction and sequence number
under the type of the direction. -/
structure Cp4Opened (aead : Aead) (version : UInt8) (key : Block 32) (iv : Block 12) (sid : Block 16)
    (wire : Bytes) (direction : UInt8) (seq : UInt64) (plaintext sealed : Bytes) : Prop where
  app : IsApp direction
  wire_eq : wire = cp4Wire version direction seq
    (if direction = pqV1AppC2p then pqV1Cp4Ping else pqV1Cp4Pong) sealed
  length_sealed : sealed.length = 32
  unsealed : aead.decrypt key (pqV1Cp4Nonce iv seq) (cp4Aad version sid direction seq
    (if direction = pqV1AppC2p then pqV1Cp4Ping else pqV1Cp4Pong) 16) sealed = some plaintext
  length_plaintext : plaintext.length = 16
  seq_ne : seq ≠ uint64Max

/-- **Success of `pq_v1_cp4_decrypt`.** -/
theorem pqV1Cp4Decrypt_eq_ok_iff {aead : Aead} {fault : Bool} {key : Block 32} {iv : Block 12}
    {sid : Block 16} {wire plaintext : Bytes} {seq : UInt64} {capacity : ℕ} (h : 16 ≤ capacity) :
    pqV1Cp4Decrypt aead fault version key iv sid wire direction seq capacity = .ok plaintext ↔
      fault = false ∧
        ∃ sealed, Cp4Opened aead version key iv sid wire direction seq plaintext sealed := by
  simp only [pqV1Cp4Decrypt, except_bind_eq_ok_iff, require_eq_ok_iff, mapError_eq_ok_iff,
    orFail_eq_ok_iff, exists_and_left, exists_const]
  constructor
  · rintro ⟨⟨frameSeq, msgType, len, sealed⟩, hparse, ⟨rfl, hmax, -⟩, aad, haad, hfault, plain, hopen,
      ⟨hplain, hlen, htype⟩, hresult⟩
    dsimp only at *
    subst hlen htype
    cases hresult
    obtain ⟨happ, -, hsealed, rfl⟩ := pqV1Cp4Parse_eq_ok_iff.mp hparse
    dsimp only at *
    rw [pqV1Cp4Aad_cp4Wire happ sid _ _ (by decide) hsealed] at haad
    cases haad
    exact ⟨hfault, sealed, happ, rfl, hsealed, hopen, hplain, hmax⟩
  · rintro ⟨hfault, sealed, happ, rfl, hsealed, hopen, hplain, hmax⟩
    have hsixteen : 16 ≤ pqV1Cp4MaxPlaintext := by decide
    exact ⟨⟨seq, _, 16, sealed⟩,
      pqV1Cp4Parse_eq_ok_iff.mpr ⟨happ, hsixteen, hsealed, rfl⟩, ⟨rfl, hmax, h⟩, _,
      pqV1Cp4Aad_cp4Wire happ sid _ _ hsixteen hsealed, hfault, plaintext, hopen,
      ⟨hplain, rfl, rfl⟩, rfl⟩

/-- **Success of `pq_v1_cp4_encrypt`.** -/
theorem pqV1Cp4Encrypt_eq_ok_iff {aead : Aead} {fault : Bool} {key : Block 32} {iv : Block 12}
    {sid : Block 16} {seq : UInt64} {msgType : UInt8} {plaintext wire : Bytes} {capacity : ℕ} :
    pqV1Cp4Encrypt aead fault version key iv sid direction seq msgType plaintext capacity =
        .ok wire ↔
      fault = false ∧ IsApp direction ∧ plaintext.length ≤ pqV1Cp4MaxPlaintext ∧
        pqV1Cp4FrameOverhead + plaintext.length ≤ capacity ∧
        ∃ sealed, sealed = aead.encrypt key (pqV1Cp4Nonce iv seq)
            (cp4Aad version sid direction seq msgType plaintext.length) plaintext ∧
          sealed.length = plaintext.length + 16 ∧
          wire = cp4Wire version direction seq msgType sealed := by
  have hshape : bigEndian 8 seq.toNat ++ [msgType] ++ bigEndian 2 plaintext.length ++
      List.replicate (plaintext.length + 16) 0 =
        cp4Prefix seq msgType plaintext.length ++ List.replicate (plaintext.length + 16) 0 := by
    simp only [cp4Prefix, List.append_assoc]
  have hblank : (List.replicate (plaintext.length + 16) (0 : UInt8)).length =
      plaintext.length + 16 := List.length_replicate
  have hwire : v1Frame version direction (cp4Prefix seq msgType plaintext.length ++
      List.replicate (plaintext.length + 16) 0) =
        cp4Wire version direction seq msgType (List.replicate (plaintext.length + 16) 0) := by
    rw [cp4Wire, hblank, Nat.add_sub_cancel]
  simp only [pqV1Cp4Encrypt, except_bind_eq_ok_iff, require_eq_ok_iff, exists_and_left,
    exists_const, hshape, pqV1EncodeFrame_eq_ok_iff]
  constructor
  · rintro ⟨⟨happ, hlen, hcapacity⟩, _, ⟨-, -, rfl⟩, aad, haad, hfault, hsealed, hresult⟩
    rw [hwire, pqV1Cp4Aad_cp4Wire happ sid _ _ hlen hblank] at haad
    cases haad
    cases hresult
    rw [hwire]
    exact ⟨hfault, happ, hlen, hcapacity, _, rfl, hsealed, take_cp4Wire_append hblank hsealed⟩
  · rintro ⟨hfault, happ, hlen, hcapacity, _, rfl, hsealed, rfl⟩
    refine ⟨⟨happ, hlen, hcapacity⟩, _, ⟨validPayload_cp4 happ hlen hblank, ?_, rfl⟩,
      _, ?_, hfault, hsealed, ?_⟩
    · rw [List.length_append, length_cp4Prefix, hblank]
      rw [pqV1Cp4FrameOverhead] at hcapacity
      omega
    · rw [hwire]
      exact pqV1Cp4Aad_cp4Wire happ sid _ _ hlen hblank
    · rw [hwire, take_cp4Wire_append hblank hsealed]
      rfl

end Functions

end PqBleHandshake
