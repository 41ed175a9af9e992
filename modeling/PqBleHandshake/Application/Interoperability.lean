import PqBleHandshake.Application.Central
import PqBleHandshake.Foundation.Buffer

/-!
# CP4 frames on both sides

`pq_v1_cp4_encrypt` and `pq_v1_cp4_decrypt` with their output buffers, and their agreement with
`encrypt_application` and `decrypt_application` of `v1_cp4.py`: the same strings are accepted, with the same
plaintext, and the same frame is produced.  A failing C function leaves zeros in its buffer.
-/

namespace PqBleHandshake

open Foundation

/-! ## The C functions with their buffers -/

section Buffers

variable (aead : Aead) (fault : Bool) (residue : Bytes) (version : UInt8) (key : Block 32) (iv : Block 12)
  (sid : Block 16)

/-- `pq_v1_cp4_encrypt` on its output buffer.  `present` says that no other pointer is null, and `residue` is
what a failing AEAD call leaves in the buffer.  The associated data is read back from the buffer. -/
def pqV1Cp4EncryptInto (present : Bool) (direction : UInt8) (seq : UInt64) (msgType : UInt8)
    (plaintext : Bytes) (capacity : ℕ) : Effect Bytes Errno ℕ :=
  .cleared capacity do
    .ofExcept (require (present = true) .einval)
    .ofExcept (require (IsApp direction ∧ plaintext.length ≤ pqV1Cp4MaxPlaintext ∧
      pqV1Cp4FrameOverhead + plaintext.length ≤ capacity) .einval)
    let payload := bigEndian 8 seq.toNat ++ [msgType] ++ bigEndian 2 plaintext.length ++
      List.replicate (plaintext.length + 16) 0
    let frame ← .ofExcept (pqV1EncodeFrame version direction payload capacity)
    .update fun buffer ↦ writeAt buffer 0 frame
    let wire ← .look fun buffer ↦ buffer.take frame.length
    let aad ← .ofExcept (pqV1Cp4Aad version sid wire)
    let output := if fault then residue else aead.encrypt key (pqV1Cp4Nonce iv seq) aad plaintext
    .update fun buffer ↦ writeAt buffer 19 output
    .ofExcept (require (fault = false) .eio)
    .ofExcept (require (output.length = plaintext.length + 16) .eio)
    return 19 + output.length

/-- `pq_v1_cp4_decrypt` on its output buffer. -/
def pqV1Cp4DecryptInto (present : Bool) (wire : Bytes) (direction : UInt8) (expectedSeq : UInt64)
    (capacity : ℕ) : Effect Bytes Errno ℕ :=
  .cleared capacity do
    .ofExcept (require (present = true) .einval)
    let frame ← .ofExcept ((pqV1Cp4Parse version wire direction).mapError fun _ ↦ .einval)
    .ofExcept (require (frame.seq = expectedSeq ∧ expectedSeq ≠ uint64Max ∧
      frame.plaintextLen ≤ capacity) .einval)
    let aad ← .ofExcept (pqV1Cp4Aad version sid wire)
    let opened := if fault then none
      else aead.decrypt key (pqV1Cp4Nonce iv frame.seq) aad frame.sealed
    .update fun buffer ↦ writeAt buffer 0 (opened.getD residue)
    let plaintext ← .ofExcept (orFail .ebadmsg opened)
    .ofExcept (require (plaintext.length = 16 ∧ frame.plaintextLen = 16 ∧
      frame.msgType = if direction = pqV1AppC2p then pqV1Cp4Ping else pqV1Cp4Pong) .ebadmsg)
    return plaintext.length

end Buffers

section Specs

variable {aead : Aead} {fault : Bool} {residue : Bytes} {version : UInt8} {key : Block 32} {iv : Block 12}
  {sid : Block 16} {direction : UInt8}

/-- **The encryption into a buffer** is the encryption, or zeros. -/
theorem pqV1Cp4EncryptInto_eq (present : Bool) (seq : UInt64) (msgType : UInt8)
    (plaintext buffer : Bytes) :
    pqV1Cp4EncryptInto aead fault residue version key iv sid present direction seq msgType plaintext
        buffer.length buffer =
      Effect.filled buffer (require (present = true) .einval >>= fun _ ↦
        pqV1Cp4Encrypt aead fault version key iv sid direction seq msgType plaintext buffer.length) := by
  refine Effect.Fills.cleared (.ofExcept rfl fun _ _ ↦ .ofExcept rfl fun _ _ ↦
    .ofExcept rfl fun frame hframe ↦ .update (.look ?_))
  obtain ⟨-, hfits, hframe⟩ := pqV1EncodeFrame_eq_ok_iff.mp hframe
  have hwritten : frame.length = plaintext.length + 35 := by
    rw [hframe, length_v1Frame]
    simp only [List.length_append, length_bigEndian, List.length_singleton, List.length_replicate]
    omega
  have hfits : frame.length ≤ buffer.length := by
    rw [hframe, length_v1Frame]
    exact hfits
  rw [take_writeAt hfits]
  refine .ofExcept (length_writeAt _ _ _) fun aad _ ↦ .update (.ofExcept ?_ fun _ hfault ↦ ?_)
  · rw [length_writeAt, length_writeAt]
  have hfault := require_eq_ok_iff.mp hfault
  subst hfault
  refine .ofExcept ?_ fun _ hlength ↦ ?_
  · rw [length_writeAt, length_writeAt]
  have hlength := require_eq_ok_iff.mp hlength
  rw [if_neg Bool.false_ne_true] at hlength ⊢
  -- The sealed string overwrites the blank tail of the frame that was just written.
  have hdone := @writeAt_writeAt buffer frame (aead.encrypt key (pqV1Cp4Nonce iv seq) aad plaintext) 19
    (by omega) (by omega) (by omega)
  rw [hdone]
  refine Prod.ext (congrArg Except.ok ?_) rfl
  rw [List.length_append, List.length_take]
  omega

/-- **The decryption into a buffer** is the decryption, or zeros. -/
theorem pqV1Cp4DecryptInto_eq (present : Bool) (wire : Bytes) (seq : UInt64) (buffer : Bytes) :
    pqV1Cp4DecryptInto aead fault residue version key iv sid present wire direction seq buffer.length buffer =
      Effect.filled buffer (require (present = true) .einval >>= fun _ ↦
        pqV1Cp4Decrypt aead fault version key iv sid wire direction seq buffer.length) := by
  refine Effect.Fills.cleared (.ofExcept rfl fun _ _ ↦ .ofExcept rfl fun frame _ ↦
    .ofExcept rfl fun _ _ ↦ .ofExcept rfl fun aad _ ↦ .update ?_)
  cases fault with
  | true => exact ⟨_, rfl, length_writeAt _ _ _⟩
  | false =>
    rw [if_neg Bool.false_ne_true, require_bind_of rfl]
    refine .ofExcept (length_writeAt _ _ _) fun plaintext hopened ↦ .ofExcept (length_writeAt _ _ _)
      fun _ _ ↦ ?_
    rw [orFail_eq_ok_iff.mp hopened]
    rfl

end Specs

/-! ## What the Central accepts -/

namespace Python

section Completeness

variable {aead : Aead} {profile direction : UInt8} {key : Block 32} {iv : Block 12} {sid : Block 16}

/-- The parser takes every application frame of its direction apart. -/
theorem parseApplicationFrame_cp4Wire (hknown : KnownApp profile) (happ : IsApp direction) {seq : UInt64}
    {msgType : UInt8} {sealed : Bytes} {len : ℕ} (hlen : len ≤ pqV1Cp4MaxPlaintext)
    (hsealed : sealed.length = len + 16) :
    parseApplicationFrame profile (cp4Wire profile direction seq msgType sealed) direction =
      some { subtype := direction, seq := seq.toNat, msgType
             ciphertext := sealed.take len, tag := sealed.drop len } := by
  have hfit : len < 65536 := lt_of_le_of_lt hlen (by decide)
  have hlength : (cp4Prefix seq msgType len ++ sealed).length = 27 + len := by
    rw [List.length_append, length_cp4Prefix, hsealed]
    omega
  obtain ⟨-, htype, hinner, hdrop⟩ := cp4Prefix_fields seq msgType hfit sealed
  have hsize : ofBigEndian (((cp4Prefix seq msgType len ++ sealed).drop 9).take 2) = len := by
    rw [ofBigEndian_slice (by omega)]
    exact hinner
  have hseq : ofBigEndian ((cp4Prefix seq msgType len ++ sealed).take 8) = seq.toNat := by
    rw [cp4Prefix, List.append_assoc, List.take_left' (length_bigEndian 8 _),
      ofBigEndian_bigEndian seq.toNat_lt]
  have hcipher : 27 + len - 16 - 11 = len := by omega
  have htag : (cp4Prefix seq msgType len ++ sealed).drop (27 + len - 16) = sealed.drop len := by
    rw [show 27 + len - 16 = 11 + len from by omega, ← List.drop_drop, hdrop]
  have hvalid : ValidPayload direction (cp4Prefix seq msgType len ++ sealed) :=
    validPayload_cp4 happ hlen hsealed
  rw [cp4Wire, hsealed, Nat.add_sub_cancel, parseApplicationFrame,
    parse_eq_some_iff.mpr ⟨hknown, hvalid, rfl⟩]
  dsimp only [Option.bind_eq_bind, Option.bind_some]
  rw [hsize, hlength, guard_bind_of ⟨happ, rfl, hlen, rfl⟩, hseq, htype, hcipher, hdrop, htag]
  rfl

/-- The header of an application frame. -/
theorem take_header_cp4Wire {seq : UInt64} {msgType : UInt8} {sealed : Bytes} {len : ℕ}
    (hsealed : sealed.length = len + 16) :
    (cp4Wire profile direction seq msgType sealed).take 8 =
      v1Magic ++ [profile, direction] ++ bigEndian 2 (27 + len) := by
  have hlength : (cp4Prefix seq msgType len ++ sealed).length = 27 + len := by
    rw [List.length_append, length_cp4Prefix, hsealed]
    omega
  rw [cp4Wire, hsealed, Nat.add_sub_cancel, v1Frame, hlength]
  rfl

/-- **Success of `decrypt_application`**, in both directions. -/
theorem decryptApplication_eq_some_iff (hknown : KnownApp profile) {raw plaintext : Bytes}
    {seq : UInt64} :
    decryptApplication aead profile key iv sid.bytes raw direction seq.toNat = some plaintext ↔
      ∃ sealed, Cp4Opened aead profile key iv sid raw direction seq plaintext sealed := by
  constructor
  · intro h
    obtain ⟨-, sid', sealed, hsid, hopened⟩ := decryptApplication_eq_some h
    rw [UInt64.ofNat_toNat, ← Block.ext hsid] at hopened
    exact ⟨sealed, hopened⟩
  · rintro ⟨sealed, happ, rfl, hsealed, hopened, hplain, hmax⟩
    have hle : seq.toNat ≤ maxSequence := Nat.le_pred_of_lt seq.toNat_lt
    have hlt : seq.toNat < maxSequence := lt_of_le_of_ne hle fun heq ↦ hmax (UInt64.toNat_inj.mp heq)
    have hsixteen : 16 ≤ pqV1Cp4MaxPlaintext := by decide
    have hlength : (sealed.take 16).length = 16 := by
      rw [List.length_take, hsealed]
      rfl
    simp only [decryptApplication, Option.bind_eq_bind, Option.bind_eq_some_iff,
      parseApplicationFrame_cp4Wire hknown happ hsixteen hsealed, validateSequence_eq_some_iff,
      nonceForSequence_eq_some_iff, Option.guard_eq_some', Option.pure_def, Option.some.injEq,
      exists_eq_left', hlength, List.take_append_drop]
    refine ⟨(), ⟨trivial, hlt⟩, _, (buildAad_eq_some_iff rfl).mpr ⟨hknown, happ, hle, hsixteen,
      take_header_cp4Wire hsealed, sid, rfl, rfl⟩, _, ⟨hle, rfl⟩, plaintext, ?_, (), ⟨trivial, hplain⟩, rfl⟩
    rwa [UInt64.ofNat_toNat]

/-- **Success of `encrypt_application`**, in both directions. -/
theorem encryptApplication_eq_some_iff (hknown : KnownApp profile) {msgType : UInt8}
    {plaintext wire : Bytes} {seq : UInt64} :
    encryptApplication aead profile key iv sid.bytes direction seq.toNat msgType plaintext = some wire ↔
      IsApp direction ∧ plaintext.length ≤ pqV1Cp4MaxPlaintext ∧
        wire = cp4Wire profile direction seq msgType (aead.encrypt key (pqV1Cp4Nonce iv seq)
          (cp4Aad profile sid direction seq msgType plaintext.length) plaintext) := by
  have hle : seq.toNat ≤ maxSequence := Nat.le_pred_of_lt seq.toNat_lt
  have hblank : (List.replicate plaintext.length (0 : UInt8) ++ List.replicate 16 0).length =
      plaintext.length + 16 := by simp
  have hskeleton : v1Frame profile direction (cp4Prefix seq msgType plaintext.length ++
      List.replicate plaintext.length 0 ++ List.replicate 16 0) =
        cp4Wire profile direction seq msgType
          (List.replicate plaintext.length 0 ++ List.replicate 16 0) := by
    rw [cp4Wire, hblank, Nat.add_sub_cancel, List.append_assoc]
  have hsealed := aead.length_encrypt key (pqV1Cp4Nonce iv seq)
    (cp4Aad profile sid direction seq msgType plaintext.length) plaintext
  simp only [encryptApplication, encodeApplicationFrame, Option.bind_eq_bind,
    Option.bind_eq_some_iff, framePrefix_eq_some_iff, encode_eq_some_iff, Option.guard_eq_some',
    nonceForSequence_eq_some_iff, Option.pure_def, Option.some.injEq, List.length_replicate,
    UInt64.ofNat_toNat]
  constructor
  · rintro ⟨skeleton, ⟨_, ⟨happ, -, hlen, rfl⟩, _, -, -, -, rfl⟩, aad, haad, _, ⟨-, rfl⟩, rfl⟩
    rw [hskeleton] at haad ⊢
    obtain ⟨-, -, -, -, -, sid', hsid, rfl⟩ := (buildAad_eq_some_iff (by rfl)).mp haad
    obtain rfl := Block.ext hsid
    rw [UInt64.ofNat_toNat]
    exact ⟨happ, hlen, take_cp4Wire_append hblank hsealed⟩
  · rintro ⟨happ, hlen, rfl⟩
    refine ⟨_, ⟨_, ⟨happ, hle, hlen, rfl⟩, (), by simp, hknown, ?_, rfl⟩, _,
      (buildAad_eq_some_iff (by rfl)).mpr ⟨hknown, happ, hle, hlen, ?_, sid, rfl, rfl⟩, _, ⟨hle, rfl⟩, ?_⟩
    · rw [List.append_assoc]
      exact validPayload_cp4 happ hlen hblank
    · rw [hskeleton]
      exact take_header_cp4Wire hblank
    · rw [hskeleton, UInt64.ofNat_toNat]
      exact take_cp4Wire_append hblank hsealed

end Completeness

end Python

/-! ## Agreement -/

section Agreement

variable {aead : Aead} {version : UInt8} {key : Block 32} {iv : Block 12} {sid : Block 16}
  {direction : UInt8} {residue buffer : Bytes} {seq : UInt64}

/-- What the firmware reads out of its sixteen bytes is what `decrypt_application` returns. -/
theorem delivered_pqV1Cp4DecryptInto (hversion : Python.KnownApp version) (raw : Bytes)
    (hbuffer : buffer.length = 16) :
    Effect.delivered (pqV1Cp4DecryptInto aead false residue version key iv sid true raw direction seq 16
        buffer) =
      Python.decryptApplication aead version key iv sid.bytes raw direction seq.toNat := by
  have heq : pqV1Cp4DecryptInto aead false residue version key iv sid true raw direction seq buffer.length
      buffer = _ := pqV1Cp4DecryptInto_eq true raw seq buffer
  rw [require_bind_of rfl, hbuffer] at heq
  rw [heq, Effect.delivered_filled]
  · refine Option.ext fun plaintext ↦ ?_
    rw [toOption_eq_some_iff, pqV1Cp4Decrypt_eq_ok_iff le_rfl,
      Python.decryptApplication_eq_some_iff hversion]
    exact and_iff_right rfl
  · intro plaintext hresult
    obtain ⟨-, sealed, hopened⟩ := (pqV1Cp4Decrypt_eq_ok_iff le_rfl).mp hresult
    rw [hbuffer, hopened.length_plaintext]

/-- What the firmware writes into a buffer that is large enough. -/
theorem delivered_pqV1Cp4EncryptInto (happ : IsApp direction) {msgType : UInt8} {plaintext : Bytes}
    (hlen : plaintext.length ≤ pqV1Cp4MaxPlaintext)
    (hbuffer : pqV1Cp4FrameOverhead + plaintext.length ≤ buffer.length) :
    Effect.delivered (pqV1Cp4EncryptInto aead false residue version key iv sid true direction seq msgType
        plaintext buffer.length buffer) =
      some (cp4Wire version direction seq msgType (aead.encrypt key (pqV1Cp4Nonce iv seq)
        (cp4Aad version sid direction seq msgType plaintext.length) plaintext)) := by
  have hsealed := aead.length_encrypt key (pqV1Cp4Nonce iv seq)
    (cp4Aad version sid direction seq msgType plaintext.length) plaintext
  have hresult : pqV1Cp4Encrypt aead false version key iv sid direction seq msgType plaintext buffer.length =
      .ok (cp4Wire version direction seq msgType (aead.encrypt key (pqV1Cp4Nonce iv seq)
        (cp4Aad version sid direction seq msgType plaintext.length) plaintext)) :=
    pqV1Cp4Encrypt_eq_ok_iff.mpr ⟨rfl, happ, hlen, hbuffer, _, rfl, hsealed, rfl⟩
  rw [pqV1Cp4EncryptInto_eq, require_bind_of rfl, hresult, Effect.delivered_filled]
  · rfl
  · intro wire hwire
    cases hwire
    rw [cp4Wire, length_v1Frame, List.length_append, length_cp4Prefix, hsealed]
    rw [pqV1Cp4FrameOverhead] at hbuffer
    omega

/-- A frame that was sealed at a sequence number below the last one opens on the Central. -/
theorem Python.decryptApplication_cp4Wire (hversion : Python.KnownApp version) (happ : IsApp direction)
    (hseq : seq ≠ uint64Max) {plaintext : Bytes} (hlength : plaintext.length = 16) :
    Python.decryptApplication aead version key iv sid.bytes
        (cp4Wire version direction seq (if direction = pqV1AppC2p then pqV1Cp4Ping else pqV1Cp4Pong)
          (aead.encrypt key (pqV1Cp4Nonce iv seq) (cp4Aad version sid direction seq
            (if direction = pqV1AppC2p then pqV1Cp4Ping else pqV1Cp4Pong) 16) plaintext))
        direction seq.toNat = some plaintext := by
  refine (Python.decryptApplication_eq_some_iff hversion).mpr ⟨_, happ, rfl, ?_, ?_, hlength, hseq⟩
  · rw [aead.length_encrypt, hlength]
  · exact aead.decrypt_encrypt key _ _ plaintext

/-- **The two sides agree on CP4 frames.**  With sixteen bytes to write to, `pq_v1_cp4_decrypt` accepts the
strings that `decrypt_application` accepts, with the same plaintext.  A PING or PONG below the last sequence
number is the same frame on both sides and opens on both.  A failing C function leaves zeros. -/
theorem cp4_agreement (aead : Aead) {version : UInt8} (hversion : Python.KnownApp version) :
    (∀ (residue : Bytes) (key : Block 32) (iv : Block 12) (sid : Block 16) (raw : Bytes)
        (direction : UInt8) (seq : UInt64) (buffer : Bytes), buffer.length = 16 →
      Effect.delivered
          (pqV1Cp4DecryptInto aead false residue version key iv sid true raw direction seq 16 buffer) =
        Python.decryptApplication aead version key iv sid.bytes raw direction seq.toNat) ∧
    (∀ (residue : Bytes) (key : Block 32) (iv : Block 12) (sid : Block 16) (direction : UInt8)
        (seq : UInt64) (plaintext buffer : Bytes), IsApp direction → seq.toNat < 2 ^ 64 - 1 →
      plaintext.length = 16 → pqV1Cp4FrameSize ≤ buffer.length →
      let msgType := if direction = pqV1AppC2p then pqV1Cp4Ping else pqV1Cp4Pong
      ∃ wire,
        Effect.delivered (pqV1Cp4EncryptInto aead false residue version key iv sid true direction seq msgType
          plaintext buffer.length buffer) = some wire ∧
        Python.encryptApplication aead version key iv sid.bytes direction seq.toNat msgType plaintext =
          some wire ∧
        Python.decryptApplication aead version key iv sid.bytes wire direction seq.toNat = some plaintext ∧
        ∀ residue buffer : Bytes, buffer.length = 16 →
          Effect.delivered
            (pqV1Cp4DecryptInto aead false residue version key iv sid true wire direction seq 16 buffer) =
              some plaintext) ∧
    (∀ (present fault : Bool) (residue : Bytes) (key : Block 32) (iv : Block 12) (sid : Block 16)
        (direction : UInt8) (seq : UInt64) (msgType : UInt8) (plaintext buffer buffer' : Bytes)
        (error : Errno),
      pqV1Cp4EncryptInto aead fault residue version key iv sid present direction seq msgType plaintext
          buffer.length buffer = (.error error, buffer') →
        buffer' = List.replicate buffer.length 0) ∧
    ∀ (present fault : Bool) (residue : Bytes) (key : Block 32) (iv : Block 12) (sid : Block 16)
        (raw : Bytes) (direction : UInt8) (seq : UInt64) (buffer buffer' : Bytes) (error : Errno),
      pqV1Cp4DecryptInto aead fault residue version key iv sid present raw direction seq buffer.length
          buffer = (.error error, buffer') →
        buffer' = List.replicate buffer.length 0 := by
  refine ⟨?accepts, ?same, ?encryptionWipes, ?decryptionWipes⟩
  case accepts =>
    intro residue key iv sid raw direction seq buffer hbuffer
    exact delivered_pqV1Cp4DecryptInto hversion raw hbuffer
  case same =>
    intro residue key iv sid direction seq plaintext buffer happ hseq hlength hbuffer msgType
    have hlen : plaintext.length ≤ pqV1Cp4MaxPlaintext := by
      rw [hlength]
      decide
    have hne : seq ≠ uint64Max := by
      rintro rfl
      exact absurd hseq (by decide)
    have hroom : pqV1Cp4FrameOverhead + plaintext.length ≤ buffer.length := by
      rw [hlength]
      exact hbuffer
    have hopened : Python.decryptApplication aead version key iv sid.bytes
        (cp4Wire version direction seq msgType (aead.encrypt key (pqV1Cp4Nonce iv seq)
          (cp4Aad version sid direction seq msgType plaintext.length) plaintext))
        direction seq.toNat = some plaintext := by
      rw [hlength]
      exact Python.decryptApplication_cp4Wire hversion happ hne hlength
    refine ⟨_, delivered_pqV1Cp4EncryptInto happ hlen hroom,
      (Python.encryptApplication_eq_some_iff hversion).mpr ⟨happ, hlen, rfl⟩, hopened, ?_⟩
    intro residue' buffer' hbuffer'
    rw [delivered_pqV1Cp4DecryptInto hversion _ hbuffer', hopened]
  case encryptionWipes =>
    intro present fault residue key iv sid direction seq msgType plaintext buffer buffer' error hfailed
    rw [pqV1Cp4EncryptInto_eq] at hfailed
    exact Effect.filled_error hfailed
  case decryptionWipes =>
    intro present fault residue key iv sid raw direction seq buffer buffer' error hfailed
    rw [pqV1Cp4DecryptInto_eq] at hfailed
    exact Effect.filled_error hfailed

/-- A PING of the baseline profile under the computable AEAD, taken to the firmware's decryption. -/
theorem cp4_agreement_baseline :
    ∃ wire, Python.encryptApplication polynomialAead pqV10 (.zero 32) (.zero 12) (Block.zero 16).bytes
        pqV1AppC2p (0 : UInt64).toNat pqV1Cp4Ping (Block.zero 16).bytes = some wire ∧
      Effect.delivered (pqV1Cp4DecryptInto polynomialAead false [] pqV10 (.zero 32) (.zero 12) (.zero 16) true
        wire pqV1AppC2p 0 16 (List.replicate 16 0xff)) = some (Block.zero 16).bytes := by
  obtain ⟨-, hsame, -, -⟩ := cp4_agreement polynomialAead (.inl rfl : Python.KnownApp pqV10)
  obtain ⟨wire, -, hencrypted, -, hdelivered⟩ := hsame [] (.zero 32) (.zero 12) (.zero 16) pqV1AppC2p 0
    (Block.zero 16).bytes (List.replicate 51 0) (.inl rfl) (by decide) (Block.zero 16).length_bytes (by decide)
  exact ⟨wire, hencrypted, hdelivered [] _ (by decide)⟩

end Agreement

end PqBleHandshake
