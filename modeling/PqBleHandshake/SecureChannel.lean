import PqBleHandshake.Application.Cp4
import PqBleHandshake.CiphertextTransfer
import Mathlib

/-!
# The frames of the secure channel

`pq_secure_channel.c`: one frame is the sequence number, the message type and a random IV in front of what
the AEAD makes of the plaintext; the associated data binds the session id, the sender's role, the sequence
number and the message type.  A receiver that has accepted a sequence number takes larger ones only.
-/

namespace PqBleHandshake

open Foundation

/-- The errors of the secure channel. -/
inductive SecureErrno
  | einval | emsgsize | ealready | enobufs | eio | ebadmsg
deriving DecidableEq, Repr

/-- `PQ_SECURE_CENTRAL_ROLE` -/
def pqSecureCentralRole : UInt8 := 0x01
/-- `PQ_SECURE_PERIPHERAL_ROLE` -/
def pqSecurePeripheralRole : UInt8 := 0x02
/-- `PQ_SECURE_MSG_TYPE_DATA` -/
def pqSecureMsgTypeData : UInt8 := 0x01
/-- `PQ_SECURE_HEADER_SIZE` -/
def pqSecureHeaderSize : ℕ := 21

/-- `valid_role` -/
def ValidRole (role : UInt8) : Prop := role = pqSecureCentralRole ∨ role = pqSecurePeripheralRole

instance (role : UInt8) : Decidable (ValidRole role) := inferInstanceAs (Decidable (_ ∨ _))

/-- `build_aad` -/
def buildAad (sid : Block 16) (role : UInt8) (seq : UInt64) (msgType : UInt8) : Bytes :=
  sid.bytes ++ [role] ++ bigEndian 8 seq.toNat ++ [msgType]

/-- `pq_secure_encrypt_with_key`; `iv` is the answer of the random generator and `fault` a failure of the
AEAD call or of its key import. -/
def pqSecureEncryptWithKey (aead : Aead) (fault : Bool) (iv : Option (Block 12)) (key : Block 32)
    (sid : Block 16) (role : UInt8) (seq : UInt64) (msgType : UInt8) (plaintext : Bytes)
    (capacity : ℕ) : Except SecureErrno Bytes := do
  require (ValidRole role) .einval
  require (pqSecureFixedOverhead ≤ capacity) .enobufs
  require (plaintext.length ≤ capacity - pqSecureFixedOverhead) .enobufs
  let iv ← orFail .eio iv
  require (fault = false) .eio
  return bigEndian 8 seq.toNat ++ [msgType] ++ iv.bytes ++
    aead.encrypt key iv (buildAad sid role seq msgType) plaintext

instance decidableNewer (last : Option UInt64) (seq : UInt64) : Decidable (∀ previous ∈ last, previous < seq) :=
  Option.decidableForallMem last

/-- `pq_secure_decrypt_with_key`; `last` is the last sequence number that was accepted, if any. -/
def pqSecureDecryptWithKey (aead : Aead) (fault : Bool) (key : Block 32) (sid : Block 16) (role : UInt8)
    (msgType : UInt8) (last : Option UInt64) (wire : Bytes) (capacity : ℕ) :
    Except SecureErrno (UInt64 × Bytes) := do
  require (ValidRole role) .einval
  require (pqSecureFixedOverhead ≤ wire.length) .emsgsize
  let seq := UInt64.ofNat (ofBigEndian (wire.take 8))
  require (wire.getD 8 0 = msgType) .einval
  require (∀ previous ∈ last, previous < seq) .ealready
  let sealed := wire.drop pqSecureHeaderSize
  require (16 ≤ sealed.length) .emsgsize
  require (sealed.length - 16 ≤ capacity) .enobufs
  require (fault = false) .eio
  let plaintext ← orFail .ebadmsg
    (aead.decrypt key (.ofBytes 12 (wire.drop 9)) (buildAad sid role seq msgType) sealed)
  return (seq, plaintext)

/-! ## The test message of Phases 3 and 5 -/

/-- `PQ_SECURE_TEST_MESSAGE` -/
def pqSecureTestMessage : Bytes := ascii "PQ-BLE SECURE CHANNEL"

/-- `PQ_SECURE_TEST_WIRE_SIZE` -/
def pqSecureTestWireSize : ℕ := pqSecureTestMessage.length + pqSecureFixedOverhead

/-- `hkdf_salt`; the MAC fills a short key up with zeros. -/
def hkdfSalt : Block 32 := .ofBytes 32 (ascii "PQ-BLE-HANDSHAKE-v1")

/-- `hkdf_info` -/
def hkdfInfo : Bytes := ascii "BLE-PQ-SESSION-KEY"

/-- `pq_secure_derive_session_key` -/
def pqSecureDeriveSessionKey (crypto : Crypto) (faults : Faults) (ss : Block 32) : Option (Block 32) :=
  if faults.mac hkdfSalt (ss.bytes ++ hkdfInfo) then none
  else some (.ofBytes 32 (hkdfExpand crypto (hkdfExtract crypto hkdfSalt ss.bytes) hkdfInfo 32))

/-- `pq_secure_encrypt_test_message_with_key` -/
def pqSecureEncryptTestMessageWithKey (aead : Aead) (fault : Bool) (iv : Option (Block 12)) (key : Block 32)
    (sid : Block 16) (capacity : ℕ) : Except SecureErrno Bytes := do
  let wire ← pqSecureEncryptWithKey aead fault iv key sid pqSecurePeripheralRole 0 pqSecureMsgTypeData
    pqSecureTestMessage capacity
  require (wire.length = pqSecureTestWireSize) .eio
  return wire

/-- `pq_secure_encrypt_test_message`; `fault` is a failure of the AEAD and `faults` those of the derivation. -/
def pqSecureEncryptTestMessage (crypto : Crypto) (aead : Aead) (faults : Faults) (fault : Bool)
    (iv : Option (Block 12)) (ss : Block 32) (sid : Block 16) (capacity : ℕ) : Except SecureErrno Bytes := do
  let key ← orFail .eio (pqSecureDeriveSessionKey crypto faults ss)
  pqSecureEncryptTestMessageWithKey aead fault iv key sid capacity

section Channel

variable {aead : Aead} {fault : Bool} {key : Block 32} {sid : Block 16} {role msgType : UInt8} {seq : UInt64}
  {last : Option UInt64} {wire plaintext : Bytes} {capacity : ℕ}

/-- **An accepted frame is newer than the last one.** -/
theorem pqSecureDecryptWithKey_newer
    (h : pqSecureDecryptWithKey aead fault key sid role msgType last wire capacity = .ok (seq, plaintext)) :
    ∀ previous ∈ last, previous < seq := by
  simp only [pqSecureDecryptWithKey, except_bind_eq_ok_iff, require_eq_ok_iff, orFail_eq_ok_iff,
    exists_and_left, exists_const] at h
  obtain ⟨-, -, -, hnewer, -, -, -, opened, -, hresult⟩ := h
  obtain ⟨rfl, -⟩ := Prod.mk.inj (Except.ok.inj hresult)
  exact hnewer

end Channel

end PqBleHandshake
