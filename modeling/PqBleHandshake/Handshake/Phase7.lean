import PqBleHandshake.Foundation.Crypto
import PqBleHandshake.V1Handshake

/-!
# The hybrid handshake of v0.7 and v0.8

`pq_phase7.c` with the schedule steps of `phase7_auth_start_result` and of the worker's FINISHED_C job,
beside `phase7.py`.  v0.8 changes the version byte and the labels, and adds the resumption root.  The P-256
exchange itself is not part of the schedule: its shared secret is an input.
-/

namespace PqBleHandshake

open Foundation

/-- The version byte of the v0.7 profile. -/
def pqV07 : UInt8 := 0x07

/-- `PQ_HYBRID_DOMAIN` -/
def hybridDomain (version : UInt8) : Bytes :=
  if version = Resumption.pqResumeV08 then ascii "PQ-BLE-HANDSHAKE-v0.8"
  else ascii "PQ-BLE-HANDSHAKE-v0.7"

/-- `PQ_HYBRID_TRAFFIC_DOMAIN` -/
def hybridTrafficDomain (version : UInt8) : Bytes :=
  if version = Resumption.pqResumeV08 then ascii "PQ-BLE-TRAFFIC-v0.8"
  else ascii "PQ-BLE-TRAFFIC-v0.7"

/-- `PQ_PHASE7_START7` -/
def pqPhase7Start7 : UInt8 := 0x01
/-- `PQ_PHASE7_READY7_CP2` -/
def pqPhase7Ready7Cp2 : UInt8 := 0x02
/-- `PQ_PHASE7_START7_AUTH` -/
def pqPhase7Start7Auth : UInt8 := 0x03
/-- `PQ_PHASE7_READY7_AUTH` -/
def pqPhase7Ready7Auth : UInt8 := 0x04
/-- `PQ_PHASE7_FINISHED_C` -/
def pqPhase7FinishedC : UInt8 := 0x05
/-- `PQ_PHASE7_FINISHED_P` -/
def pqPhase7FinishedP : UInt8 := 0x06
/-- `PQ_PHASE7_ERROR` -/
def pqPhase7Error : UInt8 := 0x7F

/-- `PQ_PHASE7_FRAME_MAGIC` -/
def phase7Magic : Bytes := ascii "PQS7"

/-- `struct pq_phase7_keys` -/
@[ext]
structure Phase7Keys where
  application : Block 32
  sas : Block 32
  finishedC : Block 32
  finishedP : Block 32
deriving DecidableEq

/-- `struct pq_phase7_traffic_keys` -/
@[ext]
structure Phase7TrafficKeys where
  centralToPeripheral : Block 32
  peripheralToCentral : Block 32
deriving DecidableEq

/-! ## Frames -/

/-- `valid_sec1_public_key_shape` -/
def validSec1PublicKeyShape (publicKey : Bytes) : Bool :=
  publicKey.length = 65 && publicKey.getD 0 0 = 0x04

/-- `valid_phase7_payload` -/
def validPhase7Payload (subtype : UInt8) (payload : Bytes) : Bool :=
  if subtype = pqPhase7Start7 ∨ subtype = pqPhase7Start7Auth then
    payload.length = 81 && validSec1PublicKeyShape (payload.drop 16)
  else if subtype = pqPhase7Ready7Cp2 then
    payload.length = 97 && validSec1PublicKeyShape (payload.take 65)
  else if subtype = pqPhase7Ready7Auth then
    payload.length = 65 && validSec1PublicKeyShape payload
  else if subtype = pqPhase7FinishedC ∨ subtype = pqPhase7FinishedP then payload.length = 32
  else if subtype = pqPhase7Error then payload.length = 1
  else false

/-- `pq_phase7_encode_frame` -/
def pqPhase7EncodeFrame (version subtype : UInt8) (payload : Bytes) (capacity : ℕ) :
    Except Errno Bytes := do
  require (validPhase7Payload subtype payload = true) .einval
  require (8 + payload.length ≤ capacity) .enobufs
  return phase7Magic ++ [version, subtype] ++ bigEndian 2 payload.length ++ payload

/-- `pq_phase7_parse_frame`: the subtype and the payload. -/
def pqPhase7ParseFrame (version : UInt8) (frame : Bytes) : Except Errno (UInt8 × Bytes) := do
  require (8 ≤ frame.length ∧ frame.take 4 = phase7Magic ∧ frame.getD 4 0 = version) .einval
  require (frame.length = 8 + Resumption.declaredLength frame ∧
    validPhase7Payload (frame.getD 5 0) (frame.drop 8) = true) .einval
  return (frame.getD 5 0, frame.drop 8)

section Functions

variable (crypto : Crypto) (faults : Faults) (version : UInt8)

/-- `pq_phase7_transcript_hash`; every field goes through `hash_length_prefixed`. -/
def pqPhase7TranscriptHash (sid : Block 16) (pk ct centralKey peripheralKey : Bytes) :
    Option (Block 32) := do
  guard (pk.length = 1184 ∧ ct.length = 1088)
  guard (validSec1PublicKeyShape centralKey = true ∧ validSec1PublicKeyShape peripheralKey = true)
  pqCryptoHashParts crypto faults
    ([hybridDomain version, [0x01], [0x02], sid.bytes, pk, ct, centralKey, peripheralKey].map
      Resumption.putField)

/-- `pq_phase7_build_hybrid_ikm` -/
def pqPhase7BuildHybridIkm (ss ssEcdh : Block 32) : Block 68 :=
  ⟨[0x00, 0x20] ++ ss.bytes ++ [0x00, 0x20] ++ ssEcdh.bytes, by simp⟩

/-- `pq_phase7_derive_keys`: 128 bytes of HKDF, split into four keys. -/
def pqPhase7DeriveKeys (ikm : Block 68) (hash : Block 32) : Option Phase7Keys :=
  let info := hybridDomain version ++ ascii "/hybrid-key-schedule"
  if faults.mac hash (ikm.bytes ++ info) then none
  else
    let block := hkdfExpand crypto (hkdfExtract crypto hash ikm.bytes) info 128
    some {
      application := .slice block 0 32
      sas := .slice block 32 32
      finishedC := .slice block 64 32
      finishedP := .slice block 96 32 }

/-- `hmac_sha256`; its buffer holds 96 bytes. -/
def hmacSha256 (key : Block 32) (label suffix : Bytes) : Option (Block 32) :=
  if 96 < label.length + suffix.length then none
  else pqCryptoMac crypto faults key (label ++ suffix)

/-- The reduction loop of `pq_phase7_compute_sas` on a `uint32_t`. -/
def sasRemainder (mac : Bytes) : ℕ :=
  mac.foldl (fun remainder byte ↦ (remainder * 256 + byte.toNat) % 2 ^ 32 % 1000000) 0

/-- `pq_phase7_compute_sas` -/
def pqPhase7ComputeSas (key hash : Block 32) : Option ℕ := do
  let mac ← hmacSha256 crypto faults key (hybridDomain version ++ ascii "/SAS") hash.bytes
  return sasRemainder mac.bytes

/-- `compute_finished` -/
def computeFinished (key : Block 32) (label : Bytes) (hash : Block 32) : Option (Block 32) :=
  hmacSha256 crypto faults key label hash.bytes

/-- `pq_phase7_compute_finished_c` -/
def pqPhase7ComputeFinishedC (key hash : Block 32) : Option (Block 32) :=
  computeFinished crypto faults key (hybridDomain version ++ ascii "/FINISHED/C") hash

/-- `pq_phase7_compute_finished_p` -/
def pqPhase7ComputeFinishedP (key hash : Block 32) : Option (Block 32) :=
  computeFinished crypto faults key (hybridDomain version ++ ascii "/FINISHED/P") hash

/-- `pq_phase7_derive_traffic_keys` -/
def pqPhase7DeriveTrafficKeys (root : Block 32) : Option Phase7TrafficKeys := do
  let c2p ← hmacSha256 crypto faults root
    (hybridTrafficDomain version ++ ascii "/CENTRAL-TO-PERIPHERAL") []
  let p2c ← hmacSha256 crypto faults root
    (hybridTrafficDomain version ++ ascii "/PERIPHERAL-TO-CENTRAL") []
  return { centralToPeripheral := c2p, peripheralToCentral := p2c }

/-- What `phase7_auth_start_result` computes; the root exists in v0.8 only. -/
@[ext]
structure Phase7Start where
  hash : Block 32
  keys : Phase7Keys
  sas : ℕ
  resumeRoot : Block 32
  ready : Bytes
deriving DecidableEq

/-- The resumption root of `phase7_auth_start_result`, in v0.8. -/
def phase8Root (ikm : Block 68) (hash : Block 32) : Option (Block 32) :=
  if version = Resumption.pqResumeV08 then do
    let prk ← pqCryptoMac crypto faults hash ikm.bytes
    Resumption.pqResumeRoot crypto faults Resumption.pqResumeV08 prk hash
  else some (.zero 32)

/-- The schedule of `phase7_auth_start_result` on both shared secrets. -/
def phase7AuthStartResult (ss ssEcdh : Block 32) (sid : Block 16)
    (pk ct centralKey peripheralKey : Bytes) (capacity : ℕ) : Option Phase7Start := do
  let hash ← pqPhase7TranscriptHash crypto faults version sid pk ct centralKey peripheralKey
  let ikm := pqPhase7BuildHybridIkm ss ssEcdh
  let resumeRoot ← phase8Root crypto faults version ikm hash
  let keys ← pqPhase7DeriveKeys crypto faults version ikm hash
  let sas ← pqPhase7ComputeSas crypto faults version keys.sas hash
  let ready ← (pqPhase7EncodeFrame version pqPhase7Ready7Auth peripheralKey capacity).toOption
  return { hash, keys, sas, resumeRoot, ready }

/-- The worker's FINISHED_C job: FINISHED_P and the traffic keys. -/
def phase7FinishedResult (keys : Phase7Keys) (hash received : Block 32) (capacity : ℕ) :
    Option (Bytes × Phase7TrafficKeys) := do
  let expected ← pqPhase7ComputeFinishedC crypto faults version keys.finishedC hash
  guard (expected = received)
  let finishedP ← pqPhase7ComputeFinishedP crypto faults version keys.finishedP hash
  let wire ← (pqPhase7EncodeFrame version pqPhase7FinishedP finishedP.bytes capacity).toOption
  let traffic ← pqPhase7DeriveTrafficKeys crypto faults version keys.application
  return (wire, traffic)

/-! ### The CP2 check -/

/-- `pq_phase7_compute_cp2_diagnostic` -/
def pqPhase7ComputeCp2Diagnostic (key hash : Block 32) : Option (Block 32) :=
  hmacSha256 crypto faults key (ascii "PQ-BLE-HANDSHAKE-v0.7/CP2-DIAGNOSTIC") hash.bytes

/-- The schedule of `phase7_cp2_result` on both shared secrets: READY7_CP2 with the public key and the
diagnostic. -/
def phase7Cp2Result (ss ssEcdh : Block 32) (sid : Block 16) (pk ct centralKey peripheralKey : Bytes)
    (capacity : ℕ) : Option Bytes := do
  let hash ← pqPhase7TranscriptHash crypto faults version sid pk ct centralKey peripheralKey
  let keys ← pqPhase7DeriveKeys crypto faults version (pqPhase7BuildHybridIkm ss ssEcdh) hash
  let diagnostic ← pqPhase7ComputeCp2Diagnostic crypto faults keys.application hash
  (pqPhase7EncodeFrame version pqPhase7Ready7Cp2 (peripheralKey ++ diagnostic.bytes) capacity).toOption

end Functions

/-! ## The Python side

A raised `ValueError` is `none`.  The P-256 library says which encoded points are on the curve. -/

namespace Python

/-- `PHASE7_DOMAIN` -/
def phase7Domain : Bytes := ascii "PQ-BLE-HANDSHAKE-v0.7"
/-- `PHASE7_KDF_INFO` -/
def phase7KdfInfo : Bytes := ascii "PQ-BLE-HANDSHAKE-v0.7/hybrid-key-schedule"
/-- `PHASE7_SAS_LABEL` -/
def phase7SasLabel : Bytes := ascii "PQ-BLE-HANDSHAKE-v0.7/SAS"
/-- `PHASE7_FINISHED_C_LABEL` -/
def phase7FinishedCLabel : Bytes := ascii "PQ-BLE-HANDSHAKE-v0.7/FINISHED/C"
/-- `PHASE7_FINISHED_P_LABEL` -/
def phase7FinishedPLabel : Bytes := ascii "PQ-BLE-HANDSHAKE-v0.7/FINISHED/P"
/-- `PHASE7_C2P_LABEL` -/
def phase7C2pLabel : Bytes := ascii "PQ-BLE-TRAFFIC-v0.7/CENTRAL-TO-PERIPHERAL"
/-- `PHASE7_P2C_LABEL` -/
def phase7P2cLabel : Bytes := ascii "PQ-BLE-TRAFFIC-v0.7/PERIPHERAL-TO-CENTRAL"

/-- `_require_size` -/
def requireSize (size : ℕ) (value : Bytes) : Option (Block size) :=
  if h : value.length = size then some ⟨value, h⟩ else none

/-- `_length_prefixed` -/
def lengthPrefixed (value : Bytes) : Option Bytes :=
  if 0xFFFF < value.length then none else some (bigEndian 2 value.length ++ value)

/-- `_validate_transcript_public_key` -/
def validateTranscriptPublicKey (encoded : Bytes) : Option Bytes := do
  let encoded ← requireSize 65 encoded
  guard (encoded.bytes.getD 0 0 = 0x04)
  return encoded.bytes

/-- `build_phase7_transcript` -/
def buildPhase7Transcript (sid pk ct centralKey peripheralKey : Bytes) : Option Bytes := do
  let sid ← requireSize 16 sid
  let pk ← requireSize 1184 pk
  let ct ← requireSize 1088 ct
  let centralKey ← validateTranscriptPublicKey centralKey
  let peripheralKey ← validateTranscriptPublicKey peripheralKey
  let fields ← [phase7Domain, [0x01], [0x02], sid.bytes, pk.bytes, ct.bytes, centralKey,
    peripheralKey].mapM lengthPrefixed
  guard (fields.flatten.length = 2457)
  return fields.flatten

/-- `compute_phase7_transcript_hash` -/
def computePhase7TranscriptHash (crypto : Crypto) (sid pk ct centralKey peripheralKey : Bytes) :
    Option (Block 32) :=
  (buildPhase7Transcript sid pk ct centralKey peripheralKey).map crypto.hash

/-- `build_hybrid_ikm` -/
def buildHybridIkm (ss ssEcdh : Bytes) : Option Bytes := do
  let ss ← requireSize 32 ss
  let ssEcdh ← requireSize 32 ssEcdh
  let first ← lengthPrefixed ss.bytes
  let second ← lengthPrefixed ssEcdh.bytes
  guard ((first ++ second).length = 68)
  return first ++ second

/-- `derive_phase7_keys` -/
def derivePhase7Keys (crypto : Crypto) (ss ssEcdh hash : Bytes) : Option Phase7Keys := do
  let hash ← requireSize 32 hash
  let ikm ← buildHybridIkm ss ssEcdh
  let block := hkdfExpand crypto (hkdfExtract crypto hash ikm) phase7KdfInfo 128
  return {
    application := .slice block 0 32
    sas := .slice block 32 32
    finishedC := .slice block 64 32
    finishedP := .slice block 96 32 }

/-- `compute_phase7_sas` -/
def computePhase7Sas (crypto : Crypto) (key hash : Bytes) : Option ℕ := do
  let key ← requireSize 32 key
  let hash ← requireSize 32 hash
  return ofBigEndian (crypto.mac key (phase7SasLabel ++ hash.bytes)).bytes % 1000000

/-- `_compute_finished` -/
def computeFinished (crypto : Crypto) (key label hash : Bytes) : Option (Block 32) := do
  let key ← requireSize 32 key
  let hash ← requireSize 32 hash
  return crypto.mac key (label ++ hash.bytes)

/-- `compute_phase7_finished_c` -/
def computePhase7FinishedC (crypto : Crypto) (key hash : Bytes) : Option (Block 32) :=
  computeFinished crypto key phase7FinishedCLabel hash

/-- `compute_phase7_finished_p` -/
def computePhase7FinishedP (crypto : Crypto) (key hash : Bytes) : Option (Block 32) :=
  computeFinished crypto key phase7FinishedPLabel hash

/-- `derive_phase7_traffic_keys` -/
def derivePhase7TrafficKeys (crypto : Crypto) (root : Bytes) : Option Phase7TrafficKeys := do
  let root ← requireSize 32 root
  return {
    centralToPeripheral := crypto.mac root phase7C2pLabel
    peripheralToCentral := crypto.mac root phase7P2cLabel }

/-- `_validate_phase7_payload`, with `load_p256_public_key` on the key inside. -/
def validatePhase7Payload (onCurve : Bytes → Bool) (subtype : UInt8) (payload : Bytes) : Option Unit :=
  let load := fun key : Bytes ↦ key.length = 65 ∧ key.getD 0 0 = 0x04 ∧ onCurve key = true
  if subtype = pqPhase7Start7 ∨ subtype = pqPhase7Start7Auth then
    guard (payload.length = 81 ∧ load (payload.drop 16))
  else if subtype = pqPhase7Ready7Cp2 then guard (payload.length = 97 ∧ load (payload.take 65))
  else if subtype = pqPhase7Ready7Auth then guard (payload.length = 65 ∧ load (payload.take 65))
  else if subtype = pqPhase7FinishedC ∨ subtype = pqPhase7FinishedP then guard (payload.length = 32)
  else if subtype = pqPhase7Error then guard (payload.length = 1)
  else none

/-- `encode_phase7_frame` -/
def encodePhase7Frame (onCurve : Bytes → Bool) (subtype : UInt8) (payload : Bytes) : Option Bytes := do
  validatePhase7Payload onCurve subtype payload
  return phase7Magic ++ [0x07, subtype] ++ bigEndian 2 payload.length ++ payload

/-- `parse_phase7_frame`: the subtype and the payload. -/
def parsePhase7Frame (onCurve : Bytes → Bool) (data : Bytes) : Option (UInt8 × Bytes) := do
  guard (8 ≤ data.length)
  guard (data.take 4 = phase7Magic)
  guard (data.getD 4 0 = 0x07)
  guard (data.length = 8 + ofBigEndian ((data.drop 6).take 2))
  validatePhase7Payload onCurve (data.getD 5 0) (data.drop 8)
  return (data.getD 5 0, data.drop 8)

/-- `encode_phase7_finished_c` -/
def encodePhase7FinishedC (onCurve : Bytes → Bool) (finished : Bytes) : Option Bytes := do
  let finished ← requireSize 32 finished
  encodePhase7Frame onCurve pqPhase7FinishedC finished.bytes

/-- `parse_phase7_finished_p` -/
def parsePhase7FinishedP (onCurve : Bytes → Bool) (data : Bytes) : Option Bytes := do
  let (subtype, payload) ← parsePhase7Frame onCurve data
  guard (subtype = pqPhase7FinishedP)
  return payload

end Python

end PqBleHandshake
