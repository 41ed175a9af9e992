import PqBleHandshake.Handshake.Phase7

/-!
# The handshake of v0.5 and v0.6

`pq_phase5.c` and `pq_phase6.c`, with the schedule steps of the START and FINISHED_C jobs of `mlkem_session.c`.
Both versions share one handshake: v0.5 sends application data under the application key, and v0.6 under two
keys derived from it.  The keys have the layout of Phase 7.
-/

namespace PqBleHandshake

open Foundation

/-! ## The frames of both phases -/

/-- `PQ_PHASE5_FRAME_MAGIC` -/
def phase5Magic : Bytes := ascii "PQS5"
/-- `PQ_PHASE6_FRAME_MAGIC` -/
def phase6Magic : Bytes := ascii "PQS6"
/-- `PQ_PHASE5_FRAME_VERSION` -/
def pqV05 : UInt8 := 0x05
/-- `PQ_PHASE6_FRAME_VERSION` -/
def pqV06 : UInt8 := 0x06

/-- `PQ_PHASE5_READY_FOR_SAS` -/
def pqPhase5ReadyForSas : UInt8 := 0x01
/-- `PQ_PHASE5_FINISHED_P` -/
def pqPhase5FinishedP : UInt8 := 0x02
/-- `PQ_PHASE5_FINISHED_C` -/
def pqPhase5FinishedC : UInt8 := 0x10
/-- `PQ_PHASE5_DATA_REQUEST` -/
def pqPhase5DataRequest : UInt8 := 0x11
/-- `PQ_PHASE5_ERROR` -/
def pqPhase5Error : UInt8 := 0x7F

/-- `PQ_PHASE6_ERROR` -/
def pqPhase6Error : UInt8 := 0x7F

/-- The frame of a message, of any subtype. -/
def legacyFrame (magic : Bytes) (version : UInt8) (message : UInt8 × Bytes) : Bytes :=
  magic ++ [version, message.1] ++ bigEndian 2 message.2.length ++ message.2

section Codecs

variable (magic : Bytes) (version : UInt8)

/-- The encoder of a phase. -/
def legacyEncodeFrame (subtype : UInt8) (payload : Bytes) (capacity : ℕ) : Except Errno Bytes := do
  require (payload.length ≤ 0xFFFF) .einval
  require (8 + payload.length ≤ capacity) .enobufs
  return magic ++ [version, subtype] ++ bigEndian 2 payload.length ++ payload

/-- The parser of a phase: the subtype and the payload. -/
def legacyParseFrame (frame : Bytes) : Except Errno (UInt8 × Bytes) := do
  require (8 ≤ frame.length) .einval
  require (frame.take 4 = magic ∧ frame.getD 4 0 = version) .einval
  require (frame.length = 8 + Resumption.declaredLength frame) .einval
  return (frame.getD 5 0, frame.drop 8)

end Codecs

/-- `pq_phase5_encode_frame` -/
def pqPhase5EncodeFrame := legacyEncodeFrame phase5Magic pqV05
/-- `pq_phase5_parse_frame` -/
def pqPhase5ParseFrame := legacyParseFrame phase5Magic pqV05
/-- `pq_phase6_encode_frame` -/
def pqPhase6EncodeFrame := legacyEncodeFrame phase6Magic pqV06
/-- `pq_phase6_parse_frame` -/
def pqPhase6ParseFrame := legacyParseFrame phase6Magic pqV06

/-! ## The firmware -/

section Firmware

variable (crypto : Crypto) (faults : Faults)

/-- `phase5_domain` -/
def pqPhase5Domain : Bytes := ascii "PQ-BLE-HANDSHAKE-v0.5"

/-- `pq_phase5_transcript_hash`; every field goes through `hash_length_prefixed`. -/
def pqPhase5TranscriptHash (sid : Block 16) (pk : Block 1184) (ct : Block 1088) : Option (Block 32) :=
  pqCryptoHashParts crypto faults
    ([pqPhase5Domain, [0x01], [0x02], sid.bytes, pk.bytes, ct.bytes].map Resumption.putField)

/-- `pq_phase5_derive_keys`: 128 bytes of HKDF, split into four keys. -/
def pqPhase5DeriveKeys (ss hash : Block 32) : Option Phase7Keys :=
  let info := ascii "PQ-BLE-HANDSHAKE-v0.5/key-schedule"
  if faults.mac hash (ss.bytes ++ info) then none
  else
    let block := hkdfExpand crypto (hkdfExtract crypto hash ss.bytes) info 128
    some {
      application := .slice block 0 32
      sas := .slice block 32 32
      finishedC := .slice block 64 32
      finishedP := .slice block 96 32 }

/-- `hmac_sha256`; its buffer holds 64 bytes. -/
def pqPhase5Hmac (key : Block 32) (label : Bytes) (hash : Block 32) : Option (Block 32) :=
  if 64 < label.length + 32 then none else pqCryptoMac crypto faults key (label ++ hash.bytes)

/-- `pq_phase5_compute_sas`, whose reduction loop is that of Phase 7. -/
def pqPhase5ComputeSas (key hash : Block 32) : Option ℕ := do
  let mac ← pqPhase5Hmac crypto faults key (ascii "PQ-BLE-HANDSHAKE-v0.5/SAS") hash
  return sasRemainder mac.bytes

/-- `pq_phase5_compute_finished_c` -/
def pqPhase5ComputeFinishedC (key hash : Block 32) : Option (Block 32) :=
  pqPhase5Hmac crypto faults key (ascii "PQ-BLE-HANDSHAKE-v0.5/FINISHED/C") hash

/-- `pq_phase5_compute_finished_p` -/
def pqPhase5ComputeFinishedP (key hash : Block 32) : Option (Block 32) :=
  pqPhase5Hmac crypto faults key (ascii "PQ-BLE-HANDSHAKE-v0.5/FINISHED/P") hash

/-- `pq_phase5_finished_equal`; the loop gathers the differences of all bytes. -/
def pqPhase5FinishedEqual (expected received : Block 32) : Bool :=
  ((expected.bytes.zip received.bytes).foldl (fun difference pair ↦ difference ||| (pair.1 ^^^ pair.2)) 0) = (0 : UInt8)

/-- What the START job of v0.5 computes and commits, with its answer READY_FOR_SAS. -/
structure Phase5Start where
  hash : Block 32
  keys : Phase7Keys
  sas : ℕ
  ready : Bytes

/-- The START job after the decapsulation. -/
def phase5StartResult (ss : Block 32) (sid : Block 16) (pk : Block 1184) (ct : Block 1088) (capacity : ℕ) :
    Option Phase5Start := do
  let hash ← pqPhase5TranscriptHash crypto faults sid pk ct
  let keys ← pqPhase5DeriveKeys crypto faults ss hash
  let sas ← pqPhase5ComputeSas crypto faults keys.sas hash
  let ready ← (pqPhase5EncodeFrame pqPhase5ReadyForSas [] capacity).toOption
  return { hash, keys, sas, ready }

/-- The FINISHED_C job: FINISHED_P. -/
def phase5FinishedResult (keys : Phase7Keys) (hash received : Block 32) (capacity : ℕ) : Option Bytes := do
  let expected ← pqPhase5ComputeFinishedC crypto faults keys.finishedC hash
  guard (pqPhase5FinishedEqual expected received = true)
  let finished ← pqPhase5ComputeFinishedP crypto faults keys.finishedP hash
  (pqPhase5EncodeFrame pqPhase5FinishedP finished.bytes capacity).toOption

/-- `pq_phase6_derive_traffic_keys` -/
def pqPhase6DeriveTrafficKeys (root : Block 32) : Option Phase7TrafficKeys := do
  let c2p ← pqCryptoMac crypto faults root (ascii "PQ-BLE-TRAFFIC-v0.6/CENTRAL-TO-PERIPHERAL")
  let p2c ← pqCryptoMac crypto faults root (ascii "PQ-BLE-TRAFFIC-v0.6/PERIPHERAL-TO-CENTRAL")
  return { centralToPeripheral := c2p, peripheralToCentral := p2c }

/-- The traffic keys of an application root. -/
def phase6TrafficKeys (root : Block 32) : Phase7TrafficKeys where
  centralToPeripheral := crypto.mac root (ascii "PQ-BLE-TRAFFIC-v0.6/CENTRAL-TO-PERIPHERAL")
  peripheralToCentral := crypto.mac root (ascii "PQ-BLE-TRAFFIC-v0.6/PERIPHERAL-TO-CENTRAL")

theorem pqPhase6DeriveTrafficKeys_eq_some {crypto : Crypto} {faults : Faults} {root : Block 32}
    {keys : Phase7TrafficKeys} (h : pqPhase6DeriveTrafficKeys crypto faults root = some keys) :
    keys = phase6TrafficKeys crypto root := by
  simp only [pqPhase6DeriveTrafficKeys, Option.bind_eq_bind, Option.bind_eq_some_iff, Option.pure_def,
    Option.some.injEq] at h
  obtain ⟨c2p, hc2p, p2c, hp2c, rfl⟩ := h
  rw [pqCryptoMac_eq_some hc2p, pqCryptoMac_eq_some hp2c]
  rfl

/-- The keys of the application data: the application key in v0.5, its two traffic keys in v0.6. -/
def phase5Traffic (phase6 : Bool) (application : Block 32) : Option Phase7TrafficKeys :=
  if phase6 then pqPhase6DeriveTrafficKeys crypto faults application
  else some { centralToPeripheral := application, peripheralToCentral := application }

end Firmware

end PqBleHandshake
