import PqBleHandshake.Handshake.Phase5
import PqBleHandshake.WireCodecs

/-!
# Both ends of v0.5 and v0.6

The firmware from its START job to its traffic keys, beside `common/phase5.py` and `common/phase6.py` with the
state machine of the Central.
-/

namespace PqBleHandshake

open Foundation

/-! ## The firmware -/

section Firmware

variable (crypto : Crypto) (faults : Faults)

/-- The firmware of v0.5 and v0.6: READY_FOR_SAS, and what it makes of a FINISHED_C frame. -/
def phase5Firmware (phase6 : Bool) (inputs : FullInputs) (faults : Faults) :
    Option (Bytes × (Bytes → Option FullOutputs)) := do
  let start ← phase5StartResult crypto faults inputs.ss inputs.sid inputs.pk inputs.ct legacyWireSize
  return (start.ready, fun finishedC ↦ do
    let (subtype, payload) ← (pqPhase5ParseFrame finishedC).toOption
    guard (subtype = pqPhase5FinishedC ∧ payload.length = 32)
    let finishedP ← phase5FinishedResult crypto faults start.keys start.hash (.ofBytes 32 payload) legacyWireSize
    let traffic ← phase5Traffic crypto faults phase6 start.keys.application
    return {
      th0 := start.hash, sas := some start.sas, finishedC, finishedP
      c2p := traffic.centralToPeripheral, p2c := traffic.peripheralToCentral
      ivC2p := none, ivP2c := none, root := none, rid := none })

end Firmware

/-! ## The Central -/

namespace Python

/-- The encoder of a phase in Python; a subtype is an integer there. -/
def encodeLegacyFrame (magic : Bytes) (version : UInt8) (subtype : ℤ) (payload : Bytes) : Option Bytes := do
  guard (0 ≤ subtype ∧ subtype ≤ 0xFF)
  guard (payload.length ≤ 0xFFFF)
  return magic ++ [version, UInt8.ofNat subtype.toNat] ++ bigEndian 2 payload.length ++ payload

/-- The parser of a phase in Python. -/
def parseLegacyFrame (magic : Bytes) (version : UInt8) (data : Bytes) : Option (UInt8 × Bytes) := do
  guard (8 ≤ data.length)
  guard (data.take 4 = magic)
  guard (data.getD 4 0 = version)
  guard (data.length = 8 + ofBigEndian ((data.drop 6).take 2))
  return (data.getD 5 0, data.drop 8)

/-- `encode_phase5_frame` -/
def encodePhase5Frame := encodeLegacyFrame phase5Magic pqV05
/-- `parse_phase5_frame` -/
def parsePhase5Frame := parseLegacyFrame phase5Magic pqV05
/-- `encode_phase6_frame` -/
def encodePhase6Frame := encodeLegacyFrame phase6Magic pqV06
/-- `parse_phase6_frame` -/
def parsePhase6Frame := parseLegacyFrame phase6Magic pqV06

/-- `build_phase5_transcript` -/
def buildPhase5Transcript (sid pk ct : Bytes) : Option Bytes := do
  let sid ← requireSize 16 sid
  let pk ← requireSize 1184 pk
  let ct ← requireSize 1088 ct
  let fields ← [ascii "PQ-BLE-HANDSHAKE-v0.5", [0x01], [0x02], sid.bytes, pk.bytes, ct.bytes].mapM lengthPrefixed
  return fields.flatten

section Schedule

variable (crypto : Crypto)

/-- `compute_phase5_transcript_hash` -/
def computePhase5TranscriptHash (sid pk ct : Bytes) : Option (Block 32) :=
  (buildPhase5Transcript sid pk ct).map crypto.hash

/-- `derive_phase5_keys` -/
def derivePhase5Keys (ss hash : Bytes) : Option Phase7Keys := do
  let ss ← requireSize 32 ss
  let hash ← requireSize 32 hash
  let block := hkdfExpand crypto (hkdfExtract crypto hash ss.bytes) (ascii "PQ-BLE-HANDSHAKE-v0.5/key-schedule") 128
  return {
    application := .slice block 0 32
    sas := .slice block 32 32
    finishedC := .slice block 64 32
    finishedP := .slice block 96 32 }

/-- `compute_phase5_sas` -/
def computePhase5Sas (key hash : Bytes) : Option ℕ := do
  let key ← requireSize 32 key
  let hash ← requireSize 32 hash
  return ofBigEndian (crypto.mac key (ascii "PQ-BLE-HANDSHAKE-v0.5/SAS" ++ hash.bytes)).bytes % 1000000

/-- `compute_finished_c` -/
def computeFinishedC (key hash : Bytes) : Option (Block 32) :=
  computeFinished crypto key (ascii "PQ-BLE-HANDSHAKE-v0.5/FINISHED/C") hash

/-- `compute_finished_p` -/
def computeFinishedP (key hash : Bytes) : Option (Block 32) :=
  computeFinished crypto key (ascii "PQ-BLE-HANDSHAKE-v0.5/FINISHED/P") hash

/-- `derive_phase6_traffic_keys` -/
def derivePhase6TrafficKeys (root : Bytes) : Option Phase7TrafficKeys := do
  let root ← requireSize 32 root
  return {
    centralToPeripheral := crypto.mac root (ascii "PQ-BLE-TRAFFIC-v0.6/CENTRAL-TO-PERIPHERAL")
    peripheralToCentral := crypto.mac root (ascii "PQ-BLE-TRAFFIC-v0.6/PERIPHERAL-TO-CENTRAL") }

/-- The keys of the application data, as the runners of v0.5 and v0.6 choose them. -/
def applicationKeys (phase6 : Bool) (application : Block 32) : Option Phase7TrafficKeys :=
  if phase6 then derivePhase6TrafficKeys crypto application.bytes
  else some { centralToPeripheral := application, peripheralToCentral := application }

end Schedule

/-- `verify_finished` -/
def verifyFinished (expected received : Bytes) : Bool :=
  expected.length = 32 && received.length = 32 && expected = received

/-- `build_start5` -/
def buildStart5 (sid : Bytes) : Option Bytes := do
  let sid ← requireSize 16 sid
  return ascii "START5" ++ sid.bytes

/-! ### The state machine -/

/-- `Phase5CentralState` -/
inductive Phase5CentralState
  | empty | waitReadyForSas | waitSasConfirm | waitFinishedP | authenticated | waitApplicationData | complete | aborted
deriving DecidableEq, Repr

/-- A call of a method: what it returns, `none` if it raises, and the state after it. -/
abbrev Phase5Call (α : Type) := Phase5CentralState → Option α × Phase5CentralState

/-- `_require`, and the rest of the method. -/
def Phase5Call.requiring {α : Type} (expected : Phase5CentralState) (rest : Phase5Call α) : Phase5Call α := fun state ↦
  if state = expected then rest state else (none, state)

namespace Phase5CentralStateMachine

/-- `start`; the state moves on before the session identifier is checked. -/
def start (sid : Bytes) : Phase5Call Bytes :=
  .requiring .empty fun _ ↦ (buildStart5 sid, .waitReadyForSas)

/-- `receive_ready_for_sas` -/
def receiveReadyForSas (frame : UInt8 × Bytes) : Phase5Call Unit :=
  .requiring .waitReadyForSas fun state ↦
    if frame.1 ≠ pqPhase5ReadyForSas ∨ frame.2 ≠ [] then (none, state) else (some (), .waitSasConfirm)

/-- `reject_sas` -/
def rejectSas : Phase5Call Unit := .requiring .waitSasConfirm fun _ ↦ (some (), .aborted)

/-- `confirm_sas` -/
def confirmSas (finishedC : Bytes) : Phase5Call Bytes :=
  .requiring .waitSasConfirm fun state ↦
    match requireSize 32 finishedC with
    | none => (none, state)
    | some finishedC => (encodePhase5Frame pqPhase5FinishedC.toNat finishedC.bytes, .waitFinishedP)

/-- `receive_finished_p` -/
def receiveFinishedP (frame : UInt8 × Bytes) (expected : Bytes) : Phase5Call Unit :=
  .requiring .waitFinishedP fun state ↦
    if frame.1 = pqPhase5Error then (none, state)
    else if frame.1 ≠ pqPhase5FinishedP then (none, state)
    else if verifyFinished expected frame.2 = false then (none, .aborted)
    else (some (), .authenticated)

/-- `request_application_data` -/
def requestApplicationData : Phase5Call Bytes :=
  .requiring .authenticated fun _ ↦ (encodePhase5Frame pqPhase5DataRequest.toNat [], .waitApplicationData)

/-- `complete_application_data` -/
def completeApplicationData : Phase5Call Unit := .requiring .waitApplicationData fun _ ↦ (some (), .complete)

end Phase5CentralStateMachine

open Phase5CentralStateMachine in
/-- The Central of v0.5 and v0.6: FINISHED_C, and what it makes of a FINISHED_P frame; every step goes through
its state machine. -/
def phase5Central (crypto : Crypto) (phase6 : Bool) (inputs : FullInputs) (ready : Bytes) :
    Option (Bytes × (Bytes → Option FullOutputs)) := do
  let th0 ← computePhase5TranscriptHash crypto inputs.sid.bytes inputs.pk.bytes inputs.ct.bytes
  let keys ← derivePhase5Keys crypto inputs.ss.bytes th0.bytes
  let sas ← computePhase5Sas crypto keys.sas.bytes th0.bytes
  let finished ← computeFinishedC crypto keys.finishedC.bytes th0.bytes
  let expected ← computeFinishedP crypto keys.finishedP.bytes th0.bytes
  let (start, state) := start inputs.sid.bytes .empty
  let _ ← start
  let frame ← parsePhase5Frame ready
  let (taken, state) := receiveReadyForSas frame state
  taken
  let (finishedC, state) := confirmSas finished.bytes state
  let finishedC ← finishedC
  return (finishedC, fun finishedP ↦ do
    let frame ← parsePhase5Frame finishedP
    (receiveFinishedP frame expected.bytes state).1
    let traffic ← applicationKeys crypto phase6 keys.application
    return {
      th0, sas := some sas, finishedC, finishedP
      c2p := traffic.centralToPeripheral, p2c := traffic.peripheralToCentral
      ivC2p := none, ivP2c := none, root := none, rid := none })

end Python

end PqBleHandshake
