import PqBleHandshake.Application.Central
import PqBleHandshake.Handshake.Phase7
import PqBleHandshake.Resumption.Interoperability
import PqBleHandshake.Resumption.PeripheralModel

/-!
# The Central's full handshakes

`CentralHandshake` of `v1_cp3.py` and `FullHandshake` of `resume_full.py`.  Every method that raises has
cleared the object first; it returns `none` here.  A `bytearray` that is empty or wiped is the zero block.
-/

namespace PqBleHandshake.Python

open Foundation

/-- The states of both handshake objects. -/
inductive HandshakeState
  | new | waitReadyCp3 | waitAuth | waitFinishedP | appSecure | closed
deriving DecidableEq, Repr

/-! ## v1.0 -/

/-- `V1SecurityInfo` of `v1_smp_mlkem.py`. -/
structure SecurityInfo where
  level : UInt8
  secureConnections : Bool
  authenticated : Bool
  gateOpen : Bool
  encKeySize : UInt8
  profile : UInt8
deriving DecidableEq

/-- `parse_sec_info` -/
def parseSecInfo (data : Bytes) : Option SecurityInfo := do
  let (subtype, payload) ← parseV1Frame data
  guard (subtype = pqV1SecInfo)
  return {
    level := payload.getD 0 0
    secureConnections := payload.getD 1 0 &&& 0x01 ≠ 0
    authenticated := payload.getD 1 0 &&& 0x02 ≠ 0
    gateOpen := payload.getD 1 0 &&& 0x04 ≠ 0
    encKeySize := payload.getD 2 0
    profile := payload.getD 3 0 }

/-- `encode_sec_info` -/
def encodeSecInfo (info : SecurityInfo) : Option Bytes :=
  let flags : UInt8 := (if info.secureConnections then 0x01 else 0) |||
    (if info.authenticated then 0x02 else 0) ||| (if info.gateOpen then 0x04 else 0)
  encodeV1Frame pqV1SecInfo [info.level, flags, info.encKeySize, info.profile]

/-- `is_authenticated_level4` -/
def isAuthenticatedLevel4 (info : SecurityInfo) : Bool :=
  info.level = 4 && info.secureConnections && info.authenticated && info.gateOpen &&
    info.encKeySize = 16 && info.profile = 0x10

/-- The prefix of every label of `v1_cp3.py`. -/
def v1Label (suffix : String) : Bytes := ascii "PQ-BLE-HANDSHAKE-v1.0/" ++ ascii suffix

/-- `build_transcript` -/
def buildTranscript (sec pk ct start : Bytes) : Option Bytes := do
  let info ← parseSecInfo sec
  let encoded ← encodeSecInfo info
  guard (encoded = sec)
  guard (pk.length = 1184 ∧ ct.length = 1088)
  let (subtype, _) ← parseV1Frame start
  guard (subtype = pqV1StartCp3)
  return v1Label "CP3-TRANSCRIPT" ++ sec ++ pk ++ ct ++ start

/-- `transcript_hash` -/
def transcriptHash (crypto : Crypto) (sec pk ct start : Bytes) : Option (Block 32) :=
  (buildTranscript sec pk ct start).map crypto.hash

/-- `extract` -/
def extract (crypto : Crypto) (th0 : Block 32) (ss : Bytes) : Option (Block 32) :=
  (requireSize 32 ss).map fun ss ↦ crypto.mac th0 ss.bytes

/-- `chain` -/
def chain (crypto : Crypto) (th : Block 32) (frame : Bytes) : Option (Block 32) := do
  let (subtype, _) ← parseV1Frame frame
  guard (subtype = pqV1FinishedC ∨ subtype = pqV1FinishedP)
  return crypto.hash (th.bytes ++ frame)

/-- `CentralHandshake` -/
structure CentralHandshake where
  state : HandshakeState := .new
  th : Block 32 := .zero 32
  prk : Block 32 := .zero 32
  finishedC : Block 32 := .zero 32
  finishedP : Block 32 := .zero 32
  appC2p : Block 32 := .zero 32
  appP2c : Block 32 := .zero 32
  sessionId : Bytes := []
deriving DecidableEq

namespace CentralHandshake

/-- `clear_handshake` -/
def clearHandshake (h : CentralHandshake) : CentralHandshake :=
  { h with prk := .zero 32, finishedC := .zero 32, finishedP := .zero 32, th := .zero 32 }

/-- `clear` -/
def clear (h : CentralHandshake) : CentralHandshake :=
  { h.clearHandshake with appC2p := .zero 32, appP2c := .zero 32, sessionId := [], state := .closed }

/-- `begin` -/
def begin (crypto : Crypto) (h : CentralHandshake) (ss sec pk ct start : Bytes) :
    Option CentralHandshake := do
  guard (h.state = .new)
  let info ← parseSecInfo sec
  guard (isAuthenticatedLevel4 info = true)
  let th ← transcriptHash crypto sec pk ct start
  let (_, sessionId) ← parseV1Frame start
  let prk ← extract crypto th ss
  return { h with
    th, sessionId, prk
    finishedC := expand crypto prk (v1Label "FINISHED-C") th
    finishedP := expand crypto prk (v1Label "FINISHED-P") th
    state := .waitReadyCp3 }

/-- `accept_ready`: FINISHED_C. -/
def acceptReady (crypto : Crypto) (h : CentralHandshake) (raw : Bytes) :
    Option (Bytes × CentralHandshake) := do
  let (subtype, payload) ← parseV1Frame raw
  guard (h.state = .waitReadyCp3 ∧ subtype = pqV1ReadyCp3 ∧ h.th.bytes = payload)
  let tag := verifyData crypto h.finishedC (v1Label "VERIFY-C") h.th
  let finished ← encodeV1Frame pqV1FinishedC tag.bytes
  let th ← chain crypto h.th finished
  return (finished, { h with th, state := .waitFinishedP })

/-- `accept_finished_p` -/
def acceptFinishedP (crypto : Crypto) (h : CentralHandshake) (raw : Bytes) :
    Option CentralHandshake := do
  let (subtype, payload) ← parseV1Frame raw
  guard (h.state = .waitFinishedP ∧ subtype = pqV1FinishedP)
  let expected := verifyData crypto h.finishedP (v1Label "VERIFY-P") h.th
  guard (expected.bytes = payload)
  let th ← chain crypto h.th raw
  return { ({ h with
      th
      appC2p := expand crypto h.prk (v1Label "APP-C2P") th
      appP2c := expand crypto h.prk (v1Label "APP-P2C") th } : CentralHandshake).clearHandshake with
    state := .appSecure }

end CentralHandshake

/-! ## v0.8 and v1.1 -/

/-- `encode_full` -/
def encodeFull (onCurve : Bytes → Bool) (profile subtype : UInt8) (payload : Bytes) : Option Bytes := do
  let _ ← Resumption.domain profile
  let raw ← if profile = Resumption.pqResumeV08 then encodePhase7Frame onCurve subtype payload
    else encodeV1Frame subtype payload
  return raw.take 4 ++ [profile] ++ raw.drop 5

/-- `parse_full`: the subtype and the payload. -/
def parseFull (onCurve : Bytes → Bool) (profile : UInt8) (raw : Bytes) : Option (UInt8 × Bytes) := do
  let _ ← Resumption.domain profile
  guard (8 ≤ raw.length ∧ raw.getD 4 0 = profile)
  let baseline : UInt8 := if profile = Resumption.pqResumeV08 then 7 else 16
  let adapted := raw.take 4 ++ [baseline] ++ raw.drop 5
  if profile = Resumption.pqResumeV08 then parsePhase7Frame onCurve adapted
  else parseV1Frame adapted

/-- `security_info` -/
def securityInfo (onCurve : Bytes → Bool) (raw : Bytes) : Option Unit := do
  let (subtype, payload) ← parseFull onCurve Resumption.pqResumeV11 raw
  guard (subtype = pqV1SecInfo)
  guard (payload = [4, 7, 16, Resumption.pqResumeV11])

/-- `FullHandshake`, with the profile of its labels and its ticket. -/
structure FullHandshake where
  profile : UInt8
  state : HandshakeState := .new
  sessionId : Bytes := []
  prk : Block 32 := .zero 32
  th : Block 32 := .zero 32
  confirmC : Block 32 := .zero 32
  confirmP : Block 32 := .zero 32
  application : Block 32 := .zero 32
  sasKey : Block 32 := .zero 32
  appC2p : Block 32 := .zero 32
  appP2c : Block 32 := .zero 32
  ticket : Option Resumption.Python.Ticket := none
deriving DecidableEq

/-- `Ticket.issue` -/
def issueTicket (crypto : Crypto) (profile : UInt8) (peer : Block 7) (prk th : Block 32) (now : ℚ) :
    Option Resumption.Python.Ticket := do
  let root ← (Resumption.deriveRoot crypto profile prk.bytes th.bytes).toOption
  let rid ← (Resumption.resumeId crypto profile root.bytes th.bytes).toOption
  return { profile, peer, rid := rid.bytes, root, createdAt := now, successfulResumes := 0
           replay := [], valid := true }

namespace FullHandshake

/-- `clear_handshake` -/
def clearHandshake (h : FullHandshake) : FullHandshake :=
  { h with prk := .zero 32, th := .zero 32, confirmC := .zero 32, confirmP := .zero 32
           application := .zero 32, sasKey := .zero 32 }

/-- `clear` -/
def clear (h : FullHandshake) : FullHandshake :=
  { h.clearHandshake with appC2p := .zero 32, appP2c := .zero 32, sessionId := [], state := .closed }

section Methods

variable (crypto : Crypto) (onCurve : Bytes → Bool)

/-- `begin`, with the keyword arguments of both profiles. -/
def begin (h : FullHandshake) (ss pk ct sid ecdh centralPublic peripheralPublic sec : Bytes) :
    Option FullHandshake := do
  guard (h.state = .new)
  let sid ← requireSize 16 sid
  let ss ← requireSize 32 ss
  guard (pk.length = 1184 ∧ ct.length = 1088)
  let d ← Resumption.domain h.profile
  if h.profile = Resumption.pqResumeV08 then do
    -- The baseline transcript with only its domain field replaced.
    let baseline ← buildPhase7Transcript sid.bytes pk ct centralPublic peripheralPublic
    let ikm ← buildHybridIkm ss.bytes ecdh
    let th := crypto.hash (Resumption.putField d ++ baseline.drop (2 + phase7Domain.length))
    let prk := crypto.mac th ikm
    let block := hkdfExpand crypto prk (d ++ ascii "/hybrid-key-schedule") 128
    return { h with
      sessionId := sid.bytes, th, prk
      application := .slice block 0 32
      sasKey := .slice block 32 32
      confirmC := .slice block 64 32
      confirmP := .slice block 96 32
      state := .waitAuth }
  else do
    securityInfo onCurve sec
    let start ← encodeFull onCurve h.profile pqV1StartCp3 sid.bytes
    let th := crypto.hash (d ++ ascii "/CP3-TRANSCRIPT" ++ sec ++ pk ++ ct ++ start)
    let prk := crypto.mac th ss.bytes
    return { h with
      sessionId := sid.bytes, th, prk
      confirmC := expand crypto prk (d ++ ascii "/FINISHED-C") th
      confirmP := expand crypto prk (d ++ ascii "/FINISHED-P") th
      state := .waitAuth }

/-- `sas`, as a number. -/
def sas (h : FullHandshake) : Option ℕ := do
  guard (h.profile = Resumption.pqResumeV08 ∧ h.state = .waitAuth)
  let d ← Resumption.domain h.profile
  return ofBigEndian (crypto.mac h.sasKey (d ++ ascii "/SAS" ++ h.th.bytes)).bytes % 1000000

/-- `finish_c`: FINISHED_C. -/
def finishC (h : FullHandshake) (authenticated : Bool) : Option (Bytes × FullHandshake) := do
  guard (h.state = .waitAuth ∧ authenticated = true)
  let d ← Resumption.domain h.profile
  let hybrid : Bool := h.profile = Resumption.pqResumeV08
  let tag := verifyData crypto h.confirmC (d ++ ascii (if hybrid then "/FINISHED/C" else "/VERIFY-C")) h.th
  let wire ← encodeFull onCurve h.profile (if hybrid then pqPhase7FinishedC else pqV1FinishedC) tag.bytes
  let th := if hybrid then h.th else crypto.hash (h.th.bytes ++ wire)
  return (wire, { h with th, state := .waitFinishedP })

/-- `finish_p`; the ticket exists only from here on. -/
def finishP (h : FullHandshake) (raw : Bytes) (peer : Block 7) (now : ℚ) : Option FullHandshake := do
  guard (h.state = .waitFinishedP)
  let (subtype, payload) ← parseFull onCurve h.profile raw
  let hybrid : Bool := h.profile = Resumption.pqResumeV08
  guard (subtype = if hybrid then pqPhase7FinishedP else pqV1FinishedP)
  let d ← Resumption.domain h.profile
  let expected :=
    verifyData crypto h.confirmP (d ++ ascii (if hybrid then "/FINISHED/P" else "/VERIFY-P")) h.th
  guard (expected.bytes = payload)
  let th := if hybrid then h.th else crypto.hash (h.th.bytes ++ raw)
  let traffic := ascii "PQ-BLE-TRAFFIC-v0.8/"
  let appC2p := if hybrid then crypto.mac h.application (traffic ++ ascii "CENTRAL-TO-PERIPHERAL")
    else expand crypto h.prk (d ++ ascii "/APP-C2P") th
  let appP2c := if hybrid then crypto.mac h.application (traffic ++ ascii "PERIPHERAL-TO-CENTRAL")
    else expand crypto h.prk (d ++ ascii "/APP-P2C") th
  let ticket ← issueTicket crypto h.profile peer h.prk th now
  return { h.clearHandshake with appC2p, appP2c, ticket := some ticket, state := .appSecure }

end Methods

end FullHandshake

end PqBleHandshake.Python
