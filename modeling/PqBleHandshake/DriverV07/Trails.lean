import PqBleHandshake.DriverV07.Session
import PqBleHandshake.Handshake.Interoperability

/-!
# The traces of v0.7

What the trace of a run can be, by test mode: the traces of runs that are through, and those of runs that stop.
-/

namespace PqBleHandshake.Python.V07

open Foundation

/-- `PING i` -/
def ping (index : ℕ) : Bytes := ascii s!"PING {index}"

/-- `PONG i` -/
def pong (index : ℕ) : Bytes := ascii s!"PONG {index}"

/-- The ERROR frame of a status. -/
def errorFrame (status : UInt8) : Bytes := phase7Frame pqV07 pqPhase7Error [status]

/-- A write that the Peripheral denied: Bleak raised a recognized denial, and the link is still up. -/
structure Answer.Denies (answer : Answer) : Prop where
  fault : answer.fault = some .other
  raised : answer.also = true
  connected : answer.connected = true
  recognized : answer.yes = true

/-- What happens before the SAS, with the initialization vector of the probe and the outcome of its early write. -/
structure Opening where
  fragments : List Bytes
  inputs : FullInputs
  probeIv : Block 12
  outcome : Answer := {}

/-- A round: the initialization vector of its PING, and its PONG. -/
structure Round where
  iv : Block 12
  pong : Bytes

/-! ## The tests -/

/-- Nothing was heard, and the link is up. -/
def quiet : List Event := [.linked true, .listened none]

/-- The events of a denied write, the latest first. -/
def denial (wire : Bytes) (answer : Answer) : List Event := quiet ++ [.outcome answer, .wrote wire]

/-- The events of a write that an ERROR frame refused. -/
def refusal (wire : Bytes) (status : UInt8) : List Event := quiet ++ [.accepted (errorFrame status), .wrote wire]

/-- How far a quiet period can get. -/
inductive Quieting : List Event → Prop
  | start : Quieting []
  | listened (heard : Option Bytes) : Quieting [.listened heard]
  | linked (connected : Bool) : Quieting [.linked connected, .listened none]

/-- How far the test of a denial can get. -/
inductive Denying (wire : Bytes) : List Event → Prop
  | wrote : Denying wire [.wrote wire]
  | outcome (answer : Answer) : Denying wire [.outcome answer, .wrote wire]
  | quieting (answer : Answer) (hdenies : answer.Denies) {events : List Event} (hquieting : Quieting events) :
    Denying wire (events ++ [.outcome answer, .wrote wire])

/-- How far the test of a refusal can get. -/
inductive Refusing (wire : Bytes) (status : UInt8) : List Event → Prop
  | wrote : Refusing wire status [.wrote wire]
  | quieting {events : List Event} (hquieting : Quieting events) :
    Refusing wire status (events ++ [.accepted (errorFrame status), .wrote wire])

section Trails

variable (crypto : Crypto) (onCurve : Bytes → Bool) (aead : Aead) (mode : Option NegativeTest)

namespace Opening

variable (o : Opening)

/-- Both P-256 keys are on the curve, and the fragments are those of the ciphertext. -/
structure Valid : Prop where
  central : onCurve o.inputs.centralKey.bytes = true
  peripheral : onCurve o.inputs.peripheralKey.bytes = true
  fragments : ∃ mtu, writeFragmentedCiphertext o.inputs.ct.bytes mtu = some o.fragments

/-- The question for the SAS is reached: in the mode `pre-auth` the early write was denied. -/
structure Asked : Prop extends o.Valid onCurve where
  denied : mode = some .preAuth → o.outcome.Denies

/-- The START7_AUTH frame. -/
def start : Bytes := phase7Frame pqV07 pqPhase7Start7Auth (o.inputs.sid.bytes ++ o.inputs.centralKey.bytes)

/-- The READY7_AUTH frame. -/
def ready : Bytes := phase7Frame pqV07 pqPhase7Ready7Auth o.inputs.peripheralKey.bytes

/-- The key schedule of the firmware. -/
def schedule : Phase7Start := hybridStart crypto pqV07 o.inputs

/-- The events to the P-256 agreement, the latest first. -/
def trace : List Event :=
  [.agreed o.inputs.ssEcdh.bytes,
    .accepted o.ready,
    .sent o.start,
    .transferred o.fragments,
    .encapsulated o.inputs.ct.bytes o.inputs.ss.bytes,
    .read o.inputs.pk.bytes]

/-- A beginning of an opening, valid as far as it goes: nothing is transferred before the own key is on the curve,
and only fragments of the ciphertext; and only a READY7_AUTH with a key on the curve is accepted. -/
structure Begins (begun : List Event) : Prop where
  suffix : begun <:+ o.trace
  central : .transferred o.fragments ∈ begun → onCurve o.inputs.centralKey.bytes = true
  fragments : .transferred o.fragments ∈ begun →
    ∃ mtu, writeFragmentedCiphertext o.inputs.ct.bytes mtu = some o.fragments
  peripheral : .accepted o.ready ∈ begun → onCurve o.inputs.peripheralKey.bytes = true

/-- The PING of a round under its sequence number. -/
def frame (index : ℕ) (iv : Block 12) : Bytes :=
  secureFrame (UInt64.ofNat index) pqSecureMsgTypeData iv
    (aead.encrypt (hybridTraffic crypto pqV07 o.inputs).centralToPeripheral iv
      (PqBleHandshake.buildAad o.inputs.sid pqSecureCentralRole (UInt64.ofNat index) pqSecureMsgTypeData) (ping index))

/-- The probe of the test modes. -/
def probe : Bytes := o.frame crypto aead 0 o.probeIv

/-- A frame opens as a message of the Peripheral. -/
def Opens (index : ℕ) (raw plaintext : Bytes) : Prop :=
  ∃ iv sealed, SecureOpened aead (hybridTraffic crypto pqV07 o.inputs).peripheralToCentral o.inputs.sid
    pqSecurePeripheralRole pqSecureMsgTypeData raw (UInt64.ofNat index) iv sealed plaintext

/-- The events to the question for the SAS. -/
def promptTrace : List Event :=
  if mode = some .preAuth then denial (o.probe crypto aead) o.outcome ++ o.trace else o.trace

/-- The events to the confirmed SAS. -/
def confirmTrace : List Event := .confirmed (o.schedule crypto).sas :: o.promptTrace crypto aead mode

/-- The events to the declined SAS. -/
def declineTrace : List Event := .declined (o.schedule crypto).sas :: o.promptTrace crypto aead mode

/-- The FINISHED_C frame of a mode. -/
def finishedC : Bytes :=
  phase7Frame pqV07 pqPhase7FinishedC
    (if mode = some .finishedC then tamperLastBit (hybridTagC crypto pqV07 o.inputs).bytes
      else (hybridTagC crypto pqV07 o.inputs).bytes)

/-- The events to FINISHED_C. -/
def finishedTrace : List Event := .sent (o.finishedC crypto mode) :: o.confirmTrace crypto aead mode

/-- The events of the handshake. -/
def secureTrace : List Event :=
  .accepted (phase7Frame pqV07 pqPhase7FinishedP (hybridTagP crypto pqV07 o.inputs).bytes) ::
    o.finishedTrace crypto aead mode

/-! ### Rounds -/

/-- The PING that a round of a mode writes. -/
def wire (index : ℕ) (iv : Block 12) : Bytes :=
  if index = 0 ∧ mode = some .preAuth then o.probe crypto aead else o.frame crypto aead index iv

/-- What the mode `c2p-tamper` sees before the PING: the tampered PING is refused. -/
def tamperEvents (index : ℕ) (iv : Block 12) : List Event :=
  if index = 0 ∧ mode = some .c2pTamper then refusal (tamperLastBit (o.wire crypto aead mode index iv)) 0x06 else []

/-- A round up to its PING. -/
def pinged (index : ℕ) (iv : Block 12) (past : List Event) : List Event :=
  .wrote (o.wire crypto aead mode index iv) :: (o.tamperEvents crypto aead mode index iv ++ past)

/-- What the mode `p2c-tamper` sees of the PONG: its tampered copy fails at the tag. -/
def copyEvents (index : ℕ) (raw : Bytes) : List Event :=
  if index = 0 ∧ mode = some .p2cTamper then [.unopened (tamperLastBit raw) .invalidTag] else []

/-- A round up to its PONG. -/
def ponged (index : ℕ) (round : Round) (past : List Event) : List Event :=
  .accepted round.pong :: (copyEvents mode index round.pong ++ o.pinged crypto aead mode index round.iv past)

/-- What the mode `c2p-replay` sees after the PONG: the PING is refused when it is written again. -/
def replayEvents (index : ℕ) (iv : Block 12) : List Event :=
  if index = 0 ∧ mode = some .c2pReplay then refusal (o.wire crypto aead mode index iv) 0x04 else []

/-- What the mode `p2c-replay` sees after the PONG: it fails as a replay when it is opened again. -/
def recopyEvents (index : ℕ) (raw : Bytes) : List Event :=
  if index = 0 ∧ mode = some .p2cReplay then [.unopened raw .replay] else []

/-- A whole round. -/
def played (index : ℕ) (round : Round) (past : List Event) : List Event :=
  recopyEvents mode index round.pong ++
    (o.replayEvents crypto aead mode index round.iv ++ o.ponged crypto aead mode index round past)

/-- The events of rounds, the latest first. -/
def roundsTrace : List Round → List Event
  | [] => o.secureTrace crypto aead mode
  | round :: earlier => o.played crypto aead mode earlier.length round (roundsTrace earlier)

/-- A PONG that answers its PING, and whose tampered copy did not open in the mode `p2c-tamper`. -/
structure Answers (index : ℕ) (raw : Bytes) : Prop where
  opened : o.Opens crypto aead index raw (pong index)
  tampered : index = 0 ∧ mode = some .p2cTamper →
    ∀ plaintext, ¬o.Opens crypto aead index (tamperLastBit raw) plaintext

/-- Every PONG answers its PING. -/
def Answered : List Round → Prop
  | [] => True
  | round :: earlier => o.Answers crypto aead mode earlier.length round.pong ∧ Answered earlier

/-- Rounds after the handshake. -/
structure Plays (rounds : List Round) : Prop where
  asked : o.Asked onCurve mode
  mode_ne : mode ≠ some .sasReject
  mode_ne' : mode ≠ some .finishedC
  count : rounds.length ≤ 3
  answered : o.Answered crypto aead mode rounds

end Opening

/-- The traces of runs that pass a test: the refusals that the mode is about, around the rest of the protocol. -/
def Passed (test : NegativeTest) (trace : List Event) : Prop :=
  ∃ o : Opening, o.Asked onCurve (some test) ∧
    match test with
    | .sasReject => ∃ answer : Answer, answer.Denies ∧
        trace = denial (o.probe crypto aead) answer ++ o.declineTrace crypto aead (some test)
    | .finishedC => ∃ answer : Answer, answer.Denies ∧ trace = denial (o.probe crypto aead) answer ++
        .accepted (errorFrame 0x06) :: o.finishedTrace crypto aead (some test)
    | _ => ∃ rounds, rounds.length = 3 ∧ o.Answered crypto aead (some test) rounds ∧
        trace = quiet ++ o.roundsTrace crypto aead (some test) rounds

/-- The traces of runs that stop: a beginning of the protocol of the mode, and of a test how far it got, with what
was seen last. -/
inductive Stopped : List Event → Prop
  /-- Before the key schedule. -/
  | opening (o : Opening) {trace : List Event} (h : o.Begins onCurve trace) : Stopped trace
  /-- In the test of the mode `pre-auth`. -/
  | prompting (o : Opening) (h : o.Valid onCurve) (hmode : mode = some .preAuth) {events : List Event}
      (htest : Denying (o.probe crypto aead) events) : Stopped (events ++ o.trace)
  | prompted (o : Opening) (h : o.Asked onCurve mode) : Stopped (o.promptTrace crypto aead mode)
  | confirmed (o : Opening) (h : o.Asked onCurve mode) : Stopped (o.confirmTrace crypto aead mode)
  | declined (o : Opening) (h : o.Asked onCurve mode) : Stopped (o.declineTrace crypto aead mode)
  /-- In the test of the mode `sas-reject`. -/
  | rejecting (o : Opening) (h : o.Asked onCurve mode) (hmode : mode = some .sasReject) {events : List Event}
      (htest : Denying (o.probe crypto aead) events) : Stopped (events ++ o.declineTrace crypto aead mode)
  | finished (o : Opening) (h : o.Asked onCurve mode) (hmode : mode ≠ some .sasReject) :
    Stopped (o.finishedTrace crypto aead mode)
  /-- In the test of the mode `finished-c`. -/
  | refused (o : Opening) (h : o.Asked onCurve mode) (hmode : mode = some .finishedC) :
    Stopped (.accepted (errorFrame 0x06) :: o.finishedTrace crypto aead mode)
  | blocking (o : Opening) (h : o.Asked onCurve mode) (hmode : mode = some .finishedC) {events : List Event}
      (htest : Denying (o.probe crypto aead) events) :
    Stopped (events ++ .accepted (errorFrame 0x06) :: o.finishedTrace crypto aead mode)
  /-- After rounds. -/
  | rounds (o : Opening) (rounds : List Round) (h : o.Plays crypto onCurve aead mode rounds) :
    Stopped (o.roundsTrace crypto aead mode rounds)
  /-- In the test of the mode `c2p-tamper`. -/
  | tampering (o : Opening) (rounds : List Round) (iv : Block 12) (h : o.Plays crypto onCurve aead mode rounds)
      (hmode : rounds.length = 0 ∧ mode = some .c2pTamper) {events : List Event}
      (htest : Refusing (tamperLastBit (o.wire crypto aead mode rounds.length iv)) 0x06 events) :
    Stopped (events ++ o.roundsTrace crypto aead mode rounds)
  | tampered (o : Opening) (rounds : List Round) (iv : Block 12) (h : o.Plays crypto onCurve aead mode rounds)
      (hcount : rounds.length < 3) :
    Stopped (o.tamperEvents crypto aead mode rounds.length iv ++ o.roundsTrace crypto aead mode rounds)
  | pinged (o : Opening) (rounds : List Round) (iv : Block 12) (h : o.Plays crypto onCurve aead mode rounds)
      (hcount : rounds.length < 3) :
    Stopped (o.pinged crypto aead mode rounds.length iv (o.roundsTrace crypto aead mode rounds))
  /-- In the test of the mode `p2c-tamper`. -/
  | copying (o : Opening) (rounds : List Round) (iv : Block 12) (raw : Bytes) (error : DecryptError)
      (h : o.Plays crypto onCurve aead mode rounds) (hmode : rounds.length = 0 ∧ mode = some .p2cTamper) :
    Stopped (.unopened (tamperLastBit raw) error ::
      o.pinged crypto aead mode rounds.length iv (o.roundsTrace crypto aead mode rounds))
  | copied (o : Opening) (rounds : List Round) (iv : Block 12) (raw : Bytes)
      (h : o.Plays crypto onCurve aead mode rounds) (hcount : rounds.length < 3) :
    Stopped (Opening.copyEvents mode rounds.length raw ++
      o.pinged crypto aead mode rounds.length iv (o.roundsTrace crypto aead mode rounds))
  /-- The notification is no PONG. -/
  | unopened (o : Opening) (rounds : List Round) (iv : Block 12) (raw : Bytes) (error : DecryptError)
      (h : o.Plays crypto onCurve aead mode rounds) (hcount : rounds.length < 3) :
    Stopped (.unopened raw error :: (Opening.copyEvents mode rounds.length raw ++
      o.pinged crypto aead mode rounds.length iv (o.roundsTrace crypto aead mode rounds)))
  | ponged (o : Opening) (rounds : List Round) (round : Round) (h : o.Plays crypto onCurve aead mode (round :: rounds)) :
    Stopped (o.ponged crypto aead mode rounds.length round (o.roundsTrace crypto aead mode rounds))
  /-- In the test of the mode `c2p-replay`. -/
  | replaying (o : Opening) (rounds : List Round) (round : Round)
      (h : o.Plays crypto onCurve aead mode (round :: rounds)) (hmode : rounds.length = 0 ∧ mode = some .c2pReplay)
      {events : List Event} (htest : Refusing (o.wire crypto aead mode rounds.length round.iv) 0x04 events) :
    Stopped (events ++ o.ponged crypto aead mode rounds.length round (o.roundsTrace crypto aead mode rounds))
  | replayed (o : Opening) (rounds : List Round) (round : Round)
      (h : o.Plays crypto onCurve aead mode (round :: rounds)) :
    Stopped (o.replayEvents crypto aead mode rounds.length round.iv ++
      o.ponged crypto aead mode rounds.length round (o.roundsTrace crypto aead mode rounds))
  /-- In the test of the mode `p2c-replay`. -/
  | recopying (o : Opening) (rounds : List Round) (round : Round) (error : DecryptError)
      (h : o.Plays crypto onCurve aead mode (round :: rounds)) (hmode : rounds.length = 0 ∧ mode = some .p2cReplay) :
    Stopped (.unopened round.pong error :: (o.replayEvents crypto aead mode rounds.length round.iv ++
      o.ponged crypto aead mode rounds.length round (o.roundsTrace crypto aead mode rounds)))
  /-- In the quiet after the rounds of a test mode. -/
  | quieting (o : Opening) (rounds : List Round) (h : o.Plays crypto onCurve aead mode rounds)
      (hcount : rounds.length = 3) (hmode : mode ≠ none) {events : List Event} (htest : Quieting events) :
    Stopped (events ++ o.roundsTrace crypto aead mode rounds)

end Trails

end PqBleHandshake.Python.V07
