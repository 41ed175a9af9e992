import PqBleHandshake.DriverV1.Outcome
import PqBleHandshake.Handshake.Interoperability

/-!
# The frames of a run of v1.0

A trace that leads to a stage of the protocol is known frame by frame: the handshake is that of the key schedule of
the firmware, and the rounds are the frames of the application channel under consecutive sequence numbers.
-/

namespace PqBleHandshake.Python.V1

open Foundation Effect

section Traces

variable (crypto : Crypto) (aead : Aead)

/-- The SEC_QUERY frame. -/
def secQuery : Bytes := v1Frame pqV10 pqV1SecQuery []

/-- The events before the exchange, the latest first. -/
def preludeTrace (bonded : Bool) : List Event :=
  if bonded = true then [.bonded] else .paired :: (preL4Probes.map Event.denied).reverse

/-- The events to the first attestation. -/
def attestTrace (bonded : Bool) (sec : Bytes) : List Event := .accepted sec :: .sent secQuery :: preludeTrace bonded

/-- The events to the end of the transfer. -/
def transferTrace (bonded : Bool) (sec pk ct ss : Bytes) (fragments : List Bytes) : List Event :=
  .transferred fragments :: .encapsulated ct ss :: .read pk :: attestTrace bonded sec

/-- What happens before START_CP3; the second attestation is that of the inputs. -/
structure Opening where
  bonded : Bool
  first : Bytes
  fragments : List Bytes
  inputs : FullInputs

namespace Opening

/-- Both attestations are strict, the second in its only encoding, and the fragments are those of the ciphertext. -/
structure Valid (o : Opening) : Prop where
  first : Strict o.first
  second : o.inputs.sec = strictSec pqV10
  fragments : ∃ mtu, writeFragmentedCiphertext o.inputs.ct.bytes mtu = some o.fragments

/-- The secrets of the handshake. -/
def handshake (o : Opening) : V1Handshake := smpHandshake crypto pqV10 o.inputs

/-- The START_CP3 frame. -/
def start (o : Opening) : Bytes := v1Frame pqV10 pqV1StartCp3 o.inputs.sid.bytes

/-- The events to the second attestation. -/
def trace (o : Opening) : List Event :=
  .accepted o.inputs.sec :: .sent secQuery ::
    transferTrace o.bonded o.first o.inputs.pk.bytes o.inputs.ct.bytes o.inputs.ss.bytes o.fragments

/-- The events to READY_CP3. -/
def readyTrace (o : Opening) : List Event :=
  .accepted (smpReady crypto pqV10 o.inputs) :: .sent o.start :: o.trace

/-- The events of the handshake. -/
def handshakeTrace (o : Opening) : List Event :=
  .accepted (cp3FinishedP crypto pqV10 (o.handshake crypto)) ::
    .sent (cp3FinishedC crypto pqV10 (o.handshake crypto)) :: o.readyTrace crypto

/-- The session of the handshake. -/
def secure (o : Opening) : CentralHandshake := v10Secure crypto (o.handshake crypto) o.inputs.sid.bytes

/-- The application after `sent` PINGs and `received` PONGs. -/
def channel (o : Opening) (sent received : ℕ) : Channel where
  ivC2p := cp4IvBase crypto pqV10 (o.secure crypto).appC2p o.inputs.sid pqV1AppC2p
  ivP2c := cp4IvBase crypto pqV10 (o.secure crypto).appP2c o.inputs.sid pqV1AppP2c
  txC2p := sent
  rxP2c := received

/-- The PING of a challenge under a sequence number. -/
def pingFrame (o : Opening) (seq : ℕ) (challenge : Bytes) : Bytes :=
  cp4Wire pqV10 pqV1AppC2p (UInt64.ofNat seq) pqV1Cp4Ping
    (aead.encrypt (o.secure crypto).appC2p (pqV1Cp4Nonce (o.channel crypto 0 0).ivC2p (UInt64.ofNat seq))
      (cp4Aad pqV10 o.inputs.sid pqV1AppC2p (UInt64.ofNat seq) pqV1Cp4Ping 16) challenge)

/-- A frame opens as the PONG of a challenge under a sequence number. -/
def Answers (o : Opening) (seq : ℕ) (challenge pong : Bytes) : Prop :=
  ∃ sealed, Cp4Opened aead pqV10 (o.secure crypto).appP2c (o.channel crypto 0 0).ivP2c o.inputs.sid pong pqV1AppP2c
    (UInt64.ofNat seq) challenge sealed

/-- The events of rounds, given by challenge and PONG, the latest first. -/
def roundsTrace (o : Opening) : List (Bytes × Bytes) → List Event
  | [] => o.handshakeTrace crypto
  | (challenge, pong) :: earlier =>
    .accepted pong :: .sent (o.pingFrame crypto aead earlier.length challenge) :: roundsTrace o earlier

/-- Every PONG answers its PING, and the PINGs are numbered. -/
def Answered (o : Opening) : List (Bytes × Bytes) → Prop
  | [] => True
  | (challenge, pong) :: earlier =>
    challenge.length = 16 ∧ o.Answers crypto aead earlier.length challenge pong ∧ Answered o earlier

end Opening

/-- The traces that lead to a stage. -/
def Recorded (trace : List Event) : Stage → Prop
  | .probing denied => trace = (denied.map Event.denied).reverse
  | .paired | .installed => ∃ bonded, trace = preludeTrace bonded
  | .queried => ∃ bonded, trace = .sent secQuery :: preludeTrace bonded
  | .attested => ∃ bonded sec, Strict sec ∧ trace = attestTrace bonded sec
  | .keyed pk => ∃ bonded sec, Strict sec ∧ pk.length = 1184 ∧ trace = .read pk :: attestTrace bonded sec
  | .encapsulated pk ct ss => ∃ bonded sec, Strict sec ∧ pk.length = 1184 ∧ ct.length = 1088 ∧ ss.length = 32 ∧
      trace = .encapsulated ct ss :: .read pk :: attestTrace bonded sec
  | .transferred pk ct ss => ∃ bonded sec fragments mtu, Strict sec ∧ pk.length = 1184 ∧ ct.length = 1088 ∧
      ss.length = 32 ∧ writeFragmentedCiphertext ct mtu = some fragments ∧
        trace = transferTrace bonded sec pk ct ss fragments
  | .requeried pk ct ss => ∃ bonded sec fragments mtu, Strict sec ∧ pk.length = 1184 ∧ ct.length = 1088 ∧
      ss.length = 32 ∧ writeFragmentedCiphertext ct mtu = some fragments ∧
        trace = .sent secQuery :: transferTrace bonded sec pk ct ss fragments
  | .reattested pk ct ss second => ∃ bonded sec fragments mtu, Strict sec ∧ pk.length = 1184 ∧ ct.length = 1088 ∧
      ss.length = 32 ∧ writeFragmentedCiphertext ct mtu = some fragments ∧
        trace = .accepted second :: .sent secQuery :: transferTrace bonded sec pk ct ss fragments
  | .begun start h => ∃ o : Opening, o.Valid ∧ start = o.start ∧
      h = v10Session (o.handshake crypto) o.inputs.sid.bytes ∧ trace = o.trace
  | .started h => ∃ o : Opening, o.Valid ∧ h = v10Session (o.handshake crypto) o.inputs.sid.bytes ∧
      trace = .sent o.start :: o.trace
  | .readied finishedC h => ∃ o : Opening, o.Valid ∧ finishedC = cp3FinishedC crypto pqV10 (o.handshake crypto) ∧
      h = v10Waiting crypto (o.handshake crypto) o.inputs.sid.bytes ∧ trace = o.readyTrace crypto
  | .finished h => ∃ o : Opening, o.Valid ∧ h = v10Waiting crypto (o.handshake crypto) o.inputs.sid.bytes ∧
      trace = .sent (cp3FinishedC crypto pqV10 (o.handshake crypto)) :: o.readyTrace crypto
  | .secure h | .entered h => ∃ o : Opening, o.Valid ∧ h = o.secure crypto ∧ trace = o.handshakeTrace crypto
  | .idle h channel => ∃ (o : Opening) (rounds : List (Bytes × Bytes)), o.Valid ∧ h = o.secure crypto ∧
      channel = o.channel crypto rounds.length rounds.length ∧ o.Answered crypto aead rounds ∧
        trace = o.roundsTrace crypto aead rounds
  | .sealed h channel challenge wire => ∃ (o : Opening) (rounds : List (Bytes × Bytes)), o.Valid ∧ h = o.secure crypto ∧
      channel = o.channel crypto (rounds.length + 1) rounds.length ∧ o.Answered crypto aead rounds ∧
        challenge.length = 16 ∧ wire = o.pingFrame crypto aead rounds.length challenge ∧
          trace = o.roundsTrace crypto aead rounds
  | .pinging h channel challenge => ∃ (o : Opening) (rounds : List (Bytes × Bytes)), o.Valid ∧ h = o.secure crypto ∧
      channel = o.channel crypto (rounds.length + 1) rounds.length ∧ o.Answered crypto aead rounds ∧
        challenge.length = 16 ∧
          trace = .sent (o.pingFrame crypto aead rounds.length challenge) :: o.roundsTrace crypto aead rounds
  | .closed => ∃ past, trace = .closed :: past

end Traces

variable {crypto : Crypto} {aead : Aead} {trace : List Event} {stage next : Stage}

/-! ## Moves -/

theorem exists_block {n : ℕ} {xs : Bytes} (h : xs.length = n) : ∃ block : Block n, block.bytes = xs :=
  ⟨.ofBytes n xs, Block.ofBytes_eq_self h⟩

/-- `begin` of a session on inputs of the right sizes. -/
theorem exists_opening {bonded : Bool} {sec pk ct ss second : Bytes} {fragments : List Bytes} {mtu : ℕ}
    {sid : Block 16} {h : CentralHandshake} (hstrict : Strict sec) (hpk : pk.length = 1184) (hct : ct.length = 1088)
    (hss : ss.length = 32) (hfragments : writeFragmentedCiphertext ct mtu = some fragments)
    (hbegin : ({} : CentralHandshake).begin crypto ss second pk ct (v1Frame pqV10 pqV1StartCp3 sid.bytes) = some h) :
    ∃ o : Opening, o.Valid ∧ v1Frame pqV10 pqV1StartCp3 sid.bytes = o.start ∧
      h = v10Session (o.handshake crypto) o.inputs.sid.bytes ∧
        .accepted second :: .sent secQuery :: transferTrace bonded sec pk ct ss fragments = o.trace := by
  obtain ⟨pk, rfl⟩ := exists_block hpk
  obtain ⟨ct, rfl⟩ := exists_block hct
  obtain ⟨ss, rfl⟩ := exists_block hss
  -- The key schedule of v1.0 has no P-256 part.
  let inputs : FullInputs :=
    { pk, ct, ss, ssEcdh := .zero 32, sid, centralKey := ⟨.zero 64⟩, peripheralKey := ⟨.zero 64⟩, sec := second }
  obtain ⟨hsecond, hsession⟩ := (@begin_v10_iff crypto inputs h).mp hbegin
  exact ⟨⟨bonded, sec, fragments, inputs⟩, ⟨hstrict, hsecond, mtu, hfragments⟩, rfl, hsession, rfl⟩

namespace Opening

variable {o : Opening} {sent received : ℕ} {app : CentralApplication} {challenge raw : Bytes} {mtu : ℕ}

/-- The application of a handshake, before its first PING. -/
theorem channel_create (hcreate : CentralApplication.create crypto (borrowed (o.secure crypto)) none none = some app) :
    Channel.of app = o.channel crypto 0 0 := by
  have hc := @deriveIvBase_eq crypto pqV10 pqV1AppC2p (.inl rfl) (.inl rfl) (o.secure crypto).appC2p o.inputs.sid
  have hp := @deriveIvBase_eq crypto pqV10 pqV1AppP2c (.inl rfl) (.inr rfl) (o.secure crypto).appP2c o.inputs.sid
  simp only [CentralApplication.create, Option.bind_eq_bind, Option.bind_eq_some_iff, Option.guard_eq_some',
    Option.pure_def, Option.some.injEq] at hcreate
  obtain ⟨_, -, ivC2p, hivC2p, ivP2c, hivP2c, rfl⟩ := hcreate
  have hivC2p : deriveIvBase crypto pqV10 _ _ pqV1AppC2p = some ivC2p := hivC2p
  have hivP2c : deriveIvBase crypto pqV10 _ _ pqV1AppP2c = some ivP2c := hivP2c
  obtain rfl := Option.some.inj (hc.symm.trans hivC2p)
  obtain rfl := Option.some.inj (hp.symm.trans hivP2c)
  rfl

theorem eq_sid {sid : Block 16} (h : (borrowed (o.secure crypto)).sessionId = sid.bytes) : sid = o.inputs.sid :=
  (Block.bytes_injective h).symm

/-- The next PING. -/
theorem encryptPing_channel {wire : Bytes}
    (hencrypt : ((o.channel crypto sent received).over (o.secure crypto)).encryptPing aead challenge mtu =
      (some wire, app)) :
    challenge.length = 16 ∧ wire = o.pingFrame crypto aead sent challenge ∧
      Channel.of app = o.channel crypto (sent + 1) received := by
  rcases CentralApplication.encryptPing_cases hencrypt with ⟨wire', sid, hwire, hpinged⟩ | ⟨hnone, -⟩
  · obtain rfl := Option.some.inj hwire
    obtain rfl := eq_sid hpinged.sid_eq
    refine ⟨hpinged.length_challenge, hpinged.wire_eq, ?_⟩
    rw [hpinged.app_eq]
    rfl
  · cases hnone

/-- The next PONG. -/
theorem acceptPong_channel {plaintext : Bytes}
    (haccept : ((o.channel crypto sent received).over (o.secure crypto)).acceptPong aead raw challenge mtu =
      (some plaintext, app)) :
    o.Answers crypto aead received challenge raw ∧ Channel.of app = o.channel crypto sent (received + 1) := by
  rcases CentralApplication.acceptPong_cases haccept with ⟨sid, sealed, -, hponged⟩ | ⟨hnone, -⟩
  · obtain rfl := eq_sid hponged.sid_eq
    refine ⟨⟨sealed, hponged.opened⟩, ?_⟩
    rw [hponged.app_eq]
    rfl
  · cases hnone

end Opening

/-- **Every move of the protocol extends the recorded traces.** -/
theorem Recorded.move (h : Recorded crypto aead trace stage) {event : Option Event}
    (hmove : Moves crypto aead stage event next) : Recorded crypto aead (event.toList ++ trace) next := by
  cases hmove with
  | @denied denied probe =>
    obtain rfl : trace = (denied.map Event.denied).reverse := h
    show _ = _
    rw [List.map_append, List.reverse_append]
    rfl
  | paired =>
    obtain rfl : trace = (preL4Probes.map Event.denied).reverse := h
    exact ⟨false, rfl⟩
  | bonded =>
    obtain rfl : trace = [] := h
    exact ⟨true, rfl⟩
  | install => exact h
  | query =>
    obtain ⟨bonded, rfl⟩ := h
    exact ⟨bonded, rfl⟩
  | attest hstrict =>
    obtain ⟨bonded, rfl⟩ := h
    exact ⟨bonded, _, hstrict, rfl⟩
  | read hpk =>
    obtain ⟨bonded, sec, hstrict, rfl⟩ := h
    exact ⟨bonded, sec, hstrict, hpk, rfl⟩
  | encapsulate hct hss =>
    obtain ⟨bonded, sec, hstrict, hpk, rfl⟩ := h
    exact ⟨bonded, sec, hstrict, hpk, hct, hss, rfl⟩
  | transfer hfragments =>
    obtain ⟨bonded, sec, hstrict, hpk, hct, hss, rfl⟩ := h
    exact ⟨bonded, sec, _, _, hstrict, hpk, hct, hss, hfragments, rfl⟩
  | requery =>
    obtain ⟨bonded, sec, fragments, mtu, hstrict, hpk, hct, hss, hfragments, rfl⟩ := h
    exact ⟨bonded, sec, fragments, mtu, hstrict, hpk, hct, hss, hfragments, rfl⟩
  | reattest _ =>
    obtain ⟨bonded, sec, fragments, mtu, hstrict, hpk, hct, hss, hfragments, rfl⟩ := h
    exact ⟨bonded, sec, fragments, mtu, hstrict, hpk, hct, hss, hfragments, rfl⟩
  | begin hbegin =>
    obtain ⟨bonded, sec, fragments, mtu, hstrict, hpk, hct, hss, hfragments, rfl⟩ := h
    exact exists_opening hstrict hpk hct hss hfragments hbegin
  | start =>
    obtain ⟨o, hvalid, rfl, hsession, rfl⟩ := h
    exact ⟨o, hvalid, hsession, rfl⟩
  | ready haccept =>
    obtain ⟨o, hvalid, rfl, rfl⟩ := h
    obtain ⟨rfl, rfl, rfl⟩ := acceptReady_v10_iff.mp haccept
    exact ⟨o, hvalid, rfl, rfl, rfl⟩
  | finishC =>
    obtain ⟨o, hvalid, rfl, hsession, rfl⟩ := h
    exact ⟨o, hvalid, hsession, rfl⟩
  | finishP haccept =>
    obtain ⟨o, hvalid, rfl, rfl⟩ := h
    obtain ⟨rfl, rfl⟩ := acceptFinishedP_v10_iff.mp haccept
    exact ⟨o, hvalid, rfl, rfl⟩
  | enter => exact h
  | create hcreate =>
    obtain ⟨o, hvalid, rfl, rfl⟩ := h
    exact ⟨o, [], hvalid, rfl, Opening.channel_create hcreate, trivial, rfl⟩
  | encrypt _ _ hencrypt =>
    obtain ⟨o, rounds, hvalid, rfl, rfl, hanswered, rfl⟩ := h
    obtain ⟨hlength, rfl, hchannel⟩ := Opening.encryptPing_channel hencrypt
    exact ⟨o, rounds, hvalid, rfl, hchannel, hanswered, hlength, rfl, rfl⟩
  | ping =>
    obtain ⟨o, rounds, hvalid, hsession, hchannel, hanswered, hlength, rfl, rfl⟩ := h
    exact ⟨o, rounds, hvalid, hsession, hchannel, hanswered, hlength, rfl⟩
  | @pong _ _ _ challenge raw _ _ haccept =>
    obtain ⟨o, rounds, hvalid, rfl, rfl, hanswered, hlength, rfl⟩ := h
    obtain ⟨hanswers, hchannel⟩ := Opening.acceptPong_channel haccept
    exact ⟨o, (challenge, raw) :: rounds, hvalid, rfl, hchannel, ⟨hlength, hanswers, hanswered⟩, rfl⟩
  | close _ => exact ⟨trace, rfl⟩

/-- **A trace that leads to a stage is recorded there.** -/
theorem Reaches.recorded (h : Reaches crypto aead trace stage) : Recorded crypto aead trace stage := by
  induction h with
  | nil => rfl
  | silent _ hmove ih => exact ih.move hmove
  | step _ hmove ih => exact ih.move hmove

end PqBleHandshake.Python.V1
