import PqBleHandshake.Handshake.Phase7
import PqBleHandshake.SecureChannel

/-!
# The receivers of the secure channel

`SecureChannel` of `session.py` beside `pq_secure_channel.c`.  A receiver takes only frames that a sender of
its session, direction and message type has sealed, under growing sequence numbers, and a rejected string
changes nothing.  The two programs write the same frames and accept the same strings; the Central says `-1`
where the firmware says that nothing has been received.
-/

namespace PqBleHandshake

open Foundation

/-! ## The Central's channel -/

namespace Python

/-- `SecureChannel`; the roles and the message types are byte strings there. -/
@[ext]
structure SecureChannel where
  key : Block 32
  sessionId : Bytes
  role : Bytes
  peerRole : Bytes
  sendSeq : ℕ := 0
  lastRecvSeq : ℤ := -1
  sentCount : ℕ := 0
  recvCount : ℕ := 0
deriving DecidableEq

namespace SecureChannel

/-- `value or default` on optional byte strings. -/
def orDefault (value : Option Bytes) (default : Bytes) : Bytes :=
  match value with
  | none | some [] => default
  | some bytes => bytes

/-- The constructor. -/
def create (sessionKey : Bytes) (sessionId role : Option Bytes) : Option SecureChannel := do
  let key ← requireSize 32 sessionKey
  return {
    key
    sessionId := orDefault sessionId (List.replicate 16 0)
    role := orDefault role [0]
    peerRole := if role = some [pqSecureCentralRole] then [pqSecurePeripheralRole]
      else if role = some [pqSecurePeripheralRole] then [pqSecureCentralRole]
      else [0] }

/-- `_build_aad`; `to_bytes` raises at a sequence number that has no eight bytes. -/
def buildAad (channel : SecureChannel) (seq : ℕ) (role msgType : Bytes) : Option Bytes := do
  guard (seq < 2 ^ 64)
  return channel.sessionId ++ role ++ bigEndian 8 seq ++ msgType

/-- `encrypt`; `iv` is the answer of `os.urandom`. -/
def encrypt (aead : Aead) (channel : SecureChannel) (iv : Block 12) (plaintext msgType : Bytes) :
    Option Bytes × SecureChannel :=
  match channel.buildAad channel.sendSeq channel.role msgType with
  | some aad =>
    (some (bigEndian 8 channel.sendSeq ++ msgType ++ iv.bytes ++
        aead.encrypt channel.key iv aad plaintext),
      { channel with sendSeq := channel.sendSeq + 1, sentCount := channel.sentCount + 1 })
  | none => (none, channel)

/-- The body of `decrypt`: the sequence number and the plaintext. -/
def decryptBody (aead : Aead) (channel : SecureChannel) (wire msgType : Bytes) : Option (ℕ × Bytes) := do
  guard (8 + 1 + 12 + 16 ≤ wire.length)
  let seq := ofBigEndian (wire.take 8)
  let wireMsgType := (wire.drop 8).take 1
  let iv := Block.ofBytes 12 ((wire.drop 9).take 12)
  let sealed := wire.drop 21
  guard (wireMsgType = msgType)
  guard (channel.lastRecvSeq < seq)
  let aad ← channel.buildAad seq channel.peerRole wireMsgType
  let plaintext ← aead.decrypt channel.key iv aad sealed
  return (seq, plaintext)

/-- `decrypt`; a raised exception is `none`. -/
def decrypt (aead : Aead) (channel : SecureChannel) (wire msgType : Bytes) :
    Option Bytes × SecureChannel :=
  match channel.decryptBody aead wire msgType with
  | some (seq, plaintext) =>
    (some plaintext, { channel with lastRecvSeq := seq, recvCount := channel.recvCount + 1 })
  | none => (none, channel)

end SecureChannel

end Python

/-! ## The firmware's receive state -/

/-- A call of `pq_secure_decrypt_with_key` by a caller that carries `has_last_recv_seq` and
`last_recv_seq` from call to call. -/
def pqSecureReceive (aead : Aead) (key : Block 32) (sid : Block 16) (role msgType : UInt8) (fault : Bool)
    (capacity : ℕ) (last : Option UInt64) (wire : Bytes) : Option Bytes × Option UInt64 :=
  match pqSecureDecryptWithKey aead fault key sid role msgType last wire capacity with
  | .ok (seq, plaintext) => (some plaintext, some seq)
  | .error _ => (none, last)

/-- The receive state as the Central writes it. -/
def lastReceived : Option UInt64 → ℤ
  | none => -1
  | some seq => seq.toNat

/-! ## Frames -/

/-- The frame of a sealed message. -/
def secureFrame (seq : UInt64) (msgType : UInt8) (iv : Block 12) (sealed : Bytes) : Bytes :=
  bigEndian 8 seq.toNat ++ [msgType] ++ iv.bytes ++ sealed

/-- The sequence number that a frame claims. -/
def sequenceOf (wire : Bytes) : UInt64 := UInt64.ofNat (ofBigEndian (wire.take 8))

section Frames

variable {seq seq' : UInt64} {msgType msgType' : UInt8} {iv : Block 12} {sealed wire : Bytes}

theorem take_secureFrame : (secureFrame seq msgType iv sealed).take 8 = bigEndian 8 seq.toNat := by
  rw [secureFrame, List.append_assoc, List.append_assoc, List.take_left' (length_bigEndian 8 _)]

theorem drop_secureFrame :
    (secureFrame seq msgType iv sealed).drop 8 = msgType :: (iv.bytes ++ sealed) := by
  rw [secureFrame, List.append_assoc, List.append_assoc, List.drop_left' (length_bigEndian 8 _)]
  rfl

theorem getD_secureFrame : (secureFrame seq msgType iv sealed).getD 8 0 = msgType := by
  rw [secureFrame, List.append_assoc, List.append_assoc, List.getD_eq_getElem?_getD,
    List.getElem?_append_right (by rw [length_bigEndian]), length_bigEndian]
  rfl

theorem drop_type_secureFrame : (secureFrame seq msgType iv sealed).drop 9 = iv.bytes ++ sealed := by
  rw [show 9 = 8 + 1 from rfl, ← List.drop_drop, drop_secureFrame]
  rfl

theorem drop_header_secureFrame : (secureFrame seq msgType iv sealed).drop 21 = sealed := by
  rw [show 21 = 9 + 12 from rfl, ← List.drop_drop, drop_type_secureFrame, List.drop_left' iv.length_bytes]

@[simp]
theorem sequenceOf_secureFrame : sequenceOf (secureFrame seq msgType iv sealed) = seq := by
  rw [sequenceOf, take_secureFrame, ofBigEndian_bigEndian seq.toNat_lt, UInt64.ofNat_toNat]

theorem length_secureFrame : (secureFrame seq msgType iv sealed).length = 21 + sealed.length := by
  simp only [secureFrame, List.length_append, length_bigEndian, List.length_singleton, iv.length_bytes]

theorem toNat_sequenceOf (h : 8 ≤ wire.length) : (sequenceOf wire).toNat = ofBigEndian (wire.take 8) := by
  have hhead : (wire.take 8).length = 8 := by
    rw [List.length_take]
    omega
  have hlt := ofBigEndian_lt (wire.take 8)
  rw [hhead] at hlt
  rw [sequenceOf, UInt64.toNat_ofNat', Nat.mod_eq_of_lt (lt_of_lt_of_eq hlt (by norm_num))]

/-- Every string of at least a header is a frame. -/
theorem eq_secureFrame (h : 21 ≤ wire.length) :
    wire = secureFrame (sequenceOf wire) (wire.getD 8 0) (.ofBytes 12 (wire.drop 9)) (wire.drop 21) := by
  have hhead : (wire.take 8).length = 8 := by
    rw [List.length_take]
    omega
  have hseq := bigEndian_ofBigEndian (wire.take 8)
  rw [hhead, ← toNat_sequenceOf (by omega)] at hseq
  have hiv : (Block.ofBytes 12 (wire.drop 9)).bytes ++ (wire.drop 9).drop 12 = wire.drop 9 :=
    Block.ofBytes_append_drop (by rw [List.length_drop]; omega)
  have hdrop : wire.drop 8 = wire.getD 8 0 :: wire.drop 9 := by
    rw [List.drop_eq_getElem_cons (by omega), List.getD_eq_getElem?_getD, List.getElem?_eq_getElem (by omega)]
    rfl
  rw [secureFrame, hseq, List.append_assoc, List.append_assoc, show 21 = 9 + 12 from rfl, ← List.drop_drop,
    hiv, List.singleton_append, ← hdrop, List.take_append_drop]

/-- **The associated data binds the session, the sender, the sequence number and the type.** -/
theorem buildAad_inj {sid sid' : Block 16} {role role' : UInt8} :
    buildAad sid role seq msgType = buildAad sid' role' seq' msgType' ↔
      sid = sid' ∧ role = role' ∧ seq = seq' ∧ msgType = msgType' := by
  constructor
  · intro h
    simp only [buildAad, List.append_assoc] at h
    obtain ⟨hsid, hrest⟩ := block_append_inj.mp h
    simp only [List.singleton_append, List.cons.injEq] at hrest
    obtain ⟨hrole, hrest⟩ := hrest
    obtain ⟨hseq, htype⟩ := List.append_inj hrest (by simp)
    exact ⟨hsid, hrole, UInt64.toNat_inj.mp (bigEndian_injective seq.toNat_lt seq'.toNat_lt hseq),
      by simpa using htype⟩
  · rintro ⟨rfl, rfl, rfl, rfl⟩
    rfl

end Frames

/-! ## What the receivers accept -/

/-- A string that opens under the associated data of a session, a sender's role and a message type. -/
structure SecureOpened (aead : Aead) (key : Block 32) (sid : Block 16) (role msgType : UInt8) (wire : Bytes)
    (seq : UInt64) (iv : Block 12) (sealed plaintext : Bytes) : Prop where
  wire_eq : wire = secureFrame seq msgType iv sealed
  unsealed : aead.decrypt key iv (buildAad sid role seq msgType) sealed = some plaintext

section Receivers

variable {aead : Aead} {key : Block 32} {sid : Block 16} {role msgType : UInt8} {wire plaintext : Bytes}

theorem SecureOpened.length_wire {seq : UInt64} {iv : Block 12} {sealed : Bytes}
    (h : SecureOpened aead key sid role msgType wire seq iv sealed plaintext) :
    wire.length = plaintext.length + pqSecureFixedOverhead := by
  rw [h.wire_eq, length_secureFrame, aead.length_decrypt _ _ _ _ _ h.unsealed, pqSecureFixedOverhead]
  omega

/-- **Success of `pq_secure_decrypt_with_key`.** -/
theorem pqSecureDecryptWithKey_eq_ok_iff {fault : Bool} {last : Option UInt64} {seq : UInt64}
    {capacity : ℕ} :
    pqSecureDecryptWithKey aead fault key sid role msgType last wire capacity = .ok (seq, plaintext) ↔
      ValidRole role ∧ fault = false ∧ plaintext.length ≤ capacity ∧ (∀ previous ∈ last, previous < seq) ∧
        ∃ iv sealed, SecureOpened aead key sid role msgType wire seq iv sealed plaintext := by
  simp only [pqSecureDecryptWithKey, except_bind_eq_ok_iff, require_eq_ok_iff, orFail_eq_ok_iff,
    exists_and_left, exists_const]
  constructor
  · rintro ⟨hrole, hlong, rfl, hnewer, -, hroom, hfault, opened, hopened, hresult⟩
    cases hresult
    have hlength := aead.length_decrypt _ _ _ _ _ hopened
    refine ⟨hrole, hfault, by omega, hnewer, _, _, eq_secureFrame ?_, hopened⟩
    rw [pqSecureFixedOverhead] at hlong
    omega
  · rintro ⟨hrole, hfault, hroom, hnewer, iv, sealed, hopened⟩
    have hlong := hopened.length_wire
    obtain ⟨rfl, hunsealed⟩ := hopened
    have hlength := aead.length_decrypt _ _ _ _ _ hunsealed
    have hseq : UInt64.ofNat (ofBigEndian ((secureFrame seq msgType iv sealed).take 8)) = seq :=
      sequenceOf_secureFrame
    rw [hseq, getD_secureFrame, show pqSecureHeaderSize = 21 from rfl, drop_header_secureFrame,
      drop_type_secureFrame, Block.ofBytes_append]
    exact ⟨hrole, by omega, rfl, hnewer, by omega, by omega, hfault, plaintext, hunsealed, rfl⟩

namespace Python.SecureChannel

/-- A channel that receives for a session from the sender of a role. -/
structure ReceivesFor (channel : SecureChannel) (key : Block 32) (sid : Block 16) (role : UInt8) : Prop where
  key_eq : channel.key = key
  sessionId_eq : channel.sessionId = sid.bytes
  peerRole_eq : channel.peerRole = [role]

theorem buildAad_eq {channel : SecureChannel} (hsid : channel.sessionId = sid.bytes) (seq : UInt64) :
    channel.buildAad seq.toNat [role] [msgType] = some (PqBleHandshake.buildAad sid role seq msgType) := by
  rw [buildAad, Option.bind_eq_bind, guard_bind_of seq.toNat_lt, hsid]
  rfl

/-- **Success of `decrypt`.** -/
theorem decryptBody_eq_some_iff {channel : SecureChannel} (h : channel.ReceivesFor key sid role)
    {number : ℕ} :
    channel.decryptBody aead wire [msgType] = some (number, plaintext) ↔
      channel.lastRecvSeq < number ∧ ∃ (seq : UInt64) (iv : Block 12) (sealed : Bytes),
        number = seq.toNat ∧ SecureOpened aead key sid role msgType wire seq iv sealed plaintext := by
  obtain ⟨rfl, hsid, hpeer⟩ := h
  simp only [decryptBody, Option.bind_eq_bind, Option.bind_eq_some_iff, Option.guard_eq_some',
    exists_and_left, exists_const, Option.pure_def, Option.some.injEq, Prod.mk.injEq, hpeer]
  constructor
  · rintro ⟨hlong, htype, hnewer, aad, haad, opened, hopened, rfl, rfl⟩
    obtain ⟨seq, wireType, iv, sealed, rfl⟩ : ∃ seq wireType iv sealed,
        wire = secureFrame seq wireType iv sealed := ⟨_, _, _, _, eq_secureFrame (by omega)⟩
    rw [drop_secureFrame, List.take_succ_cons, List.take_zero, List.singleton_inj] at htype
    subst htype
    rw [take_secureFrame, ofBigEndian_bigEndian seq.toNat_lt] at hnewer haad ⊢
    rw [drop_secureFrame, List.take_succ_cons, List.take_zero, buildAad_eq hsid] at haad
    rw [drop_type_secureFrame, drop_header_secureFrame, List.take_left' iv.length_bytes,
      Block.ofBytes_self, ← Option.some.inj haad] at hopened
    exact ⟨hnewer, seq, rfl, iv, sealed, rfl, hopened⟩
  · rintro ⟨hnewer, seq, rfl, iv, sealed, hopened⟩
    have hlong := hopened.length_wire
    rw [pqSecureFixedOverhead] at hlong
    obtain ⟨rfl, hunsealed⟩ := hopened
    rw [take_secureFrame, ofBigEndian_bigEndian seq.toNat_lt, drop_secureFrame, List.take_succ_cons,
      List.take_zero, drop_type_secureFrame, drop_header_secureFrame, List.take_left' iv.length_bytes,
      Block.ofBytes_self]
    exact ⟨by omega, rfl, hnewer, _, buildAad_eq hsid seq, plaintext, hunsealed, rfl, rfl⟩

end Python.SecureChannel

end Receivers

/-! ## Traffic -/

/-- What a sender seals in one call. -/
structure SecureCall where
  key : Block 32
  sid : Block 16
  role : UInt8
  seq : UInt64
  msgType : UInt8
  iv : Block 12
  plaintext : Bytes
deriving DecidableEq

/-- The associated data of a call. -/
def SecureCall.aad (call : SecureCall) : Bytes := buildAad call.sid call.role call.seq call.msgType

/-- What the AEAD makes of a call. -/
def SecureCall.sealed (aead : Aead) (call : SecureCall) : Bytes :=
  aead.encrypt call.key call.iv call.aad call.plaintext

/-- The frame that a call produces. -/
def SecureCall.frame (aead : Aead) (call : SecureCall) : Bytes :=
  secureFrame call.seq call.msgType call.iv (call.sealed aead)

/-- Some sender seals a message, or a string reaches the receiver.  The firmware's call may have an AEAD
failure and has a capacity. -/
inductive ChannelEvent
  | sent (call : SecureCall)
  | received (fault : Bool) (capacity : ℕ) (wire : Bytes)

/-- A receiver with the calls of all senders so far and the frames it has accepted, oldest first. -/
structure Traffic (σ : Type) where
  receiver : σ
  calls : List SecureCall := []
  accepted : List (Bytes × Bytes) := []

section Discipline

variable {σ : Type} (receive : Bool → ℕ → σ → Bytes → Option Bytes × σ)

/-- The senders and one receiver. -/
def traffic : Machine (Traffic σ) ChannelEvent (Option Bytes) where
  step state event :=
    match event with
    | .sent call => (none, { state with calls := state.calls ++ [call] })
    | .received fault capacity wire =>
      let (result, receiver) := receive fault capacity state.receiver wire
      (result, { state with
        receiver
        accepted := state.accepted ++ (result.map fun plaintext ↦ (wire, plaintext)).toList })

/-- **Ideal AEAD** at an event: what opens under the receiver's key was sealed under it before, with the same
nonce and associated data. -/
def Unforged (aead : Aead) (key : Block 32) (sid : Block 16) (role : UInt8) (state : Traffic σ) :
    ChannelEvent → Prop
  | .sent _ => True
  | .received _ _ wire => ∀ plaintext,
      aead.decrypt key (.ofBytes 12 (wire.drop 9)) (buildAad sid role (sequenceOf wire) (wire.getD 8 0))
          (wire.drop 21) = some plaintext →
        ∃ call ∈ state.calls, call.key = key ∧ call.iv = .ofBytes 12 (wire.drop 9) ∧
          call.aad = buildAad sid role (sequenceOf wire) (wire.getD 8 0) ∧
          call.sealed aead = wire.drop 21

/-- A call of the matching sender. -/
structure SecureCall.Matches (call : SecureCall) (key : Block 32) (sid : Block 16)
    (role msgType : UInt8) : Prop where
  key_eq : call.key = key
  sid_eq : call.sid = sid
  role_eq : call.role = role
  msgType_eq : call.msgType = msgType

/-- The accepted frames are frames of the matching sender, under strictly increasing sequence numbers that
end at the receive state. -/
structure Disciplined (aead : Aead) (key : Block 32) (sid : Block 16) (role msgType : UInt8)
    (last : σ → ℤ) (state : Traffic σ) : Prop where
  genuine : ∀ entry ∈ state.accepted, ∃ call ∈ state.calls, call.Matches key sid role msgType ∧
    entry = (call.frame aead, call.plaintext)
  increasing : state.accepted.Pairwise fun entry later ↦ sequenceOf entry.1 < sequenceOf later.1
  bounded : ∀ entry ∈ state.accepted, ((sequenceOf entry.1).toNat : ℤ) ≤ last state.receiver

/-- What the discipline needs of a receiver. -/
structure Receives (aead : Aead) (key : Block 32) (sid : Block 16) (role msgType : UInt8) (last : σ → ℤ)
    (Good : σ → Prop) : Prop where
  accepts : ∀ {fault capacity state wire plaintext state'}, Good state →
    receive fault capacity state wire = (some plaintext, state') →
      Good state' ∧ ∃ seq iv sealed, SecureOpened aead key sid role msgType wire seq iv sealed plaintext ∧
        last state < (seq.toNat : ℤ) ∧ last state' = (seq.toNat : ℤ)
  rejects : ∀ {fault capacity state wire state'},
    receive fault capacity state wire = (none, state') → state' = state

variable {receive} {aead : Aead} {key : Block 32} {sid : Block 16} {role msgType : UInt8} {last : σ → ℤ}
  {Good : σ → Prop}

/-- An opened string is a frame of the matching sender. -/
theorem SecureOpened.exists_call {state : Traffic σ} {fault : Bool} {capacity : ℕ} {wire plaintext : Bytes}
    {seq : UInt64} {iv : Block 12} {sealed : Bytes}
    (h : SecureOpened aead key sid role msgType wire seq iv sealed plaintext)
    (hideal : Unforged aead key sid role state (.received fault capacity wire)) :
    ∃ call ∈ state.calls, call.Matches key sid role msgType ∧
      (wire, plaintext) = (call.frame aead, call.plaintext) := by
  obtain ⟨rfl, hunsealed⟩ := h
  simp only [Unforged, sequenceOf_secureFrame, getD_secureFrame, drop_type_secureFrame,
    drop_header_secureFrame, Block.ofBytes_append] at hideal
  obtain ⟨call, hmem, hkey, hiv, haad, hsealed⟩ := hideal plaintext hunsealed
  obtain ⟨hsid, hrole, hseq, htype⟩ := buildAad_inj.mp haad
  -- The AEAD opens what it sealed, so the plaintexts are the same.
  have hplaintext : some plaintext = some call.plaintext := by
    rw [← hunsealed, ← hsealed, SecureCall.sealed, haad, hkey, hiv, aead.decrypt_encrypt]
  refine ⟨call, hmem, ⟨hkey, hsid, hrole, htype⟩, ?_⟩
  rw [SecureCall.frame, hseq, htype, hiv, hsealed, Option.some.inj hplaintext]

/-- What one event preserves. -/
theorem Disciplined.step (hreceives : Receives receive aead key sid role msgType last Good)
    {state : Traffic σ} {event : ChannelEvent}
    (h : Good state.receiver ∧ Disciplined aead key sid role msgType last state)
    (hideal : Unforged aead key sid role state event) :
    Good ((traffic receive).step state event).2.receiver ∧
      Disciplined aead key sid role msgType last ((traffic receive).step state event).2 := by
  obtain ⟨hgood, hgenuine, hincreasing, hbounded⟩ := h
  cases event with
  | sent call =>
    refine ⟨hgood, fun entry hentry ↦ ?_, hincreasing, hbounded⟩
    obtain ⟨call', hmem, hmatches⟩ := hgenuine entry hentry
    exact ⟨call', List.mem_append_left _ hmem, hmatches⟩
  | received fault capacity wire =>
    cases hresult : receive fault capacity state.receiver wire with
    | mk result receiver =>
      simp only [traffic, hresult]
      cases result with
      | none =>
        obtain rfl := hreceives.rejects hresult
        rw [Option.map_none, Option.toList_none, List.append_nil]
        exact ⟨hgood, hgenuine, hincreasing, hbounded⟩
      | some plaintext =>
        obtain ⟨hgood', seq, iv, sealed, hopened, hnewer, hlast⟩ := hreceives.accepts hgood hresult
        have hcall := hopened.exists_call hideal
        have hseq : sequenceOf wire = seq := by
          rw [hopened.wire_eq, sequenceOf_secureFrame]
        rw [Option.map_some, Option.toList_some]
        refine ⟨hgood', fun entry hentry ↦ ?_, ?_, fun entry hentry ↦ ?_⟩
        · rcases List.mem_append.mp hentry with hentry | hentry
          · exact hgenuine entry hentry
          · rw [List.mem_singleton.mp hentry]
            exact hcall
        · refine List.pairwise_append.mpr ⟨hincreasing, List.pairwise_singleton _ _, ?_⟩
          intro entry hentry later hlater
          obtain rfl := List.mem_singleton.mp hlater
          have hle := hbounded entry hentry
          rw [hseq, UInt64.lt_iff_toNat_lt]
          omega
        · dsimp only
          rcases List.mem_append.mp hentry with hentry | hentry
          · have hle := hbounded entry hentry
            omega
          · rw [List.mem_singleton.mp hentry, hseq, hlast]

/-- **The discipline of a receiver** along every run under an ideal AEAD. -/
theorem disciplined_of_run (hreceives : Receives receive aead key sid role msgType last Good)
    {receiver : σ} (hgood : Good receiver) {events : List ChannelEvent}
    (hideal : (traffic receive).Along (Unforged aead key sid role) { receiver } events) :
    Disciplined aead key sid role msgType last ((traffic receive).run { receiver } events) := by
  have hinit : Disciplined aead key sid role msgType last ({ receiver } : Traffic σ) :=
    ⟨fun _ hentry ↦ absurd hentry List.not_mem_nil, List.Pairwise.nil,
      fun _ hentry ↦ absurd hentry List.not_mem_nil⟩
  have hrun := (traffic receive).run_invariant_of_along
    (P := fun state ↦ Good state.receiver ∧ Disciplined aead key sid role msgType last state)
    (fun _ _ h ↦ Disciplined.step hreceives h) ⟨hgood, hinit⟩ hideal
  exact hrun.2

end Discipline

/-! ## Both receivers -/

/-- The other end of a direction. -/
def peerOf (role : UInt8) : UInt8 :=
  if role = pqSecureCentralRole then pqSecurePeripheralRole else pqSecureCentralRole

section Both

variable {aead : Aead} {key : Block 32} {sid : Block 16} {role msgType : UInt8}

/-- The Central's receiver, as the traffic uses it. -/
def centralReceive (aead : Aead) (msgType : UInt8) (_fault : Bool) (_capacity : ℕ)
    (channel : Python.SecureChannel) (wire : Bytes) : Option Bytes × Python.SecureChannel :=
  channel.decrypt aead wire [msgType]

theorem Python.SecureChannel.decrypt_eq_none {channel channel' : Python.SecureChannel} {wire : Bytes}
    (h : channel.decrypt aead wire [msgType] = (none, channel')) : channel' = channel := by
  unfold decrypt at h
  cases hbody : channel.decryptBody aead wire [msgType] with
  | none =>
    rw [hbody] at h
    exact (Prod.mk.inj h).2.symm
  | some result =>
    rw [hbody] at h
    exact nomatch (Prod.mk.inj h).1

theorem pqSecureReceive_eq_none {fault : Bool} {capacity : ℕ} {last last' : Option UInt64} {wire : Bytes}
    (h : pqSecureReceive aead key sid role msgType fault capacity last wire = (none, last')) :
    last' = last := by
  unfold pqSecureReceive at h
  cases hresult : pqSecureDecryptWithKey aead fault key sid role msgType last wire capacity with
  | error error =>
    rw [hresult] at h
    exact (Prod.mk.inj h).2.symm
  | ok result =>
    rw [hresult] at h
    exact nomatch (Prod.mk.inj h).1

theorem lastReceived_lt_iff {last : Option UInt64} {seq : UInt64} :
    lastReceived last < (seq.toNat : ℤ) ↔ ∀ previous ∈ last, previous < seq := by
  cases last with
  | none =>
    simp only [lastReceived, Option.not_mem_none, false_implies, implies_true, iff_true]
    omega
  | some previous =>
    simp only [lastReceived, Option.mem_some_iff, forall_eq', UInt64.lt_iff_toNat_lt, Nat.cast_lt]

/-- The Central receives in order. -/
theorem receives_central (aead : Aead) (key : Block 32) (sid : Block 16) (role msgType : UInt8) :
    Receives (centralReceive aead msgType) aead key sid role msgType (·.lastRecvSeq)
      (fun channel ↦ channel.ReceivesFor key sid role) where
  accepts {_ _ channel wire plaintext channel'} hgood h := by
    unfold centralReceive Python.SecureChannel.decrypt at h
    cases hbody : channel.decryptBody aead wire [msgType] with
    | none =>
      rw [hbody] at h
      exact nomatch (Prod.mk.inj h).1
    | some result =>
      obtain ⟨number, opened⟩ := result
      rw [hbody] at h
      obtain ⟨hplaintext, rfl⟩ := Prod.mk.inj h
      obtain rfl := Option.some.inj hplaintext
      obtain ⟨hnewer, seq, iv, sealed, rfl, hopened⟩ :=
        (Python.SecureChannel.decryptBody_eq_some_iff hgood).mp hbody
      exact ⟨⟨hgood.key_eq, hgood.sessionId_eq, hgood.peerRole_eq⟩, seq, iv, sealed, hopened, hnewer, rfl⟩
  rejects h := Python.SecureChannel.decrypt_eq_none h

/-- The firmware receives in order. -/
theorem receives_firmware (aead : Aead) (key : Block 32) (sid : Block 16) (role msgType : UInt8) :
    Receives (pqSecureReceive aead key sid role msgType) aead key sid role msgType lastReceived
      (fun _ ↦ True) where
  accepts {fault capacity last wire plaintext last'} _ h := by
    unfold pqSecureReceive at h
    cases hresult : pqSecureDecryptWithKey aead fault key sid role msgType last wire capacity with
    | error error =>
      rw [hresult] at h
      exact nomatch (Prod.mk.inj h).1
    | ok result =>
      obtain ⟨seq, opened⟩ := result
      rw [hresult] at h
      obtain ⟨hplaintext, rfl⟩ := Prod.mk.inj h
      obtain rfl := Option.some.inj hplaintext
      obtain ⟨-, -, -, hnewer, iv, sealed, hopened⟩ := pqSecureDecryptWithKey_eq_ok_iff.mp hresult
      exact ⟨trivial, seq, iv, sealed, hopened, lastReceived_lt_iff.mpr hnewer, rfl⟩
  rejects h := pqSecureReceive_eq_none h

/-- **Both receivers treat every string alike**, with room for the plaintext. -/
theorem receive_agree (hrole : ValidRole role) {channel : Python.SecureChannel} {last : Option UInt64}
    (hchannel : channel.ReceivesFor key sid role) (hlast : channel.lastRecvSeq = lastReceived last)
    {wire : Bytes} {capacity : ℕ} (hroom : wire.length ≤ capacity + pqSecureFixedOverhead) :
    (channel.decrypt aead wire [msgType]).1 =
        (pqSecureReceive aead key sid role msgType false capacity last wire).1 ∧
      (channel.decrypt aead wire [msgType]).2.lastRecvSeq =
        lastReceived (pqSecureReceive aead key sid role msgType false capacity last wire).2 := by
  unfold Python.SecureChannel.decrypt pqSecureReceive
  cases hfirmware : pqSecureDecryptWithKey aead false key sid role msgType last wire capacity with
  | ok result =>
    obtain ⟨seq, plaintext⟩ := result
    obtain ⟨-, -, -, hnewer, iv, sealed, hopened⟩ := pqSecureDecryptWithKey_eq_ok_iff.mp hfirmware
    have hbody := (Python.SecureChannel.decryptBody_eq_some_iff hchannel).mpr
      ⟨by rw [hlast]; exact lastReceived_lt_iff.mpr hnewer, seq, iv, sealed, rfl, hopened⟩
    rw [hbody]
    exact ⟨rfl, rfl⟩
  | error error =>
    cases hbody : channel.decryptBody aead wire [msgType] with
    | none => exact ⟨rfl, hlast⟩
    | some result =>
      -- What the Central takes, the firmware would have taken.
      obtain ⟨number, plaintext⟩ := result
      obtain ⟨hnewer, seq, iv, sealed, rfl, hopened⟩ :=
        (Python.SecureChannel.decryptBody_eq_some_iff hchannel).mp hbody
      have hlength := hopened.length_wire
      rw [hlast] at hnewer
      have hok := pqSecureDecryptWithKey_eq_ok_iff.mpr
        ⟨hrole, (rfl : false = false), (by omega : plaintext.length ≤ capacity),
          lastReceived_lt_iff.mp hnewer, iv, sealed, hopened⟩
      exact nomatch hfirmware.symm.trans hok

theorem peerOf_peerOf (hrole : ValidRole role) : peerOf (peerOf role) = role := by
  rcases hrole with rfl | rfl <;> rfl

theorem validRole_peerOf (role : UInt8) : ValidRole (peerOf role) := by
  unfold peerOf
  split_ifs
  · exact .inr rfl
  · exact .inl rfl

/-- A new channel of one end. -/
theorem Python.SecureChannel.create_eq (key : Block 32) (sid : Block 16) (hrole : ValidRole role) :
    create key.bytes (some sid.bytes) (some [role]) =
      some { key, sessionId := sid.bytes, role := [role], peerRole := [peerOf role] } := by
  have hkey : requireSize 32 key.bytes = some key := dif_pos key.length_bytes
  have hsid : orDefault (some sid.bytes) (List.replicate 16 0) = sid.bytes := by
    obtain ⟨bytes, hlength⟩ := sid
    cases bytes with
    | nil => exact absurd hlength (by decide)
    | cons byte rest => rfl
  rw [create, hkey, hsid]
  rcases hrole with rfl | rfl <;> rfl

theorem pqSecureEncryptWithKey_eq (hrole : ValidRole role) {seq : UInt64} {iv : Block 12}
    {plaintext : Bytes} {capacity : ℕ} (hroom : plaintext.length + pqSecureFixedOverhead ≤ capacity) :
    pqSecureEncryptWithKey aead false (some iv) key sid role seq msgType plaintext capacity =
      .ok (secureFrame seq msgType iv (aead.encrypt key iv (buildAad sid role seq msgType) plaintext)) := by
  rw [pqSecureEncryptWithKey, require_bind_of hrole, require_bind_of (by omega), require_bind_of (by omega),
    orFail_some_bind, require_bind_of rfl]
  rfl

theorem Python.SecureChannel.encrypt_eq {channel : Python.SecureChannel} {seq : UInt64} {iv : Block 12}
    {plaintext : Bytes} (hsid : channel.sessionId = sid.bytes) (hrole : channel.role = [role])
    (hseq : channel.sendSeq = seq.toNat) :
    (channel.encrypt aead iv plaintext [msgType]).1 = some (secureFrame seq msgType iv
      (aead.encrypt channel.key iv (PqBleHandshake.buildAad sid role seq msgType) plaintext)) := by
  rw [encrypt, hseq, hrole, buildAad_eq hsid]
  rfl

/-- A newer frame that opens is taken. -/
theorem Python.SecureChannel.decrypt_eq_some {channel : Python.SecureChannel}
    (hchannel : channel.ReceivesFor key sid role) {wire plaintext sealed : Bytes} {seq : UInt64}
    {iv : Block 12} (hnewer : channel.lastRecvSeq < (seq.toNat : ℤ))
    (hopened : SecureOpened aead key sid role msgType wire seq iv sealed plaintext) :
    (channel.decrypt aead wire [msgType]).1 = some plaintext := by
  rw [decrypt, (decryptBody_eq_some_iff hchannel).mpr ⟨hnewer, seq, iv, sealed, rfl, hopened⟩]

/-- **The secure channel of v0.7.**  Under an ideal AEAD either receiver accepts, along every run, only frames
that the matching sender sealed, with strictly increasing sequence numbers; a rejected string changes nothing.
The two programs produce the same associated data and frames, open each other's frames, and treat every
received string alike. -/
theorem secure_channel (aead : Aead) (key : Block 32) (sid : Block 16) {role : UInt8}
    (hrole : ValidRole role) :
    ∃ sender receiver,
      Python.SecureChannel.create key.bytes (some sid.bytes) (some [role]) = some sender ∧
      Python.SecureChannel.create key.bytes (some sid.bytes) (some [peerOf role]) = some receiver ∧
      ∀ msgType : UInt8,
        (∀ events, (traffic (centralReceive aead msgType)).Along (Unforged aead key sid role)
            { receiver } events →
          Disciplined aead key sid role msgType (·.lastRecvSeq)
            ((traffic (centralReceive aead msgType)).run { receiver } events)) ∧
        (∀ events, (traffic (pqSecureReceive aead key sid role msgType)).Along (Unforged aead key sid role)
            { receiver := none } events →
          Disciplined aead key sid role msgType lastReceived
            ((traffic (pqSecureReceive aead key sid role msgType)).run { receiver := none } events)) ∧
        (∀ (channel channel' : Python.SecureChannel) (wire : Bytes),
          channel.decrypt aead wire [msgType] = (none, channel') → channel' = channel) ∧
        (∀ (fault : Bool) (capacity : ℕ) (last last' : Option UInt64) (wire : Bytes),
          pqSecureReceive aead key sid role msgType fault capacity last wire = (none, last') → last' = last) ∧
        (∀ (seq : UInt64) (iv : Block 12) (plaintext : Bytes),
          sender.buildAad seq.toNat sender.role [msgType] = some (buildAad sid role seq msgType) ∧
          ∀ capacity, plaintext.length + pqSecureFixedOverhead ≤ capacity → ∃ wire,
            pqSecureEncryptWithKey aead false (some iv) key sid role seq msgType plaintext capacity =
              .ok wire ∧
            ({ sender with sendSeq := seq.toNat }.encrypt aead iv plaintext [msgType]).1 = some wire ∧
            ∀ last : Option UInt64, (∀ previous ∈ last, previous < seq) →
              ({ receiver with lastRecvSeq := lastReceived last }.decrypt aead wire [msgType]).1 =
                some plaintext ∧
              ∀ room, plaintext.length ≤ room →
                pqSecureDecryptWithKey aead false key sid role msgType last wire room =
                  .ok (seq, plaintext)) ∧
        ∀ (channel : Python.SecureChannel) (last : Option UInt64) (wire : Bytes) (capacity : ℕ),
          channel.ReceivesFor key sid role → channel.lastRecvSeq = lastReceived last →
          wire.length ≤ capacity + pqSecureFixedOverhead →
            (channel.decrypt aead wire [msgType]).1 =
                (pqSecureReceive aead key sid role msgType false capacity last wire).1 ∧
              (channel.decrypt aead wire [msgType]).2.lastRecvSeq =
                lastReceived (pqSecureReceive aead key sid role msgType false capacity last wire).2 := by
  refine ⟨_, _, Python.SecureChannel.create_eq key sid hrole,
    Python.SecureChannel.create_eq key sid (validRole_peerOf role), fun msgType ↦
    ⟨fun events hideal ↦ ?central, fun events hideal ↦ ?firmware,
      fun _ _ _ h ↦ Python.SecureChannel.decrypt_eq_none h, fun _ _ _ _ _ h ↦ pqSecureReceive_eq_none h,
      fun seq iv plaintext ↦ ⟨Python.SecureChannel.buildAad_eq rfl seq, fun capacity hroom ↦ ?frames⟩,
      fun _ _ _ _ hchannel hlast hroom ↦ receive_agree hrole hchannel hlast hroom⟩⟩
  case central =>
    exact disciplined_of_run (receives_central aead key sid role msgType)
      ⟨rfl, rfl, congrArg ([·]) (peerOf_peerOf hrole)⟩ hideal
  case firmware =>
    exact disciplined_of_run (receives_firmware aead key sid role msgType) trivial hideal
  case frames =>
    refine ⟨_, pqSecureEncryptWithKey_eq hrole hroom, Python.SecureChannel.encrypt_eq rfl rfl rfl,
      fun last hnewer ↦ ?_⟩
    have hopened : SecureOpened aead key sid role msgType (secureFrame seq msgType iv
        (aead.encrypt key iv (buildAad sid role seq msgType) plaintext)) seq iv
        (aead.encrypt key iv (buildAad sid role seq msgType) plaintext) plaintext :=
      ⟨rfl, aead.decrypt_encrypt key iv _ plaintext⟩
    refine ⟨?_, fun room hroom ↦ pqSecureDecryptWithKey_eq_ok_iff.mpr
      ⟨hrole, rfl, hroom, hnewer, _, _, hopened⟩⟩
    exact Python.SecureChannel.decrypt_eq_some ⟨rfl, rfl, congrArg ([·]) (peerOf_peerOf hrole)⟩
      (lastReceived_lt_iff.mpr hnewer) hopened

/-- A message of the Central. -/
def pingCall : SecureCall := ⟨.zero 32, .zero 16, pqSecureCentralRole, 7, pqSecureMsgTypeData, .zero 12, ascii "PING"⟩

/-- It arrives twice, and once with its last byte changed. -/
def pingEvents : List ChannelEvent :=
  let wire := pingCall.frame polynomialAead
  [.sent pingCall, .received false 4 (wire.set 40 0xFF), .received false 4 wire, .received false 4 wire]

/-- The firmware accepts that message once, under the computable AEAD. -/
theorem secure_channel_central :
    let state := (traffic (pqSecureReceive polynomialAead (.zero 32) (.zero 16) pqSecureCentralRole
      pqSecureMsgTypeData)).run { receiver := none } pingEvents
    state.accepted = [(pingCall.frame polynomialAead, ascii "PING")] ∧
      Disciplined polynomialAead (.zero 32) (.zero 16) pqSecureCentralRole pqSecureMsgTypeData lastReceived state ∧
      pqSecureEncryptWithKey polynomialAead false (some (.zero 12)) (.zero 32) (.zero 16) pqSecureCentralRole 7
        pqSecureMsgTypeData (ascii "PING") 41 = .ok (pingCall.frame polynomialAead) := by
  intro state
  obtain ⟨_, _, -, -, hchannel⟩ := secure_channel polynomialAead (.zero 32) (.zero 16)
    (.inl rfl : ValidRole pqSecureCentralRole)
  obtain ⟨-, hfirmware, -⟩ := hchannel pqSecureMsgTypeData
  have hforged : polynomialAead.decrypt (.zero 32)
      (.ofBytes 12 (((pingCall.frame polynomialAead).set 40 0xFF).drop 9))
      (buildAad (.zero 16) pqSecureCentralRole (sequenceOf ((pingCall.frame polynomialAead).set 40 0xFF))
        (((pingCall.frame polynomialAead).set 40 0xFF).getD 8 0))
      (((pingCall.frame polynomialAead).set 40 0xFF).drop 21) = none := by decide +kernel
  refine ⟨by decide +kernel, hfirmware pingEvents ⟨trivial, fun plaintext hopened ↦ ?_, ?_, ?_, trivial⟩,
    by decide +kernel⟩
  · rw [hforged] at hopened
    cases hopened
  · exact fun _ _ ↦ ⟨pingCall, by decide +kernel, by decide +kernel⟩
  · exact fun _ _ ↦ ⟨pingCall, by decide +kernel, by decide +kernel⟩

end Both

end PqBleHandshake
