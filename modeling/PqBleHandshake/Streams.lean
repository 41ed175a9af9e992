import PqBleHandshake.Application.Central
import PqBleHandshake.FirmwareV1.Progress

/-!
# Integrity of the application streams

A Central and a peripheral that share freshly installed keys, over a network that hands either side any bytes in any
order.  The network is every list of calls, so an attacker who drops, repeats, reflects or forges frames is one of
them.  The AEAD is ideal in a run if it opened only what one of the two parties sealed in it.
-/

namespace PqBleHandshake

open Foundation

/-! ## Sealings and openings -/

/-- What authenticates an AEAD call. -/
structure AeadCall where
  key : Block 32
  nonce : Block 12
  aad : Bytes
deriving DecidableEq

/-- The call for a PING. -/
def AppKeys.pingCall (version : UInt8) (keys : AppKeys) (seq : UInt64) : AeadCall where
  key := keys.c2p
  nonce := pqV1Cp4Nonce keys.ivC2p seq
  aad := cp4Aad version keys.sid pqV1AppC2p seq pqV1Cp4Ping 16

/-- The call for a PONG. -/
def AppKeys.pongCall (version : UInt8) (keys : AppKeys) (seq : UInt64) : AeadCall where
  key := keys.p2c
  nonce := pqV1Cp4Nonce keys.ivP2c seq
  aad := cp4Aad version keys.sid pqV1AppP2c seq pqV1Cp4Pong 16

/-- Everything that was opened was sealed before, under the same key, nonce and associated data. -/
def GenuineOpenings (aead : Aead) (sealings openings : List (AeadCall × Bytes)) : Prop :=
  ∀ opening ∈ openings, ∃ sealing ∈ sealings, sealing.1 = opening.1 ∧
    opening.2 = aead.encrypt opening.1.key opening.1.nonce opening.1.aad sealing.2

instance (aead : Aead) (sealings openings : List (AeadCall × Bytes)) :
    Decidable (GenuineOpenings aead sealings openings) :=
  inferInstanceAs (Decidable (∀ opening ∈ openings, _))

/-- Messages that carry the sequence numbers 0, 1, 2, … -/
def Numbered (messages : List Cp4Message) : Prop :=
  ∀ (i : ℕ) (message : Cp4Message), messages[i]? = some message → message.seq.toNat = i

/-- Numbered messages that all occur in another numbered list are a prefix of it. -/
theorem Numbered.isPrefix {xs ys : List Cp4Message} (hxs : Numbered xs) (hys : Numbered ys)
    (hmem : ∀ message ∈ xs, message ∈ ys) : xs <+: ys := by
  rw [List.prefix_iff_getElem?]
  intro i hi
  obtain ⟨j, hj, hfound⟩ := List.getElem_of_mem (hmem _ (List.getElem_mem hi))
  have hleft := hxs i _ (List.getElem?_eq_getElem hi)
  have hright := hys j _ (List.getElem?_eq_some_iff.mpr ⟨hj, hfound⟩)
  obtain rfl : i = j := hleft.symm.trans hright
  exact List.getElem?_eq_some_iff.mpr ⟨hj, hfound⟩

namespace Python

/-! ## The Central -/

/-- A `CentralApplication` with the PINGs that it encrypted and the PONGs that it accepted, oldest first. -/
structure CentralRun where
  app : CentralApplication
  sent : List Cp4Message := []
  accepted : List Cp4Message := []

/-- The methods of a `CentralApplication`; `raw` is whatever the network delivers. -/
inductive ApplicationCall
  | encryptPing (challenge : Bytes) (mtu : ℕ)
  | acceptPong (raw challenge : Bytes) (mtu : ℕ)
  | clear

/-- The channel of a Central that shares the keys. -/
def CentralApplication.sharing (profile : UInt8) (keys : AppKeys) : CentralApplication where
  handshake :=
    { profile, secure := true, appC2p := keys.c2p, appP2c := keys.p2c, sessionId := keys.sid.bytes }
  ivC2p := keys.ivC2p
  ivP2c := keys.ivP2c
  txC2p := 0
  rxP2c := 0

/-- The Central under every sequence of calls. -/
def centralMachine (aead : Aead) : Machine CentralRun ApplicationCall (Option Bytes) where
  step run
    | .encryptPing challenge mtu =>
      let result := run.app.encryptPing aead challenge mtu
      (result.1, { run with
        app := result.2
        sent := run.sent ++ (result.1.map fun wire ↦
          (⟨UInt64.ofNat run.app.txC2p, challenge, wire⟩ : Cp4Message)).toList })
    | .acceptPong raw challenge mtu =>
      let result := run.app.acceptPong aead raw challenge mtu
      (result.1, { run with
        app := result.2
        accepted := run.accepted ++ (result.1.map fun plaintext ↦
          (⟨UInt64.ofNat run.app.rxP2c, plaintext, raw⟩ : Cp4Message)).toList })
    | .clear => (none, { run with app := run.app.clear })

/-- The session is closed and its keys are wiped. -/
structure CentralApplication.Wiped (app : CentralApplication) : Prop where
  closed : app.handshake.secure = false
  appC2p : app.handshake.appC2p = .zero 32
  appP2c : app.handshake.appP2c = .zero 32
  ivC2p : app.ivC2p = .zero 12
  ivP2c : app.ivP2c = .zero 12

theorem CentralApplication.wiped_clear (app : CentralApplication) : app.clear.Wiped := ⟨rfl, rfl, rfl, rfl, rfl⟩

/-- A PING as it is encrypted under the keys. -/
structure IsSent (aead : Aead) (profile : UInt8) (keys : AppKeys) (ping : Cp4Message) : Prop where
  length_plaintext : ping.plaintext.length = 16
  wire_eq : ping.wire = cp4Wire profile pqV1AppC2p ping.seq pqV1Cp4Ping
    (aead.encrypt keys.c2p (pqV1Cp4Nonce keys.ivC2p ping.seq)
      (cp4Aad profile keys.sid pqV1AppC2p ping.seq pqV1Cp4Ping 16) ping.plaintext)

/-- What holds between any two calls: the counters of an open channel are the numbers of PINGs sent and PONGs
accepted, and a closed channel is wiped. -/
structure CentralRun.Sound (aead : Aead) (profile : UInt8) (keys : AppKeys) (run : CentralRun) : Prop where
  app : run.app = { CentralApplication.sharing profile keys with
      txC2p := run.sent.length, rxP2c := run.accepted.length } ∨ run.app.Wiped
  sent_seq : Numbered run.sent
  accepted_seq : Numbered run.accepted
  sealed : ∀ ping ∈ run.sent, IsSent aead profile keys ping
  opened : ∀ pong ∈ run.accepted, ∃ sealed, Cp4Opened aead profile keys.p2c keys.ivP2c keys.sid pong.wire
    pqV1AppP2c pong.seq pong.plaintext sealed

section Central

variable {aead : Aead} {profile : UInt8} {keys : AppKeys} {run : CentralRun}

theorem CentralRun.sound_sharing (aead : Aead) (profile : UInt8) (keys : AppKeys) :
    ({ app := .sharing profile keys } : CentralRun).Sound aead profile keys where
  app := .inl rfl
  sent_seq := by simp [Numbered]
  accepted_seq := by simp [Numbered]
  sealed := by simp
  opened := by simp

/-- A closed channel stays closed, and refuses every call. -/
theorem CentralApplication.Wiped.encryptPing {app : CentralApplication} (h : app.Wiped) (challenge : Bytes)
    (mtu : ℕ) :
    app.encryptPing aead challenge mtu = (none, app.clear) := by
  simp [CentralApplication.encryptPing, encryptPingBody, h.closed]

theorem CentralApplication.Wiped.acceptPong {app : CentralApplication} (h : app.Wiped) (raw challenge : Bytes)
    (mtu : ℕ) :
    app.acceptPong aead raw challenge mtu = (none, app.clear) := by
  simp [CentralApplication.acceptPong, acceptPongBody, h.closed]

/-- A sent PING carries the next sequence number. -/
theorem CentralRun.Sound.pinged (h : run.Sound aead profile keys) {challenge wire : Bytes} {app : CentralApplication}
    {sid : Block 16} (hpinged : CentralApplication.Pinged aead run.app challenge wire app sid) :
    ({ run with app, sent := run.sent ++ [⟨UInt64.ofNat run.app.txC2p, challenge, wire⟩] } :
      CentralRun).Sound aead profile keys := by
  rcases h.app with happ | hwiped
  swap
  · exact absurd (hwiped.closed.symm.trans hpinged.secure) (by decide)
  obtain ⟨-, hlt, hlength, hsid, hwire, rfl⟩ := hpinged
  rw [happ] at hlt hsid hwire ⊢
  obtain rfl : keys.sid = sid := Block.ext hsid
  refine { h with app := .inl ?_, sent_seq := ?_, sealed := ?_ }
  · simp
  · exact seq_append h.sent_seq (toNat_ofNat_sequence hlt.le)
  · intro ping hping
    rcases List.mem_append.mp hping with hold | hnew
    · exact h.sealed ping hold
    · rw [List.mem_singleton.mp hnew]
      exact ⟨hlength, hwire⟩

/-- An accepted PONG carries the next sequence number. -/
theorem CentralRun.Sound.ponged (h : run.Sound aead profile keys) {raw challenge : Bytes} {app : CentralApplication}
    {sid : Block 16} {sealed : Bytes} (hponged : CentralApplication.Ponged aead run.app raw challenge app sid sealed) :
    ({ run with app, accepted := run.accepted ++ [⟨UInt64.ofNat run.app.rxP2c, challenge, raw⟩] } :
      CentralRun).Sound aead profile keys := by
  rcases h.app with happ | hwiped
  swap
  · exact absurd (hwiped.closed.symm.trans hponged.secure) (by decide)
  obtain ⟨-, hlt, hsid, hopened, rfl⟩ := hponged
  rw [happ] at hlt hsid hopened ⊢
  obtain rfl : keys.sid = sid := Block.ext hsid
  refine { h with app := .inl ?_, accepted_seq := ?_, opened := ?_ }
  · simp
  · exact seq_append h.accepted_seq (toNat_ofNat_sequence hlt.le)
  · intro pong hpong
    rcases List.mem_append.mp hpong with hold | hnew
    · exact h.opened pong hold
    · rw [List.mem_singleton.mp hnew]
      exact ⟨sealed, hopened⟩

theorem CentralRun.Sound.step (h : run.Sound aead profile keys) (call : ApplicationCall) :
    ((centralMachine aead).step run call).2.Sound aead profile keys := by
  cases call with
  | clear => exact { h with app := .inr (CentralApplication.wiped_clear _) }
  | encryptPing challenge mtu =>
    obtain ⟨⟨result, app⟩, hresult⟩ : ∃ result, run.app.encryptPing aead challenge mtu = result := ⟨_, rfl⟩
    simp only [centralMachine, hresult]
    rcases CentralApplication.encryptPing_cases hresult with ⟨wire, sid, rfl, hpinged⟩ | ⟨rfl, rfl⟩
    · exact h.pinged hpinged
    · simp only [Option.map_none, Option.toList_none, List.append_nil]
      exact { h with app := .inr (CentralApplication.wiped_clear _) }
  | acceptPong raw challenge mtu =>
    obtain ⟨⟨result, app⟩, hresult⟩ : ∃ result, run.app.acceptPong aead raw challenge mtu = result := ⟨_, rfl⟩
    simp only [centralMachine, hresult]
    rcases CentralApplication.acceptPong_cases hresult with ⟨sid, sealed, rfl, hponged⟩ | ⟨rfl, rfl⟩
    · exact h.ponged hponged
    · simp only [Option.map_none, Option.toList_none, List.append_nil]
      exact { h with app := .inr (CentralApplication.wiped_clear _) }

/-- The Central that refuses a frame, or whose PING fails, closes its session. -/
theorem wiped_of_refused {call : ApplicationCall} (hrefused : ((centralMachine aead).step run call).1 = none) :
    ((centralMachine aead).step run call).2.app.Wiped := by
  cases call with
  | clear => exact CentralApplication.wiped_clear _
  | encryptPing challenge mtu =>
    obtain ⟨⟨result, app⟩, hresult⟩ : ∃ result, run.app.encryptPing aead challenge mtu = result := ⟨_, rfl⟩
    simp only [centralMachine, hresult] at hrefused ⊢
    rcases CentralApplication.encryptPing_cases hresult with ⟨wire, -, rfl, -⟩ | ⟨-, rfl⟩
    · cases hrefused
    · exact CentralApplication.wiped_clear _
  | acceptPong raw challenge mtu =>
    obtain ⟨⟨result, app⟩, hresult⟩ : ∃ result, run.app.acceptPong aead raw challenge mtu = result := ⟨_, rfl⟩
    simp only [centralMachine, hresult] at hrefused ⊢
    rcases CentralApplication.acceptPong_cases hresult with ⟨-, -, rfl, -⟩ | ⟨-, rfl⟩
    · cases hrefused
    · exact CentralApplication.wiped_clear _

/-- A closed session stays closed: nothing is sent and nothing is accepted any more. -/
theorem wiped_run (hwiped : run.app.Wiped) (calls : List ApplicationCall) :
    ((centralMachine aead).run run calls).app.Wiped ∧
      ((centralMachine aead).run run calls).sent = run.sent ∧
      ((centralMachine aead).run run calls).accepted = run.accepted := by
  refine (centralMachine aead).run_invariant
    (P := fun now : CentralRun ↦ now.app.Wiped ∧ now.sent = run.sent ∧ now.accepted = run.accepted) ?_
    ⟨hwiped, rfl, rfl⟩ calls
  rintro now call ⟨hclosed, hsent, haccepted⟩
  cases call with
  | clear => exact ⟨CentralApplication.wiped_clear _, hsent, haccepted⟩
  | encryptPing challenge mtu =>
    simp only [centralMachine, hclosed.encryptPing, Option.map_none, Option.toList_none, List.append_nil]
    exact ⟨CentralApplication.wiped_clear _, hsent, haccepted⟩
  | acceptPong raw challenge mtu =>
    simp only [centralMachine, hclosed.acceptPong, Option.map_none, Option.toList_none, List.append_nil]
    exact ⟨CentralApplication.wiped_clear _, hsent, haccepted⟩

end Central

end Python

/-! ## The two streams -/

section Streams

variable {aead : Aead} {version : UInt8} {keys : AppKeys} {central : Python.CentralRun} {inst : Installation}
  {ledger : List Installation}

/-- Every message that either side sealed: the PINGs of the Central and the PONGs of every installation. -/
def sealings (version : UInt8) (keys : AppKeys) (central : Python.CentralRun) (ledger : List Installation) :
    List (AeadCall × Bytes) :=
  (central.sent.map fun ping ↦ (keys.pingCall version ping.seq, ping.plaintext)) ++
    ledger.flatMap fun other ↦ other.pongs.map fun pong ↦ (other.keys.pongCall version pong.seq, pong.plaintext)

/-- Every message that either side opened in the session: the sealed string follows nineteen bytes of header. -/
def openings (version : UInt8) (keys : AppKeys) (central : Python.CentralRun) (inst : Installation) :
    List (AeadCall × Bytes) :=
  (central.accepted.map fun pong ↦ (keys.pongCall version pong.seq, pong.wire.drop 19)) ++
    inst.pings.map fun ping ↦ (keys.pingCall version ping.seq, ping.wire.drop 19)

theorem drop_cp4Wire {direction msgType : UInt8} {seq : UInt64} {sealed : Bytes} :
    (cp4Wire version direction seq msgType sealed).drop 19 = sealed := by
  rw [cp4Wire, v1Frame, ← List.append_assoc, List.drop_left' (by simp; rfl)]

/-- The keys are installed once: no other installation seals under the transmit key for the session id. -/
def Fresh (ledger : List Installation) (inst : Installation) : Prop :=
  ∀ other ∈ ledger, other.keys.p2c = inst.keys.p2c → other.keys.sid = inst.keys.sid → other = inst

instance (ledger : List Installation) (inst : Installation) : Decidable (Fresh ledger inst) :=
  inferInstanceAs (Decidable (∀ other ∈ ledger, _))

theorem pingCall_inj {seq seq' : UInt64} (h : keys.pingCall version seq = keys.pingCall version seq') : seq = seq' :=
  ((cp4Aad_inj (by decide) (by decide)).mp (congrArg AeadCall.aad h)).2.2.1

/-- No PONG is sealed under the call of a PING: the associated data names the direction. -/
theorem pongCall_ne_pingCall {other : AppKeys} {seq seq' : UInt64} :
    other.pongCall version seq ≠ keys.pingCall version seq' := by
  intro h
  have hdirection := ((cp4Aad_inj (by decide) (by decide)).mp (congrArg AeadCall.aad h)).2.1
  exact absurd hdirection (by decide)

theorem pongCall_inj {other : AppKeys} {seq seq' : UInt64}
    (h : other.pongCall version seq = keys.pongCall version seq') :
    other.p2c = keys.p2c ∧ other.sid = keys.sid ∧ seq = seq' := by
  obtain ⟨hsid, -, hseq, -⟩ := (cp4Aad_inj (by decide) (by decide)).mp (congrArg AeadCall.aad h)
  exact ⟨congrArg AeadCall.key h, hsid, hseq⟩

/-- A message that opens is the one that was sealed. -/
theorem plaintext_eq_of_opened {key : Block 32} {iv : Block 12} {sid : Block 16} {wire plaintext plaintext' : Bytes}
    {direction : UInt8} {seq : UInt64}
    (h : Cp4Opened aead version key iv sid wire direction seq plaintext
      (aead.encrypt key (pqV1Cp4Nonce iv seq) (cp4Aad version sid direction seq
        (if direction = pqV1AppC2p then pqV1Cp4Ping else pqV1Cp4Pong) 16) plaintext')) : plaintext' = plaintext :=
  Option.some.inj ((aead.decrypt_encrypt _ _ _ _).symm.trans h.unsealed)

/-- The PINGs that the peripheral accepted are the first ones that the Central sent. -/
theorem pings_arrive (hcentral : central.Sound aead version keys) (hsound : inst.Sound aead version)
    (hkeys : inst.keys = keys)
    (hgenuine : GenuineOpenings aead (sealings version keys central ledger) (openings version keys central inst)) :
    inst.pings <+: central.sent := by
  subst hkeys
  refine Numbered.isPrefix hsound.pings_seq hcentral.sent_seq fun ping hping ↦ ?_
  obtain ⟨sealed, hopened⟩ := hsound.opened ping hping
  have hdrop : ping.wire.drop 19 = sealed := by rw [hopened.wire_eq]; exact drop_cp4Wire
  obtain ⟨⟨call, plaintext⟩, hmem, hcall, hsealed⟩ := hgenuine _ (List.mem_append_right _ (List.mem_map_of_mem hping))
  dsimp only at hcall hsealed
  subst hcall
  rcases List.mem_append.mp hmem with hping' | hpong
  · obtain ⟨sent, hsent, hsame⟩ := List.mem_map.mp hping'
    obtain ⟨hcall, rfl⟩ := Prod.mk.inj hsame
    have hseq := pingCall_inj hcall
    rw [hdrop] at hsealed
    subst hsealed
    have hplain : sent.plaintext = ping.plaintext := plaintext_eq_of_opened hopened
    have hwire : sent.wire = ping.wire := by
      rw [(hcentral.sealed sent hsent).wire_eq, hopened.wire_eq, hseq]
      rfl
    have heq : sent = ping := by
      cases sent
      cases ping
      simp_all
    exact heq ▸ hsent
  · obtain ⟨other, -, hpong⟩ := List.mem_flatMap.mp hpong
    obtain ⟨pong, -, hsame⟩ := List.mem_map.mp hpong
    exact absurd (Prod.mk.inj hsame).1 pongCall_ne_pingCall

/-- The PONGs that the Central accepted are the first ones that the peripheral encrypted. -/
theorem pongs_arrive (hcentral : central.Sound aead version keys) (hsound : inst.Sound aead version)
    (hkeys : inst.keys = keys) (hfresh : Fresh ledger inst)
    (hgenuine : GenuineOpenings aead (sealings version keys central ledger) (openings version keys central inst)) :
    central.accepted <+: inst.pongs := by
  subst hkeys
  refine Numbered.isPrefix hcentral.accepted_seq hsound.pongs_seq fun pong hpong ↦ ?_
  obtain ⟨sealed, hopened⟩ := hcentral.opened pong hpong
  have hdrop : pong.wire.drop 19 = sealed := by rw [hopened.wire_eq]; exact drop_cp4Wire
  obtain ⟨⟨call, plaintext⟩, hmem, hcall, hsealed⟩ := hgenuine _ (List.mem_append_left _ (List.mem_map_of_mem hpong))
  dsimp only at hcall hsealed
  subst hcall
  rcases List.mem_append.mp hmem with hping | hpong'
  · obtain ⟨sent, -, hsame⟩ := List.mem_map.mp hping
    exact absurd (Prod.mk.inj hsame).1.symm pongCall_ne_pingCall
  · obtain ⟨other, hother, hpong'⟩ := List.mem_flatMap.mp hpong'
    obtain ⟨made, hmade, hsame⟩ := List.mem_map.mp hpong'
    obtain ⟨hcall, rfl⟩ := Prod.mk.inj hsame
    obtain ⟨hp2c, hsid, hseq⟩ := pongCall_inj hcall
    obtain rfl := hfresh other hother hp2c hsid
    rw [hdrop] at hsealed
    subst hsealed
    have hplain : made.plaintext = pong.plaintext := plaintext_eq_of_opened hopened
    have hwire : made.wire = pong.wire := by
      rw [(hsound.sealed made hmade).wire_eq, hopened.wire_eq, hseq]
      rfl
    have heq : made = pong := by
      cases made
      cases pong
      simp_all
    exact heq ▸ hmade

end Streams

/-! ## An installation that is over -/

/-- Nothing more is accepted in an installation, and until newer keys are installed the wiped ones are in the store. -/
def Ended (inst : Installation) (ledger : List Installation) (wiped : Prop) : Prop :=
  ∃ newer found earlier, ledger = newer ++ found :: earlier ∧ found.keys = inst.keys ∧ found.pings = inst.pings ∧
    (newer = [] → wiped)

section Ended

variable {inst : Installation} {ledger : List Installation} {wiped wiped' : Prop}

theorem Ended.head {earlier : List Installation} (hledger : ledger = inst :: earlier) (h : wiped) :
    Ended inst ledger wiped :=
  ⟨[], inst, earlier, hledger, rfl, rfl, fun _ ↦ h⟩

theorem Ended.mono (h : Ended inst ledger wiped) (hwiped : wiped → wiped') : Ended inst ledger wiped' := by
  obtain ⟨newer, found, earlier, hledger, hkeys, hpings, hnow⟩ := h
  exact ⟨newer, found, earlier, hledger, hkeys, hpings, fun hnewer ↦ hwiped (hnow hnewer)⟩

/-- A newer installation. -/
theorem Ended.installed (h : Ended inst ledger wiped) (keys : AppKeys) :
    Ended inst (recordEvent ledger (.installed keys)) wiped' := by
  obtain ⟨newer, found, earlier, rfl, hkeys, hpings, -⟩ := h
  exact ⟨{ keys } :: newer, found, earlier, recordEvent_installed _ _, hkeys, hpings, nofun⟩

/-- Under wiped keys no PING is opened; any other event leaves the accepted PINGs alone. -/
theorem Ended.event (h : Ended inst ledger wiped) {event : AppEvent} (hopened : ∀ ping, event = .opened ping → ¬wiped)
    (hwiped : wiped → wiped') : Ended inst (recordEvent ledger event) wiped' := by
  cases event with
  | installed keys => exact h.installed keys
  | _ =>
    obtain ⟨newer, found, earlier, rfl, hkeys, hpings, hnow⟩ := h
    cases newer with
    | cons current newer => exact ⟨current.record _ :: newer, found, earlier, rfl, hkeys, hpings, nofun⟩
    | nil =>
      have hwipe : wiped := hnow rfl
      refine ⟨[], found.record _, earlier, rfl, hkeys, ?_, fun _ ↦ hwiped hwipe⟩
      first
        | exact hpings
        | exact absurd hwipe (hopened _ rfl)

end Ended

/-! ## The v1.1 service -/

namespace Resumption

theorem ChannelStep.ended {aead : Aead} {channel channel' : Channel} {events : List AppEvent} {inst : Installation}
    {ledger : List Installation} (hstep : ChannelStep aead channel events channel')
    (h : Ended inst ledger (channel = .closed)) : Ended inst (recordEvents ledger events) (channel' = .closed) := by
  have hsecure : channel.session.state = .secure → ¬channel = .closed := by
    rintro hstate rfl
    cases hstate
  cases hstep with
  | keep => exact h
  | close => exact h.mono fun _ ↦ rfl
  | accept session idle waiting => exact h.installed _
  | acceptLost keys => exact h.installed _
  | confirm waiting =>
    refine h.mono fun hclosed ↦ ?_
    rw [hclosed] at waiting
    cases waiting
  | full session secure => exact h.installed _
  | pingLost ping accepts => exact h.event (fun _ _ ↦ hsecure accepts.secure) fun _ ↦ rfl
  | pongLost ping pong accepts answers =>
    have hopened : Ended inst (recordEvent ledger (.opened ping)) False :=
      h.event (fun _ _ ↦ hsecure accepts.secure) (hsecure accepts.secure)
    exact hopened.event nofun False.elim
  | exchange ping pong accepts answers =>
    have hopened : Ended inst (recordEvent ledger (.opened ping)) False :=
      h.event (fun _ _ ↦ hsecure accepts.secure) (hsecure accepts.secure)
    have hsealed : Ended inst (recordEvent (recordEvent ledger (.opened ping)) (.sealed pong)) False :=
      hopened.event nofun id
    have hdelivered : Ended inst (recordEvent (recordEvent (recordEvent ledger (.opened ping)) (.sealed pong))
        .delivered) False := hsealed.event nofun id
    exact hdelivered.event nofun False.elim

/-- The installation of the channel before a move that closes it. -/
theorem ChannelStep.ends {aead : Aead} {channel channel' : Channel} {events : List AppEvent} {inst : Installation}
    {ledger earlier : List Installation} (hstep : ChannelStep aead channel events channel')
    (hledger : ledger = inst :: earlier) {wiped : Prop} (hwiped : wiped) :
    ∃ found : Installation, found.keys = inst.keys ∧ Ended found (recordEvents ledger events) wiped := by
  have hnewer : ∀ keys, Ended inst (recordEvent ledger (.installed keys)) wiped := fun keys ↦
    (Ended.head hledger trivial).installed keys
  subst hledger
  cases hstep with
  | keep => exact ⟨inst, rfl, .head rfl hwiped⟩
  | close => exact ⟨inst, rfl, .head rfl hwiped⟩
  | accept session idle waiting => exact ⟨inst, rfl, hnewer _⟩
  | acceptLost keys => exact ⟨inst, rfl, hnewer _⟩
  | confirm waiting => exact ⟨inst, rfl, .head rfl hwiped⟩
  | full session secure => exact ⟨inst, rfl, hnewer _⟩
  | pingLost ping accepts => exact ⟨inst.record (.opened ping), rfl, .head rfl hwiped⟩
  | pongLost ping pong accepts answers =>
    exact ⟨(inst.record (.opened ping)).record (.sealed pong), rfl, .head rfl hwiped⟩
  | exchange ping pong accepts answers =>
    exact ⟨(((inst.record (.opened ping)).record (.sealed pong)).record .delivered).record .committed, rfl,
      .head rfl hwiped⟩

/-- An installation of the service that is over stays over. -/
theorem ended_run {crypto : Crypto} {aead : Aead} {now : ServiceRun} {inst : Installation}
    (h : Ended inst now.ledger (now.service.channel = .closed)) (calls : List ServiceCall) :
    Ended inst ((serviceRun crypto aead).run now calls).ledger
      (((serviceRun crypto aead).run now calls).service.channel = .closed) :=
  (serviceRun crypto aead).run_invariant
    (P := fun current ↦ Ended inst current.ledger (current.service.channel = .closed))
    (fun current call hnow ↦ (channelStep_step current.service call).ended hnow) h calls

/-- A write that the service refuses closes its session. -/
theorem control_refused {crypto : Crypto} {aead : Aead} {service : Service} {conn : Conn} {wire : Bytes}
    {input : ControlInput}
    (h : ((serviceMachine pqResumeV11 crypto aead).step service (.control conn wire input)).1.ok = false) :
    ((serviceMachine pqResumeV11 crypto aead).step service (.control conn wire input)).2.channel = .closed := by
  simp only [serviceMachine, pqResumeServiceControl] at h ⊢
  rw [h]
  rfl

end Resumption

/-! ## The v1.0 worker -/

namespace FirmwareV1

/-- No application keys are in the store. -/
structure Store.Wiped (store : Store) : Prop where
  secure : store.v1Cp3AppSecure = false
  pending : store.v1Cp3KeysPending = false
  application : store.v1Cp3Application = .zero

theorem Store.wiped_reset (store : Store) : store.resetV1Cp3.Wiped := ⟨rfl, rfl, rfl⟩

theorem Committed.unwiped {platform : Platform} {store store' : Store} (h : Committed platform store store') :
    ¬store.Wiped := by
  obtain ⟨_, hcommit, -⟩ := h
  intro hwiped
  exact Bool.noConfusion (hwiped.pending.symm.trans (commitV1Cp3_eq_ok_iff.mp hcommit).1.1)

section Moves

variable {platform : Platform} {core core' : Core} {inst : Installation}

/-- An installation that is over stays over. -/
theorem Move.ended (move : Move platform core core') (h : Ended inst core.ledger core.store.Wiped) :
    Ended inst core'.ledger core'.store.Wiped := by
  have hkept : ∀ {store : Store}, store.v1Cp3AppSecure = core.store.v1Cp3AppSecure →
      store.v1Cp3KeysPending = core.store.v1Cp3KeysPending →
      store.v1Cp3Application = core.store.v1Cp3Application → core.store.Wiped → store.Wiped :=
    fun hsecure hpending happ hwiped ↦
      ⟨hsecure.trans hwiped.secure, hpending.trans hwiped.pending, happ.trans hwiped.application⟩
  cases move
  case start submitted =>
    obtain ⟨-, -, payload, -, -, -, rfl⟩ := submitV1Cp3_eq_ok_iff.mp submitted
    exact h.mono (hkept rfl rfl rfl)
  case finishedC submitted =>
    obtain ⟨payload, -, -, -, rfl⟩ := submitV1Cp3FinishedC_eq_ok_iff.mp submitted
    exact h.mono (hkept rfl rfl rfl)
  case ping submitted =>
    obtain ⟨-, -, -, -, rfl⟩ := submitV1Cp4_eq_ok_iff.mp submitted
    exact h.mono (hkept rfl rfl rfl)
  case finishedStored => exact h.installed _
  case pingOpened secure _ =>
    exact h.event (fun _ _ hwiped ↦ Bool.noConfusion (hwiped.secure.symm.trans secure)) id
  case pongSealed => exact h.event nofun id
  case pongSent => exact h.event nofun id
  case finishedCommitted committed => exact h.mono fun hwiped ↦ absurd hwiped committed.unwiped
  case cp3Committed committed => exact h.mono fun hwiped ↦ absurd hwiped committed.unwiped
  case pongCommitted committed =>
    obtain ⟨⟨hsecure, -⟩, rfl⟩ := commitV1Cp4_eq_ok_iff.mp committed
    exact h.event nofun (hkept rfl rfl rfl)
  all_goals first
    | exact h
    | exact h.mono fun _ ↦ Store.wiped_reset _
    | exact h.mono (hkept rfl rfl rfl)

/-- The job of the current installation has failed and its callback has not run yet. -/
structure Failing (inst : Installation) (core : Core) : Prop where
  worker : (∃ epoch status wire, core.worker = .jobDone .v1Cp4C2p epoch status wire ∧ status ≠ .success) ∨
    ∃ status wire, core.worker = .cp4Callback status wire ∧ status ≠ .success
  current : ∃ earlier, core.ledger = inst :: earlier

/-- A failed job ends the installation with its callback, or another reset does before. -/
theorem Move.failing (move : Move platform core core') (hslotted : Slotted core) (h : Failing inst core) :
    Failing inst core' ∨ Ended inst core'.ledger core'.store.Wiped := by
  obtain ⟨earlier, hledger⟩ := h.current
  have hinJob : core.worker.inJob = true := by
    rcases h.worker with ⟨epoch, status, wire, hworker, -⟩ | ⟨status, wire, hworker, -⟩ <;> rw [hworker] <;> rfl
  have hworking := (hslotted.job hinJob).1
  have hreset : ∀ {ledger : List Installation}, ledger = core.ledger →
      Ended inst ledger core.store.resetV1Cp3.Wiped :=
    fun hsame ↦ .head (hsame.trans hledger) (Store.wiped_reset _)
  have hrunning : ∀ {mode epoch}, core.worker.running ≠ some (mode, epoch) := by
    intro mode epoch
    rcases h.worker with ⟨_, status, wire, hworker, -⟩ | ⟨status, wire, hworker, -⟩ <;> rw [hworker] <;> exact nofun
  have hfree : core.workerActive ≠ false := by rw [hworking]; decide
  have hcp2 : core.worker.isCp2 ≠ true := by
    rcases h.worker with ⟨_, status, wire, hworker, -⟩ | ⟨status, wire, hworker, -⟩ <;> rw [hworker] <;>
      exact Bool.false_ne_true
  -- Where the worker stands decides which of its moves are left.
  cases move
  case keep => exact .inl h
  case invalidate => exact .inr (hreset rfl)
  case reconnect => exact .inr (hreset rfl)
  case start free _ => exact absurd free hfree
  case finishedC free _ => exact absurd free hfree
  case ping free _ _ => exact absurd free hfree
  case cp2 free _ => exact absurd free hfree
  case dropJob => exact .inl ⟨h.worker, h.current⟩
  case cp2Step before after => exact absurd before hcp2
  case cp2Release before => exact absurd before hcp2
  case jobFailed running failed => exact absurd running hrunning
  case pingDead running => exact absurd running hrunning
  case jobFinished mode epoch status status' wire wire' worker hmode result =>
    rcases h.worker with ⟨_, _, _, hworker, hfailed⟩ | ⟨_, _, hworker, -⟩
    · obtain ⟨rfl, rfl, rfl, rfl⟩ := Worker.jobDone.inj (worker.symm.trans hworker)
      refine .inl ⟨.inr ⟨status', wire', rfl, ?_⟩, h.current⟩
      rcases result with ⟨rfl, -⟩ | hstatus
      · exact hfailed
      · exact hstatus
    · rw [worker] at hworker
      cases hworker
  case pongDropped => exact .inr (hreset rfl)
  case pongReleased worker _ =>
    rcases h.worker with ⟨_, _, _, hworker, -⟩ | ⟨_, _, hworker, hfailed⟩ <;> rw [worker] at hworker
    · cases hworker
    · obtain ⟨rfl, -⟩ := Worker.cp4Callback.inj hworker
      exact absurd rfl hfailed
  all_goals
    rename_i worker
    rcases h.worker with ⟨_, _, _, hworker, -⟩ | ⟨_, _, hworker, -⟩ <;> simp_all

/-- The installation is over, or will be when the callback of its failed job has run. -/
def Closing (inst : Installation) (core : Core) : Prop :=
  Failing inst core ∨ Ended inst core.ledger core.store.Wiped

theorem Closing.ended_of_idle (h : Closing inst core) (hidle : core.worker = .idle) :
    Ended inst core.ledger core.store.Wiped := by
  rcases h with ⟨⟨_, _, _, hworker, -⟩ | ⟨_, _, hworker, -⟩, -⟩ | hended
  · rw [hidle] at hworker
    cases hworker
  · rw [hidle] at hworker
    cases hworker
  · exact hended

/-- No PING is accepted any more. -/
theorem Closing.frozen (h : Closing inst core) : Ended inst core.ledger True := by
  rcases h with ⟨-, earlier, hledger⟩ | hended
  · exact .head hledger trivial
  · exact hended.mono fun _ ↦ trivial

theorem closing_run (platform : Platform) {state : State} (hslotted : Slotted state.core) (h : Closing inst state.core)
    (actions : List Action) : Closing inst ((firmware platform).run state actions).core := by
  have hboth := (firmware platform).run_invariant
    (P := fun now ↦ Slotted now.core ∧ Closing inst now.core)
    (fun now action hnow ↦ by
      have move := move_step platform now action
      refine ⟨move.slotted hnow.1, ?_⟩
      rcases hnow.2 with hfailing | hended
      · exact move.failing hnow.1 hfailing
      · exact .inr (move.ended hended))
    ⟨hslotted, h⟩ actions
  exact hboth.2

end Moves

/-- A step that refuses an application frame: a write that is answered with an error, or a step of the worker that
fails the job of a PING. -/
inductive Refuses (platform : Platform) (state : State) : Action → Prop
  | write (conn : Conn) (data : Bytes) (view : ControlView) (gate : view.gate.l4 = true)
      (application : 6 ≤ data.length ∧ data.take 4 = v1Magic ∧ IsApp (data.getD 5 0))
      (refused : ((firmware platform).step state (.writeControl conn data 0 view)).1.result ≠ some (.ok ())) :
      Refuses platform state (.writeControl conn data 0 view)
  | job (epoch epoch' : ℕ) (status : JobStatus) (wire : Bytes) (view : WorkerView)
      (running : state.worker.running = some (.v1Cp4C2p, epoch))
      (done : ((firmware platform).step state (.worker view)).2.worker = .jobDone .v1Cp4C2p epoch' status wire)
      (failed : status ≠ .success) : Refuses platform state (.worker view)

/-- `handle_v1_cp4` accepts the frame or resets the session. -/
theorem handleV1Cp4_cases (platform : Platform) (state : State) (conn : Conn) (data : Bytes) (view : ControlView) :
    (state.handleV1Cp4 platform conn data view).1 = .ok () ∨
      (state.handleV1Cp4 platform conn data view).2 = state.invalidateV1Cp3 := by
  unfold State.handleV1Cp4
  dsimp only
  split_ifs
  · exact .inr rfl
  split
  · rename_i error store hsubmit
    obtain rfl : store = state.store := submitV1Cp4_failsIn _ _ hsubmit
    exact .inr rfl
  · exact .inl rfl

/-- The step that ends the job of a PING leaves the ledger alone. -/
theorem Move.jobDone {platform : Platform} {core core' : Core} (move : Move platform core core') {epoch : ℕ}
    {status : JobStatus} {wire : Bytes} (done : core'.worker = .jobDone .v1Cp4C2p epoch status wire) :
    core'.ledger = core.ledger := by
  cases move
  case finishedStored => cases done
  case pingOpened => cases done
  case pongSealed => cases done
  case pongSent => cases done
  case pongCommitted => cases done
  all_goals rfl

/-- A frame that is refused in a session begins to close it. -/
theorem Refuses.closing {platform : Platform} {state : State} {action : Action} {inst : Installation}
    {earlier : List Installation} (h : Refuses platform state action) (hversion : platform.version = pqV10)
    (hledger : state.ledger = inst :: earlier) :
    Closing inst ((firmware platform).step state action).2.core := by
  cases h with
  | write conn data view gate application refused =>
    rw [writeControl_application hversion gate application] at refused ⊢
    rcases handleV1Cp4_cases platform state conn data view with haccepted | hreset
    · exact absurd (congrArg some haccepted) refused
    · rw [answered, hreset]
      exact .inr (.head hledger ⟨rfl, rfl, rfl⟩)
  | job epoch epoch' status wire view running done failed =>
    have hsame := (move_step platform state (.worker view)).jobDone done
    exact .inl ⟨.inl ⟨epoch', status, wire, done, failed⟩, earlier, hsame.trans hledger⟩

end FirmwareV1

/-! ## The network -/

/-- A Central and a peripheral, with what each of them has done. -/
structure Network (σ : Type*) where
  central : Python.CentralRun
  peripheral : σ

/-- The network hands either side anything at any time. -/
inductive NetworkCall (ι : Type*)
  | central (call : Python.ApplicationCall)
  | peripheral (input : ι)

section Network

variable {σ ι ο : Type*}

def NetworkCall.central? : NetworkCall ι → Option Python.ApplicationCall
  | .central call => some call
  | .peripheral _ => none

def NetworkCall.peripheral? : NetworkCall ι → Option ι
  | .central _ => none
  | .peripheral input => some input

/-- The two sides in every interleaving. -/
def network (aead : Aead) (peripheral : Machine σ ι ο) : Machine (Network σ) (NetworkCall ι) (Option Bytes ⊕ ο) where
  step now
    | .central call =>
      let result := (Python.centralMachine aead).step now.central call
      (.inl result.1, { now with central := result.2 })
    | .peripheral input =>
      let result := peripheral.step now.peripheral input
      (.inr result.1, { now with peripheral := result.2 })

/-- Each side runs on its own calls. -/
theorem network_run (aead : Aead) (peripheral : Machine σ ι ο) (now : Network σ) (calls : List (NetworkCall ι)) :
    (network aead peripheral).run now calls =
      ⟨(Python.centralMachine aead).run now.central (calls.filterMap NetworkCall.central?),
        peripheral.run now.peripheral (calls.filterMap NetworkCall.peripheral?)⟩ := by
  induction calls generalizing now with
  | nil => rfl
  | cons call rest ih =>
    rw [Machine.run_cons, ih]
    cases call <;> rfl

end Network

/-! ## Integrity -/

/-- The PINGs that a freshly keyed peripheral accepts are the first ones that the Central sent, and the PONGs that the
Central accepts are the first ones that the peripheral encrypted: in order, and each once. -/
def StreamsIntact (aead : Aead) (version : UInt8) (keys : AppKeys) (central : Python.CentralRun)
    (ledger : List Installation) : Prop :=
  ∀ inst ∈ ledger, inst.keys = keys → Fresh ledger inst →
    GenuineOpenings aead (sealings version keys central ledger) (openings version keys central inst) →
      inst.pings <+: central.sent ∧ central.accepted <+: inst.pongs

section Integrity

variable {aead : Aead} {version : UInt8} {keys : AppKeys} {σ ι ο : Type*}

/-- The network of a Central with the keys and a peripheral at boot. -/
def Network.start (version : UInt8) (keys : AppKeys) (boot : σ) : Network σ where
  central := { app := .sharing version keys }
  peripheral := boot

theorem central_sound (version : UInt8) (keys : AppKeys) (peripheral : Machine σ ι ο) (boot : σ)
    (calls : List (NetworkCall ι)) :
    ((network aead peripheral).run (.start version keys boot) calls).central.Sound aead version keys := by
  rw [network_run]
  exact (Python.centralMachine aead).run_invariant (fun _ call h ↦ h.step call)
    (Python.CentralRun.sound_sharing aead version keys) _

/-- A Central that refused something has closed its session for good. -/
theorem central_closed (peripheral : Machine σ ι ο) (now : Network σ) {call : Python.ApplicationCall}
    (hrefused : ((Python.centralMachine aead).step now.central call).1 = none) (later : List (NetworkCall ι)) :
    let next := ((network aead peripheral).step now (.central call)).2
    let last := (network aead peripheral).run next later
    last.central.app.Wiped ∧ last.central.sent = next.central.sent ∧ last.central.accepted = next.central.accepted := by
  dsimp only
  rw [network_run]
  exact Python.wiped_run (Python.wiped_of_refused hrefused) _

theorem streamsIntact {central : Python.CentralRun} {ledger : List Installation}
    (hcentral : central.Sound aead version keys) (hsound : ∀ inst ∈ ledger, inst.Sound aead version) :
    StreamsIntact aead version keys central ledger :=
  fun inst hmem hkeys hfresh hgenuine ↦
    ⟨pings_arrive hcentral (hsound inst hmem) hkeys hgenuine,
      pongs_arrive hcentral (hsound inst hmem) hkeys hfresh hgenuine⟩

/-- **The streams of a session arrive whole**, with the worker of v1.0 and with the service of v1.1: each side accepts
a prefix of what the other one sent, the counters of the peripheral agree, and a side that refuses a frame has closed
its session for good. -/
theorem cp4_stream_integrity :
    (∀ (platform : FirmwareV1.Platform), platform.version = pqV10 →
      ∀ (keys : AppKeys) (calls : List (NetworkCall FirmwareV1.Action)),
        let link := network platform.aead (FirmwareV1.firmware platform)
        let now := link.run (.start pqV10 keys .boot) calls
        StreamsIntact platform.aead pqV10 keys now.central now.peripheral.ledger ∧
        now.peripheral.store.v1Cp4RxC2p = now.peripheral.store.v1Cp4TxP2c ∧
        (∀ call later, ((Python.centralMachine platform.aead).step now.central call).1 = none →
          let next := (link.step now (.central call)).2
          let last := link.run next later
          last.central.app.Wiped ∧ last.central.sent = next.central.sent ∧
            last.central.accepted = next.central.accepted) ∧
        ∀ action later, now.peripheral.store.v1Cp3AppSecure = true →
          FirmwareV1.Refuses platform now.peripheral action →
          let last := link.run (link.step now (.peripheral action)).2 later
          ∃ inst earlier, now.peripheral.ledger = inst :: earlier ∧
            inst.keys = now.peripheral.store.appKeys platform ∧ Ended inst last.peripheral.ledger True ∧
            (last.peripheral.worker = .idle → Ended inst last.peripheral.ledger last.peripheral.store.Wiped)) ∧
    ∀ (crypto : Crypto) (aead : Aead) (keys : AppKeys) (calls : List (NetworkCall Resumption.ServiceCall)),
      let link := network aead (Resumption.serviceRun crypto aead)
      let now := link.run (.start Resumption.pqResumeV11 keys .boot) calls
      StreamsIntact aead Resumption.pqResumeV11 keys now.central now.peripheral.ledger ∧
      now.peripheral.service.rxC2p = now.peripheral.service.txP2c ∧
      (∀ call later, ((Python.centralMachine aead).step now.central call).1 = none →
        let next := (link.step now (.central call)).2
        let last := link.run next later
        last.central.app.Wiped ∧ last.central.sent = next.central.sent ∧
          last.central.accepted = next.central.accepted) ∧
      ∀ conn wire input later, now.peripheral.service.core.session.state ≠ .idle →
        ((Resumption.serviceRun crypto aead).step now.peripheral (.control conn wire input)).1.ok = false →
        let next := (link.step now (.peripheral (.control conn wire input))).2
        let last := link.run next later
        ∃ inst : Installation, inst.keys = now.peripheral.service.core.session.appKeys ∧
          Ended inst next.peripheral.ledger (next.peripheral.service.channel = .closed) ∧
          Ended inst last.peripheral.ledger (last.peripheral.service.channel = .closed) := by
  refine ⟨fun platform hversion keys calls ↦ ?_, fun crypto aead keys calls ↦ ?_⟩
  · intro link now
    have hcentral : now.central.Sound platform.aead pqV10 keys := central_sound _ _ _ _ _
    have hrun : now.peripheral = (FirmwareV1.firmware platform).run .boot
        (calls.filterMap NetworkCall.peripheral?) := congrArg Network.peripheral (network_run _ _ _ _)
    have hledgered : FirmwareV1.Ledgered platform now.peripheral.core := by
      rw [hrun]
      exact FirmwareV1.ledgered_run platform _
    have hsound := hledgered.recorded.sound
    rw [hversion] at hsound
    refine ⟨streamsIntact hcentral hsound, hledgered.phased.counters, fun call later hrefused ↦
      central_closed _ _ hrefused _, fun action later hsecure hrefuses ↦ ?_⟩
    obtain ⟨inst, earlier, seq, hledger, -, hkeys⟩ := hledgered.recorded.current (.inl hsecure)
    have hclosing := FirmwareV1.closing_run platform
      ((FirmwareV1.move_step platform now.peripheral action).slotted hledgered.slotted)
      (hrefuses.closing hversion hledger) (later.filterMap NetworkCall.peripheral?)
    refine ⟨inst, earlier, hledger, (hkeys hsecure).1, ?_⟩
    simp only [link, network_run]
    exact ⟨hclosing.frozen, fun hidle ↦ (hclosing.ended_of_idle hidle).mono fun hwiped ↦
      ⟨hwiped.secure, hwiped.pending, hwiped.application⟩⟩
  · intro link now
    have hcentral : now.central.Sound aead Resumption.pqResumeV11 keys := central_sound _ _ _ _ _
    have hrun : now.peripheral = (Resumption.serviceRun crypto aead).run .boot
        (calls.filterMap NetworkCall.peripheral?) := congrArg Network.peripheral (network_run _ _ _ _)
    have hinv : now.peripheral.service.channel.Inv aead now.peripheral.ledger := by
      rw [hrun]
      exact Resumption.ServiceRun.inv crypto aead _
    refine ⟨streamsIntact hcentral hinv.sound, hinv.counters, fun call later hrefused ↦
      central_closed _ _ hrefused _, fun conn wire input later hopen hrefused ↦ ?_⟩
    obtain ⟨inst, earlier, hledger, hkeys, -⟩ := hinv.current hopen
    have hclosed := Resumption.control_refused hrefused
    obtain ⟨found, hfound, hended⟩ :=
      (Resumption.channelStep_step now.peripheral.service (.control conn wire input)).ends hledger hclosed
    refine ⟨found, hfound.trans hkeys, hended, ?_⟩
    simp only [link, network_run]
    exact Resumption.ended_run hended _

end Integrity

/-! ## An exchange -/

namespace FirmwareV1

/-- A session of the sample platform in which the Central sends one PING and accepts the PONG. -/
def exchangeCalls : List (NetworkCall Action) :=
  let pong := cp4Wire pqV10 pqV1AppP2c 0 pqV1Cp4Pong
    (polynomialAead.encrypt sessionKeys.p2c (pqV1Cp4Nonce sessionKeys.ivP2c 0)
      (cp4Aad pqV10 sessionKeys.sid pqV1AppP2c 0 pqV1Cp4Pong 16) (List.replicate 16 3))
  (confirmedActions ++ [Action.worker openWorkerView]).map .peripheral ++
    .central (.encryptPing (List.replicate 16 3) 247) ::
      ((answerActions 11).map .peripheral ++ [.central (.acceptPong pong (List.replicate 16 3) 247)])

/-- The network after that session. -/
def exchanged : Network State :=
  (network (samplePlatform pqV10).aead (firmware (samplePlatform pqV10))).run (.start pqV10 sessionKeys .boot)
    exchangeCalls

/-- The integrity of the two streams in that run. -/
theorem cp4_stream_integrity_exchange :
    exchanged.central.sent.length = 1 ∧ exchanged.central.accepted.length = 1 ∧
      ∀ inst ∈ exchanged.peripheral.ledger,
        inst.pings <+: exchanged.central.sent ∧ exchanged.central.accepted <+: inst.pongs := by
  have hrun : exchanged.central.sent.length = 1 ∧ exchanged.central.accepted.length = 1 ∧
      ∀ inst ∈ exchanged.peripheral.ledger, inst.keys = sessionKeys ∧ Fresh exchanged.peripheral.ledger inst ∧
        GenuineOpenings (samplePlatform pqV10).aead
          (sealings pqV10 sessionKeys exchanged.central exchanged.peripheral.ledger)
          (openings pqV10 sessionKeys exchanged.central inst) := by
    decide +kernel
  have hintact : StreamsIntact (samplePlatform pqV10).aead pqV10 sessionKeys exchanged.central
      exchanged.peripheral.ledger := by
    unfold exchanged
    exact (cp4_stream_integrity.1 (samplePlatform pqV10) rfl sessionKeys exchangeCalls).1
  refine ⟨hrun.1, hrun.2.1, fun inst hmem ↦ ?_⟩
  obtain ⟨hkeys, hfresh, hgenuine⟩ := hrun.2.2 inst hmem
  exact hintact inst hmem hkeys hfresh hgenuine

end FirmwareV1

end PqBleHandshake
