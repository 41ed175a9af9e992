import PqBleHandshake.FirmwareV1.Ledger
import PqBleHandshake.FirmwareV1.Resets
import PqBleHandshake.FirmwareV1.SingleSlot

/-!
# Progress of an honest session

A Central that writes each PING after the PONG before it, on a link that stays up.  The worker notifies the PONG
outside `protocol_lock`, and only its next section commits the counters and frees the session, so a PING that
arrives in between is refused.  A PING that arrives later is always answered, and its counters are committed.
-/

namespace PqBleHandshake.FirmwareV1

open Foundation

/-! ## Honest runs -/

/-- The queries of a link at L4, subscribed and wide enough for an application frame. -/
structure Steady (view : LinkView) : Prop where
  l4 : view.l4 = true
  subscribed : view.subscribed = true
  mtu : pqV1Cp4FrameSize + 3 ≤ view.mtu

/-- A worker step on a steady link in which no call fails. -/
structure WorkerView.Faultless (view : WorkerView) : Prop where
  first : Steady view.first
  send : Steady view.send.toLinkView
  sent : view.send.sent = true
  mac : ∀ key data, view.faults.mac key data = false
  aead : view.aeadFault = false

/-- A PING that the Central encrypts under the keys of the session. -/
def ValidPing (platform : Platform) (keys : AppKeys) (seq : UInt64) (wire : Bytes) : Prop :=
  ∃ challenge : Bytes, challenge.length = 16 ∧
    pqV1Cp4Encrypt platform.aead false platform.version keys.c2p keys.ivC2p keys.sid pqV1AppC2p seq pqV1Cp4Ping
      challenge pqV1Cp4FrameSize = .ok wire

/-- The firmware in a session, with the PINGs that the Central wrote and the PONGs that were notified. -/
structure Conversation where
  state : State
  pings : ℕ
  pongs : ℕ

/-- A write of the control characteristic. -/
def Action.isPing : Action → Bool
  | .writeControl _ _ _ _ => true
  | _ => false

/-- The firmware with the two counts. -/
def conversation (platform : Platform) : Machine Conversation Action Output where
  step now action :=
    let result := (firmware platform).step now.state action
    (result.1,
      { state := result.2
        pings := if action.isPing then now.pings + 1 else now.pings
        pongs := if result.1.queued.isSome then now.pongs + 1 else now.pongs })

/-- The link stays connected, at L4 and subscribed, no call of the worker fails, and the Central writes the PING
with the next sequence number when every PONG before it was notified. -/
def Honest (platform : Platform) (conn : Conn) (keys : AppKeys) (now : Conversation) : Action → Prop
  | .worker view => view.Faultless
  | .writeControl owner wire offset view =>
    owner = conn ∧ offset = 0 ∧ view.gate.l4 = true ∧ Steady view.first ∧ Steady view.second ∧
      now.pongs = now.pings ∧ now.pings < uint64Max.toNat ∧
      ValidPing platform keys (UInt64.ofNat now.pings) wire
  | .writeCcc _ enabled _ | .cccConfigChanged enabled _ => enabled = true
  | .securityChanged owner secured => secured = true ∨ owner ≠ conn
  | .connected _ _ _ _ => False
  | .disconnected owner _ => owner ≠ conn
  | _ => True

/-- A PING is handled when no delivery is under way. -/
def Drained (now : Conversation) (action : Action) : Prop :=
  action.isPing = true → now.state.main.v1Cp3DeliveryActive = false

/-- A PING is accepted. -/
def Accepted (platform : Platform) (now : Conversation) (action : Action) : Prop :=
  action.isPing = true → ((conversation platform).step now action).1.result = some (.ok ())

instance (now : Conversation) (action : Action) : Decidable (Drained now action) :=
  inferInstanceAs (Decidable (_ → _))

instance (platform : Platform) (now : Conversation) (action : Action) : Decidable (Accepted platform now action) :=
  inferInstanceAs (Decidable (_ → _))

/-- The session is not invalidated, and the counters are committed of every PONG that was notified, or will be by the
next step of the worker. -/
structure Secured (platform : Platform) (keys : AppKeys) (now : Conversation) : Prop where
  state : now.state.main.v1Cp3State = .appSecure
  secure : now.state.store.v1Cp3AppSecure = true
  keys : FirmwareV1.appKeys platform.crypto platform.version now.state.store.v1Cp3Application
    now.state.store.v1Cp3SessionId = keys
  committed : now.state.store.v1Cp4TxP2c.toNat = now.pongs ∨ now.state.store.v1Cp4TxP2c.toNat + 1 = now.pongs ∧
    ∀ view : WorkerView, view.Faultless →
      (now.state.workerStep platform view).2.store.v1Cp4TxP2c.toNat = now.pongs

/-! ## The session -/

/-- The link of the session, as `main.c` sees it. -/
structure Linked (conn : Conn) (main : Main) : Prop where
  current : main.currentConn = some conn
  owner : main.v1Cp3Conn = some conn
  generation : SameU32 main.v1Cp3Generation main.connectionGeneration
  secure : main.v1Cp3State = .appSecure
  notify : main.notifyEnabled = true
  cp2 : main.v1Cp2Active = false
  job : main.cryptoJobConn = none

theorem Linked.live {conn : Conn} {main : Main} {view : LinkView} (h : Linked conn main) (hview : Steady view) :
    main.v1Cp4Live (some conn) main.v1Cp3Generation view = true := by
  simp [Main.v1Cp4Live, h.current, h.owner, h.generation, h.secure, h.notify, hview.l4, hview.subscribed,
    hview.mtu, SameU32.refl]

/-- The keys of the session are in use. -/
structure Keyed (platform : Platform) (keys : AppKeys) (store : Store) : Prop where
  ready : store.keypairReady = true
  secure : store.v1Cp3AppSecure = true
  keys : store.appKeys platform = keys
  counters : store.v1Cp4RxC2p = store.v1Cp4TxP2c

/-- Every PING is answered, and the counters say how many there were. -/
structure Resting (now : Conversation) : Prop where
  worker : now.state.worker = .idle
  working : now.state.main.v1Cp3WorkerActive = false
  delivery : now.state.main.v1Cp3DeliveryActive = false
  queued : now.state.store.jobPending = false
  free : now.state.store.jobActive = false
  pending : now.state.store.v1Cp4Pending = false
  pings : now.pings = now.state.store.v1Cp4TxP2c.toNat
  pongs : now.pongs = now.state.store.v1Cp4TxP2c.toNat

/-- A PING is accepted and its counters are not committed. -/
structure Underway (now : Conversation) (inJob inSlot : Bool) (shown : ℕ) : Prop where
  working : now.state.main.v1Cp3WorkerActive = inJob
  delivery : now.state.main.v1Cp3DeliveryActive = !inJob
  queued : now.state.store.jobPending = inSlot
  pending : now.state.store.v1Cp4Pending = true
  epoch : SameU32 now.state.store.pendingV1Cp3Epoch now.state.store.v1Cp3Epoch
  below : now.state.store.v1Cp4TxP2c ≠ uint64Max
  pings : now.pings = now.state.store.v1Cp4TxP2c.toNat + 1
  pongs : now.pongs = now.state.store.v1Cp4TxP2c.toNat + shown

/-- A frame that the callback takes for a PONG. -/
structure PongWire (platform : Platform) (wire : Bytes) : Prop where
  valid : validPong platform.version wire = true
  length : wire.length = pqV1Cp4FrameSize

/-- What the worker copied out of the store. -/
def Store.cp4Snapshot (store : Store) : Cp4Snapshot where
  app := store.v1Cp3Application
  sid := store.v1Cp3SessionId
  rx := store.v1Cp4RxC2p
  tx := store.v1Cp4TxP2c

/-- Where the session stands with the current PING. -/
inductive Phase (platform : Platform) (conn : Conn) (keys : AppKeys) (now : Conversation) : Prop
  | rested (rest : Resting now)
  | queued (worker : now.state.worker = .idle) (underway : Underway now true true 0)
      (mode : now.state.store.pendingJobMode = .v1Cp4C2p) (unready : now.state.store.v1Cp4Ready = false)
      (ping : ValidPing platform keys now.state.store.v1Cp4TxP2c now.state.store.v1Cp4WireJob)
  | live (worker : now.state.worker = .cp4Live now.state.store.pendingV1Cp3Epoch)
      (underway : Underway now true false 0) (unready : now.state.store.v1Cp4Ready = false)
      (ping : ValidPing platform keys now.state.store.v1Cp4TxP2c now.state.store.v1Cp4WireJob)
  | snapshot (worker : now.state.worker = .cp4Snapshot now.state.store.pendingV1Cp3Epoch)
      (underway : Underway now true false 0) (unready : now.state.store.v1Cp4Ready = false)
      (ping : ValidPing platform keys now.state.store.v1Cp4TxP2c now.state.store.v1Cp4WireJob)
  | recheck (challenge : Bytes)
      (worker : now.state.worker =
        .cp4Recheck now.state.store.pendingV1Cp3Epoch now.state.store.cp4Snapshot challenge)
      (underway : Underway now true false 0) (length : challenge.length = 16)
  | encrypt (challenge : Bytes)
      (worker : now.state.worker =
        .cp4Encrypt now.state.store.pendingV1Cp3Epoch now.state.store.cp4Snapshot challenge)
      (underway : Underway now true false 0) (length : challenge.length = 16)
  | ready (wire : Bytes) (worker : now.state.worker = .cp4Ready now.state.store.pendingV1Cp3Epoch wire)
      (underway : Underway now true false 0) (pong : PongWire platform wire)
  | done (wire : Bytes)
      (worker : now.state.worker = .jobDone .v1Cp4C2p now.state.store.pendingV1Cp3Epoch .success wire)
      (underway : Underway now true false 0) (prepared : now.state.store.v1Cp4Ready = true)
      (pong : PongWire platform wire)
  | callback (wire : Bytes) (worker : now.state.worker = .cp4Callback .success wire)
      (underway : Underway now true false 0) (prepared : now.state.store.v1Cp4Ready = true)
      (free : now.state.store.jobActive = false) (pong : PongWire platform wire)
  | check (wire : Bytes) (worker : now.state.worker = .cp4Check conn now.state.main.v1Cp3Generation wire)
      (underway : Underway now false false 0) (prepared : now.state.store.v1Cp4Ready = true)
      (free : now.state.store.jobActive = false) (pong : PongWire platform wire)
  | send (wire : Bytes) (worker : now.state.worker = .cp4Send conn now.state.main.v1Cp3Generation true wire)
      (underway : Underway now false false 0) (prepared : now.state.store.v1Cp4Ready = true)
      (free : now.state.store.jobActive = false) (pong : PongWire platform wire)
  | settle (worker : now.state.worker = .cp4Settle (some conn) now.state.main.v1Cp3Generation true)
      (underway : Underway now false false 1) (prepared : now.state.store.v1Cp4Ready = true)
      (free : now.state.store.jobActive = false)

/-- The counts of PINGs and PONGs tell a session at rest from one that waits for its PONG or for the commit. -/
theorem Phase.counts {platform : Platform} {conn : Conn} {keys : AppKeys} {now : Conversation}
    (h : Phase platform conn keys now) :
    Resting now ∨ now.pings = now.pongs + 1 ∧ now.pongs = now.state.store.v1Cp4TxP2c.toNat ∨
      Underway now false false 1 ∧ now.state.store.v1Cp4Ready = true ∧
        now.state.worker = .cp4Settle (some conn) now.state.main.v1Cp3Generation true := by
  have hwaiting : ∀ {inJob inSlot}, Underway now inJob inSlot 0 →
      now.pings = now.pongs + 1 ∧ now.pongs = now.state.store.v1Cp4TxP2c.toNat := fun underway ↦
    ⟨by rw [underway.pings, underway.pongs, Nat.add_zero], underway.pongs⟩
  cases h with
  | rested rest => exact .inl rest
  | settle worker underway prepared => exact .inr (.inr ⟨underway, prepared, worker⟩)
  | queued worker underway => exact .inr (.inl (hwaiting underway))
  | live worker underway => exact .inr (.inl (hwaiting underway))
  | snapshot worker underway => exact .inr (.inl (hwaiting underway))
  | recheck challenge worker underway => exact .inr (.inl (hwaiting underway))
  | encrypt challenge worker underway => exact .inr (.inl (hwaiting underway))
  | ready wire worker underway => exact .inr (.inl (hwaiting underway))
  | done wire worker underway => exact .inr (.inl (hwaiting underway))
  | callback wire worker underway => exact .inr (.inl (hwaiting underway))
  | check wire worker underway => exact .inr (.inl (hwaiting underway))
  | send wire worker underway => exact .inr (.inl (hwaiting underway))

/-- What holds between any two steps of an honest session. -/
structure Flowing (platform : Platform) (conn : Conn) (keys : AppKeys) (now : Conversation) : Prop where
  linked : Linked conn now.state.main
  keyed : Keyed platform keys now.state.store
  phase : Phase platform conn keys now

/-! ## The cipher calls -/

section Calls

variable {platform : Platform} {store : Store} {view : WorkerView} {keys : AppKeys}

theorem pqV1Cp4Iv_of_mac (crypto : Crypto) {faults : Faults} (hmac : ∀ key data, faults.mac key data = false)
    (version : UInt8) (key : Block 32) (sid : Block 16) {direction : UInt8} (happ : IsApp direction) :
    ∃ iv, pqV1Cp4Iv crypto faults version key sid direction = .ok iv := by
  simp [pqV1Cp4Iv, require_bind_of happ, pqCryptoMac, hmac, orFail_some_bind, pure, Except.pure]

theorem length_cp4Wire {version direction msgType : UInt8} {seq : UInt64} {sealed : Bytes}
    (hsealed : sealed.length = 32) : (cp4Wire version direction seq msgType sealed).length = pqV1Cp4FrameSize := by
  rw [cp4Wire, length_v1Frame, List.length_append, length_cp4Prefix, hsealed]
  rfl

theorem pongWire_cp4Wire {seq : UInt64} {sealed : Bytes} (hsealed : sealed.length = 32) :
    PongWire platform (cp4Wire platform.version pqV1AppP2c seq pqV1Cp4Pong sealed) where
  valid := by
    have hparse : pqV1Cp4Parse platform.version (cp4Wire platform.version pqV1AppP2c seq pqV1Cp4Pong sealed)
        pqV1AppP2c = .ok ⟨seq, pqV1Cp4Pong, 16, sealed⟩ :=
      pqV1Cp4Parse_eq_ok_iff.mpr ⟨by decide, show 16 ≤ pqV1Cp4MaxPlaintext by decide, hsealed, rfl⟩
    rw [validPong, hparse]
    rfl
  length := length_cp4Wire hsealed

/-- A valid PING is decrypted. -/
theorem openPing_of_valid (hview : view.Faultless) (hkeyed : Keyed platform keys store)
    (hbelow : store.v1Cp4TxP2c ≠ uint64Max) (hping : ValidPing platform keys store.v1Cp4TxP2c store.v1Cp4WireJob) :
    ∃ challenge, challenge.length = 16 ∧ openPing platform store store.cp4Snapshot view = .ok challenge := by
  obtain ⟨challenge, hlength, hencrypt⟩ := hping
  obtain ⟨-, happ, -, -, sealed, hsealed, hsize, hwire⟩ := pqV1Cp4Encrypt_eq_ok_iff.mp hencrypt
  obtain ⟨iv, hiv⟩ := pqV1Cp4Iv_of_mac platform.crypto hview.mac platform.version store.v1Cp3Application.c2p
    store.v1Cp3SessionId happ
  have hbase : iv = keys.ivC2p := by rw [← hkeyed.keys]; exact pqV1Cp4Iv_c2p_eq_ok hiv
  have hkey : store.v1Cp3Application.c2p = keys.c2p := by rw [← hkeyed.keys]; rfl
  have hsid : store.v1Cp3SessionId = keys.sid := by rw [← hkeyed.keys]; rfl
  refine ⟨challenge, hlength, except_bind_eq_ok_iff.mpr ⟨iv, hiv, ?_⟩⟩
  refine (pqV1Cp4Decrypt_eq_ok_iff le_rfl).mpr ⟨hview.aead, sealed, ?_⟩
  simp only [Store.cp4Snapshot, hkeyed.counters, hbase, hkey, hsid]
  exact ⟨happ, hwire, by rw [hsize, hlength], by rw [hsealed, hlength]; exact platform.aead.decrypt_encrypt _ _ _ _,
    hlength, hbelow⟩

/-- A PONG is encrypted. -/
theorem sealPong_of_length (snapshot : Cp4Snapshot) {challenge : Bytes} (hview : view.Faultless)
    (hlength : challenge.length = 16) :
    ∃ wire, PongWire platform wire ∧ sealPong platform snapshot challenge view = .ok wire := by
  obtain ⟨iv, hiv⟩ := pqV1Cp4Iv_of_mac platform.crypto hview.mac platform.version snapshot.app.p2c snapshot.sid
    (.inr rfl : IsApp pqV1AppP2c)
  have hsize := platform.aead.length_encrypt snapshot.app.p2c (pqV1Cp4Nonce iv snapshot.tx)
    (cp4Aad platform.version snapshot.sid pqV1AppP2c snapshot.tx pqV1Cp4Pong challenge.length) challenge
  rw [hlength] at hsize
  refine ⟨cp4Wire platform.version pqV1AppP2c snapshot.tx pqV1Cp4Pong _, pongWire_cp4Wire hsize, except_bind_eq_ok_iff.mpr ⟨iv, hiv, ?_⟩⟩
  refine pqV1Cp4Encrypt_eq_ok_iff.mpr ⟨hview.aead, by decide, by rw [hlength]; decide, by rw [hlength]; decide,
    _, rfl, by rw [hlength]; exact hsize, by rw [hlength]⟩

end Calls

/-! ## The steps of the worker -/

section Worker

variable {platform : Platform} {conn : Conn} {keys : AppKeys} {now : Conversation} {view : WorkerView}

/-- One step of the worker within the conversation. -/
def Conversation.worker (platform : Platform) (now : Conversation) (view : WorkerView) : Conversation :=
  ((conversation platform).step now (.worker view)).2

theorem Conversation.worker_of_eq {output : Output} {state : State}
    (h : now.state.workerStep platform view = (output, state)) :
    now.worker platform view =
      { state, pings := now.pings, pongs := if output.queued.isSome then now.pongs + 1 else now.pongs } := by
  simp only [Conversation.worker, conversation, firmware, h]
  rfl

/-- Nothing is left to do. -/
theorem worker_rested (hworker : now.state.worker = .idle) (hqueued : now.state.store.jobPending = false) :
    now.worker platform view = now := by
  have hstep : now.state.workerStep platform view = ({}, now.state) := by
    rw [State.workerStep, hworker]
    simp only [State.takeJob, hqueued, true_or, if_true]
    rw [← hqueued]
  rw [Conversation.worker_of_eq hstep]
  rfl

/-- The worker takes the PING. -/
theorem Flowing.queued (h : Flowing platform conn keys now) (hworker : now.state.worker = .idle)
    (hunderway : Underway now true true 0) (hmode : now.state.store.pendingJobMode = .v1Cp4C2p)
    (hunready : now.state.store.v1Cp4Ready = false)
    (hping : ValidPing platform keys now.state.store.v1Cp4TxP2c now.state.store.v1Cp4WireJob) :
    Flowing platform conn keys (now.worker platform view) := by
  have hstep : now.state.workerStep platform view = ({}, { now.state with
      store := now.state.store.takeJob
      worker := .cp4Live now.state.store.pendingV1Cp3Epoch
      workerGeneration := now.state.jobGeneration
      workerEpoch := now.state.store.pendingV1Cp3Epoch }) := by
    rw [State.workerStep, hworker]
    simp [State.takeJob, hunderway.queued, h.keyed.ready, State.takenWorker, hmode, hunderway.epoch]
  rw [Conversation.worker_of_eq hstep]
  obtain ⟨hworking, hdelivery, -, hpending, hepoch, hbelow, hpings, hpongs⟩ := hunderway
  exact ⟨h.linked, ⟨h.keyed.ready, h.keyed.secure, h.keyed.keys, h.keyed.counters⟩,
    .live rfl ⟨hworking, hdelivery, rfl, hpending, hepoch, hbelow, hpings, hpongs⟩ hunready hping⟩

/-- The liveness checks of the job pass. -/
theorem Flowing.jobLive (h : Flowing platform conn keys now) {link : LinkView} (hlink : Steady link)
    (hworking : now.state.main.v1Cp3WorkerActive = true) :
    now.state.pqV1Cp4JobLive link = (true, now.state) := by
  rw [State.pqV1Cp4JobLive, if_pos ⟨hworking, by rw [h.linked.owner]; exact h.linked.live hlink⟩]

theorem Flowing.live (h : Flowing platform conn keys now) (hview : view.Faultless)
    (hworker : now.state.worker = .cp4Live now.state.store.pendingV1Cp3Epoch)
    (hunderway : Underway now true false 0) (hunready : now.state.store.v1Cp4Ready = false)
    (hping : ValidPing platform keys now.state.store.v1Cp4TxP2c now.state.store.v1Cp4WireJob) :
    Flowing platform conn keys (now.worker platform view) := by
  have hstep : now.state.workerStep platform view =
      ({}, now.state.goto (.cp4Snapshot now.state.store.pendingV1Cp3Epoch)) := by
    rw [State.workerStep, hworker]
    simp [h.jobLive hview.first hunderway.working]
  rw [Conversation.worker_of_eq hstep]
  obtain ⟨hworking, hdelivery, hqueued, hpending, hepoch, hbelow, hpings, hpongs⟩ := hunderway
  exact ⟨h.linked, h.keyed,
    .snapshot rfl ⟨hworking, hdelivery, hqueued, hpending, hepoch, hbelow, hpings, hpongs⟩ hunready hping⟩

/-- The worker decrypts the PING. -/
theorem Flowing.snapshot (h : Flowing platform conn keys now) (hview : view.Faultless)
    (hworker : now.state.worker = .cp4Snapshot now.state.store.pendingV1Cp3Epoch)
    (hunderway : Underway now true false 0) (hunready : now.state.store.v1Cp4Ready = false)
    (hping : ValidPing platform keys now.state.store.v1Cp4TxP2c now.state.store.v1Cp4WireJob) :
    Flowing platform conn keys (now.worker platform view) := by
  obtain ⟨challenge, hlength, hopen⟩ := openPing_of_valid hview h.keyed hunderway.below hping
  have hstep : now.state.workerStep platform view =
      ({}, (now.state.goto (.cp4Recheck now.state.store.pendingV1Cp3Epoch now.state.store.cp4Snapshot
        challenge)).report (.opened ⟨now.state.store.v1Cp4RxC2p, challenge, now.state.store.v1Cp4WireJob⟩)) := by
    rw [State.workerStep, hworker]
    simp only [State.snapshotCp4]
    rw [if_pos ⟨hunderway.epoch, h.keyed.secure, hunderway.pending, hunready⟩]
    simp only [Store.cp4Snapshot] at hopen
    simp only [hopen]
    rfl
  rw [Conversation.worker_of_eq hstep]
  obtain ⟨hworking, hdelivery, hqueued, hpending, hepoch, hbelow, hpings, hpongs⟩ := hunderway
  exact ⟨h.linked, h.keyed,
    .recheck challenge rfl ⟨hworking, hdelivery, hqueued, hpending, hepoch, hbelow, hpings, hpongs⟩ hlength⟩

theorem Flowing.recheck (h : Flowing platform conn keys now) (hview : view.Faultless) {challenge : Bytes}
    (hworker : now.state.worker =
      .cp4Recheck now.state.store.pendingV1Cp3Epoch now.state.store.cp4Snapshot challenge)
    (hunderway : Underway now true false 0) (hlength : challenge.length = 16) :
    Flowing platform conn keys (now.worker platform view) := by
  have hstep : now.state.workerStep platform view = ({}, now.state.goto
      (.cp4Encrypt now.state.store.pendingV1Cp3Epoch now.state.store.cp4Snapshot challenge)) := by
    rw [State.workerStep, hworker]
    simp [h.jobLive hview.first hunderway.working]
  rw [Conversation.worker_of_eq hstep]
  obtain ⟨hworking, hdelivery, hqueued, hpending, hepoch, hbelow, hpings, hpongs⟩ := hunderway
  exact ⟨h.linked, h.keyed,
    .encrypt challenge rfl ⟨hworking, hdelivery, hqueued, hpending, hepoch, hbelow, hpings, hpongs⟩ hlength⟩

/-- The worker encrypts the PONG. -/
theorem Flowing.encrypt (h : Flowing platform conn keys now) (hview : view.Faultless) {challenge : Bytes}
    (hworker : now.state.worker =
      .cp4Encrypt now.state.store.pendingV1Cp3Epoch now.state.store.cp4Snapshot challenge)
    (hunderway : Underway now true false 0) (hlength : challenge.length = 16) :
    Flowing platform conn keys (now.worker platform view) := by
  obtain ⟨wire, hpong, hseal⟩ : ∃ wire, PongWire platform wire ∧
      sealPong platform now.state.store.cp4Snapshot challenge view = .ok wire :=
    sealPong_of_length now.state.store.cp4Snapshot hview hlength
  have hstep : now.state.workerStep platform view =
      ({}, (now.state.goto (.cp4Ready now.state.store.pendingV1Cp3Epoch wire)).report
        (.sealed ⟨now.state.store.cp4Snapshot.tx, challenge, wire⟩)) := by
    rw [State.workerStep, hworker]
    simp only [State.encryptCp4, hseal]
  rw [Conversation.worker_of_eq hstep]
  obtain ⟨hworking, hdelivery, hqueued, hpending, hepoch, hbelow, hpings, hpongs⟩ := hunderway
  exact ⟨h.linked, h.keyed,
    .ready wire rfl ⟨hworking, hdelivery, hqueued, hpending, hepoch, hbelow, hpings, hpongs⟩ hpong⟩

theorem Flowing.ready (h : Flowing platform conn keys now) {wire : Bytes}
    (hworker : now.state.worker = .cp4Ready now.state.store.pendingV1Cp3Epoch wire)
    (hunderway : Underway now true false 0) (hpong : PongWire platform wire) :
    Flowing platform conn keys (now.worker platform view) := by
  have hstep : now.state.workerStep platform view = ({}, { now.state with
      store := { now.state.store with v1Cp4Ready := true }
      worker := .jobDone .v1Cp4C2p now.state.store.pendingV1Cp3Epoch .success wire }) := by
    rw [State.workerStep, hworker]
    simp only [State.readyCp4]
    rw [if_pos ⟨hunderway.epoch, h.keyed.secure, hunderway.pending⟩]
  rw [Conversation.worker_of_eq hstep]
  obtain ⟨hworking, hdelivery, hqueued, hpending, hepoch, hbelow, hpings, hpongs⟩ := hunderway
  exact ⟨h.linked, ⟨h.keyed.ready, h.keyed.secure, h.keyed.keys, h.keyed.counters⟩,
    .done wire rfl ⟨hworking, hdelivery, hqueued, hpending, hepoch, hbelow, hpings, hpongs⟩ rfl hpong⟩

theorem Flowing.done (h : Flowing platform conn keys now) {wire : Bytes}
    (hworker : now.state.worker = .jobDone .v1Cp4C2p now.state.store.pendingV1Cp3Epoch .success wire)
    (hunderway : Underway now true false 0) (hready : now.state.store.v1Cp4Ready = true)
    (hpong : PongWire platform wire) : Flowing platform conn keys (now.worker platform view) := by
  have hstep : now.state.workerStep platform view = ({}, { now.state with
      store := now.state.store.finishJob .v1Cp4C2p, worker := .cp4Callback .success wire }) := by
    rw [State.workerStep, hworker]
    simp [State.finishJob, hunderway.epoch]
  rw [Conversation.worker_of_eq hstep]
  obtain ⟨hworking, hdelivery, hqueued, hpending, hepoch, hbelow, hpings, hpongs⟩ := hunderway
  exact ⟨h.linked, ⟨h.keyed.ready, h.keyed.secure, h.keyed.keys, h.keyed.counters⟩,
    .callback wire rfl ⟨hworking, hdelivery, hqueued, hpending, hepoch, hbelow, hpings, hpongs⟩ hready rfl hpong⟩

/-! The result callback checks the link twice, notifies the PONG and commits its counters. -/

theorem Flowing.callback (h : Flowing platform conn keys now) (hview : view.Faultless) {wire : Bytes}
    (hworker : now.state.worker = .cp4Callback .success wire) (hunderway : Underway now true false 0)
    (hready : now.state.store.v1Cp4Ready = true) (hfree : now.state.store.jobActive = false)
    (hpong : PongWire platform wire) : Flowing platform conn keys (now.worker platform view) := by
  have hlive := h.linked.live hview.first
  have hstep : now.state.workerStep platform view = ({}, { now.state with
      main := { now.state.main with v1Cp3WorkerActive := false, v1Cp3DeliveryActive := true }
      worker := .cp4Check conn now.state.main.v1Cp3Generation wire }) := by
    rw [State.workerStep, hworker]
    simp [State.callbackCp4, h.linked.owner, hlive, hunderway.working, hpong.valid]
  rw [Conversation.worker_of_eq hstep]
  obtain ⟨-, -, hqueued, hpending, hepoch, hbelow, hpings, hpongs⟩ := hunderway
  obtain ⟨hcurrent, howner, hgeneration, hsecure, hnotify, hcp2, hjob⟩ := h.linked
  exact ⟨⟨hcurrent, howner, hgeneration, hsecure, hnotify, hcp2, hjob⟩, h.keyed,
    .check wire rfl ⟨rfl, rfl, hqueued, hpending, hepoch, hbelow, hpings, hpongs⟩ hready hfree hpong⟩

theorem Flowing.check (h : Flowing platform conn keys now) (hview : view.Faultless) {wire : Bytes}
    (hworker : now.state.worker = .cp4Check conn now.state.main.v1Cp3Generation wire)
    (hunderway : Underway now false false 0) (hready : now.state.store.v1Cp4Ready = true)
    (hfree : now.state.store.jobActive = false) (hpong : PongWire platform wire) :
    Flowing platform conn keys (now.worker platform view) := by
  have hstep : now.state.workerStep platform view =
      ({}, now.state.goto (.cp4Send conn now.state.main.v1Cp3Generation true wire)) := by
    rw [State.workerStep, hworker]
    simp [h.linked.live hview.first]
  rw [Conversation.worker_of_eq hstep]
  obtain ⟨hworking, hdelivery, hqueued, hpending, hepoch, hbelow, hpings, hpongs⟩ := hunderway
  exact ⟨h.linked, h.keyed,
    .send wire rfl ⟨hworking, hdelivery, hqueued, hpending, hepoch, hbelow, hpings, hpongs⟩ hready hfree hpong⟩

/-- The PONG is notified. -/
theorem Flowing.send (h : Flowing platform conn keys now) (hview : view.Faultless) {wire : Bytes}
    (hworker : now.state.worker = .cp4Send conn now.state.main.v1Cp3Generation true wire)
    (hunderway : Underway now false false 0) (hready : now.state.store.v1Cp4Ready = true)
    (hfree : now.state.store.jobActive = false) (hpong : PongWire platform wire) :
    Flowing platform conn keys (now.worker platform view) := by
  have hnotified : notified view.send wire = true := by
    simp [notified, hview.send.l4, hview.send.subscribed, hview.sent, hpong.length, hview.send.mtu]
  have hstep : now.state.workerStep platform view =
      ({ queued := some (conn, wire) },
        (now.state.goto (.cp4Settle (some conn) now.state.main.v1Cp3Generation true)).report .delivered) := by
    rw [State.workerStep, hworker]
    simp [hnotified, queuedTo]
  rw [Conversation.worker_of_eq hstep]
  obtain ⟨hworking, hdelivery, hqueued, hpending, hepoch, hbelow, hpings, hpongs⟩ := hunderway
  exact ⟨h.linked, h.keyed, .settle rfl
    ⟨hworking, hdelivery, hqueued, hpending, hepoch, hbelow, hpings, congrArg (· + 1) hpongs⟩ hready hfree⟩

/-- The counters are committed. -/
theorem Flowing.settle_eq (h : Flowing platform conn keys now) (hview : view.Faultless)
    (hworker : now.state.worker = .cp4Settle (some conn) now.state.main.v1Cp3Generation true)
    (hunderway : Underway now false false 1) (hready : now.state.store.v1Cp4Ready = true) :
    now.state.workerStep platform view = ({}, { now.state with
      main := { now.state.main with v1Cp3DeliveryActive := false }
      store := { now.state.store with
        v1Cp4RxC2p := now.state.store.v1Cp4RxC2p + 1
        v1Cp4TxP2c := now.state.store.v1Cp4TxP2c + 1
        v1Cp4Pending := false
        v1Cp4Ready := false }
      worker := .idle
      ledger := recordEvent now.state.ledger .committed }) := by
  have hcommit := commitV1Cp4_eq_ok_iff.mpr ⟨⟨h.keyed.secure, hunderway.pending, hready, hunderway.epoch,
    by rw [h.keyed.counters]; exact hunderway.below, hunderway.below⟩, rfl⟩
  rw [State.workerStep, hworker]
  simp [State.settleCp4, h.linked.live hview.first, hcommit, State.report, State.drain, h.linked.secure]

theorem Flowing.settle (h : Flowing platform conn keys now) (hview : view.Faultless)
    (hworker : now.state.worker = .cp4Settle (some conn) now.state.main.v1Cp3Generation true)
    (hunderway : Underway now false false 1) (hready : now.state.store.v1Cp4Ready = true)
    (hfree : now.state.store.jobActive = false) : Flowing platform conn keys (now.worker platform view) := by
  have hstep := h.settle_eq hview hworker hunderway hready
  obtain ⟨hworking, -, hqueued, -, -, hbelow, hpings, hpongs⟩ := hunderway
  have hnext := toNat_add_one_of_ne hbelow
  rw [Conversation.worker_of_eq hstep]
  obtain ⟨hcurrent, howner, hgeneration, hsecure, hnotify, hcp2, hjob⟩ := h.linked
  exact ⟨⟨hcurrent, howner, hgeneration, hsecure, hnotify, hcp2, hjob⟩,
    ⟨h.keyed.ready, h.keyed.secure, h.keyed.keys, congrArg (· + 1) h.keyed.counters⟩,
    .rested ⟨rfl, hworking, rfl, hqueued, hfree, rfl, hpings.trans hnext.symm, hpongs.trans hnext.symm⟩⟩

/-- Every step of the worker moves the PING on. -/
theorem Flowing.worker (h : Flowing platform conn keys now) (hview : view.Faultless) :
    Flowing platform conn keys (now.worker platform view) := by
  cases h.phase with
  | rested rest => rwa [worker_rested rest.worker rest.queued]
  | queued worker underway mode unready ping => exact h.queued worker underway mode unready ping
  | live worker underway unready ping => exact h.live hview worker underway unready ping
  | snapshot worker underway unready ping => exact h.snapshot hview worker underway unready ping
  | recheck challenge worker underway length => exact h.recheck hview worker underway length
  | encrypt challenge worker underway length => exact h.encrypt hview worker underway length
  | ready wire worker underway pong => exact h.ready worker underway pong
  | done wire worker underway prepared pong => exact h.done worker underway prepared pong
  | callback wire worker underway prepared free pong => exact h.callback hview worker underway prepared free pong
  | check wire worker underway prepared free pong => exact h.check hview worker underway prepared free pong
  | send wire worker underway prepared free pong => exact h.send hview worker underway prepared free pong
  | settle worker underway prepared free => exact h.settle hview worker underway prepared free

end Worker

/-! ## The other steps -/

section Steps

variable {platform : Platform} {conn : Conn} {keys : AppKeys} {now : Conversation}

/-- An application frame reaches `handle_v1_cp4`. -/
theorem writeControl_application {state : State} {data : Bytes} {view : ControlView}
    (hversion : platform.version = pqV10) (hgate : view.gate.l4 = true)
    (happ : 6 ≤ data.length ∧ data.take 4 = v1Magic ∧ IsApp (data.getD 5 0)) :
    (firmware platform).step state (.writeControl conn data 0 view) =
      answered (state.handleV1Cp4 platform conn data view) := by
  have hprofile : platform.version ≠ Resumption.pqResumeV11 := by rw [hversion]; decide
  obtain ⟨hlength, hmagic, hsubtype⟩ := happ
  have hframe : view.ready = true ∨ (6 ≤ data.length ∧ IsApp (data.getD 5 0)) := .inr ⟨hlength, hsubtype⟩
  have hlong : 4 ≤ data.length := by omega
  simp only [firmware, State.writeControl, hgate, hprofile, hmagic, hlong, State.handleV1Control, if_pos hframe]
  simp

/-- A PING of the next sequence number is accepted by a session at rest. -/
theorem Flowing.ping (h : Flowing platform conn keys now) {wire : Bytes} {view : ControlView}
    (hversion : platform.version = pqV10) (hgate : view.gate.l4 = true) (hfirst : Steady view.first)
    (hsecond : Steady view.second) (hdelivery : now.state.main.v1Cp3DeliveryActive = false)
    (hcounts : now.pongs = now.pings) (hbelow : now.pings < uint64Max.toNat)
    (hping : ValidPing platform keys (UInt64.ofNat now.pings) wire) :
    ((conversation platform).step now (.writeControl conn wire 0 view)).1.result = some (.ok ()) ∧
      Flowing platform conn keys ((conversation platform).step now (.writeControl conn wire 0 view)).2 := by
  have hrest : Resting now := by
    rcases h.phase.counts with hrest | ⟨hone, -⟩ | ⟨hunderway, -⟩
    · exact hrest
    · exact absurd (hone.trans (congrArg (· + 1) hcounts)) (Nat.ne_of_lt (Nat.lt_succ_self _))
    · exact Bool.noConfusion (hdelivery.symm.trans hunderway.delivery)
  have hmax : now.state.store.v1Cp4TxP2c ≠ uint64Max := by
    rintro hmax
    rw [hrest.pings, hmax] at hbelow
    exact lt_irrefl _ hbelow
  have hseq : UInt64.ofNat now.pings = now.state.store.v1Cp4TxP2c := by rw [hrest.pings, UInt64.ofNat_toNat]
  rw [hseq] at hping
  have hvalid := hping
  obtain ⟨challenge, hsixteen, hencrypt⟩ := hping
  obtain ⟨-, -, -, -, sealed, -, hsize, rfl⟩ := pqV1Cp4Encrypt_eq_ok_iff.mp hencrypt
  rw [hsixteen] at hsize
  have hsubmit : now.state.store.submitV1Cp4 platform.version
      (cp4Wire platform.version pqV1AppC2p now.state.store.v1Cp4TxP2c pqV1Cp4Ping sealed) = .ok _ :=
    submitV1Cp4_eq_ok_iff.mpr ⟨sealed, hsize, by rw [h.keyed.counters], ⟨h.keyed.secure, hrest.queued, hrest.free, hrest.pending,
      by rw [h.keyed.counters]; exact hmax, hmax⟩, rfl⟩
  have hlength : (cp4Wire platform.version pqV1AppC2p now.state.store.v1Cp4TxP2c pqV1Cp4Ping sealed).length =
      pqV1Cp4FrameSize := length_cp4Wire hsize
  have hroom : ¬view.second.mtu < pqV1Cp4FrameSize + 3 := not_lt.mpr hsecond.mtu
  have hstep : (firmware platform).step now.state (.writeControl conn
      (cp4Wire platform.version pqV1AppC2p now.state.store.v1Cp4TxP2c pqV1Cp4Ping sealed) 0 view) = _ :=
    writeControl_application hversion hgate ⟨by rw [hlength]; decide, rfl, .inl rfl⟩
  rw [State.handleV1Cp4, hlength, if_neg (by simp [h.linked.live hfirst, hrest.working, hdelivery, h.linked.cp2,
    h.linked.job, hroom]), hsubmit] at hstep
  simp only [conversation, hstep]
  refine ⟨rfl, ?_⟩
  obtain ⟨hcurrent, howner, hgeneration, hsecure, hnotify, hcp2, hjob⟩ := h.linked
  exact ⟨⟨hcurrent, howner, hgeneration, hsecure, hnotify, hcp2, hjob⟩,
    ⟨h.keyed.ready, h.keyed.secure, h.keyed.keys, h.keyed.counters⟩,
    .queued hrest.worker ⟨rfl, hdelivery, rfl, rfl, .refl _, hmax, congrArg (· + 1) hrest.pings, hrest.pongs⟩ rfl rfl
      hvalid⟩

theorem writeCiphertext_secure {state : State} {owner : Conn} {data : Bytes} {offset : ℕ} {busy : Bool}
    {view : LinkView} (hsecure : state.main.v1Cp3State = .appSecure) :
    (state.writeCiphertext platform owner data offset busy view).2 = state := by
  unfold State.writeCiphertext
  split
  · rfl
  split
  · rfl
  split
  · rfl
  dsimp only
  split
  · rfl
  rw [if_pos (.inl (by rw [hsecure]; exact nofun))]

/-- Every other action of an honest session leaves the firmware as it is. -/
theorem Flowing.aside (h : Flowing platform conn keys now) {action : Action} (hversion : platform.version = pqV10)
    (honest : Honest platform conn keys now action) (hping : action.isPing = false)
    (hworker : ∀ view, action ≠ .worker view) :
    ((firmware platform).step now.state action).2 = now.state ∧
      ((firmware platform).step now.state action).1.queued = none := by
  have hprofile : platform.version ≠ Resumption.pqResumeV11 := by rw [hversion]; decide
  have hnotify : now.state.cccConfigChanged platform true = fun _ ↦ now.state := by
    funext time
    simp only [State.cccConfigChanged, if_true]
    rw [← h.linked.notify]
  cases action with
  | readPublicKey owner busy view => exact ⟨rfl, rfl⟩
  | writeCiphertext owner data offset busy view => exact ⟨writeCiphertext_secure h.linked.secure, rfl⟩
  | writeSecureData owner data offset view => exact ⟨rfl, rfl⟩
  | writeControl owner data offset view => cases hping
  | readCcc owner view => exact ⟨rfl, rfl⟩
  | writeCcc owner enabled view =>
    obtain rfl : enabled = true := honest
    refine ⟨?_, rfl⟩
    simp only [firmware, answered, State.writeCcc, hnotify]
    split <;> rfl
  | cccConfigChanged enabled time =>
    obtain rfl : enabled = true := honest
    exact ⟨by simp only [firmware, hnotify], rfl⟩
  | serviceAbort owner time => exact ⟨by simp only [firmware, State.serviceAbort, if_neg hprofile], rfl⟩
  | securityChanged owner secured =>
    refine ⟨?_, rfl⟩
    simp only [firmware, State.v1Cp2SecurityChanged]
    rw [if_pos]
    rcases honest with hsecured | hother
    · exact .inl hsecured
    · exact .inr (by rw [h.linked.current]; exact fun hsame ↦ hother (Option.some.inj hsame).symm)
  | bondChanged time => exact ⟨by simp only [firmware, State.onService, if_neg hprofile], rfl⟩
  | expire clock₁ clock₂ clock₃ => exact ⟨by simp only [firmware, State.onService, if_neg hprofile], rfl⟩
  | timeout view => exact ⟨by simp [firmware, State.v1Cp3Timeout, h.linked.secure], rfl⟩
  | connected owner bonded clock time => cases honest
  | disconnected owner time =>
    refine ⟨?_, rfl⟩
    have hother : now.state.main.currentConn ≠ some owner := by
      rw [h.linked.current]
      exact fun hsame ↦ honest (Option.some.inj hsame).symm
    simp only [firmware, State.disconnected, if_neg hother, h.linked.job, reduceCtorEq, if_false]
    rw [← h.linked.job]
  | worker view => exact absurd rfl (hworker view)

/-- **Every step of an honest session that meets the condition keeps it flowing.** -/
theorem Flowing.step (h : Flowing platform conn keys now) {action : Action} (hversion : platform.version = pqV10)
    (honest : Honest platform conn keys now action) (hdrained : Drained now action) :
    Accepted platform now action ∧ Flowing platform conn keys ((conversation platform).step now action).2 := by
  cases action with
  | writeControl owner wire offset view =>
    obtain ⟨rfl, rfl, hgate, hfirst, hsecond, hcounts, hbelow, hping⟩ := honest
    obtain ⟨haccepted, hflowing⟩ := h.ping hversion hgate hfirst hsecond (hdrained rfl) hcounts hbelow hping
    exact ⟨fun _ ↦ haccepted, hflowing⟩
  | worker view =>
    have hnext : Flowing platform conn keys (now.worker platform view) := h.worker honest
    exact ⟨nofun, hnext⟩
  | _ =>
    obtain ⟨hstate, hqueued⟩ := h.aside hversion honest rfl (fun _ hsame ↦ by cases hsame)
    refine ⟨nofun, ?_⟩
    simp only [conversation, hstate, hqueued]
    exact h

/-- The counters follow the PONGs. -/
theorem Flowing.secured (h : Flowing platform conn keys now) : Secured platform keys now where
  state := h.linked.secure
  secure := h.keyed.secure
  keys := h.keyed.keys
  committed := by
    rcases h.phase.counts with hrest | ⟨-, hpongs⟩ | ⟨hunderway, hready, hworker⟩
    · exact .inl hrest.pongs.symm
    · exact .inl hpongs.symm
    · refine .inr ⟨hunderway.pongs.symm, fun view hview ↦ ?_⟩
      rw [h.settle_eq hview hworker hunderway hready, hunderway.pongs]
      exact toNat_add_one_of_ne hunderway.below

end Steps

/-! ## The start of a session -/

section Entry

variable {platform : Platform} {state : State} {main main' : Main}

/-- A handshake or a session in progress keeps CP2 jobs out. -/
def Exclusive (main : Main) : Prop :=
  main.v1Cp3State ≠ .idle ∨ main.v1Cp3WorkerActive = true ∨ main.v1Cp3DeliveryActive = true →
    main.v1Cp2Active = false ∧ main.cryptoJobConn = none

theorem Exclusive.mono (h : Exclusive main) (hstate : main'.v1Cp3State ≠ .idle → main.v1Cp3State ≠ .idle)
    (hworking : main'.v1Cp3WorkerActive = true → main.v1Cp3WorkerActive = true)
    (hdelivery : main'.v1Cp3DeliveryActive = true →
      main.v1Cp3DeliveryActive = true ∨ main.v1Cp3WorkerActive = true)
    (hcp2 : main.v1Cp2Active = false → main'.v1Cp2Active = false)
    (hconn : main.cryptoJobConn = none → main'.cryptoJobConn = none) : Exclusive main' := by
  intro hengaged
  have hbefore : main.v1Cp3State ≠ .idle ∨ main.v1Cp3WorkerActive = true ∨ main.v1Cp3DeliveryActive = true := by
    rcases hengaged with hnow | hnow | hnow
    · exact .inl (hstate hnow)
    · exact .inr (.inl (hworking hnow))
    · exact .inr ((hdelivery hnow).symm)
  exact ⟨hcp2 (h hbefore).1, hconn (h hbefore).2⟩

theorem Exclusive.invalidateV1Cp3 (h : Exclusive state.main) : Exclusive state.invalidateV1Cp3.main := by
  refine h.mono (fun hnow hidle ↦ hnow ?_) id .inl id id
  simp [State.invalidateV1Cp3, hidle]

theorem Exclusive.invalidateV1Cp2 (h : Exclusive state.main) : Exclusive state.invalidateV1Cp2.main :=
  h.mono id id .inl id id

theorem Exclusive.serviceAbort (h : Exclusive state.main) (owner : Option Conn) (time : ℤ) :
    Exclusive (state.serviceAbort platform owner time).main := by
  unfold State.serviceAbort
  split_ifs <;> exact h

theorem Exclusive.handleV1Cp4 (h : Exclusive state.main) {conn : Conn} {view : ControlView} (wire : Bytes) :
    Exclusive (state.handleV1Cp4 platform conn wire view).2.main := by
  unfold State.handleV1Cp4
  dsimp only
  split_ifs with hguard
  · exact h.invalidateV1Cp3
  split
  · exact h.invalidateV1Cp3
  · simp only [not_or, Bool.not_eq_true, Option.isSome_eq_false_iff, Option.isNone_iff_eq_none] at hguard
    exact fun _ ↦ ⟨hguard.2.2.2.1, hguard.2.2.2.2.1⟩

theorem Exclusive.handleV1Cp3Start (h : Exclusive state.main) {conn : Conn} {view : ControlView} (frame : Bytes) :
    Exclusive (state.handleV1Cp3Start platform conn frame view).2.main := by
  unfold State.handleV1Cp3Start
  split
  · exact h
  · rename_i sec hsec
    simp only [State.cp3StartSecInfo, except_bind_eq_ok_iff, require_eq_ok_iff, exists_and_left, exists_const] at hsec
    obtain ⟨-, ⟨-, -, -, hcp2, hconn, -⟩, -⟩ := hsec
    dsimp only
    split_ifs
    · exact h
    split
    · exact h
    · exact fun _ ↦ ⟨hcp2, hconn⟩

theorem Exclusive.handleV1Cp3FinishedC (h : Exclusive state.main) {conn : Conn} {view : ControlView} (frame : Bytes) :
    Exclusive (state.handleV1Cp3FinishedC platform conn frame view).2.main := by
  unfold State.handleV1Cp3FinishedC
  dsimp only
  split_ifs with hguard
  · exact h
  · exact h.invalidateV1Cp3
  · exact h
  split
  · exact h.invalidateV1Cp3
  · rw [not_or, not_not] at hguard
    exact fun _ ↦ h (.inl (by rw [hguard.1]; exact nofun))

theorem Exclusive.handleV1Cp2Start (h : Exclusive state.main) {conn : Conn} {view : ControlView} (sid : Bytes) :
    Exclusive (state.handleV1Cp2Start conn sid view).2.main := by
  unfold State.handleV1Cp2Start
  split_ifs
  · exact h
  split
  · exact h
  rename_i hready
  simp only [State.cp2StartReady, except_bind_eq_ok_iff, require_eq_ok_iff, exists_and_left,
    exists_const] at hready
  obtain ⟨-, -, -, -, ⟨hidle, hworking, hdelivery, -⟩, -⟩ := hready
  split
  · exact fun _ ↦ ⟨rfl, rfl⟩
  · rintro (hnow | hnow | hnow)
    · exact absurd hidle hnow
    · exact Bool.noConfusion (hworking.symm.trans hnow)
    · exact Bool.noConfusion (hdelivery.symm.trans hnow)

theorem Exclusive.writeControl (h : Exclusive state.main) {conn : Conn} {view : ControlView} (data : Bytes)
    (offset : ℕ) : Exclusive (state.writeControl platform conn data offset view).2.main := by
  have hrefuse : Exclusive state.refuseControl.main := by
    unfold State.refuseControl
    split_ifs
    · exact h.invalidateV1Cp3
    · exact h
  unfold State.writeControl
  dsimp only
  split_ifs
  · exact hrefuse
  · exact hrefuse
  · unfold State.handleService
    split_ifs <;> exact h
  · exact h.serviceAbort _ _
  · exact h
  · unfold State.handleV1Control
    split_ifs
    · exact h.handleV1Cp4 data
    split
    · exact h
    split_ifs
    · split <;> exact h
    · exact h.handleV1Cp3Start data
    · exact h.handleV1Cp3FinishedC data
    · exact h.handleV1Cp2Start _
    · exact h
  · exact h

theorem Exclusive.writeCiphertext (h : Exclusive state.main) {conn : Conn} (data : Bytes) (offset : ℕ) (busy : Bool)
    (view : LinkView) : Exclusive (state.writeCiphertext platform conn data offset busy view).2.main := by
  unfold State.writeCiphertext
  split_ifs
  · exact h
  · exact h
  split
  · exact h
  dsimp only
  split_ifs
  · exact h
  · exact h
  · exact h

theorem Exclusive.cccConfigChanged (h : Exclusive state.main) (enabled : Bool) (time : ℤ) :
    Exclusive (state.cccConfigChanged platform enabled time).main := by
  unfold State.cccConfigChanged
  dsimp only
  split_ifs
  · exact h
  · have habort := @Exclusive.serviceAbort platform
      { state with main := { state.main with notifyEnabled := enabled } } h state.main.currentConn time
    exact habort.invalidateV1Cp2.invalidateV1Cp3

theorem Exclusive.disconnected (h : Exclusive state.main) (conn : Conn) (time : ℤ) :
    Exclusive (state.disconnected platform conn time).main := by
  have hfirst : Exclusive
      (if state.main.currentConn = some conn then state.disconnectCurrent platform conn time else state).main := by
    split_ifs
    · exact h.mono (fun hnow ↦ absurd rfl hnow) id .inl id id
    · exact h
  unfold State.disconnected
  dsimp only
  refine hfirst.mono id id .inl id fun hnone ↦ ?_
  rw [hnone]
  split <;> rfl

theorem Exclusive.drain (h : Exclusive state.main) : Exclusive state.drain.main := by
  unfold State.drain
  dsimp only
  split_ifs
  · exact h.mono id id nofun id id
  · exact h.mono id id nofun id id

theorem Exclusive.settleCp3 (h : Exclusive state.main) {start : Bool} {status : JobStatus} {conn : Option Conn}
    {generation : ℕ} {sent : Bool} {view : WorkerView}
    (hengaged : (start = true ∨ status ≠ .success) ∨ state.main.v1Cp3DeliveryActive = true) :
    Exclusive (state.settleCp3 platform start status conn generation sent view).main := by
  have hmain := main_commitV1Cp3 platform state view
  unfold State.settleCp3
  refine Exclusive.drain ?_
  dsimp only
  by_cases howner : conn.isSome = true ∧ conn = state.main.v1Cp3Conn ∧
      SameU32 generation state.main.connectionGeneration
  · rw [if_pos howner]
    by_cases hfail : sent = false ∨ status ≠ .success ∨
        state.main.v1Cp3Live conn generation view.last = false
    · rw [if_pos hfail]
      exact h.invalidateV1Cp3
    rw [if_neg hfail]
    by_cases hstart : start = true
    · rwa [if_pos hstart]
    rw [if_neg hstart]
    have hdelivery : state.main.v1Cp3DeliveryActive = true := by
      rcases hengaged with (hnow | hnow) | hnow
      · exact absurd hnow hstart
      · exact absurd (.inr (.inl hnow)) hfail
      · exact hnow
    by_cases hcommit : (state.commitV1Cp3 platform view).1 = true
    · rw [if_pos hcommit]
      refine fun _ ↦ ?_
      dsimp only
      rw [hmain]
      exact h (.inr (.inr hdelivery))
    · rw [if_neg hcommit]
      exact Exclusive.invalidateV1Cp3 (by rwa [hmain])
  · rw [if_neg howner]
    split_ifs
    · exact h.invalidateV1Cp3
    · exact h

theorem Exclusive.callbackCp3 (h : Exclusive state.main) {start : Bool} {status : JobStatus} {wire : Bytes}
    {view : WorkerView} (hworking : state.main.v1Cp3WorkerActive = true) :
    Exclusive (state.callbackCp3 platform start status wire view).2.main := by
  have harmed : ∀ next : Cp3State, Exclusive { state.main with
      v1Cp3WorkerActive := false, v1Cp3DeliveryActive := true, v1Cp3State := next } :=
    fun next _ ↦ h (.inr (.inl hworking))
  unfold State.callbackCp3
  dsimp only
  split
  · exact harmed _
  · exact Exclusive.settleCp3 (harmed _) (.inr rfl)

theorem Exclusive.callbackCp4 (h : Exclusive state.main) {status : JobStatus} {wire : Bytes} {view : LinkView}
    (hworking : state.main.v1Cp3WorkerActive = true) :
    Exclusive (state.callbackCp4 platform status wire view).main := by
  unfold State.callbackCp4
  dsimp only
  split <;> exact fun _ ↦ h (.inr (.inl hworking))

theorem Exclusive.settleCp4 (h : Exclusive state.main) {conn : Option Conn} {generation : ℕ} {sent : Bool}
    {view : LinkView} : Exclusive (state.settleCp4 conn generation sent view).main := by
  unfold State.settleCp4
  refine Exclusive.drain ?_
  split_ifs
  · split
    · exact h
    · exact h.invalidateV1Cp3
  · exact h.invalidateV1Cp3

theorem Exclusive.pqV1Cp4JobLive (h : Exclusive state.main) (view : LinkView) :
    Exclusive (state.pqV1Cp4JobLive view).2.main := by
  unfold State.pqV1Cp4JobLive
  split_ifs
  · exact h
  · exact h.invalidateV1Cp3

theorem Exclusive.workerStep (h : Exclusive state.main) (hslotted : Slotted state.core) (view : WorkerView) :
    Exclusive (state.workerStep platform view).2.main := by
  have hjob := hslotted.job
  have htagged := hslotted.tagged
  unfold State.workerStep
  cases hworker : state.worker with
  | idle =>
    dsimp only [State.takeJob]
    split_ifs <;> exact h
  | startResult epoch =>
    dsimp only [State.storeStart]
    split
    · split_ifs <;> exact h
    · exact h
  | finishedTake epoch =>
    dsimp only [State.takeHandshake]
    split_ifs <;> exact h
  | finishedStore epoch handshake =>
    dsimp only [State.storeFinished]
    split
    · split_ifs <;> exact h
    · exact h
  | cp4Live epoch => exact h.pqV1Cp4JobLive view.first
  | cp4Snapshot epoch =>
    dsimp only [State.snapshotCp4]
    split_ifs
    · split <;> exact h
    · exact h
  | cp4Recheck epoch snapshot challenge => exact h.pqV1Cp4JobLive view.first
  | cp4Encrypt epoch snapshot challenge =>
    dsimp only [State.encryptCp4]
    split <;> exact h
  | cp4Ready epoch wire =>
    dsimp only [State.readyCp4]
    split_ifs <;> exact h
  | cp2Result epoch => exact h
  | jobDone mode epoch status wire => exact h
  | cp3Callback start status wire => exact h.callbackCp3 (hjob (by rw [State.core, hworker]; rfl)).1
  | cp3Send start status deliver conn generation wire => exact h
  | cp3Settle start status conn generation sent =>
    rw [State.core, hworker] at htagged
    exact h.settleCp3 (.inl htagged)
  | cp4Callback status wire => exact h.callbackCp4 (hjob (by rw [State.core, hworker]; rfl)).1
  | cp4Check conn generation wire => exact h
  | cp4Send conn generation live wire =>
    dsimp only
    split_ifs <;> exact h
  | cp4Settle conn generation sent => exact h.settleCp4
  | cp2Callback status wire => exact h.mono id id .inl id fun _ ↦ rfl
  | cp2Check status deliver conn generation wire => exact h
  | cp2Send deliver conn wire => exact h
  | cp2Settle => exact h.mono id id .inl (fun _ ↦ rfl) id
  | cp2Release => exact h

/-- Every step keeps CP2 jobs and handshakes apart. -/
theorem Exclusive.step (h : Exclusive state.main) (hslotted : Slotted state.core) (action : Action) :
    Exclusive ((firmware platform).step state action).2.main := by
  cases action with
  | readPublicKey conn busy view => exact h
  | writeCiphertext conn data offset busy view => exact h.writeCiphertext data offset busy view
  | writeSecureData conn data offset view => exact h
  | writeControl conn data offset view => exact h.writeControl data offset
  | readCcc conn view => exact h
  | writeCcc conn enabled view =>
    simp only [firmware, answered, State.writeCcc]
    split
    · exact h
    · exact h.cccConfigChanged enabled view.uptime
  | cccConfigChanged enabled time => exact h.cccConfigChanged enabled time
  | serviceAbort conn time => exact h.serviceAbort (some conn) time
  | securityChanged conn secured =>
    simp only [firmware, State.v1Cp2SecurityChanged]
    split_ifs
    · exact h
    · exact h.invalidateV1Cp2.invalidateV1Cp3
    · exact h.invalidateV1Cp2.invalidateV1Cp3
  | bondChanged time =>
    simp only [firmware, State.onService]
    split_ifs <;> exact h
  | expire clock₁ clock₂ clock₃ =>
    simp only [firmware, State.onService]
    split_ifs <;> exact h
  | timeout view =>
    simp only [firmware, State.v1Cp3Timeout]
    split_ifs
    · exact h.invalidateV1Cp3
    · exact h
  | connected conn bonded clock time => exact h.mono (fun hnow ↦ absurd rfl hnow) id .inl id id
  | disconnected conn time => exact h.disconnected conn time
  | worker view => exact h.workerStep hslotted view

theorem exclusive_run (platform : Platform) (actions : List Action) :
    Exclusive ((firmware platform).run .boot actions).main := by
  have hboth := (firmware platform).run_invariant
    (P := fun state ↦ Slotted state.core ∧ Exclusive state.main)
    (fun state action h ↦ ⟨(move_step platform state action).slotted h.1, h.2.step h.1 action⟩)
    ⟨slotted_boot, fun _ ↦ ⟨rfl, rfl⟩⟩ actions
  exact hboth.2

theorem slot_run (platform : Platform) (actions : List Action) :
    ∃ desk, Matches platform desk ((firmware platform).run .boot actions) := by
  obtain ⟨calls, hcalls⟩ := run_called platform actions
  obtain ⟨desk, -, hmatches⟩ := (slotServer_simulation platform).matches_run (slotServer_simulation platform).start calls
  exact ⟨desk, hcalls ▸ hmatches⟩

/-- What a callback did that entered APP_SECURE. -/
theorem settleCp3_secure {start : Bool} {status : JobStatus} {conn : Option Conn} {generation : ℕ} {sent : Bool}
    {view : WorkerView} (hversion : platform.version = pqV10) (hbefore : state.main.v1Cp3State ≠ .appSecure)
    (hafter : (state.settleCp3 platform start status conn generation sent view).main.v1Cp3State = .appSecure) :
    state.main.v1Cp3Live conn generation view.last = true ∧
      ∃ store, state.store.commitV1Cp3 = .ok store ∧
        state.settleCp3 platform start status conn generation sent view =
          { state with
            main := { state.main with v1Cp3State := .appSecure, v1Cp3DeliveryActive := false }
            store
            worker := .idle } := by
  have hprofile : platform.version ≠ Resumption.pqResumeV11 := by rw [hversion]; decide
  have hdrain : ∀ next : State, next.drain.main.v1Cp3State = next.main.v1Cp3State := by
    intro next
    unfold State.drain
    dsimp only
    split_ifs <;> rfl
  have hinvalid : ∀ next : State, next.invalidateV1Cp3.main.v1Cp3State ≠ .appSecure := by
    intro next
    simp only [State.invalidateV1Cp3]
    split_ifs <;> rintro ⟨⟩
  unfold State.settleCp3 at hafter ⊢
  dsimp only at hafter ⊢
  rw [hdrain] at hafter
  by_cases howner : conn.isSome = true ∧ conn = state.main.v1Cp3Conn ∧
      SameU32 generation state.main.connectionGeneration
  · rw [if_pos howner] at hafter ⊢
    by_cases hfail : sent = false ∨ status ≠ .success ∨
        state.main.v1Cp3Live conn generation view.last = false
    · rw [if_pos hfail] at hafter
      exact absurd hafter (hinvalid _)
    rw [if_neg hfail] at hafter ⊢
    have hlive : state.main.v1Cp3Live conn generation view.last = true :=
      Bool.eq_true_of_not_eq_false fun hdead ↦ hfail (.inr (.inr hdead))
    by_cases hstart : start = true
    · rw [if_pos hstart] at hafter
      exact absurd hafter hbefore
    rw [if_neg hstart] at hafter ⊢
    simp only [State.commitV1Cp3] at hafter ⊢
    cases hcommit : state.store.commitV1Cp3 with
    | error error =>
      simp only [hcommit] at hafter
      exact absurd hafter (hinvalid _)
    | ok store =>
      refine ⟨hlive, store, rfl, ?_⟩
      simp [hprofile, State.drain]
  · rw [if_neg howner] at hafter
    split_ifs at hafter
    · exact absurd hafter (hinvalid _)
    · exact absurd hafter hbefore

/-- The state enters APP_SECURE in the callback of a successful FINISHED_C job only. -/
theorem Move.entered {core core' : Core} (move : Move platform core core') (htagged : core.worker.Tagged)
    (hbefore : core.state ≠ .appSecure) (hafter : core'.state = .appSecure) :
    (∃ wire, core.worker = .cp3Callback false .success wire) ∧ core'.worker = .idle := by
  have hinvalid : core.invalidate.state ≠ .appSecure := by
    simp only [Core.invalidate]
    split_ifs <;> exact nofun
  cases move
  case finishedCommitted wire store worker busy committed => exact ⟨⟨wire, worker⟩, rfl⟩
  case cp3Committed worker committed =>
    rw [worker] at htagged
    rcases htagged with hstart | hstatus
    · exact Bool.noConfusion hstart
    · exact absurd rfl hstatus
  all_goals first
    | exact absurd hafter hbefore
    | exact absurd hafter hinvalid
    | cases hafter

/-- The firmware right after a step that entered APP_SECURE on a connection. -/
structure Entered (platform : Platform) (conn : Conn) (state : State) : Prop where
  entered : ∃ before enter, state = (firmware platform).run .boot (before ++ [enter]) ∧
    ((firmware platform).run .boot before).main.v1Cp3State ≠ .appSecure
  secure : state.main.v1Cp3State = .appSecure
  conn : state.main.currentConn = some conn

/-- The session that starts in a state. -/
def State.session (state : State) : Conversation := ⟨state, 0, 0⟩

/-- A session that was just entered is at rest on a live link. -/
theorem flowing_entered (hversion : platform.version = pqV10) {conn : Conn} (h : Entered platform conn state) :
    Flowing platform conn (state.store.appKeys platform) state.session := by
  obtain ⟨⟨before, enter, hrun, hbefore⟩, hafter, hconn⟩ := h
  have hledgered := ledgered_run platform before
  have hexclusive := exclusive_run platform before
  obtain ⟨desk, hmatches⟩ := slot_run platform before
  rw [(firmware platform).run_append] at hrun
  generalize (firmware platform).run .boot before = last at *
  simp only [Machine.run_cons, Machine.run_nil] at hrun
  subst hrun
  obtain ⟨⟨wire, hworker⟩, hidle⟩ := (move_step platform last enter).entered hledgered.slotted.tagged hbefore hafter
  obtain ⟨view, rfl⟩ : ∃ view, enter = .worker view := by
    by_contra hother
    push Not at hother
    have hsame : ((firmware platform).step last enter).2.worker = last.worker := (step_worker hother).1
    rw [show ((firmware platform).step last enter).2.worker = .idle from hidle,
      show last.worker = _ from hworker] at hsame
    cases hsame
  have hactive := hmatches.active
  obtain ⟨hworking, hqueued⟩ := hledgered.slotted.job (by rw [hworker]; rfl)
  obtain ⟨hcp2, hjob⟩ := hexclusive (.inr (.inl hworking))
  rw [show last.worker = _ from hworker] at hactive
  have hstep : ((firmware platform).step last (.worker view)).2 =
      (last.callbackCp3 platform false .success wire view).2 := by
    simp only [firmware, State.workerStep, show last.worker = _ from hworker]
  rw [hstep] at hafter hconn ⊢
  have hbefore' : last.main.v1Cp3State ≠ .appSecure := hbefore
  unfold State.callbackCp3 at hafter hconn ⊢
  generalize last.main.cp3Delivery platform.version false .success wire view.first = delivery at hafter hconn ⊢
  dsimp only at hafter hconn ⊢
  by_cases hrelease : false = true ∨ delivery.status ≠ .success
  · rw [if_pos hrelease] at hafter
    exact absurd hafter (by simpa [State.goto] using hbefore')
  rw [if_neg hrelease] at hafter hconn ⊢
  obtain ⟨hlive, store, hcommit, hnext⟩ := settleCp3_secure hversion (by simpa using hbefore') hafter
  rw [hnext] at hconn ⊢
  obtain ⟨hpending, rfl⟩ := commitV1Cp3_eq_ok_iff.mp hcommit
  simp only [Main.v1Cp3Live, Bool.and_eq_true, decide_eq_true_eq] at hlive
  obtain ⟨⟨⟨⟨⟨⟨⟨⟨⟨-, hcurrent⟩, howner⟩, hgeneration⟩, hown⟩, -⟩, hnotify⟩, -⟩, -⟩, -⟩ := hlive
  exact
    { linked := ⟨hconn, howner.symm.trans (hcurrent.trans hconn), hown.symm.trans hgeneration, rfl, hnotify, hcp2, hjob⟩
      keyed := ⟨hmatches.ready, rfl, rfl, rfl⟩
      phase := .rested ⟨rfl, rfl, rfl, hqueued, hactive, rfl, rfl, rfl⟩ }

/-! ## Progress -/

/-- **An honest session makes progress when no PING is handled between the notification of a PONG and its commit**:
from the step that entered APP_SECURE on, every PING is accepted, the session stays, and the counters follow every
PONG that was notified. -/
theorem honest_session_progress (hversion : platform.version = pqV10) {conn : Conn}
    (hentered : Entered platform conn state) {actions : List Action}
    (honest : (conversation platform).Along (Honest platform conn (state.store.appKeys platform)) state.session
      actions)
    (hdrained : (conversation platform).Along Drained state.session actions) :
    (conversation platform).Along (Accepted platform) state.session actions ∧
      Secured platform (state.store.appKeys platform) ((conversation platform).run state.session actions) := by
  have hflowing := flowing_entered hversion hentered
  generalize state.session = now at *
  generalize state.store.appKeys platform = keys at *
  induction actions generalizing now with
  | nil => exact ⟨trivial, hflowing.secured⟩
  | cons action rest ih =>
    obtain ⟨haccepted, hnext⟩ := hflowing.step hversion honest.1 hdrained.1
    obtain ⟨hrest, hsecured⟩ := ih _ hdrained.2 honest.2 hnext
    exact ⟨⟨haccepted, hrest⟩, hsecured⟩

end Entry

/-! ## A PING that overtakes the commit -/

/-- A PING of the Central. -/
def pingOf (platform : Platform) (keys : AppKeys) (seq : UInt64) : Bytes :=
  cp4Wire platform.version pqV1AppC2p seq pqV1Cp4Ping
    (platform.aead.encrypt keys.c2p (pqV1Cp4Nonce keys.ivC2p seq)
      (cp4Aad platform.version keys.sid pqV1AppC2p seq pqV1Cp4Ping 16) (List.replicate 16 3))

theorem validPing_pingOf (platform : Platform) (keys : AppKeys) (seq : UInt64) :
    ValidPing platform keys seq (pingOf platform keys seq) :=
  ⟨List.replicate 16 3, rfl, pqV1Cp4Encrypt_eq_ok_iff.mpr ⟨rfl, by decide, by decide, by decide, _, rfl,
    platform.aead.length_encrypt _ _ _ _, rfl⟩⟩

theorem faultless_openWorkerView : openWorkerView.Faultless where
  first := ⟨rfl, rfl, by decide⟩
  send := ⟨rfl, rfl, by decide⟩
  sent := rfl
  mac _ _ := rfl
  aead := rfl

/-- The FINISHED_C that the handshake in the store expects. -/
def finishedCOf (platform : Platform) (handshake : V1Handshake) : Bytes :=
  v1Frame platform.version pqV1FinishedC (platform.crypto.mac handshake.finishedC
    (appDomain platform.version ++ ascii "/VERIFY-C" ++ handshake.th0.bytes)).bytes

/-- A handshake up to the result callback of FINISHED_C. -/
def confirmedActions : List Action :=
  let started := startedActions pqV10 ++ List.replicate 5 (.worker openWorkerView)
  let handshake := ((firmware (samplePlatform pqV10)).run .boot started).store.v1Cp3Handshake
  started ++ .writeControl 1 (finishedCOf (samplePlatform pqV10) handshake) 0 openControlView ::
    List.replicate 4 (.worker openWorkerView)

/-- The firmware when it has entered APP_SECURE. -/
def sessionState : State :=
  (firmware (samplePlatform pqV10)).run .boot (confirmedActions ++ [.worker openWorkerView])

theorem entered_sessionState : Entered (samplePlatform pqV10) 1 sessionState := by
  have hrun : ((firmware (samplePlatform pqV10)).run .boot confirmedActions).main.v1Cp3State ≠ .appSecure ∧
      sessionState.main.v1Cp3State = .appSecure ∧ sessionState.main.currentConn = some 1 := by decide +kernel
  exact ⟨⟨confirmedActions, .worker openWorkerView, rfl, hrun.1⟩, hrun.2.1, hrun.2.2⟩

/-- The keys of that session. -/
def sessionKeys : AppKeys := sessionState.store.appKeys (samplePlatform pqV10)

/-- The write of a PING of that session. -/
def writePing (seq : UInt64) : Action :=
  .writeControl 1 (pingOf (samplePlatform pqV10) sessionKeys seq) 0 openControlView

/-- The first PING and some steps of the worker. -/
def answerActions (steps : ℕ) : List Action := writePing 0 :: List.replicate steps (.worker openWorkerView)

theorem honest_writePing {now : Conversation} {n : ℕ} (hpings : now.pings = n) (hpongs : now.pongs = n)
    (hbelow : n < uint64Max.toNat) :
    Honest (samplePlatform pqV10) 1 sessionKeys now (writePing (UInt64.ofNat n)) := by
  have hsteady : Steady openView := ⟨rfl, rfl, by decide⟩
  refine ⟨rfl, rfl, rfl, hsteady, hsteady, hpongs.trans hpings.symm, hpings ▸ hbelow, ?_⟩
  rw [hpings]
  exact validPing_pingOf _ _ _

/-- The Central writes the second PING when it has the first PONG. -/
theorem honest_answerActions {steps : ℕ}
    (hpings : ((conversation (samplePlatform pqV10)).run sessionState.session (answerActions steps)).pings = 1)
    (hpongs : ((conversation (samplePlatform pqV10)).run sessionState.session (answerActions steps)).pongs = 1) :
    (conversation (samplePlatform pqV10)).Along (Honest (samplePlatform pqV10) 1 sessionKeys) sessionState.session
      (answerActions steps ++ [writePing 1]) := by
  refine (conversation (samplePlatform pqV10)).along_append.mpr ⟨⟨honest_writePing rfl rfl (by decide), ?_⟩,
    honest_writePing hpings hpongs (by decide), trivial⟩
  refine (conversation (samplePlatform pqV10)).along_of_forall (fun action hmem now ↦ ?_) _
  rw [List.eq_of_mem_replicate hmem]
  exact faultless_openWorkerView

/-- A PING that arrives between the notification of the PONG before it and the commit is refused, and the session is
lost. -/
theorem overtaking_ping_refused :
    Entered (samplePlatform pqV10) 1 sessionState ∧
      (conversation (samplePlatform pqV10)).Along (Honest (samplePlatform pqV10) 1 sessionKeys) sessionState.session
        (answerActions 10 ++ [writePing 1]) ∧
      ¬(conversation (samplePlatform pqV10)).Along (Accepted (samplePlatform pqV10)) sessionState.session
        (answerActions 10 ++ [writePing 1]) ∧
      ((conversation (samplePlatform pqV10)).run sessionState.session
        (answerActions 10 ++ [writePing 1])).state.main.v1Cp3State = .failed := by
  have hrun : ∀ now, (conversation (samplePlatform pqV10)).run sessionState.session (answerActions 10) = now →
      now.pings = 1 ∧ now.pongs = 1 ∧
        ¬Accepted (samplePlatform pqV10) now (writePing 1) ∧
        ((conversation (samplePlatform pqV10)).step now (writePing 1)).2.state.main.v1Cp3State = .failed := by
    rintro _ rfl
    decide +kernel
  obtain ⟨hpings, hpongs, hrefused, hfailed⟩ := hrun _ rfl
  refine ⟨entered_sessionState, honest_answerActions hpings hpongs, fun haccepted ↦ ?_, ?_⟩
  · obtain ⟨-, hlast, -⟩ := (conversation (samplePlatform pqV10)).along_append.mp haccepted
    exact hrefused hlast
  · rw [Machine.run_append, Machine.run_cons, Machine.run_nil]
    exact hfailed

/-- One more step of the worker, and the second PING is accepted. -/
theorem honest_session_progress_second :
    (conversation (samplePlatform pqV10)).Along (Accepted (samplePlatform pqV10)) sessionState.session
        (answerActions 11 ++ [writePing 1]) ∧
      Secured (samplePlatform pqV10) sessionKeys
        ((conversation (samplePlatform pqV10)).run sessionState.session (answerActions 11 ++ [writePing 1])) := by
  have hrun : ∀ now, (conversation (samplePlatform pqV10)).run sessionState.session (answerActions 11) = now →
      now.pings = 1 ∧ now.pongs = 1 ∧ Drained now (writePing 1) ∧ Drained sessionState.session (writePing 0) := by
    rintro _ rfl
    decide +kernel
  obtain ⟨hpings, hpongs, hlast, hfirst⟩ := hrun _ rfl
  refine honest_session_progress rfl entered_sessionState (honest_answerActions hpings hpongs) ?_
  refine (conversation (samplePlatform pqV10)).along_append.mpr ⟨⟨hfirst, ?_⟩, hlast, trivial⟩
  refine (conversation (samplePlatform pqV10)).along_of_forall (fun action hmem now ↦ ?_) _
  rw [List.eq_of_mem_replicate hmem]
  exact nofun

end PqBleHandshake.FirmwareV1
