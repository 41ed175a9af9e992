import PqBleHandshake.Application.Cp4
import Mathlib.Tactic

/-!
# The ledger of an application channel

Which PINGs a Peripheral accepted and which PONGs it encrypted, key installation by key installation.
The ledger is bookkeeping: no code reads it.  The v1.0 worker and the v1.1 service both report the
same events, so the discipline of sequence numbers is stated and preserved here once.

A PONG is committed when the counters advance past it.  A sound installation has at most one PONG
that is not committed, and it is the last one, so no two PONGs of one installation share a sequence
number and no two share a nonce.
-/

namespace PqBleHandshake

open Foundation

/-- The application keys, IV bases and session id of one session. -/
@[ext]
structure AppKeys where
  c2p : Block 32
  p2c : Block 32
  ivC2p : Block 12
  ivP2c : Block 12
  sid : Block 16
deriving DecidableEq

/-- A protected message: its sequence number, its plaintext and its frame. -/
structure Cp4Message where
  seq : UInt64
  plaintext : Bytes
  wire : Bytes
deriving DecidableEq

/-- One installation of keys: the PINGs accepted and the PONGs encrypted under them, oldest first,
with the number of PONGs queued for sending and the number of PONGs committed. -/
structure Installation where
  keys : AppKeys
  pings : List Cp4Message := []
  pongs : List Cp4Message := []
  delivered : ℕ := 0
  committed : ℕ := 0
deriving DecidableEq

/-- What the code does with the application keys. -/
inductive AppEvent
  | installed (keys : AppKeys)
  | opened (ping : Cp4Message)
  | sealed (pong : Cp4Message)
  | delivered
  | committed

namespace Installation

/-- An event under the installed keys. -/
def record (current : Installation) : AppEvent → Installation
  | .installed _ => current
  | .opened ping => { current with pings := current.pings ++ [ping] }
  | .sealed pong => { current with pongs := current.pongs ++ [pong] }
  | .delivered => { current with delivered := current.delivered + 1 }
  | .committed => { current with committed := current.committed + 1 }

@[simp]
theorem record_keys (current : Installation) (event : AppEvent) :
    (current.record event).keys = current.keys := by
  cases event <;> rfl

end Installation

/-- Record an event; the installations are listed newest first. -/
def recordEvent : List Installation → AppEvent → List Installation
  | ledger, .installed keys => { keys } :: ledger
  | [], _ => []
  | current :: earlier, event => current.record event :: earlier

/-- Record the events of one step. -/
def recordEvents (ledger : List Installation) (events : List AppEvent) : List Installation :=
  events.foldl recordEvent ledger

@[simp]
theorem recordEvents_nil (ledger : List Installation) : recordEvents ledger [] = ledger := rfl

@[simp]
theorem recordEvents_cons (ledger : List Installation) (event : AppEvent) (rest : List AppEvent) :
    recordEvents ledger (event :: rest) = recordEvents (recordEvent ledger event) rest := rfl

@[simp]
theorem recordEvent_installed (ledger : List Installation) (keys : AppKeys) :
    recordEvent ledger (.installed keys) = { keys } :: ledger := by
  cases ledger <;> rfl

/-- Below the last sequence number a counter advances without wrapping. -/
theorem toNat_add_one_of_ne {seq : UInt64} (h : seq ≠ uint64Max) :
    (seq + 1).toNat = seq.toNat + 1 := by
  have hmax : seq.toNat ≠ 2 ^ 64 - 1 := fun heq ↦ h (UInt64.toNat_inj.mp heq)
  have hlt := seq.toNat_lt
  rw [UInt64.toNat_add]
  change (seq.toNat + 1) % 2 ^ 64 = _
  omega

/-! ## Sound installations -/

section Sound

variable (aead : Aead) (version : UInt8)

/-- A PING that opens under the keys. -/
def IsPing (keys : AppKeys) (ping : Cp4Message) : Prop :=
  ∃ sealed, Cp4Opened aead version keys.c2p keys.ivC2p keys.sid ping.wire pqV1AppC2p ping.seq
    ping.plaintext sealed

/-- A PONG as it is encrypted under the keys. -/
structure IsPong (keys : AppKeys) (pong : Cp4Message) : Prop where
  length_plaintext : pong.plaintext.length = 16
  wire_eq : pong.wire = cp4Wire version pqV1AppP2c pong.seq pqV1Cp4Pong
    (aead.encrypt keys.p2c (pqV1Cp4Nonce keys.ivP2c pong.seq)
      (cp4Aad version keys.sid pqV1AppP2c pong.seq pqV1Cp4Pong 16) pong.plaintext)

/-- The discipline of one installation: the messages of each direction carry the sequence numbers
0, 1, 2, …, every PONG answers a PING, and all PINGs but the last are settled by a commit. -/
structure Installation.Sound (inst : Installation) : Prop where
  pings_seq : ∀ (i : ℕ) (ping : Cp4Message), inst.pings[i]? = some ping → ping.seq.toNat = i
  pongs_seq : ∀ (i : ℕ) (pong : Cp4Message), inst.pongs[i]? = some pong → pong.seq.toNat = i
  opened : ∀ ping ∈ inst.pings, IsPing aead version inst.keys ping
  sealed : ∀ pong ∈ inst.pongs, IsPong aead version inst.keys pong
  echoed : (inst.pongs.map Cp4Message.plaintext) <+: (inst.pings.map Cp4Message.plaintext)
  committed_le : inst.committed ≤ inst.delivered
  delivered_le : inst.delivered ≤ inst.pongs.length
  pings_le : inst.pings.length ≤ inst.committed + 1

/-- Every accepted PING was answered, and every answer was delivered and committed. -/
structure Installation.Settled (inst : Installation) (seq : UInt64) : Prop where
  pings : inst.pings.length = seq.toNat
  pongs : inst.pongs.length = seq.toNat
  delivered : inst.delivered = seq.toNat
  committed : inst.committed = seq.toNat

variable {aead version} {inst : Installation} {seq : UInt64}

/-- A fresh installation is sound. -/
theorem Installation.sound_fresh (keys : AppKeys) :
    ({ keys } : Installation).Sound aead version where
  pings_seq := by simp
  pongs_seq := by simp
  opened := by simp
  sealed := by simp
  echoed := List.nil_prefix
  committed_le := le_rfl
  delivered_le := le_rfl
  pings_le := by simp

theorem Installation.settled_fresh (keys : AppKeys) : ({ keys } : Installation).Settled 0 where
  pings := rfl
  pongs := rfl
  delivered := rfl
  committed := rfl

/-- Appending the message with the next sequence number keeps the numbering. -/
theorem seq_append {messages : List Cp4Message} {message : Cp4Message}
    (h : ∀ (i : ℕ) (old : Cp4Message), messages[i]? = some old → old.seq.toNat = i)
    (hseq : message.seq.toNat = messages.length) (i : ℕ) (found : Cp4Message)
    (hfound : (messages ++ [message])[i]? = some found) : found.seq.toNat = i := by
  rw [List.getElem?_append] at hfound
  split_ifs at hfound with hlt
  · exact h i found hfound
  · obtain ⟨hindex, rfl⟩ := List.getElem?_eq_some_iff.mp hfound
    have hzero : i - messages.length = 0 := by simpa using hindex
    simp only [hzero, List.getElem_cons_zero]
    omega

/-- A PING is accepted at the next sequence number, once all earlier ones are settled. -/
theorem Installation.Sound.opened_ping (h : inst.Sound aead version) (hrest : inst.Settled seq)
    {ping : Cp4Message} (hseq : ping.seq = seq) (hping : IsPing aead version inst.keys ping) :
    (inst.record (.opened ping)).Sound aead version where
  pings_seq := seq_append h.pings_seq (by rw [hseq, hrest.pings])
  pongs_seq := h.pongs_seq
  opened := by
    intro found hfound
    rcases List.mem_append.mp hfound with hold | hnew
    · exact h.opened found hold
    · rw [List.mem_singleton.mp hnew]
      exact hping
  sealed := h.sealed
  echoed := by
    simp only [record, List.map_append]
    exact h.echoed.trans (List.prefix_append _ _)
  committed_le := h.committed_le
  delivered_le := h.delivered_le
  pings_le := by
    simp only [record, List.length_append, List.length_singleton, hrest.pings, hrest.committed]
    exact le_rfl

/-- A PONG is encrypted at the next sequence number, for a PING that has no answer yet. -/
theorem Installation.Sound.sealed_pong (h : inst.Sound aead version) {ping pong : Cp4Message}
    (hping : inst.pings[inst.pongs.length]? = some ping) (hplain : pong.plaintext = ping.plaintext)
    (hseq : pong.seq.toNat = inst.pongs.length) (hpong : IsPong aead version inst.keys pong) :
    (inst.record (.sealed pong)).Sound aead version where
  pings_seq := h.pings_seq
  pongs_seq := seq_append h.pongs_seq hseq
  opened := h.opened
  sealed := by
    intro found hfound
    rcases List.mem_append.mp hfound with hold | hnew
    · exact h.sealed found hold
    · rw [List.mem_singleton.mp hnew]
      exact hpong
  echoed := by
    have hlt := (List.getElem?_eq_some_iff.mp hping).1
    have htake := List.prefix_iff_eq_take.mp h.echoed
    rw [List.length_map] at htake
    have hnext : (inst.pings.map Cp4Message.plaintext).take (inst.pongs.length + 1) =
        inst.pongs.map Cp4Message.plaintext ++ [pong.plaintext] := by
      rw [List.take_add_one, ← htake, List.getElem?_map, hping, hplain]
      rfl
    simp only [record, List.map_append, List.map_cons, List.map_nil, ← hnext]
    exact List.take_prefix _ _
  committed_le := h.committed_le
  delivered_le := by
    simp only [record, List.length_append, List.length_singleton]
    exact Nat.le_succ_of_le h.delivered_le
  pings_le := h.pings_le

/-- A PONG is delivered. -/
theorem Installation.Sound.delivered_pong (h : inst.Sound aead version)
    (hlt : inst.delivered < inst.pongs.length) :
    (inst.record .delivered).Sound aead version :=
  { h with
    committed_le := Nat.le_succ_of_le h.committed_le
    delivered_le := hlt }

/-- A delivered PONG is committed. -/
theorem Installation.Sound.committed_pong (h : inst.Sound aead version)
    (hlt : inst.committed < inst.delivered) :
    (inst.record .committed).Sound aead version :=
  { h with
    committed_le := hlt
    pings_le := Nat.le_succ_of_le h.pings_le }

/-- An accepted PING makes the installation busy with its answer. -/
structure Installation.Answering (inst : Installation) (ping : Cp4Message) (seq : UInt64) : Prop where
  last : inst.pings[seq.toNat]? = some ping
  pongs : inst.pongs.length = seq.toNat
  delivered : inst.delivered = seq.toNat
  committed : inst.committed = seq.toNat

theorem Installation.Settled.answering (h : inst.Settled seq) (ping : Cp4Message) :
    (inst.record (.opened ping)).Answering ping seq where
  last := by
    rw [record, ← h.pings]
    exact List.getElem?_concat_length
  pongs := h.pongs
  delivered := h.delivered
  committed := h.committed

end Sound

/-! ## Nonces -/

/-- What soundness says about the nonces of one installation. -/
structure Installation.NonceDiscipline (aead : Aead) (version : UInt8) (inst : Installation) :
    Prop where
  /-- The PONGs are all that was encrypted under the transmit key. -/
  sealed : ∀ pong ∈ inst.pongs, IsPong aead version inst.keys pong
  /-- No two encryptions use one nonce. -/
  nonces : (inst.pongs.map fun pong ↦ pqV1Cp4Nonce inst.keys.ivP2c pong.seq).Nodup
  /-- Every PONG but the last was delivered and committed. -/
  settled : inst.pongs.length ≤ inst.committed + 1
  /-- The last sequence number is never used. -/
  below : ∀ pong ∈ inst.pongs, pong.seq ≠ uint64Max

variable {aead : Aead} {version : UInt8} {inst : Installation}

theorem Installation.Sound.pongs_le (h : inst.Sound aead version) :
    inst.pongs.length ≤ inst.pings.length := by
  simpa using h.echoed.length_le

/-- The PONG at an index answers the PING at that index, which carries the same sequence number. -/
theorem Installation.Sound.pong_seq_ne (h : inst.Sound aead version) {pong : Cp4Message}
    (hpong : pong ∈ inst.pongs) : pong.seq ≠ uint64Max := by
  obtain ⟨i, hi, heq⟩ := List.getElem_of_mem hpong
  have hseq := h.pongs_seq i pong (List.getElem?_eq_some_iff.mpr ⟨hi, heq⟩)
  have hlt : i < inst.pings.length := lt_of_lt_of_le hi h.pongs_le
  have hpingseq := h.pings_seq i _ (List.getElem?_eq_getElem hlt)
  obtain ⟨_, hopened⟩ := h.opened _ (List.getElem_mem hlt)
  have hsame : pong.seq = (inst.pings[i]).seq := UInt64.toNat_inj.mp (hseq.trans hpingseq.symm)
  rw [hsame]
  exact hopened.seq_ne

/-- **A sound installation never repeats a nonce.** -/
theorem Installation.Sound.nonceDiscipline (h : inst.Sound aead version) :
    inst.NonceDiscipline aead version where
  sealed := h.sealed
  nonces := by
    rw [List.nodup_iff_injective_getElem]
    intro ⟨i, hi⟩ ⟨j, hj⟩ hij
    simp only [List.length_map] at hi hj
    simp only [List.getElem_map] at hij
    have hseq := pqV1Cp4Nonce_injective _ hij
    have hi' := h.pongs_seq i _ (List.getElem?_eq_getElem hi)
    have hj' := h.pongs_seq j _ (List.getElem?_eq_getElem hj)
    exact Fin.ext (hi'.symm.trans ((congrArg UInt64.toNat hseq).trans hj'))
  settled := h.pongs_le.trans h.pings_le
  below _ hpong := h.pong_seq_ne hpong

end PqBleHandshake
