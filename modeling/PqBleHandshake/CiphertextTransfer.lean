import PqBleHandshake.Foundation.Transition
import PqBleHandshake.Foundation.Bytes

/-!
# Ciphertext reassembly

`write_ciphertext` of `main.c` after its security gate: the fragment header, the transfer it belongs to
and the assembly of the ciphertext.  The transfer is shared by every profile.
-/

namespace PqBleHandshake

open Foundation

/-- The ATT errors that the write handlers answer. -/
inductive AttError
  | writeReqRejected | procedureInProgress | valueNotAllowed | invalidAttributeLen | invalidOffset
  | authentication | cccImproperConf | unlikely | notSupported | writeNotPermitted
deriving DecidableEq, Repr

/-- `PQ_SECURE_FIXED_OVERHEAD` -/
def pqSecureFixedOverhead : ℕ := 37
/-- The larger of `PQ_MLKEM_PHASE6_MAX_SECURE_WIRE_SIZE` and its Phase 7 twin. -/
def pqSecureMaxWireSize : ℕ := 101

/-- `enum ciphertext_state` -/
inductive CiphertextState
  | empty | receiving | ready | cryptoBusy
deriving DecidableEq, Repr

/-- `MAX_FRAGMENTS` -/
def maxFragments : ℕ := 8
/-- `MAX_FRAG_PAYLOAD` -/
def maxFragPayload : ℕ := 508
/-- `PQ_MLKEM_CIPHERTEXT_SIZE` -/
def mlkemCiphertextSize : ℕ := 1088

/-- The transfer storage: a slot is empty until its fragment is received. -/
structure Transfer where
  state : CiphertextState
  total : ℕ
  slots : List (Option Bytes)
  ciphertext : Bytes
deriving DecidableEq

/-- `clear_transfer_storage_locked`, which leaves the state alone. -/
def Transfer.clearStorage (transfer : Transfer) : Transfer :=
  { transfer with
    total := 0, slots := List.replicate maxFragments none
    ciphertext := List.replicate mlkemCiphertextSize 0 }

/-- The transfer at boot. -/
def Transfer.zero : Transfer :=
  Transfer.clearStorage { state := .empty, total := 0, slots := [], ciphertext := [] }

/-- The storage is cleared and the next fragment starts a new transfer. -/
def Transfer.reset (transfer : Transfer) : Transfer :=
  { transfer.clearStorage with state := .empty }

/-- `begin_transfer_locked` -/
def Transfer.beginTransfer (transfer : Transfer) (total : ℕ) : Transfer :=
  { transfer.clearStorage with total, state := .receiving }

/-- The index, the total and the payload of a fragment. -/
structure Fragment where
  idx : ℕ
  total : ℕ
  payload : Bytes
deriving DecidableEq

/-- The checks on a fragment before the lock is taken. -/
def parseFragment (data : Bytes) (offset : ℕ) : Except AttError Fragment := do
  require (offset = 0) .invalidOffset
  require (4 ≤ data.length) .invalidAttributeLen
  let idx := (data.getD 0 0).toNat
  let total := (data.getD 1 0).toNat
  let payloadLen := (data.getD 2 0).toNat * 256 + (data.getD 3 0).toNat
  require (total ≠ 0 ∧ total ≤ maxFragments ∧ idx < total) .invalidAttributeLen
  require (payloadLen ≠ 0 ∧ payloadLen ≤ maxFragPayload ∧ payloadLen = data.length - 4)
    .invalidAttributeLen
  return { idx, total, payload := data.drop 4 }

/-- Put a fragment in its slot and assemble the ciphertext once every slot is full. -/
def Transfer.storeFragment (transfer : Transfer) (fragment : Fragment) :
    Except AttError Unit × Transfer :=
  let transfer := { transfer with
    slots := transfer.slots.set fragment.idx (some fragment.payload) }
  let received := transfer.slots.take transfer.total
  let assembled := (received.map fun slot ↦ slot.getD []).flatten
  if mlkemCiphertextSize < assembled.length then (.error .invalidAttributeLen, transfer.reset)
  else if received.all Option.isSome then
    if assembled.length ≠ mlkemCiphertextSize then (.error .invalidAttributeLen, transfer.reset)
    else (.ok (), { transfer with ciphertext := assembled, state := .ready })
  else (.ok (), transfer)

/-- `write_ciphertext` once the connection and the protocol states let the fragment through. -/
def Transfer.write (transfer : Transfer) (fragment : Fragment) : Except AttError Unit × Transfer :=
  match transfer.state with
  | .cryptoBusy => (.error .procedureInProgress, transfer)
  | .empty | .ready =>
    if fragment.idx ≠ 0 then (.error .valueNotAllowed, transfer)
    else (transfer.beginTransfer fragment.total).storeFragment fragment
  | .receiving =>
    if fragment.total ≠ transfer.total then
      (.error .valueNotAllowed, if fragment.idx = 0 then transfer.reset else transfer)
    else match transfer.slots.getD fragment.idx none with
      | none => transfer.storeFragment fragment
      | some stored =>
        if fragment.idx = 0 then (transfer.beginTransfer fragment.total).storeFragment fragment
        else if stored = fragment.payload then (.ok (), transfer)
        else (.error .valueNotAllowed, transfer)

/-- No fragment and no ciphertext is stored. -/
def Transfer.Clear (transfer : Transfer) : Prop :=
  transfer.slots = List.replicate maxFragments none ∧
    transfer.ciphertext = List.replicate mlkemCiphertextSize 0

theorem Transfer.clear_clearStorage (transfer : Transfer) : transfer.clearStorage.Clear :=
  ⟨rfl, rfl⟩

theorem Transfer.clear_reset (transfer : Transfer) : transfer.reset.Clear := ⟨rfl, rfl⟩

@[simp]
theorem Transfer.reset_state (transfer : Transfer) : transfer.reset.state = .empty := rfl

@[simp]
theorem Transfer.clearStorage_state (transfer : Transfer) :
    transfer.clearStorage.state = transfer.state := rfl

theorem Transfer.storeFragment_state_ne (transfer : Transfer) (fragment : Fragment)
    (h : transfer.state ≠ .cryptoBusy) : (transfer.storeFragment fragment).2.state ≠ .cryptoBusy := by
  unfold storeFragment
  dsimp only
  split_ifs <;> simp [h]

/-- A ciphertext write never takes or releases the crypto worker's slot. -/
theorem Transfer.write_state_iff (transfer : Transfer) (fragment : Fragment) :
    (transfer.write fragment).2.state = .cryptoBusy ↔ transfer.state = .cryptoBusy := by
  unfold write
  cases hstate : transfer.state with
  | cryptoBusy => simp [hstate]
  | empty | ready =>
    simp only [reduceCtorEq, iff_false]
    split_ifs
    · simp [hstate]
    · exact Transfer.storeFragment_state_ne _ _ (by simp [beginTransfer])
  | receiving =>
    simp only [reduceCtorEq, iff_false]
    split
    · split_ifs <;> simp [hstate]
    split
    · exact Transfer.storeFragment_state_ne _ _ (by simp [hstate])
    · split_ifs
      · exact Transfer.storeFragment_state_ne _ _ (by simp [beginTransfer])
      · simp [hstate]
      · simp [hstate]

/-- A busy slot refuses every fragment. -/
theorem Transfer.write_of_cryptoBusy (transfer : Transfer) (fragment : Fragment)
    (h : transfer.state = .cryptoBusy) : (transfer.write fragment).2 = transfer := by
  unfold write
  simp only [h]

end PqBleHandshake
