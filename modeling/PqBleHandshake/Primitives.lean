import PqBleHandshake.Foundation.Crypto
import Mathlib.Tactic

/-!
# Shared hash and MAC helpers

The helpers of `pq_v1_cp3.c` that every profile uses, each with the Python function of `v1_cp3.py`
it mirrors.  A C helper returns `none` where the code returns a nonzero status.  The `_eq_some`
lemmas say that a helper which returns computes the Python function, and the `_ok` lemmas that it
does return when no platform call fails.
-/

namespace PqBleHandshake

open Foundation

/-- `pq_crypto_hash_parts` -/
def pqCryptoHashParts (crypto : Crypto) (faults : Faults) (parts : List Bytes) :
    Option (Block 32) :=
  if faults.hash parts.flatten then none else some (crypto.hash parts.flatten)

/-- `pq_crypto_mac` -/
def pqCryptoMac (crypto : Crypto) (faults : Faults) (key : Block 32) (data : Bytes) :
    Option (Block 32) :=
  if faults.mac key data then none else some (crypto.mac key data)

/-- `labeled_mac`; its buffer holds 96 bytes. -/
def labeledMac (crypto : Crypto) (faults : Faults) (key : Block 32) (label : Bytes)
    (th : Block 32) (expand : Bool) : Option (Block 32) :=
  if 96 < label.length + 33 then none
  else pqCryptoMac crypto faults key (label ++ th.bytes ++ if expand then [1] else [])

/-- `pq_v1_cp3_expand` -/
def pqV1Cp3Expand (crypto : Crypto) (faults : Faults) (prk : Block 32) (label : Bytes)
    (th : Block 32) : Option (Block 32) :=
  labeledMac crypto faults prk label th true

/-- `pq_v1_cp3_verify_data` -/
def pqV1Cp3VerifyData (crypto : Crypto) (faults : Faults) (key : Block 32) (label : Bytes)
    (th : Block 32) : Option (Block 32) :=
  labeledMac crypto faults key label th false

/-- The message of one HKDF-Expand block. -/
def expandMessage (label : Bytes) (th : Block 32) : Bytes := label ++ th.bytes ++ [1]

/-- The Python `expand`: HKDF-Expand of one block. -/
def expand (crypto : Crypto) (prk : Block 32) (label : Bytes) (th : Block 32) : Block 32 :=
  crypto.mac prk (expandMessage label th)

/-- The Python `verify_data`. -/
def verifyData (crypto : Crypto) (key : Block 32) (label : Bytes) (th : Block 32) : Block 32 :=
  crypto.mac key (label ++ th.bytes)

/-- A C function and a Python function agree: the C function returns the Python value when no platform
call fails, and it never returns another one. -/
structure SameResult {α ε : Type} (c : Faults → Option α) (python : Except ε α) : Prop where
  returns : ∃ value, c {} = some value ∧ python = .ok value
  only : ∀ faults value, c faults = some value → python = .ok value

theorem SameResult.of_ok {α ε : Type} {c : Faults → Option α} {python : Except ε α} {value : α}
    (hpython : python = .ok value) (hreturns : c {} = some value)
    (honly : ∀ faults value', c faults = some value' → value' = value) : SameResult c python where
  returns := ⟨value, hreturns, hpython⟩
  only faults value' h := by rw [hpython, honly faults value' h]

variable {crypto : Crypto} {faults : Faults}

theorem pqCryptoHashParts_eq_some {parts : List Bytes} {output : Block 32}
    (h : pqCryptoHashParts crypto faults parts = some output) :
    output = crypto.hash parts.flatten := by
  unfold pqCryptoHashParts at h
  split_ifs at h
  exact (Option.some.inj h).symm

theorem pqCryptoMac_eq_some {key output : Block 32} {data : Bytes}
    (h : pqCryptoMac crypto faults key data = some output) : output = crypto.mac key data := by
  unfold pqCryptoMac at h
  split_ifs at h
  exact (Option.some.inj h).symm

theorem labeledMac_eq_some {key th output : Block 32} {label : Bytes} {expand : Bool}
    (h : labeledMac crypto faults key label th expand = some output) :
    output = crypto.mac key (label ++ th.bytes ++ if expand then [1] else []) := by
  unfold labeledMac at h
  split at h
  · cases h
  · exact pqCryptoMac_eq_some h

theorem pqV1Cp3Expand_eq_some {prk th output : Block 32} {label : Bytes}
    (h : pqV1Cp3Expand crypto faults prk label th = some output) :
    output = expand crypto prk label th :=
  labeledMac_eq_some h

theorem pqV1Cp3VerifyData_eq_some {key th output : Block 32} {label : Bytes}
    (h : pqV1Cp3VerifyData crypto faults key label th = some output) :
    output = verifyData crypto key label th := by
  simpa [verifyData] using labeledMac_eq_some h

@[simp]
theorem pqCryptoHashParts_ok (parts : List Bytes) :
    pqCryptoHashParts crypto {} parts = some (crypto.hash parts.flatten) := rfl

@[simp]
theorem pqCryptoMac_ok (key : Block 32) (data : Bytes) :
    pqCryptoMac crypto {} key data = some (crypto.mac key data) := rfl

theorem pqV1Cp3Expand_ok {label : Bytes} (hlabel : label.length ≤ 63) (prk th : Block 32) :
    pqV1Cp3Expand crypto {} prk label th = some (expand crypto prk label th) := by
  rw [pqV1Cp3Expand, labeledMac, if_neg (by omega)]
  rfl

theorem pqV1Cp3VerifyData_ok {label : Bytes} (hlabel : label.length ≤ 63) (key th : Block 32) :
    pqV1Cp3VerifyData crypto {} key label th = some (verifyData crypto key label th) := by
  rw [pqV1Cp3VerifyData, labeledMac, if_neg (by omega)]
  simp [verifyData]

/-- With labels of one length, the message of an expansion determines the label and the hash. -/
theorem expandMessage_inj {label label' : Bytes} {th th' : Block 32}
    (hlabel : label.length = label'.length) :
    expandMessage label th = expandMessage label' th' ↔ label = label' ∧ th = th' := by
  constructor
  · intro h
    simp only [expandMessage, List.append_assoc] at h
    obtain ⟨hl, hrest⟩ := List.append_inj h hlabel
    exact ⟨hl, (block_append_inj.mp hrest).1⟩
  · rintro ⟨rfl, rfl⟩
    rfl

end PqBleHandshake
