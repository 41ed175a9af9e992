import PqBleHandshake.Foundation.Bytes
import Mathlib.Tactic

/-!
# Hash, MAC and key expansion as parameters

The cryptographic library is a parameter of every model: a hash and a keyed MAC with 32-byte
outputs.  Nothing is assumed about them here.  A security statement adds, for one run, that the hash
and the MAC do not collide on the inputs that this run evaluates, and that no tag was accepted which
no honest holder of the key had computed.  Global injectivity is never assumed, since no function
onto 32 bytes has it.

A platform call can also fail for a reason of its own.  `Faults` says which calls of one operation
fail, so a model branches on every error path of the code.
-/

namespace PqBleHandshake.Foundation

/-- The hash and MAC functions of the cryptographic library. -/
structure Crypto where
  hash : Bytes → Block 32
  mac : Block 32 → Bytes → Block 32

/-- The library calls that fail during one operation. -/
structure Faults where
  hash : Bytes → Bool := fun _ ↦ false
  mac : Block 32 → Bytes → Bool := fun _ _ ↦ false

/-- A MAC evaluation: its key and its message. -/
abbrev MacQuery := Block 32 × Bytes

namespace Crypto

/-- The MAC of a query. -/
def tag (crypto : Crypto) (query : MacQuery) : Block 32 := crypto.mac query.1 query.2

end Crypto

/-! ## HKDF over a keyed MAC

Extract-and-expand key derivation: the extraction is one MAC under the salt, and the expansion chains one
MAC for each output block. -/

/-- HKDF-Extract with a salt of one block. -/
def hkdfExtract (crypto : Crypto) (salt : Block 32) (ikm : Bytes) : Block 32 := crypto.mac salt ikm

/-- The first output blocks of HKDF-Expand, and the last one of them. -/
def hkdfRounds (crypto : Crypto) (prk : Block 32) (info : Bytes) : ℕ → Bytes × Bytes
  | 0 => ([], [])
  | round + 1 =>
    let (output, last) := hkdfRounds crypto prk info round
    let block := crypto.mac prk (last ++ info ++ [UInt8.ofNat (round + 1)])
    (output ++ block.bytes, block.bytes)

/-- HKDF-Expand. -/
def hkdfExpand (crypto : Crypto) (prk : Block 32) (info : Bytes) (length : ℕ) : Bytes :=
  (hkdfRounds crypto prk info ((length + 31) / 32)).1.take length

theorem length_hkdfRounds (crypto : Crypto) (prk : Block 32) (info : Bytes) (rounds : ℕ) :
    (hkdfRounds crypto prk info rounds).1.length = 32 * rounds := by
  induction rounds with
  | zero => rfl
  | succ rounds ih =>
    rw [hkdfRounds, List.length_append, ih, Block.length_bytes, mul_add, mul_one]

/-! ## Ideal runs

A run keeps a log of the cryptography its honest parties used.  The log is pure bookkeeping: no party
reads it. -/

/-- What the honest parties of a run hashed and derived, which tags they computed for sending, and
which tags they accepted. -/
structure CryptoLog where
  hashed : List Bytes := []
  derived : List MacQuery := []
  issued : List MacQuery := []
  relied : List MacQuery := []

namespace CryptoLog

instance : Append CryptoLog where
  append log more :=
    { hashed := log.hashed ++ more.hashed, derived := log.derived ++ more.derived,
      issued := log.issued ++ more.issued, relied := log.relied ++ more.relied }

@[simp]
theorem append_hashed (log more : CryptoLog) :
    (log ++ more).hashed = log.hashed ++ more.hashed := rfl

@[simp]
theorem append_derived (log more : CryptoLog) :
    (log ++ more).derived = log.derived ++ more.derived := rfl

@[simp]
theorem append_issued (log more : CryptoLog) :
    (log ++ more).issued = log.issued ++ more.issued := rfl

@[simp]
theorem append_relied (log more : CryptoLog) :
    (log ++ more).relied = log.relied ++ more.relied := rfl

@[simp]
theorem append_empty (log : CryptoLog) : log ++ ({} : CryptoLog) = log := by
  obtain ⟨hashed, derived, issued, relied⟩ := log
  change CryptoLog.mk _ _ _ _ = _
  simp only [List.append_nil]

/-- The cryptography of a run is ideal: the hash does not collide on the inputs of the run, the MAC
does not collide on the derivations of the run, and every accepted tag had been computed by an honest
holder of the key for that very message. -/
structure Ideal (crypto : Crypto) (log : CryptoLog) : Prop where
  hash_inj : ∀ x ∈ log.hashed, ∀ y ∈ log.hashed, crypto.hash x = crypto.hash y → x = y
  mac_inj : ∀ x ∈ log.derived, ∀ y ∈ log.derived, crypto.tag x = crypto.tag y → x = y
  unforged : ∀ query ∈ log.relied, query ∈ log.issued

instance (crypto : Crypto) (log : CryptoLog) : Decidable (log.Ideal crypto) :=
  decidable_of_iff
    ((∀ x ∈ log.hashed, ∀ y ∈ log.hashed, crypto.hash x = crypto.hash y → x = y) ∧
      (∀ x ∈ log.derived, ∀ y ∈ log.derived, crypto.tag x = crypto.tag y → x = y) ∧
      ∀ query ∈ log.relied, query ∈ log.issued)
    ⟨fun ⟨hhash, hmac, hunforged⟩ ↦ ⟨hhash, hmac, hunforged⟩,
      fun h ↦ ⟨h.hash_inj, h.mac_inj, h.unforged⟩⟩

/-- One log extends another in every component. -/
structure Extends (log log' : CryptoLog) : Prop where
  hashed : log.hashed ⊆ log'.hashed
  derived : log.derived ⊆ log'.derived
  issued : log.issued ⊆ log'.issued
  relied : log.relied ⊆ log'.relied

theorem extends_append (log more : CryptoLog) : log.Extends (log ++ more) where
  hashed := List.subset_append_left _ _
  derived := List.subset_append_left _ _
  issued := List.subset_append_left _ _
  relied := List.subset_append_left _ _

theorem Extends.refl (log : CryptoLog) : log.Extends log :=
  ⟨List.Subset.refl _, List.Subset.refl _, List.Subset.refl _, List.Subset.refl _⟩

end CryptoLog

/-! ## A computable instance

A polynomial hash over a prime field and the MAC it induces.  It stands in for the library where an
execution is evaluated; it is collision-free on the few inputs such an execution has. -/

/-- The accumulator of the polynomial hash. -/
def polynomialFold (input : Bytes) : ℕ :=
  input.foldl (fun value byte ↦ (value * 257 + byte.toNat + 1) % (2 ^ 255 - 19)) 7

/-- The polynomial hash and the prefix MAC over it. -/
def polynomialCrypto : Crypto where
  hash input := ⟨bigEndian 32 (polynomialFold input), length_bigEndian 32 _⟩
  mac key message :=
    ⟨bigEndian 32 (polynomialFold (key.bytes ++ message)), length_bigEndian 32 _⟩

end PqBleHandshake.Foundation
