import Mathlib.Data.List.TakeDrop
import Mathlib.Data.List.Induction
import Mathlib.Tactic

/-!
# Byte strings and fixed-size blocks

A byte string is a list of bytes.  A fixed-size C array is a `Block n`, a byte string that carries
the proof of its length, so that reading a field of a frame never produces a value of the wrong
size.  The codec lemmas below cover big-endian integers, the split of a concatenation whose first
part has a known length, and the bytewise exclusive or.
-/

namespace PqBleHandshake.Foundation

/-- A byte string of any length. -/
abbrev Bytes := List UInt8

/-- A byte string of exactly `n` bytes: the C type `uint8_t[n]`. -/
@[ext]
structure Block (n : ℕ) where
  bytes : Bytes
  length_bytes : bytes.length = n
deriving DecidableEq

attribute [simp] Block.length_bytes

namespace Block

variable {n m : ℕ}

/-- Distinct blocks have distinct bytes. -/
theorem bytes_injective : Function.Injective (Block.bytes : Block n → Bytes) := by
  intro x y h
  exact Block.ext h

@[simp]
theorem bytes_inj {x y : Block n} : x.bytes = y.bytes ↔ x = y :=
  bytes_injective.eq_iff

/-- The all-zero block, which is what a wiped buffer holds. -/
def zero (n : ℕ) : Block n := ⟨List.replicate n 0, List.length_replicate⟩

/-- Read the first `n` bytes, padding with zeros where the source is too short. -/
def ofBytes (n : ℕ) (source : Bytes) : Block n :=
  ⟨source.takeD n 0, List.takeD_length n source 0⟩

/-- Read `n` bytes at an offset. -/
def slice (source : Bytes) (offset n : ℕ) : Block n :=
  ofBytes n (source.drop offset)

theorem ofBytes_bytes {source : Bytes} (h : n ≤ source.length) :
    (ofBytes n source).bytes = source.take n :=
  List.takeD_eq_take 0 h

@[simp]
theorem ofBytes_append (block : Block n) (rest : Bytes) :
    ofBytes n (block.bytes ++ rest) = block := by
  apply Block.ext
  exact List.takeD_left' block.length_bytes

@[simp]
theorem ofBytes_self (block : Block n) : ofBytes n block.bytes = block := by
  simpa using ofBytes_append block []

@[simp]
theorem slice_zero_append (block : Block n) (rest : Bytes) :
    slice (block.bytes ++ rest) 0 n = block := by
  simp [slice]

@[simp]
theorem slice_zero_self (block : Block n) : slice block.bytes 0 n = block := by
  simp [slice]

/-- Reading past a first block reads in the rest. -/
theorem slice_append_of_le {offset : ℕ} (h : n ≤ offset) (block : Block n) (rest : Bytes) :
    slice (block.bytes ++ rest) offset m = slice rest (offset - n) m := by
  rw [slice, slice, List.drop_append, block.length_bytes,
    List.drop_of_length_le (by simpa using h), List.nil_append]

/-- A long enough byte string is its first block followed by the rest. -/
theorem ofBytes_append_drop {source : Bytes} (h : n ≤ source.length) :
    (ofBytes n source).bytes ++ source.drop n = source := by
  rw [ofBytes_bytes h, List.take_append_drop]

/-- A byte string with room for a block starts with one. -/
theorem exists_eq_append (source : Bytes) (h : n ≤ source.length) :
    ∃ (block : Block n) (rest : Bytes),
      source = block.bytes ++ rest ∧ rest.length = source.length - n :=
  ⟨ofBytes n source, source.drop n, (ofBytes_append_drop h).symm, List.length_drop⟩

/-- A byte string of the block's length is the block's bytes. -/
theorem ofBytes_eq_self {source : Bytes} (h : source.length = n) :
    (ofBytes n source).bytes = source := by
  rw [ofBytes_bytes h.ge, List.take_of_length_le h.le]

end Block

/-- Blocks of one size at the front of equal byte strings are equal. -/
theorem block_append_inj {n : ℕ} {x x' : Block n} {y y' : Bytes} :
    x.bytes ++ y = x'.bytes ++ y' ↔ x = x' ∧ y = y' := by
  constructor
  · intro h
    obtain ⟨hx, hy⟩ := List.append_inj h (by simp)
    exact ⟨Block.bytes_injective hx, hy⟩
  · rintro ⟨rfl, rfl⟩
    rfl

/-- The ASCII bytes of a string constant. -/
def ascii (text : String) : Bytes :=
  text.toList.map fun character ↦ UInt8.ofNat character.toNat

/-! ## Big-endian integers -/

/-- The big-endian encoding of the `width` low bytes of a natural number. -/
def bigEndian : ℕ → ℕ → Bytes
  | 0, _ => []
  | width + 1, value => bigEndian width (value / 256) ++ [UInt8.ofNat (value % 256)]

/-- The natural number a big-endian byte string denotes. -/
def ofBigEndian (source : Bytes) : ℕ :=
  source.foldl (fun value byte ↦ value * 256 + byte.toNat) 0

@[simp]
theorem length_bigEndian (width value : ℕ) : (bigEndian width value).length = width := by
  induction width generalizing value with
  | zero => rfl
  | succ width ih => simp [bigEndian, ih]

/-- Decoding inverts encoding for every value that fits. -/
theorem ofBigEndian_bigEndian {width value : ℕ} (h : value < 256 ^ width) :
    ofBigEndian (bigEndian width value) = value := by
  induction width generalizing value with
  | zero =>
    have : value = 0 := by simpa using h
    simp [bigEndian, ofBigEndian, this]
  | succ width ih =>
    have hhigh : value / 256 < 256 ^ width := by
      apply Nat.div_lt_of_lt_mul
      rwa [pow_succ, mul_comm] at h
    have hlow : (UInt8.ofNat (value % 256)).toNat = value % 256 := by
      rw [UInt8.toNat_ofNat']
      omega
    have hrec := ih hhigh
    simp only [ofBigEndian] at hrec ⊢
    rw [bigEndian, List.foldl_append, hrec, List.foldl_cons, List.foldl_nil, hlow]
    omega

/-- The encoding separates the values that fit. -/
theorem bigEndian_injective {width value value' : ℕ} (h : value < 256 ^ width)
    (h' : value' < 256 ^ width) (heq : bigEndian width value = bigEndian width value') :
    value = value' := by
  rw [← ofBigEndian_bigEndian h, heq, ofBigEndian_bigEndian h']

/-- What a big-endian string of known width denotes fits that width. -/
theorem ofBigEndian_lt (source : Bytes) : ofBigEndian source < 256 ^ source.length := by
  induction source using List.reverseRecOn with
  | nil => simp [ofBigEndian]
  | append_singleton front byte ih =>
    have hbyte : byte.toNat < 256 := byte.toNat_lt
    simp only [ofBigEndian, List.foldl_append, List.foldl_cons, List.foldl_nil,
      List.length_append, List.length_cons, List.length_nil, zero_add, pow_succ] at ih ⊢
    omega

/-- Encoding inverts decoding. -/
theorem bigEndian_ofBigEndian (source : Bytes) :
    bigEndian source.length (ofBigEndian source) = source := by
  induction source using List.reverseRecOn with
  | nil => rfl
  | append_singleton front byte ih =>
    have hbyte : byte.toNat < 256 := byte.toNat_lt
    have hvalue : ofBigEndian (front ++ [byte]) = ofBigEndian front * 256 + byte.toNat := by
      simp [ofBigEndian]
    have hhigh : (ofBigEndian front * 256 + byte.toNat) / 256 = ofBigEndian front := by omega
    have hlow : (ofBigEndian front * 256 + byte.toNat) % 256 = byte.toNat := by omega
    rw [List.length_append, List.length_singleton, hvalue, bigEndian, hhigh, hlow, ih,
      UInt8.ofNat_toNat]

/-- A byte string of at least eight bytes, split into its header and its payload. -/
theorem exists_header {wire : Bytes} (h : 8 ≤ wire.length) :
    ∃ b0 b1 b2 b3 b4 b5 b6 b7 payload,
      wire = b0 :: b1 :: b2 :: b3 :: b4 :: b5 :: b6 :: b7 :: payload := by
  match wire, h with
  | b0 :: b1 :: b2 :: b3 :: b4 :: b5 :: b6 :: b7 :: payload, _ =>
    exact ⟨b0, b1, b2, b3, b4, b5, b6, b7, payload, rfl⟩

/-- Two bytes spell the number they denote. -/
theorem bigEndian_two (high low : UInt8) :
    bigEndian 2 (high.toNat * 256 + low.toNat) = [high, low] := by
  simpa [ofBigEndian] using bigEndian_ofBigEndian [high, low]

/-! ## Exclusive or -/

/-- The bytewise exclusive or of two byte strings. -/
def xorBytes (x y : Bytes) : Bytes := List.zipWith (· ^^^ ·) x y

@[simp]
theorem length_xorBytes (x y : Bytes) :
    (xorBytes x y).length = min x.length y.length := by
  simp [xorBytes]

/-- With one operand fixed, the exclusive or of strings of its length is injective. -/
theorem xorBytes_left_injective {x y y' : Bytes} (hy : y.length = x.length)
    (hy' : y'.length = x.length) (h : xorBytes x y = xorBytes x y') : y = y' := by
  induction x generalizing y y' with
  | nil =>
    rw [List.length_nil, List.length_eq_zero_iff] at hy hy'
    rw [hy, hy']
  | cons head tail ih =>
    cases y with
    | nil => simp at hy
    | cons byte rest =>
      cases y' with
      | nil => simp at hy'
      | cons byte' rest' =>
        simp only [xorBytes, List.zipWith_cons_cons, List.cons.injEq] at h
        have hbyte : byte = byte' := by
          have := congrArg (head ^^^ ·) h.1
          simpa [← UInt8.xor_assoc] using this
        rw [hbyte, ih (by simpa using hy) (by simpa using hy') h.2]

end PqBleHandshake.Foundation
