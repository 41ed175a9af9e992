import PqBleHandshake.Mlkem.Product
import PqBleHandshake.Foundation.Bytes

/-!
# Compression and serialization

Coefficients are rounded to 4 or 10 bits and packed into bytes, or packed with all their 12 bits (`compress.h`,
`compress.c`).  Packing loses nothing; rounding is exact, which the code reaches without a division by multiplying with
a rounded reciprocal.
-/

namespace PqBleHandshake.Mlkem

open Foundation

/-- `(uint32_t)u` -/
def toUint32 (u : Int16) : UInt32 := u.toInt32.toUInt32

/-- `mlk_scalar_compress_d4` -/
def scalarCompressD4 (u : Int16) : UInt8 := ((toUint32 u * 1290160 + 0x8000000) >>> 28).toUInt8

/-- `mlk_scalar_decompress_d4` -/
def scalarDecompressD4 (u : UInt8) : Int16 := ((u.toUInt32 * 3329 + 8) >>> 4).toUInt16.toInt16

/-- `mlk_scalar_compress_d10` -/
def scalarCompressD10 (u : Int16) : UInt16 :=
  let d0 := u.toInt64.toUInt64 * 2642263040
  let d0 := (d0 + 0x100000000) >>> 33
  (d0 &&& 0x3FF).toUInt16

/-- `mlk_scalar_decompress_d10` -/
def scalarDecompressD10 (u : UInt16) : Int16 := ((u.toUInt32 * 3329 + 512) >>> 10).toUInt16.toInt16

/-- `bytes[i]` -/
def byteAt (bytes : Bytes) (i : ℕ) : UInt8 := bytes.getD i 0

/-- `mlk_poly_compress_d4` -/
def polyCompressD4 (a : Poly) : Bytes := List.ofFn fun i : Fin 128 ↦
  scalarCompressD4 (a.coeff (2 * i)) ||| scalarCompressD4 (a.coeff (2 * i + 1)) <<< 4

/-- `mlk_poly_decompress_d4` -/
def polyDecompressD4 (a : Bytes) : Poly := Vector.ofFn fun n : Fin 256 ↦
  scalarDecompressD4 ((byteAt a (n / 2) >>> (if n.val % 2 = 0 then 0 else 4)) &&& 0xF)

/-- The five bytes of four values of ten bits, as `mlk_poly_compress_d10` writes them. -/
def packD10 (t : ℕ → UInt16) : ℕ → UInt8
  | 0 => (t 0 >>> 0 &&& 0xFF).toUInt8
  | 1 => (t 0 >>> 8 ||| (t 1 <<< 2 &&& 0xFF)).toUInt8
  | 2 => (t 1 >>> 6 ||| (t 2 <<< 4 &&& 0xFF)).toUInt8
  | 3 => (t 2 >>> 4 ||| (t 3 <<< 6 &&& 0xFF)).toUInt8
  | _ => (t 3 >>> 2).toUInt8

/-- `mlk_poly_compress_d10` -/
def polyCompressD10 (a : Poly) : Bytes := List.ofFn fun i : Fin 320 ↦
  packD10 (fun k ↦ scalarCompressD10 (a.coeff (4 * (i / 5) + k))) (i % 5)

/-- The four values of ten bits in five bytes, as `mlk_poly_decompress_d10` takes them out. -/
def unpackD10 (base : ℕ → UInt8) : ℕ → UInt16
  | 0 => (0x3FF : UInt16) &&& ((base 0 >>> 0).toUInt16 ||| (base 1).toUInt16 <<< 8)
  | 1 => (0x3FF : UInt16) &&& ((base 1 >>> 2).toUInt16 ||| (base 2).toUInt16 <<< 6)
  | 2 => (0x3FF : UInt16) &&& ((base 2 >>> 4).toUInt16 ||| (base 3).toUInt16 <<< 4)
  | _ => (0x3FF : UInt16) &&& ((base 3 >>> 6).toUInt16 ||| (base 4).toUInt16 <<< 2)

/-- `mlk_poly_decompress_d10` -/
def polyDecompressD10 (a : Bytes) : Poly := Vector.ofFn fun n : Fin 256 ↦
  scalarDecompressD10 (unpackD10 (fun i ↦ byteAt a (5 * (n / 4) + i)) (n % 4))

/-- The three bytes of two values of twelve bits, as `mlk_poly_tobytes` writes them. -/
def pack12 (t0 t1 : UInt16) : ℕ → UInt8
  | 0 => (t0 &&& 0xFF).toUInt8
  | 1 => (t0 >>> 8 ||| (t1 <<< 4 &&& 0xF0)).toUInt8
  | _ => (t1 >>> 4).toUInt8

/-- `mlk_poly_tobytes` -/
def polyTobytes (a : Poly) : Bytes := List.ofFn fun i : Fin 384 ↦
  pack12 (a.coeff (2 * (i / 3))).toUInt16 (a.coeff (2 * (i / 3) + 1)).toUInt16 (i % 3)

/-- The two values of twelve bits in three bytes, as `mlk_poly_frombytes` takes them out. -/
def unpack12 (t0 t1 t2 : UInt8) : ℕ → UInt16
  | 0 => t0.toUInt16 ||| (t1.toUInt16 <<< 8 &&& 0xFFF)
  | _ => t1.toUInt16 >>> 4 ||| t2.toUInt16 <<< 4

/-- `mlk_poly_frombytes` -/
def polyFrombytes (a : Bytes) : Poly := Vector.ofFn fun n : Fin 256 ↦
  (unpack12 (byteAt a (3 * (n / 2))) (byteAt a (3 * (n / 2) + 1)) (byteAt a (3 * (n / 2) + 2)) (n % 2)).toInt16

/-! ## Rounding -/

/-- A word that stands for a nonnegative number. -/
theorem eq_of_bmod {x : ℤ} {w m : ℕ} (h : x = (w : ℤ).bmod m) (hx : 0 ≤ x) (hw : w < m) : (w : ℤ) = x := by
  rw [Int.bmod_def, Int.emod_eq_of_lt (by omega) (by omega)] at h
  split at h <;> omega

theorem toNat_toUint32 {u : Int16} (h : 0 ≤ u.toInt) : ((toUint32 u).toNat : ℤ) = u.toInt := by
  refine eq_of_bmod ?_ h (toUint32 u).toNat_lt
  rw [← Int16.toInt_toInt32]
  exact BitVec.toInt_eq_toNat_bmod _

theorem toNat_toUInt64 {u : Int16} (h : 0 ≤ u.toInt) : (u.toInt64.toUInt64.toNat : ℤ) = u.toInt := by
  refine eq_of_bmod ?_ h u.toInt64.toUInt64.toNat_lt
  rw [← Int16.toInt_toInt64]
  exact BitVec.toInt_eq_toNat_bmod _

theorem and_15 (x : ℕ) : x &&& 15 = x % 16 := Nat.and_two_pow_sub_one_eq_mod x 4

theorem and_255 (x : ℕ) : x &&& 255 = x % 256 := Nat.and_two_pow_sub_one_eq_mod x 8

theorem and_1023 (x : ℕ) : x &&& 1023 = x % 1024 := Nat.and_two_pow_sub_one_eq_mod x 10

theorem and_4095 (x : ℕ) : x &&& 4095 = x % 4096 := Nat.and_two_pow_sub_one_eq_mod x 12

/-- The upper half of a byte. -/
theorem and_240 (x : ℕ) : x &&& 240 = x % 256 / 16 * 16 := by
  have hbyte : ∀ y < 256, y &&& 240 = y / 16 * 16 := by decide +kernel
  calc x &&& 240 = x &&& (255 &&& 240) := rfl
    _ = x % 256 &&& 240 := by rw [← Nat.and_assoc, and_255]
    _ = x % 256 / 16 * 16 := hbyte _ (Nat.mod_lt _ (by norm_num))

/-- Bits side by side. -/
theorem lor_high {x k : ℕ} (y : ℕ) (h : x < 2 ^ k) : x ||| y * 2 ^ k = x + y * 2 ^ k := by
  rw [Nat.or_comm, add_comm, ← Nat.shiftLeft_eq, Nat.shiftLeft_add_eq_or_of_lt h]

/-- A sum that wraps, shifted down. -/
theorem wrap_div {m d e : ℕ} (x c : ℕ) (h : m = d * e) : (x % m + c) % m / d = (x + c) / d % e := by
  rw [Nat.mod_add_mod, h, Nat.mod_mul_right_div_self]

section Rounding

variable {u : Int16} {n : ℕ}

theorem scalarCompressD4_spec (hu : u.toInt = n) (hn : n < 3329) :
    (scalarCompressD4 u).toNat = (16 * n + 1664) / 3329 % 16 := by
  have hword : (toUint32 u).toNat = n := by
    have := @toNat_toUint32 u (by omega)
    omega
  have hnat : (scalarCompressD4 u).toNat = (n * 1290160 % 4294967296 + 134217728) % 4294967296 / 268435456 % 256 := by
    simp only [scalarCompressD4, UInt32.toNat_toUInt8, UInt32.toNat_shiftRight, UInt32.toNat_add, UInt32.toNat_mul,
      hword, UInt32.reduceToNat, Nat.reduceMod, Nat.reducePow, Nat.shiftRight_eq_div_pow]
  have hround : (n * 1290160 + 134217728) / 268435456 = (16 * n + 1664) / 3329 := by
    have hlow := Nat.div_mul_le_self (16 * n + 1664) 3329
    have hhigh := Nat.lt_div_mul_add (a := 16 * n + 1664) (b := 3329) (by norm_num)
    exact Nat.div_eq_of_lt_le (by linarith) (by linarith)
  rw [hnat, wrap_div _ _ (show 4294967296 = 268435456 * 16 by norm_num), hround]
  omega

theorem scalarCompressD10_spec (hu : u.toInt = n) (hn : n < 3329) :
    (scalarCompressD10 u).toNat = (1024 * n + 1664) / 3329 % 1024 := by
  have hword : u.toInt64.toUInt64.toNat = n := by
    have := @toNat_toUInt64 u (by omega)
    omega
  have hnat : (scalarCompressD10 u).toNat =
      (n * 2642263040 % 18446744073709551616 + 4294967296) % 18446744073709551616 / 8589934592 % 1024 := by
    simp only [scalarCompressD10, UInt64.toNat_toUInt16, UInt64.toNat_and, UInt64.toNat_shiftRight, UInt64.toNat_add,
      UInt64.toNat_mul, hword, UInt64.reduceToNat, Nat.reduceMod, Nat.reducePow, Nat.shiftRight_eq_div_pow, and_1023]
    omega
  have hround : (n * 2642263040 + 4294967296) / 8589934592 = (1024 * n + 1664) / 3329 := by
    have hlow := Nat.div_mul_le_self (1024 * n + 1664) 3329
    have hhigh := Nat.lt_div_mul_add (a := 1024 * n + 1664) (b := 3329) (by norm_num)
    exact Nat.div_eq_of_lt_le (by linarith) (by linarith)
  rw [hnat, wrap_div _ _ (show 18446744073709551616 = 8589934592 * 2147483648 by norm_num), hround]
  omega

end Rounding

theorem toInt_of_toNat {x : UInt16} (h : x.toNat < 32768) : x.toInt16.toInt = x.toNat := by
  rw [toInt_toInt16]
  exact bmod_16_eq (by omega)

theorem scalarDecompressD4_spec {u : UInt8} (hu : u.toNat < 16) :
    (scalarDecompressD4 u).toInt = ((u.toNat * 3329 + 8) / 16 : ℕ) := by
  have hnat : ((u.toUInt32 * 3329 + 8) >>> 4).toUInt16.toNat = (u.toNat * 3329 + 8) / 16 := by
    have hshift : ((u.toUInt32 * 3329 + 8) >>> 4).toUInt16.toNat =
        ((u.toNat * 3329 % 4294967296 + 8) % 4294967296) >>> 4 % 65536 := by simp
    rw [hshift, Nat.shiftRight_eq_div_pow, Nat.mod_eq_of_lt (show u.toNat * 3329 < 4294967296 by omega),
      Nat.mod_eq_of_lt (show u.toNat * 3329 + 8 < 4294967296 by omega)]
    omega
  rw [scalarDecompressD4, toInt_of_toNat (by omega), hnat]

theorem scalarDecompressD10_spec {u : UInt16} (hu : u.toNat < 1024) :
    (scalarDecompressD10 u).toInt = ((u.toNat * 3329 + 512) / 1024 : ℕ) := by
  have hnat : ((u.toUInt32 * 3329 + 512) >>> 10).toUInt16.toNat = (u.toNat * 3329 + 512) / 1024 := by
    have hshift : ((u.toUInt32 * 3329 + 512) >>> 10).toUInt16.toNat =
        ((u.toNat * 3329 % 4294967296 + 512) % 4294967296) >>> 10 % 65536 := by simp
    rw [hshift, Nat.shiftRight_eq_div_pow, Nat.mod_eq_of_lt (show u.toNat * 3329 < 4294967296 by omega),
      Nat.mod_eq_of_lt (show u.toNat * 3329 + 512 < 4294967296 by omega)]
    omega
  rw [scalarDecompressD10, toInt_of_toNat (by omega), hnat]

/-- Rounding what was decompressed gives it back. -/
theorem compressD4_decompressD4 {u : UInt8} (hu : u.toNat < 16) :
    scalarCompressD4 (scalarDecompressD4 u) = u := by
  rw [← UInt8.toNat_inj, scalarCompressD4_spec (scalarDecompressD4_spec hu) (by omega)]
  obtain ⟨x, hx⟩ : ∃ x, u.toNat = x := ⟨_, rfl⟩
  rw [hx] at hu ⊢
  have hall : ∀ x < 16, (16 * ((x * 3329 + 8) / 16) + 1664) / 3329 % 16 = x := by decide
  exact hall x hu

theorem compressD10_decompressD10 {u : UInt16} (hu : u.toNat < 1024) :
    scalarCompressD10 (scalarDecompressD10 u) = u := by
  rw [← UInt16.toNat_inj, scalarCompressD10_spec (scalarDecompressD10_spec hu) (by omega)]
  obtain ⟨y, hy⟩ : ∃ y, (u.toNat * 3329 + 512) / 1024 = y := ⟨_, rfl⟩
  have hround : (1024 * y + 1664) / 3329 = u.toNat := by omega
  rw [hy, hround, Nat.mod_eq_of_lt hu]

/-! ## Packing -/

theorem lor_eq_add {x y k : ℕ} (hx : x < 2 ^ k) (hy : y % 2 ^ k = 0) : x ||| y = x + y := by
  obtain ⟨z, rfl⟩ := Nat.dvd_of_mod_eq_zero hy
  rw [mul_comm]
  exact lor_high z hx

theorem nibbles (b : UInt8) : ((b >>> (0 : UInt8)) &&& 0xF) ||| ((b >>> (4 : UInt8)) &&& 0xF) <<< (4 : UInt8) = b := by
  have hb := b.toNat_lt
  rw [← UInt8.toNat_inj]
  simp only [UInt8.toNat_or, UInt8.toNat_shiftLeft, UInt8.toNat_and, UInt8.toNat_shiftRight, UInt8.reduceToNat,
    Nat.reduceMod, Nat.shiftRight_eq_div_pow, Nat.shiftLeft_eq, and_15]
  rw [lor_eq_add (k := 4) (by omega) (by omega)]
  omega

section Bytes

variable {t : ℕ → UInt16} {base : ℕ → UInt8}

theorem packD10_toNat (h : ∀ k < 4, (t k).toNat < 1024) :
    ((packD10 t 0).toNat = (t 0).toNat % 256 ∧ (packD10 t 1).toNat = (t 0).toNat / 256 + (t 1).toNat * 4 % 256) ∧
    ((packD10 t 2).toNat = (t 1).toNat / 64 + (t 2).toNat * 16 % 256 ∧
      (packD10 t 3).toNat = (t 2).toNat / 16 + (t 3).toNat * 64 % 256) ∧ (packD10 t 4).toNat = (t 3).toNat / 4 := by
  have h0 := h 0 (by norm_num)
  have h1 := h 1 (by norm_num)
  have h2 := h 2 (by norm_num)
  have h3 := h 3 (by norm_num)
  simp only [packD10, UInt16.toNat_toUInt8, UInt16.toNat_or, UInt16.toNat_shiftLeft, UInt16.toNat_and,
    UInt16.toNat_shiftRight, UInt16.reduceToNat, Nat.reduceMod, Nat.shiftRight_eq_div_pow, Nat.shiftLeft_eq, and_255]
  refine ⟨⟨by omega, ?_⟩, ⟨?_, ?_⟩, by omega⟩
  · rw [lor_eq_add (k := 2) (by omega) (by omega)]
    omega
  · rw [lor_eq_add (k := 4) (by omega) (by omega)]
    omega
  · rw [lor_eq_add (k := 6) (by omega) (by omega)]
    omega

theorem unpackD10_toNat :
    ((unpackD10 base 0).toNat = ((base 0).toNat + (base 1).toNat * 256) % 1024 ∧
      (unpackD10 base 1).toNat = ((base 1).toNat / 4 + (base 2).toNat * 64) % 1024) ∧
    (unpackD10 base 2).toNat = ((base 2).toNat / 16 + (base 3).toNat * 16) % 1024 ∧
      (unpackD10 base 3).toNat = ((base 3).toNat / 64 + (base 4).toNat * 4) % 1024 := by
  have h0 := (base 0).toNat_lt
  have h1 := (base 1).toNat_lt
  have h2 := (base 2).toNat_lt
  have h3 := (base 3).toNat_lt
  have h4 := (base 4).toNat_lt
  simp only [unpackD10, UInt8.toNat_toUInt16, UInt16.toNat_or, UInt16.toNat_shiftLeft, UInt16.toNat_and,
    UInt8.toNat_shiftRight, UInt16.reduceToNat, UInt8.reduceToNat, Nat.reduceMod, Nat.shiftRight_eq_div_pow,
    Nat.shiftLeft_eq, Nat.and_comm 1023, and_1023]
  refine ⟨⟨?_, ?_⟩, ?_, ?_⟩
  · rw [lor_eq_add (k := 8) (by omega) (by omega)]
    omega
  · rw [lor_eq_add (k := 6) (by omega) (by omega)]
    omega
  · rw [lor_eq_add (k := 4) (by omega) (by omega)]
    omega
  · rw [lor_eq_add (k := 2) (by omega) (by omega)]
    omega

end Bytes

section Codecs

variable {t0 t1 : UInt16} {b0 b1 b2 : UInt8}

theorem pack12_toNat (h0 : t0.toNat < 4096) (h1 : t1.toNat < 4096) :
    (pack12 t0 t1 0).toNat = t0.toNat % 256 ∧ (pack12 t0 t1 1).toNat = t0.toNat / 256 + t1.toNat * 16 % 256 ∧
      (pack12 t0 t1 2).toNat = t1.toNat / 16 := by
  simp only [pack12, UInt16.toNat_toUInt8, UInt16.toNat_or, UInt16.toNat_shiftLeft, UInt16.toNat_and,
    UInt16.toNat_shiftRight, UInt16.reduceToNat, Nat.reduceMod, Nat.shiftRight_eq_div_pow, Nat.shiftLeft_eq, and_255,
    and_240]
  refine ⟨by omega, ?_, by omega⟩
  rw [lor_eq_add (k := 4) (by omega) (by omega)]
  omega

theorem unpack12_toNat :
    (unpack12 b0 b1 b2 0).toNat = b0.toNat + b1.toNat * 256 % 4096 ∧
      (unpack12 b0 b1 b2 1).toNat = b1.toNat / 16 + b2.toNat * 16 := by
  have h0 := b0.toNat_lt
  have h1 := b1.toNat_lt
  have h2 := b2.toNat_lt
  simp only [unpack12, UInt8.toNat_toUInt16, UInt16.toNat_or, UInt16.toNat_shiftLeft, UInt16.toNat_and,
    UInt16.toNat_shiftRight, UInt16.reduceToNat, Nat.reduceMod, Nat.shiftRight_eq_div_pow, Nat.shiftLeft_eq, and_4095]
  refine ⟨?_, ?_⟩
  · rw [lor_eq_add (k := 8) (by omega) (by omega)]
    omega
  · rw [lor_eq_add (k := 4) (by omega) (by omega)]
    omega

end Codecs

theorem byteAt_ofFn {n i : ℕ} {f : Fin n → UInt8} (h : i < n) : byteAt (List.ofFn f) i = f ⟨i, h⟩ := by
  simp [byteAt, h]

theorem bytes_ext {a b : Bytes} (hlength : a.length = b.length) (h : ∀ i < a.length, byteAt a i = byteAt b i) :
    a = b := by
  refine List.ext_getElem hlength fun i hi hi' ↦ ?_
  have hbyte := h i hi
  rwa [byteAt, byteAt, List.getD_eq_getElem _ _ hi, List.getD_eq_getElem _ _ hi'] at hbyte

theorem nibble_lt (x : UInt8) : (x &&& 0xF).toNat < 16 := by
  rw [UInt8.toNat_and]
  exact (and_15 x.toNat).trans_lt (Nat.mod_lt _ (by norm_num))

theorem unpackD10_lt (base : ℕ → UInt8) {k : ℕ} (hk : k < 4) : (unpackD10 base k).toNat < 1024 := by
  obtain ⟨⟨h0, h1⟩, h2, h3⟩ := @unpackD10_toNat base
  interval_cases k <;> omega

theorem packD10_unpackD10 {t : ℕ → UInt16} {base : ℕ → UInt8} (h : ∀ k < 4, t k = unpackD10 base k) {i : ℕ}
    (hi : i < 5) : packD10 t i = base i := by
  obtain ⟨⟨p0, p1⟩, ⟨p2, p3⟩, p4⟩ := packD10_toNat fun k hk ↦ (h k hk).symm ▸ unpackD10_lt base hk
  obtain ⟨⟨u0, u1⟩, u2, u3⟩ := @unpackD10_toNat base
  rw [← h 0 (by norm_num)] at u0
  rw [← h 1 (by norm_num)] at u1
  rw [← h 2 (by norm_num)] at u2
  rw [← h 3 (by norm_num)] at u3
  have h0 := (base 0).toNat_lt
  have h1 := (base 1).toNat_lt
  have h2 := (base 2).toNat_lt
  have h3 := (base 3).toNat_lt
  have h4 := (base 4).toNat_lt
  rw [← UInt8.toNat_inj]
  interval_cases i <;> omega

theorem polyCompressD4_polyDecompressD4 {a : Bytes} (h : a.length = 128) :
    polyCompressD4 (polyDecompressD4 a) = a := by
  refine bytes_ext (by rw [polyCompressD4, List.length_ofFn, h]) fun i hi ↦ ?_
  rw [polyCompressD4, List.length_ofFn] at hi
  rw [polyCompressD4, byteAt_ofFn hi]
  dsimp only
  rw [polyDecompressD4, Words.coeff_ofFn (by omega), Words.coeff_ofFn (by omega)]
  dsimp only
  rw [if_pos (by omega), if_neg (by omega), show 2 * i / 2 = i by omega, show (2 * i + 1) / 2 = i by omega,
    compressD4_decompressD4 (nibble_lt _), compressD4_decompressD4 (nibble_lt _)]
  exact nibbles _

theorem polyCompressD10_polyDecompressD10 {a : Bytes} (h : a.length = 320) :
    polyCompressD10 (polyDecompressD10 a) = a := by
  refine bytes_ext (by rw [polyCompressD10, List.length_ofFn, h]) fun i hi ↦ ?_
  rw [polyCompressD10, List.length_ofFn] at hi
  rw [polyCompressD10, byteAt_ofFn hi]
  dsimp only
  have hpack := @packD10_unpackD10 (fun k ↦ scalarCompressD10 ((polyDecompressD10 a).coeff (4 * (i / 5) + k)))
    (fun j ↦ byteAt a (5 * (i / 5) + j)) (fun k hk ↦ ?_) (i % 5) (Nat.mod_lt _ (by norm_num))
  · rwa [Nat.div_add_mod] at hpack
  · rw [polyDecompressD10, Words.coeff_ofFn (by omega)]
    dsimp only
    rw [show (4 * (i / 5) + k) / 4 = i / 5 by omega, show (4 * (i / 5) + k) % 4 = k by omega]
    exact compressD10_decompressD10 (unpackD10_lt _ hk)

theorem pack12_unpack12 (b0 b1 b2 : UInt8) :
    (pack12 (unpack12 b0 b1 b2 0) (unpack12 b0 b1 b2 1) 0 = b0 ∧
      pack12 (unpack12 b0 b1 b2 0) (unpack12 b0 b1 b2 1) 1 = b1) ∧
    pack12 (unpack12 b0 b1 b2 0) (unpack12 b0 b1 b2 1) 2 = b2 := by
  have h0 := b0.toNat_lt
  have h1 := b1.toNat_lt
  have h2 := b2.toNat_lt
  obtain ⟨u0, u1⟩ := @unpack12_toNat b0 b1 b2
  obtain ⟨p0, p1, p2⟩ := @pack12_toNat (unpack12 b0 b1 b2 0) (unpack12 b0 b1 b2 1) (by omega) (by omega)
  simp only [← UInt8.toNat_inj]
  omega

theorem unpack12_pack12 {t0 t1 : UInt16} (h0 : t0.toNat < 4096) (h1 : t1.toNat < 4096) :
    unpack12 (pack12 t0 t1 0) (pack12 t0 t1 1) (pack12 t0 t1 2) 0 = t0 ∧
      unpack12 (pack12 t0 t1 0) (pack12 t0 t1 1) (pack12 t0 t1 2) 1 = t1 := by
  obtain ⟨p0, p1, p2⟩ := pack12_toNat h0 h1
  obtain ⟨u0, u1⟩ := @unpack12_toNat (pack12 t0 t1 0) (pack12 t0 t1 1) (pack12 t0 t1 2)
  simp only [← UInt16.toNat_inj]
  omega

theorem toNat_toUInt16 {x : Int16} {bound : ℕ} (h : 0 ≤ x.toInt ∧ x.toInt < bound) : x.toUInt16.toNat < bound := by
  have hword : (x.toUInt16.toNat : ℤ) = x.toInt :=
    eq_of_bmod (BitVec.toInt_eq_toNat_bmod _) h.1 x.toUInt16.toNat_lt
  omega

theorem polyTobytes_polyFrombytes {a : Bytes} (h : a.length = 384) : polyTobytes (polyFrombytes a) = a := by
  refine bytes_ext (by rw [polyTobytes, List.length_ofFn, h]) fun i hi ↦ ?_
  rw [polyTobytes, List.length_ofFn] at hi
  rw [polyTobytes, byteAt_ofFn hi]
  dsimp only
  rw [polyFrombytes, Words.coeff_ofFn (by omega), Words.coeff_ofFn (by omega)]
  dsimp only
  rw [show 2 * (i / 3) / 2 = i / 3 by omega, show (2 * (i / 3) + 1) / 2 = i / 3 by omega,
    show 2 * (i / 3) % 2 = 0 by omega, show (2 * (i / 3) + 1) % 2 = 1 by omega, UInt16.toUInt16_toInt16,
    UInt16.toUInt16_toInt16]
  obtain ⟨⟨h0, h1⟩, h2⟩ := pack12_unpack12 (byteAt a (3 * (i / 3))) (byteAt a (3 * (i / 3) + 1))
    (byteAt a (3 * (i / 3) + 2))
  have hi : i = 3 * (i / 3) + i % 3 := (Nat.div_add_mod i 3).symm
  have hmod : i % 3 < 3 := Nat.mod_lt _ (by norm_num)
  obtain hmod | hmod | hmod : i % 3 = 0 ∨ i % 3 = 1 ∨ i % 3 = 2 := by omega
  · rw [hmod, h0, show 3 * (i / 3) = i by omega]
  · rw [hmod, h1, show 3 * (i / 3) + 1 = i by omega]
  · rw [hmod, h2, show 3 * (i / 3) + 2 = i by omega]

theorem unsigned_polyFrombytes (a : Bytes) : Unsigned (polyFrombytes a) 4096 := by
  refine unsigned_of_coeff (by norm_num) fun n hn ↦ ?_
  rw [polyFrombytes, Words.coeff_ofFn hn]
  dsimp only
  obtain ⟨h0, h1⟩ := @unpack12_toNat (byteAt a (3 * (n / 2))) (byteAt a (3 * (n / 2) + 1)) (byteAt a (3 * (n / 2) + 2))
  have hb0 := (byteAt a (3 * (n / 2))).toNat_lt
  have hb1 := (byteAt a (3 * (n / 2) + 1)).toNat_lt
  have hb2 := (byteAt a (3 * (n / 2) + 2)).toNat_lt
  obtain hmod | hmod : n % 2 = 0 ∨ n % 2 = 1 := by omega
  · rw [hmod, toInt_of_toNat (by omega)]
    omega
  · rw [hmod, toInt_of_toNat (by omega)]
    omega

theorem polyFrombytes_polyTobytes {p : Poly} (h : Unsigned p 4096) : polyFrombytes (polyTobytes p) = p := by
  refine Vector.ext fun n hn ↦ ?_
  have hcoeff : (polyFrombytes (polyTobytes p)).coeff n = p.coeff n := by
    rw [polyFrombytes, Words.coeff_ofFn hn, polyTobytes, byteAt_ofFn (by omega), byteAt_ofFn (by omega),
      byteAt_ofFn (by omega)]
    dsimp only
    rw [show 3 * (n / 2) / 3 = n / 2 by omega, show (3 * (n / 2) + 1) / 3 = n / 2 by omega,
      show (3 * (n / 2) + 2) / 3 = n / 2 by omega, show 3 * (n / 2) % 3 = 0 by omega,
      show (3 * (n / 2) + 1) % 3 = 1 by omega, show (3 * (n / 2) + 2) % 3 = 2 by omega]
    obtain ⟨h0, h1⟩ := unpack12_pack12 (toNat_toUInt16 (h (2 * (n / 2)))) (toNat_toUInt16 (h (2 * (n / 2) + 1)))
    obtain hmod | hmod : n % 2 = 0 ∨ n % 2 = 1 := by omega
    · rw [hmod, h0, Int16.toInt16_toUInt16, show 2 * (n / 2) = n by omega]
    · rw [hmod, h1, Int16.toInt16_toUInt16, show 2 * (n / 2) + 1 = n by omega]
  simpa [Words.coeff, hn] using hcoeff

/-- `y` is `x` moved by at most `bound` around the circle of residues. -/
def Near (bound : ℤ) (x y : Int16) : Prop := ∃ e k : ℤ, |e| ≤ bound ∧ y.toInt = x.toInt + e + 3329 * k

section Near

variable {u : Int16} {p : Poly} {n : ℕ}

theorem near_decompressD4 (hu : 0 ≤ u.toInt ∧ u.toInt < 3329) :
    Near 104 u (scalarDecompressD4 (scalarCompressD4 u)) := by
  obtain ⟨n, hn⟩ := Int.eq_ofNat_of_zero_le hu.1
  have hround := scalarCompressD4_spec hn (by omega)
  rw [Near, scalarDecompressD4_spec (by omega), hround, hn]
  obtain ⟨q, hq⟩ : ∃ q, (16 * n + 1664) / 3329 = q := ⟨_, rfl⟩
  rw [hq]
  by_cases hlast : q < 16
  · refine ⟨((q * 3329 + 8) / 16 : ℕ) - n, 0, abs_le.mpr ⟨by omega, by omega⟩, ?_⟩
    rw [Nat.mod_eq_of_lt hlast]
    omega
  · -- the largest residues round up to 0
    refine ⟨3329 - n, -1, abs_le.mpr ⟨by omega, by omega⟩, ?_⟩
    rw [show q = 16 by omega]
    omega

theorem near_decompressD10 (hu : 0 ≤ u.toInt ∧ u.toInt < 3329) :
    Near 2 u (scalarDecompressD10 (scalarCompressD10 u)) := by
  obtain ⟨n, hn⟩ := Int.eq_ofNat_of_zero_le hu.1
  have hround := scalarCompressD10_spec hn (by omega)
  rw [Near, scalarDecompressD10_spec (by omega), hround, hn]
  obtain ⟨q, hq⟩ : ∃ q, (1024 * n + 1664) / 3329 = q := ⟨_, rfl⟩
  rw [hq]
  by_cases hlast : q < 1024
  · refine ⟨((q * 3329 + 512) / 1024 : ℕ) - n, 0, abs_le.mpr ⟨by omega, by omega⟩, ?_⟩
    rw [Nat.mod_eq_of_lt hlast]
    omega
  · refine ⟨3329 - n, -1, abs_le.mpr ⟨by omega, by omega⟩, ?_⟩
    rw [show q = 1024 by omega]
    omega

theorem compressD4_lt (hu : 0 ≤ u.toInt ∧ u.toInt < 3329) : (scalarCompressD4 u).toNat < 16 := by
  obtain ⟨n, hn⟩ := Int.eq_ofNat_of_zero_le hu.1
  rw [scalarCompressD4_spec hn (by omega)]
  exact Nat.mod_lt _ (by norm_num)

theorem compressD10_lt (hu : 0 ≤ u.toInt ∧ u.toInt < 3329) : (scalarCompressD10 u).toNat < 1024 := by
  obtain ⟨n, hn⟩ := Int.eq_ofNat_of_zero_le hu.1
  rw [scalarCompressD10_spec hn (by omega)]
  exact Nat.mod_lt _ (by norm_num)

theorem nibbles_lor {x y : UInt8} (hx : x.toNat < 16) (hy : y.toNat < 16) :
    ((x ||| y <<< 4) >>> (0 : UInt8)) &&& 0xF = x ∧ ((x ||| y <<< 4) >>> (4 : UInt8)) &&& 0xF = y := by
  rw [← UInt8.toNat_inj, ← UInt8.toNat_inj]
  simp only [UInt8.toNat_or, UInt8.toNat_shiftLeft, UInt8.toNat_and, UInt8.toNat_shiftRight, UInt8.reduceToNat,
    Nat.reduceMod, Nat.shiftRight_eq_div_pow, Nat.shiftLeft_eq, and_15]
  rw [lor_eq_add (k := 4) (by omega) (by omega)]
  omega

theorem coeff_decompressD4 (h : Unsigned p 3329) (hn : n < 256) :
    (polyDecompressD4 (polyCompressD4 p)).coeff n = scalarDecompressD4 (scalarCompressD4 (p.coeff n)) := by
  rw [polyDecompressD4, Words.coeff_ofFn hn, polyCompressD4, byteAt_ofFn (by omega)]
  dsimp only
  obtain ⟨hlow, hhigh⟩ := nibbles_lor (compressD4_lt (h (2 * (n / 2)))) (compressD4_lt (h (2 * (n / 2) + 1)))
  obtain hmod | hmod : n % 2 = 0 ∨ n % 2 = 1 := by omega
  · rw [if_pos hmod, hlow, show 2 * (n / 2) = n by omega]
  · rw [if_neg (by omega), hhigh, show 2 * (n / 2) + 1 = n by omega]

theorem unpackD10_packD10 {t : ℕ → UInt16} {base : ℕ → UInt8} (ht : ∀ k < 4, (t k).toNat < 1024)
    (h : ∀ i < 5, base i = packD10 t i) {k : ℕ} (hk : k < 4) : unpackD10 base k = t k := by
  have h0 := ht 0 (by norm_num)
  have h1 := ht 1 (by norm_num)
  have h2 := ht 2 (by norm_num)
  have h3 := ht 3 (by norm_num)
  have e0 : ((t 0).toNat % 256 + ((t 0).toNat / 256 + (t 1).toNat * 4 % 256) * 256) % 1024 = (t 0).toNat := by omega
  have e1 : (((t 0).toNat / 256 + (t 1).toNat * 4 % 256) / 4 + ((t 1).toNat / 64 + (t 2).toNat * 16 % 256) * 64) %
      1024 = (t 1).toNat := by omega
  have e2 : (((t 1).toNat / 64 + (t 2).toNat * 16 % 256) / 16 + ((t 2).toNat / 16 + (t 3).toNat * 64 % 256) * 16) %
      1024 = (t 2).toNat := by omega
  have e3 : (((t 2).toNat / 16 + (t 3).toNat * 64 % 256) / 64 + (t 3).toNat / 4 * 4) % 1024 = (t 3).toNat := by omega
  obtain ⟨⟨p0, p1⟩, ⟨p2, p3⟩, p4⟩ := packD10_toNat ht
  rw [← h 0 (by norm_num)] at p0
  rw [← h 1 (by norm_num)] at p1
  rw [← h 2 (by norm_num)] at p2
  rw [← h 3 (by norm_num)] at p3
  rw [← h 4 (by norm_num)] at p4
  obtain ⟨⟨u0, u1⟩, u2, u3⟩ := @unpackD10_toNat base
  rw [← UInt16.toNat_inj]
  interval_cases k
  · rw [u0, p0, p1, e0]
  · rw [u1, p1, p2, e1]
  · rw [u2, p2, p3, e2]
  · rw [u3, p3, p4, e3]

theorem coeff_decompressD10 (h : Unsigned p 3329) (hn : n < 256) :
    (polyDecompressD10 (polyCompressD10 p)).coeff n = scalarDecompressD10 (scalarCompressD10 (p.coeff n)) := by
  rw [polyDecompressD10, Words.coeff_ofFn hn]
  dsimp only
  rw [@unpackD10_packD10 (fun k ↦ scalarCompressD10 (p.coeff (4 * (n / 4) + k))) _ (fun k _ ↦ compressD10_lt (h _))
    (fun i hi ↦ ?_) _ (Nat.mod_lt _ (by norm_num)), Nat.div_add_mod]
  rw [polyCompressD10, byteAt_ofFn (by omega)]
  dsimp only
  rw [show (5 * (n / 4) + i) / 5 = n / 4 by omega, show (5 * (n / 4) + i) % 5 = i by omega]

end Near

/-- **The byte formats of keys and ciphertexts.**  Every string of the right length is the packing of what is read
from it; a polynomial survives the 12-bit format exactly and the rounded formats up to their rounding errors. -/
theorem byte_formats :
    (∀ a : Bytes, (a.length = 384 → Unsigned (polyFrombytes a) 4096 ∧ polyTobytes (polyFrombytes a) = a) ∧
      (a.length = 128 → polyCompressD4 (polyDecompressD4 a) = a) ∧
      (a.length = 320 → polyCompressD10 (polyDecompressD10 a) = a)) ∧
    (∀ p : Poly, Unsigned p 4096 → polyFrombytes (polyTobytes p) = p) ∧
    ∀ p : Poly, Unsigned p 3329 → ∀ n < 256,
      Near 104 (p.coeff n) ((polyDecompressD4 (polyCompressD4 p)).coeff n) ∧
        Near 2 (p.coeff n) ((polyDecompressD10 (polyCompressD10 p)).coeff n) := by
  refine ⟨fun a ↦ ⟨fun h ↦ ⟨unsigned_polyFrombytes a, polyTobytes_polyFrombytes h⟩, polyCompressD4_polyDecompressD4,
    polyCompressD10_polyDecompressD10⟩, fun p ↦ polyFrombytes_polyTobytes, fun p h n hn ↦ ⟨?_, ?_⟩⟩
  · rw [coeff_decompressD4 h hn]
    exact near_decompressD4 (h n)
  · rw [coeff_decompressD10 h hn]
    exact near_decompressD10 (h n)

end PqBleHandshake.Mlkem
