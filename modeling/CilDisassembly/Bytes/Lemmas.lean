import CilDisassembly.Bytes
import Mathlib.Algebra.Order.Ring.Nat

/-!
# Bounds on little-endian numbers

A list of `k` bytes stores a number below `256 ^ k` (`Bytes.toNat_lt`), and the lowest `k` bytes
of a number store it modulo `256 ^ k` (`Bytes.toNat_ofNat`). Bytes that are packed into a word by
shifts make up the word of the number that they store, as long as there are no more than eight of
them (`Bytes.packed_eq`).
-/

set_option autoImplicit false

namespace CilDisassembly

namespace Bytes

/-- A list of bytes stores a number below `256 ^ length`. -/
theorem toNat_lt (bytes : List UInt8) : toNat bytes < 256 ^ bytes.length := by
  induction bytes with
  | nil => decide
  | cons byte rest ih =>
      have hbyte := byte.toNat_lt
      rw [toNat_cons, List.length_cons, Nat.pow_succ]
      omega

/-- The lowest bytes of a number store the number modulo a power of 256. -/
theorem toNat_ofNat (count n : Nat) : toNat (ofNat count n) = n % 256 ^ count := by
  induction count generalizing n with
  | zero => simp [ofNat, Nat.mod_one]
  | succ count ih =>
      -- a remainder by `256 * k` is a last byte and a remainder by `k`
      have hsplit : n % 256 ^ (count + 1) = n % 256 + 256 * (n / 256 % 256 ^ count) := by
        rw [Nat.pow_succ, Nat.mul_comm, Nat.mod_mul]
      rw [ofNat, toNat_cons, ih, hsplit]
      simp

/-- What bytes store is what the low ones store and what the high ones store. -/
theorem toNat_append (low high : List UInt8) :
    toNat (low ++ high) = toNat low + 256 ^ low.length * toNat high := by
  induction low with
  | nil => simp
  | cons byte low ih =>
      rw [List.cons_append, toNat_cons, ih, toNat_cons, List.length_cons, Nat.pow_succ']
      rw [Nat.mul_add, Nat.mul_assoc, Nat.add_assoc]

/-- High bytes do not matter for the remainder by a power that the low ones reach. -/
theorem toNat_append_mod (low high : List UInt8) :
    toNat (low ++ high) % 256 ^ low.length = toNat low := by
  rw [toNat_append, Nat.add_mul_mod_self_left, Nat.mod_eq_of_lt (toNat_lt low)]

/-- High bytes that are zero do not change a number. -/
theorem toNat_append_replicate_zero (bytes : List UInt8) (count : Nat) :
    toNat (bytes ++ List.replicate count 0) = toNat bytes := by
  have hzero : toNat (List.replicate count 0) = 0 := by
    induction count with
    | zero => rfl
    | succ count ih =>
        rw [List.replicate_succ, toNat_cons, ih]
        rfl
  rw [toNat_append, hzero, Nat.mul_zero, Nat.add_zero]

/-! ## Bytes packed into a word -/

/-- A byte is put in above the bytes that are there. -/
theorem toNat_putByte {word : UInt64} {k : Nat} (byte : UInt8) (hk : k < 8)
    (hword : word.toNat < 256 ^ k) :
    (putByte word (byte, k)).toNat = word.toNat + 256 ^ k * byte.toNat := by
  have hbyte := byte.toNat_lt
  have hpow : 256 ^ k = 2 ^ (k * 8) := by
    rw [Nat.mul_comm, pow_mul]
    rfl
  have hplace : byte.toNat <<< (k * 8) < 2 ^ 64 := by
    rw [Nat.shiftLeft_eq]
    calc byte.toNat * 2 ^ (k * 8) < 2 ^ 8 * 2 ^ (k * 8) :=
          Nat.mul_lt_mul_of_pos_right hbyte (Nat.two_pow_pos _)
      _ = 2 ^ (8 + k * 8) := (Nat.pow_add 2 8 _).symm
      _ ≤ 2 ^ 64 := Nat.pow_le_pow_right (by decide) (by omega)
  have hshift : (UInt64.ofNat (k * 8)).toNat % 64 = k * 8 := by
    rw [UInt64.toNat_ofNat']
    omega
  rw [hpow] at hword
  rw [putByte, UInt64.toNat_or, UInt64.toNat_shiftLeft, hshift, UInt8.toNat_toUInt64,
    Nat.mod_eq_of_lt hplace, Nat.or_comm, ← Nat.shiftLeft_add_eq_or_of_lt hword, Nat.shiftLeft_eq,
    hpow, Nat.add_comm, Nat.mul_comm byte.toNat]

/-- Bytes are put in, one after the other, above those that are there. -/
theorem toNat_foldl_putByte {bytes : List UInt8} {word : UInt64} {k : Nat}
    (hlength : k + bytes.length ≤ 8) (hword : word.toNat < 256 ^ k) :
    ((bytes.zipIdx k).foldl putByte word).toNat = word.toNat + 256 ^ k * toNat bytes := by
  induction bytes generalizing word k with
  | nil => simp
  | cons byte rest ih =>
      rw [List.length_cons] at hlength
      have hput := toNat_putByte byte (by omega) hword
      have hbelow : (putByte word (byte, k)).toNat < 256 ^ (k + 1) := by
        have hbyte := byte.toNat_lt
        rw [hput, Nat.pow_succ]
        calc word.toNat + 256 ^ k * byte.toNat < 256 ^ k + 256 ^ k * byte.toNat := by omega
          _ = 256 ^ k * (byte.toNat + 1) := by rw [Nat.mul_succ, Nat.add_comm]
          _ ≤ 256 ^ k * 256 := Nat.mul_le_mul_left _ (by omega)
      rw [List.zipIdx_cons, List.foldl_cons, ih (by omega) hbelow, hput, toNat_cons, Nat.pow_succ,
        Nat.mul_add, Nat.mul_assoc, Nat.add_assoc]

/-- Up to eight bytes are packed into the word of the number that they store. -/
theorem packed_eq {bytes : List UInt8} (h : bytes.length ≤ 8) :
    packed bytes = UInt64.ofNat (toNat bytes) := by
  apply UInt64.toNat_inj.1
  have hlt : toNat bytes < 2 ^ 64 :=
    Nat.lt_of_lt_of_le (toNat_lt bytes) (Nat.pow_le_pow_right (by decide) h)
  rw [packed, toNat_foldl_putByte (by omega) (by decide), UInt64.toNat_ofNat_of_lt' hlt]
  simp

end Bytes

end CilDisassembly
