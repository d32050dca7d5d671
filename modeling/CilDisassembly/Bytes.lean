/-!
# Little-endian numbers

A number is stored with its lowest byte first. `Bytes.toNat` is the number stored in a list of
bytes and `Bytes.ofNat` gives the lowest bytes of a number; the bytes of a stored number are those
it was stored in (`Bytes.ofNat_toNat`). Reading an operand does not compute the number, it packs
the bytes into a word (`Bytes.packed`).
-/

set_option autoImplicit false

namespace CilDisassembly

namespace Bytes

/-- The number stored little-endian in a list of bytes. -/
def toNat : List UInt8 → Nat
  | [] => 0
  | byte :: rest => byte.toNat + 256 * toNat rest

/-- The lowest `count` bytes of a number, lowest byte first. -/
def ofNat : (count : Nat) → Nat → List UInt8
  | 0, _ => []
  | count + 1, n => UInt8.ofNat n :: ofNat count (n / 256)

/-- Put the byte with a given index into its place in a word. -/
def putByte (word : UInt64) (entry : UInt8 × Nat) : UInt64 :=
  word ||| (entry.1.toUInt64 <<< UInt64.ofNat (entry.2 * 8))

/-- The word that bytes are packed into, the lowest byte first. -/
def packed (bytes : List UInt8) : UInt64 :=
  bytes.zipIdx.foldl putByte 0

@[simp] theorem toNat_nil : toNat [] = 0 := rfl

@[simp] theorem toNat_cons (byte : UInt8) (rest : List UInt8) :
    toNat (byte :: rest) = byte.toNat + 256 * toNat rest := rfl

@[simp] theorem length_ofNat (count n : Nat) : (ofNat count n).length = count := by
  induction count generalizing n with
  | zero => rfl
  | succ count ih => simp [ofNat, ih]

/-- The bytes of a stored number are the bytes it was stored in. -/
theorem ofNat_toNat (bytes : List UInt8) : ofNat bytes.length (toNat bytes) = bytes := by
  induction bytes with
  | nil => rfl
  | cons byte rest ih =>
      have hbyte := byte.toNat_lt
      -- the first byte is the remainder, the others are the quotient
      have hhead : UInt8.ofNat (byte.toNat + 256 * toNat rest) = byte := by
        apply UInt8.toNat_inj.1
        rw [UInt8.toNat_ofNat']
        omega
      have htail : (byte.toNat + 256 * toNat rest) / 256 = toNat rest := by omega
      rw [List.length_cons, toNat_cons, ofNat, hhead, htail, ih]

end Bytes

end CilDisassembly
