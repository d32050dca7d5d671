import CilDisassembly.OperandKind

/-!
# Opcodes

An opcode has a mnemonic, a 16-bit value and an operand kind. Values up to 0xFF
are written as one byte; larger values are written as two bytes, the high byte
first.

A stream opens a two-byte opcode with a lead byte (`isLeadByte`). Of a run of lead
bytes only the last one counts: together with the byte behind the run it makes up
the key of the opcode (`opcodeKey`).
-/

set_option autoImplicit false

namespace CilDisassembly

/-- An instruction of the CIL instruction set, without its operand. -/
structure Opcode where
  /-- The mnemonic, such as `ldc.i4.s`. -/
  mnemonic : String
  /-- The value; a two-byte opcode has its lead byte in the high byte. -/
  value : UInt16
  /-- The kind of the operand that follows. -/
  operand : OperandKind
deriving DecidableEq, Repr

namespace Opcode

/-- Whether the opcode is written with a lead byte. -/
def isTwoByte (op : Opcode) : Bool :=
  0xFF < op.value

/-- The number of bytes of the opcode itself. -/
def size (op : Opcode) : Nat :=
  if op.isTwoByte then 2 else 1

/-- The number of operand bytes that follow the opcode. -/
def operandWidth (op : Opcode) : Nat :=
  op.operand.width

/-- The bytes of the opcode, high byte first. -/
def bytes (op : Opcode) : List UInt8 :=
  if op.isTwoByte then [(op.value >>> 8).toUInt8, op.value.toUInt8]
  else [op.value.toUInt8]

/-- An opcode is written in `size` bytes. -/
@[simp] theorem length_bytes (op : Opcode) : op.bytes.length = op.size := by
  unfold bytes size
  split <;> rfl

/-- An opcode takes at least one byte. -/
theorem size_pos (op : Opcode) : 0 < op.size := by
  unfold size
  split <;> decide

end Opcode

/-! ## High and low byte -/

theorem toNat_highByte (key : UInt16) : (key >>> 8).toUInt8.toNat = key.toNat / 256 := by
  have hkey := key.toNat_lt
  rw [UInt16.toNat_toUInt8, UInt16.toNat_shiftRight]
  show key.toNat >>> 8 % 2 ^ 8 = _
  rw [Nat.shiftRight_eq_div_pow]
  omega

theorem toNat_lowByte (key : UInt16) : key.toUInt8.toNat = key.toNat % 256 :=
  UInt16.toNat_toUInt8 key

/-- A key is known from its two bytes. -/
theorem eq_of_bytes_eq {a b : UInt16} (hhigh : (a >>> 8).toUInt8 = (b >>> 8).toUInt8)
    (hlow : a.toUInt8 = b.toUInt8) : a = b := by
  have hdiv := congrArg UInt8.toNat hhigh
  have hmod := congrArg UInt8.toNat hlow
  rw [toNat_highByte, toNat_highByte] at hdiv
  rw [toNat_lowByte, toNat_lowByte] at hmod
  apply UInt16.toNat_inj.1
  omega

/-! ## Lead bytes -/

/-- The lowest reserved lead byte. -/
def leadFirst : UInt8 := 0xF8

/-- The highest reserved lead byte, and the only one with opcodes behind it. -/
def leadLast : UInt8 := 0xFE

/-- Whether a byte in opcode position announces a two-byte opcode. -/
def isLeadByte (byte : UInt8) : Bool :=
  leadFirst ≤ byte && byte ≤ leadLast

/-- The 16-bit key of an opcode byte after a run of lead bytes. Of several lead
bytes only the last one counts. -/
def opcodeKey (leads : List UInt8) (byte : UInt8) : UInt16 :=
  match leads.getLast? with
  | some lead => (lead.toUInt16 <<< 8) ||| byte.toUInt16
  | none => byte.toUInt16

@[simp] theorem opcodeKey_nil (byte : UInt8) : opcodeKey [] byte = byte.toUInt16 := rfl

@[simp] theorem opcodeKey_singleton (lead byte : UInt8) :
    opcodeKey [lead] byte = (lead.toUInt16 <<< 8) ||| byte.toUInt16 := rfl

end CilDisassembly
