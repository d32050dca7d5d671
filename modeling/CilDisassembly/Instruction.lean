import CilDisassembly.Opcode.Catalog
import CilDisassembly.Bytes
import CilDisassembly.Token

/-!
# Instructions

An instruction is an opcode at an offset of the instruction stream, with the raw
bits of its operand. Offsets are 32-bit words and wrap around.

The operand of a branch is relative to the offset just past the instruction
(`Instruction.branchTarget?`): a short branch sign-extends the low 8 operand bits,
a long branch takes the low 32. An instruction is written as its opcode bytes and
its operand bytes (`Instruction.encode`), as many as its size says
(`Instruction.length_encode`).
-/

set_option autoImplicit false

namespace CilDisassembly

/-- A decoded instruction. -/
structure Instruction where
  /-- The offset of the first opcode byte in the instruction stream. -/
  offset : UInt32
  /-- The opcode. -/
  opcode : Opcode
  /-- The number of operand bytes. -/
  operandWidth : Nat
  /-- The operand bits, zero-extended. -/
  operand : UInt64
deriving DecidableEq, Repr

namespace Instruction

/-- The instruction with the operand width that its opcode prescribes. -/
def ofOpcode (offset : UInt32) (opcode : Opcode) (operand : UInt64) : Instruction :=
  ⟨offset, opcode, opcode.operandWidth, operand⟩

/-- The number of bytes of opcode and operand. -/
def byteSize (instr : Instruction) : Nat :=
  instr.opcode.size + instr.operandWidth

/-- The offset just past the instruction. -/
def endOffset (instr : Instruction) : UInt32 :=
  instr.offset + UInt32.ofNat instr.byteSize

/-- Whether the operand is a relative branch displacement. -/
def isBranch (instr : Instruction) : Bool :=
  instr.opcode.operand.isBranchTarget

/-- The operand bits read as a signed number. -/
def operandValue (instr : Instruction) : Int :=
  instr.operand.toInt64.toInt

/-- The displacement of a branch, as a word to add to the end offset. -/
def displacement? (instr : Instruction) : Option UInt32 :=
  match instr.opcode.operand with
  | .shortInlineBrTarget => some instr.operand.toUInt8.toInt8.toInt32.toUInt32
  | .inlineBrTarget => some instr.operand.toUInt32
  | _ => none

/-- The absolute offset a branch goes to. -/
def branchTarget? (instr : Instruction) : Option UInt32 :=
  instr.displacement?.map (fun displacement => instr.endOffset + displacement)

/-- The low 32 operand bits as a token. -/
def operandToken (instr : Instruction) : Token :=
  ⟨instr.operand.toUInt32⟩

/-- The token of an instruction whose operand is one. -/
def token? (instr : Instruction) : Option Token :=
  if instr.opcode.operand.isToken then some instr.operandToken else none

/-- The operand bytes, lowest first. An operand has eight bytes, so there are no
bytes to give for a larger width. -/
def operandBytes? (instr : Instruction) : Option (List UInt8) :=
  if instr.operandWidth ≤ 8 then
    some (Bytes.ofNat instr.operandWidth instr.operand.toNat)
  else none

/-- The bytes of an instruction: opcode, then operand. -/
def encode (instr : Instruction) : List UInt8 :=
  instr.opcode.bytes ++ Bytes.ofNat instr.operandWidth instr.operand.toNat

/-! ## First facts -/

/-- An instruction takes at least one byte. -/
theorem byteSize_pos (instr : Instruction) : 0 < instr.byteSize := by
  have := instr.opcode.size_pos
  unfold byteSize
  omega

/-- An instruction is written in `byteSize` bytes. -/
@[simp] theorem length_encode (instr : Instruction) :
    instr.encode.length = instr.byteSize := by
  simp [encode, byteSize]

/-- Exactly the branches have a branch target. -/
theorem isSome_branchTarget? (instr : Instruction) :
    instr.branchTarget?.isSome = instr.isBranch := by
  unfold branchTarget? displacement? isBranch
  cases instr.opcode.operand <;> rfl

end Instruction

end CilDisassembly
