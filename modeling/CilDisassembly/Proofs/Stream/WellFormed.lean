import CilDisassembly.Proofs.Stream.Encoding

/-!
# Well-formed instructions

An instruction that was built by hand may have any opcode, any operand width and any operand
bits. One that was decoded has an opcode of the catalog, the operand width that this opcode
prescribes, and an operand that fits this width (`isWellFormed_of_mem_decodeAll`).
-/

set_option autoImplicit false

namespace CilDisassembly

/-- What is known of an instruction that was decoded. -/
structure Instruction.IsWellFormed (instr : Instruction) : Prop where
  opcode_mem : instr.opcode ∈ Catalog.all
  operandWidth_eq : instr.operandWidth = instr.opcode.operandWidth
  operand_lt : instr.operand.toNat < 256 ^ instr.operandWidth

namespace Instruction.IsWellFormed

variable {instr : Instruction}

/-- Operands are 0, 1, 2, 4 or 8 bytes wide. -/
theorem operandWidth_mem (h : instr.IsWellFormed) :
    instr.operandWidth ∈ [0, 1, 2, 4, 8] := by
  rw [h.operandWidth_eq]
  exact instr.opcode.operand.width_mem

/-- There are operand bytes to give. -/
theorem exists_operandBytes (h : instr.IsWellFormed) :
    ∃ bytes : List UInt8, instr.operandBytes? = some bytes := by
  refine ⟨_, if_pos ?_⟩
  rw [h.operandWidth_eq]
  exact instr.opcode.operand.width_le

/-- An operand of less than eight bytes is not negative. -/
theorem operandValue_eq (h : instr.IsWellFormed) (hwidth : instr.operandWidth < 8) :
    instr.operandValue = instr.operand.toNat := by
  have hpow : 256 ^ instr.operandWidth ≤ 256 ^ 7 :=
    Nat.pow_le_pow_right (by decide) (by omega)
  have hlt := h.operand_lt
  -- seven bytes leave the sign bit of a word alone
  show instr.operand.toBitVec.toInt = (instr.operand.toBitVec.toNat : Int)
  apply BitVec.toInt_eq_toNat_of_lt
  show 2 * instr.operand.toNat < 2 ^ 64
  omega

/-- An operand of less than eight bytes is a number of as many bytes. -/
theorem operandValue_bounds (h : instr.IsWellFormed) (hwidth : instr.operandWidth < 8) :
    0 ≤ instr.operandValue ∧ instr.operandValue < 2 ^ (8 * instr.operandWidth) := by
  have hlt := h.operand_lt
  rw [h.operandValue_eq hwidth, pow_mul]
  constructor
  · exact Int.natCast_nonneg _
  · exact_mod_cast hlt

end Instruction.IsWellFormed

/-- The instruction of a unit is well-formed, also if its operand is cut short. -/
theorem CodeUnit.isWellFormed_instruction (unit : CodeUnit) (offset : UInt32) :
    (unit.instruction offset).IsWellFormed := by
  refine ⟨(Catalog.ofKey?_eq_some_iff.1 unit.key_opcode).1, rfl, ?_⟩
  rw [toNat_operand_instruction]
  exact Nat.lt_of_lt_of_le (Bytes.toNat_lt unit.operand)
    (Nat.pow_le_pow_right (by decide) unit.operand_le)

/-- Decoded instructions are well-formed. -/
theorem isWellFormed_of_mem_decodeAll {window : List UInt8} {instrs : List Instruction}
    (h : decodeAll window = .ok instrs) : ∀ instr ∈ instrs, instr.IsWellFormed := by
  intro instr hinstr
  obtain ⟨unit, offset, rfl⟩ := exists_unit_of_mem_decodeAll h hinstr
  exact unit.isWellFormed_instruction offset

theorem opcode_mem_of_mem_decodeAll {window : List UInt8} {instrs : List Instruction}
    (h : decodeAll window = .ok instrs) : ∀ instr ∈ instrs, instr.opcode ∈ Catalog.all := by
  intro instr hinstr
  exact (isWellFormed_of_mem_decodeAll h instr hinstr).opcode_mem

end CilDisassembly
