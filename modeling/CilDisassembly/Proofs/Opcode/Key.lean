import CilDisassembly.Opcode.Catalog
import Mathlib.Algebra.Order.Ring.Nat

/-!
# Opcode keys and opcode bytes

The key of an opcode byte behind lead bytes is the number of the last lead byte and the
opcode byte, high byte first. An opcode is therefore found again under the key of its
own bytes (`Opcode.opcodeKey_leads`), and an opcode that was found under a key is
written as the bytes of the key (`Opcode.bytes_of_value`).
-/

set_option autoImplicit false

namespace CilDisassembly

/-! ## Keys as numbers -/

/-- The lead bytes are those from 0xF8 to 0xFE. -/
theorem isLeadByte_iff {byte : UInt8} :
    isLeadByte byte = true ↔ 0xF8 ≤ byte.toNat ∧ byte.toNat ≤ 0xFE := by
  simp only [isLeadByte, leadFirst, leadLast, Bool.and_eq_true, decide_eq_true_eq,
    UInt8.le_iff_toNat_le]
  rfl

/-- Only the last lead byte counts. -/
theorem opcodeKey_getLast (leads : List UInt8) (byte : UInt8) :
    opcodeKey leads.getLast?.toList byte = opcodeKey leads byte := by
  rw [opcodeKey, opcodeKey]
  cases leads.getLast? <;> rfl

/-- The key behind a lead byte has the lead byte as its high byte. -/
theorem toNat_opcodeKey_singleton (lead byte : UInt8) :
    (opcodeKey [lead] byte).toNat = 256 * lead.toNat + byte.toNat := by
  have hlead := lead.toNat_lt
  have hbyte := byte.toNat_lt
  -- the shifted lead byte has only zeros where the other byte is put
  have hor := Nat.shiftLeft_add_eq_or_of_lt hbyte lead.toNat
  rw [opcodeKey_singleton, UInt16.toNat_or, UInt16.toNat_shiftLeft, UInt8.toNat_toUInt16,
    UInt8.toNat_toUInt16]
  have hshift : lead.toNat <<< ((8 : UInt16).toNat % 16) % 2 ^ 16 = lead.toNat <<< 8 := by
    show lead.toNat <<< 8 % 2 ^ 16 = lead.toNat <<< 8
    rw [Nat.shiftLeft_eq]
    omega
  rw [hshift, ← hor, Nat.shiftLeft_eq]
  omega

namespace Opcode

theorem isTwoByte_iff {op : Opcode} : op.isTwoByte = true ↔ 0xFF < op.value.toNat := by
  simp only [isTwoByte, decide_eq_true_eq, UInt16.lt_iff_toNat_lt]
  rfl

/-- The lead bytes that an opcode is written with. -/
def leads (op : Opcode) : List UInt8 :=
  if op.isTwoByte then [(op.value >>> 8).toUInt8] else []

theorem bytes_eq_leads (op : Opcode) : op.bytes = op.leads ++ [op.value.toUInt8] := by
  rw [bytes, leads]
  split <;> rfl

/-- An opcode is found again under the key of its bytes. -/
theorem opcodeKey_leads (op : Opcode) : opcodeKey op.leads op.value.toUInt8 = op.value := by
  have hvalue := op.value.toNat_lt
  apply UInt16.toNat_inj.1
  by_cases htwo : op.isTwoByte = true
  · rw [leads, if_pos htwo, toNat_opcodeKey_singleton, toNat_highByte, toNat_lowByte]
    omega
  · rw [leads, if_neg htwo, opcodeKey_nil, UInt8.toNat_toUInt16, toNat_lowByte]
    rw [isTwoByte_iff] at htwo
    omega

/-- An opcode is written as the lead byte, if there is one, and the byte that its
value is made up of. -/
theorem bytes_of_value {op : Opcode} {lead? : Option UInt8} {byte : UInt8}
    (hlead : ∀ lead ∈ lead?, isLeadByte lead = true)
    (hvalue : op.value = opcodeKey lead?.toList byte) : op.bytes = lead?.toList ++ [byte] := by
  have hbyte := byte.toNat_lt
  have hnat := congrArg UInt16.toNat hvalue
  cases lead? with
  | none =>
      rw [Option.toList_none, opcodeKey_nil, UInt8.toNat_toUInt16] at hnat
      have hone : ¬ op.isTwoByte = true := by
        rw [isTwoByte_iff]
        omega
      have hlow : op.value.toUInt8 = byte := by
        apply UInt8.toNat_inj.1
        rw [toNat_lowByte]
        omega
      rw [bytes, if_neg hone, hlow]
      rfl
  | some lead =>
      have hrange := isLeadByte_iff.1 (hlead lead rfl)
      rw [Option.toList_some, toNat_opcodeKey_singleton] at hnat
      -- with a lead byte as high byte the value is larger than any single byte
      have htwo : op.isTwoByte = true := by
        rw [isTwoByte_iff]
        omega
      have hhigh : (op.value >>> 8).toUInt8 = lead := by
        apply UInt8.toNat_inj.1
        rw [toNat_highByte]
        omega
      have hlow : op.value.toUInt8 = byte := by
        apply UInt8.toNat_inj.1
        rw [toNat_lowByte]
        omega
      rw [bytes, if_pos htwo, hhigh, hlow]
      rfl

end Opcode

/-! ## Two-byte opcodes of the catalog -/

/-- The high byte of a two-byte opcode is a lead byte. -/
theorem Catalog.leads_lead {op : Opcode} (h : op ∈ Catalog.all) :
    ∀ lead ∈ op.leads, isLeadByte lead = true := by
  intro lead hlead
  by_cases htwo : op.isTwoByte = true
  · rw [Opcode.leads, if_pos htwo, (Catalog.isTwoByte_iff_lead h).1 htwo] at hlead
    rw [List.mem_singleton.1 hlead]
    decide
  · rw [Opcode.leads, if_neg htwo] at hlead
    cases hlead

/-- The low byte of a two-byte opcode is no lead byte. -/
theorem Catalog.lowByte_not_lead {op : Opcode} (h : op ∈ Catalog.all) :
    op.isTwoByte = true → isLeadByte op.value.toUInt8 = false := by
  revert op
  decide +kernel

end CilDisassembly
