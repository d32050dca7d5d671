import CilDisassembly.Bytes.Lemmas
import CilDisassembly.Listing.Disassembly
import CilDisassembly.Proofs.Opcode.Key
import CilDisassembly.Proofs.Stream.Grammar

/-!
# Writing instructions and reading them back

The opcode that a unit selects is written as the last lead byte of the unit and its
opcode byte, and the operand as the bytes that are there, filled up with zeros. Hence
what is written for a decoded instruction differs from its unit only in the lead bytes
that do not count and in the operand bytes that are missing
(`CodeUnit.encode_instruction`).

Opcodes with operand bytes of the right number can be written one after the other. They
are read back byte for byte, at the offsets that the sizes add up to, and without a
warning (`decodeAll_assembled`).
-/

set_option autoImplicit false

namespace CilDisassembly

/-! ## The bytes of units and of their instructions -/

namespace CodeUnit

/-- The opcode of a unit is written as the last lead byte and the opcode byte. -/
theorem bytes_opcode (unit : CodeUnit) :
    unit.opcode.bytes = unit.leads.getLast?.toList ++ [unit.byte] := by
  apply Opcode.bytes_of_value
  · intro lead hlead
    exact unit.leads_lead lead (List.mem_of_getLast? hlead)
  · rw [opcodeKey_getLast]
    exact (Catalog.ofKey?_eq_some_iff.1 unit.key_opcode).2

/-- A unit has at least as many bytes in front of its operand as its opcode is
written in. -/
theorem size_opcode_le (unit : CodeUnit) : unit.opcode.size ≤ unit.leads.length + 1 := by
  rw [← Opcode.length_bytes, bytes_opcode]
  cases hlast : unit.leads.getLast? with
  | none => simp
  | some lead =>
      have hpos := List.length_pos_of_mem (List.mem_of_getLast? hlast)
      simp only [Option.toList_some, List.length_append, List.length_singleton]
      omega

/-- The number of operand bytes that are missing. -/
def missing (unit : CodeUnit) : Nat :=
  unit.opcode.operandWidth - unit.operand.length

/-- With the missing bytes an operand is there in full. -/
theorem length_operand_append_missing (unit : CodeUnit) :
    (unit.operand ++ List.replicate unit.missing 0).length = unit.opcode.operandWidth := by
  have hle := unit.operand_le
  rw [List.length_append, List.length_replicate, missing]
  omega

/-- The operand of an instruction is stored without loss. -/
theorem toNat_operand_instruction (unit : CodeUnit) (offset : UInt32) :
    (unit.instruction offset).operand.toNat = Bytes.toNat unit.operand := by
  have hwidth := unit.opcode.operand.width_le
  have hlength := unit.operand_le
  -- an operand has at most eight bytes, and a word holds as many
  have hlt : Bytes.toNat unit.operand < 256 ^ 8 :=
    Nat.lt_of_lt_of_le (Bytes.toNat_lt unit.operand)
      (Nat.pow_le_pow_right (by decide) (Nat.le_trans hlength hwidth))
  exact Nat.mod_eq_of_lt hlt

/-- Missing operand bytes are written as zero. -/
theorem ofNat_operand (unit : CodeUnit) (offset : UInt32) :
    Bytes.ofNat unit.opcode.operandWidth (unit.instruction offset).operand.toNat =
      unit.operand ++ List.replicate unit.missing 0 := by
  rw [toNat_operand_instruction, ← Bytes.toNat_append_replicate_zero unit.operand unit.missing,
    ← unit.length_operand_append_missing, Bytes.ofNat_toNat]

/-- The operand bytes of a decoded instruction are there in full. -/
theorem operandBytes?_instruction (unit : CodeUnit) (offset : UInt32) :
    (unit.instruction offset).operandBytes? =
      some (unit.operand ++ List.replicate unit.missing 0) := by
  rw [← ofNat_operand unit offset]
  exact if_pos unit.opcode.operand.width_le

/-- The instruction of a unit is written without the lead bytes that do not count,
and with zeros for the operand bytes that are missing. -/
theorem encode_instruction (unit : CodeUnit) (offset : UInt32) :
    (unit.instruction offset).encode =
      unit.leads.getLast?.toList ++ unit.byte ::
        (unit.operand ++ List.replicate unit.missing 0) := by
  show unit.opcode.bytes ++
    Bytes.ofNat unit.opcode.operandWidth (unit.instruction offset).operand.toNat = _
  rw [ofNat_operand, bytes_opcode, List.append_assoc, List.singleton_append]

end CodeUnit

/-! ## Instructions that can be written

The catalog also has entries for the lead bytes themselves. Such an entry can be
named but not written, because its one byte opens a two-byte opcode. -/

/-- An opcode that can be written to a stream, with its operand bytes. -/
structure Assembled where
  /-- The opcode. -/
  opcode : Opcode
  /-- The operand bytes, in stream order. -/
  operand : List UInt8
  mem_catalog : opcode ∈ Catalog.all
  writable : opcode.isTwoByte = true ∨ ¬ (0xF8 ≤ opcode.value ∧ opcode.value ≤ 0xFE)
  length_operand : operand.length = opcode.operandWidth

namespace Assembled

/-- The bytes of an opcode, high byte first, and of its operand. -/
def bytes (piece : Assembled) : List UInt8 :=
  piece.opcode.bytes ++ piece.operand

/-- The last byte of an opcode that can be written is not taken for a lead byte. -/
theorem lowByte_not_lead (piece : Assembled) :
    isLeadByte piece.opcode.value.toUInt8 = false := by
  by_cases htwo : piece.opcode.isTwoByte = true
  · exact Catalog.lowByte_not_lead piece.mem_catalog htwo
  · -- the low byte is the whole value, which was asked not to be a lead byte
    have hlow : piece.opcode.value.toUInt8.toNat = piece.opcode.value.toNat := by
      rw [Opcode.isTwoByte_iff] at htwo
      rw [toNat_lowByte]
      omega
    rw [Bool.eq_false_iff, ne_eq, isLeadByte_iff, hlow]
    exact piece.writable.resolve_left htwo

/-- The unit that a written instruction is read as. -/
def unit (piece : Assembled) : CodeUnit where
  leads := piece.opcode.leads
  byte := piece.opcode.value.toUInt8
  opcode := piece.opcode
  operand := piece.operand
  leads_lead := Catalog.leads_lead piece.mem_catalog
  byte_not_lead := piece.lowByte_not_lead
  key_opcode := by rw [Opcode.opcodeKey_leads, Catalog.ofKey?_value piece.mem_catalog]
  operand_le := Nat.le_of_eq piece.length_operand

theorem isComplete_unit (piece : Assembled) : piece.unit.IsComplete :=
  piece.length_operand

@[simp] theorem bytes_unit (piece : Assembled) : piece.unit.bytes = piece.bytes := by
  rw [bytes, Opcode.bytes_eq_leads, List.append_assoc]
  rfl

theorem length_bytes (piece : Assembled) : piece.bytes.length = piece.unit.byteSize := by
  rw [bytes, List.length_append, Opcode.length_bytes, piece.length_operand]
  rfl

end Assembled

/-- The bytes of a written program. -/
def assemble (code : List Assembled) : List UInt8 :=
  code.flatMap Assembled.bytes

/-- A unit that is there in full is read without a warning. -/
theorem Event.ofItem_complete {unit : CodeUnit} (offset : UInt32) (h : unit.IsComplete) :
    Event.ofItem (.ok (unit.decoded offset)) = [Event.decoded (unit.instruction offset)] := by
  rw [Event.ofItem, (unit.isTruncated_decoded offset).2 h]
  rfl

/-- Units that are there in full are read without a warning. -/
theorem Event.ofItems_complete (units : List CodeUnit) (offset : UInt32)
    (h : ∀ unit ∈ units, unit.IsComplete) :
    Event.ofItems ((decodedFrom offset units).map .ok) =
      ((decodedFrom offset units).map Decoded.instruction).map Event.decoded := by
  induction units generalizing offset with
  | nil => rfl
  | cons unit units ih =>
      obtain ⟨hunit, hunits⟩ := List.forall_mem_cons.1 h
      rw [decodedFrom, List.map_cons, Event.ofItems, List.flatMap_cons,
        Event.ofItem_complete offset hunit]
      exact congrArg (_ :: ·) (ih _ hunits)

/-- Reading the instructions of a window gives the outcome of decoding it, and
logs its items. -/
theorem run_readInstructions (bytes : List UInt8) (output : Output) :
    (readInstructions bytes).run output =
      ((decodeAll bytes).mapError (fun error => .decode (.stream error)),
        { output with log := output.log ++ Event.ofItems (itemsOf bytes) }) := by
  rw [readInstructions, Listing.run_bind, Listing.run_record]
  show (Listing.ofExcept _ (decodeAll bytes)).run _ = _
  cases decodeAll bytes <;> rfl

/-- The bytes of a program are those of its units. -/
theorem flatMap_bytes_unit (code : List Assembled) :
    (code.map Assembled.unit).flatMap CodeUnit.bytes = assemble code := by
  rw [List.flatMap_map, assemble]
  simp only [Assembled.bytes_unit]

theorem isComplete_of_mem_map_unit (code : List Assembled) :
    ∀ unit ∈ code.map Assembled.unit, unit.IsComplete := by
  intro unit hunit
  obtain ⟨piece, -, rfl⟩ := List.mem_map.1 hunit
  exact piece.isComplete_unit

/-- The sizes of written instructions add up to the number of their bytes. -/
theorem totalSize_map_unit (code : List Assembled) :
    totalSize (code.map Assembled.unit) = (assemble code).length := by
  induction code with
  | nil => rfl
  | cons piece rest ih =>
      rw [List.map_cons, totalSize_cons, ih, assemble, assemble, List.flatMap_cons,
        List.length_append, piece.length_bytes]

/-- What was written is read back as the instructions of its units. -/
theorem decodeAll_assemble (code : List Assembled) :
    decodeAll (assemble code) = .ok (instructionsOf (code.map Assembled.unit)) := by
  rw [← flatMap_bytes_unit]
  apply decodeAll_units
  intro unit hunit
  exact isComplete_of_mem_map_unit code unit ((List.dropLast_sublist _).mem hunit)

/-- No operand of what was written is cut short. -/
theorem itemsOf_assemble (code : List Assembled) :
    itemsOf (assemble code) = (decodedFrom 0 (code.map Assembled.unit)).map .ok := by
  have h := itemsOf_layout
    ⟨code.map Assembled.unit, .clean, isComplete_of_mem_map_unit code⟩
  rw [Layout.bytes, Ending.bytes, List.append_nil, flatMap_bytes_unit] at h
  rw [h, Ending.items, List.append_nil]

/-- The operand bytes of what was written are read back. -/
theorem Assembled.operandBytes?_unit (piece : Assembled) (offset : UInt32) :
    (piece.unit.instruction offset).operandBytes? = some piece.operand := by
  have hmissing : piece.unit.missing = 0 := by
    rw [CodeUnit.missing, piece.isComplete_unit, Nat.sub_self]
  rw [CodeUnit.operandBytes?_instruction, hmissing, List.replicate_zero, List.append_nil]
  rfl

/-- A program that was written is read back: every instruction has its opcode and
its operand bytes again, and the offset that the sizes of the instructions before
it add up to. The sizes of all add up to the number of bytes, and all that is
logged is that the instructions were decoded. -/
theorem decodeAll_assembled (code : List Assembled) :
    ∃ instrs : List Instruction,
      decodeAll (assemble code) = .ok instrs ∧
      instrs.length = code.length ∧
      (∀ (k : Nat) (hk : k < code.length), ∃ instr : Instruction,
        instrs[k]? = some instr ∧
        instr.opcode = code[k].opcode ∧
        instr.operandWidth = code[k].opcode.operandWidth ∧
        instr.operandBytes? = some code[k].operand ∧
        instr.operand.toNat = Bytes.toNat code[k].operand ∧
        instr.operandValue = Int.bmod (Bytes.toNat code[k].operand) (2 ^ 64) ∧
        instr.offset = UInt32.ofNat ((instrs.take k).map Instruction.byteSize).sum) ∧
      (instrs.map Instruction.byteSize).sum = (assemble code).length ∧
      ∀ output : Output, (readInstructions (assemble code)).run output =
        (.ok instrs, { output with log := output.log ++ instrs.map Event.decoded }) := by
  refine ⟨instructionsOf (code.map Assembled.unit), decodeAll_assemble code, by simp,
    ?_, ?_, ?_⟩
  · intro k hk
    refine ⟨code[k].unit.instruction
      (UInt32.ofNat (totalSize ((code.map Assembled.unit).take k))), ?_, rfl, rfl,
      code[k].operandBytes?_unit _, CodeUnit.toNat_operand_instruction ..,
      CodeUnit.operandValue_instruction .., ?_⟩
    · rw [getElem?_instructionsOf, List.getElem?_map, List.getElem?_eq_getElem hk]
      rfl
    · show UInt32.ofNat (totalSize _) = _
      rw [totalSize, List.map_take, List.map_take, map_byteSize_instructionsOf]
  · rw [map_byteSize_instructionsOf]
    exact totalSize_map_unit code
  · intro output
    rw [run_readInstructions, decodeAll_assemble, itemsOf_assemble,
      Event.ofItems_complete _ _ (isComplete_of_mem_map_unit code)]
    rfl

end CilDisassembly
