import CilDisassembly.Listing.Writer
import CilDisassembly.Proofs.Listing.Writes

/-!
# The text of an instruction, piece by piece

The lines of an instruction are written in many pieces, each of which may be the one that the
sink has no room for. Taken together the pieces are the text of the instruction: its head, its
operand and its tail if the operand can be written (`puts_writeInstruction`), and otherwise the
head (`puts_writeInstruction_of_missing`). Each writer puts the text that belongs to it, so that
no more than this is needed of the pieces it is made of.
-/

set_option autoImplicit false

namespace CilDisassembly

open Listing

/-! ## Formatted pieces -/

namespace Listing

theorem puts_emitFill (count : Nat) (c : Char) :
    (emitFill count c).Puts (List.replicate count c) (.ok ()) := by
  induction count with
  | zero => exact puts_pure ()
  | succ count ih =>
      rw [emitFill, List.replicate_succ, List.replicate_succ]
      exact (puts_emit [c]).bind ih

theorem puts_emitPadded (width : Nat) (digits : Text) :
    (emitPadded width digits).Puts (digits.leftpad width '0') (.ok ()) :=
  (puts_emitFill _ '0').bind (puts_emit digits)

theorem puts_emitInt (value : Int) : (emitInt value).Puts (Decimal.ofInt value) (.ok ()) := by
  cases value with
  | ofNat n => exact puts_emit _
  | negSucc n => exact (puts_emit ['-']).bind (puts_emit _)

end Listing

theorem puts_writeLabel (offset : UInt32) :
    (writeLabel offset).Puts (labelName offset) (.ok ()) :=
  (puts_emit "IL_".toList).bind (puts_emitPadded 4 _)

theorem puts_writeEscaped (c : Char) : (writeEscaped c).Puts (escapeChar c) (.ok ()) := by
  rw [writeEscaped, escapeChar]
  split
  · exact puts_emit _
  split
  · exact puts_emit _
  split
  · exact puts_emit _
  split
  · exact puts_emit _
  split
  · exact puts_emit _
  split
  · -- the zero that fills up the code of a character is its own uppercase form
    have hupper : Hex.paddedUpper 2 c.toNat =
        ((Hex.digits c.toNat).map Char.toUpper).leftpad 2 '0' := by
      rw [Hex.paddedUpper, Hex.padded, List.leftpad, List.leftpad, List.map_append,
        List.map_replicate, List.length_map]
      rfl
    rw [hupper]
    exact (puts_emit ['\\', 'x']).bind (puts_emitPadded 2 _)
  · exact puts_emit _

theorem puts_writeLiteral (value : String) :
    (writeLiteral value).Puts (literal value) (.ok ()) :=
  (puts_emit ['"']).bind ((puts_forM value.toList puts_writeEscaped).bind (puts_emit ['"']))

/-! ## Parts of an instruction -/

theorem puts_writeSymbol (kind : SymbolKind) (symbol : kind.Value) :
    (writeSymbol kind symbol).Puts (kind.written symbol) (.ok ()) := by
  cases kind with
  | method => exact (puts_emit _).bind ((puts_emit ['.']).bind (puts_emit _))
  | field => exact (puts_emit _).bind ((puts_emit ['.']).bind (puts_emit _))
  | type => exact puts_emit _
  | string => exact puts_writeLiteral symbol

section Instruction

variable {labels : LabelSet} {resolver : Resolver} {options : Options} {instr : Instruction}

theorem puts_writeLabelLine :
    (writeLabelLine labels instr).Puts (instr.labelLine labels) (.ok ()) := by
  rw [writeLabelLine, Instruction.labelLine]
  split
  · exact (puts_writeLabel instr.offset).bind (puts_emit _)
  · exact puts_pure ()

theorem puts_writeAddressLabel :
    (writeAddressLabel options instr).Puts (instr.addressLabel options) (.ok ()) := by
  rw [writeAddressLabel, Instruction.addressLabel]
  split
  · rw [List.append_assoc]
    exact (puts_emit _).bind ((puts_emitPadded 4 _).bind (puts_emit _))
  · exact puts_pure ()

/-- An operand whose text is known is written as this text. -/
theorem puts_writeOperand {operand : Text} (hwidth : 0 < instr.operandWidth)
    (h : instr.operandText resolver = .ok operand) :
    (writeOperand resolver instr).Puts operand (.ok ()) := by
  rw [Instruction.operandText, if_neg (Nat.ne_of_gt hwidth)] at h
  rw [writeOperand]
  cases hkind : instr.opcode.operand.symbol? with
  | some kind =>
      rw [hkind] at h
      dsimp only at h ⊢
      cases hsymbol : resolver kind instr.operandToken with
      | some symbol =>
          rw [hsymbol] at h
          cases h
          exact puts_writeSymbol kind symbol
      | none =>
          rw [hsymbol] at h
          cases h
  | none =>
      rw [hkind] at h
      dsimp only at h ⊢
      cases htarget : instr.branchTarget? with
      | some target =>
          rw [htarget] at h
          cases h
          exact puts_writeLabel target
      | none =>
          rw [htarget] at h
          cases h
          exact puts_emitInt instr.operandValue

/-- An operand has no text only if it is there and its token names nothing. -/
theorem Instruction.unknown_of_operandText_eq_error {missing : Unresolved}
    (h : instr.operandText resolver = .error missing) :
    0 < instr.operandWidth ∧ ∃ kind : SymbolKind,
      instr.opcode.operand.symbol? = some kind ∧ resolver kind instr.operandToken = none ∧
        missing = ⟨kind, instr.operandToken⟩ := by
  rw [operandText] at h
  by_cases hzero : instr.operandWidth = 0
  · rw [if_pos hzero] at h
    cases h
  refine ⟨Nat.pos_of_ne_zero hzero, ?_⟩
  rw [if_neg hzero] at h
  cases hkind : instr.opcode.operand.symbol? with
  | some kind =>
      rw [hkind] at h
      dsimp only at h
      cases hsymbol : resolver kind instr.operandToken with
      | some symbol =>
          rw [hsymbol] at h
          cases h
      | none =>
          rw [hsymbol] at h
          cases h
          exact ⟨kind, rfl, hsymbol, rfl⟩
  | none =>
      -- a target and a value can always be written
      rw [hkind] at h
      dsimp only at h
      cases htarget : instr.branchTarget? with
      | some target =>
          rw [htarget] at h
          cases h
      | none =>
          rw [htarget] at h
          cases h

/-- Of an operand whose symbol is not known nothing is written. -/
theorem puts_writeOperand_of_missing {missing : Unresolved}
    (h : instr.operandText resolver = .error missing) :
    (writeOperand resolver instr).Puts [] (.error (.unresolved missing)) := by
  obtain ⟨-, kind, hkind, hnone, rfl⟩ := Instruction.unknown_of_operandText_eq_error h
  rw [writeOperand, hkind]
  dsimp only
  rw [hnone]
  exact puts_throw _

/-- A known operand is written behind its blanks. -/
theorem puts_writeOperandField {operand : Text} (h : instr.operandText resolver = .ok operand) :
    (writeOperandField resolver options instr).Puts (instr.padding options ++ operand)
      (.ok ()) := by
  rw [writeOperandField, Instruction.padding]
  by_cases hwidth : 0 < instr.operandWidth
  · rw [if_pos hwidth, if_neg (Nat.ne_of_gt hwidth)]
    exact (puts_emitFill _ ' ').bind (puts_writeOperand hwidth h)
  · have hzero : instr.operandWidth = 0 := Nat.eq_zero_of_not_pos hwidth
    rw [Instruction.operandText, if_pos hzero] at h
    cases h
    rw [if_neg hwidth, if_pos hzero]
    exact puts_pure ()

/-- The blanks of an operand that is not known are written. -/
theorem puts_writeOperandField_of_missing {missing : Unresolved}
    (h : instr.operandText resolver = .error missing) :
    (writeOperandField resolver options instr).Puts (instr.padding options)
      (.error (.unresolved missing)) := by
  obtain ⟨hwidth, -⟩ := Instruction.unknown_of_operandText_eq_error h
  rw [writeOperandField, Instruction.padding, if_pos hwidth, if_neg (Nat.ne_of_gt hwidth),
    ← List.append_nil (List.replicate _ ' ')]
  exact (puts_emitFill _ ' ').bind (puts_writeOperand_of_missing h)

theorem puts_writeBytesComment :
    (writeBytesComment options instr).Puts (instr.bytesComment options) (.ok ()) := by
  have hopcode : (if instr.opcode.isTwoByte then 4 else 2) = 2 * instr.opcode.size := by
    rw [Opcode.size]
    split <;> rfl
  have hdigits : (writeOperandDigits instr).Puts
      (if instr.operandWidth = 0 then [] else " 0x".toList ++ instr.operandDigits) (.ok ()) := by
    rw [writeOperandDigits]
    by_cases hwidth : 0 < instr.operandWidth
    · rw [if_pos hwidth, if_neg (Nat.ne_of_gt hwidth)]
      exact (puts_emit _).bind (puts_emitPadded _ _)
    · rw [if_neg hwidth, if_pos (Nat.eq_zero_of_not_pos hwidth)]
      exact puts_pure ()
  rw [writeBytesComment, Instruction.bytesComment, hopcode]
  split
  · rw [List.append_assoc]
    exact (puts_emit _).bind ((puts_emitPadded _ _).bind hdigits)
  · exact puts_pure ()

/-! ## Whole instructions -/

/-- An instruction whose operand can be written is written as head, operand and tail. -/
theorem puts_writeInstruction {operand : Text} (h : instr.operandText resolver = .ok operand) :
    (writeInstruction labels resolver options instr).Puts
      (instr.lineHead labels options ++ operand ++ instr.lineTail options) (.ok ()) := by
  have htext : instr.lineHead labels options ++ operand ++ instr.lineTail options =
      instr.labelLine labels ++ (instr.addressLabel options ++ (instr.opcode.mnemonic.toList ++
        ((instr.padding options ++ operand) ++ (instr.bytesComment options ++ ['\n'])))) := by
    simp only [Instruction.lineHead, Instruction.lineTail, List.append_assoc]
  rw [htext, writeInstruction]
  apply puts_writeLabelLine.bind
  apply puts_writeAddressLabel.bind
  apply (puts_emit _).bind
  apply (puts_writeOperandField h).bind
  exact puts_writeBytesComment.bind (puts_emit _)

/-- An instruction whose operand cannot be written is written up to it. -/
theorem puts_writeInstruction_of_missing {missing : Unresolved}
    (h : instr.operandText resolver = .error missing) :
    (writeInstruction labels resolver options instr).Puts (instr.lineHead labels options)
      (.error (.unresolved missing)) := by
  have htext : instr.lineHead labels options = instr.labelLine labels ++
      (instr.addressLabel options ++ (instr.opcode.mnemonic.toList ++ instr.padding options)) := by
    simp only [Instruction.lineHead, List.append_assoc]
  rw [htext, writeInstruction]
  apply puts_writeLabelLine.bind
  apply puts_writeAddressLabel.bind
  apply (puts_emit _).bind
  exact (puts_writeOperandField_of_missing h).bind_error _

end Instruction

end CilDisassembly
