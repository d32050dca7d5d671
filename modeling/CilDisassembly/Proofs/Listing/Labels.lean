import CilDisassembly.Proofs.Listing.Lines

/-!
# Label lines

A listing has a label line in front of an instruction exactly when some branch of the
same listing goes there, no matter whether the branch stands earlier, later or at the
instruction itself. The offsets of a window of at most `2 ^ 32` bytes are strictly
ascending, and different offsets have different names, so label lines are in order and
no label occurs twice (`disassemble_lines`).

A branch into the middle of an instruction or out of the window is listed with a target
that no label line has.
-/

set_option autoImplicit false

namespace CilDisassembly

/-- Different offsets have different label lines. -/
theorem colonLabel_injective {a b : UInt32} (h : colonLabel a = colonLabel b) : a = b :=
  labelName_injective (List.append_cancel_right h)

/-- A branch operand asks for no symbol. -/
theorem OperandKind.symbol?_of_isBranchTarget {operand : OperandKind}
    (h : operand.isBranchTarget = true) : operand.symbol? = none := by
  revert h
  cases operand <;> decide

/-- A branch operand has at least one byte. -/
theorem OperandKind.width_of_isBranchTarget {operand : OperandKind}
    (h : operand.isBranchTarget = true) : operand.width ≠ 0 := by
  revert h
  cases operand <;> decide

/-- A branch is listed by the name of its target. -/
theorem Instruction.writtenOperand_of_branchTarget {instr : Instruction} {target : UInt32}
    (resolver : Resolver) (hwidth : instr.operandWidth = instr.opcode.operandWidth)
    (h : instr.branchTarget? = some target) :
    instr.writtenOperand resolver = labelName target := by
  have hbranch : instr.opcode.operand.isBranchTarget = true := by
    have hsome := instr.isSome_branchTarget?
    rw [h] at hsome
    exact hsome.symm
  have hpos : ¬ instr.operandWidth = 0 := by
    rw [hwidth]
    exact OperandKind.width_of_isBranchTarget hbranch
  rw [writtenOperand, operandText, if_neg hpos, OperandKind.symbol?_of_isBranchTarget hbranch, h]
  rfl

/-- A label line occurs once for an offset that has an instruction and a label, and not
at all for any other offset. -/
theorem count_colonLabel {hasLabel : UInt32 → Bool} {resolver : Resolver} {options : Options}
    {instrs : List Instruction} (hopcode : ∀ instr ∈ instrs, instr.opcode ∈ Catalog.all)
    (hoffset : (instrs.map Instruction.offset).Pairwise (· < ·)) (offset : UInt32) :
    (linesOf hasLabel resolver options instrs).count (colonLabel offset) =
      if offset ∈ instrs.map Instruction.offset ∧ hasLabel offset = true then 1 else 0 := by
  have hnodup : (((instrs.map Instruction.offset).filter hasLabel).map colonLabel).Nodup := by
    refine List.pairwise_map.2 ((hoffset.filter _).imp ?_)
    intro a b hlt heq
    rw [colonLabel_injective heq] at hlt
    exact UInt32.lt_irrefl b hlt
  have hmem : colonLabel offset ∈
      ((instrs.map Instruction.offset).filter hasLabel).map colonLabel ↔
        offset ∈ instrs.map Instruction.offset ∧ hasLabel offset = true := by
    rw [← List.mem_filter, List.mem_map]
    constructor
    · rintro ⟨other, hother, heq⟩
      rwa [← colonLabel_injective heq]
    · intro h
      exact ⟨offset, h, rfl⟩
  -- the label line is among those lines that start like a label, and these are known
  have hfilter : (linesOf hasLabel resolver options instrs).count (colonLabel offset) =
      (((instrs.map Instruction.offset).filter hasLabel).map colonLabel).count
        (colonLabel offset) := by
    rw [← filter_linesOf hopcode, List.count_filter]
    rfl
  rw [hfilter, hnodup.count]
  simp only [hmem]

/-- Every resolver that knows the symbols of a window lists it line by line: for each
instruction its line, in front of it a label line exactly when some branch of the
window goes to its offset, and nothing else. Label lines are in strictly ascending order
of their offsets, and none occurs twice. The target that a branch is listed with is a
label line exactly when an instruction has this offset. -/
theorem disassemble_lines {buffer bytes : List UInt8} {start length : Nat}
    {instrs : List Instruction} {resolver : Resolver} {output : Output} (options : Options)
    (hwindow : window buffer start length = .ok bytes) (hlength : bytes.length ≤ 2 ^ 32)
    (hdecode : decodeAll bytes = .ok instrs)
    (hresolved : ∀ instr ∈ instrs, instr.IsResolved resolver)
    (hnames : resolver.NamesFitLine) (hsink : output.sink.IsUnlimited) :
    ∃ (text : Text) (after : Output),
      (disassemble buffer start length resolver options).run output =
        (.ok instrs.length, after) ∧
      after.sink.content.toList = output.sink.content.toList ++ text ∧
      text.splitOn '\n' = linesOf (isTarget instrs) resolver options instrs ++ [[]] ∧
      text.count '\n' = instrs.length +
        ((instrs.map Instruction.offset).filter (isTarget instrs)).length ∧
      ((instrs.map Instruction.offset).filter (isTarget instrs)).Pairwise (· < ·) ∧
      (∀ offset : UInt32, (text.splitOn '\n').count (colonLabel offset) =
        if offset ∈ instrs.map Instruction.offset ∧ isTarget instrs offset = true then 1
        else 0) ∧
      (∀ instr ∈ instrs, ∀ target : UInt32, instr.branchTarget? = some target →
        instr.writtenOperand resolver = labelName target ∧
        (colonLabel target ∈ text.splitOn '\n' ↔ target ∈ instrs.map Instruction.offset)) ∧
      ∀ a b : UInt32, labelName a = labelName b → a = b := by
  have hopcode : ∀ instr ∈ instrs, instr.opcode ∈ Catalog.all := by
    intro instr hinstr
    obtain ⟨unit, offset, rfl⟩ := exists_unit_of_mem_decodeAll hdecode hinstr
    exact (Catalog.ofKey?_eq_some_iff.1 unit.key_opcode).1
  have hoffset := pairwise_offset_of_decodeAll hdecode hlength
  have hline : ∀ line ∈ linesOf (isTarget instrs) resolver options instrs, '\n' ∉ line :=
    newline_not_mem_linesOf hnames hopcode hresolved
  have hcount : ∀ offset : UInt32,
      (linesOf (isTarget instrs) resolver options instrs ++ [[]]).count (colonLabel offset) =
        if offset ∈ instrs.map Instruction.offset ∧ isTarget instrs offset = true then 1
        else 0 := by
    intro offset
    -- the empty piece behind the last line break is no label line
    rw [List.count_append, count_colonLabel hopcode hoffset]
    exact Nat.add_zero _
  have hrun := run_disassemble hsink resolver options hwindow hdecode
  dsimp only at hrun
  rw [bodyOf_eq_lines instrs resolver options hresolved] at hrun
  refine ⟨_, _, hrun, hsink.content_put _, splitOn_newline hline, ?_, hoffset.filter _, ?_, ?_,
    fun a b h => labelName_injective h⟩
  · rw [count_newline hline, length_linesOf]
  · intro offset
    rw [splitOn_newline hline, hcount]
  · intro instr hinstr target htarget
    obtain ⟨unit, offset, hunit⟩ := exists_unit_of_mem_decodeAll hdecode hinstr
    have hwidth : instr.operandWidth = instr.opcode.operandWidth := by
      rw [hunit]
      rfl
    have hlabel : isTarget instrs target = true := isTarget_iff.2 ⟨instr, hinstr, htarget⟩
    refine ⟨Instruction.writtenOperand_of_branchTarget resolver hwidth htarget, ?_⟩
    rw [splitOn_newline hline, ← List.count_pos_iff, hcount]
    simp only [hlabel, and_true]
    split <;> simp [*]

/-- The names of the synthetic resolver are made of letters and digits. -/
theorem namesFitLine_synthetic : Resolver.synthetic.NamesFitLine := by
  have hdigits : ∀ n : Nat, '\n' ∉ Hex.digits n := by
    intro n hmem
    have h := Hex.isSome_digitValue?_of_valueFrom? (Hex.value?_digits n) _ hmem
    revert h
    decide
  refine ⟨?_, ?_, ?_⟩
  · rintro token member ⟨⟩
    simp [hdigits]
  · rintro token member ⟨⟩
    simp [hdigits]
  · rintro token fullName ⟨⟩
    simp [hdigits]

/-- A user string with a line break, a call, a branch to the start and a branch into the
middle of the call: five lines, and the target of the second branch is none of them. -/
theorem disassemble_lines_inner_target :
    decodeAll [0x72, 1, 0, 0, 0x70, 0x28, 2, 0, 0, 0x0A, 0x2B, 0xF4, 0x2C, 0xF8] =
      .ok [⟨0, ⟨"ldstr", 0x72, .inlineString⟩, 4, 0x70000001⟩,
        ⟨5, ⟨"call", 0x28, .inlineMethod⟩, 4, 0x0A000002⟩,
        ⟨10, ⟨"br.s", 0x2B, .shortInlineBrTarget⟩, 1, 0xF4⟩,
        ⟨12, ⟨"brfalse.s", 0x2C, .shortInlineBrTarget⟩, 1, 0xF8⟩] ∧
    ∃ (text : Text) (after : Output),
      (disassemble [0x72, 1, 0, 0, 0x70, 0x28, 2, 0, 0, 0x0A, 0x2B, 0xF4, 0x2C, 0xF8] 0 14
        .synthetic .resharperLike).run {} = (.ok 4, after) ∧
      after.sink.content.toList = text ∧
      text.count '\n' = 5 ∧
      colonLabel 0 ∈ text.splitOn '\n' ∧
      colonLabel 6 ∉ text.splitOn '\n' := by
  have hdecode : decodeAll [0x72, 1, 0, 0, 0x70, 0x28, 2, 0, 0, 0x0A, 0x2B, 0xF4, 0x2C, 0xF8] =
      .ok [⟨0, ⟨"ldstr", 0x72, .inlineString⟩, 4, 0x70000001⟩,
        ⟨5, ⟨"call", 0x28, .inlineMethod⟩, 4, 0x0A000002⟩,
        ⟨10, ⟨"br.s", 0x2B, .shortInlineBrTarget⟩, 1, 0xF4⟩,
        ⟨12, ⟨"brfalse.s", 0x2C, .shortInlineBrTarget⟩, 1, 0xF8⟩] := by
    decide +kernel
  have hresolved : ∀ instr : Instruction, instr.IsResolved .synthetic := by
    intro instr kind hkind
    cases kind <;> rfl
  have hsink : ({} : Output).sink.IsUnlimited := rfl
  obtain ⟨text, after, hrun, hcontent, -, hcount, -, -, hbranch, -⟩ :=
    disassemble_lines .resharperLike (window_whole _) (by decide) hdecode
      (fun instr _ => hresolved instr) namesFitLine_synthetic hsink
  refine ⟨hdecode, text, after, hrun, hcontent, hcount, ?_, ?_⟩
  · exact ((hbranch _ (List.mem_of_getElem? (i := 2) rfl)) 0 (by decide)).2.2 (by decide)
  · intro hmem
    exact absurd (((hbranch _ (List.mem_of_getElem? (i := 3) rfl)) 6 (by decide)).2.1 hmem)
      (by decide)

end CilDisassembly
