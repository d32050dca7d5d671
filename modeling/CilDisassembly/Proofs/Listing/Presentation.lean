import CilDisassembly.Proofs.Listing.Comment
import Mathlib.Data.Nat.Bitwise

/-!
# Options change the look of a listing only

Three bits of the options decide how a listing looks. They decide neither whether it succeeds
nor what is logged: of all that is written for an instruction only the operand can fail for a
reason of its own, and the operand does not depend on the options.

What an instruction contributes to a listing whatever the options are is its `Entry`. The text
of the instruction is made from it, by `Entry.plain` without any option and by
`Entry.presented` with options: these insert the address and the bytes comment, and widen the
blank in front of the operand, and leave the label line and the operand as they are
(`Instruction.presented_entry`). Two listings of one window with different options are compared
entry by entry (`disassemble_presentation`).
-/

set_option autoImplicit false

namespace CilDisassembly

/-! ## The bits of the options -/

namespace Options

/-- Whether a bit of the options is set. -/
def hasBit (options : Options) (k : Nat) : Bool :=
  options.bits.toNat.testBit k

/-- A single option is chosen if its bit is set. -/
theorem contains_eq_hasBit (options : Options) {other : Options} {k : Nat}
    (h : other.bits.toNat = 2 ^ k) : options.contains other = options.hasBit k := by
  have hand : (options.bits &&& other.bits).toNat =
      (options.bits.toNat.testBit k).toNat * 2 ^ k := by
    rw [UInt32.toNat_and, h, Nat.and_two_pow]
  have hpos : 0 ≠ 2 ^ k := (Nat.two_pow_pos k).ne
  rw [contains, hasBit, Bool.eq_iff_iff, beq_iff_eq, ← UInt32.toNat_inj, hand, h]
  cases options.bits.toNat.testBit k <;> simp [hpos]

theorem contains_addressLabel (options : Options) :
    options.contains .addressLabel = options.hasBit 0 :=
  options.contains_eq_hasBit rfl

theorem contains_bytesComment (options : Options) :
    options.contains .bytesComment = options.hasBit 1 :=
  options.contains_eq_hasBit rfl

theorem contains_alignOperand (options : Options) :
    options.contains .alignOperand = options.hasBit 2 :=
  options.contains_eq_hasBit rfl

end Options

/-! ## Bits without effect -/

section Bits

variable {first second : Options} (h : ∀ k < 3, first.hasBit k = second.hasBit k)
include h

/-- An instruction is written in the same way if the lowest three bits agree. -/
theorem writeInstruction_eq_of_bits (labels : LabelSet) (resolver : Resolver)
    (instr : Instruction) :
    writeInstruction labels resolver first instr =
      writeInstruction labels resolver second instr := by
  have haddress := h 0 (by decide)
  have hcomment := h 1 (by decide)
  have halign := h 2 (by decide)
  have hlabel : writeAddressLabel first instr = writeAddressLabel second instr := by
    simp only [writeAddressLabel, Options.contains_addressLabel, haddress]
  have hoperand : writeOperandField resolver first instr =
      writeOperandField resolver second instr := by
    simp only [writeOperandField, Instruction.paddingWidth, Options.contains_alignOperand, halign]
  have hbytes : writeBytesComment first instr = writeBytesComment second instr := by
    simp only [writeBytesComment, Options.contains_bytesComment, hcomment]
  rw [writeInstruction, writeInstruction, hlabel, hoperand, hbytes]

/-- A window is listed in the same way if the lowest three bits agree, on every sink. -/
theorem disassemble_eq_of_bits (buffer : List UInt8) (start length : Nat)
    (resolver : Resolver) :
    disassemble buffer start length resolver first =
      disassemble buffer start length resolver second := by
  have hwrite : ∀ labels : LabelSet, writeInstruction labels resolver first =
      writeInstruction labels resolver second :=
    fun labels => funext (writeInstruction_eq_of_bits h labels resolver)
  simp only [disassemble, hwrite]

end Bits

/-! ## Result and log -/

/-- Whether a symbol is not known, and which one, depends on the operands only. -/
theorem missing?_bodyOf (labels : LabelSet) (resolver : Resolver) (first second : Options)
    (instrs : List Instruction) :
    (bodyOf labels resolver first instrs).missing? =
      (bodyOf labels resolver second instrs).missing? := by
  induction instrs with
  | nil => rfl
  | cons instr rest ih =>
      rw [bodyOf, bodyOf]
      cases instr.operandText resolver with
      | error missing => rfl
      | ok operand => exact ih

/-- Two listings of a window with different options have the same result and leave the same
log. -/
theorem result_log_eq_of_isUnlimited (buffer : List UInt8) (start length : Nat)
    (resolver : Resolver) (first second : Options) {output : Output}
    (hsink : output.sink.IsUnlimited) :
    let outcome := fun options => (disassemble buffer start length resolver options).run output
    (outcome first).1 = (outcome second).1 ∧ (outcome first).2.log = (outcome second).2.log := by
  dsimp only
  rcases window_cases buffer start length with
    hout | ⟨bytes, hwindow, ⟨error, hdecode⟩ | ⟨instrs, hdecode⟩⟩
  · rw [run_disassemble_of_outOfBounds resolver first hout,
      run_disassemble_of_outOfBounds resolver second hout]
    exact ⟨rfl, rfl⟩
  · rw [run_disassemble_of_error resolver first hwindow hdecode,
      run_disassemble_of_error resolver second hwindow hdecode]
    exact ⟨rfl, rfl⟩
  · rw [run_disassemble hsink resolver first hwindow hdecode,
      run_disassemble hsink resolver second hwindow hdecode]
    dsimp only
    rw [missing?_bodyOf _ resolver first second]
    -- the texts differ, so the outcomes are taken apart before they are compared
    cases (bodyOf (branchTargets instrs) resolver second instrs).missing? with
    | none =>
        dsimp only
        exact ⟨rfl, rfl⟩
    | some missing =>
        dsimp only
        exact ⟨rfl, rfl⟩

/-! ## Entries -/

/-- What an instruction contributes to a listing, whatever the options are. -/
structure Entry where
  /-- The label line with its line break, or nothing. -/
  labelLine : Text
  /-- The offset of the instruction. -/
  offset : UInt32
  /-- The mnemonic. -/
  mnemonic : Text
  /-- The written operand, if there is one. -/
  operand? : Option Text
  /-- The comment that shows the bytes, with the tab in front of it. -/
  comment : Text

namespace Entry

/-- The text of an entry without any option: one blank stands in front of the operand. -/
def plain (entry : Entry) : Text :=
  entry.labelLine ++ entry.mnemonic ++
    (match entry.operand? with
      | none => []
      | some operand => ' ' :: operand) ++ ['\n']

/-- The column of an aligned operand, counted from the start of the mnemonic. -/
def column (entry : Entry) : Nat :=
  max 13 (entry.mnemonic.length + 1)

/-- The text of an entry with options. The address stands in front of the mnemonic, the operand
in its column, and the comment in front of the line break. -/
def presented (options : Options) (entry : Entry) : Text :=
  entry.labelLine ++
    (if options.hasBit 0 then
      "ADDR_".toList ++ Hex.padded 4 entry.offset.toNat ++ ":  ".toList
    else []) ++
    (match entry.operand? with
      | none => entry.mnemonic
      | some operand =>
          (if options.hasBit 2 then entry.mnemonic.rightpad entry.column ' '
          else entry.mnemonic ++ [' ']) ++ operand) ++
    (if options.hasBit 1 then entry.comment else []) ++ ['\n']

/-- Without any option nothing is inserted and the blank stays as it is. -/
theorem presented_plain : presented .plain = plain := by
  funext entry
  have hbit : ∀ k : Nat, Options.plain.hasBit k = false := Nat.zero_testBit
  rw [presented, plain, hbit, hbit, hbit]
  cases entry.operand? <;> simp

end Entry

/-- The entry of an instruction. -/
def Instruction.entry (labels : LabelSet) (resolver : Resolver) (instr : Instruction) :
    Entry where
  labelLine := instr.labelLine labels
  offset := instr.offset
  mnemonic := instr.opcode.mnemonic.toList
  operand? := if instr.operandWidth = 0 then none else some (instr.writtenOperand resolver)
  comment := '\t' :: [' '].intercalate instr.commentWords

@[simp] theorem Instruction.labelLine_entry (labels : LabelSet) (resolver : Resolver)
    (instr : Instruction) : (instr.entry labels resolver).labelLine = instr.labelLine labels :=
  rfl

@[simp] theorem Instruction.offset_entry (labels : LabelSet) (resolver : Resolver)
    (instr : Instruction) : (instr.entry labels resolver).offset = instr.offset :=
  rfl

@[simp] theorem Instruction.mnemonic_entry (labels : LabelSet) (resolver : Resolver)
    (instr : Instruction) :
    (instr.entry labels resolver).mnemonic = instr.opcode.mnemonic.toList :=
  rfl

/-- ASCII characters take one byte each. -/
theorem utf8ByteSize_ofList_of_ascii {text : Text} (h : ∀ c ∈ text, c.toNat < 0x80) :
    (String.ofList text).utf8ByteSize = text.length := by
  induction text with
  | nil => rfl
  | cons c rest ih =>
      obtain ⟨hc, hrest⟩ := List.forall_mem_cons.1 h
      have hsize : c.utf8Size = 1 := by
        rw [Char.utf8Size_eq_one_iff, UInt32.le_iff_toNat_le]
        exact Nat.le_of_lt_succ hc
      rw [← List.singleton_append, String.ofList_append, String.utf8ByteSize_append, ih hrest]
      simp [hsize, Nat.add_comm]

/-- The mnemonics of the catalog take as many bytes as characters. -/
theorem Catalog.utf8ByteSize_mnemonic {op : Opcode} (h : op ∈ Catalog.all) :
    op.mnemonic.utf8ByteSize = op.mnemonic.length := by
  have hascii : ∀ c ∈ op.mnemonic.toList, c.toNat < 0x80 :=
    fun c hc => ((Catalog.mnemonic_toList h).1 c hc).2
  rw [← String.length_toList, ← utf8ByteSize_ofList_of_ascii hascii, String.ofList_toList]

/-- Mnemonic and padding reach up to the column of the operand. -/
theorem Instruction.mnemonic_append_padding {options : Options} {instr : Instruction}
    (hopcode : instr.opcode ∈ Catalog.all) (hwidth : ¬ instr.operandWidth = 0)
    (labels : LabelSet) (resolver : Resolver) :
    instr.opcode.mnemonic.toList ++ instr.padding options =
      if options.hasBit 2 then
        instr.opcode.mnemonic.toList.rightpad (instr.entry labels resolver).column ' '
      else instr.opcode.mnemonic.toList ++ [' '] := by
  have hcolumn : (instr.entry labels resolver).column - instr.opcode.mnemonic.toList.length =
      max (alignColumn - instr.opcode.mnemonic.length) 1 := by
    rw [Entry.column, mnemonic_entry, String.length_toList, alignColumn]
    omega
  rw [padding, if_neg hwidth, paddingWidth, Options.contains_alignOperand,
    Catalog.utf8ByteSize_mnemonic hopcode]
  split
  · rw [List.rightpad, hcolumn]
  · rfl

/-- A mnemonic outside the catalog that is not ASCII is followed by fewer blanks than it would
take to reach the column. -/
example : (Instruction.mk 0 ⟨"éééééééé", 0x24, .shortInlineI⟩ 1 0).padding .alignOperand =
    [' '] := by
  decide +kernel

/-- An instruction whose operand can be written is listed as its entry. -/
theorem Instruction.presented_entry {resolver : Resolver} {instr : Instruction} {operand : Text}
    (labels : LabelSet) (options : Options) (hopcode : instr.opcode ∈ Catalog.all)
    (h : instr.operandText resolver = .ok operand) :
    (instr.entry labels resolver).presented options =
      instr.lineHead labels options ++ operand ++ instr.lineTail options := by
  have hwritten : instr.writtenOperand resolver = operand := by
    rw [writtenOperand, h]
    rfl
  have haddress : instr.addressLabel options =
      if options.hasBit 0 then
        "ADDR_".toList ++ Hex.padded 4 (instr.entry labels resolver).offset.toNat ++ ":  ".toList
      else [] := by
    rw [addressLabel, Options.contains_addressLabel, offset_entry]
  have hcomment : instr.bytesComment options =
      if options.hasBit 1 then (instr.entry labels resolver).comment else [] := by
    rw [← Options.contains_bytesComment]
    split
    · next hbit => exact instr.bytesComment_eq hbit
    · next hbit => rw [bytesComment, if_neg hbit]
  -- mnemonic, padding and operand are what is left to compare
  have hline : instr.opcode.mnemonic.toList ++ instr.padding options ++ operand =
      match (instr.entry labels resolver).operand? with
      | none => (instr.entry labels resolver).mnemonic
      | some operand =>
          (if options.hasBit 2 then
            (instr.entry labels resolver).mnemonic.rightpad (instr.entry labels resolver).column ' '
          else (instr.entry labels resolver).mnemonic ++ [' ']) ++ operand := by
    by_cases hwidth : instr.operandWidth = 0
    · have hnone : (instr.entry labels resolver).operand? = none := if_pos hwidth
      have hempty : operand = [] := by
        rw [operandText, if_pos hwidth] at h
        exact (Except.ok.inj h).symm
      rw [hnone, hempty, padding, if_pos hwidth, List.append_nil, List.append_nil,
        mnemonic_entry]
    · have hsome : (instr.entry labels resolver).operand? = some operand := by
        rw [← hwritten]
        exact if_neg hwidth
      rw [hsome, mnemonic_append_padding hopcode hwidth labels resolver, mnemonic_entry]
  rw [Entry.presented, ← hline, ← haddress, ← hcomment, labelLine_entry, lineHead, lineTail]
  simp only [List.append_assoc]

/-- Instructions whose operands can all be written are listed as their entries. -/
theorem text_bodyOf {labels : LabelSet} {resolver : Resolver} {options : Options}
    {instrs : List Instruction} (hopcodes : ∀ instr ∈ instrs, instr.opcode ∈ Catalog.all)
    (h : (bodyOf labels resolver options instrs).missing? = none) :
    (bodyOf labels resolver options instrs).text =
      (instrs.map (Instruction.entry labels resolver)).flatMap (Entry.presented options) := by
  induction instrs with
  | nil => rfl
  | cons instr rest ih =>
      obtain ⟨hopcode, hrest⟩ := List.forall_mem_cons.1 hopcodes
      rw [bodyOf] at h ⊢
      cases hoperand : instr.operandText resolver with
      | error missing =>
          rw [hoperand] at h
          cases h
      | ok operand =>
          rw [hoperand] at h
          rw [List.map_cons, List.flatMap_cons, ← ih hrest h,
            Instruction.presented_entry labels options hopcode hoperand]

/-- A listing that succeeds puts the entries of its instructions into the sink. -/
theorem content_of_result_ok {buffer : List UInt8} {start length count : Nat}
    {resolver : Resolver} {options : Options} {output : Output}
    (hsink : output.sink.IsUnlimited)
    (h : ((disassemble buffer start length resolver options).run output).1 = .ok count) :
    ∃ instrs : List Instruction,
      decodeAll ((buffer.drop start).take length) = .ok instrs ∧ instrs.length = count ∧
      ((disassemble buffer start length resolver options).run output).2.sink.content.toList =
        output.sink.content.toList ++
          (instrs.map (Instruction.entry (branchTargets instrs) resolver)).flatMap
            (Entry.presented options) := by
  rcases window_cases buffer start length with
    hout | ⟨bytes, hwindow, ⟨error, hdecode⟩ | ⟨instrs, hdecode⟩⟩
  · rw [run_disassemble_of_outOfBounds resolver options hout] at h
    cases h
  · rw [run_disassemble_of_error resolver options hwindow hdecode] at h
    cases h
  · have hrun := run_disassemble hsink resolver options hwindow hdecode
    dsimp only at hrun
    obtain ⟨-, rfl⟩ := window_eq_ok_iff.1 hwindow
    cases hmissing : (bodyOf (branchTargets instrs) resolver options instrs).missing? with
    | some missing =>
        rw [hrun, hmissing] at h
        cases h
    | none =>
        rw [hrun, hmissing] at h
        refine ⟨instrs, hdecode, Except.ok.inj h, ?_⟩
        rw [hrun, hmissing, ← text_bodyOf (opcode_mem_of_mem_decodeAll hdecode) hmissing]
        exact hsink.content_put _

/-- Two listings of a window with different options, on a sink without a limit. They have the
same result, also if it is a failure, and leave the same log. If the lowest three bits of the
options agree, they put the same text into the sink, no matter how they end. A listing that
succeeds consists of the entries of its instructions, and so does the one without options, so
that the two differ, instruction by instruction, in the address in front of the mnemonic, the
column of the operand and the comment in front of the line break. -/
theorem disassemble_presentation (buffer : List UInt8) (start length : Nat)
    (resolver : Resolver) (first second : Options) {output : Output}
    (hsink : output.sink.IsUnlimited) :
    let outcome := fun options => (disassemble buffer start length resolver options).run output
    (outcome first).1 = (outcome second).1 ∧
    (outcome first).2.log = (outcome second).2.log ∧
    ((∀ k < 3, first.hasBit k = second.hasBit k) →
      (outcome first).2.sink = (outcome second).2.sink) ∧
    ∀ count : Nat, (outcome first).1 = .ok count →
      ∃ instrs : List Instruction,
        decodeAll ((buffer.drop start).take length) = .ok instrs ∧ instrs.length = count ∧
        let entries := instrs.map (Instruction.entry (branchTargets instrs) resolver)
        (outcome .plain).2.sink.content.toList =
          output.sink.content.toList ++ entries.flatMap Entry.plain ∧
        (outcome first).2.sink.content.toList =
          output.sink.content.toList ++ entries.flatMap (Entry.presented first) := by
  intro outcome
  obtain ⟨hresult, hlog⟩ :=
    result_log_eq_of_isUnlimited buffer start length resolver first second hsink
  refine ⟨hresult, hlog, ?_, ?_⟩
  · intro hbits
    exact congrArg (fun program => (program.run output).2.sink)
      (disassemble_eq_of_bits hbits buffer start length resolver)
  · intro count hcount
    -- without options the listing succeeds as well, with the same instructions
    obtain ⟨hplain, -⟩ :=
      result_log_eq_of_isUnlimited buffer start length resolver first .plain hsink
    obtain ⟨instrs, hdecode, hlength, htext⟩ := content_of_result_ok hsink hcount
    obtain ⟨instrs', hdecode', -, hplainText⟩ :=
      content_of_result_ok hsink (hplain.symm.trans hcount)
    obtain rfl := Except.ok.inj (hdecode.symm.trans hdecode')
    refine ⟨instrs, hdecode, hlength, ?_, htext⟩
    rw [Entry.presented_plain] at hplainText
    exact hplainText

/-- A return, a user string and a branch to it, without options and with all bits set: the
listings have the same result and log, and the second one has addresses, comments and aligned
operands, as with the lowest three bits alone. -/
theorem disassemble_presentation_every_bit :
    let output : Output := { sink := { content := "body\n" } }
    let outcome := fun options : Options =>
      (disassemble [0x2A, 0x72, 1, 0, 0, 0x70, 0x2B, 0xF9] 0 8 .synthetic options).run output
    (outcome ⟨0xFFFFFFFF⟩).1 = .ok 3 ∧ (outcome .plain).1 = .ok 3 ∧
    (outcome ⟨0xFFFFFFFF⟩).2.log = (outcome .plain).2.log ∧
    (outcome ⟨0xFFFFFFFF⟩).2.sink = (outcome ⟨7⟩).2.sink ∧
    (outcome .plain).2.sink.content.toList =
      ("body\nret\n" ++ "IL_0001:\nldstr \"s\\n70000001\"\n" ++ "br.s IL_0001\n").toList ∧
    (outcome ⟨0xFFFFFFFF⟩).2.sink.content.toList =
      ("body\nADDR_0000:  ret\t// 0x2a\n" ++
        "IL_0001:\nADDR_0001:  ldstr        \"s\\n70000001\"\t// 0x72 0x70000001\n" ++
        "ADDR_0006:  br.s         IL_0001\t// 0x2b 0xf9\n").toList := by
  intro output outcome
  have hdecode : decodeAll [0x2A, 0x72, 1, 0, 0, 0x70, 0x2B, 0xF9] =
      .ok [⟨0, ⟨"ret", 0x2A, .inlineNone⟩, 0, 0⟩,
        ⟨1, ⟨"ldstr", 0x72, .inlineString⟩, 4, 0x70000001⟩,
        ⟨6, ⟨"br.s", 0x2B, .shortInlineBrTarget⟩, 1, 0xF9⟩] := by
    decide +kernel
  have hsink : output.sink.IsUnlimited := rfl
  have hcount : (outcome ⟨0xFFFFFFFF⟩).1 = .ok 3 := by decide +kernel
  obtain ⟨hresult, hlog, -, htexts⟩ := disassemble_presentation
    [0x2A, 0x72, 1, 0, 0, 0x70, 0x2B, 0xF9] 0 8 .synthetic ⟨0xFFFFFFFF⟩ .plain hsink
  obtain ⟨-, -, hbits, -⟩ := disassemble_presentation
    [0x2A, 0x72, 1, 0, 0, 0x70, 0x2B, 0xF9] 0 8 .synthetic ⟨0xFFFFFFFF⟩ ⟨7⟩ hsink
  obtain ⟨instrs, hinstrs, -, hplain, hfull⟩ := htexts 3 hcount
  obtain rfl := Except.ok.inj (hdecode.symm.trans hinstrs)
  refine ⟨hcount, hresult.symm.trans hcount, hlog, hbits (by decide), ?_, ?_⟩
  · exact hplain.trans (by decide +kernel)
  · exact hfull.trans (by decide +kernel)

end CilDisassembly
