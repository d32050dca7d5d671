import CilDisassembly.Proofs.Listing.Comment
import CilDisassembly.Proofs.Listing.Labels
import CilDisassembly.Proofs.Opcode.Mnemonic
import CilDisassembly.Proofs.Text.LiteralReader

/-!
# Listings are faithful

A resolver that gives different names to different tokens makes listings faithful: whatever the
options are, a listing tells which instructions it was made of.

The lines are read from the first one on, so that the offset of each instruction is known when
its line is read. The mnemonic ends at the first character that is no visible one, and no two
opcodes share a mnemonic. The operand is then read by the kind that the opcode prescribes: a
name tells the token, a label tells the displacement from the known offset, and a decimal number
tells the operand itself. Label lines are told apart from instruction lines by their first
letter, and carry no information of their own.

## What this module delivers

- `Resolver.NamesDiffer`: different tokens have different names.
- `Instruction.operand_eq_of_writtenOperand`: an operand is known from its written form.
- `Instruction.eq_of_line_eq`: an instruction is known from its line and its offset.
- `decodedFrom_eq_of_lines`: instructions are known from their lines.
- `disassembleToString_eq_iff`: listings are equal exactly when their instructions are.
-/

set_option autoImplicit false

namespace CilDisassembly

/-- Different tokens have different written names, kind by kind. -/
structure Resolver.NamesDiffer (resolver : Resolver) : Prop where
  method : ∀ (a b : Token) (x y : MemberRef), resolver .method a = some x →
    resolver .method b = some y → x.text = y.text → a = b
  field : ∀ (a b : Token) (x y : MemberRef), resolver .field a = some x →
    resolver .field b = some y → x.text = y.text → a = b
  type : ∀ (a b : Token) (x y : String), resolver .type a = some x →
    resolver .type b = some y → x = y → a = b
  string : ∀ (a b : Token) (x y : String), resolver .string a = some x →
    resolver .string b = some y → x = y → a = b

/-- A token is known from the written form of its symbol. -/
theorem Resolver.NamesDiffer.token_eq {resolver : Resolver} (h : resolver.NamesDiffer)
    {kind : SymbolKind} {a b : Token} {x y : kind.Value} (ha : resolver kind a = some x)
    (hb : resolver kind b = some y) (heq : kind.written x = kind.written y) : a = b := by
  cases kind with
  | method => exact h.method a b x y ha hb heq
  | field => exact h.field a b x y ha hb heq
  | type => exact h.type a b x y ha hb (String.toList_inj.1 heq)
  | string => exact h.string a b x y ha hb (literal_injective heq)

namespace Instruction

/-! ## Operands -/

/-- An operand that fits four bytes is known from its low 32 bits. -/
theorem operand_eq_of_toUInt32 {a b : Instruction} (ha : a.operand.toNat < 256 ^ 4)
    (hb : b.operand.toNat < 256 ^ 4) (h : a.operand.toUInt32 = b.operand.toUInt32) :
    a.operand = b.operand := by
  have hnat := congrArg UInt32.toNat h
  rw [UInt64.toNat_toUInt32, UInt64.toNat_toUInt32] at hnat
  apply UInt64.toNat_inj.1
  omega

/-- An operand that fits one byte is known from its low 8 bits. -/
theorem operand_eq_of_toUInt8 {a b : Instruction} (ha : a.operand.toNat < 256 ^ 1)
    (hb : b.operand.toNat < 256 ^ 1) (h : a.operand.toUInt8 = b.operand.toUInt8) :
    a.operand = b.operand := by
  have hnat := congrArg UInt8.toNat h
  rw [UInt64.toNat_toUInt8, UInt64.toNat_toUInt8] at hnat
  apply UInt64.toNat_inj.1
  omega

/-- Sign extension loses nothing. -/
theorem signExtend_injective {a b : UInt8}
    (h : a.toInt8.toInt32.toUInt32 = b.toInt8.toInt32.toUInt32) : a = b := by
  have hint32 := congrArg UInt32.toInt32 h
  rw [Int32.toInt32_toUInt32, Int32.toInt32_toUInt32] at hint32
  have hint := congrArg Int32.toInt hint32
  rw [Int8.toInt_toInt32, Int8.toInt_toInt32] at hint
  have hint8 := congrArg Int8.toUInt8 (Int8.toInt_inj.1 hint)
  rw [UInt8.toUInt8_toInt8, UInt8.toUInt8_toInt8] at hint8
  exact hint8

variable {a b : Instruction}

/-- A branch operand is known from the displacement. -/
theorem operand_eq_of_displacement? {displacement : UInt32} (ha : a.IsWellFormed)
    (hb : b.IsWellFormed) (hopcode : a.opcode = b.opcode)
    (hda : a.displacement? = some displacement) (hdb : b.displacement? = some displacement) :
    a.operand = b.operand := by
  have hlta := ha.operand_lt
  have hltb := hb.operand_lt
  rw [ha.operandWidth_eq, Opcode.operandWidth] at hlta
  rw [hb.operandWidth_eq, Opcode.operandWidth, ← hopcode] at hltb
  rw [displacement?] at hda
  rw [displacement?, ← hopcode] at hdb
  cases hkind : a.opcode.operand with
  | shortInlineBrTarget =>
      rw [hkind] at hda hdb hlta hltb
      apply operand_eq_of_toUInt8 hlta hltb
      apply signExtend_injective
      exact Option.some.inj (hda.trans hdb.symm)
  | inlineBrTarget =>
      rw [hkind] at hda hdb hlta hltb
      apply operand_eq_of_toUInt32 hlta hltb
      exact Option.some.inj (hda.trans hdb.symm)
  | _ =>
      rw [hkind] at hda
      cases hda

theorem endOffset_eq (ha : a.IsWellFormed) (hb : b.IsWellFormed) (hoffset : a.offset = b.offset)
    (hopcode : a.opcode = b.opcode) : a.endOffset = b.endOffset := by
  rw [endOffset, endOffset, byteSize, byteSize, ha.operandWidth_eq, hb.operandWidth_eq, hoffset,
    hopcode]

/-- A branch operand is known from the target, because the offset is known. -/
theorem operand_eq_of_branchTarget? {target : UInt32} (ha : a.IsWellFormed)
    (hb : b.IsWellFormed) (hoffset : a.offset = b.offset) (hopcode : a.opcode = b.opcode)
    (hta : a.branchTarget? = some target) (htb : b.branchTarget? = some target) :
    a.operand = b.operand := by
  obtain ⟨first, hfirst, hta⟩ := Option.map_eq_some_iff.1 hta
  obtain ⟨second, hsecond, htb⟩ := Option.map_eq_some_iff.1 htb
  rw [← endOffset_eq ha hb hoffset hopcode] at htb
  have hsame : first = second := (UInt32.add_right_inj _).1 (hta.trans htb.symm)
  rw [← hsame] at hsecond
  exact operand_eq_of_displacement? ha hb hopcode hfirst hsecond

/-- An operand is known from its signed value. -/
theorem operand_eq_of_operandValue (h : a.operandValue = b.operandValue) :
    a.operand = b.operand := by
  have hword := congrArg Int64.toUInt64 (Int64.toInt_inj.1 h)
  rw [UInt64.toUInt64_toInt64, UInt64.toUInt64_toInt64] at hword
  exact hword

/-- What is written for an operand that asks for a symbol. -/
theorem writtenOperand_of_symbol {resolver : Resolver} {kind : SymbolKind}
    (hwidth : ¬ a.operandWidth = 0) (hkind : a.opcode.operand.symbol? = some kind)
    (hresolved : a.IsResolved resolver) :
    ∃ symbol : kind.Value, resolver kind a.operandToken = some symbol ∧
      a.writtenOperand resolver = kind.written symbol := by
  obtain ⟨symbol, hsymbol⟩ := Option.isSome_iff_exists.1 (hresolved kind hkind)
  refine ⟨symbol, hsymbol, ?_⟩
  rw [writtenOperand, operandText, if_neg hwidth, hkind]
  dsimp only
  rw [hsymbol]
  rfl

/-- What is written for an operand that is neither a symbol nor a branch. -/
theorem writtenOperand_of_value (resolver : Resolver) (hwidth : ¬ a.operandWidth = 0)
    (hkind : a.opcode.operand.symbol? = none) (htarget : a.branchTarget? = none) :
    a.writtenOperand resolver = Decimal.ofInt a.operandValue := by
  rw [writtenOperand, operandText, if_neg hwidth, hkind]
  dsimp only
  rw [htarget]
  rfl

theorem isSome_branchTarget?_eq (hopcode : a.opcode = b.opcode) :
    a.branchTarget?.isSome = b.branchTarget?.isSome := by
  rw [isSome_branchTarget?, isSome_branchTarget?, isBranch, isBranch, hopcode]

/-- An operand of a known opcode at a known offset is known from its written form. -/
theorem operand_eq_of_writtenOperand {resolver : Resolver} (hnames : resolver.NamesDiffer)
    (ha : a.IsWellFormed) (hb : b.IsWellFormed) (hra : a.IsResolved resolver)
    (hrb : b.IsResolved resolver) (hoffset : a.offset = b.offset) (hopcode : a.opcode = b.opcode)
    (h : a.writtenOperand resolver = b.writtenOperand resolver) : a.operand = b.operand := by
  have hwidth : b.operandWidth = a.operandWidth := by
    rw [ha.operandWidth_eq, hb.operandWidth_eq, hopcode]
  have hlta := ha.operand_lt
  have hltb := hb.operand_lt
  rw [hwidth] at hltb
  by_cases hzero : a.operandWidth = 0
  · -- without operand bytes the operand is zero
    rw [hzero] at hlta hltb
    apply UInt64.toNat_inj.1
    omega
  have hzerob : ¬ b.operandWidth = 0 := by
    rw [hwidth]
    exact hzero
  cases hkind : a.opcode.operand.symbol? with
  | some kind =>
      have hkindb : b.opcode.operand.symbol? = some kind := by rw [← hopcode, hkind]
      have hfour : a.operandWidth = 4 := by
        rw [ha.operandWidth_eq]
        exact OperandKind.width_of_isToken (OperandKind.isToken_of_symbol? hkind)
      obtain ⟨x, hx, hwx⟩ := writtenOperand_of_symbol hzero hkind hra
      obtain ⟨y, hy, hwy⟩ := writtenOperand_of_symbol hzerob hkindb hrb
      have htoken := hnames.token_eq hx hy (by rw [← hwx, ← hwy, h])
      rw [hfour] at hlta hltb
      exact operand_eq_of_toUInt32 hlta hltb (congrArg Token.value htoken)
  | none =>
      have hkindb : b.opcode.operand.symbol? = none := by rw [← hopcode, hkind]
      have hbranch := isSome_branchTarget?_eq hopcode
      cases hta : a.branchTarget? with
      | some target =>
          rw [hta] at hbranch
          obtain ⟨other, htb⟩ := Option.isSome_iff_exists.1 hbranch.symm
          rw [writtenOperand_of_branchTarget resolver ha.operandWidth_eq hta,
            writtenOperand_of_branchTarget resolver hb.operandWidth_eq htb] at h
          rw [← labelName_injective h] at htb
          exact operand_eq_of_branchTarget? ha hb hoffset hopcode hta htb
      | none =>
          rw [hta] at hbranch
          have htb : b.branchTarget? = none := by
            apply Option.not_isSome_iff_eq_none.1
            rw [← hbranch]
            exact Bool.false_ne_true
          rw [writtenOperand_of_value resolver hzero hkind hta,
            writtenOperand_of_value resolver hzerob hkindb htb] at h
          exact operand_eq_of_operandValue (Decimal.ofInt_injective h)

end Instruction

/-! ## Mnemonics -/

/-- Whether a character is visible. -/
def isVisible (c : Char) : Bool :=
  decide (0x20 < c.toNat)

/-- A mnemonic ends where a text follows that does not start with a visible character. -/
theorem takeWhile_mnemonic {op : Opcode} (h : op ∈ Catalog.all) {behind : Text}
    (hbehind : behind.takeWhile isVisible = []) :
    (op.mnemonic.toList ++ behind).takeWhile isVisible = op.mnemonic.toList := by
  have hvisible : ∀ c ∈ op.mnemonic.toList, isVisible c = true := by
    intro c hc
    exact decide_eq_true ((Catalog.mnemonic_toList h).1 c hc).1
  rw [List.takeWhile_append_of_pos hvisible, hbehind, List.append_nil]

namespace Instruction

/-- Behind the mnemonic stands a blank or nothing. -/
theorem takeWhile_padding (resolver : Resolver) (options : Options) (instr : Instruction) :
    (instr.padding options ++ instr.writtenOperand resolver).takeWhile isVisible = [] := by
  by_cases hwidth : instr.operandWidth = 0
  · rw [padding, if_pos hwidth, writtenOperand, operandText, if_pos hwidth]
    rfl
  · have hpos : 1 ≤ instr.paddingWidth options := by
      rw [paddingWidth]
      split
      · exact Nat.le_max_right _ _
      · exact Nat.le_refl 1
    obtain ⟨count, hcount⟩ := Nat.exists_eq_add_of_le' hpos
    rw [padding, if_neg hwidth, hcount, List.replicate_succ, List.cons_append]
    rfl

/-- Without the bytes comment a line ends with the operand. -/
theorem line_of_no_comment {options : Options} (resolver : Resolver) (instr : Instruction)
    (h : options.contains .bytesComment = false) :
    instr.line resolver options = instr.addressLabel options ++ (instr.opcode.mnemonic.toList ++
      (instr.padding options ++ instr.writtenOperand resolver)) := by
  have hcomment : instr.bytesComment options = [] := by
    rw [bytesComment, h]
    rfl
  rw [line, hcomment, List.append_nil, List.append_assoc, List.append_assoc]

/-- Without the bytes comment, an instruction at a known offset is known from its line. -/
theorem eq_of_line_eq {a b : Instruction} {resolver : Resolver} {options : Options}
    (hoptions : options.contains .bytesComment = false) (hnames : resolver.NamesDiffer)
    (ha : a.IsWellFormed) (hb : b.IsWellFormed) (hra : a.IsResolved resolver)
    (hrb : b.IsResolved resolver) (hoffset : a.offset = b.offset)
    (h : a.line resolver options = b.line resolver options) : a = b := by
  have haddress : a.addressLabel options = b.addressLabel options := by
    rw [addressLabel, addressLabel, hoffset]
  rw [line_of_no_comment resolver a hoptions, line_of_no_comment resolver b hoptions,
    haddress] at h
  have hrest := List.append_cancel_left h
  have hmnemonic : a.opcode.mnemonic.toList = b.opcode.mnemonic.toList := by
    rw [← takeWhile_mnemonic ha.opcode_mem (takeWhile_padding resolver options a), hrest,
      takeWhile_mnemonic hb.opcode_mem (takeWhile_padding resolver options b)]
  have hopcode : a.opcode = b.opcode :=
    Catalog.mnemonic_injective ha.opcode_mem hb.opcode_mem (String.toList_inj.1 hmnemonic)
  have hwidth : a.operandWidth = b.operandWidth := by
    rw [ha.operandWidth_eq, hb.operandWidth_eq, hopcode]
  have hpadding : a.padding options = b.padding options := by
    rw [padding, padding, paddingWidth, paddingWidth, hwidth, hopcode]
  rw [hmnemonic, hpadding] at hrest
  have hwritten := List.append_cancel_left (List.append_cancel_left hrest)
  have hoperand := operand_eq_of_writtenOperand hnames ha hb hra hrb hoffset hopcode hwritten
  obtain ⟨offset, opcode, operandWidth, operand⟩ := a
  simp only at hoffset hopcode hwidth hoperand
  rw [hoffset, hopcode, hwidth, hoperand]

end Instruction

/-! ## Lines -/

/-- The lines that do not start like a label are the instruction lines, in the order of the
instructions. -/
theorem filter_not_label_linesOf (hasLabel : UInt32 → Bool) (resolver : Resolver)
    (options : Options) {instrs : List Instruction}
    (hopcode : ∀ instr ∈ instrs, instr.opcode ∈ Catalog.all) :
    (linesOf hasLabel resolver options instrs).filter (fun line => line.head? != some 'I') =
      instrs.map (Instruction.line resolver options) := by
  induction instrs with
  | nil => rfl
  | cons instr rest ih =>
      obtain ⟨hinstr, hrest⟩ := List.forall_mem_cons.1 hopcode
      have hline : ((instr.line resolver options).head? != some 'I') = true :=
        bne_iff_ne.2 (Instruction.head?_line_ne resolver options hinstr)
      rw [linesOf_cons, List.filter_append, ih hrest]
      split <;> simp [hline, colonLabel, labelName]

/-- Units whose instructions have the same lines have the same instructions: the offset of each
instruction is known from the instructions before it. -/
theorem decodedFrom_eq_of_lines {resolver : Resolver} {options : Options}
    (hoptions : options.contains .bytesComment = false) (hnames : resolver.NamesDiffer)
    {first second : List CodeUnit} {offset : UInt32}
    (hfirst : ∀ found ∈ decodedFrom offset first, found.instruction.IsResolved resolver)
    (hsecond : ∀ found ∈ decodedFrom offset second, found.instruction.IsResolved resolver)
    (h : (decodedFrom offset first).map (fun found => found.instruction.line resolver options) =
      (decodedFrom offset second).map (fun found => found.instruction.line resolver options)) :
    (decodedFrom offset first).map Decoded.instruction =
      (decodedFrom offset second).map Decoded.instruction := by
  induction first generalizing second offset with
  | nil =>
      cases second with
      | nil => rfl
      | cons unit second => cases h
  | cons unit first ih =>
      cases second with
      | nil => cases h
      | cons other second =>
          rw [decodedFrom] at hfirst
          rw [decodedFrom] at hsecond
          obtain ⟨hunit, hfirst⟩ := List.forall_mem_cons.1 hfirst
          obtain ⟨hother, hsecond⟩ := List.forall_mem_cons.1 hsecond
          obtain ⟨hline, hlines⟩ := List.cons.inj h
          have heq : unit.instruction offset = other.instruction offset :=
            Instruction.eq_of_line_eq hoptions hnames (unit.isWellFormed_instruction offset)
              (other.isWellFormed_instruction offset) hunit hother rfl hline
          -- equal instructions are equally long, so what follows stands at the same offset
          have hsize : unit.byteSize = other.byteSize := by
            rw [← unit.byteSize_instruction offset, heq, other.byteSize_instruction]
          rw [← hsize] at hsecond hlines
          have hrest := ih hfirst hsecond hlines
          rw [decodedFrom, decodedFrom, List.map_cons, List.map_cons, ← hsize, hrest]
          exact congrArg (· :: _) heq

/-! ## Listings -/

/-- Without the bytes comment, decoded instructions are known from the lines of their listing. -/
theorem eq_of_linesOf_eq {resolver : Resolver} {options : Options}
    (hoptions : options.contains .bytesComment = false) (hdiffer : resolver.NamesDiffer)
    {first second : List UInt8} {instrs others : List Instruction}
    (hfirst : decodeAll first = .ok instrs) (hsecond : decodeAll second = .ok others)
    (hinstrs : ∀ instr ∈ instrs, instr.IsResolved resolver)
    (hothers : ∀ instr ∈ others, instr.IsResolved resolver)
    (h : linesOf (isTarget instrs) resolver options instrs =
      linesOf (isTarget others) resolver options others) : instrs = others := by
  have hmap : instrs.map (Instruction.line resolver options) =
      others.map (Instruction.line resolver options) := by
    have hopcode := opcode_mem_of_mem_decodeAll hfirst
    have hopcode' := opcode_mem_of_mem_decodeAll hsecond
    rw [← filter_not_label_linesOf (isTarget instrs) resolver options hopcode, h,
      filter_not_label_linesOf (isTarget others) resolver options hopcode']
  obtain ⟨units, -, -, rfl⟩ := exists_units_of_decodeAll hfirst
  obtain ⟨otherUnits, -, -, rfl⟩ := exists_units_of_decodeAll hsecond
  rw [instructionsOf, instructionsOf, List.map_map, List.map_map] at hmap
  exact decodedFrom_eq_of_lines hoptions hdiffer
    (fun found hfound => hinstrs _ (List.mem_map_of_mem hfound))
    (fun found hfound => hothers _ (List.mem_map_of_mem hfound)) hmap

/-- Under any options, and with a resolver that gives different names to different tokens and
does not break lines, two listings are equal exactly when the instructions they were made of
are. Neither branches, which are listed by their targets only, nor label lines make listings of
different instructions look alike. -/
theorem disassembleToString_eq_iff {resolver : Resolver} {options : Options}
    {first second : List UInt8} {text other : String} (hnames : resolver.NamesFitLine)
    (hdiffer : resolver.NamesDiffer)
    (hfirst : (disassembleToString first resolver options).1 = .ok text)
    (hsecond : (disassembleToString second resolver options).1 = .ok other) :
    ∃ instrs others : List Instruction,
      decodeAll first = .ok instrs ∧ decodeAll second = .ok others ∧
      (text = other ↔ instrs = others) := by
  obtain ⟨instrs, hdecode, hresolved, htext⟩ := exists_lines_of_disassembleToString hfirst
  obtain ⟨others, hdecode', hresolved', htext'⟩ := exists_lines_of_disassembleToString hsecond
  refine ⟨instrs, others, hdecode, hdecode', ?_, ?_⟩
  · rintro rfl
    cases hoptions : options.contains .bytesComment with
    | true =>
        -- the comments show bytes, and these are decoded to the instructions
        have hread := decodeAll_listedBytes hdecode hoptions hnames hfirst
        have hread' := decodeAll_listedBytes hdecode' hoptions hnames hsecond
        exact Except.ok.inj (hread.symm.trans hread')
    | false =>
        have hlines := splitOn_of_disassembleToString hdecode hnames hfirst
        have hlines' := splitOn_of_disassembleToString hdecode' hnames hsecond
        exact eq_of_linesOf_eq hoptions hdiffer hdecode hdecode' hresolved hresolved'
          (List.append_cancel_right (hlines.symm.trans hlines'))
  · rintro rfl
    exact String.toList_inj.1 (htext.trans htext'.symm)

/-- The synthetic resolver gives different names to different tokens. -/
theorem namesDiffer_synthetic : Resolver.synthetic.NamesDiffer := by
  have htoken : ∀ a b : Token,
      Hex.digits a.value.toNat = Hex.digits b.value.toNat → a = b := by
    intro a b h
    have hvalue := Hex.value?_digits a.value.toNat
    rw [h, Hex.value?_digits] at hvalue
    have hword := UInt32.toNat_inj.1 (Option.some.inj hvalue)
    obtain ⟨value⟩ := a
    exact congrArg Token.mk hword.symm
  refine ⟨?_, ?_, ?_, ?_⟩
  · rintro a b x y ⟨⟩ ⟨⟩ h
    apply htoken
    simpa [MemberRef.text] using h
  · rintro a b x y ⟨⟩ ⟨⟩ h
    apply htoken
    simpa [MemberRef.text] using h
  · rintro a b x y ⟨⟩ ⟨⟩ h
    apply htoken
    simpa using congrArg String.toList h
  · rintro a b x y ⟨⟩ ⟨⟩ h
    apply htoken
    simpa using congrArg String.toList h

/-- A comparison and a branch, first behind a lead byte that does not count, then without it,
and last with another target: the first two are listed alike, the last is not. -/
theorem disassembleToString_eq_iff_targets :
    let listed := fun buffer : List UInt8 =>
      (disassembleToString buffer .synthetic .alignOperand).1
    listed [0xFE, 0xFE, 0x01, 0x2B, 0xFC] = .ok "IL_0000:\nceq\nbr.s         IL_0000\n" ∧
    listed [0xFE, 0x01, 0x2B, 0xFC] = .ok "IL_0000:\nceq\nbr.s         IL_0000\n" ∧
    listed [0xFE, 0x01, 0x2B, 0xFD] = .ok "ceq\nbr.s         IL_0001\n" ∧
    decodeAll [0xFE, 0xFE, 0x01, 0x2B, 0xFC] = decodeAll [0xFE, 0x01, 0x2B, 0xFC] ∧
    decodeAll [0xFE, 0x01, 0x2B, 0xFC] ≠ decodeAll [0xFE, 0x01, 0x2B, 0xFD] := by
  intro listed
  have hfirst : listed [0xFE, 0xFE, 0x01, 0x2B, 0xFC] =
      .ok "IL_0000:\nceq\nbr.s         IL_0000\n" := by
    decide +kernel
  have hsecond : listed [0xFE, 0x01, 0x2B, 0xFC] =
      .ok "IL_0000:\nceq\nbr.s         IL_0000\n" := by
    decide +kernel
  have hthird : listed [0xFE, 0x01, 0x2B, 0xFD] = .ok "ceq\nbr.s         IL_0001\n" := by
    decide +kernel
  refine ⟨hfirst, hsecond, hthird, ?_, ?_⟩
  · obtain ⟨instrs, others, hdecode, hdecode', heq⟩ :=
      disassembleToString_eq_iff namesFitLine_synthetic namesDiffer_synthetic hfirst hsecond
    rw [hdecode, hdecode', heq.1 rfl]
  · obtain ⟨instrs, others, hdecode, hdecode', heq⟩ :=
      disassembleToString_eq_iff namesFitLine_synthetic namesDiffer_synthetic hsecond hthird
    rw [hdecode, hdecode']
    intro hsame
    exact absurd (heq.2 (Except.ok.inj hsame)) (by decide)

end CilDisassembly
