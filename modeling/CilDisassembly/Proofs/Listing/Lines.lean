import CilDisassembly.Proofs.Listing.Run
import CilDisassembly.Proofs.Stream.Offsets

/-!
# The lines of a listing

A listing consists of lines: one for each instruction, and in front of it a label line
when some branch goes to the offset of the instruction. No line holds a line break
(`newline_not_mem_line`), provided that no name does; user strings may, because they are
escaped.
-/

set_option autoImplicit false

namespace CilDisassembly

/-! ## What the lines are -/

namespace Instruction

/-- The operand as it is listed; nothing if its symbol is not known. -/
def writtenOperand (resolver : Resolver) (instr : Instruction) : Text :=
  (instr.operandText resolver).toOption.getD []

/-- The instruction line, without its line break. -/
def line (resolver : Resolver) (options : Options) (instr : Instruction) : Text :=
  instr.addressLabel options ++ instr.opcode.mnemonic.toList ++ instr.padding options
    ++ instr.writtenOperand resolver ++ instr.bytesComment options

/-- Whether the resolver knows the symbol that the operand asks for, if any. -/
def IsResolved (resolver : Resolver) (instr : Instruction) : Prop :=
  ∀ kind : SymbolKind, instr.opcode.operand.symbol? = some kind →
    (resolver kind instr.operandToken).isSome = true

end Instruction

/-- Whether some branch among the instructions goes to an offset. -/
def isTarget (instrs : List Instruction) (offset : UInt32) : Bool :=
  instrs.any (fun instr => instr.branchTarget? == some offset)

/-- The label line of an offset, without its line break. -/
def colonLabel (offset : UInt32) : Text :=
  labelName offset ++ [':']

/-- The lines of some instructions, when the given offsets have labels. -/
def linesOf (hasLabel : UInt32 → Bool) (resolver : Resolver) (options : Options)
    (instrs : List Instruction) : List Text :=
  instrs.flatMap (fun instr =>
    (if hasLabel instr.offset then [colonLabel instr.offset] else []) ++
      [instr.line resolver options])

theorem linesOf_cons (hasLabel : UInt32 → Bool) (resolver : Resolver) (options : Options)
    (instr : Instruction) (rest : List Instruction) :
    linesOf hasLabel resolver options (instr :: rest) =
      (if hasLabel instr.offset then [colonLabel instr.offset] else []) ++
        [instr.line resolver options] ++ linesOf hasLabel resolver options rest := rfl

/-- Names without line breaks. User strings may be anything. -/
structure Resolver.NamesFitLine (resolver : Resolver) : Prop where
  method : ∀ (token : Token) (member : MemberRef), resolver .method token = some member →
    '\n' ∉ member.declaringType.toList ∧ '\n' ∉ member.name.toList
  field : ∀ (token : Token) (member : MemberRef), resolver .field token = some member →
    '\n' ∉ member.declaringType.toList ∧ '\n' ∉ member.name.toList
  type : ∀ (token : Token) (fullName : String), resolver .type token = some fullName →
    '\n' ∉ fullName.toList

theorem isTarget_iff {instrs : List Instruction} {offset : UInt32} :
    isTarget instrs offset = true ↔ ∃ instr ∈ instrs, instr.branchTarget? = some offset := by
  simp [isTarget, List.any_eq_true]

/-- The label set of a listing holds the offsets that some branch goes to. -/
theorem contains_branchTargets (instrs : List Instruction) (offset : UInt32) :
    (branchTargets instrs).contains offset = isTarget instrs offset := by
  rw [Bool.eq_iff_iff, isTarget_iff, Std.ExtTreeSet.contains_iff_mem, mem_branchTargets]

/-! ## No piece of a line holds a line break -/

/-- What reads as a number holds nothing but digits. -/
theorem Hex.isSome_digitValue?_of_valueFrom? {text : Text} {acc n : Nat}
    (h : valueFrom? acc text = some n) : ∀ c ∈ text, (digitValue? c).isSome = true := by
  induction text generalizing acc with
  | nil => simp
  | cons c rest ih =>
      obtain ⟨d, hd, hrest⟩ := Option.bind_eq_some_iff.1 h
      exact List.forall_mem_cons.2 ⟨by rw [hd]; rfl, ih hrest⟩

/-- Padded digits hold nothing but digits. -/
theorem Hex.not_mem_padded {c : Char} (hc : digitValue? c = none) (width n : Nat) :
    c ∉ padded width n := by
  intro hmem
  have h := isSome_digitValue?_of_valueFrom? (value?_padded width n) _ hmem
  rw [hc] at h
  cases h

theorem newline_not_mem_padded (width n : Nat) : '\n' ∉ Hex.padded width n :=
  Hex.not_mem_padded rfl width n

theorem newline_not_mem_labelName (offset : UInt32) : '\n' ∉ labelName offset := by
  simp [labelName, newline_not_mem_padded]

theorem newline_not_mem_ofNat (n : Nat) : '\n' ∉ Decimal.ofNat n := by
  intro hmem
  have h := Nat.isDigit_of_mem_toDigits (by decide) (by decide) hmem
  revert h
  decide

theorem newline_not_mem_ofInt (i : Int) : '\n' ∉ Decimal.ofInt i := by
  cases i with
  | ofNat n => exact newline_not_mem_ofNat n
  | negSucc n => simp [Decimal.ofInt, newline_not_mem_ofNat]

theorem newline_not_mem_literal (value : String) : '\n' ∉ literal value := by
  intro hmem
  have h := control_not_mem_literal value '\n' hmem
  revert h
  decide

/-- Mnemonics are made of visible ASCII characters and start with a small letter. -/
theorem Catalog.mnemonic_toList {op : Opcode} (h : op ∈ Catalog.all) :
    (∀ c ∈ op.mnemonic.toList, 0x20 < c.toNat ∧ c.toNat < 0x80) ∧
      ∃ c ∈ op.mnemonic.toList.head?, 'a' ≤ c ∧ c ≤ 'z' := by
  have hall : Catalog.all.all (fun op =>
      op.mnemonic.toList.all (fun c => decide (0x20 < c.toNat ∧ c.toNat < 0x80)) &&
        op.mnemonic.toList.head?.any (fun c => decide ('a' ≤ c ∧ c ≤ 'z'))) = true := by
    decide +kernel
  have hop := List.all_eq_true.1 hall op h
  rw [Bool.and_eq_true] at hop
  refine ⟨fun c hc => of_decide_eq_true (List.all_eq_true.1 hop.1 c hc), ?_⟩
  obtain ⟨c, hc, hrange⟩ := (Option.any_eq_true _ _).1 hop.2
  exact ⟨c, hc, of_decide_eq_true hrange⟩

/-- A name is written on one line, and a user string always is. -/
theorem newline_not_mem_written {resolver : Resolver} (hnames : resolver.NamesFitLine)
    {kind : SymbolKind} {token : Token} {symbol : kind.Value}
    (h : resolver kind token = some symbol) : '\n' ∉ kind.written symbol := by
  cases kind with
  | method =>
      obtain ⟨htype, hname⟩ := hnames.method token symbol h
      simp [SymbolKind.written, MemberRef.text, htype, hname]
  | field =>
      obtain ⟨htype, hname⟩ := hnames.field token symbol h
      simp [SymbolKind.written, MemberRef.text, htype, hname]
  | type => exact hnames.type token symbol h
  | string => exact newline_not_mem_literal symbol

/-- A written operand is one line. -/
theorem newline_not_mem_operandText {resolver : Resolver} (hnames : resolver.NamesFitLine)
    {instr : Instruction} {operand : Text} (h : instr.operandText resolver = .ok operand) :
    '\n' ∉ operand := by
  rw [Instruction.operandText] at h
  split at h
  · cases h
    exact List.not_mem_nil
  · split at h
    · split at h
      · next symbol hsymbol =>
          cases h
          exact newline_not_mem_written hnames hsymbol
      · cases h
    · split at h
      · cases h
        exact newline_not_mem_labelName _
      · cases h
        exact newline_not_mem_ofInt _

namespace Instruction

/-- An operand whose symbol is known is written. -/
theorem operandText_of_isResolved {resolver : Resolver} {instr : Instruction}
    (h : instr.IsResolved resolver) :
    instr.operandText resolver = .ok (instr.writtenOperand resolver) := by
  rw [writtenOperand, operandText]
  split
  · rfl
  · split
    · next kind hkind =>
        obtain ⟨symbol, hsymbol⟩ := Option.isSome_iff_exists.1 (h kind hkind)
        rw [hsymbol]
        rfl
    · split <;> rfl

/-- An instruction line is one line. -/
theorem newline_not_mem_line {resolver : Resolver} (hnames : resolver.NamesFitLine)
    (options : Options) {instr : Instruction} (hopcode : instr.opcode ∈ Catalog.all)
    (hresolved : instr.IsResolved resolver) : '\n' ∉ instr.line resolver options := by
  have haddress : '\n' ∉ instr.addressLabel options := by
    rw [addressLabel]
    split
    · simp [newline_not_mem_padded]
    · exact List.not_mem_nil
  have hmnemonic : '\n' ∉ instr.opcode.mnemonic.toList := by
    intro hmem
    have h := (Catalog.mnemonic_toList hopcode).1 _ hmem
    revert h
    decide
  have hpadding : '\n' ∉ instr.padding options := by
    rw [padding]
    split
    · exact List.not_mem_nil
    · simp
  have hoperand : '\n' ∉ instr.writtenOperand resolver :=
    newline_not_mem_operandText hnames (operandText_of_isResolved hresolved)
  have hcomment : '\n' ∉ instr.bytesComment options := by
    rw [bytesComment, operandDigits]
    split
    · split <;> simp [newline_not_mem_padded]
    · exact List.not_mem_nil
  simp [line, haddress, hmnemonic, hpadding, hoperand, hcomment]

/-- An instruction line does not look like a label line. -/
theorem head?_line_ne (resolver : Resolver) (options : Options) {instr : Instruction}
    (hopcode : instr.opcode ∈ Catalog.all) :
    (instr.line resolver options).head? ≠ some 'I' := by
  obtain ⟨c, hc, hlow, -⟩ := (Catalog.mnemonic_toList hopcode).2
  obtain ⟨rest, hrest⟩ := List.head?_eq_some_iff.1 hc
  have hne : c ≠ 'I' := by
    rintro rfl
    revert hlow
    decide
  rw [line, addressLabel, hrest]
  split <;> simp [hne]

end Instruction

/-! ## The text of a listing -/

/-- The text of instructions whose symbols are known consists of their lines. -/
theorem bodyOf_eq_lines (all : List Instruction) (resolver : Resolver) (options : Options)
    {instrs : List Instruction} (h : ∀ instr ∈ instrs, instr.IsResolved resolver) :
    bodyOf (branchTargets all) resolver options instrs =
      ⟨(linesOf (isTarget all) resolver options instrs).flatMap (· ++ ['\n']), none⟩ := by
  induction instrs with
  | nil => rfl
  | cons instr rest ih =>
      obtain ⟨hinstr, hrest⟩ := List.forall_mem_cons.1 h
      -- head, operand and tail are the label line and the instruction line
      have hlines : instr.lineHead (branchTargets all) options ++ instr.writtenOperand resolver
            ++ instr.lineTail options =
          ((if isTarget all instr.offset then [colonLabel instr.offset] else []) ++
            [instr.line resolver options]).flatMap (· ++ ['\n']) := by
        rw [Instruction.lineHead, Instruction.lineTail, Instruction.labelLine,
          Instruction.line, contains_branchTargets]
        split <;> simp [colonLabel]
      rw [bodyOf, Instruction.operandText_of_isResolved hinstr]
      dsimp only
      rw [ih hrest, hlines, linesOf_cons, ← List.flatMap_append]

/-- Lines without line breaks are read back by splitting the text. -/
theorem splitOn_newline {lines : List Text} (h : ∀ line ∈ lines, '\n' ∉ line) :
    (lines.flatMap (· ++ ['\n'])).splitOn '\n' = lines ++ [[]] := by
  induction lines with
  | nil => rfl
  | cons line lines ih =>
      obtain ⟨hline, hlines⟩ := List.forall_mem_cons.1 h
      rw [List.flatMap_cons, List.append_assoc, List.singleton_append,
        List.splitOn_append_cons_self_of_not_mem hline, ih hlines, List.cons_append]

/-- There are as many line breaks as lines. -/
theorem count_newline {lines : List Text} (h : ∀ line ∈ lines, '\n' ∉ line) :
    (lines.flatMap (· ++ ['\n'])).count '\n' = lines.length := by
  induction lines with
  | nil => rfl
  | cons line lines ih =>
      obtain ⟨hline, hlines⟩ := List.forall_mem_cons.1 h
      rw [List.flatMap_cons, List.count_append, List.count_append, ih hlines,
        List.count_eq_zero.2 hline, List.count_singleton_self, List.length_cons]
      omega

section Lines

variable {hasLabel : UInt32 → Bool} {resolver : Resolver} {options : Options}
  {instrs : List Instruction}

/-- Every line of a listing is one line. -/
theorem newline_not_mem_linesOf (hnames : resolver.NamesFitLine)
    (hopcode : ∀ instr ∈ instrs, instr.opcode ∈ Catalog.all)
    (hresolved : ∀ instr ∈ instrs, instr.IsResolved resolver) :
    ∀ line ∈ linesOf hasLabel resolver options instrs, '\n' ∉ line := by
  intro line hline
  obtain ⟨instr, hinstr, hline⟩ := List.mem_flatMap.1 hline
  rcases List.mem_append.1 hline with hline | hline
  · split at hline
    · rw [List.mem_singleton.1 hline, colonLabel]
      simp [newline_not_mem_labelName]
    · cases hline
  · rw [List.mem_singleton.1 hline]
    exact Instruction.newline_not_mem_line hnames options (hopcode instr hinstr)
      (hresolved instr hinstr)

/-- There is one line for each instruction and one for each label. -/
theorem length_linesOf :
    (linesOf hasLabel resolver options instrs).length =
      instrs.length + ((instrs.map Instruction.offset).filter hasLabel).length := by
  induction instrs with
  | nil => rfl
  | cons instr rest ih =>
      rw [linesOf_cons, List.length_append, ih, List.map_cons, List.filter_cons]
      split <;> simp <;> omega

/-- The lines that start like a label are the label lines, in the order of the
instructions. -/
theorem filter_linesOf (hopcode : ∀ instr ∈ instrs, instr.opcode ∈ Catalog.all) :
    (linesOf hasLabel resolver options instrs).filter (fun line => line.head? == some 'I') =
      ((instrs.map Instruction.offset).filter hasLabel).map colonLabel := by
  induction instrs with
  | nil => rfl
  | cons instr rest ih =>
      obtain ⟨hinstr, hrest⟩ := List.forall_mem_cons.1 hopcode
      have hline : ((instr.line resolver options).head? == some 'I') = false := by
        rw [beq_eq_false_iff_ne]
        exact Instruction.head?_line_ne resolver options hinstr
      rw [linesOf_cons, List.filter_append, ih hrest, List.map_cons, List.filter_cons]
      split <;> simp [hline, colonLabel, labelName]

end Lines

end CilDisassembly
