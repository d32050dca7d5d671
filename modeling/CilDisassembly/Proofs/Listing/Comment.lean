import CilDisassembly.Proofs.Listing.Outcome
import CilDisassembly.Proofs.Stream.Canonical
import CilDisassembly.Text.Digits.Lemmas

/-!
# The bytes comment

With the bytes comment every instruction line ends with a tab and a comment that shows the
opcode and the operand in hexadecimal. No tab can stand behind that one: names come before it,
and a comment has none. So the comment is what stands behind the last tab of a line, and the
bytes of the instruction can be read from it, even if a name looks like a comment
(`lineBytes_line`). Label lines have no tab, and what they consist of is no comment.

The number of digits tells the width of the operand. This needs operands that fit their width,
and decoded operands do, because they are not sign-extended. The reader (`listedBytes`) does not
know the options, the resolver or the catalog. What it reads from a listing is what the
instructions are encoded as, so that equal listings have the same instructions
(`listedBytes_disassembleToString`).
-/

set_option autoImplicit false

namespace CilDisassembly

/-! ## Reading comments -/

/-- The bytes that hexadecimal digits spell out, two digits to a byte. -/
def Hex.bytes? (digits : Text) : Option (List UInt8) :=
  (value? digits).map (fun n => (Bytes.ofNat (digits.length / 2) n).reverse)

/-- The bytes that a comment shows. The opcode is shown in stream order, the operand as a
number, so that its lowest byte comes last. -/
def commentBytes (comment : Text) : Option (List UInt8) :=
  match comment.splitOn ' ' with
  | [['/', '/'], '0' :: 'x' :: opcode] => Hex.bytes? opcode
  | [['/', '/'], '0' :: 'x' :: opcode, '0' :: 'x' :: operand] => do
      let first ← Hex.bytes? opcode
      let second ← Hex.bytes? operand
      return first ++ second.reverse
  | _ => none

/-- The bytes that the comment of a line shows; nothing if the line has no comment. -/
def lineBytes (line : Text) : List UInt8 :=
  (commentBytes ((line.splitOn '\t').getLastD [])).getD []

/-- The bytes that the comments of a listing show. -/
def listedBytes (text : String) : List UInt8 :=
  (text.toList.splitOn '\n').flatMap lineBytes

/-! ## Digits and bytes -/

/-- A number that fits some bytes is written as the digits of these bytes. -/
theorem Hex.bytes?_padded {count n : Nat} (hpos : 0 < count) (h : n < 256 ^ count) :
    bytes? (padded (2 * count) n) = some (Bytes.ofNat count n).reverse := by
  have hlt : n < 16 ^ (2 * count) := by
    rw [Nat.pow_mul]
    exact h
  have hlength : (padded (2 * count) n).length = 2 * count :=
    length_padded_of_lt (by omega) hlt
  have hhalf : 2 * count / 2 = count := by omega
  rw [bytes?, value?_padded, hlength, hhalf]
  rfl

/-- The value of an opcode fits its bytes. -/
theorem Opcode.value_lt (op : Opcode) : op.value.toNat < 256 ^ op.size := by
  have hvalue := op.value.toNat_lt
  rw [size]
  split
  · omega
  · next hone =>
      rw [isTwoByte_iff] at hone
      omega

/-- An opcode is written as the bytes of its value, the high byte first. -/
theorem Opcode.bytes_eq_ofNat (op : Opcode) :
    op.bytes = (Bytes.ofNat op.size op.value.toNat).reverse := by
  have hlow : UInt8.ofNat op.value.toNat = op.value.toUInt8 := rfl
  have hhigh : UInt8.ofNat (op.value.toNat / 256) = (op.value >>> 8).toUInt8 := by
    apply UInt8.toNat_inj.1
    have hvalue := op.value.toNat_lt
    rw [toNat_highByte, UInt8.toNat_ofNat']
    omega
  rw [bytes, size]
  split
  · simp only [Bytes.ofNat, hlow, hhigh]
    rfl
  · simp only [Bytes.ofNat, hlow]
    rfl

/-! ## Lines -/

/-- The words of a comment. -/
def Instruction.commentWords (instr : Instruction) : List Text :=
  ['/', '/'] :: ('0' :: 'x' :: Hex.padded (2 * instr.opcode.size) instr.opcode.value.toNat) ::
    if instr.operandWidth = 0 then [] else ['0' :: 'x' :: instr.operandDigits]

/-- A comment is a tab and words with blanks between them. -/
theorem Instruction.bytesComment_eq {options : Options} (instr : Instruction)
    (h : options.contains .bytesComment = true) :
    instr.bytesComment options = '\t' :: [' '].intercalate instr.commentWords := by
  have hopen : "\t// 0x".toList = ['\t', '/', '/', ' ', '0', 'x'] := by decide
  have hnext : " 0x".toList = [' ', '0', 'x'] := by decide
  rw [bytesComment, if_pos h, commentWords, hopen, hnext]
  split <;> simp [List.intercalate]

/-- Words of a comment are made of slashes, digits and the letter x. -/
theorem Instruction.not_mem_commentWords {c : Char} (instr : Instruction)
    (hc : Hex.digitValue? c = none) (hx : c ≠ 'x') (hslash : c ≠ '/') :
    ∀ word ∈ instr.commentWords, c ∉ word := by
  have hzero : c ≠ '0' := by
    rintro rfl
    cases hc
  have hdigits := Hex.not_mem_padded hc
  rw [commentWords]
  split <;> simp [operandDigits, hdigits, hzero, hx, hslash]

/-- No tab stands in a comment behind the first one. -/
theorem Instruction.tab_not_mem_comment (instr : Instruction) :
    '\t' ∉ [' '].intercalate instr.commentWords := by
  have hwords := instr.not_mem_commentWords (c := '\t') rfl (by decide) (by decide)
  rw [commentWords] at hwords ⊢
  split at hwords <;> simp_all [List.intercalate]

/-- A comment shows the bytes of its instruction. -/
theorem commentBytes_commentWords {instr : Instruction}
    (h : instr.operand.toNat < 256 ^ instr.operandWidth) :
    commentBytes ([' '].intercalate instr.commentWords) = some instr.encode := by
  have hblank := instr.not_mem_commentWords (c := ' ') rfl (by decide) (by decide)
  have hopcode := Hex.bytes?_padded instr.opcode.size_pos instr.opcode.value_lt
  rw [← Opcode.bytes_eq_ofNat] at hopcode
  rw [commentBytes, List.splitOn_intercalate ' ' hblank (List.cons_ne_nil _ _),
    Instruction.commentWords]
  by_cases hwidth : instr.operandWidth = 0
  · rw [if_pos hwidth]
    show Hex.bytes? _ = _
    rw [hopcode, Instruction.encode, hwidth, Bytes.ofNat, List.append_nil]
  · have hoperand : Hex.bytes? instr.operandDigits =
        some (Bytes.ofNat instr.operandWidth instr.operand.toNat).reverse :=
      Hex.bytes?_padded (Nat.pos_of_ne_zero hwidth) h
    rw [if_neg hwidth]
    show (Hex.bytes? _).bind (fun first => (Hex.bytes? instr.operandDigits).bind (fun second =>
      some (first ++ second.reverse))) = _
    rw [hopcode, hoperand, Option.bind_some, Option.bind_some, List.reverse_reverse,
      Instruction.encode]

/-- From an instruction line the bytes of the instruction are read, whatever stands in front
of the comment. -/
theorem lineBytes_line {resolver : Resolver} {options : Options} {instr : Instruction}
    (hoptions : options.contains .bytesComment = true)
    (h : instr.operand.toNat < 256 ^ instr.operandWidth) :
    lineBytes (instr.line resolver options) = instr.encode := by
  rw [lineBytes, Instruction.line, Instruction.bytesComment_eq instr hoptions,
    List.splitOn_append_cons_self,
    List.splitOn_eq_singleton instr.tab_not_mem_comment, List.getLastD_concat,
    commentBytes_commentWords h]
  rfl

/-- From a label line nothing is read. -/
theorem lineBytes_colonLabel (offset : UInt32) : lineBytes (colonLabel offset) = [] := by
  have htab : '\t' ∉ colonLabel offset := by
    simp [colonLabel, labelName, Hex.not_mem_padded (c := '\t') rfl]
  have hblank : ' ' ∉ colonLabel offset := by
    simp [colonLabel, labelName, Hex.not_mem_padded (c := ' ') rfl]
  rw [lineBytes, List.splitOn_eq_singleton htab]
  show (commentBytes (colonLabel offset)).getD [] = []
  rw [commentBytes, List.splitOn_eq_singleton hblank]
  rfl

/-- From the lines of instructions their bytes are read. -/
theorem flatMap_lineBytes_linesOf {hasLabel : UInt32 → Bool} {resolver : Resolver}
    {options : Options} {instrs : List Instruction}
    (hoptions : options.contains .bytesComment = true)
    (h : ∀ instr ∈ instrs, instr.operand.toNat < 256 ^ instr.operandWidth) :
    (linesOf hasLabel resolver options instrs).flatMap lineBytes = encodeAll instrs := by
  induction instrs with
  | nil => rfl
  | cons instr rest ih =>
      obtain ⟨hinstr, hrest⟩ := List.forall_mem_cons.1 h
      have hlabel : (if hasLabel instr.offset then [colonLabel instr.offset] else []).flatMap
          lineBytes = [] := by
        split
        · rw [List.flatMap_singleton]
          exact lineBytes_colonLabel _
        · rfl
      rw [linesOf_cons, List.flatMap_append, List.flatMap_append, hlabel, List.nil_append,
        List.flatMap_singleton, lineBytes_line hoptions hinstr, ih hrest, encodeAll, encodeAll,
        List.flatMap_cons]

/-! ## Listings -/

/-- A listing with the bytes comment is read back as what its instructions are encoded as. -/
theorem listedBytes_of_disassembleToString {buffer : List UInt8} {instrs : List Instruction}
    {resolver : Resolver} {options : Options} {text : String}
    (hdecode : decodeAll buffer = .ok instrs)
    (hoptions : options.contains .bytesComment = true) (hnames : resolver.NamesFitLine)
    (h : (disassembleToString buffer resolver options).1 = .ok text) :
    listedBytes text = encodeAll instrs := by
  have hformed := isWellFormed_of_mem_decodeAll hdecode
  -- behind the last line break stands the empty line, and nothing is read from it
  have hempty : lineBytes [] = [] := by decide
  rw [listedBytes, splitOn_of_disassembleToString hdecode hnames h, List.flatMap_append,
    flatMap_lineBytes_linesOf hoptions (fun instr hinstr => (hformed instr hinstr).operand_lt),
    List.flatMap_singleton, hempty, List.append_nil]

/-- What is read back is decoded to the instructions of the listing. -/
theorem decodeAll_listedBytes {buffer : List UInt8} {instrs : List Instruction}
    {resolver : Resolver} {options : Options} {text : String}
    (hdecode : decodeAll buffer = .ok instrs)
    (hoptions : options.contains .bytesComment = true) (hnames : resolver.NamesFitLine)
    (h : (disassembleToString buffer resolver options).1 = .ok text) :
    decodeAll (listedBytes text) = .ok instrs := by
  rw [listedBytes_of_disassembleToString hdecode hoptions hnames h]
  exact decodeAll_encodeAll hdecode

/-- From a listing with the bytes comment the code is read back, whatever the other options
are, and whatever the names are, as long as no name breaks a line: the opcode bytes and the
operand bytes of all instructions. Two such listings with the same text, even by different
names and options, are listings of the same instructions. -/
theorem listedBytes_disassembleToString {buffer : List UInt8} {instrs : List Instruction}
    {resolver : Resolver} {options : Options} {text : String}
    (hdecode : decodeAll buffer = .ok instrs)
    (hoptions : options.contains .bytesComment = true) (hnames : resolver.NamesFitLine)
    (h : (disassembleToString buffer resolver options).1 = .ok text) :
    listedBytes text = encodeAll instrs ∧
    (∀ instr ∈ instrs, ∃ operand : List UInt8,
      instr.operandBytes? = some operand ∧ instr.encode = instr.opcode.bytes ++ operand) ∧
    ∀ (other : List UInt8) (instrs' : List Instruction) (resolver' : Resolver)
      (options' : Options), decodeAll other = .ok instrs' →
      options'.contains .bytesComment = true → resolver'.NamesFitLine →
      (disassembleToString other resolver' options').1 = .ok text → instrs' = instrs := by
  refine ⟨listedBytes_of_disassembleToString hdecode hoptions hnames h,
    exists_operandBytes_of_decodeAll hdecode, ?_⟩
  intro other instrs' resolver' options' hdecode' hoptions' hnames' h'
  -- both lists of instructions are decoded from the bytes that the one text shows
  have hread := decodeAll_listedBytes hdecode hoptions hnames h
  have hread' := decodeAll_listedBytes hdecode' hoptions' hnames' h'
  exact Except.ok.inj (hread'.symm.trans hread)

/-- Names that look like label lines and comments. -/
def Resolver.lookalike : Resolver
  | .method, _ => some ⟨"A\t// 0x2a", "IL_0000: "⟩
  | .field, _ => some ⟨"", "\t"⟩
  | .type, _ => some "\t// 0x00"
  | .string, _ => some "\n\t// 0x2a\""

theorem namesFitLine_lookalike : Resolver.lookalike.NamesFitLine := by
  refine ⟨?_, ?_, ?_⟩
  · rintro token member ⟨⟩
    decide
  · rintro token member ⟨⟩
    decide
  · rintro token fullName ⟨⟩
    decide

/-- A call, a user string, a negative operand of eight bytes and a two-byte opcode, with names
that look like label lines and comments: the bytes are read back. -/
theorem listedBytes_disassembleToString_lookalike :
    let buffer : List UInt8 := [0x28, 1, 0, 0, 0x0A, 0x72, 1, 0, 0, 0x70, 0x21, 0xFE, 0xFF, 0xFF,
      0xFF, 0xFF, 0xFF, 0xFF, 0xFF, 0xFE, 0x16, 2, 0, 0, 1]
    let text := "call A\t// 0x2a.IL_0000: \t// 0x28 0x0a000001\n" ++
      "ldstr \"\\n\\t// 0x2a\\\"\"\t// 0x72 0x70000001\n" ++
      "ldc.i8 -2\t// 0x21 0xfffffffffffffffe\n" ++
      "constrained. \t// 0x00\t// 0xfe16 0x01000002\n"
    (disassembleToString buffer .lookalike .bytesComment).1 = .ok text ∧
    listedBytes text = buffer := by
  have hdecode : decodeAll [0x28, 1, 0, 0, 0x0A, 0x72, 1, 0, 0, 0x70, 0x21, 0xFE, 0xFF, 0xFF,
      0xFF, 0xFF, 0xFF, 0xFF, 0xFF, 0xFE, 0x16, 2, 0, 0, 1] =
      .ok [⟨0, ⟨"call", 0x28, .inlineMethod⟩, 4, 0x0A000001⟩,
        ⟨5, ⟨"ldstr", 0x72, .inlineString⟩, 4, 0x70000001⟩,
        ⟨10, ⟨"ldc.i8", 0x21, .inlineI8⟩, 8, 0xFFFFFFFFFFFFFFFE⟩,
        ⟨19, ⟨"constrained.", 0xFE16, .inlineType⟩, 4, 0x01000002⟩] := by
    decide +kernel
  intro buffer text
  have htext : (disassembleToString buffer .lookalike .bytesComment).1 = .ok text := by
    decide +kernel
  obtain ⟨hread, -⟩ :=
    listedBytes_disassembleToString hdecode (by decide) namesFitLine_lookalike htext
  exact ⟨htext, hread.trans (by decide +kernel)⟩

end CilDisassembly
