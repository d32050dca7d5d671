import CilDisassembly.Listing.Program

/-!
# Writing instructions

The text of an instruction is put into the sink piece by piece, and a piece that
does not fit ends the writing at once. Numbers and padding are made of several
pieces themselves: every character that fills a field up is written on its own,
and so is the sign of a number.

The operand may fail for a reason of its own, when its token names no symbol. By
then everything in front of it is written.
-/

set_option autoImplicit false

namespace CilDisassembly

/-! ## Formatted pieces -/

namespace Listing

/-- Write a character several times, each time on its own. -/
def emitFill (count : Nat) (c : Char) : Listing Unit :=
  (List.replicate count [c]).forM emit

/-- Write digits behind as many zeros as it takes to fill up the width. -/
def emitPadded (width : Nat) (digits : Text) : Listing Unit := do
  emitFill (width - digits.length) '0'
  emit digits

/-- Write a signed number in decimal. -/
def emitInt : Int → Listing Unit
  | .ofNat n => emit (Decimal.ofNat n)
  | .negSucc n => do
      emit ['-']
      emit (Decimal.ofNat (n + 1))

end Listing

/-- Write the name of an offset. -/
def writeLabel (offset : UInt32) : Listing Unit := do
  .emit "IL_".toList
  .emitPadded 4 (Hex.digits offset.toNat)

/-- Write one character of a string literal. -/
def writeEscaped (c : Char) : Listing Unit :=
  if c = '\n' then .emit ['\\', 'n']
  else if c = '\r' then .emit ['\\', 'r']
  else if c = '\t' then .emit ['\\', 't']
  else if c = '\\' then .emit ['\\', '\\']
  else if c = '"' then .emit ['\\', '"']
  else if c.toNat < 0x20 then do
    .emit ['\\', 'x']
    .emitPadded 2 ((Hex.digits c.toNat).map Char.toUpper)
  else .emit [c]

/-- Write a string literal. -/
def writeLiteral (value : String) : Listing Unit := do
  .emit ['"']
  value.toList.forM writeEscaped
  .emit ['"']

/-! ## Parts of an instruction -/

/-- Write a symbol as an operand. -/
def writeSymbol : (kind : SymbolKind) → kind.Value → Listing Unit
  | .method, member | .field, member => do
      .emit member.declaringType.toList
      .emit ['.']
      .emit member.name.toList
  | .type, fullName => .emit fullName.toList
  | .string, contents => writeLiteral contents

/-- Write the operand of an instruction, if its token names a symbol or if it asks
for none. -/
def writeOperand (resolver : Resolver) (instr : Instruction) : Listing Unit :=
  match instr.opcode.operand.symbol? with
  | some kind =>
      match resolver kind instr.operandToken with
      | some symbol => writeSymbol kind symbol
      | none => throw (.unresolved ⟨kind, instr.operandToken⟩)
  | none =>
      match instr.branchTarget? with
      | some target => writeLabel target
      | none => .emitInt instr.operandValue

/-- Write the label line of an instruction that a branch goes to. -/
def writeLabelLine (labels : LabelSet) (instr : Instruction) : Listing Unit :=
  if labels.contains instr.offset then do
    writeLabel instr.offset
    .emit [':', '\n']
  else pure ()

/-- Write the address at the start of an instruction line. -/
def writeAddressLabel (options : Options) (instr : Instruction) : Listing Unit :=
  if options.contains .addressLabel then do
    .emit "ADDR_".toList
    .emitPadded 4 (Hex.digits instr.offset.toNat)
    .emit ":  ".toList
  else pure ()

/-- Write the operand, if there is one, and the blanks in front of it. -/
def writeOperandField (resolver : Resolver) (options : Options) (instr : Instruction) :
    Listing Unit :=
  if 0 < instr.operandWidth then do
    .emitFill (instr.paddingWidth options) ' '
    writeOperand resolver instr
  else pure ()

/-- Write the operand bits of the comment, if there is an operand. -/
def writeOperandDigits (instr : Instruction) : Listing Unit :=
  if 0 < instr.operandWidth then do
    .emit " 0x".toList
    .emitPadded (2 * instr.operandWidth) (Hex.digits instr.operand.toNat)
  else pure ()

/-- Write the comment that shows opcode and operand in hexadecimal. -/
def writeBytesComment (options : Options) (instr : Instruction) : Listing Unit :=
  if options.contains .bytesComment then do
    .emit "\t// 0x".toList
    .emitPadded (if instr.opcode.isTwoByte then 4 else 2) (Hex.digits instr.opcode.value.toNat)
    writeOperandDigits instr
  else pure ()

/-- Write the lines of an instruction. When its symbol is not known, the text up
to the operand is written. -/
def writeInstruction (labels : LabelSet) (resolver : Resolver) (options : Options)
    (instr : Instruction) : Listing Unit := do
  writeLabelLine labels instr
  writeAddressLabel options instr
  .emit instr.opcode.mnemonic.toList
  writeOperandField resolver options instr
  writeBytesComment options instr
  .emit ['\n']

end CilDisassembly
