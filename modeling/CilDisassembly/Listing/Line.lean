import CilDisassembly.Label
import CilDisassembly.Symbol
import CilDisassembly.Listing.Options

/-!
# Lines of a listing

An instruction is listed as an instruction line, with a label line before it when
a branch goes there:

    IL_001f:
    ldc.i4.2
    call         System.Threading.Thread.Sleep
    blt.s        IL_001f

The text of an instruction has three parts. The head (`Instruction.lineHead`) and
the tail (`Instruction.lineTail`) can always be written. Between them stands the
operand (`Instruction.operandText`), which fails when its token names nothing.
-/

set_option autoImplicit false

namespace CilDisassembly

/-- The column in which aligned operands start. -/
def alignColumn : Nat := 13

/-- A token that names no symbol of the kind asked for. -/
structure Unresolved where
  /-- The kind of symbol asked for. -/
  kind : SymbolKind
  /-- The token. -/
  token : Token
deriving DecidableEq, Repr

/-- The message for a token that names nothing. -/
def Unresolved.message (missing : Unresolved) : String :=
  "unresolved " ++ missing.kind.name ++ " token " ++ String.ofList missing.token.text

namespace Instruction

/-- The label line of an instruction that a branch goes to. -/
def labelLine (labels : LabelSet) (instr : Instruction) : Text :=
  if labels.contains instr.offset then labelName instr.offset ++ [':', '\n'] else []

/-- The address at the start of an instruction line. -/
def addressLabel (options : Options) (instr : Instruction) : Text :=
  if options.contains .addressLabel then
    "ADDR_".toList ++ Hex.padded 4 instr.offset.toNat ++ ":  ".toList
  else []

/-- The number of blanks between mnemonic and operand, at least one. The mnemonic
counts by its encoded size, which is its length if it has ASCII characters only. -/
def paddingWidth (options : Options) (instr : Instruction) : Nat :=
  if options.contains .alignOperand then
    max (alignColumn - instr.opcode.mnemonic.utf8ByteSize) 1
  else 1

/-- The blanks between mnemonic and operand. -/
def padding (options : Options) (instr : Instruction) : Text :=
  if instr.operandWidth = 0 then [] else List.replicate (instr.paddingWidth options) ' '

/-- The written operand: a symbol where the operand asks for one, the label of the
target for a branch, and the signed value for all else. -/
def operandText (resolver : Resolver) (instr : Instruction) : Except Unresolved Text :=
  if instr.operandWidth = 0 then .ok []
  else
    match instr.opcode.operand.symbol? with
    | some kind =>
        match resolver kind instr.operandToken with
        | some symbol => .ok (kind.written symbol)
        | none => .error ⟨kind, instr.operandToken⟩
    | none =>
        match instr.branchTarget? with
        | some target => .ok (labelName target)
        | none => .ok (Decimal.ofInt instr.operandValue)

/-- The operand bits in the comment, at least two digits for each operand byte. -/
def operandDigits (instr : Instruction) : Text :=
  Hex.padded (2 * instr.operandWidth) instr.operand.toNat

/-- The comment that shows opcode and operand in hexadecimal. -/
def bytesComment (options : Options) (instr : Instruction) : Text :=
  if options.contains .bytesComment then
    "\t// 0x".toList ++ Hex.padded (2 * instr.opcode.size) instr.opcode.value.toNat
      ++ (if instr.operandWidth = 0 then [] else " 0x".toList ++ instr.operandDigits)
  else []

/-- All that stands before the operand. -/
def lineHead (labels : LabelSet) (options : Options) (instr : Instruction) : Text :=
  instr.labelLine labels ++ instr.addressLabel options ++ instr.opcode.mnemonic.toList
    ++ instr.padding options

/-- All that stands after the operand. -/
def lineTail (options : Options) (instr : Instruction) : Text :=
  instr.bytesComment options ++ ['\n']

end Instruction

end CilDisassembly
