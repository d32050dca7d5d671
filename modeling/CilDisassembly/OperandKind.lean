/-!
# Operand kinds of CIL instructions

Every CIL opcode fixes the kind of the operand that follows it. The kind alone
decides how many bytes the operand takes, whether it is a branch displacement
and whether it is a metadata token. Kinds go by their ECMA-335 names, from which
they read back (`OperandKind.ofName?_name`).
-/

set_option autoImplicit false

namespace CilDisassembly

/-- The operand classification of an opcode. -/
inductive OperandKind where
  /-- A 32-bit relative branch displacement. -/
  | inlineBrTarget
  /-- A field token. -/
  | inlineField
  /-- A 32-bit integer. -/
  | inlineI
  /-- A 64-bit integer. -/
  | inlineI8
  /-- A method token. -/
  | inlineMethod
  /-- No operand. -/
  | inlineNone
  /-- Reserved; no opcode uses it. -/
  | inlinePhi
  /-- The bits of a 64-bit float. -/
  | inlineR
  /-- A stand-alone signature token. -/
  | inlineSig
  /-- A user string token. -/
  | inlineString
  /-- The entry count of a jump table; the entries are not part of the operand. -/
  | inlineSwitch
  /-- A type, method or field token. -/
  | inlineTok
  /-- A type token. -/
  | inlineType
  /-- A 16-bit local or argument index. -/
  | inlineVar
  /-- An 8-bit relative branch displacement. -/
  | shortInlineBrTarget
  /-- An 8-bit integer. -/
  | shortInlineI
  /-- The bits of a 32-bit float. -/
  | shortInlineR
  /-- An 8-bit local or argument index. -/
  | shortInlineVar
deriving DecidableEq, Repr, Inhabited

namespace OperandKind

/-- All kinds, in the order of their codes. -/
def all : List OperandKind :=
  [inlineBrTarget, inlineField, inlineI, inlineI8, inlineMethod, inlineNone,
    inlinePhi, inlineR, inlineSig, inlineString, inlineSwitch, inlineTok,
    inlineType, inlineVar, shortInlineBrTarget, shortInlineI, shortInlineR,
    shortInlineVar]

/-- The number of bytes an operand of this kind takes. -/
def width : OperandKind → Nat
  | inlineNone | inlinePhi => 0
  | shortInlineBrTarget | shortInlineI | shortInlineVar => 1
  | inlineVar => 2
  | inlineI8 | inlineR => 8
  | inlineBrTarget | inlineField | inlineI | inlineMethod | inlineSig
  | inlineString | inlineSwitch | inlineTok | inlineType | shortInlineR => 4

/-- The code of a kind in the runtime's numbering, which leaves out 8. -/
def code : OperandKind → Nat
  | inlineBrTarget => 0
  | inlineField => 1
  | inlineI => 2
  | inlineI8 => 3
  | inlineMethod => 4
  | inlineNone => 5
  | inlinePhi => 6
  | inlineR => 7
  | inlineSig => 9
  | inlineString => 10
  | inlineSwitch => 11
  | inlineTok => 12
  | inlineType => 13
  | inlineVar => 14
  | shortInlineBrTarget => 15
  | shortInlineI => 16
  | shortInlineR => 17
  | shortInlineVar => 18

/-- Whether the operand is a relative branch displacement. -/
def isBranchTarget : OperandKind → Bool
  | inlineBrTarget | shortInlineBrTarget => true
  | _ => false

/-- Whether the operand is a metadata token. -/
def isToken : OperandKind → Bool
  | inlineField | inlineMethod | inlineSig | inlineString | inlineTok
  | inlineType => true
  | _ => false

/-- The ECMA-335 name of a kind. -/
def name : OperandKind → String
  | inlineBrTarget => "InlineBrTarget"
  | inlineField => "InlineField"
  | inlineI => "InlineI"
  | inlineI8 => "InlineI8"
  | inlineMethod => "InlineMethod"
  | inlineNone => "InlineNone"
  | inlinePhi => "InlinePhi"
  | inlineR => "InlineR"
  | inlineSig => "InlineSig"
  | inlineString => "InlineString"
  | inlineSwitch => "InlineSwitch"
  | inlineTok => "InlineTok"
  | inlineType => "InlineType"
  | inlineVar => "InlineVar"
  | shortInlineBrTarget => "ShortInlineBrTarget"
  | shortInlineI => "ShortInlineI"
  | shortInlineR => "ShortInlineR"
  | shortInlineVar => "ShortInlineVar"

/-- The kind with the given name; names are case-sensitive. -/
def ofName? (text : String) : Option OperandKind :=
  all.find? (fun kind => kind.name == text)

/-! ## Facts about the classification -/

/-- Names read back: the reader finds exactly the kind that was named. -/
@[simp] theorem ofName?_name (kind : OperandKind) : ofName? kind.name = some kind := by
  cases kind <;> decide

/-- Operands are 0, 1, 2, 4 or 8 bytes wide. -/
theorem width_mem (kind : OperandKind) : kind.width ∈ [0, 1, 2, 4, 8] := by
  cases kind <;> decide

/-- An operand fits into eight bytes. -/
theorem width_le (kind : OperandKind) : kind.width ≤ 8 := by
  cases kind <;> decide

/-- A token operand is four bytes wide. -/
theorem width_of_isToken {kind : OperandKind} (h : kind.isToken = true) :
    kind.width = 4 := by
  cases kind <;> first | rfl | cases h

end OperandKind

end CilDisassembly
