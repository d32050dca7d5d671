import CilDisassembly.Token
import CilDisassembly.Text.Literal
import CilDisassembly.OperandKind

/-!
# Symbols

A token names a symbol of one of four kinds. A method or field is known by its
declaring type and its name, a type by its full name, and a user string by its
contents.

A listing gets symbols from a `Resolver`, which says for each kind what a token
names. The kind that is asked for depends on the operand alone
(`OperandKind.symbol?`).
-/

set_option autoImplicit false

namespace CilDisassembly

/-- The kind of symbol a token is expected to name. -/
inductive SymbolKind where
  /-- A method definition, reference or instantiation. -/
  | method
  /-- A field definition or reference. -/
  | field
  /-- A type definition, reference or specification. -/
  | type
  /-- A user string. -/
  | string
deriving DecidableEq, Repr, Inhabited

/-- A method or field together with the type that declares it. -/
structure MemberRef where
  /-- The full name of the declaring type. -/
  declaringType : String
  /-- The name of the member. -/
  name : String
deriving DecidableEq, Repr

/-- The written form of a member: declaring type, a dot, and name. -/
def MemberRef.text (member : MemberRef) : Text :=
  member.declaringType.toList ++ '.' :: member.name.toList

namespace SymbolKind

/-- The word for a kind in messages. -/
def name : SymbolKind → String
  | method => "method"
  | field => "field"
  | type => "type"
  | string => "string"

/-- What a symbol of the given kind is. -/
abbrev Value : SymbolKind → Type
  | method | field => MemberRef
  | type | string => String

/-- How a symbol is written as an operand: members and types by name, user
strings as literals. -/
def written : (kind : SymbolKind) → kind.Value → Text
  | method, member => member.text
  | field, member => member.text
  | type, fullName => fullName.toList
  | string, contents => literal contents

end SymbolKind

/-- The kind of symbol an operand of this kind is written by. A signature token
is written as a number and asks for none; a token of unspecified kind is read as
a type token. -/
def OperandKind.symbol? : OperandKind → Option SymbolKind
  | inlineMethod => some .method
  | inlineField => some .field
  | inlineString => some .string
  | inlineTok | inlineType => some .type
  | _ => none

/-- What the tokens of a program name: for each kind of symbol and each token the
symbol, if there is one. -/
abbrev Resolver :=
  (kind : SymbolKind) → Token → Option kind.Value

/-- The resolver that knows every token, by a name made of the digits of the
token. User strings get a line break, which a literal has to escape. -/
def Resolver.synthetic : Resolver
  | .method, token => some ⟨"T", String.ofList ('m' :: Hex.digits token.value.toNat)⟩
  | .field, token => some ⟨"T", String.ofList ('f' :: Hex.digits token.value.toNat)⟩
  | .type, token => some (String.ofList ('T' :: Hex.digits token.value.toNat))
  | .string, token =>
      some (String.ofList ('s' :: '\n' :: Hex.digits token.value.toNat))

/-- Only token operands ask for a symbol. -/
theorem OperandKind.isToken_of_symbol? {operand : OperandKind} {kind : SymbolKind}
    (h : operand.symbol? = some kind) : operand.isToken = true := by
  cases operand <;> first | rfl | cases h

end CilDisassembly
