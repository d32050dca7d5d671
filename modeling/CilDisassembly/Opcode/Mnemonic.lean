import CilDisassembly.Opcode.Catalog
import CilDisassembly.Text.Quoted

/-!
# Opcodes by mnemonic

The catalog is searched for a mnemonic exactly as it is written. A text that no
opcode has as its mnemonic is quoted in the message.
-/

set_option autoImplicit false

namespace CilDisassembly

/-- A text that is the mnemonic of no opcode. -/
structure UnknownMnemonic where
  /-- The text. -/
  text : String
deriving DecidableEq, Repr

/-- The message for a text that is no mnemonic. -/
def UnknownMnemonic.message (unknown : UnknownMnemonic) : String :=
  "no opcode named " ++ String.ofList (quoted unknown.text)

/-- The opcode with the given mnemonic; mnemonics are compared exactly. -/
def Catalog.byMnemonic (text : String) : Except UnknownMnemonic Opcode :=
  match Catalog.all.find? (fun op => op.mnemonic == text) with
  | some op => .ok op
  | none => .error ⟨text⟩

end CilDisassembly
