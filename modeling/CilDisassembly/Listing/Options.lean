/-!
# Listing options

Three bits of an options word change how a listing looks; the others have no
effect.
-/

set_option autoImplicit false

namespace CilDisassembly

/-- The options of a listing. -/
structure Options where
  /-- The options as a word. -/
  bits : UInt32
deriving DecidableEq, Repr

namespace Options

/-- A plain listing. -/
def plain : Options := ⟨0⟩

/-- Every instruction line starts with its address. -/
def addressLabel : Options := ⟨1⟩

/-- Every instruction line ends with a comment that shows its bytes. -/
def bytesComment : Options := ⟨2⟩

/-- Operands start in a fixed column. -/
def alignOperand : Options := ⟨4⟩

instance : OrOp Options :=
  ⟨fun a b => ⟨a.bits ||| b.bits⟩⟩

/-- Addresses and aligned operands. -/
def resharperLike : Options := addressLabel ||| alignOperand

/-- Aligned operands only. -/
def standard : Options := alignOperand

/-- Every option a signed word can hold. -/
def everything : Options := ⟨0x7FFFFFFF⟩

/-- Whether every option of `other` is chosen. -/
def contains (options other : Options) : Bool :=
  options.bits &&& other.bits == other.bits

/-- The options with a name of their own. -/
def presets : List (String × Options) :=
  [("NONE", plain), ("ADDRESS_LABEL", addressLabel), ("BYTES_COMMENT", bytesComment),
    ("ALIGN_OPERAND", alignOperand), ("RESHARPER_LIKE", resharperLike),
    ("DEFAULT", standard), ("ALL", everything)]

/-- The options with the given name. -/
def ofName? (text : String) : Option Options :=
  presets.lookup text

end Options

end CilDisassembly
