import CilDisassembly.Label
import CilDisassembly.Stream.Item

/-!
# Log events

Reading and listing an instruction stream leaves a log. An item that was read leaves the event of
its instruction, with a warning in front of it if the operand was cut short; an error leaves none
(`Event.ofItem`).
-/

set_option autoImplicit false

namespace CilDisassembly

/-- Something worth a line in the log. -/
inductive Event where
  /-- The window ended inside the operand of an instruction. -/
  | truncated (instr : Instruction) (present : Nat)
  /-- An instruction was decoded. -/
  | decoded (instr : Instruction)
  /-- The branch targets of some instructions were collected. -/
  | labelled (targets instructions : Nat)
  /-- A window was listed to its end. -/
  | finished (instructions labels bytes : Nat)
deriving DecidableEq, Repr

namespace Event

/-- The severity of an event. -/
def level : Event → String
  | truncated .. => "WARN"
  | decoded .. => "TRACE"
  | labelled .. | finished .. => "DEBUG"

/-- The text of an event. -/
def message : Event → String
  | truncated instr present =>
      "operand of " ++ instr.opcode.mnemonic ++ " at 0x"
        ++ String.ofList (Hex.digits instr.offset.toNat) ++ " truncated: need "
        ++ String.ofList (Decimal.ofNat instr.operandWidth) ++ " bytes, have "
        ++ String.ofList (Decimal.ofNat present)
  | decoded instr =>
      String.ofList (labelName instr.offset) ++ ": " ++ instr.opcode.mnemonic
        ++ " (size " ++ String.ofList (Decimal.ofNat instr.byteSize) ++ ")"
  | labelled targets instructions =>
      String.ofList (Decimal.ofNat targets) ++ " branch targets across "
        ++ String.ofList (Decimal.ofNat instructions) ++ " instructions"
  | finished instructions labels bytes =>
      "disassembled " ++ String.ofList (Decimal.ofNat instructions)
        ++ " instructions (" ++ String.ofList (Decimal.ofNat labels)
        ++ " labels) from " ++ String.ofList (Decimal.ofNat bytes) ++ " bytes"

/-- The log line of an event. -/
def line (event : Event) : String :=
  event.level ++ " " ++ event.message

/-- The events of reading one item. -/
def ofItem : Item → List Event
  | .error _ => []
  | .ok found =>
      if found.isTruncated then
        [truncated found.instruction found.present, decoded found.instruction]
      else [decoded found.instruction]

/-- The events of reading items one after the other. -/
def ofItems (items : List Item) : List Event :=
  items.flatMap ofItem

end Event

end CilDisassembly
