import CilDisassembly.Listing.Writer

/-!
# Disassembly

The listing of a window, of a method and of a whole buffer. The window is decoded
to its end before any text is written, because labels may lie ahead; so a window
that cannot be decoded leaves the sink as it was.
-/

set_option autoImplicit false

namespace CilDisassembly

/-- Read the instructions of a window and log them. -/
def readInstructions (bytes : List UInt8) : Listing (List Instruction) := do
  let items := itemsOf bytes
  Listing.record (Event.ofItems items)
  Listing.ofExcept (fun error => .decode (.stream error)) (Item.instructions items)

/-- Collect the branch targets of instructions and log their number. -/
def collectLabels (instructions : List Instruction) : Listing LabelSet := do
  let labels := branchTargets instructions
  Listing.record [.labelled labels.size instructions.length]
  return labels

/-- List the `length` bytes of a buffer from index `start` on. The result is the
number of instructions. -/
def disassemble (buffer : List UInt8) (start length : Nat) (resolver : Resolver)
    (options : Options) : Listing Nat := do
  let bytes ← Listing.ofExcept .decode (window buffer start length)
  let instructions ← readInstructions bytes
  let labels ← collectLabels instructions
  instructions.forM (writeInstruction labels resolver options)
  Listing.record [.finished instructions.length labels.size length]
  return instructions.length

/-- List the body of a method. A method that is not managed CIL is refused before
its body is looked at. -/
def disassembleMethod (method : MethodBody) (options : Options) : Listing Nat :=
  match method.flags.isIl, method.bytes? with
  | true, some body => disassemble body 0 body.length method.resolver options
  | _, _ => throw (.notDecodable method.flags)

/-- The listing of a whole buffer as a text of its own, and the log. -/
def disassembleToString (buffer : List UInt8) (resolver : Resolver) (options : Options) :
    Except ListingError String × Array Event :=
  let outcome := (disassemble buffer 0 buffer.length resolver options).run {}
  (outcome.1.map (fun _ => outcome.2.sink.content), outcome.2.log)

end CilDisassembly
