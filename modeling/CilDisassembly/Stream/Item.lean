import CilDisassembly.Instruction

/-!
# Items of an instruction stream

Reading an instruction stream gives a sequence of items. Every item is an
instruction or the error that ends the stream. Only the last instruction of a
stream can have fewer operand bytes than its opcode asks for
(`Decoded.isTruncated`).
-/

set_option autoImplicit false

namespace CilDisassembly

/-- Why an instruction stream cannot be read on. -/
inductive StreamError where
  /-- The stream ends after a lead byte. -/
  | danglingLead (offset : UInt32) (lead : UInt8)
  /-- No opcode has the key that was read. -/
  | unknownOpcode (offset : UInt32) (key : UInt16)
deriving DecidableEq, Repr

/-- The message of an error; offsets are written in hexadecimal. -/
def StreamError.message : StreamError → String
  | .danglingLead offset lead =>
      "malformed stream at 0x" ++ String.ofList (Hex.digits offset.toNat)
        ++ ": body ends after prefix byte 0x" ++ String.ofList (Hex.padded 2 lead.toNat)
  | .unknownOpcode offset key =>
      "unknown opcode 0x" ++ String.ofList (Hex.padded 4 key.toNat)
        ++ " at 0x" ++ String.ofList (Hex.digits offset.toNat)

/-- An instruction as it was found in a stream. -/
structure Decoded where
  /-- The instruction; operand bytes that were missing count as zero. -/
  instruction : Instruction
  /-- The number of operand bytes that were there. -/
  present : Nat
deriving DecidableEq, Repr

/-- Whether the stream ended inside the operand. -/
def Decoded.isTruncated (decoded : Decoded) : Bool :=
  decoded.present < decoded.instruction.operandWidth

/-- One result of reading an instruction stream. -/
abbrev Item := Except StreamError Decoded

/-- The instructions of a sequence of items, or the first error among them. -/
def Item.instructions (items : List Item) : Except StreamError (List Instruction) :=
  items.mapM (fun item => item.map Decoded.instruction)

@[simp] theorem Item.instructions_nil : Item.instructions [] = .ok [] := rfl

@[simp] theorem Item.instructions_error (error : StreamError) (items : List Item) :
    Item.instructions (.error error :: items) = .error error := by
  simp only [Item.instructions, List.mapM_cons]
  rfl

@[simp] theorem Item.instructions_ok (decoded : Decoded) (items : List Item) :
    Item.instructions (.ok decoded :: items) =
      (Item.instructions items).map (fun rest => decoded.instruction :: rest) := by
  simp only [Item.instructions, List.mapM_cons]
  cases h : items.mapM (fun item : Item => item.map Decoded.instruction) <;> rfl

end CilDisassembly
