import CilDisassembly.Instruction

/-!
# Labels

A label names an offset of the instruction stream, and different offsets have
different names (`labelName_injective`). The instructions that get a label line are
those that some branch goes to (`mem_branchTargets`).
-/

set_option autoImplicit false

namespace CilDisassembly

/-- The name of an offset: `IL_` and at least four hexadecimal digits. -/
def labelName (offset : UInt32) : Text :=
  'I' :: 'L' :: '_' :: Hex.padded 4 offset.toNat

/-- Different offsets have different names. -/
theorem labelName_injective {a b : UInt32} (h : labelName a = labelName b) : a = b := by
  simp only [labelName, List.cons.injEq, true_and] at h
  exact UInt32.toNat_inj.1 (Hex.padded_injective h)

/-- A set of offsets, in ascending order. -/
abbrev LabelSet := Std.ExtTreeSet UInt32

/-- The offsets that some branch among the instructions goes to. A target need
not be the offset of any of them. -/
def branchTargets (instructions : List Instruction) : LabelSet :=
  .ofList (instructions.filterMap Instruction.branchTarget?)

/-- Exactly the targets of branches are collected. -/
@[simp] theorem mem_branchTargets {instructions : List Instruction} {offset : UInt32} :
    offset ∈ branchTargets instructions ↔
      ∃ instr ∈ instructions, instr.branchTarget? = some offset := by
  simp [branchTargets, Std.ExtTreeSet.mem_ofList]

end CilDisassembly
