import CilDisassembly.Bytes.Lemmas
import CilDisassembly.Stream.Cursor

/-!
# Code units and the layout of a window

A code unit is what a stream holds for one instruction: a run of lead bytes, an
opcode byte that is none, and the bytes of the operand. A window is laid out as
complete units followed by an ending, which may be empty, a unit that is cut
short, a key that no opcode has, or lead bytes with nothing behind them. Every
window has a layout (`exists_layout`).

The grammar speaks of byte lists only and not of cursors. What a cursor reads at
each kind of unit and ending is said by `Cursor.next?_unit`, `Cursor.next?_unknown`
and `Cursor.next?_dangling`.
-/

set_option autoImplicit false

namespace CilDisassembly

/-- The bytes of one instruction in a stream. The operand may be cut short, but
is never longer than the opcode asks for. -/
structure CodeUnit where
  /-- The lead bytes; only the last one counts. -/
  leads : List UInt8
  /-- The byte that selects the opcode. -/
  byte : UInt8
  /-- The opcode. -/
  opcode : Opcode
  /-- The operand bytes that are there. -/
  operand : List UInt8
  leads_lead : ∀ lead ∈ leads, isLeadByte lead = true
  byte_not_lead : isLeadByte byte = false
  key_opcode : Catalog.ofKey? (opcodeKey leads byte) = some opcode
  operand_le : operand.length ≤ opcode.operandWidth

namespace CodeUnit

/-- The bytes of a unit, in stream order. -/
def bytes (unit : CodeUnit) : List UInt8 :=
  unit.leads ++ unit.byte :: unit.operand

/-- Whether the operand is there in full. -/
def IsComplete (unit : CodeUnit) : Prop :=
  unit.operand.length = unit.opcode.operandWidth

instance (unit : CodeUnit) : Decidable unit.IsComplete :=
  inferInstanceAs (Decidable (_ = _))

/-- The number of bytes that a unit counts for in offsets. -/
def byteSize (unit : CodeUnit) : Nat :=
  unit.opcode.size + unit.opcode.operandWidth

/-- The instruction a unit stands for. Operand bytes that are missing count as
zero. -/
def instruction (unit : CodeUnit) (offset : UInt32) : Instruction where
  offset := offset
  opcode := unit.opcode
  operandWidth := unit.opcode.operandWidth
  operand := UInt64.ofNat (Bytes.toNat unit.operand)

/-- The instruction together with the number of operand bytes that are there. -/
def decoded (unit : CodeUnit) (offset : UInt32) : Decoded :=
  ⟨unit.instruction offset, unit.operand.length⟩

@[simp] theorem byteSize_instruction (unit : CodeUnit) (offset : UInt32) :
    (unit.instruction offset).byteSize = unit.byteSize := rfl

/-- Reading an operand gives the number that its bytes store. -/
theorem packed_operand (unit : CodeUnit) :
    Bytes.packed unit.operand = UInt64.ofNat (Bytes.toNat unit.operand) := by
  apply Bytes.packed_eq
  exact Nat.le_trans unit.operand_le unit.opcode.operand.width_le

/-- The instruction of a unit is cut short if the unit is. -/
theorem isTruncated_decoded (unit : CodeUnit) (offset : UInt32) :
    (unit.decoded offset).isTruncated = false ↔ unit.IsComplete := by
  have hle := unit.operand_le
  show decide (unit.operand.length < unit.opcode.operandWidth) = false ↔
    unit.operand.length = unit.opcode.operandWidth
  rw [decide_eq_false_iff_not]
  omega

theorem length_bytes (unit : CodeUnit) :
    unit.bytes.length = unit.leads.length + 1 + unit.operand.length := by
  simp only [bytes, List.length_append, List.length_cons]
  omega

end CodeUnit

/-- What follows the complete units of a window. -/
inductive Ending where
  /-- Nothing follows. -/
  | clean
  /-- A unit whose operand is cut short by the end of the window. -/
  | truncated (unit : CodeUnit) (short : ¬ unit.IsComplete)
  /-- A key that no opcode has, and whatever stands behind it. -/
  | unknown (leads : List UInt8) (byte : UInt8) (rest : List UInt8)
      (hleads : ∀ lead ∈ leads, isLeadByte lead = true)
      (hbyte : isLeadByte byte = false)
      (hkey : Catalog.ofKey? (opcodeKey leads byte) = none)
  /-- Lead bytes with no opcode byte behind them. -/
  | dangling (leads : List UInt8) (lead : UInt8)
      (hleads : ∀ before ∈ leads, isLeadByte before = true)
      (hlead : isLeadByte lead = true)

/-- The bytes of an ending. -/
def Ending.bytes : Ending → List UInt8
  | clean => []
  | truncated unit _ => unit.bytes
  | unknown leads byte rest .. => leads ++ byte :: rest
  | dangling leads lead .. => leads ++ [lead]

/-- A window laid out as complete units and an ending. -/
structure Layout where
  /-- The units that are there in full. -/
  units : List CodeUnit
  /-- What follows them. -/
  ending : Ending
  complete : ∀ unit ∈ units, unit.IsComplete

/-- The bytes of a window with the given layout. -/
def Layout.bytes (layout : Layout) : List UInt8 :=
  layout.units.flatMap CodeUnit.bytes ++ layout.ending.bytes

/-! ## Every window has a layout -/

/-- The byte at which a run of lead bytes stops is none of them. -/
theorem not_lead_of_dropWhile {bytes rest : List UInt8} {byte : UInt8}
    (h : bytes.dropWhile isLeadByte = byte :: rest) : isLeadByte byte = false := by
  have hhead := List.head?_dropWhile_not isLeadByte bytes
  rw [h] at hhead
  simpa using hhead

/-- Bytes start with a complete unit unless they are an ending. -/
theorem exists_ending_or_unit (window : List UInt8) :
    (∃ ending : Ending, ending.bytes = window) ∨
      ∃ (unit : CodeUnit) (rest : List UInt8),
        unit.IsComplete ∧ unit.bytes ++ rest = window := by
  -- a run of lead bytes, and what it stops at
  have hsplit := List.takeWhile_append_dropWhile (p := isLeadByte) (l := window)
  have hleads : ∀ lead ∈ window.takeWhile isLeadByte, isLeadByte lead = true := by
    intro lead hlead
    exact List.all_eq_true.1 List.all_takeWhile lead hlead
  generalize window.takeWhile isLeadByte = leads at hsplit hleads
  cases hdrop : window.dropWhile isLeadByte with
  | nil =>
      rw [hdrop, List.append_nil] at hsplit
      subst hsplit
      -- the last lead byte, if there is one, is the one that dangles
      rcases List.eq_nil_or_concat leads with rfl | ⟨before, lead, rfl⟩
      · exact .inl ⟨.clean, rfl⟩
      · rw [List.concat_eq_append] at hleads ⊢
        obtain ⟨hbefore, hlead⟩ := List.forall_mem_append.1 hleads
        exact .inl ⟨.dangling before lead hbefore (hlead lead List.mem_cons_self), rfl⟩
  | cons byte rest =>
      have hbyte := not_lead_of_dropWhile hdrop
      rw [hdrop] at hsplit
      subst hsplit
      cases hkey : Catalog.ofKey? (opcodeKey leads byte) with
      | none => exact .inl ⟨.unknown leads byte rest hleads hbyte hkey, rfl⟩
      | some opcode =>
          -- the operand is taken from the rest, as far as that goes
          by_cases hwidth : opcode.operandWidth ≤ rest.length
          · have hlength : (rest.take opcode.operandWidth).length = opcode.operandWidth :=
              List.length_take_of_le hwidth
            refine .inr ⟨⟨leads, byte, opcode, rest.take opcode.operandWidth, hleads, hbyte,
              hkey, Nat.le_of_eq hlength⟩, rest.drop opcode.operandWidth, hlength, ?_⟩
            simp [CodeUnit.bytes]
          · have hshort : ¬ rest.length = opcode.operandWidth := by omega
            exact .inl ⟨.truncated
              ⟨leads, byte, opcode, rest, hleads, hbyte, hkey, by omega⟩ hshort, rfl⟩

/-- Every window has a layout. -/
theorem exists_layout (window : List UInt8) : ∃ layout : Layout, layout.bytes = window := by
  -- a complete unit is not empty, so what follows it is shorter
  induction hlength : window.length using Nat.strongRecOn generalizing window with
  | ind length ih =>
      rcases exists_ending_or_unit window with ⟨ending, rfl⟩ | ⟨unit, rest, hunit, rfl⟩
      · exact ⟨⟨[], ending, by simp⟩, rfl⟩
      · have hpos := unit.length_bytes
        rw [List.length_append] at hlength
        obtain ⟨layout, rfl⟩ := ih rest.length (by omega) rest rfl
        refine ⟨⟨unit :: layout.units, layout.ending, ?_⟩, by simp [Layout.bytes]⟩
        exact List.forall_mem_cons.2 ⟨hunit, layout.complete⟩

/-! ## Reading one unit -/

/-- A run of lead bytes ends at the first byte that is none. -/
theorem takeWhile_leads {leads : List UInt8} {byte : UInt8} (rest : List UInt8)
    (hleads : ∀ lead ∈ leads, isLeadByte lead = true) (hbyte : isLeadByte byte = false) :
    (leads ++ byte :: rest).takeWhile isLeadByte = leads := by
  rw [List.takeWhile_append_of_pos hleads, List.takeWhile_cons]
  simp [hbyte]

/-- Behind a run of lead bytes stands the first byte that is none. -/
theorem dropWhile_leads {leads : List UInt8} {byte : UInt8} (rest : List UInt8)
    (hleads : ∀ lead ∈ leads, isLeadByte lead = true) (hbyte : isLeadByte byte = false) :
    (leads ++ byte :: rest).dropWhile isLeadByte = byte :: rest := by
  rw [List.dropWhile_append_of_pos hleads, List.dropWhile_cons]
  simp [hbyte]

namespace Cursor

/-- At a unit the instruction of the unit is read, and the cursor moves behind
the unit. Only the last unit of a window may be incomplete. -/
theorem next?_unit (unit : CodeUnit) (rest : List UInt8) (position : Nat) (offset : UInt32)
    (h : unit.IsComplete ∨ rest = []) :
    (Cursor.mk (unit.bytes ++ rest) position offset).next? =
      some (.ok (unit.decoded offset),
        ⟨rest, position + unit.bytes.length, offset + UInt32.ofNat unit.byteSize⟩) := by
  have hbytes : unit.bytes ++ rest = unit.leads ++ unit.byte :: (unit.operand ++ rest) := by
    simp [CodeUnit.bytes]
  -- an operand in full is cut off by its length, any other one is all there is
  have htake : (unit.operand ++ rest).take unit.opcode.operandWidth = unit.operand := by
    rcases h with h | rfl
    · exact List.take_left' h
    · rw [List.append_nil]
      exact List.take_of_length_le unit.operand_le
  have hdrop : (unit.operand ++ rest).drop unit.opcode.operandWidth = rest := by
    rcases h with h | rfl
    · exact List.drop_left' h
    · rw [List.append_nil]
      exact List.drop_of_length_le unit.operand_le
  rw [unit.length_bytes]
  simp only [next?, hbytes, takeWhile_leads _ unit.leads_lead unit.byte_not_lead,
    dropWhile_leads _ unit.leads_lead unit.byte_not_lead, unit.key_opcode, decodeOperand,
    htake, hdrop, unit.packed_operand, Nat.add_assoc]
  rfl

/-- At a key that no opcode has the stream is given up. -/
theorem next?_unknown {leads : List UInt8} {byte : UInt8} (rest : List UInt8)
    (position : Nat) (offset : UInt32)
    (hleads : ∀ lead ∈ leads, isLeadByte lead = true) (hbyte : isLeadByte byte = false)
    (hkey : Catalog.ofKey? (opcodeKey leads byte) = none) :
    (Cursor.mk (leads ++ byte :: rest) position offset).next? =
      some (.error (.unknownOpcode offset (opcodeKey leads byte)),
        ⟨[], position + (leads.length + 1), offset⟩) := by
  simp only [next?, takeWhile_leads rest hleads hbyte, dropWhile_leads rest hleads hbyte, hkey]
  rfl

/-- At lead bytes with nothing behind them the last one is reported. -/
theorem next?_dangling {leads : List UInt8} {lead : UInt8} (position : Nat) (offset : UInt32)
    (hleads : ∀ before ∈ leads, isLeadByte before = true) (hlead : isLeadByte lead = true) :
    (Cursor.mk (leads ++ [lead]) position offset).next? =
      some (.error (.danglingLead offset lead),
        ⟨[], position + (leads.length + 1), offset⟩) := by
  have hall : ∀ byte ∈ leads ++ [lead], isLeadByte byte = true :=
    List.forall_mem_append.2 ⟨hleads, List.forall_mem_singleton.2 hlead⟩
  have htake : (leads ++ [lead] ++ []).takeWhile isLeadByte = leads ++ [lead] ++ [] :=
    List.takeWhile_append_of_pos hall
  have hdrop : (leads ++ [lead] ++ []).dropWhile isLeadByte = [] :=
    List.dropWhile_append_of_pos hall
  rw [List.append_nil] at htake hdrop
  simp [next?, htake, hdrop, abandon]

/-- At the end of the bytes nothing is read. -/
@[simp] theorem next?_nil (position : Nat) (offset : UInt32) :
    (Cursor.mk [] position offset).next? = none := rfl

end Cursor

end CilDisassembly
