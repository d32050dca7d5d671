import CilDisassembly.Proofs.Stream.Concatenation
import CilDisassembly.Proofs.Stream.Invariant

/-!
# Streams that are cut

The items of the first bytes of a window are compared with the items of the whole window
(`itemsOf_take`). Only the last item can differ, and how it can is decided by the ending
that the cut leaves: nothing, a unit that lacks operand bytes, a key that no opcode has, or
lead bytes.

Complete units in front of the cut are read the same way in both windows
(`itemsOf_layout_append`), so that a single step is left to compare. The unit that the cut
goes through is made up for with the bytes behind the cut (`CodeUnit.extend`), and the low
bytes of its operand stay the same (`CodeUnit.operandValue_extend`).
-/

set_option autoImplicit false

namespace CilDisassembly

/-! ## Units that the cut goes through -/

namespace CodeUnit

theorem length_operand_append_take_le (unit : CodeUnit) (rest : List UInt8) :
    (unit.operand ++ rest.take unit.missing).length ≤ unit.opcode.operandWidth := by
  have hle := unit.operand_le
  rw [List.length_append, List.length_take, missing]
  omega

/-- A unit with as many of the operand bytes it lacks as the bytes behind it have. -/
def extend (unit : CodeUnit) (rest : List UInt8) : CodeUnit :=
  { unit with
    operand := unit.operand ++ rest.take unit.missing
    operand_le := unit.length_operand_append_take_le rest }

theorem bytes_extend (unit : CodeUnit) (rest : List UInt8) :
    (unit.extend rest).bytes ++ rest.drop unit.missing = unit.bytes ++ rest := by
  simp [bytes, extend]

/-- Either nothing is missing any more, or nothing is left. -/
theorem isComplete_extend_or (unit : CodeUnit) (rest : List UInt8) :
    (unit.extend rest).IsComplete ∨ rest.drop unit.missing = [] := by
  have hle := unit.operand_le
  by_cases hmissing : unit.missing ≤ rest.length
  · left
    show (unit.operand ++ rest.take unit.missing).length = unit.opcode.operandWidth
    rw [List.length_append, List.length_take_of_le hmissing, missing]
    omega
  · right
    exact List.drop_of_length_le (by omega)

/-- The operand bytes that were there are the low bytes of the operand. -/
theorem operandValue_extend (unit : CodeUnit) (rest : List UInt8) (offset : UInt32) :
    ((unit.extend rest).instruction offset).operandValue % 2 ^ (8 * unit.operand.length) =
      (unit.instruction offset).operandValue % 2 ^ (8 * unit.operand.length) := by
  have hle : 8 * unit.operand.length ≤ 64 := by
    have hwidth := unit.opcode.operand.width_le
    have hoperand := Nat.le_trans unit.operand_le hwidth
    omega
  -- a word keeps the remainder by every power of two that divides it
  have hword (n : Nat) :
      Int.bmod n (2 ^ 64) % 2 ^ (8 * unit.operand.length) =
        ((n % 256 ^ unit.operand.length : Nat) : Int) := by
    have hdvd : (2 : Int) ^ (8 * unit.operand.length) ∣ ((2 ^ 64 : Nat) : Int) := by
      exact_mod_cast pow_dvd_pow 2 hle
    rw [← Int.emod_emod_of_dvd _ hdvd, Int.bmod_emod, Int.emod_emod_of_dvd _ hdvd, pow_mul]
    norm_cast
  rw [operandValue_instruction, operandValue_instruction, hword, hword]
  have hlow := Bytes.toNat_append_mod unit.operand (rest.take unit.missing)
  have hmod := Nat.mod_eq_of_lt (Bytes.toNat_lt unit.operand)
  exact congrArg Nat.cast (hlow.trans hmod.symm)

end CodeUnit

/-! ## Reading on behind a cut -/

/-- Units in front of a cut are read as before, and the step behind them is taken with the
bytes that follow the cut. -/
theorem itemsOf_layout_append (layout : Layout) (rest : List UInt8) :
    itemsOf (layout.bytes ++ rest) =
      (decodedFrom 0 layout.units).map .ok ++
        (Cursor.mk (layout.ending.bytes ++ rest)
          (layout.units.flatMap CodeUnit.bytes).length
          (UInt32.ofNat (totalSize layout.units))).items := by
  rw [itemsOf, Cursor.start, Layout.bytes, List.append_assoc,
    Cursor.items_units _ _ _ _ layout.complete, Nat.zero_add, UInt32.zero_add]

/-- A last item that is an error, or an instruction that is cut short, is that of the
ending. -/
theorem items_ending_of_getLast? {layout : Layout} {item : Item}
    (h : (itemsOf layout.bytes).getLast? = some item)
    (hitem : ∀ found : Decoded, item = .ok found → found.isTruncated = true) :
    layout.ending.items (UInt32.ofNat (totalSize layout.units)) = [item] := by
  obtain ⟨units, ending, complete⟩ := layout
  rw [itemsOf_layout] at h
  cases ending with
  | clean =>
      -- complete units give no such item
      rw [Ending.items, List.append_nil] at h
      obtain ⟨found, hfound, rfl⟩ := List.mem_map.1 (List.mem_of_getLast? h)
      obtain ⟨before, after, unit, rfl, rfl⟩ := exists_unit_of_mem hfound
      have hunit : unit.IsComplete := complete unit (by simp)
      have hshort := hitem _ rfl
      rw [(unit.isTruncated_decoded _).2 hunit] at hshort
      cases hshort
  | truncated =>
      rw [Ending.items, List.getLast?_concat] at h
      exact congrArg (fun last => [last]) (Option.some.inj h)
  | unknown =>
      rw [Ending.items, List.getLast?_concat] at h
      exact congrArg (fun last => [last]) (Option.some.inj h)
  | dangling =>
      rw [Ending.items, List.getLast?_concat] at h
      exact congrArg (fun last => [last]) (Option.some.inj h)

section Front

variable {front : List UInt8}

/-- Behind an opcode that is not known nothing matters. -/
theorem itemsOf_append_of_unknownOpcode {offset : UInt32} {key : UInt16}
    (h : (itemsOf front).getLast? = some (.error (.unknownOpcode offset key)))
    (rest : List UInt8) : itemsOf (front ++ rest) = itemsOf front := by
  obtain ⟨⟨units, ending, complete⟩, rfl⟩ := exists_layout front
  have hitems := items_ending_of_getLast? h (by simp)
  cases ending with
  | clean => cases hitems
  | truncated => cases hitems
  | dangling => cases hitems
  | unknown leads byte behind hleads hbyte hkey =>
      have hlonger := Cursor.items_ending (.unknown leads byte (behind ++ rest) hleads hbyte hkey)
        (units.flatMap CodeUnit.bytes).length (UInt32.ofNat (totalSize units))
      rw [itemsOf_layout_append, itemsOf_layout, Ending.bytes, List.append_assoc]
      exact congrArg _ hlonger

/-- In front of lead bytes that the front ends with everything is read as before. -/
theorem isPrefix_of_danglingLead {offset : UInt32} {lead : UInt8}
    (h : (itemsOf front).getLast? = some (.error (.danglingLead offset lead)))
    (rest : List UInt8) : (decodedOf (itemsOf front)).map .ok <+: itemsOf (front ++ rest) := by
  obtain ⟨⟨units, ending, complete⟩, rfl⟩ := exists_layout front
  have hitems := items_ending_of_getLast? h (by simp)
  cases ending with
  | clean => cases hitems
  | truncated => cases hitems
  | unknown => cases hitems
  | dangling leads lead hleads hlead =>
      rw [itemsOf_layout_append, itemsOf_layout, Ending.items, decodedOf_concat_error]
      exact List.prefix_append _ _

/-- Behind a front that is read to its end, with no operand cut short, items are added. -/
theorem isPrefix_of_decodeAll {instrs : List Instruction}
    (h : decodeAll front = .ok instrs)
    (hlast : ∀ found : Decoded, (itemsOf front).getLast? = some (.ok found) →
      found.isTruncated = false)
    (rest : List UInt8) : itemsOf front <+: itemsOf (front ++ rest) := by
  obtain ⟨units, complete, rfl, rfl⟩ := exists_complete_units h hlast
  rw [itemsOf_units_append complete, itemsOf_units complete]
  exact List.prefix_append _ _

/-- An instruction that the front cuts short is read with more operand bytes. -/
theorem exists_longer_of_isTruncated {found : Decoded}
    (h : (itemsOf front).getLast? = some (.ok found)) (htruncated : found.isTruncated = true)
    (rest : List UInt8) :
    ∃ longer : Decoded,
      (itemsOf front).dropLast ++ [.ok longer] <+: itemsOf (front ++ rest) ∧
      longer.instruction.offset = found.instruction.offset ∧
      longer.instruction.opcode = found.instruction.opcode ∧
      longer.instruction.operandWidth = found.instruction.operandWidth ∧
      longer.instruction.operandValue % 2 ^ (8 * found.present) =
        found.instruction.operandValue % 2 ^ (8 * found.present) := by
  obtain ⟨⟨units, ending, complete⟩, rfl⟩ := exists_layout front
  have hitems := items_ending_of_getLast? h (by
    rintro other ⟨⟩
    exact htruncated)
  cases ending with
  | clean => cases hitems
  | unknown => cases hitems
  | dangling => cases hitems
  | truncated unit short =>
      cases hitems
      refine ⟨(unit.extend rest).decoded (UInt32.ofNat (totalSize units)), ?_, rfl, rfl, rfl,
        unit.operandValue_extend rest _⟩
      have hnext := Cursor.next?_unit (unit.extend rest) (rest.drop unit.missing)
        (units.flatMap CodeUnit.bytes).length (UInt32.ofNat (totalSize units))
        (unit.isComplete_extend_or rest)
      rw [unit.bytes_extend] at hnext
      rw [itemsOf_layout, Ending.items, List.dropLast_concat, itemsOf_layout_append,
        Ending.bytes, Cursor.items_of_next?_eq_some hnext]
      exact (List.prefix_append_right_inj _).2 (List.prefix_append [_] _)

end Front

/-- The items of the first bytes of a window are those of the whole window, up to the last
one. If the first bytes end in an opcode that is not known, all items are the same. If they
end in lead bytes, the instructions before are the same, and so are all if the first bytes
are read to their end with no operand cut short. If the last operand is cut short, the whole
window has an instruction there with the same offset, opcode and width, and the operand
bytes that were there are its low bytes. -/
theorem itemsOf_take (window : List UInt8) (count : Nat) :
    (∀ (offset : UInt32) (key : UInt16),
      (itemsOf (window.take count)).getLast? = some (.error (.unknownOpcode offset key)) →
      itemsOf window = itemsOf (window.take count)) ∧
    (∀ (offset : UInt32) (lead : UInt8),
      (itemsOf (window.take count)).getLast? = some (.error (.danglingLead offset lead)) →
      (decodedOf (itemsOf (window.take count))).map .ok <+: itemsOf window) ∧
    (∀ instrs : List Instruction, decodeAll (window.take count) = .ok instrs →
      (∀ found : Decoded, (itemsOf (window.take count)).getLast? = some (.ok found) →
        found.isTruncated = false) →
      itemsOf (window.take count) <+: itemsOf window) ∧
    (∀ found : Decoded, (itemsOf (window.take count)).getLast? = some (.ok found) →
      found.isTruncated = true →
      (itemsOf (window.take count)).dropLast <+: itemsOf window ∧
      ∃ longer : Decoded,
        (itemsOf window)[(itemsOf (window.take count)).length - 1]? = some (.ok longer) ∧
        longer.instruction.offset = found.instruction.offset ∧
        longer.instruction.opcode = found.instruction.opcode ∧
        longer.instruction.operandWidth = found.instruction.operandWidth ∧
        longer.instruction.operandValue % 2 ^ (8 * found.present) =
          found.instruction.operandValue % 2 ^ (8 * found.present)) := by
  have hwindow := List.take_append_drop count window
  generalize window.take count = front at hwindow ⊢
  generalize window.drop count = rest at hwindow
  subst hwindow
  refine ⟨?_, ?_, ?_, ?_⟩
  · intro offset key h
    exact itemsOf_append_of_unknownOpcode h rest
  · intro offset lead h
    exact isPrefix_of_danglingLead h rest
  · intro instrs h hlast
    exact isPrefix_of_decodeAll h hlast rest
  · intro found h htruncated
    obtain ⟨longer, hbegins, hsame⟩ := exists_longer_of_isTruncated h htruncated rest
    refine ⟨(List.prefix_append _ _).trans hbegins, longer, ?_, hsame⟩
    -- the item behind all but the last one stands where the last one stood
    obtain ⟨tail, htail⟩ := hbegins
    rw [← List.length_dropLast, ← htail, List.append_assoc,
      List.getElem?_append_right (Nat.le_refl _), Nat.sub_self]
    rfl

/-- A cut behind two of four operand bytes: the instruction there keeps its offset, and the
two bytes are the low ones of its operand. -/
theorem itemsOf_take_inside_operand :
    let window : List UInt8 := [0x00, 0x20, 0x78, 0x56, 0x34, 0x12, 0x2A]
    let cut : Decoded := ⟨⟨1, ⟨"ldc.i4", 0x20, .inlineI⟩, 4, 0x5678⟩, 2⟩
    (itemsOf (window.take 4)).getLast? = some (.ok cut) ∧ cut.isTruncated = true ∧
    (itemsOf (window.take 4)).dropLast <+: itemsOf window ∧
    ∃ longer : Decoded, (itemsOf window)[1]? = some (.ok longer) ∧
      longer.instruction.offset = 1 ∧ longer.instruction.operandValue % 2 ^ 16 = 0x5678 := by
  intro window cut
  have hlength : (itemsOf (window.take 4)).length - 1 = 1 := by decide +kernel
  have hlast : (itemsOf (window.take 4)).getLast? = some (.ok cut) := by decide +kernel
  have htruncated : cut.isTruncated = true := rfl
  obtain ⟨-, -, -, hcut⟩ := itemsOf_take window 4
  obtain ⟨hbegins, longer, hlonger, hoffset, -, -, hvalue⟩ := hcut cut hlast htruncated
  rw [hlength] at hlonger
  exact ⟨hlast, htruncated, hbegins, longer, hlonger, hoffset, hvalue⟩

end CilDisassembly
