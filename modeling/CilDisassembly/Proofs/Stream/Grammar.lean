import CilDisassembly.Proofs.Stream.CodeUnit
import Mathlib.Algebra.Order.Ring.Nat

/-!
# The grammar of instruction streams

Decoding a window gives what its layout says: one instruction for each unit, at
the offset that the units before it add up to, and the error of the ending, if
the ending is one.

The step lemmas for single units are carried over to whole windows by induction
on the list of units (`Cursor.items_units`). Because every window has a layout,
the outcome of decoding is known for every window, and each of the three forms of
outcome pins down the form of the window.

## What this module delivers

- `decodedFrom`: what units that stand one after the other are read as.
- `itemsOf_layout` and `decodeAll_layout`: the items and the outcome of a window
  with a given layout.
- `decodeAll_eq_ok_iff`, `decodeAll_eq_unknownOpcode_iff`,
  `decodeAll_eq_danglingLead_iff` and `decodeAll_grammar`: for each outcome of
  decoding, exactly the windows that have it.
-/

set_option autoImplicit false

namespace CilDisassembly

/-- The number of bytes that some units count for in offsets. -/
def totalSize (units : List CodeUnit) : Nat :=
  (units.map CodeUnit.byteSize).sum

/-- What units that stand one after the other are read as. -/
def decodedFrom (offset : UInt32) : List CodeUnit → List Decoded
  | [] => []
  | unit :: rest =>
      unit.decoded offset :: decodedFrom (offset + UInt32.ofNat unit.byteSize) rest

/-- The items that an ending is read as. -/
def Ending.items (offset : UInt32) : Ending → List Item
  | clean => []
  | truncated unit _ => [.ok (unit.decoded offset)]
  | unknown leads byte .. => [.error (.unknownOpcode offset (opcodeKey leads byte))]
  | dangling _ lead .. => [.error (.danglingLead offset lead)]

@[simp] theorem totalSize_nil : totalSize [] = 0 := rfl

@[simp] theorem totalSize_cons (unit : CodeUnit) (rest : List CodeUnit) :
    totalSize (unit :: rest) = unit.byteSize + totalSize rest := by
  simp [totalSize]

/-- Moving on over one unit and over the rest is moving on over all. -/
theorem offset_add_totalSize (offset : UInt32) (unit : CodeUnit) (rest : List CodeUnit) :
    offset + UInt32.ofNat unit.byteSize + UInt32.ofNat (totalSize rest) =
      offset + UInt32.ofNat (totalSize (unit :: rest)) := by
  rw [totalSize_cons, UInt32.ofNat_add, UInt32.add_assoc]

/-- The last of several units is read at the offset that the others lead to. -/
theorem decodedFrom_concat (offset : UInt32) (units : List CodeUnit) (unit : CodeUnit) :
    decodedFrom offset (units ++ [unit]) =
      decodedFrom offset units ++ [unit.decoded (offset + UInt32.ofNat (totalSize units))] := by
  induction units generalizing offset with
  | nil => simp [decodedFrom]
  | cons first rest ih =>
      rw [List.cons_append, decodedFrom, ih, offset_add_totalSize, decodedFrom,
        List.cons_append]

/-- Each unit is read at the offset that the units before it add up to. -/
theorem decodedFrom_eq_mapIdx (offset : UInt32) (units : List CodeUnit) :
    decodedFrom offset units =
      units.mapIdx (fun k unit =>
        unit.decoded (offset + UInt32.ofNat (totalSize (units.take k)))) := by
  induction units generalizing offset with
  | nil => rfl
  | cons unit units ih =>
      rw [decodedFrom, ih, List.mapIdx_cons]
      simp only [List.take_zero, List.take_succ_cons, offset_add_totalSize, totalSize_nil]
      simp

theorem map_instruction_decodedFrom (offset : UInt32) (units : List CodeUnit) :
    (decodedFrom offset units).map Decoded.instruction =
      units.mapIdx (fun k unit =>
        unit.instruction (offset + UInt32.ofNat (totalSize (units.take k)))) := by
  apply List.ext_getElem?
  intro k
  rw [decodedFrom_eq_mapIdx, List.getElem?_map, List.getElem?_mapIdx, List.getElem?_mapIdx,
    Option.map_map]
  rfl

/-- What does not depend on the offset can be read off the units. -/
theorem map_decodedFrom {α : Type} {f : Decoded → α} {g : CodeUnit → α}
    (h : ∀ (unit : CodeUnit) (offset : UInt32), f (unit.decoded offset) = g unit)
    (offset : UInt32) (units : List CodeUnit) :
    (decodedFrom offset units).map f = units.map g := by
  induction units generalizing offset with
  | nil => rfl
  | cons unit rest ih => rw [decodedFrom, List.map_cons, ih, h, List.map_cons]

/-! ## Whole windows -/

namespace Cursor

/-- Complete units are read one after the other, and reading goes on behind them. -/
theorem drain_units (units : List CodeUnit) (rest : List UInt8) (position : Nat)
    (offset : UInt32) (h : ∀ unit ∈ units, unit.IsComplete) :
    (Cursor.mk (units.flatMap CodeUnit.bytes ++ rest) position offset).drain =
      let behind := Cursor.mk rest (position + (units.flatMap CodeUnit.bytes).length)
        (offset + UInt32.ofNat (totalSize units))
      ((decodedFrom offset units).map .ok ++ behind.items, behind.last) := by
  -- the place moves on with every unit, so the claim is made for all places
  induction units generalizing position offset with
  | nil => simp [decodedFrom, items, last]
  | cons unit units ih =>
      have hunit : unit.IsComplete := h unit List.mem_cons_self
      have hrest : ∀ other ∈ units, other.IsComplete :=
        fun other hother => h other (List.mem_cons_of_mem unit hother)
      rw [List.flatMap_cons, List.append_assoc,
        drain_of_next?_eq_some (next?_unit unit _ position offset (.inl hunit)), ih _ _ hrest,
        offset_add_totalSize, List.length_append, Nat.add_assoc]
      rfl

/-- Complete units are read one after the other, whatever follows them. -/
theorem items_units (units : List CodeUnit) (rest : List UInt8) (position : Nat)
    (offset : UInt32) (h : ∀ unit ∈ units, unit.IsComplete) :
    (Cursor.mk (units.flatMap CodeUnit.bytes ++ rest) position offset).items =
      (decodedFrom offset units).map .ok ++
        (Cursor.mk rest (position + (units.flatMap CodeUnit.bytes).length)
          (offset + UInt32.ofNat (totalSize units))).items := by
  rw [items, drain_units units rest position offset h]

theorem last_units (units : List CodeUnit) (rest : List UInt8) (position : Nat)
    (offset : UInt32) (h : ∀ unit ∈ units, unit.IsComplete) :
    (Cursor.mk (units.flatMap CodeUnit.bytes ++ rest) position offset).last =
      (Cursor.mk rest (position + (units.flatMap CodeUnit.bytes).length)
        (offset + UInt32.ofNat (totalSize units))).last := by
  rw [last, drain_units units rest position offset h]

/-- An ending is read as what it is. -/
theorem items_ending (ending : Ending) (position : Nat) (offset : UInt32) :
    (Cursor.mk ending.bytes position offset).items = ending.items offset := by
  cases ending with
  | clean => exact items_of_next?_eq_none (next?_nil position offset)
  | truncated unit short =>
      have hnext := next?_unit unit [] position offset (.inr rfl)
      rw [List.append_nil] at hnext
      rw [Ending.bytes, items_of_next?_eq_some hnext, items_of_next?_eq_none (next?_nil _ _),
        Ending.items]
  | unknown leads byte rest hleads hbyte hkey =>
      rw [Ending.bytes,
        items_of_next?_eq_some (next?_unknown rest position offset hleads hbyte hkey),
        items_of_next?_eq_none (next?_nil _ _), Ending.items]
  | dangling leads lead hleads hlead =>
      rw [Ending.bytes, items_of_next?_eq_some (next?_dangling position offset hleads hlead),
        items_of_next?_eq_none (next?_nil _ _), Ending.items]

end Cursor

/-- The items of a window are those of its units and its ending. -/
theorem itemsOf_layout (layout : Layout) :
    itemsOf layout.bytes =
      (decodedFrom 0 layout.units).map .ok ++
        layout.ending.items (UInt32.ofNat (totalSize layout.units)) := by
  rw [itemsOf, Cursor.start, Layout.bytes, Cursor.items_units _ _ _ _ layout.complete,
    Cursor.items_ending, UInt32.zero_add]

/-- Instructions before other items are collected before those of the others. -/
theorem Item.instructions_map_ok_append (found : List Decoded) (items : List Item) :
    Item.instructions (found.map .ok ++ items) =
      (Item.instructions items).map (fun rest => found.map Decoded.instruction ++ rest) := by
  induction found with
  | nil =>
      cases h : Item.instructions items <;> simp [Except.map, h]
  | cons decoded found ih =>
      rw [List.map_cons, List.cons_append, Item.instructions_ok, ih]
      cases Item.instructions items <;> rfl

/-- The instructions of units from the start of a stream on. -/
def instructionsOf (units : List CodeUnit) : List Instruction :=
  (decodedFrom 0 units).map Decoded.instruction

/-- Each unit gives one instruction, at the offset that the units before it add up
to. -/
theorem instructionsOf_eq_mapIdx (units : List CodeUnit) :
    instructionsOf units = units.mapIdx (fun k unit =>
      unit.instruction (UInt32.ofNat (totalSize (units.take k)))) := by
  rw [instructionsOf, map_instruction_decodedFrom]
  simp only [UInt32.zero_add]

@[simp] theorem length_instructionsOf (units : List CodeUnit) :
    (instructionsOf units).length = units.length := by
  rw [instructionsOf_eq_mapIdx, List.length_mapIdx]

theorem getElem?_instructionsOf (units : List CodeUnit) (k : Nat) :
    (instructionsOf units)[k]? = units[k]?.map (fun unit =>
      unit.instruction (UInt32.ofNat (totalSize (units.take k)))) := by
  rw [instructionsOf_eq_mapIdx, List.getElem?_mapIdx]

/-- The sizes of the instructions are those of the units. -/
theorem map_byteSize_instructionsOf (units : List CodeUnit) :
    (instructionsOf units).map Instruction.byteSize = units.map CodeUnit.byteSize := by
  rw [instructionsOf, List.map_map]
  exact map_decodedFrom (fun unit offset => unit.byteSize_instruction offset) 0 units

/-- The outcome of decoding a window with a given layout. -/
def Layout.outcome (layout : Layout) : Except StreamError (List Instruction) :=
  let offset := UInt32.ofNat (totalSize layout.units)
  match layout.ending with
  | .clean => .ok (instructionsOf layout.units)
  | .truncated unit _ => .ok (instructionsOf (layout.units ++ [unit]))
  | .unknown leads byte .. => .error (.unknownOpcode offset (opcodeKey leads byte))
  | .dangling _ lead .. => .error (.danglingLead offset lead)

/-- Decoding a window has the outcome of its layout. -/
theorem decodeAll_layout (layout : Layout) : decodeAll layout.bytes = layout.outcome := by
  rw [decodeAll, itemsOf_layout, Item.instructions_map_ok_append]
  obtain ⟨units, ending, complete⟩ := layout
  cases ending with
  | clean => simp [Ending.items, Layout.outcome, instructionsOf, Except.map]
  | truncated unit short =>
      simp only [Layout.outcome, instructionsOf, decodedFrom_concat, UInt32.zero_add]
      simp [Ending.items, Except.map, CodeUnit.decoded]
  | unknown => simp [Ending.items, Layout.outcome, Except.map]
  | dangling => simp [Ending.items, Layout.outcome, Except.map]

/-- Units of which at most the last one is incomplete make a layout. -/
theorem exists_layout_of_units (units : List CodeUnit)
    (h : ∀ unit ∈ units.dropLast, unit.IsComplete) :
    ∃ layout : Layout, layout.bytes = units.flatMap CodeUnit.bytes ∧
      layout.outcome = .ok (instructionsOf units) := by
  rcases List.eq_nil_or_concat units with rfl | ⟨before, unit, rfl⟩
  · exact ⟨⟨[], .clean, by simp⟩, rfl, rfl⟩
  · rw [List.concat_eq_append, List.dropLast_concat] at h
    by_cases hunit : unit.IsComplete
    · -- the last unit is complete too, and nothing follows it
      have hall := List.forall_mem_append.2 ⟨h, List.forall_mem_singleton.2 hunit⟩
      exact ⟨⟨before ++ [unit], .clean, hall⟩, by simp [Layout.bytes, Ending.bytes], by
        simp [Layout.outcome]⟩
    · exact ⟨⟨before, .truncated unit hunit, h⟩, by simp [Layout.bytes, Ending.bytes], by
        simp [Layout.outcome]⟩

/-- Units of which at most the last one is incomplete are decoded to their
instructions. -/
theorem decodeAll_units (units : List CodeUnit)
    (h : ∀ unit ∈ units.dropLast, unit.IsComplete) :
    decodeAll (units.flatMap CodeUnit.bytes) = .ok (instructionsOf units) := by
  obtain ⟨layout, hbytes, houtcome⟩ := exists_layout_of_units units h
  rw [← hbytes, decodeAll_layout, houtcome]

/-- A window that is decoded consists of units, of which at most the last one is
incomplete. -/
theorem exists_units_of_decodeAll {window : List UInt8} {instrs : List Instruction}
    (h : decodeAll window = .ok instrs) :
    ∃ units : List CodeUnit, (∀ unit ∈ units.dropLast, unit.IsComplete) ∧
      window = units.flatMap CodeUnit.bytes ∧ instrs = instructionsOf units := by
  obtain ⟨layout, rfl⟩ := exists_layout window
  rw [decodeAll_layout] at h
  obtain ⟨units, ending, complete⟩ := layout
  cases ending with
  | clean =>
      refine ⟨units, ?_, by simp [Layout.bytes, Ending.bytes], (Except.ok.inj h).symm⟩
      intro unit hunit
      exact complete unit ((List.dropLast_sublist units).mem hunit)
  | truncated unit short =>
      refine ⟨units ++ [unit], ?_, by simp [Layout.bytes, Ending.bytes],
        (Except.ok.inj h).symm⟩
      rw [List.dropLast_concat]
      exact complete
  | unknown => cases h
  | dangling => cases h

/-- Every decoded instruction is that of a unit. -/
theorem exists_unit_of_mem_decodeAll {window : List UInt8} {instrs : List Instruction}
    (h : decodeAll window = .ok instrs) {instr : Instruction} (hinstr : instr ∈ instrs) :
    ∃ (unit : CodeUnit) (offset : UInt32), instr = unit.instruction offset := by
  obtain ⟨units, -, -, rfl⟩ := exists_units_of_decodeAll h
  rw [instructionsOf_eq_mapIdx] at hinstr
  obtain ⟨k, hk, rfl⟩ := List.mem_mapIdx.1 hinstr
  exact ⟨_, _, rfl⟩

/-! ## The outcome of decoding -/

/-- The operand of an instruction is the little-endian number in its unit, read as
a signed 64-bit number. -/
theorem CodeUnit.operandValue_instruction (unit : CodeUnit) (offset : UInt32) :
    (unit.instruction offset).operandValue = Int.bmod (Bytes.toNat unit.operand) (2 ^ 64) :=
  BitVec.toInt_ofNat ..

/-- Decoding accepts exactly the concatenations of units, of which only the last one may
be cut short. -/
theorem decodeAll_eq_ok_iff {window : List UInt8} {instrs : List Instruction} :
    decodeAll window = .ok instrs ↔
      ∃ units : List CodeUnit, (∀ unit ∈ units.dropLast, unit.IsComplete) ∧
        window = units.flatMap CodeUnit.bytes ∧ instrs = instructionsOf units := by
  constructor
  · exact exists_units_of_decodeAll
  · rintro ⟨units, hunits, rfl, rfl⟩
    exact decodeAll_units units hunits

/-- An unknown opcode is reported exactly when a key that no opcode has stands behind
complete units. What follows the key does not matter. -/
theorem decodeAll_eq_unknownOpcode_iff {window : List UInt8} {offset : UInt32}
    {key : UInt16} :
    decodeAll window = .error (.unknownOpcode offset key) ↔
      ∃ (units : List CodeUnit) (leads : List UInt8) (byte : UInt8) (rest : List UInt8),
        (∀ unit ∈ units, unit.IsComplete) ∧
        (∀ lead ∈ leads, isLeadByte lead = true) ∧ isLeadByte byte = false ∧
        window = units.flatMap CodeUnit.bytes ++ leads ++ byte :: rest ∧
        Catalog.ofKey? (opcodeKey leads byte) = none ∧
        key = opcodeKey leads byte ∧ offset = UInt32.ofNat (totalSize units) := by
  constructor
  · intro h
    obtain ⟨⟨units, ending, complete⟩, rfl⟩ := exists_layout window
    rw [decodeAll_layout] at h
    -- of the four endings only this one has an outcome of this form
    cases ending with
    | clean => cases h
    | truncated => cases h
    | dangling => cases h
    | unknown leads byte rest hleads hbyte hkey =>
        obtain ⟨rfl, rfl⟩ := StreamError.unknownOpcode.inj (Except.error.inj h)
        exact ⟨units, leads, byte, rest, complete, hleads, hbyte,
          (List.append_assoc ..).symm, hkey, rfl, rfl⟩
  · rintro ⟨units, leads, byte, rest, hunits, hleads, hbyte, rfl, hkey, rfl, rfl⟩
    rw [List.append_assoc]
    exact decodeAll_layout ⟨units, .unknown leads byte rest hleads hbyte hkey, hunits⟩

/-- A dangling lead byte is reported exactly when only lead bytes stand behind complete
units. It is the last one that is reported. -/
theorem decodeAll_eq_danglingLead_iff {window : List UInt8} {offset : UInt32}
    {lead : UInt8} :
    decodeAll window = .error (.danglingLead offset lead) ↔
      ∃ (units : List CodeUnit) (leads : List UInt8),
        (∀ unit ∈ units, unit.IsComplete) ∧
        (∀ before ∈ leads, isLeadByte before = true) ∧
        window = units.flatMap CodeUnit.bytes ++ leads ∧
        leads.getLast? = some lead ∧ offset = UInt32.ofNat (totalSize units) := by
  constructor
  · intro h
    obtain ⟨⟨units, ending, complete⟩, rfl⟩ := exists_layout window
    rw [decodeAll_layout] at h
    cases ending with
    | clean => cases h
    | truncated => cases h
    | unknown => cases h
    | dangling leads last hleads hlast =>
        obtain ⟨rfl, rfl⟩ := StreamError.danglingLead.inj (Except.error.inj h)
        have hall := List.forall_mem_append.2 ⟨hleads, List.forall_mem_singleton.2 hlast⟩
        exact ⟨units, leads ++ [last], complete, hall, rfl, List.getLast?_concat, rfl⟩
  · rintro ⟨units, leads, hunits, hleads, rfl, hlast, rfl⟩
    obtain ⟨before, rfl⟩ := List.getLast?_eq_some_iff.1 hlast
    obtain ⟨hbefore, hlead⟩ := List.forall_mem_append.1 hleads
    exact decodeAll_layout
      ⟨units, .dangling before lead hbefore (hlead lead List.mem_cons_self), hunits⟩

/-- The operands of decoded instructions are the little-endian numbers in their units. -/
theorem map_operandValue_instructionsOf (units : List CodeUnit) :
    (instructionsOf units).map Instruction.operandValue =
      units.map (fun unit => Int.bmod (Bytes.toNat unit.operand) (2 ^ 64)) := by
  rw [instructionsOf, List.map_map]
  exact map_decodedFrom (fun unit offset => unit.operandValue_instruction offset) 0 units

/-- Decoding accepts exactly the concatenations of units, of which only the last one
may be cut short. Each instruction has the offset that the units before it add up to,
and its operand is the little-endian number of the bytes that are there. It reports an
unknown opcode exactly behind complete units that a key without opcode follows, and a
dangling lead byte exactly behind complete units that only lead bytes follow. -/
theorem decodeAll_grammar (window : List UInt8) :
    (∀ instrs : List Instruction, decodeAll window = .ok instrs ↔
      ∃ units : List CodeUnit, (∀ unit ∈ units.dropLast, unit.IsComplete) ∧
        window = units.flatMap CodeUnit.bytes ∧
        instrs = units.mapIdx (fun k unit =>
          unit.instruction (UInt32.ofNat (totalSize (units.take k)))) ∧
        instrs.map Instruction.operandValue =
          units.map (fun unit => Int.bmod (Bytes.toNat unit.operand) (2 ^ 64))) ∧
    (∀ (offset : UInt32) (key : UInt16),
      decodeAll window = .error (.unknownOpcode offset key) ↔
        ∃ (units : List CodeUnit) (leads : List UInt8) (byte : UInt8) (rest : List UInt8),
          (∀ unit ∈ units, unit.IsComplete) ∧
          (∀ lead ∈ leads, isLeadByte lead = true) ∧ isLeadByte byte = false ∧
          window = units.flatMap CodeUnit.bytes ++ leads ++ byte :: rest ∧
          Catalog.ofKey? (opcodeKey leads byte) = none ∧
          key = opcodeKey leads byte ∧ offset = UInt32.ofNat (totalSize units)) ∧
    (∀ (offset : UInt32) (lead : UInt8),
      decodeAll window = .error (.danglingLead offset lead) ↔
        ∃ (units : List CodeUnit) (leads : List UInt8),
          (∀ unit ∈ units, unit.IsComplete) ∧
          (∀ before ∈ leads, isLeadByte before = true) ∧
          window = units.flatMap CodeUnit.bytes ++ leads ∧
          leads.getLast? = some lead ∧ offset = UInt32.ofNat (totalSize units)) := by
  refine ⟨?_, fun _ _ => decodeAll_eq_unknownOpcode_iff,
    fun _ _ => decodeAll_eq_danglingLead_iff⟩
  intro instrs
  rw [decodeAll_eq_ok_iff]
  constructor
  · rintro ⟨units, hunits, hwindow, rfl⟩
    exact ⟨units, hunits, hwindow, instructionsOf_eq_mapIdx units,
      map_operandValue_instructionsOf units⟩
  · rintro ⟨units, hunits, hwindow, rfl, -⟩
    exact ⟨units, hunits, hwindow, (instructionsOf_eq_mapIdx units).symm⟩

end CilDisassembly
