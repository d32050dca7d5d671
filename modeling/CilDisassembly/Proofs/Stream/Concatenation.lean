import CilDisassembly.Label
import CilDisassembly.Proofs.Stream.Reading
import CilDisassembly.Proofs.Stream.Grammar

/-!
# Streams one behind the other

A stream that is read to its end, with no operand cut short, can be followed by another
one. What is read behind it is what the other stream gives by itself, moved to where the
first one ends (`itemsOf_append`). The distance is the size that the instructions of the
first stream add up to; bytes that do not count make it smaller than the number of bytes.

Two runs are followed that start at different places (`Cursor.next?_relocate`). Nothing but
positions and offsets depends on the place, in instructions and in errors.
-/

set_option autoImplicit false

namespace CilDisassembly

/-! ## Moving what was read to another place -/

/-- The same instruction at another place. -/
def Instruction.relocate (instr : Instruction) (distance : UInt32) : Instruction :=
  { instr with offset := instr.offset + distance }

/-- The same error at another place. -/
def StreamError.relocate (distance : UInt32) : StreamError → StreamError
  | .danglingLead offset lead => .danglingLead (offset + distance) lead
  | .unknownOpcode offset key => .unknownOpcode (offset + distance) key

/-- The same item at another place. -/
def Item.relocate (distance : UInt32) : Item → Item
  | .ok found => .ok { found with instruction := found.instruction.relocate distance }
  | .error error => .error (error.relocate distance)

/-- Whatever is counted from an offset is counted from the moved one as well. -/
theorem offset_add_right_comm (offset size distance : UInt32) :
    offset + distance + size = offset + size + distance := by
  rw [UInt32.add_assoc, UInt32.add_comm distance, ← UInt32.add_assoc]

theorem Instruction.endOffset_relocate (instr : Instruction) (distance : UInt32) :
    (instr.relocate distance).endOffset = instr.endOffset + distance :=
  offset_add_right_comm ..

/-- The target of a branch moves with it. -/
theorem Instruction.branchTarget?_relocate (instr : Instruction) (distance : UInt32) :
    (instr.relocate distance).branchTarget? = instr.branchTarget?.map (· + distance) := by
  have hdisplacement : (instr.relocate distance).displacement? = instr.displacement? := rfl
  rw [branchTarget?, branchTarget?, hdisplacement, endOffset_relocate, Option.map_map]
  congr 1
  funext displacement
  exact offset_add_right_comm ..

/-- The targets of two groups of instructions, one of them moved. -/
theorem mem_branchTargets_append_relocate {first second : List Instruction}
    {distance label : UInt32} :
    label ∈ branchTargets (first ++ second.map (·.relocate distance)) ↔
      label ∈ branchTargets first ∨
        ∃ target ∈ branchTargets second, label = target + distance := by
  simp only [mem_branchTargets, List.mem_append, List.mem_map]
  constructor
  · rintro ⟨instr, hfirst | ⟨moved, hmoved, rfl⟩, htarget⟩
    · exact .inl ⟨instr, hfirst, htarget⟩
    · rw [Instruction.branchTarget?_relocate] at htarget
      obtain ⟨target, hbefore, rfl⟩ := Option.map_eq_some_iff.1 htarget
      exact .inr ⟨target, ⟨moved, hmoved, hbefore⟩, rfl⟩
  · rintro (⟨instr, hinstr, htarget⟩ | ⟨target, ⟨instr, hinstr, htarget⟩, rfl⟩)
    · exact ⟨instr, .inl hinstr, htarget⟩
    · refine ⟨instr.relocate distance, .inr ⟨instr, hinstr, rfl⟩, ?_⟩
      rw [Instruction.branchTarget?_relocate, htarget]
      rfl

/-- The instructions among items that are moved. -/
theorem Item.instructions_relocate {items : List Item} {instrs : List Instruction}
    (h : Item.instructions items = .ok instrs) (distance : UInt32) :
    Item.instructions (items.map (Item.relocate distance)) =
      .ok (instrs.map (·.relocate distance)) := by
  induction items generalizing instrs with
  | nil =>
      cases h
      rfl
  | cons item items ih =>
      cases item with
      | error error =>
          rw [Item.instructions_error] at h
          cases h
      | ok found =>
          rw [Item.instructions_ok] at h
          cases hrest : Item.instructions items with
          | error error =>
              rw [hrest] at h
              cases h
          | ok rest =>
              rw [hrest] at h
              cases h
              have hmoved := ih hrest
              rw [List.map_cons, Item.relocate, Item.instructions_ok, hmoved]
              rfl

/-! ## Reading at another place -/

namespace Cursor

/-- A cursor before the same bytes at another place. -/
def relocate (cursor : Cursor) (bytes : Nat) (distance : UInt32) : Cursor :=
  ⟨cursor.unread, bytes + cursor.position, cursor.offset + distance⟩

/-- What a step brings, at another place. -/
def relocateFound (bytes : Nat) (distance : UInt32) (found : Item × Cursor) : Item × Cursor :=
  (found.1.relocate distance, found.2.relocate bytes distance)

theorem next?_relocate_unit (unit : CodeUnit) {rest : List UInt8} (position : Nat)
    (offset : UInt32) (h : unit.IsComplete ∨ rest = []) (bytes : Nat) (distance : UInt32) :
    ((Cursor.mk (unit.bytes ++ rest) position offset).relocate bytes distance).next? =
      (Cursor.mk (unit.bytes ++ rest) position offset).next?.map
        (relocateFound bytes distance) := by
  rw [relocate, next?_unit unit rest (bytes + position) (offset + distance) h,
    next?_unit unit rest position offset h, Nat.add_assoc, offset_add_right_comm]
  rfl

/-- A step at another place is the same step, and leads to the other place. -/
theorem next?_relocate (cursor : Cursor) (bytes : Nat) (distance : UInt32) :
    (cursor.relocate bytes distance).next? =
      cursor.next?.map (relocateFound bytes distance) := by
  obtain ⟨unread, position, offset⟩ := cursor
  -- every way to go on, both errors among them, is the same at each place
  rcases exists_ending_or_unit unread with ⟨ending, rfl⟩ | ⟨unit, rest, hunit, rfl⟩
  · cases ending with
    | clean => rfl
    | truncated unit short =>
        have hread := next?_relocate_unit unit position offset (.inr rfl) bytes distance
        rw [List.append_nil] at hread
        exact hread
    | unknown leads byte rest hleads hbyte hkey =>
        rw [Ending.bytes, relocate,
          next?_unknown rest (bytes + position) (offset + distance) hleads hbyte hkey,
          next?_unknown rest position offset hleads hbyte hkey, Nat.add_assoc]
        rfl
    | dangling leads lead hleads hlead =>
        rw [Ending.bytes, relocate,
          next?_dangling (bytes + position) (offset + distance) hleads hlead,
          next?_dangling position offset hleads hlead, Nat.add_assoc]
        rfl
  · exact next?_relocate_unit unit position offset (.inl hunit) bytes distance

/-- All that is read at another place is the same, and reading ends at the other place. -/
theorem drain_relocate (cursor : Cursor) (bytes : Nat) (distance : UInt32) :
    (cursor.relocate bytes distance).drain =
      (cursor.drain.1.map (Item.relocate distance), cursor.drain.2.relocate bytes distance) := by
  have hstep := cursor.next?_relocate bytes distance
  fun_induction drain cursor with
  | case1 cursor hnext =>
      rw [hnext] at hstep
      rw [drain_of_next?_eq_none hstep]
      rfl
  | case2 cursor item after hnext rest ih =>
      rw [hnext] at hstep
      rw [drain_of_next?_eq_some hstep, ih (after.next?_relocate bytes distance)]
      rfl

theorem items_relocate (cursor : Cursor) (bytes : Nat) (distance : UInt32) :
    (cursor.relocate bytes distance).items = cursor.items.map (Item.relocate distance) := by
  rw [items, drain_relocate, items]

theorem last_relocate (cursor : Cursor) (bytes : Nat) (distance : UInt32) :
    (cursor.relocate bytes distance).last = cursor.last.relocate bytes distance := by
  rw [last, drain_relocate, last]

end Cursor

/-! ## Two streams, one behind the other -/

/-- A window that is read to its end, with no operand cut short, is a sequence of complete
units. -/
theorem exists_complete_units {window : List UInt8} {instrs : List Instruction}
    (h : decodeAll window = .ok instrs)
    (hlast : ∀ found : Decoded, (itemsOf window).getLast? = some (.ok found) →
      found.isTruncated = false) :
    ∃ units : List CodeUnit, (∀ unit ∈ units, unit.IsComplete) ∧
      window = units.flatMap CodeUnit.bytes ∧ instrs = instructionsOf units := by
  obtain ⟨⟨units, ending, complete⟩, rfl⟩ := exists_layout window
  rw [decodeAll_layout] at h
  cases ending with
  | clean =>
      refine ⟨units, complete, ?_, (Except.ok.inj h).symm⟩
      simp [Layout.bytes, Ending.bytes]
  | truncated unit short =>
      -- the last instruction would be one that is cut short
      exfalso
      have hfull := hlast (unit.decoded (UInt32.ofNat (totalSize units))) (by
        rw [itemsOf_layout]
        exact List.getLast?_concat)
      exact short ((unit.isTruncated_decoded _).1 hfull)
  | unknown => cases h
  | dangling => cases h

section Units

variable {units : List CodeUnit}

/-- Behind units a stream starts at another place. -/
theorem relocate_start (units : List CodeUnit) (second : List UInt8) :
    Cursor.mk second (0 + (units.flatMap CodeUnit.bytes).length)
      (0 + UInt32.ofNat (totalSize units)) =
    (Cursor.start second).relocate (units.flatMap CodeUnit.bytes).length
      (UInt32.ofNat (totalSize units)) := by
  rw [Nat.zero_add]
  rfl

theorem itemsOf_units (complete : ∀ unit ∈ units, unit.IsComplete) :
    itemsOf (units.flatMap CodeUnit.bytes) = (decodedFrom 0 units).map .ok := by
  have hlayout := itemsOf_layout ⟨units, .clean, complete⟩
  simpa [Layout.bytes, Ending.bytes, Ending.items] using hlayout

theorem itemsOf_units_append (complete : ∀ unit ∈ units, unit.IsComplete)
    (second : List UInt8) :
    itemsOf (units.flatMap CodeUnit.bytes ++ second) =
      (decodedFrom 0 units).map .ok ++
        (itemsOf second).map (Item.relocate (UInt32.ofNat (totalSize units))) := by
  rw [itemsOf, Cursor.start, Cursor.items_units units second 0 0 complete, relocate_start,
    Cursor.items_relocate, itemsOf]

theorem last_units_append (complete : ∀ unit ∈ units, unit.IsComplete)
    (second : List UInt8) :
    (Cursor.start (units.flatMap CodeUnit.bytes ++ second)).last =
      (Cursor.start second).last.relocate (units.flatMap CodeUnit.bytes).length
        (UInt32.ofNat (totalSize units)) := by
  rw [Cursor.start, Cursor.last_units units second 0 0 complete, relocate_start,
    Cursor.last_relocate]

theorem decodeAll_units_append (complete : ∀ unit ∈ units, unit.IsComplete)
    {second : List UInt8} {others : List Instruction} (h : decodeAll second = .ok others) :
    decodeAll (units.flatMap CodeUnit.bytes ++ second) =
      .ok (instructionsOf units ++
        others.map (·.relocate (UInt32.ofNat (totalSize units)))) := by
  have hmoved := Item.instructions_relocate h (UInt32.ofNat (totalSize units))
  rw [decodeAll, itemsOf_units_append complete, Item.instructions_map_ok_append, hmoved]
  rfl

end Units

/-- Behind a stream that is read to its end, with no operand cut short, another one is read
as it is by itself, with offsets moved by the size of the instructions before it. So is the
place where reading ends, and the position by the number of bytes. If the other stream is
read to its end as well, the targets of branches are those of the first stream and the moved
ones of the second. -/
theorem itemsOf_append {first : List UInt8} {instrs : List Instruction}
    (h : decodeAll first = .ok instrs)
    (hlast : ∀ found : Decoded, (itemsOf first).getLast? = some (.ok found) →
      found.isTruncated = false) (second : List UInt8) :
    let distance := UInt32.ofNat (instrs.map Instruction.byteSize).sum
    itemsOf (first ++ second) =
      itemsOf first ++ (itemsOf second).map (Item.relocate distance) ∧
    (Reader.start (first ++ second)).drain.2.position =
      first.length + (Reader.start second).drain.2.position ∧
    (Reader.start (first ++ second)).drain.2.offset =
      distance + (Reader.start second).drain.2.offset ∧
    (∀ others : List Instruction, decodeAll second = .ok others →
      decodeAll (first ++ second) = .ok (instrs ++ others.map (·.relocate distance)) ∧
      ∀ label : UInt32,
        label ∈ branchTargets (instrs ++ others.map (·.relocate distance)) ↔
          label ∈ branchTargets instrs ∨
            ∃ target ∈ branchTargets others, label = target + distance) := by
  obtain ⟨units, complete, rfl, rfl⟩ := exists_complete_units h hlast
  have hdistance : ((instructionsOf units).map Instruction.byteSize).sum = totalSize units := by
    rw [map_byteSize_instructionsOf]
    rfl
  rw [hdistance]
  intro distance
  obtain ⟨hposition, hoffset⟩ :=
    Reader.place_drain_start (units.flatMap CodeUnit.bytes ++ second)
  obtain ⟨hposition', hoffset'⟩ := Reader.place_drain_start second
  rw [last_units_append complete] at hposition hoffset
  refine ⟨?_, ?_, ?_, ?_⟩
  · rw [itemsOf_units_append complete, itemsOf_units complete]
  · rw [hposition, hposition']
    rfl
  · rw [hoffset, hoffset']
    exact UInt32.add_comm ..
  · intro others hothers
    exact ⟨decodeAll_units_append complete hothers,
      fun label => mem_branchTargets_append_relocate⟩

/-- A lead byte that does not count makes the distance smaller than the number of bytes, and
a branch back to the start of the second stream goes to where the first one ends. -/
theorem itemsOf_append_backward_branch :
    let first : List UInt8 := [0xF9, 0xFE, 0x0C, 0x01, 0x00]
    let second : List UInt8 := [0x00, 0x2B, 0xFD]
    let instrs : List Instruction := [⟨0, ⟨"ldloc", 0xFE0C, .inlineVar⟩, 2, 1⟩]
    let moved : List Instruction := [⟨4, ⟨"nop", 0x00, .inlineNone⟩, 0, 0⟩,
      ⟨5, ⟨"br.s", 0x2B, .shortInlineBrTarget⟩, 1, 0xFD⟩]
    decodeAll first = .ok instrs ∧
    (∀ found : Decoded, (itemsOf first).getLast? = some (.ok found) →
      found.isTruncated = false) ∧
    decodeAll (first ++ second) = .ok (instrs ++ moved) ∧
    (Reader.start (first ++ second)).drain.2.position = 8 ∧
    (Reader.start (first ++ second)).drain.2.offset = 7 ∧
    4 ∈ branchTargets (instrs ++ moved) := by
  intro first second instrs moved
  have h : decodeAll first = .ok instrs := by decide +kernel
  have hfirst : itemsOf first = [.ok ⟨⟨0, ⟨"ldloc", 0xFE0C, .inlineVar⟩, 2, 1⟩, 2⟩] := by
    decide +kernel
  have hlast : ∀ found : Decoded, (itemsOf first).getLast? = some (.ok found) →
      found.isTruncated = false := by
    intro found hfound
    rw [hfirst] at hfound
    cases hfound
    rfl
  have hsecond : decodeAll second = .ok [⟨0, ⟨"nop", 0x00, .inlineNone⟩, 0, 0⟩,
      ⟨1, ⟨"br.s", 0x2B, .shortInlineBrTarget⟩, 1, 0xFD⟩] := by
    decide +kernel
  obtain ⟨-, hposition, hoffset, hdecode⟩ := itemsOf_append h hlast second
  obtain ⟨hall, hlabels⟩ := hdecode _ hsecond
  refine ⟨h, hlast, hall, hposition.trans (by decide +kernel), hoffset.trans (by decide +kernel),
    (hlabels 4).2 (.inr ⟨0, ?_, rfl⟩)⟩
  exact mem_branchTargets.2 ⟨_, .tail _ (.head _), rfl⟩

end CilDisassembly
