import CilDisassembly.Proofs.Stream.Progress

/-!
# What holds of a reader at all times

Everything that can be said of the position and the offset of a reader, and of the items
it has handed out, is read off the units that it has read (`Reader.HasRead`). It is
collected in `Reader.Invariant`, which holds after any number of requests
(`Reader.invariant_pull`).
-/

set_option autoImplicit false

namespace CilDisassembly

/-- The instructions among some items. -/
def decodedOf (items : List Item) : List Decoded :=
  items.filterMap Except.toOption

/-- The number of operand bytes that are missing from an instruction. -/
def Decoded.missing (found : Decoded) : Nat :=
  found.instruction.operandWidth - found.present

/-- The number of bytes that some instructions count for in offsets. -/
def countedBytes (found : List Decoded) : Nat :=
  (found.map (fun decoded => decoded.instruction.byteSize)).sum

/-- What a reader of a window and the items it has handed out have in common. -/
structure Reader.Invariant (window : List UInt8) (items : List Item) (reader : Reader) :
    Prop where
  window_eq : reader.window = window
  /-- Between two items no lead byte waits. -/
  lead?_eq : reader.lead? = none
  position_le : reader.position ≤ window.length
  /-- Every operand was taken from inside the window: as many bytes as its width asks
  for, or as many as there were behind the opcode, and no more than eight. -/
  operand_inside : ∀ found ∈ decodedOf items, ∃ start : Nat,
    start + found.present ≤ reader.position ∧
    found.present = min found.instruction.operandWidth (window.length - start) ∧
    found.present ≤ 8 ∧
    found.instruction.operand =
      UInt64.ofNat (Bytes.toNat ((window.drop start).take found.present))
  operandWidth_mem : ∀ found ∈ decodedOf items,
    found.instruction.operandWidth ∈ [0, 1, 2, 4, 8]
  exists_operandBytes : ∀ found ∈ decodedOf items, ∃ bytes : List UInt8,
    found.instruction.operandBytes? = some bytes
  operandValue_bounds : ∀ found ∈ decodedOf items, found.instruction.operandWidth < 8 →
    0 ≤ found.instruction.operandValue ∧
      found.instruction.operandValue < 2 ^ (8 * found.instruction.operandWidth)
  /-- Offsets count the instructions only. -/
  offset_eq : reader.offset = UInt32.ofNat (countedBytes (decodedOf items))
  offset_getElem? : ∀ (k : Nat) (found : Decoded), (decodedOf items)[k]? = some found →
    found.instruction.offset = UInt32.ofNat (countedBytes ((decodedOf items).take k))
  /-- Until an error is met, the bytes that were read and those that are missing are the
  bytes that count and the lead bytes that do not. -/
  position_eq : (∀ item ∈ items, ∃ found : Decoded, item = .ok found) →
    reader.position + ((decodedOf items).map Decoded.missing).sum =
      countedBytes (decodedOf items) +
        Place.start.superseded (window.take reader.position)
  /-- Only the last instruction can lack operand bytes. -/
  missing_dropLast : ∀ found ∈ (decodedOf items).dropLast, found.missing = 0
  /-- If one does, all bytes were read. -/
  position_of_missing : ∀ found ∈ decodedOf items, 0 < found.missing →
    reader.position = window.length
  /-- Every item takes a byte at least. -/
  length_items_le : items.length ≤ reader.position
  /-- In a window of at most `2 ^ 32` bytes offsets do not wrap around. -/
  offset_exact : window.length ≤ 2 ^ 32 → ∀ (k : Nat) (found : Decoded),
    (decodedOf items)[k]? = some found →
      found.instruction.offset.toNat = countedBytes ((decodedOf items).take k)
  offset_ascending : window.length ≤ 2 ^ 32 →
    ((decodedOf items).map (fun found => found.instruction.offset)).Pairwise (· < ·)

/-! ## What can be said of the items -/

@[simp] theorem decodedOf_map_ok (found : List Decoded) :
    decodedOf (found.map .ok) = found := by
  induction found with
  | nil => rfl
  | cons decoded found ih => exact congrArg (decoded :: ·) ih

@[simp] theorem decodedOf_concat_error (found : List Decoded) (error : StreamError) :
    decodedOf (found.map .ok ++ [.error error]) = found := by
  have hmap : found.filterMap (Except.toOption ∘ Except.ok (ε := StreamError)) = found :=
    (List.filterMap_map ..).symm.trans (decodedOf_map_ok found)
  simp [decodedOf, hmap, Except.toOption]

theorem take_decodedFrom (offset : UInt32) (units : List CodeUnit) (k : Nat) :
    (decodedFrom offset units).take k = decodedFrom offset (units.take k) := by
  induction units generalizing offset k with
  | nil => simp [decodedFrom]
  | cons unit units ih =>
      cases k with
      | zero => rfl
      | succ k => exact congrArg (_ :: ·) (ih _ k)

/-- A decoded instruction is that of a unit, at the offset that the units before it add up
to. -/
theorem exists_unit_of_getElem? {units : List CodeUnit} {k : Nat} {found : Decoded}
    (h : (decodedFrom 0 units)[k]? = some found) :
    ∃ (unit : CodeUnit) (after : List CodeUnit), units = units.take k ++ unit :: after ∧
      found = unit.decoded (UInt32.ofNat (totalSize (units.take k))) := by
  rw [decodedFrom_eq_mapIdx, List.getElem?_mapIdx] at h
  obtain ⟨unit, hunit, rfl⟩ := Option.map_eq_some_iff.1 h
  obtain ⟨hk, rfl⟩ := List.getElem?_eq_some_iff.1 hunit
  refine ⟨units[k], units.drop (k + 1), ?_, by rw [UInt32.zero_add]⟩
  rw [← List.drop_eq_getElem_cons hk, List.take_append_drop]

/-- The sizes of decoded instructions are those of their units. -/
theorem countedBytes_decodedFrom (offset : UInt32) (units : List CodeUnit) :
    countedBytes (decodedFrom offset units) = totalSize units :=
  congrArg List.sum
    (map_decodedFrom (fun unit offset => unit.byteSize_instruction offset) offset units)

/-- The bytes missing from decoded instructions are those missing from their units. -/
theorem sum_missing_decodedFrom (offset : UInt32) (units : List CodeUnit) :
    ((decodedFrom offset units).map Decoded.missing).sum = totalMissing units :=
  congrArg List.sum (map_decodedFrom (fun _ _ => rfl) offset units)

/-! ## From the units to the invariant -/

theorem exists_unit_of_mem {units : List CodeUnit} {found : Decoded}
    (h : found ∈ decodedFrom 0 units) :
    ∃ (before after : List CodeUnit) (unit : CodeUnit), units = before ++ unit :: after ∧
      found = unit.decoded (UInt32.ofNat (totalSize before)) := by
  obtain ⟨k, hk⟩ := List.mem_iff_getElem?.1 h
  obtain ⟨unit, after, hunits, hfound⟩ := exists_unit_of_getElem? hk
  exact ⟨units.take k, after, unit, hunits, hfound⟩

/-- What the units that were read say of a reader and of the items it has handed out. The
bytes of an error may have been read as well. -/
structure Reader.HasRead (window : List UInt8) (items : List Item) (reader : Reader)
    (units : List CodeUnit) (rest : List UInt8) : Prop where
  layout : units.flatMap CodeUnit.bytes ++ rest = window
  complete : ∀ unit ∈ units.dropLast, unit.IsComplete
  short : rest = [] ∨ ∀ unit ∈ units, unit.IsComplete
  decodedOf_eq : decodedOf items = decodedFrom 0 units
  window_eq : reader.window = window
  lead?_eq : reader.lead? = none
  offset_eq : reader.offset = UInt32.ofNat (totalSize units)
  le_position : (units.flatMap CodeUnit.bytes).length ≤ reader.position
  position_le : reader.position ≤ window.length
  length_items_le :
    items.length + (units.flatMap CodeUnit.bytes).length ≤ units.length + reader.position
  position_eq : (∀ item ∈ items, ∃ found : Decoded, item = .ok found) →
    reader.position = (units.flatMap CodeUnit.bytes).length

/-- Whatever progress a reader has made, it has read some units. -/
theorem Progress.exists_hasRead {window : List UInt8} {items : List Item} {reader : Reader}
    (h : Progress window items reader) :
    ∃ (units : List CodeUnit) (rest : List UInt8),
      Reader.HasRead window items reader units rest := by
  cases h with
  | reading units rest ended layout complete short stop =>
      have hlength := congrArg List.length layout
      rw [List.length_append] at hlength
      refine ⟨units, rest, layout, complete, short, decodedOf_map_ok _, rfl, rfl, rfl,
        Nat.le_refl _, ?_, ?_, fun _ => rfl⟩
      · show (units.flatMap CodeUnit.bytes).length ≤ window.length
        omega
      · rw [List.length_map, decodedFrom_eq_mapIdx, List.length_mapIdx]
  | failed units rest error used layout complete used_pos used_le =>
      have hlength := congrArg List.length layout
      rw [List.length_append] at hlength
      refine ⟨units, rest, layout, ?_, .inr complete, decodedOf_concat_error _ _, rfl, rfl,
        rfl, Nat.le_add_right _ _, ?_, ?_, ?_⟩
      · intro unit hunit
        exact complete unit ((List.dropLast_sublist units).mem hunit)
      · show (units.flatMap CodeUnit.bytes).length + used ≤ window.length
        omega
      · rw [List.length_append, List.length_map, decodedFrom_eq_mapIdx, List.length_mapIdx,
          List.length_singleton]
        show _ ≤ units.length + ((units.flatMap CodeUnit.bytes).length + used)
        omega
      · -- the last item is none of the instructions
        intro hall
        obtain ⟨found, hfound⟩ := hall (.error error) (by simp)
        cases hfound

/-- Every unit has a byte at least. -/
theorem length_le_length_flatMap (units : List CodeUnit) :
    units.length ≤ (units.flatMap CodeUnit.bytes).length := by
  induction units with
  | nil => exact Nat.le_refl _
  | cons unit units ih =>
      have hpos := unit.length_bytes_pos
      rw [List.flatMap_cons, List.length_append, List.length_cons]
      omega

/-- Complete units count for no more bytes than they have. -/
theorem totalSize_le_length {units : List CodeUnit} (h : ∀ unit ∈ units, unit.IsComplete) :
    totalSize units ≤ (units.flatMap CodeUnit.bytes).length := by
  induction units with
  | nil => exact Nat.le_refl _
  | cons unit units ih =>
      obtain ⟨hunit, hunits⟩ := List.forall_mem_cons.1 h
      have hsize := CodeUnit.byteSize_le_length hunit
      have hrest := ih hunits
      rw [totalSize_cons, List.flatMap_cons, List.length_append]
      omega

section Units

variable {units : List CodeUnit} {window rest : List UInt8}

/-- A unit that is cut short has nothing behind it. -/
theorem isComplete_or_nothing_behind {before after : List CodeUnit} {unit : CodeUnit}
    (hunits : units = before ++ unit :: after)
    (complete : ∀ unit ∈ units.dropLast, unit.IsComplete)
    (short : rest = [] ∨ ∀ unit ∈ units, unit.IsComplete) :
    unit.IsComplete ∨ after.flatMap CodeUnit.bytes ++ rest = [] := by
  subst hunits
  rcases short with rfl | hall
  · cases after with
    | nil => exact .inr rfl
    | cons second after =>
        refine .inl (complete unit ?_)
        simp
  · exact .inl (hall unit (by simp))

/-- The operand of a unit is taken from inside the window. -/
theorem operand_inside_of_units (layout : units.flatMap CodeUnit.bytes ++ rest = window)
    (complete : ∀ unit ∈ units.dropLast, unit.IsComplete)
    (short : rest = [] ∨ ∀ unit ∈ units, unit.IsComplete) {found : Decoded}
    (h : found ∈ decodedFrom 0 units) :
    ∃ start : Nat, start + found.present ≤ (units.flatMap CodeUnit.bytes).length ∧
      found.present = min found.instruction.operandWidth (window.length - start) ∧
      found.present ≤ 8 ∧
      found.instruction.operand =
        UInt64.ofNat (Bytes.toNat ((window.drop start).take found.present)) := by
  obtain ⟨before, after, unit, hunits, rfl⟩ := exists_unit_of_mem h
  have hbehind := isComplete_or_nothing_behind hunits complete short
  subst hunits
  -- the operand starts behind the lead bytes and the opcode byte of its unit
  have hlength : (before.flatMap CodeUnit.bytes ++ unit.leads ++ [unit.byte]).length =
      (before.flatMap CodeUnit.bytes).length + unit.leads.length + 1 := by
    simp [Nat.add_assoc]
  have hdrop : window.drop ((before.flatMap CodeUnit.bytes).length + unit.leads.length + 1) =
      unit.operand ++ (after.flatMap CodeUnit.bytes ++ rest) := by
    have hwindow : before.flatMap CodeUnit.bytes ++ unit.leads ++ [unit.byte] ++
        (unit.operand ++ (after.flatMap CodeUnit.bytes ++ rest)) = window := by
      rw [← layout]
      simp [CodeUnit.bytes]
    rw [← hwindow]
    exact List.drop_left' hlength
  have hread := Reader.operandBytes_of_drop
    ⟨window, (before.flatMap CodeUnit.bytes).length + unit.leads.length + 1, 0, none, false⟩
    hdrop unit.operand_le hbehind
  have hmin := congrArg List.length hread
  rw [Reader.operandBytes, List.length_take, List.length_drop,
    Nat.min_eq_left (Nat.min_le_right _ _)] at hmin
  refine ⟨_, ?_, hmin.symm, Nat.le_trans unit.operand_le unit.opcode.operand.width_le, ?_⟩
  · show _ + unit.operand.length ≤ _
    simp only [List.flatMap_append, List.flatMap_cons, List.length_append, unit.length_bytes]
    omega
  · show UInt64.ofNat (Bytes.toNat unit.operand) =
      UInt64.ofNat (Bytes.toNat ((window.drop _).take unit.operand.length))
    rw [hdrop, List.take_left]

/-- An offset in front of a unit is exact, because the complete units before it count for
no more bytes than they have. -/
theorem totalSize_lt_of_units (layout : units.flatMap CodeUnit.bytes ++ rest = window)
    (complete : ∀ unit ∈ units.dropLast, unit.IsComplete) {before after : List CodeUnit}
    {unit : CodeUnit} (hunits : units = before ++ unit :: after) :
    totalSize before < window.length := by
  subst hunits
  have hbefore : ∀ other ∈ before, other.IsComplete := by
    intro other hother
    apply complete
    rw [List.dropLast_append_of_ne_nil (by simp)]
    exact List.mem_append_left _ hother
  have hsize := totalSize_le_length hbefore
  have hpos := unit.length_bytes_pos
  have hlength := congrArg List.length layout
  simp only [List.flatMap_append, List.flatMap_cons, List.length_append] at hlength
  omega

end Units

/-- The invariant of a reader is what the units that it has read say. -/
theorem Reader.HasRead.invariant {window rest : List UInt8} {items : List Item}
    {reader : Reader} {units : List CodeUnit} (h : HasRead window items reader units rest) :
    reader.Invariant window items := by
  have hdecoded := h.decodedOf_eq
  have hlength := congrArg List.length h.layout
  rw [List.length_append] at hlength
  have hwellFormed : ∀ found ∈ decodedFrom 0 units, found.instruction.IsWellFormed := by
    intro found hfound
    obtain ⟨before, after, unit, -, rfl⟩ := exists_unit_of_mem hfound
    exact unit.isWellFormed_instruction _
  constructor
  case window_eq => exact h.window_eq
  case lead?_eq => exact h.lead?_eq
  case position_le => exact h.position_le
  case operand_inside =>
    rw [hdecoded]
    intro found hfound
    obtain ⟨start, hstart, hrest⟩ :=
      operand_inside_of_units h.layout h.complete h.short hfound
    exact ⟨start, Nat.le_trans hstart h.le_position, hrest⟩
  case operandWidth_mem =>
    rw [hdecoded]
    exact fun found hfound => (hwellFormed found hfound).operandWidth_mem
  case exists_operandBytes =>
    rw [hdecoded]
    exact fun found hfound => (hwellFormed found hfound).exists_operandBytes
  case operandValue_bounds =>
    rw [hdecoded]
    exact fun found hfound => (hwellFormed found hfound).operandValue_bounds
  case offset_eq => rw [hdecoded, countedBytes_decodedFrom, h.offset_eq]
  case offset_getElem? =>
    rw [hdecoded]
    intro k found hfound
    obtain ⟨unit, after, -, rfl⟩ := exists_unit_of_getElem? hfound
    rw [take_decodedFrom, countedBytes_decodedFrom]
    rfl
  case position_eq =>
    intro hall
    rw [h.position_eq hall, hdecoded, sum_missing_decodedFrom, countedBytes_decodedFrom,
      ← h.layout, List.take_left]
    exact length_units units h.complete
  case missing_dropLast =>
    rw [hdecoded, List.dropLast_eq_take, take_decodedFrom, decodedFrom_eq_mapIdx 0 units,
      List.length_mapIdx, ← List.dropLast_eq_take]
    intro found hfound
    obtain ⟨before, after, unit, hunits, rfl⟩ := exists_unit_of_mem hfound
    exact CodeUnit.missing_eq_zero (h.complete unit (by rw [hunits]; simp))
  case position_of_missing =>
    rw [hdecoded]
    intro found hfound hmissing
    rcases h.short with rfl | hall
    · have hge := h.le_position
      have hle := h.position_le
      rw [List.length_nil] at hlength
      omega
    · obtain ⟨before, after, unit, rfl, rfl⟩ := exists_unit_of_mem hfound
      have hzero := CodeUnit.missing_eq_zero (hall unit (by simp))
      exact absurd hmissing (Nat.not_lt.2 (Nat.le_of_eq hzero))
  case length_items_le =>
    have hcount := h.length_items_le
    have hunits := length_le_length_flatMap units
    omega
  case offset_exact =>
    intro hsize k found hfound
    rw [hdecoded] at hfound ⊢
    obtain ⟨unit, after, hunits, rfl⟩ := exists_unit_of_getElem? hfound
    have hlt := totalSize_lt_of_units h.layout h.complete hunits
    rw [take_decodedFrom, countedBytes_decodedFrom]
    exact UInt32.toNat_ofNat_of_lt' (Nat.lt_of_lt_of_le hlt hsize)
  case offset_ascending =>
    intro hsize
    rw [hdecoded]
    exact (pairwise_offset_decodedFrom units 0 h.complete (by omega)).1

/-- After any number of requests for the next item no lead byte waits and the position is
one of the window. Every operand was taken from inside the window and fits its width, the
offset counts the instructions that were handed out, the position differs from it by the
lead bytes that do not count and the operand bytes that are missing, every item took a
byte, and in a window of at most `2 ^ 32` bytes offsets are exact and ascending. -/
theorem Reader.invariant_pull (window : List UInt8) (count : Nat) :
    (pull window count).2.Invariant window (pull window count).1 := by
  obtain ⟨units, rest, hread⟩ := (progress_pull window count).exists_hasRead
  exact hread.invariant

end CilDisassembly
