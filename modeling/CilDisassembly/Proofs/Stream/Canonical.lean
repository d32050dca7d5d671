import CilDisassembly.Proofs.Stream.Encoding

/-!
# The canonical form of a stream

Different byte streams may hold the same instructions: of several lead bytes only
the last one counts, and operand bytes that are missing at the end count as zero.
The canonical form leaves out the former and puts in the latter.

It is defined by a scan that looks at one byte at a time and knows only whether it
stands in opcode position, behind which lead byte, or how many operand bytes are
still to come (`Place`). The scan does not decode. It brings each unit of a stream
into its canonical form (`canonical_units`), which is the form that the instruction
of the unit is written in; so the canonical form is what two streams with the same
instructions have in common (`encodeAll_decodeAll`).
-/

set_option autoImplicit false

namespace CilDisassembly

/-- The bytes of a list of instructions. -/
def encodeAll (instrs : List Instruction) : List UInt8 :=
  instrs.flatMap Instruction.encode

/-- Where a scan of a stream stands. -/
structure Place where
  /-- The lead byte that was read last, in opcode position. -/
  lead? : Option UInt8
  /-- The number of operand bytes still to come; zero in opcode position. -/
  left : Nat

namespace Place

/-- The place where a stream starts, and where it stands between two units. -/
def start : Place :=
  ⟨none, 0⟩

/-- The place behind one more byte. -/
def next (place : Place) (byte : UInt8) : Place :=
  match place.left with
  | left + 1 => ⟨none, left⟩
  | 0 =>
      if isLeadByte byte then ⟨some byte, 0⟩
      else
        match Catalog.ofKey? (opcodeKey place.lead?.toList byte) with
        | some opcode => ⟨none, opcode.operandWidth⟩
        | none => start

/-- Whether a byte is a lead byte in opcode position that does not count, because
another lead byte follows. -/
def isSuperseded (place : Place) (byte : UInt8) (rest : List UInt8) : Bool :=
  place.left == 0 && isLeadByte byte && rest.head?.any isLeadByte

/-- The bytes from a place on, without the lead bytes that do not count. -/
def withoutSuperseded (place : Place) : List UInt8 → List UInt8
  | [] => []
  | byte :: rest =>
      if place.isSuperseded byte rest then (place.next byte).withoutSuperseded rest
      else byte :: (place.next byte).withoutSuperseded rest

/-- The bytes from a place on in canonical form: lead bytes that do not count are
left out, and operand bytes that are missing at the end are zero. -/
def canonical (place : Place) (bytes : List UInt8) : List UInt8 :=
  place.withoutSuperseded bytes ++ List.replicate (bytes.foldl next place).left 0

end Place

/-- The canonical form of a stream. -/
def canonical (window : List UInt8) : List UInt8 :=
  Place.start.canonical window

/-! ## Units in canonical form -/

namespace CodeUnit

/-- The last lead byte is one of the lead bytes. -/
theorem lastLead_lead (unit : CodeUnit) :
    ∀ lead ∈ unit.leads.getLast?.toList, isLeadByte lead = true := by
  intro lead hlead
  exact unit.leads_lead lead (List.mem_of_getLast? (Option.mem_toList.1 hlead))

/-- The unit that the instruction of a unit is written as. -/
def canonical (unit : CodeUnit) : CodeUnit where
  leads := unit.leads.getLast?.toList
  byte := unit.byte
  opcode := unit.opcode
  operand := unit.operand ++ List.replicate unit.missing 0
  leads_lead := unit.lastLead_lead
  byte_not_lead := unit.byte_not_lead
  key_opcode := by rw [opcodeKey_getLast, unit.key_opcode]
  operand_le := Nat.le_of_eq unit.length_operand_append_missing

theorem isComplete_canonical (unit : CodeUnit) : unit.canonical.IsComplete :=
  unit.length_operand_append_missing

/-- A unit and its canonical form stand for the same instruction. -/
theorem instruction_canonical (unit : CodeUnit) (offset : UInt32) :
    unit.canonical.instruction offset = unit.instruction offset := by
  show Instruction.mk offset unit.opcode unit.opcode.operandWidth
    (UInt64.ofNat (Bytes.toNat (unit.operand ++ List.replicate unit.missing 0))) = _
  rw [Bytes.toNat_append_replicate_zero]
  rfl

end CodeUnit

/-! ## The scan of a unit -/

namespace Place

theorem canonical_nil (place : Place) : place.canonical [] = List.replicate place.left 0 := rfl

/-- A byte that counts is kept. -/
theorem canonical_cons_of_not_superseded {place : Place} {byte : UInt8} {rest : List UInt8}
    (h : place.isSuperseded byte rest = false) :
    place.canonical (byte :: rest) = byte :: (place.next byte).canonical rest := by
  rw [canonical, withoutSuperseded, h, canonical, List.foldl_cons]
  rfl

/-- A lead byte that does not count is left out. -/
theorem canonical_cons_of_superseded {place : Place} {byte : UInt8} {rest : List UInt8}
    (h : place.isSuperseded byte rest = true) :
    place.canonical (byte :: rest) = (place.next byte).canonical rest := by
  rw [canonical, withoutSuperseded, h, canonical, List.foldl_cons]
  rfl

/-- Operand bytes are kept, whatever they look like. -/
theorem canonical_operand {left : Nat} {operand : List UInt8} (rest : List UInt8)
    (h : operand.length ≤ left) :
    (Place.mk none left).canonical (operand ++ rest) =
      operand ++ (Place.mk none (left - operand.length)).canonical rest := by
  induction operand generalizing left with
  | nil => rfl
  | cons byte operand ih =>
      cases left with
      | zero => cases h
      | succ left =>
          rw [List.length_cons] at h
          rw [List.cons_append, canonical_cons_of_not_superseded rfl]
          show byte :: (Place.mk none left).canonical (operand ++ rest) = _
          rw [ih (by omega), List.length_cons, Nat.add_sub_add_right]
          rfl

/-- Of a run of lead bytes the last one is kept. -/
theorem canonical_leads {lead? : Option UInt8} {leads : List UInt8} {byte : UInt8}
    (rest : List UInt8) (hleads : ∀ lead ∈ leads, isLeadByte lead = true)
    (hbyte : isLeadByte byte = false) :
    (Place.mk lead? 0).canonical (leads ++ byte :: rest) =
      leads.getLast?.toList ++
        (Place.mk (leads.getLast?.or lead?) 0).canonical (byte :: rest) := by
  induction leads generalizing lead? with
  | nil => rfl
  | cons lead leads ih =>
      obtain ⟨hlead, hleads⟩ := List.forall_mem_cons.1 hleads
      have hnext : (Place.mk lead? 0).next lead = ⟨some lead, 0⟩ := if_pos hlead
      -- whether another lead byte follows decides if this one is kept
      cases leads with
      | nil =>
          have hkept : (Place.mk lead? 0).isSuperseded lead (byte :: rest) = false := by
            simp [isSuperseded, hbyte]
          rw [List.singleton_append, canonical_cons_of_not_superseded hkept, hnext]
          rfl
      | cons second leads =>
          have hdropped : (Place.mk lead? 0).isSuperseded lead
              (second :: leads ++ byte :: rest) = true := by
            simp [isSuperseded, hlead, hleads second List.mem_cons_self]
          rw [List.cons_append, canonical_cons_of_superseded hdropped, hnext, ih hleads,
            List.getLast?_cons_cons]
          simp [List.getLast?_cons]

/-- The scan brings a unit into its canonical form. -/
theorem canonical_unit (unit : CodeUnit) (rest : List UInt8)
    (h : unit.IsComplete ∨ rest = []) :
    start.canonical (unit.bytes ++ rest) = unit.canonical.bytes ++ start.canonical rest := by
  have hbytes : unit.bytes ++ rest = unit.leads ++ unit.byte :: (unit.operand ++ rest) := by
    simp [CodeUnit.bytes]
  have hkept : (Place.mk unit.leads.getLast? 0).isSuperseded unit.byte
      (unit.operand ++ rest) = false := by
    simp [isSuperseded, unit.byte_not_lead]
  have hnext : (Place.mk unit.leads.getLast? 0).next unit.byte =
      ⟨none, unit.opcode.operandWidth⟩ := by
    simp [next, unit.byte_not_lead, opcodeKey_getLast, unit.key_opcode]
  -- behind the operand either nothing is missing, or nothing follows
  have hend : (Place.mk none unit.missing).canonical rest =
      List.replicate unit.missing 0 ++ start.canonical rest := by
    rcases h with h | rfl
    · have hmissing : unit.missing = 0 := by
        rw [CodeUnit.missing, h, Nat.sub_self]
      rw [hmissing]
      rfl
    · rw [canonical_nil, canonical_nil]
      exact (List.append_nil _).symm
  rw [hbytes, start, canonical_leads _ unit.leads_lead unit.byte_not_lead, Option.or_none,
    canonical_cons_of_not_superseded hkept, hnext, canonical_operand rest unit.operand_le]
  show _ ++ unit.byte :: (unit.operand ++ (Place.mk none unit.missing).canonical rest) = _
  rw [hend]
  simp [start, CodeUnit.bytes, CodeUnit.canonical]

end Place

/-! ## Canonical streams -/

/-- The scan brings all units of a stream into their canonical form. -/
theorem canonical_units (units : List CodeUnit)
    (h : ∀ unit ∈ units.dropLast, unit.IsComplete) :
    canonical (units.flatMap CodeUnit.bytes) =
      (units.map CodeUnit.canonical).flatMap CodeUnit.bytes := by
  induction units with
  | nil => rfl
  | cons unit units ih =>
      rw [List.flatMap_cons, List.map_cons, List.flatMap_cons]
      -- a unit that is cut short is the last one, so nothing follows it
      cases units with
      | nil => exact Place.canonical_unit unit _ (.inr rfl)
      | cons second units =>
          obtain ⟨hunit, hunits⟩ := List.forall_mem_cons.1 h
          rw [← ih hunits]
          exact Place.canonical_unit unit _ (.inl hunit)

/-- The instructions of units are written as the units in canonical form. -/
theorem encodeAll_instructionsOf (units : List CodeUnit) :
    encodeAll (instructionsOf units) =
      (units.map CodeUnit.canonical).flatMap CodeUnit.bytes := by
  have hbytes : (decodedFrom 0 units).map (Instruction.encode ∘ Decoded.instruction) =
      units.map (CodeUnit.bytes ∘ CodeUnit.canonical) :=
    map_decodedFrom (fun unit offset => unit.encode_instruction offset) 0 units
  rw [encodeAll, instructionsOf, List.flatMap_def, List.map_map, hbytes, ← List.map_map,
    ← List.flatMap_def]

/-- Units in canonical form are decoded to the same instructions, at the same
offsets. -/
theorem instructionsOf_map_canonical (units : List CodeUnit) :
    instructionsOf (units.map CodeUnit.canonical) = instructionsOf units := by
  have hall : ∀ offset : UInt32,
      (decodedFrom offset (units.map CodeUnit.canonical)).map Decoded.instruction =
        (decodedFrom offset units).map Decoded.instruction := by
    induction units with
    | nil => intro offset; rfl
    | cons unit units ih =>
        intro offset
        rw [List.map_cons, decodedFrom, List.map_cons, ih, decodedFrom, List.map_cons]
        exact congrArg (· :: _) (unit.instruction_canonical offset)
  exact hall 0

/-- The bytes that decoded instructions are written in are decoded to the same
instructions. -/
theorem decodeAll_encodeAll {window : List UInt8} {instrs : List Instruction}
    (h : decodeAll window = .ok instrs) : decodeAll (encodeAll instrs) = .ok instrs := by
  obtain ⟨units, -, -, rfl⟩ := exists_units_of_decodeAll h
  rw [encodeAll_instructionsOf]
  conv_rhs => rw [← instructionsOf_map_canonical]
  apply decodeAll_units
  intro unit hunit
  obtain ⟨other, -, rfl⟩ := List.mem_map.1 ((List.dropLast_sublist _).mem hunit)
  exact other.isComplete_canonical

/-- Writing decoded instructions gives the canonical form of the window. -/
theorem encodeAll_eq_canonical {window : List UInt8} {instrs : List Instruction}
    (h : decodeAll window = .ok instrs) : encodeAll instrs = canonical window := by
  obtain ⟨units, hunits, rfl, rfl⟩ := exists_units_of_decodeAll h
  rw [encodeAll_instructionsOf, canonical_units units hunits]

/-- The operand bytes of a decoded instruction are there in full, and the instruction
is written as its opcode and these bytes. -/
theorem exists_operandBytes_of_decodeAll {window : List UInt8} {instrs : List Instruction}
    (h : decodeAll window = .ok instrs) :
    ∀ instr ∈ instrs, ∃ operand : List UInt8,
      instr.operandBytes? = some operand ∧ instr.encode = instr.opcode.bytes ++ operand := by
  intro instr hinstr
  obtain ⟨unit, offset, rfl⟩ := exists_unit_of_mem_decodeAll h hinstr
  refine ⟨_, CodeUnit.operandBytes?_instruction .., ?_⟩
  rw [← CodeUnit.ofNat_operand]
  rfl

/-- Decoded instructions are written as opcode and operand bytes. What is written is
the canonical form of the window and is decoded to the very same instructions. Two
windows that can be decoded hold the same instructions exactly when they have the
same canonical form. -/
theorem encodeAll_decodeAll {window : List UInt8} {instrs : List Instruction}
    (h : decodeAll window = .ok instrs) :
    (∀ instr ∈ instrs, ∃ operand : List UInt8,
      instr.operandBytes? = some operand ∧ instr.encode = instr.opcode.bytes ++ operand) ∧
    encodeAll instrs = canonical window ∧
    decodeAll (encodeAll instrs) = .ok instrs ∧
    ∀ (other : List UInt8) (instrs' : List Instruction), decodeAll other = .ok instrs' →
      (instrs' = instrs ↔ canonical other = canonical window) := by
  refine ⟨exists_operandBytes_of_decodeAll h, encodeAll_eq_canonical h,
    decodeAll_encodeAll h, fun other instrs' h' => ⟨?_, ?_⟩⟩
  · rintro rfl
    rw [← encodeAll_eq_canonical h, ← encodeAll_eq_canonical h']
  · intro hcanonical
    -- both lists of instructions are decoded from the one canonical form
    have hround := decodeAll_encodeAll h'
    rw [encodeAll_eq_canonical h', hcanonical, ← encodeAll_eq_canonical h,
      decodeAll_encodeAll h] at hround
    exact (Except.ok.inj hround).symm

/-- A lead byte that does not count, operand bytes that look like lead bytes, and an
operand that is cut short: the first is left out and the last is filled up. -/
theorem encodeAll_decodeAll_cut_short :
    decodeAll [0xF9, 0xFE, 0x0C, 0xFE, 0xFE, 0x20, 0x07] =
      .ok [⟨0, ⟨"ldloc", 0xFE0C, .inlineVar⟩, 2, 0xFEFE⟩,
        ⟨4, ⟨"ldc.i4", 0x20, .inlineI⟩, 4, 7⟩] ∧
    encodeAll [⟨0, ⟨"ldloc", 0xFE0C, .inlineVar⟩, 2, 0xFEFE⟩,
        ⟨4, ⟨"ldc.i4", 0x20, .inlineI⟩, 4, 7⟩] =
      canonical [0xF9, 0xFE, 0x0C, 0xFE, 0xFE, 0x20, 0x07] ∧
    canonical [0xF9, 0xFE, 0x0C, 0xFE, 0xFE, 0x20, 0x07] =
      [0xFE, 0x0C, 0xFE, 0xFE, 0x20, 0x07, 0, 0, 0] ∧
    decodeAll [0xFE, 0x0C, 0xFE, 0xFE, 0x20, 0x07, 0, 0, 0] =
      .ok [⟨0, ⟨"ldloc", 0xFE0C, .inlineVar⟩, 2, 0xFEFE⟩,
        ⟨4, ⟨"ldc.i4", 0x20, .inlineI⟩, 4, 7⟩] := by
  have h : decodeAll [0xF9, 0xFE, 0x0C, 0xFE, 0xFE, 0x20, 0x07] =
      .ok [⟨0, ⟨"ldloc", 0xFE0C, .inlineVar⟩, 2, 0xFEFE⟩,
        ⟨4, ⟨"ldc.i4", 0x20, .inlineI⟩, 4, 7⟩] := by
    decide +kernel
  have hcanonical : canonical [0xF9, 0xFE, 0x0C, 0xFE, 0xFE, 0x20, 0x07] =
      [0xFE, 0x0C, 0xFE, 0xFE, 0x20, 0x07, 0, 0, 0] := by
    decide +kernel
  obtain ⟨-, hencode, hdecode, -⟩ := encodeAll_decodeAll h
  refine ⟨h, hencode, hcanonical, ?_⟩
  rw [hencode, hcanonical] at hdecode
  exact hdecode

end CilDisassembly
