import CilDisassembly.Proofs.Stream.Encoding

/-!
# Offsets without wrap-around

Offsets are 32-bit words, and lead bytes that do not count make the offset of an
instruction smaller than its position. In a window of at most `2 ^ 32` bytes the
offsets never wrap around and are strictly ascending (`pairwise_offset_of_decodeAll`),
although the size of a last instruction that is cut short may reach past the end.
-/

set_option autoImplicit false

namespace CilDisassembly

/-- A complete unit counts for no more bytes than it has. -/
theorem CodeUnit.byteSize_le_length {unit : CodeUnit} (h : unit.IsComplete) :
    unit.byteSize ≤ unit.bytes.length := by
  have hsize := unit.size_opcode_le
  rw [unit.length_bytes, byteSize, h]
  omega

/-- Units that stand one after the other from `base` on, in a stream of at most
`2 ^ 32` bytes, have ascending offsets, none of them below `base`. -/
theorem pairwise_offset_decodedFrom (units : List CodeUnit) (base : Nat)
    (hunits : ∀ unit ∈ units.dropLast, unit.IsComplete)
    (hlength : base + (units.flatMap CodeUnit.bytes).length ≤ 2 ^ 32) :
    ((decodedFrom (UInt32.ofNat base) units).map
        (fun found => found.instruction.offset)).Pairwise (· < ·) ∧
      ∀ found ∈ decodedFrom (UInt32.ofNat base) units,
        base ≤ found.instruction.offset.toNat := by
  -- the base is a natural number here: only the bound on the bytes keeps it from wrapping
  induction units generalizing base with
  | nil => exact ⟨.nil, by simp [decodedFrom]⟩
  | cons unit units ih =>
      rw [List.flatMap_cons, List.length_append] at hlength
      have hpos := unit.length_bytes
      have hbase : (UInt32.ofNat base).toNat = base := UInt32.toNat_ofNat_of_lt' (by
        show base < 2 ^ 32
        omega)
      cases units with
      | nil =>
          refine ⟨List.pairwise_singleton _ _, ?_⟩
          intro found hfound
          rw [List.mem_singleton.1 hfound]
          exact Nat.le_of_eq hbase.symm
      | cons second rest =>
          obtain ⟨hunit, hrest⟩ := List.forall_mem_cons.1 hunits
          have hsize := unit.byteSize_le_length hunit
          have hone := (unit.instruction 0).byteSize_pos
          rw [CodeUnit.byteSize_instruction] at hone
          obtain ⟨hpairwise, hle⟩ := ih (base + unit.byteSize) hrest (by omega)
          -- the offsets behind the first unit start at its end, which is above it
          rw [UInt32.ofNat_add] at hpairwise hle
          rw [decodedFrom]
          refine ⟨List.pairwise_cons.2 ⟨?_, hpairwise⟩, List.forall_mem_cons.2 ⟨?_, ?_⟩⟩
          · intro offset hoffset
            obtain ⟨found, hfound, rfl⟩ := List.mem_map.1 hoffset
            have hbelow := hle found hfound
            rw [UInt32.lt_iff_toNat_lt]
            show (UInt32.ofNat base).toNat < _
            omega
          · exact Nat.le_of_eq hbase.symm
          · intro found hfound
            have hbelow := hle found hfound
            omega

/-- The offsets of the instructions of a window of at most `2 ^ 32` bytes are strictly
ascending. -/
theorem pairwise_offset_of_decodeAll {window : List UInt8} {instrs : List Instruction}
    (h : decodeAll window = .ok instrs) (hlength : window.length ≤ 2 ^ 32) :
    (instrs.map Instruction.offset).Pairwise (· < ·) := by
  obtain ⟨units, hunits, rfl, rfl⟩ := exists_units_of_decodeAll h
  have hpairwise := (pairwise_offset_decodedFrom units 0 hunits (by omega)).1
  rw [instructionsOf, List.map_map]
  exact hpairwise

end CilDisassembly
