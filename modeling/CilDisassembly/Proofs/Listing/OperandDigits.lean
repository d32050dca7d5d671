import CilDisassembly.Listing.Line
import CilDisassembly.Proofs.Stream.WellFormed
import CilDisassembly.Stream.Reader
import CilDisassembly.Text.Digits.Lemmas

/-!
# The operand in the bytes comment

The bytes comment shows an operand as one number, padded to two digits for each operand byte. The
bytes of the operand can be read off these digits exactly if the operand fits its width
(`Instruction.operandDigits_eq_iff`). An operand that does not fit, such as a negative number that
was put into an instruction by hand, is shown with more digits than its bytes have: padding never
cuts a number.

A reader hands out no such instruction (`Reader.isWellFormed_of_next`). It takes the missing high
bits of an operand to be zero and does not extend a sign, so that the operand fits the bytes it
was read from.
-/

set_option autoImplicit false

namespace CilDisassembly

/-! ## Digits of bytes -/

namespace Hex

/-- The digits of bytes, two for each of them. -/
def ofBytes (bytes : List UInt8) : Text :=
  bytes.flatMap (fun byte => padded 2 byte.toNat)

theorem ofBytes_concat (bytes : List UInt8) (byte : UInt8) :
    ofBytes (bytes ++ [byte]) = ofBytes bytes ++ padded 2 byte.toNat := by
  simp [ofBytes]

theorem length_padded_byte (byte : UInt8) : (padded 2 byte.toNat).length = 2 :=
  length_padded_of_lt (by decide) byte.toNat_lt

theorem length_ofBytes (bytes : List UInt8) : (ofBytes bytes).length = 2 * bytes.length := by
  induction bytes with
  | nil => rfl
  | cons byte bytes ih =>
      rw [ofBytes] at ih ⊢
      rw [List.flatMap_cons, List.length_append, length_padded_byte, ih, List.length_cons]
      omega

theorem digits_of_lt {d : Nat} (h : d < 16) : digits d = [d.digitChar] :=
  Nat.toDigits_of_lt_base h

/-- The last digit of a padded number is its remainder by 16. -/
theorem padded_concat_digit {width n d : Nat} (hwidth : 0 < width) (hd : d < 16) :
    padded (width + 1) (16 * n + d) = padded width n ++ digits d := by
  rw [padded, padded, List.leftpad, List.leftpad]
  rcases Nat.eq_zero_or_pos n with rfl | hn
  · -- zero has a digit of its own, which takes the place of one that pads
    obtain ⟨width, rfl⟩ := Nat.exists_eq_succ_of_ne_zero (Nat.ne_of_gt hwidth)
    have hzero : digits 0 = ['0'] := rfl
    simp [hzero, digits_of_lt hd, List.replicate_succ']
  · have hdigits : digits (16 * n + d) = digits n ++ digits d :=
      (Nat.toDigits_append_toDigits (by decide) hn hd).symm
    have hlength : width + 1 - (digits n ++ digits d).length = width - (digits n).length := by
      rw [List.length_append, digits_of_lt hd, List.length_singleton, Nat.add_sub_add_right]
    rw [hdigits, hlength, List.append_assoc]

/-- The last two digits of a padded number are its remainder by 256. -/
theorem padded_concat_byte {width n : Nat} (hwidth : 0 < width) (byte : UInt8) :
    padded (width + 2) (256 * n + byte.toNat) = padded width n ++ padded 2 byte.toNat := by
  have hhigh : byte.toNat / 16 < 16 := by
    have := byte.toNat_lt
    omega
  have hlow : byte.toNat % 16 < 16 := Nat.mod_lt _ (by decide)
  have hsplit : 16 * (byte.toNat / 16) + byte.toNat % 16 = byte.toNat := Nat.div_add_mod ..
  have hnumber : 16 * (16 * n + byte.toNat / 16) + byte.toNat % 16 = 256 * n + byte.toNat := by
    omega
  have hone : padded 1 (byte.toNat / 16) = digits (byte.toNat / 16) := by
    rw [padded, digits_of_lt hhigh]
    rfl
  have hbyte := padded_concat_digit (n := byte.toNat / 16) (by decide : 0 < 1) hlow
  rw [hsplit, hone] at hbyte
  rw [← hnumber, padded_concat_digit (Nat.succ_pos width) hlow, padded_concat_digit hwidth hhigh,
    hbyte, List.append_assoc]

/-- The digits of bytes, the highest byte first, are the digits of the number that they store. -/
theorem ofBytes_reverse {bytes : List UInt8} (h : bytes ≠ []) :
    ofBytes bytes.reverse = padded (2 * bytes.length) (Bytes.toNat bytes) := by
  induction bytes with
  | nil => exact absurd rfl h
  | cons byte rest ih =>
      rw [List.reverse_cons, ofBytes_concat]
      cases rest with
      | nil => rfl
      | cons second rest =>
          rw [ih (List.cons_ne_nil _ _), ← padded_concat_byte (by simp) byte,
            Bytes.toNat_cons byte, Nat.add_comm byte.toNat]
          rfl

end Hex

/-! ## The digits of an operand -/

namespace Instruction

variable {instr : Instruction}

/-- The operand is the last word of a comment. -/
theorem bytesComment_of_operand {options : Options}
    (hoptions : options.contains .bytesComment = true) (hwidth : 0 < instr.operandWidth) :
    instr.bytesComment options =
      "\t// 0x".toList ++ Hex.padded (2 * instr.opcode.size) instr.opcode.value.toNat ++
        " 0x".toList ++ instr.operandDigits := by
  rw [bytesComment, if_pos hoptions, if_neg (Nat.ne_of_gt hwidth),
    List.append_assoc _ " 0x".toList]

/-- A number below this bound fits the operand bytes. -/
theorem two_pow_operandWidth (instr : Instruction) :
    2 ^ (8 * instr.operandWidth) = 256 ^ instr.operandWidth :=
  pow_mul 2 8 _

/-- Padding never cuts an operand. -/
theorem le_length_operandDigits (instr : Instruction) :
    2 * instr.operandWidth ≤ instr.operandDigits.length := by
  rw [operandDigits, Hex.length_padded]
  exact Nat.le_max_left ..

/-- The operand bits are the signed operand modulo `2 ^ 64`. -/
theorem operandValue_emod (instr : Instruction) :
    instr.operandValue % 2 ^ 64 = instr.operand.toNat := by
  have hvalue : instr.operandValue = (instr.operand.toNat : Int).bmod (2 ^ 64) :=
    instr.operand.toBitVec.toInt_eq_toNat_bmod
  have hmod : instr.operandValue % (2 ^ 64 : Nat) = instr.operand.toNat % (2 ^ 64 : Nat) := by
    rw [hvalue, Int.bmod_emod]
  have hlt := instr.operand.toNat_lt
  omega

/-- The digits of an operand are those of its bytes exactly if the operand fits its width. -/
theorem operandDigits_eq_iff (hwidth : 0 < instr.operandWidth) :
    instr.operandDigits =
        Hex.ofBytes (Bytes.ofNat instr.operandWidth instr.operand.toNat).reverse ↔
      instr.operand.toNat < 2 ^ (8 * instr.operandWidth) := by
  have hbytes : Bytes.ofNat instr.operandWidth instr.operand.toNat ≠ [] := by
    rw [← List.length_pos_iff, Bytes.length_ofNat]
    exact hwidth
  rw [operandDigits, Hex.ofBytes_reverse hbytes, Bytes.length_ofNat, Bytes.toNat_ofNat,
    instr.two_pow_operandWidth]
  constructor
  · intro h
    rw [Hex.padded_injective h]
    exact Nat.mod_lt _ (Nat.pow_pos (by decide))
  · intro h
    rw [Nat.mod_eq_of_lt h]

end Instruction

/-! ## What readers hand out -/

namespace Reader

variable {reader after : Reader} {found : Decoded}

theorem length_operandBytes_le (reader : Reader) (width : Nat) :
    (reader.operandBytes width).length ≤ width := by
  rw [operandBytes, List.length_take]
  omega

/-- An operand is stored in the bytes it was taken from. -/
theorem isWellFormed_of_readOpcode {byte : UInt8}
    (h : reader.readOpcode byte = (some (.ok found), after)) :
    found.instruction.IsWellFormed := by
  unfold readOpcode at h
  dsimp only at h
  split at h
  · cases h
  · next opcode hopcode =>
      cases h
      refine ⟨(Catalog.ofKey?_eq_some_iff.1 hopcode).1, rfl, ?_⟩
      have hstored := Bytes.toNat_lt (reader.operandBytes opcode.operandWidth)
      have hlength := reader.length_operandBytes_le opcode.operandWidth
      have hword := Bytes.packed_eq (Nat.le_trans hlength opcode.operand.width_le)
      show (Bytes.packed (reader.operandBytes opcode.operandWidth)).toNat < _
      rw [hword]
      exact Nat.lt_of_le_of_lt (Nat.mod_le ..)
        (Nat.lt_of_lt_of_le hstored (Nat.pow_le_pow_right (by decide) hlength))

theorem isWellFormed_of_scan (h : reader.scan = (some (.ok found), after)) :
    found.instruction.IsWellFormed := by
  fun_induction scan reader with
  | case1 reader byte hbyte hlead ih => exact ih h
  | case2 reader byte hbyte hlead => exact isWellFormed_of_readOpcode h
  | case3 reader hend lead hlead => cases h
  | case4 reader hend hlead => cases h

/-- Wherever a reader stands, an instruction that it hands out is well-formed. -/
theorem isWellFormed_of_next (h : reader.next = (some (.ok found), after)) :
    found.instruction.IsWellFormed := by
  rw [next] at h
  split at h
  · cases h
  · exact isWellFormed_of_scan h

end Reader

/-- The digits that the bytes comment shows for an operand of one to eight bytes are read back as
the operand, without its sign. There are at least two for each byte, and they are the digits of
the operand bytes, the highest byte first, exactly if the operand fits these bytes. Every operand
that a reader hands out does. -/
theorem bytesComment_operandDigits :
    (∀ instr : Instruction, 1 ≤ instr.operandWidth → instr.operandWidth ≤ 8 →
      ∃ (digits : Text) (bytes : List UInt8),
        (∀ options : Options, options.contains .bytesComment = true →
          instr.bytesComment options =
            "\t// 0x".toList ++ Hex.padded (2 * instr.opcode.size) instr.opcode.value.toNat ++
              " 0x".toList ++ digits) ∧
        instr.operandBytes? = some bytes ∧
        (Hex.ofBytes bytes.reverse).length = 2 * instr.operandWidth ∧
        instr.operandValue % 2 ^ 64 = instr.operand.toNat ∧
        Hex.value? digits = some instr.operand.toNat ∧
        2 * instr.operandWidth ≤ digits.length ∧
        (digits = Hex.ofBytes bytes.reverse ↔
          instr.operand.toNat < 2 ^ (8 * instr.operandWidth))) ∧
    ∀ (reader after : Reader) (found : Decoded), reader.next = (some (.ok found), after) →
      0 < found.instruction.operandWidth →
      found.instruction.operandWidth ≤ 8 ∧
        found.instruction.operand.toNat < 2 ^ (8 * found.instruction.operandWidth) := by
  constructor
  · intro instr hwidth hle
    refine ⟨instr.operandDigits, Bytes.ofNat instr.operandWidth instr.operand.toNat,
      fun options hoptions => Instruction.bytesComment_of_operand hoptions hwidth, if_pos hle, ?_,
      instr.operandValue_emod, Hex.value?_padded .., instr.le_length_operandDigits,
      Instruction.operandDigits_eq_iff hwidth⟩
    rw [Hex.length_ofBytes, List.length_reverse, Bytes.length_ofNat]
  · intro reader after found hnext _
    have hwellFormed := Reader.isWellFormed_of_next hnext
    refine ⟨?_, ?_⟩
    · rw [hwellFormed.operandWidth_eq]
      exact found.instruction.opcode.operand.width_le
    · rw [found.instruction.two_pow_operandWidth]
      exact hwellFormed.operand_lt

/-- A negative operand that was put into an instruction by hand, with an operand width of three
bytes, is shown with more digits than its bytes have. The same opcode with the operand byte of a
negative number, read from a stream, is shown with the two digits of this byte. -/
theorem bytesComment_operandDigits_negative :
    let byHand : Instruction :=
      ⟨0, ⟨"ldc.i4.s", 0x1F, .shortInlineI⟩, 3, 0xFFFFFFFFFFFFFFFE⟩
    let read : Instruction := ⟨0, ⟨"ldc.i4.s", 0x1F, .shortInlineI⟩, 1, 0xFE⟩
    (1 ≤ byHand.operandWidth ∧ byHand.operandWidth ≤ 8) ∧
    byHand.operandValue = -2 ∧ byHand.operandBytes? = some [0xFE, 0xFF, 0xFF] ∧
    (∃ digits : Text,
      byHand.bytesComment .bytesComment = "\t// 0x1f 0x".toList ++ digits ∧
      Hex.value? digits = some 0xFFFFFFFFFFFFFFFE ∧
      digits ≠ Hex.ofBytes [0xFF, 0xFF, 0xFE]) ∧
    (Reader.start [0x1F, 0xFE]).next.1 = some (.ok ⟨read, 1⟩) ∧
    read.operand.toNat < 2 ^ (8 * read.operandWidth) ∧
    read.bytesComment .bytesComment = "\t// 0x1f 0x".toList ++ Hex.ofBytes [0xFE] := by
  intro byHand read
  obtain ⟨hshown, hread⟩ := bytesComment_operandDigits
  have hnext : (Reader.start [0x1F, 0xFE]).next =
      (some (.ok ⟨read, 1⟩), ⟨[0x1F, 0xFE], 2, 2, none, false⟩) := by decide +kernel
  obtain ⟨-, hfits⟩ := hread _ _ _ hnext (by decide)
  obtain ⟨digits, bytes, hcomment, hbytes, -, -, hvalue, -, hiff⟩ :=
    hshown byHand (by decide) (by decide)
  obtain ⟨digits', bytes', hcomment', hbytes', -, -, -, -, hiff'⟩ :=
    hshown read (by decide) (by decide)
  have hbyHand : byHand.operandBytes? = some [0xFE, 0xFF, 0xFF] := by decide
  obtain rfl := Option.some.inj (hbyHand.symm.trans hbytes)
  obtain rfl : [0xFE] = bytes' := Option.some.inj hbytes'
  -- both instructions have the same opcode, which is shown in front of the operand
  have hfront : "\t// 0x".toList ++
      Hex.padded (2 * byHand.opcode.size) byHand.opcode.value.toNat ++ " 0x".toList =
        "\t// 0x1f 0x".toList := by decide
  refine ⟨by decide, by decide, hbytes, ⟨digits, ?_, hvalue, ?_⟩, congrArg Prod.fst hnext, hfits,
    ?_⟩
  · rw [hcomment .bytesComment (by decide), hfront]
  · intro heq
    exact absurd (hiff.1 heq) (by decide)
  · rw [hcomment' .bytesComment (by decide), hfront, hiff'.2 hfits]
    rfl

end CilDisassembly
