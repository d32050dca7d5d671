import CilDisassembly.Instruction
import Mathlib.Algebra.Order.Ring.Nat
import Mathlib.Algebra.Ring.Int.Defs
import Mathlib.Data.Set.Function

/-!
# The arithmetic of branches

A branch goes to the offset just past it, moved by a displacement. The displacement is the
signed value of the low bits of the operand: of eight bits for a short branch, of 32 for a long
one. How many bits count is fixed by the opcode; the operand width that an instruction was given
by hand moves its end only.

Everything follows from one equation (`Instruction.branchTarget?_eq_some_iff`): the branch goes
to an offset if and only if the signed distance from its end to that offset is the signed value
of the bits that count. Offsets that wrap around need no case of their own, because the distance
wraps around with them. So the target is a sum modulo `2 ^ 32`
(`Instruction.toNat_of_branchTarget?`), and operands are in bijection with the targets in reach
(`Instruction.bijOn_branchTarget?`), in both forms.
-/

set_option autoImplicit false

namespace CilDisassembly

/-- The low bits of an operand have the same signed value whether the operand is read as a
signed or as an unsigned number. -/
theorem bmod_toInt64 (operand : UInt64) {bits : Nat} (h : bits ≤ 64) :
    operand.toInt64.toInt.bmod (2 ^ bits) = (operand.toNat : Int).bmod (2 ^ bits) := by
  have hsigned : operand.toInt64.toInt = (operand.toNat : Int).bmod (2 ^ 64) :=
    operand.toBitVec.toInt_eq_toNat_bmod
  rw [hsigned, Int.bmod_bmod_of_dvd (Nat.pow_dvd_pow 2 h)]

/-- Words with the same signed value are equal. -/
theorem toInt32_toInt_injective {a b : UInt32} (h : a.toInt32.toInt = b.toInt32.toInt) :
    a = b := by
  have hword := congrArg Int32.toUInt32 (Int32.toInt_inj.1 h)
  rw [UInt32.toUInt32_toInt32, UInt32.toUInt32_toInt32] at hword
  exact hword

/-- Numbers have the same signed remainder if and only if they have the same remainder. -/
theorem bmod_natCast_eq_iff {a b m : Nat} :
    (a : Int).bmod m = (b : Int).bmod m ↔ a % m = b % m := by
  constructor
  · intro h
    have hmod := congrArg (fun value : Int => value % (m : Int)) h
    rw [Int.bmod_emod, Int.bmod_emod] at hmod
    exact_mod_cast hmod
  · intro h
    rw [← Int.emod_bmod (a : Int), ← Int.emod_bmod (b : Int), ← Int.natCast_emod,
      ← Int.natCast_emod, h]

namespace Instruction

/-- The same instruction with another operand. -/
def withOperand (instr : Instruction) (operand : UInt64) : Instruction :=
  { instr with operand }

/-- The number of operand bits that count for a branch. -/
def displacementBits (instr : Instruction) : Nat :=
  8 * instr.opcode.operandWidth

/-- The signed distance from the end of an instruction to an offset. -/
def distance (instr : Instruction) (target : UInt32) : Int :=
  (target - instr.endOffset).toInt32.toInt

@[simp] theorem isBranch_withOperand (instr : Instruction) (operand : UInt64) :
    (instr.withOperand operand).isBranch = instr.isBranch := rfl

@[simp] theorem displacementBits_withOperand (instr : Instruction) (operand : UInt64) :
    (instr.withOperand operand).displacementBits = instr.displacementBits := rfl

@[simp] theorem operandValue_withOperand (instr : Instruction) (operand : UInt64) :
    (instr.withOperand operand).operandValue = operand.toInt64.toInt := rfl

@[simp] theorem distance_withOperand (instr : Instruction) (operand : UInt64)
    (target : UInt32) :
    (instr.withOperand operand).distance target = instr.distance target := rfl

variable {instr : Instruction}

theorem displacementBits_le (instr : Instruction) : instr.displacementBits ≤ 64 := by
  have hwidth := instr.opcode.operand.width_le
  rw [displacementBits, Opcode.operandWidth]
  omega

theorem distance_eq_bmod (instr : Instruction) (target : UInt32) :
    instr.distance target = ((target - instr.endOffset).toNat : Int).bmod (2 ^ 32) :=
  (target - instr.endOffset).toBitVec.toInt_eq_toNat_bmod

/-! ## Displacements -/

/-- The displacement of a branch is the signed value of the operand bits that count. -/
theorem exists_displacement? (h : instr.isBranch = true) :
    ∃ displacement : UInt32, instr.displacement? = some displacement ∧
      displacement.toInt32.toInt = instr.operandValue.bmod (2 ^ instr.displacementBits) := by
  rw [operandValue, bmod_toInt64 _ instr.displacementBits_le, displacementBits,
    Opcode.operandWidth, displacement?]
  rw [isBranch] at h
  cases hkind : instr.opcode.operand with
  | shortInlineBrTarget =>
      refine ⟨_, rfl, ?_⟩
      rw [Int32.toInt32_toUInt32, Int8.toInt_toInt32]
      exact BitVec.toInt_setWidth instr.operand.toBitVec
  | inlineBrTarget => exact ⟨_, rfl, BitVec.toInt_setWidth instr.operand.toBitVec⟩
  | _ =>
      rw [hkind] at h
      cases h

/-- A branch goes to an offset if and only if the distance to it is the signed value of the
operand bits that count. -/
theorem branchTarget?_eq_some_iff (h : instr.isBranch = true) {target : UInt32} :
    instr.branchTarget? = some target ↔
      instr.distance target = instr.operandValue.bmod (2 ^ instr.displacementBits) := by
  obtain ⟨displacement, hdisplacement, hvalue⟩ := exists_displacement? h
  rw [branchTarget?, hdisplacement, Option.map_some, Option.some.injEq, ← hvalue, distance]
  constructor
  · rintro rfl
    rw [UInt32.add_comm, UInt32.add_sub_cancel]
  · intro heq
    rw [← toInt32_toInt_injective heq, UInt32.add_comm, UInt32.sub_add_cancel]

/-- A branch has a target, whatever its operand is. -/
theorem exists_branchTarget? (h : instr.isBranch = true) (operand : UInt64) :
    ∃ target : UInt32, (instr.withOperand operand).branchTarget? = some target := by
  rw [← isBranch_withOperand instr operand, ← isSome_branchTarget?] at h
  exact Option.isSome_iff_exists.1 h

/-- The target of a branch is the sum of offset, size and displacement, modulo `2 ^ 32`. -/
theorem toNat_of_branchTarget? (h : instr.isBranch = true) {target : UInt32}
    (htarget : instr.branchTarget? = some target) :
    (target.toNat : Int) =
      (instr.offset.toNat + instr.byteSize +
        instr.operandValue.bmod (2 ^ instr.displacementBits)) % 2 ^ 32 := by
  have hdistance := (branchTarget?_eq_some_iff h).1 htarget
  have hend : instr.endOffset.toNat = (instr.offset.toNat + instr.byteSize) % 2 ^ 32 := by
    rw [endOffset, UInt32.toNat_add, UInt32.toNat_ofNat', Nat.add_mod_mod]
  have hword : (target - instr.endOffset).toNat =
      (2 ^ 32 - instr.endOffset.toNat + target.toNat) % 2 ^ 32 := UInt32.toNat_sub ..
  have hmod : instr.distance target % 2 ^ 32 =
      ((target - instr.endOffset).toNat : Int) % 2 ^ 32 := by
    rw [distance_eq_bmod]
    exact Int.bmod_emod
  have hlt := target.toNat_lt
  rw [← hdistance]
  omega

/-! ## Operands and targets -/

/-- The same for an instruction that is given another operand, which is read without a sign. -/
theorem branchTarget?_withOperand_eq_some_iff (h : instr.isBranch = true) {operand : UInt64}
    {target : UInt32} :
    (instr.withOperand operand).branchTarget? = some target ↔
      instr.distance target = (operand.toNat : Int).bmod (2 ^ instr.displacementBits) := by
  have hbranch : (instr.withOperand operand).isBranch = true := h
  rw [branchTarget?_eq_some_iff hbranch, distance_withOperand, operandValue_withOperand,
    displacementBits_withOperand, bmod_toInt64 operand instr.displacementBits_le]

/-- Operand bits above those that count have no effect. -/
theorem branchTarget?_eq_of_mod_eq (h : instr.isBranch = true) {a b : UInt64}
    (hmod : a.toNat % 2 ^ instr.displacementBits = b.toNat % 2 ^ instr.displacementBits) :
    (instr.withOperand a).branchTarget? = (instr.withOperand b).branchTarget? := by
  apply Option.ext
  intro target
  rw [branchTarget?_withOperand_eq_some_iff h, branchTarget?_withOperand_eq_some_iff h,
    bmod_natCast_eq_iff.2 hmod]

/-- The offsets whose distance from the end of an instruction is a signed value of the bits that
count: nothing is lost of the distance if no other bits are kept. -/
def reach (instr : Instruction) : Set UInt32 :=
  {target | (instr.distance target).bmod (2 ^ instr.displacementBits) = instr.distance target}

theorem mem_reach {target : UInt32} :
    target ∈ instr.reach ↔
      (instr.distance target).bmod (2 ^ instr.displacementBits) = instr.distance target :=
  Iff.rfl

/-- Every offset in reach is the target for some operand that has no other bits than those that
count. -/
theorem exists_operand_of_mem_reach (h : instr.isBranch = true) {target : UInt32}
    (htarget : target ∈ instr.reach) :
    ∃ operand : UInt64, operand.toNat < 2 ^ instr.displacementBits ∧
      (instr.withOperand operand).branchTarget? = some target := by
  have hpos : (0 : Int) < (2 ^ instr.displacementBits : Nat) :=
    Int.natCast_pos.2 (Nat.two_pow_pos _)
  have hnonneg := Int.emod_nonneg (instr.distance target) (Int.ne_of_gt hpos)
  have hlt := Int.emod_lt_of_pos (instr.distance target) hpos
  obtain ⟨value, hvalue⟩ := Int.eq_ofNat_of_zero_le hnonneg
  have hbelow : value < 2 ^ instr.displacementBits := by
    rw [hvalue] at hlt
    exact Int.ofNat_lt.1 hlt
  have hword : (UInt64.ofNat value).toNat = value := UInt64.toNat_ofNat_of_lt'
    (Nat.lt_of_lt_of_le hbelow (Nat.pow_le_pow_right (by decide) instr.displacementBits_le))
  refine ⟨UInt64.ofNat value, ?_, ?_⟩
  · rw [hword]
    exact hbelow
  · rw [branchTarget?_withOperand_eq_some_iff h, hword, ← hvalue, Int.emod_bmod]
    exact (mem_reach.1 htarget).symm

/-- The operands that have no other bits than those that count, and the offsets in reach, are in
bijection. -/
theorem bijOn_branchTarget? (h : instr.isBranch = true) :
    Set.BijOn (fun operand => (instr.withOperand operand).branchTarget?)
      {operand | operand.toNat < 2 ^ instr.displacementBits} (some '' instr.reach) := by
  refine ⟨?_, ?_, ?_⟩
  · intro operand hoperand
    obtain ⟨target, htarget⟩ := exists_branchTarget? h operand
    have hdistance := (branchTarget?_withOperand_eq_some_iff h).1 htarget
    refine ⟨target, mem_reach.2 ?_, htarget.symm⟩
    rw [hdistance, Int.bmod_bmod]
  · intro a ha b hb heq
    obtain ⟨target, htarget⟩ := exists_branchTarget? h a
    have hdistance := (branchTarget?_withOperand_eq_some_iff h).1 htarget
    have hdistance' := (branchTarget?_withOperand_eq_some_iff h).1 (heq.symm.trans htarget)
    have hmod := bmod_natCast_eq_iff.1 (hdistance.symm.trans hdistance')
    rw [Nat.mod_eq_of_lt ha, Nat.mod_eq_of_lt hb] at hmod
    exact UInt64.toNat_inj.1 hmod
  · rintro - ⟨target, htarget, rfl⟩
    exact exists_operand_of_mem_reach h htarget

/-! ## Short and long branches -/

theorem displacementBits_of_short (h : instr.opcode.operand = .shortInlineBrTarget) :
    instr.displacementBits = 8 := by
  rw [displacementBits, Opcode.operandWidth, h]
  rfl

theorem displacementBits_of_long (h : instr.opcode.operand = .inlineBrTarget) :
    instr.displacementBits = 32 := by
  rw [displacementBits, Opcode.operandWidth, h]
  rfl

/-- A short branch reaches from 128 bytes before its end to 127 bytes behind it. -/
theorem reach_of_short (h : instr.opcode.operand = .shortInlineBrTarget) :
    instr.reach = {target | (target - instr.endOffset).toNat < 128 ∨
      2 ^ 32 - 128 ≤ (target - instr.endOffset).toNat} := by
  ext target
  have hlt := (target - instr.endOffset).toNat_lt
  rw [mem_reach, displacementBits_of_short h, distance_eq_bmod, Int.bmod_def, Int.bmod_def,
    Set.mem_ofPred_eq]
  omega

/-- A long branch reaches every offset. -/
theorem reach_of_long (h : instr.opcode.operand = .inlineBrTarget) :
    instr.reach = Set.univ := by
  apply Set.eq_univ_of_forall
  intro target
  rw [mem_reach, displacementBits_of_long h, distance_eq_bmod, Int.bmod_bmod]

/-- The targets of a branch for all of its operands, in terms of the operand bits that count. -/
theorem branchTarget?_withOperand (h : instr.isBranch = true) :
    (∀ operand : UInt64, ∃ target : UInt32,
      (instr.withOperand operand).branchTarget? = some target ∧
      (target.toNat : Int) =
        (instr.offset.toNat + instr.byteSize +
          operand.toInt64.toInt.bmod (2 ^ instr.displacementBits)) % 2 ^ 32) ∧
    (∀ a b : UInt64,
      a.toNat % 2 ^ instr.displacementBits = b.toNat % 2 ^ instr.displacementBits →
      (instr.withOperand a).branchTarget? = (instr.withOperand b).branchTarget?) ∧
    Set.BijOn (fun operand => (instr.withOperand operand).branchTarget?)
      {operand | operand.toNat < 2 ^ instr.displacementBits} (some '' instr.reach) := by
  refine ⟨?_, fun a b => branchTarget?_eq_of_mod_eq h, bijOn_branchTarget? h⟩
  intro operand
  obtain ⟨target, htarget⟩ := exists_branchTarget? h operand
  have hbranch : (instr.withOperand operand).isBranch = true := h
  exact ⟨target, htarget, toNat_of_branchTarget? hbranch htarget⟩

/-- The target of a branch is the sum of its offset, its size and the signed value of the low
operand bits, eight for a short branch and 32 for a long one, modulo `2 ^ 32`; higher bits have
no effect. For a long branch, operands of 32 bits and targets are in bijection. For a short one,
operands of eight bits are in bijection with the targets from 128 bytes before the end of the
instruction to 127 bytes behind it. -/
theorem branchTarget?_arithmetic (instr : Instruction) :
    (instr.opcode.operand = .shortInlineBrTarget →
      (∀ operand : UInt64, ∃ target : UInt32,
        (instr.withOperand operand).branchTarget? = some target ∧
        (target.toNat : Int) =
          (instr.offset.toNat + instr.byteSize + operand.toInt64.toInt.bmod (2 ^ 8)) % 2 ^ 32) ∧
      (∀ a b : UInt64, a.toNat % 2 ^ 8 = b.toNat % 2 ^ 8 →
        (instr.withOperand a).branchTarget? = (instr.withOperand b).branchTarget?) ∧
      Set.BijOn (fun operand => (instr.withOperand operand).branchTarget?)
        {operand | operand.toNat < 2 ^ 8}
        (some '' {target | (target - instr.endOffset).toNat < 128 ∨
          2 ^ 32 - 128 ≤ (target - instr.endOffset).toNat})) ∧
    (instr.opcode.operand = .inlineBrTarget →
      (∀ operand : UInt64, ∃ target : UInt32,
        (instr.withOperand operand).branchTarget? = some target ∧
        (target.toNat : Int) =
          (instr.offset.toNat + instr.byteSize + operand.toInt64.toInt.bmod (2 ^ 32)) %
            2 ^ 32) ∧
      (∀ a b : UInt64, a.toNat % 2 ^ 32 = b.toNat % 2 ^ 32 →
        (instr.withOperand a).branchTarget? = (instr.withOperand b).branchTarget?) ∧
      Set.BijOn (fun operand => (instr.withOperand operand).branchTarget?)
        {operand | operand.toNat < 2 ^ 32} (some '' Set.univ)) := by
  constructor
  · intro hkind
    have hbranch : instr.isBranch = true := by rw [isBranch, hkind]; rfl
    have htargets := branchTarget?_withOperand hbranch
    rw [reach_of_short hkind, displacementBits_of_short hkind] at htargets
    exact htargets
  · intro hkind
    have hbranch : instr.isBranch = true := by rw [isBranch, hkind]; rfl
    have htargets := branchTarget?_withOperand hbranch
    rw [reach_of_long hkind, displacementBits_of_long hkind] at htargets
    exact htargets

/-- A short branch from near the start of a stream to near the end of the offsets, with and
without higher bits, and the limits of its reach; and a long branch that was given an operand
width of two bytes, past the end of the offsets. -/
theorem branchTarget?_arithmetic_wraps :
    let short : Instruction := ⟨1, ⟨"blt.s", 0x32, .shortInlineBrTarget⟩, 1, 0⟩
    let long : Instruction := ⟨0xFFFFFFFC, ⟨"br", 0x38, .inlineBrTarget⟩, 2, 0⟩
    short.opcode.operand = .shortInlineBrTarget ∧ long.opcode.operand = .inlineBrTarget ∧
    (short.withOperand 0xF1).branchTarget? = some 0xFFFFFFF4 ∧
    (short.withOperand 0x80000000000012F1).branchTarget? = some 0xFFFFFFF4 ∧
    (∃ operand : UInt64, operand.toNat < 2 ^ 8 ∧
      (short.withOperand operand).branchTarget? = some 130) ∧
    (∀ operand : UInt64, operand.toNat < 2 ^ 8 →
      (short.withOperand operand).branchTarget? ≠ some 131) ∧
    ∃ operand : UInt64, operand.toNat < 2 ^ 32 ∧
      (long.withOperand operand).branchTarget? = some 7 := by
  intro short long
  obtain ⟨hshort, -⟩ := branchTarget?_arithmetic short
  obtain ⟨-, hhigh, hinto, -, honto⟩ := hshort rfl
  obtain ⟨-, hlong⟩ := branchTarget?_arithmetic long
  obtain ⟨-, -, -, -, honto'⟩ := hlong rfl
  have hback : (short.withOperand 0xF1).branchTarget? = some 0xFFFFFFF4 := by decide
  refine ⟨rfl, rfl, hback, (hhigh 0x80000000000012F1 0xF1 (by decide)).trans hback, ?_, ?_, ?_⟩
  · exact honto ⟨130, by decide, rfl⟩
  · intro operand hoperand htarget
    obtain ⟨target, hreach, heq⟩ := hinto hoperand
    obtain rfl := Option.some.inj (heq.trans htarget)
    exact absurd hreach (by decide)
  · exact honto' ⟨7, trivial, rfl⟩

end Instruction

end CilDisassembly
