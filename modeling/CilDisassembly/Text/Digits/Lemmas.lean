import CilDisassembly.Text.Digits
import Mathlib.Algebra.Order.Ring.Nat

/-!
# Widths of written numbers

A number that fits the width it is padded to takes exactly that width
(`Hex.length_padded_of_lt`). Different numbers have different decimal texts
(`Decimal.ofInt_injective`).
-/

set_option autoImplicit false

namespace CilDisassembly

namespace Hex

/-- A number below `16 ^ width` is written in exactly `width` digits. -/
theorem length_padded_of_lt {width n : Nat} (hpos : 0 < width) (h : n < 16 ^ width) :
    (padded width n).length = width := by
  have hle : (digits n).length ≤ width :=
    (Nat.length_toDigits_le_iff (by decide) hpos).2 h
  rw [length_padded]
  omega

end Hex

namespace Decimal

theorem ofNat_injective {a b : Nat} (h : ofNat a = ofNat b) : a = b := by
  have ha : Nat.ofDigitChars 10 (ofNat a) 0 = a := Nat.ofDigitChars_ten_toDigits
  have hb : Nat.ofDigitChars 10 (ofNat b) 0 = b := Nat.ofDigitChars_ten_toDigits
  rw [← ha, h, hb]

/-- The digits of a number do not start with a minus sign. -/
theorem ofNat_ne_minus (a : Nat) (text : Text) : ofNat a ≠ '-' :: text := by
  intro h
  have hmem : '-' ∈ ofNat a := by
    rw [h]
    exact List.mem_cons_self
  have hdigit := Nat.isDigit_of_mem_toDigits (by decide) (by decide) hmem
  revert hdigit
  decide

/-- Different numbers have different decimal texts. -/
theorem ofInt_injective {a b : Int} (h : ofInt a = ofInt b) : a = b := by
  cases a with
  | ofNat a =>
      cases b with
      | ofNat b => rw [ofNat_injective h]
      | negSucc b => exact absurd h (ofNat_ne_minus a _)
  | negSucc a =>
      cases b with
      | ofNat b => exact absurd h.symm (ofNat_ne_minus b _)
      | negSucc b =>
          have hdigits := ofNat_injective (List.cons.inj h).2
          rw [Nat.succ.inj hdigits]

end Decimal

end CilDisassembly
