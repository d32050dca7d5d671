import CilDisassembly.Text.Digits

/-!
# String literals

A user string is written between double quotes. Line feed, carriage return, tab,
backslash and double quote have an escape of two characters, every other
character below U+0020 is written as `\xHH`, and all else stands for itself. A
literal therefore never breaks a line (`control_not_mem_literal`).
-/

set_option autoImplicit false

namespace CilDisassembly

/-- The written form of one character inside a literal. -/
def escapeChar (c : Char) : Text :=
  if c = '\n' then ['\\', 'n']
  else if c = '\r' then ['\\', 'r']
  else if c = '\t' then ['\\', 't']
  else if c = '\\' then ['\\', '\\']
  else if c = '"' then ['\\', '"']
  else if c.toNat < 0x20 then '\\' :: 'x' :: Hex.paddedUpper 2 c.toNat
  else [c]

/-- The double-quoted literal of a string. -/
def literal (value : String) : Text :=
  '"' :: (value.toList.flatMap escapeChar ++ ['"'])

/-! ## Literals stay on one line -/

/-- The two-digit escapes of the control characters hold no control character. -/
theorem control_not_mem_paddedUpper {n : Nat} (h : n < 0x20) :
    ∀ c ∈ Hex.paddedUpper 2 n, 0x20 ≤ c.toNat := by
  have hall : (List.range 0x20).all (fun k =>
      (Hex.paddedUpper 2 k).all (fun c => decide (0x20 ≤ c.toNat))) = true := by
    decide +kernel
  intro c hc
  have hn := List.all_eq_true.1 hall n (List.mem_range.2 h)
  exact of_decide_eq_true (List.all_eq_true.1 hn c hc)

/-- The written form of a character holds no control character. -/
theorem control_not_mem_escapeChar (c : Char) : ∀ d ∈ escapeChar c, 0x20 ≤ d.toNat := by
  intro d hd
  unfold escapeChar at hd
  repeat' split at hd
  all_goals simp only [List.mem_cons, List.not_mem_nil, or_false] at hd
  · rcases hd with rfl | rfl <;> decide
  · rcases hd with rfl | rfl <;> decide
  · rcases hd with rfl | rfl <;> decide
  · rcases hd with rfl | rfl <;> decide
  · rcases hd with rfl | rfl <;> decide
  · -- a control character without an escape of its own
    rcases hd with rfl | rfl | hd
    · decide
    · decide
    · exact control_not_mem_paddedUpper (by assumption) d hd
  · -- a character that stands for itself
    subst hd
    omega

/-- No character below U+0020 occurs in a literal. -/
theorem control_not_mem_literal (value : String) :
    ∀ c ∈ literal value, 0x20 ≤ c.toNat := by
  intro c hc
  simp only [literal, List.mem_cons, List.mem_append, List.mem_flatMap,
    List.not_mem_nil, or_false] at hc
  rcases hc with rfl | ⟨d, _, hd⟩ | rfl
  · decide
  · exact control_not_mem_escapeChar d c hd
  · decide

end CilDisassembly
