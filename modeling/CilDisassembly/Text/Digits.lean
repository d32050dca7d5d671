/-!
# Numbers as text

Offsets, tokens and opcode bytes are written in lowercase hexadecimal, often
padded with zeros to a least width; operands are written in signed decimal.

Padding never cuts a number (`Hex.length_padded`). Hexadecimal digits read back as
the number they were written for (`Hex.value?_padded`), so two numbers with the
same text are equal (`Hex.padded_injective`).
-/

set_option autoImplicit false

namespace CilDisassembly

/-- Written text, as the sequence of its characters. -/
abbrev Text := List Char

namespace Hex

/-- The lowercase hexadecimal digits of a number, without leading zeros. -/
def digits (n : Nat) : Text :=
  Nat.toDigits 16 n

/-- The hexadecimal digits of a number, filled up with zeros on the left to at
least `width` digits. -/
def padded (width n : Nat) : Text :=
  (digits n).leftpad width '0'

/-- The uppercase form of `padded`. -/
def paddedUpper (width n : Nat) : Text :=
  (padded width n).map Char.toUpper

/-- The value of a hexadecimal digit of either case. -/
def digitValue? (c : Char) : Option Nat :=
  if '0' ≤ c ∧ c ≤ '9' then some (c.toNat - 48)
  else if 'a' ≤ c ∧ c ≤ 'f' then some (c.toNat - 87)
  else if 'A' ≤ c ∧ c ≤ 'F' then some (c.toNat - 55)
  else none

/-- Continue reading hexadecimal digits after a number that was read before. -/
def valueFrom? (acc : Nat) : Text → Option Nat
  | [] => some acc
  | c :: rest => (digitValue? c).bind (fun d => valueFrom? (acc * 16 + d) rest)

/-- The number written by a sequence of hexadecimal digits. -/
def value? (text : Text) : Option Nat :=
  valueFrom? 0 text

/-! ## Digits read back -/

/-- Each of the sixteen digits reads back. -/
theorem digitValue?_digitChar {d : Nat} (h : d < 16) :
    digitValue? d.digitChar = some d := by
  have hall : ∀ k ∈ List.range 16, digitValue? (Nat.digitChar k) = some k := by decide
  exact hall d (List.mem_range.2 h)

/-- Reading is compositional: the value of the first part is carried into the
second one. -/
theorem valueFrom?_append (acc : Nat) (a b : Text) :
    valueFrom? acc (a ++ b) = (valueFrom? acc a).bind (fun v => valueFrom? v b) := by
  induction a generalizing acc with
  | nil => rfl
  | cons c rest ih =>
      cases h : digitValue? c with
      | none => simp [valueFrom?, h]
      | some d => simp [valueFrom?, h, ih]

/-- The digits of a number read back as that number. -/
@[simp] theorem value?_digits (n : Nat) : value? (digits n) = some n := by
  induction n using Nat.strongRecOn with
  | ind n ih =>
      rw [digits, Nat.toDigits_eq_if (by decide)]
      split
      · next hlt => simp [value?, valueFrom?, digitValue?_digitChar hlt]
      · next hge =>
          -- all digits but the last are those of the quotient
          have hdiv : n / 16 < n := Nat.div_lt_self (by omega) (by decide)
          have hrec := ih (n / 16) hdiv
          rw [value?, digits] at hrec
          rw [value?, valueFrom?_append, hrec]
          simp only [Option.bind_some, valueFrom?,
            digitValue?_digitChar (Nat.mod_lt n (by decide : 0 < 16))]
          rw [Nat.div_add_mod']

/-- Leading zeros do not change the number read. -/
theorem value?_replicate_append (k : Nat) (text : Text) :
    value? (List.replicate k '0' ++ text) = value? text := by
  induction k with
  | zero => rfl
  | succ k ih =>
      have hzero : digitValue? '0' = some 0 := by decide
      rw [List.replicate_succ, List.cons_append]
      rw [value?, valueFrom?, hzero]
      exact ih

/-- Padded digits read back as the number they were written for. -/
@[simp] theorem value?_padded (width n : Nat) : value? (padded width n) = some n := by
  rw [padded, List.leftpad, value?_replicate_append, value?_digits]

/-- Numbers with the same padded text are equal. -/
theorem padded_injective {width a b : Nat} (h : padded width a = padded width b) :
    a = b := by
  have hb := value?_padded width b
  rw [← h, value?_padded] at hb
  exact Option.some.inj hb

/-! ## Lengths -/

/-- Padding brings a text to the requested width, and never cuts it. -/
@[simp] theorem length_padded (width n : Nat) :
    (padded width n).length = max width (digits n).length := by
  simp only [padded, List.leftpad, List.length_append, List.length_replicate]
  omega

end Hex

namespace Decimal

/-- The decimal digits of a number. -/
def ofNat (n : Nat) : Text :=
  Nat.toDigits 10 n

/-- A signed decimal number: a minus sign stands before a negative one. -/
def ofInt : Int → Text
  | .ofNat n => ofNat n
  | .negSucc n => '-' :: ofNat (n + 1)

end Decimal

end CilDisassembly
