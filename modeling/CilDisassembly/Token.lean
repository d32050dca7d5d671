import CilDisassembly.Text.Digits
import Std.Data.ExtTreeSet

/-!
# Metadata tokens

A metadata token is a 32-bit word: the high byte selects a metadata table, the
low 24 bits are a row of it. A listing never interprets a token; it only asks for
the symbol the token names. Tokens are ordered as their words are, and lists of
them are sorted in this order.
-/

set_option autoImplicit false

namespace CilDisassembly

/-- A metadata token. -/
structure Token where
  /-- The token as a word. -/
  value : UInt32
deriving DecidableEq, Repr

namespace Token

/-- The token for a row of a table; only the low 24 bits of the row count. -/
def ofTableRow (table : UInt8) (row : UInt32) : Token :=
  ⟨(table.toUInt32 <<< 24) ||| (row &&& 0x00FFFFFF)⟩

/-- The table a token selects. -/
def table (token : Token) : UInt8 :=
  (token.value >>> 24).toUInt8

/-- The row a token selects. -/
def row (token : Token) : UInt32 :=
  token.value &&& 0x00FFFFFF

/-- The written form of a token. -/
def text (token : Token) : Text :=
  '0' :: 'x' :: Hex.padded 8 token.value.toNat

/-! ## Order -/

/-- Tokens are compared as words. -/
instance : Ord Token :=
  ⟨fun a b => compare a.value b.value⟩

instance : Std.OrientedOrd Token where
  eq_swap {a b} := by
    show compare a.value b.value = (compare b.value a.value).swap
    exact Std.OrientedOrd.eq_swap

instance : Std.TransOrd Token where
  isLE_trans {a b c} hab hbc := by
    show (compare a.value c.value).isLE = true
    exact Std.TransOrd.isLE_trans (b := b.value) hab hbc

instance : Std.LawfulEqOrd Token where
  eq_of_compare {a b} h := by
    cases a
    cases b
    exact congrArg Token.mk (Std.LawfulEqOrd.eq_of_compare h)
  compare_self {a} := by
    show compare a.value a.value = .eq
    exact Std.ReflOrd.compare_self

/-- The given tokens in ascending order, each of them once. -/
def sorted (tokens : List Token) : List Token :=
  (Std.ExtTreeSet.ofList tokens).toList

end Token

end CilDisassembly
