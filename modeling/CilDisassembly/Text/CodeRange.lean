/-!
# Ranges of code points

A property of characters that a standard gives by listing is stored as a list of
inclusive ranges of code points.
-/

set_option autoImplicit false

namespace CilDisassembly

/-- The code points from `first` to `last`, both included. -/
structure CodeRange where
  /-- The lowest code point of the range. -/
  first : Nat
  /-- The highest code point of the range. -/
  last : Nat
deriving DecidableEq, Repr

namespace CodeRange

/-- Whether the range holds a code point. -/
def contains (range : CodeRange) (code : Nat) : Bool :=
  range.first ≤ code && code ≤ range.last

/-- Whether some range of the list holds a code point. -/
def anyContains (ranges : List CodeRange) (code : Nat) : Bool :=
  ranges.any (fun range => range.contains code)

end CodeRange

end CilDisassembly
