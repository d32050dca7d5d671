import CilDisassembly.Text.Digits
import CilDisassembly.Text.Printable
import CilDisassembly.Text.DefaultIgnorable
import CilDisassembly.Text.ExtendingMark

/-!
# Quoted names in messages

A name that appears in a message is quoted so that every character of it can be
told apart: a character that cannot be seen on its own is written by its code
point.
-/

set_option autoImplicit false

namespace CilDisassembly

/-- Whether a character stands for itself in a quoted name: it is shown, and in a
place of its own. -/
def isPlain (c : Char) : Bool :=
  isPrintable c && !isDefaultIgnorable c && !isExtendingMark c

/-- The written form of one character of a quoted name. -/
def quoteChar (c : Char) : Text :=
  if c = '\x00' then ['\\', '0']
  else if c = '\t' then ['\\', 't']
  else if c = '\r' then ['\\', 'r']
  else if c = '\n' then ['\\', 'n']
  else if c = '"' then ['\\', '"']
  else if c = '\\' then ['\\', '\\']
  else if isPlain c then [c]
  else ['\\', 'u', '\x7b'] ++ Hex.digits c.toNat ++ ['\x7d']

/-- A name in double quotes. -/
def quoted (value : String) : Text :=
  '"' :: (value.toList.flatMap quoteChar ++ ['"'])

end CilDisassembly
