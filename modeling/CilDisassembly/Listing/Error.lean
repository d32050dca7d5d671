import CilDisassembly.Listing.Line
import CilDisassembly.Method
import CilDisassembly.Stream.Window

/-!
# Failures of a listing

A listing stops when the method has no body to list, when the window cannot be read,
when a symbol is not known, or when the sink has no room left.
-/

set_option autoImplicit false

namespace CilDisassembly

/-- Why a listing stopped. -/
inductive ListingError where
  /-- The method has no CIL body to list. -/
  | notDecodable (flags : ImplFlags)
  /-- The instructions cannot be read. -/
  | decode (error : DecodeError)
  /-- A token names no symbol. -/
  | unresolved (missing : Unresolved)
  /-- The sink has no room for the text. -/
  | sinkFull
deriving DecidableEq, Repr

/-- The message of a failure. -/
def ListingError.message : ListingError → String
  | .notDecodable flags =>
      "only IL methods are supported (implementation flags " ++ flags.text ++ ")"
  | .decode error => error.message
  | .unresolved missing => missing.message
  | .sinkFull =>
      "failed to write disassembly: an error occurred when formatting an argument"

end CilDisassembly
