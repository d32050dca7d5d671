import CilDisassembly.Stream.Cursor

/-!
# Windows of a buffer

A window is a contiguous part of a byte buffer, given by the index of its first
byte and its length. It is refused exactly when it reaches past the end of the
buffer (`window_eq_ok_iff`).
-/

set_option autoImplicit false

namespace CilDisassembly

/-- Why a window of a buffer cannot be read. -/
inductive DecodeError where
  /-- The stream in the window is unreadable. -/
  | stream (error : StreamError)
  /-- The window reaches past the end of the buffer. -/
  | windowOutOfBounds (start length available : Nat)
deriving DecidableEq, Repr

/-- The message of an error. -/
def DecodeError.message : DecodeError → String
  | .stream error => error.message
  | .windowOutOfBounds start length available =>
      "window of " ++ String.ofList (Decimal.ofNat length) ++ " bytes at index "
        ++ String.ofList (Decimal.ofNat start) ++ " exceeds buffer of "
        ++ String.ofList (Decimal.ofNat available) ++ " bytes"

/-- The `length` bytes of a buffer from index `start` on. -/
def window (buffer : List UInt8) (start length : Nat) : Except DecodeError (List UInt8) :=
  if start + length ≤ buffer.length then .ok ((buffer.drop start).take length)
  else .error (.windowOutOfBounds start length buffer.length)

/-- A window within the buffer is granted, with exactly its bytes. -/
theorem window_eq_ok_iff {buffer bytes : List UInt8} {start length : Nat} :
    window buffer start length = .ok bytes ↔
      start + length ≤ buffer.length ∧ bytes = (buffer.drop start).take length := by
  unfold window
  split
  · next h => simp [h, eq_comm]
  · next h => simp [h]

/-- The whole buffer is a window of it. -/
@[simp] theorem window_whole (buffer : List UInt8) :
    window buffer 0 buffer.length = .ok buffer := by
  simp [window]

end CilDisassembly
