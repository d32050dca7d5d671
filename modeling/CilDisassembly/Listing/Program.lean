import CilDisassembly.Listing.Error
import CilDisassembly.Listing.Sink

/-!
# Programs that write a listing

A listing is produced by a program that writes text to a sink and events to a
log, and that may stop with a failure. Text that was written before a failure
stays in the sink. What a program does follows from what its steps do
(`Listing.run_bind`, `Listing.run_emit`, `Listing.run_record`).
-/

set_option autoImplicit false

namespace CilDisassembly

/-- A program that writes to an output and may fail. -/
abbrev Listing (α : Type) := ExceptT ListingError (StateM Output) α

namespace Listing

variable {α : Type}

/-- The result of a program, and the output it leaves. -/
def run (program : Listing α) (output : Output) : Except ListingError α × Output :=
  StateT.run (ExceptT.run program) output

/-- Put a text into the sink. A text that does not fit is a failure, and the part
of it that fits is kept. -/
def emit (text : Text) : Listing Unit := do
  let fits ← modifyGet (fun output =>
    (output.sink.fits text, { output with sink := output.sink.put text }))
  unless fits do
    throw .sinkFull

/-- Put events into the log. -/
def record (events : List Event) : Listing Unit :=
  modify (fun output => { output with log := output.log ++ events })

/-- A result, or the failure that takes its place. -/
def ofExcept {ε : Type} (fail : ε → ListingError) : Except ε α → Listing α
  | .ok value => pure value
  | .error error => throw (fail error)

/-! ## Running a program

The result and the output of a program follow from those of its steps. A step
that fails ends the program, and what was written by then stays. -/

variable {β : Type}

@[simp] theorem run_pure (value : α) (output : Output) :
    (pure value : Listing α).run output = (.ok value, output) := rfl

@[simp] theorem run_throw (error : ListingError) (output : Output) :
    (throw error : Listing α).run output = (.error error, output) := rfl

/-- A sequence of two programs runs the second one on what the first one leaves,
unless the first one fails. -/
theorem run_bind (program : Listing α) (next : α → Listing β) (output : Output) :
    (program >>= next).run output =
      match program.run output with
      | (.ok value, after) => (next value).run after
      | (.error error, after) => (.error error, after) := by
  show ExceptT.bindCont next (program.run output).1 (program.run output).2 = _
  -- only the first result decides whether the second program is run
  cases hrun : program.run output with
  | mk result after => cases result <;> rfl

/-- Putting a text into the sink fails exactly when the text does not fit. -/
@[simp] theorem run_emit (text : Text) (output : Output) :
    (emit text).run output =
      (if output.sink.fits text then .ok () else .error .sinkFull,
        { output with sink := output.sink.put text }) := by
  unfold emit
  rw [run_bind]
  show (unless output.sink.fits text do throw .sinkFull : Listing Unit).run _ = _
  cases output.sink.fits text <;> rfl

/-- Logging never fails and leaves the sink alone. -/
@[simp] theorem run_record (events : List Event) (output : Output) :
    (record events).run output = (.ok (), { output with log := output.log ++ events }) :=
  rfl

@[simp] theorem run_ofExcept_ok {ε : Type} (fail : ε → ListingError) (value : α)
    (output : Output) :
    (ofExcept fail (.ok value)).run output = (.ok value, output) := rfl

@[simp] theorem run_ofExcept_error {ε : Type} (fail : ε → ListingError) (error : ε)
    (output : Output) :
    (ofExcept fail (.error error) : Listing α).run output = (.error (fail error), output) :=
  rfl

end Listing

end CilDisassembly
