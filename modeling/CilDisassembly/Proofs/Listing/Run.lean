import CilDisassembly.Listing.Disassembly
import CilDisassembly.Proofs.Listing.Writer
import CilDisassembly.Proofs.Stream.Encoding

/-!
# Listings on a sink with room for all text

What instructions put into a sink is their body (`bodyOf`), however much room there is
(`puts_forM_writeInstruction`). A sink without a limit takes every text, so a listing
stops for no other reason than a window that cannot be read or a symbol that is not
known, and its result and its text are functions of the instructions
(`run_disassemble`).
-/

set_option autoImplicit false

namespace CilDisassembly

/-- What instructions are listed as. -/
structure Body where
  /-- The text, up to the operand of the first instruction whose symbol is not known. -/
  text : Text
  /-- The symbol that is not known, if there is one. -/
  missing? : Option Unresolved

/-- The result of listing a body. -/
def Body.result (body : Body) : Except ListingError Unit :=
  match body.missing? with
  | none => .ok ()
  | some missing => .error (.unresolved missing)

/-- What instructions are listed as, one after the other. -/
def bodyOf (labels : LabelSet) (resolver : Resolver) (options : Options) :
    List Instruction → Body
  | [] => ⟨[], none⟩
  | instr :: rest =>
      match instr.operandText resolver with
      | .error missing => ⟨instr.lineHead labels options, some missing⟩
      | .ok operand =>
          let body := bodyOf labels resolver options rest
          ⟨instr.lineHead labels options ++ operand ++ instr.lineTail options ++ body.text,
            body.missing?⟩

/-! ## Running the pieces of a listing -/

/-- Once a window is decoded, its items and the number of its branch targets are logged, and what
is left to run is to write its instructions and to log the end. -/
theorem run_disassemble_of_decoded {buffer bytes : List UInt8} {start length : Nat}
    {instrs : List Instruction} (resolver : Resolver) (options : Options)
    (hwindow : window buffer start length = .ok bytes)
    (hdecode : decodeAll bytes = .ok instrs) (output : Output) :
    let labels := branchTargets instrs
    (disassemble buffer start length resolver options).run output =
      (instrs.forM (writeInstruction labels resolver options) >>= fun _ =>
        Listing.record [.finished instrs.length labels.size length] >>= fun _ =>
          pure instrs.length : Listing Nat).run
        { output with log := output.log ++ Event.ofItems (itemsOf bytes) ++
            [Event.labelled labels.size instrs.length] } := by
  rw [disassemble, hwindow, Listing.run_bind, Listing.run_ofExcept_ok]
  dsimp only
  rw [Listing.run_bind, run_readInstructions, hdecode]
  rfl

/-- Instructions put their body into the sink, one after the other up to the first symbol that
is not known. -/
theorem puts_forM_writeInstruction (labels : LabelSet) (resolver : Resolver)
    (options : Options) (instrs : List Instruction) :
    (instrs.forM (writeInstruction labels resolver options)).Puts
      (bodyOf labels resolver options instrs).text
      (bodyOf labels resolver options instrs).result := by
  induction instrs with
  | nil => exact Listing.puts_pure ()
  | cons instr rest ih =>
      rw [bodyOf]
      cases h : instr.operandText resolver with
      | error missing =>
          -- the other instructions are not written
          exact (puts_writeInstruction_of_missing h).bind_error _
      | ok operand => exact (puts_writeInstruction h).bind ih

/-- Listing a window that can be decoded puts the body of its instructions into the
sink. The log holds the items of the window, the number of branch targets, and a last
event if all symbols are known. -/
theorem run_disassemble {buffer bytes : List UInt8} {start length : Nat}
    {instrs : List Instruction} {output : Output} (hsink : output.sink.IsUnlimited)
    (resolver : Resolver) (options : Options) (hwindow : window buffer start length = .ok bytes)
    (hdecode : decodeAll bytes = .ok instrs) :
    (disassemble buffer start length resolver options).run output =
      let labels := branchTargets instrs
      let body := bodyOf labels resolver options instrs
      let decoded := output.log ++ Event.ofItems (itemsOf bytes)
      let labelled := decoded ++ [Event.labelled labels.size instrs.length]
      match body.missing? with
      | none => (.ok instrs.length,
          { sink := output.sink.put body.text
            log := labelled ++ [Event.finished instrs.length labels.size length] })
      | some missing => (.error (.unresolved missing),
          { sink := output.sink.put body.text, log := labelled }) := by
  have hputs := puts_forM_writeInstruction (branchTargets instrs) resolver options instrs
  rw [run_disassemble_of_decoded resolver options hwindow hdecode, Listing.run_bind,
    hputs.run_of_isUnlimited (by exact hsink), Body.result]
  dsimp only
  cases (bodyOf (branchTargets instrs) resolver options instrs).missing? <;> rfl

end CilDisassembly
