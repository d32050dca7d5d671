import CilDisassembly.Proofs.Listing.Run
import CilDisassembly.Session

/-!
# Listings on a sink with limited room

Each call that writes to a sink writes a text of its own, with a result of its own, and the sink
only cuts it short (`Call.writes`), because each of the pieces it is written in is cut short in
this way. Calls that follow each other on one sink share its room: together they leave the first
characters of their texts, and from the first one that does not fit on all fail that have
anything to write (`runAll_limited`).

What a session does with its sink is a sequence of calls (`Session.listings_eq_runAll`), whatever
symbols and options are entered in between.
-/

set_option autoImplicit false

namespace CilDisassembly

/-! ## Calls that write to a sink -/

/-- A call that writes to a sink, with all that it is given. -/
inductive Call where
  /-- List a window of a buffer. -/
  | window (buffer : List UInt8) (start length : Nat) (resolver : Resolver) (options : Options)
  /-- List a method. -/
  | method (subject : MethodBody) (options : Options)
  /-- List one instruction. -/
  | instruction (instr : Instruction) (labels : LabelSet) (resolver : Resolver)
      (options : Options)
  /-- Write the name of an offset. -/
  | label (offset : UInt32)
  /-- Write a string literal. -/
  | literal (value : String)

namespace Call

/-- The program of a call. Its value is the number of instructions, if the call counts them. -/
def program : Call → Listing (Option Nat)
  | .window buffer start length resolver options => do
      let count ← disassemble buffer start length resolver options
      return some count
  | .method subject options => do
      let count ← disassembleMethod subject options
      return some count
  | .instruction instr labels resolver options => do
      writeInstruction labels resolver options instr
      return none
  | .label offset => do
      writeLabel offset
      return none
  | .literal value => do
      writeLiteral value
      return none

/-- The text that a call puts into a sink without a limit. -/
def text (call : Call) : Text :=
  (call.program.run {}).2.sink.content.toList

/-- The result of a call on a sink without a limit. -/
def result (call : Call) : Except ListingError (Option Nat) :=
  (call.program.run {}).1

/-- The results of calls that are made one after the other, and the output after them. A call
that fails does not keep the next one from being made. -/
def runAll : List Call → Output → List (Except ListingError (Option Nat)) × Output
  | [], output => ([], output)
  | call :: rest, output =>
      let outcome := call.program.run output
      let later := runAll rest outcome.2
      (outcome.1 :: later.1, later.2)

end Call

section Programs

open Listing

theorem isCutOnly_writeInstruction (labels : LabelSet) (resolver : Resolver)
    (options : Options) (instr : Instruction) :
    (writeInstruction labels resolver options instr).IsCutOnly := by
  cases h : instr.operandText resolver with
  | ok operand => exact ⟨_, _, (puts_writeInstruction h).toWrites⟩
  | error missing => exact ⟨_, _, (puts_writeInstruction_of_missing h).toWrites⟩

theorem isCutOnly_disassemble (buffer : List UInt8) (start length : Nat) (resolver : Resolver)
    (options : Options) : (disassemble buffer start length resolver options).IsCutOnly := by
  apply (isCutOnly_ofExcept _ _).bind
  intro bytes
  have hread : (readInstructions bytes).IsCutOnly :=
    (isCutOnly_record _).bind (fun _ => isCutOnly_ofExcept _ _)
  apply hread.bind
  intro instrs
  have hlabels : (collectLabels instrs).IsCutOnly :=
    (isCutOnly_record _).bind (fun _ => isCutOnly_pure _)
  apply hlabels.bind
  intro labels
  have hwrite : (instrs.forM (writeInstruction labels resolver options)).IsCutOnly :=
    ⟨_, _, (puts_forM_writeInstruction labels resolver options instrs).toWrites⟩
  apply hwrite.bind
  intro _
  exact (isCutOnly_record _).bind (fun _ => isCutOnly_pure _)

theorem isCutOnly_disassembleMethod (method : MethodBody) (options : Options) :
    (disassembleMethod method options).IsCutOnly := by
  rw [disassembleMethod]
  split
  · exact isCutOnly_disassemble _ _ _ _ _
  · exact isCutOnly_throw _

/-- Every call is a program that the sink only cuts short. -/
theorem Call.isCutOnly_program (call : Call) : call.program.IsCutOnly := by
  have hreturn : ∀ value : Option Nat, (pure value : Listing (Option Nat)).IsCutOnly :=
    isCutOnly_pure
  cases call with
  | window buffer start length resolver options =>
      exact (isCutOnly_disassemble _ _ _ _ _).bind (fun _ => hreturn _)
  | method subject options =>
      exact (isCutOnly_disassembleMethod _ _).bind (fun _ => hreturn _)
  | instruction instr labels resolver options =>
      exact (isCutOnly_writeInstruction _ _ _ _).bind (fun _ => hreturn _)
  | label offset =>
      have hlabel : (writeLabel offset).IsCutOnly := ⟨_, _, (puts_writeLabel offset).toWrites⟩
      exact hlabel.bind (fun _ => hreturn _)
  | literal value =>
      have hliteral : (writeLiteral value).IsCutOnly :=
        ⟨_, _, (puts_writeLiteral value).toWrites⟩
      exact hliteral.bind (fun _ => hreturn _)

end Programs

namespace Call

/-- A call writes the text and has the result that it has on a sink without a limit. -/
theorem writes (call : Call) : call.program.Writes call.text call.result := by
  obtain ⟨text, result, h⟩ := call.isCutOnly_program
  have hsink : ({} : Output).sink.IsUnlimited := rfl
  have htext : call.text = text := by
    rw [Call.text, h.sink_eq, hsink.content_put]
    rfl
  have hresult : call.result = result := by
    rw [Call.result, h.result_eq, hsink.fits]
    rfl
  rw [htext, hresult]
  exact h

/-- Calls together put all their texts into the sink. -/
theorem sink_runAll (calls : List Call) (output : Output) :
    (runAll calls output).2.sink = output.sink.put (calls.flatMap text) := by
  induction calls generalizing output with
  | nil => exact (Sink.put_nil _).symm
  | cons call rest ih =>
      rw [runAll, List.flatMap_cons, ← Sink.put_put]
      dsimp only
      rw [ih, call.writes.sink_eq]

@[simp] theorem length_results_runAll (calls : List Call) (output : Output) :
    (runAll calls output).1.length = calls.length := by
  induction calls generalizing output with
  | nil => rfl
  | cons call rest ih =>
      rw [runAll]
      dsimp only
      rw [List.length_cons, ih, List.length_cons]

/-- Each call finds the room that the calls before it leave. -/
theorem getElem?_results_runAll {calls : List Call} {k : Nat} {call : Call} (output : Output)
    (h : calls[k]? = some call) :
    (runAll calls output).1[k]? =
      some (if (output.sink.put ((calls.take k).flatMap text)).fits call.text then call.result
        else .error .sinkFull) := by
  induction calls generalizing output k with
  | nil => cases h
  | cons first rest ih =>
      rw [runAll]
      dsimp only
      cases k with
      | zero =>
          cases h
          rw [List.getElem?_cons_zero, call.writes.result_eq, List.take_zero,
            List.flatMap_nil, Sink.put_nil]
      | succ k =>
          rw [List.getElem?_cons_succ] at h ⊢
          rw [ih _ h, first.writes.sink_eq, Sink.put_put, List.take_succ_cons,
            List.flatMap_cons]

end Call

/-! ## Calls of a session -/

/-- The call that a command makes in a session, if it writes to the sink. -/
def Command.call? (session : Session) : Command → Option Call
  | .disassemble buffer start length =>
      some (.window buffer start length session.symbols.resolve session.options)
  | .method flags? body? =>
      some (.method (Method.ofParts flags? body? session.symbols) session.options)
  | .instruction instr labels =>
      some (.instruction instr labels session.symbols.resolve session.options)
  | .label offset => some (.label offset)
  | .literal value => some (.literal value)
  | .add _ | .resolve .. | .setOptions _ | .combine _ | .addOptions _ | .contains _ => none

/-- The reply to a command that makes a call with the given result. -/
def Reply.ofResult : Except ListingError (Option Nat) → Reply
  | .ok (some n) => .count n
  | .ok none => .done
  | .error error => .failed error

namespace Session

/-- The calls that commands make in a session, each with the reply to its command, and the
session after the commands. -/
def listings : List Command → Session → List (Call × Reply) × Session
  | [], session => ([], session)
  | command :: rest, session =>
      let outcome := session.step command
      let later := listings rest outcome.2
      ((command.call? session).toList.map (fun call => (call, outcome.1)) ++ later.1, later.2)

/-- A program that ends with a value which is not looked at has the reply and the output of the
program. -/
theorem perform_eq {α : Type} (session : Session) {program : Listing α}
    {call : Listing (Option Nat)} {value : α → Option Nat} {reply : α → Reply}
    (hcall : call = program >>= fun found => pure (value found))
    (hreply : ∀ found : α, Reply.ofResult (.ok (value found)) = reply found) :
    session.perform program reply =
      (Reply.ofResult (call.run session.output).1,
        { session with output := (call.run session.output).2 }) := by
  rw [hcall, Listing.run_bind, perform]
  cases program.run session.output with
  | mk result after =>
      cases result with
      | ok found =>
          dsimp only
          rw [← hreply, Listing.run_pure]
      | error error => rfl

/-- A command that makes a call replies with its result and leaves its output. -/
theorem step_of_call? {session : Session} {command : Command} {call : Call}
    (h : command.call? session = some call) :
    session.step command =
      (Reply.ofResult (call.program.run session.output).1,
        { session with output := (call.program.run session.output).2 }) := by
  cases command with
  | disassemble buffer start length =>
      cases h
      exact session.perform_eq rfl (fun _ => rfl)
  | method flags? body? =>
      cases h
      exact session.perform_eq rfl (fun _ => rfl)
  | instruction instr labels =>
      cases h
      exact session.perform_eq rfl (fun _ => rfl)
  | label offset =>
      cases h
      exact session.perform_eq rfl (fun _ => rfl)
  | literal value =>
      cases h
      exact session.perform_eq rfl (fun _ => rfl)
  | _ => cases h

/-- A command that makes no call leaves the output as it is. -/
theorem output_step_of_no_call {session : Session} {command : Command}
    (h : command.call? session = none) : (session.step command).2.output = session.output := by
  cases command <;> first | rfl | cases h

/-- What commands of a session write and reply is what their calls do, one after the other, no
matter which symbols and options are entered in between. -/
theorem listings_eq_runAll (commands : List Command) (session : Session) :
    let trace := listings commands session
    trace.1.map Prod.snd =
      (Call.runAll (trace.1.map Prod.fst) session.output).1.map Reply.ofResult ∧
    trace.2.output = (Call.runAll (trace.1.map Prod.fst) session.output).2 := by
  induction commands generalizing session with
  | nil => exact ⟨rfl, rfl⟩
  | cons command rest ih =>
      obtain ⟨hreplies, houtput⟩ := ih (session.step command).2
      rw [listings]
      dsimp only
      cases hcall : command.call? session with
      | none =>
          rw [output_step_of_no_call hcall] at hreplies houtput
          exact ⟨hreplies, houtput⟩
      | some call =>
          rw [step_of_call? hcall] at hreplies houtput ⊢
          exact ⟨congrArg (_ :: ·) hreplies, houtput⟩

end Session

/-! ## Limited room -/

/-- A text fits into the room that others leave exactly when all fit together, or when it is
empty. -/
theorem Sink.fits_put_iff (content : String) (limit : Nat) (first second : Text) :
    ((Sink.mk content (some limit)).put first).fits second = true ↔
      (first ++ second).length ≤ limit ∨ second = [] := by
  rw [fits, put, Option.map_some, decide_eq_true_eq, List.length_append,
    ← List.length_eq_zero_iff]
  omega

/-- Calls on a sink that takes `limit` further characters, compared to the same calls on sinks
without a limit, where each of them has its own text and result no matter what is in the sink.
The limited sink holds what it held before and the first `limit` characters of all texts. A
call has its own result if all texts up to its own fit, or if its own is empty; any other call
fails because the sink is full, also if it would have failed for a reason of its own. What is in
the sink after some calls stays there.

Whatever symbols and options its commands enter, a session on the limited sink makes such a
sequence of calls, and replies with their results. -/
theorem runAll_limited (calls : List Call) (content : String) (limit : Nat)
    (log : Array Event) :
    let output : Output := ⟨⟨content, some limit⟩, log⟩
    let outcome := Call.runAll calls output
    (∀ (call : Call) (free : Output), free.sink.IsUnlimited →
      (call.program.run free).1 = call.result ∧
      (call.program.run free).2.sink.content.toList = free.sink.content.toList ++ call.text) ∧
    outcome.2.sink.content.toList =
      content.toList ++ (calls.flatMap Call.text).take limit ∧
    outcome.1.length = calls.length ∧
    (∀ (k : Nat) (call : Call), calls[k]? = some call →
      outcome.1[k]? = some (
        if ((calls.take (k + 1)).flatMap Call.text).length ≤ limit ∨ call.text = [] then
          call.result
        else .error .sinkFull)) ∧
    (∀ k : Nat, (Call.runAll (calls.take k) output).2.sink.content.toList <+:
      outcome.2.sink.content.toList) ∧
    ∀ (session : Session) (commands : List Command), session.output = output →
      let trace := Session.listings commands session
      trace.1.map Prod.fst = calls →
        trace.1.map Prod.snd = outcome.1.map Reply.ofResult ∧ trace.2.output = outcome.2 := by
  have hcontent : ∀ made : List Call,
      (Call.runAll made ⟨⟨content, some limit⟩, log⟩).2.sink.content.toList =
        content.toList ++ (made.flatMap Call.text).take limit := by
    intro made
    rw [Call.sink_runAll]
    exact Sink.content_put _ _
  refine ⟨?_, hcontent calls, Call.length_results_runAll .., ?_, ?_, ?_⟩
  · intro call free hfree
    rw [call.writes.result_eq, call.writes.sink_eq, hfree.fits]
    exact ⟨rfl, hfree.content_put _⟩
  · intro k call hcall
    rw [Call.getElem?_results_runAll _ hcall]
    simp only [Sink.fits_put_iff]
    have htake : calls.take (k + 1) = calls.take k ++ [call] := by
      rw [List.take_add_one, hcall, Option.toList_some]
    rw [htake, List.flatMap_append, List.flatMap_singleton]
  · intro k
    rw [hcontent, hcontent, List.prefix_append_right_inj]
    conv_rhs => rw [← List.take_append_drop k calls, List.flatMap_append, List.take_append]
    exact List.prefix_append _ _
  · intro session commands houtput
    dsimp only
    rintro rfl
    rw [← houtput]
    exact Session.listings_eq_runAll commands session

/-- A session with room for ten characters: the name of an offset fits, an instruction with an
unknown user string does not and fails for that reason, a window past its buffer writes nothing
and keeps its own failure, and a literal fails again. -/
theorem runAll_limited_full_sink :
    let instr : Instruction := ⟨0, ⟨"ldstr", 0x72, .inlineString⟩, 4, 0x70000001⟩
    let session : Session := { output := ⟨⟨"", some 10⟩, #[]⟩ }
    let trace := session.listings
      [.label 0, .setOptions .plain, .instruction instr ∅, .disassemble [0x2A] 1 1, .literal ""]
    let replies := trace.1.map Prod.snd
    trace.2.output.sink.content.toList = "IL_0000lds".toList ∧
    replies[0]? = some .done ∧
    replies[1]? = some (.failed .sinkFull) ∧
    replies[2]? = some (.failed (.decode (.windowOutOfBounds 1 1 1))) ∧
    replies[3]? = some (.failed .sinkFull) := by
  intro instr session trace replies
  obtain ⟨-, hcontent, -, hresults, -, hsession⟩ := runAll_limited
    [.label 0, .instruction instr ∅ SymbolTable.empty.resolve .plain,
      .window [0x2A] 1 1 SymbolTable.empty.resolve .plain, .literal ""] "" 10 #[]
  obtain ⟨(hreplies : replies = _), houtput⟩ := hsession session
    [.label 0, .setOptions .plain, .instruction instr ∅, .disassemble [0x2A] 1 1, .literal ""]
    rfl rfl
  rw [hreplies, houtput]
  refine ⟨hcontent.trans (by decide +kernel), ?_, ?_, ?_, ?_⟩
  · have hresult := (hresults 0 _ rfl).trans (c := some (.ok none)) (by decide +kernel)
    rw [List.getElem?_map, hresult]
    rfl
  · have hresult := (hresults 1 _ rfl).trans (c := some (.error .sinkFull)) (by decide +kernel)
    rw [List.getElem?_map, hresult]
    rfl
  · have hresult := (hresults 2 _ rfl).trans
      (c := some (.error (.decode (.windowOutOfBounds 1 1 1)))) (by decide +kernel)
    rw [List.getElem?_map, hresult]
    rfl
  · have hresult := (hresults 3 _ rfl).trans (c := some (.error .sinkFull)) (by decide +kernel)
    rw [List.getElem?_map, hresult]
    rfl

end CilDisassembly
