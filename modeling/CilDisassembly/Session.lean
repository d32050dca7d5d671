import CilDisassembly.Listing.Disassembly

/-!
# Sessions

A session keeps a symbol table, listing options and an output, and obeys commands
one after the other (`Session.step`). A command that fails leaves the session
usable.
-/

set_option autoImplicit false

namespace CilDisassembly

/-- What commands act on. -/
structure Session where
  /-- The symbols entered so far. -/
  symbols : SymbolTable := .empty
  /-- The options in force. -/
  options : Options := .standard
  /-- Where listings go. -/
  output : Output := {}

/-- A command to a session. -/
inductive Command where
  /-- Enter a symbol. -/
  | add (entry : SymbolEntry)
  /-- Look up a symbol. -/
  | resolve (kind : SymbolKind) (token : Token)
  /-- Replace the options. -/
  | setOptions (options : Options)
  /-- Combine the options with others, without changing them. -/
  | combine (options : Options)
  /-- Add to the options. -/
  | addOptions (options : Options)
  /-- Ask whether options are chosen. -/
  | contains (options : Options)
  /-- List a window of a buffer. -/
  | disassemble (buffer : List UInt8) (start length : Nat)
  /-- List a method that has the symbols of the session. -/
  | method (flags? : Option ImplFlags) (body? : Option (List UInt8))
  /-- List one instruction. -/
  | instruction (instr : Instruction) (labels : LabelSet)
  /-- Write the name of an offset. -/
  | label (offset : UInt32)
  /-- Write a string literal. -/
  | literal (value : String)

/-- The reply to a command. -/
inductive Reply where
  /-- The command was obeyed. -/
  | done
  /-- The symbol that was looked up, if there is one. -/
  | symbol (kind : SymbolKind) (value? : Option kind.Value)
  /-- The combined options. -/
  | options (options : Options)
  /-- Whether the options are chosen. -/
  | truth (holds : Bool)
  /-- The number of instructions listed. -/
  | count (count : Nat)
  /-- The command failed. -/
  | failed (error : ListingError)

namespace Session

/-- Run a program on the output of a session. -/
def perform {α : Type} (session : Session) (program : Listing α) (reply : α → Reply) :
    Reply × Session :=
  let outcome := program.run session.output
  let answer :=
    match outcome.1 with
    | .ok value => reply value
    | .error error => .failed error
  (answer, { session with output := outcome.2 })

/-- The reply to a command and the session after it. -/
def step (session : Session) : Command → Reply × Session
  | .add entry => (.done, { session with symbols := session.symbols.insert entry })
  | .resolve kind token => (.symbol kind (session.symbols.resolve kind token), session)
  | .setOptions options => (.done, { session with options })
  | .combine options => (.options (session.options ||| options), session)
  | .addOptions options => (.done, { session with options := session.options ||| options })
  | .contains options => (.truth (session.options.contains options), session)
  | .disassemble buffer start length =>
      session.perform
        (CilDisassembly.disassemble buffer start length session.symbols.resolve
          session.options) .count
  | .method flags? body? =>
      session.perform
        (disassembleMethod (Method.ofParts flags? body? session.symbols) session.options) .count
  | .instruction instr labels =>
      session.perform
        (writeInstruction labels session.symbols.resolve session.options instr)
        (fun _ => .done)
  | .label offset => session.perform (writeLabel offset) (fun _ => .done)
  | .literal value => session.perform (writeLiteral value) (fun _ => .done)

end Session

end CilDisassembly
