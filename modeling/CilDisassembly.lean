import CilDisassembly.Bytes
import CilDisassembly.Bytes.Lemmas
import CilDisassembly.Event
import CilDisassembly.Instruction
import CilDisassembly.Interchange
import CilDisassembly.Label
import CilDisassembly.Listing.Disassembly
import CilDisassembly.Listing.Error
import CilDisassembly.Listing.Line
import CilDisassembly.Listing.Options
import CilDisassembly.Listing.Program
import CilDisassembly.Listing.Sink
import CilDisassembly.Listing.Writer
import CilDisassembly.Method
import CilDisassembly.Opcode
import CilDisassembly.Opcode.Catalog
import CilDisassembly.Opcode.Mnemonic
import CilDisassembly.OperandKind
import CilDisassembly.Proofs.Listing.Comment
import CilDisassembly.Proofs.Listing.Demand
import CilDisassembly.Proofs.Listing.Faithful
import CilDisassembly.Proofs.Listing.Labels
import CilDisassembly.Proofs.Listing.LimitedSink
import CilDisassembly.Proofs.Listing.Lines
import CilDisassembly.Proofs.Listing.OperandDigits
import CilDisassembly.Proofs.Listing.Outcome
import CilDisassembly.Proofs.Listing.Presentation
import CilDisassembly.Proofs.Listing.Run
import CilDisassembly.Proofs.Listing.Transcript
import CilDisassembly.Proofs.Listing.Writer
import CilDisassembly.Proofs.Listing.Writes
import CilDisassembly.Proofs.Opcode.Key
import CilDisassembly.Proofs.Opcode.Mnemonic
import CilDisassembly.Proofs.Stream.Bookmark
import CilDisassembly.Proofs.Stream.Branch
import CilDisassembly.Proofs.Stream.Canonical
import CilDisassembly.Proofs.Stream.CodeUnit
import CilDisassembly.Proofs.Stream.Concatenation
import CilDisassembly.Proofs.Stream.Cut
import CilDisassembly.Proofs.Stream.Encoding
import CilDisassembly.Proofs.Stream.Grammar
import CilDisassembly.Proofs.Stream.Invariant
import CilDisassembly.Proofs.Stream.Offsets
import CilDisassembly.Proofs.Stream.Progress
import CilDisassembly.Proofs.Stream.Reading
import CilDisassembly.Proofs.Stream.WellFormed
import CilDisassembly.Proofs.Symbol.Entries
import CilDisassembly.Proofs.Text.LiteralReader
import CilDisassembly.Session
import CilDisassembly.Stream.Cursor
import CilDisassembly.Stream.Item
import CilDisassembly.Stream.Reader
import CilDisassembly.Stream.Walk
import CilDisassembly.Stream.Window
import CilDisassembly.Symbol
import CilDisassembly.SymbolTable
import CilDisassembly.Text.CodeRange
import CilDisassembly.Text.DefaultIgnorable
import CilDisassembly.Text.Digits
import CilDisassembly.Text.Digits.Lemmas
import CilDisassembly.Text.ExtendingMark
import CilDisassembly.Text.Literal
import CilDisassembly.Text.Printable
import CilDisassembly.Text.Quoted
import CilDisassembly.Token
