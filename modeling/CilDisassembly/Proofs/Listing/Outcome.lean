import CilDisassembly.Proofs.Listing.Lines
import CilDisassembly.Proofs.Stream.WellFormed

/-!
# The outcome of a listing

On a sink without a limit a listing can go wrong at three places. A window that reaches past
the buffer and a window that cannot be decoded are refused before any text is written, no
matter where in the window the error stands. A symbol that is not known stops the listing at
the instruction that asks for it: the instructions before it are written in full, and the
instruction itself up to its operand.

## What this module delivers

- `Instruction.listed`: what an instruction is listed as on its own.
- `error_mem_itemsOf_iff`: a window is decoded to an error exactly when one of its items is
  this error.
- `FirstUnresolved` and `bodyOf_of_firstUnresolved`: the body of a listing, cut at the first
  instruction whose symbol is not known.
- `exists_lines_of_disassembleToString` and `splitOn_of_disassembleToString`: the lines that a
  listing as a text of its own consists of.
- `disassemble_outcome`: the result and the text of listing a window, in every case.
-/

set_option autoImplicit false

namespace CilDisassembly

/-- The text that an instruction is listed as on its own, in a sink that was empty. -/
def Instruction.listed (labels : LabelSet) (resolver : Resolver) (options : Options)
    (instr : Instruction) : Text :=
  ((writeInstruction labels resolver options instr).run {}).2.sink.content.toList

/-! ## Windows with an error -/

/-- The error of a sequence of items is one of the items. -/
theorem Item.error_mem_of_instructions {items : List Item} {error : StreamError}
    (h : Item.instructions items = .error error) : .error error ∈ items := by
  induction items with
  | nil => cases h
  | cons item items ih =>
      cases item with
      | error first =>
          rw [Item.instructions_error] at h
          cases h
          exact List.mem_cons_self
      | ok found =>
          apply List.mem_cons_of_mem
          apply ih
          rw [Item.instructions_ok] at h
          cases hrest : Item.instructions items with
          | error later =>
              rw [hrest] at h
              exact h
          | ok rest =>
              rw [hrest] at h
              cases h

/-- A window is decoded to an error exactly when one of its items is this error. -/
theorem error_mem_itemsOf_iff {bytes : List UInt8} {error : StreamError} :
    .error error ∈ itemsOf bytes ↔ decodeAll bytes = .error error := by
  constructor
  · intro hmem
    obtain ⟨layout, rfl⟩ := exists_layout bytes
    rw [itemsOf_layout] at hmem
    rw [decodeAll_layout]
    -- only the ending can be an error, so there is no other one in front of it
    rcases List.mem_append.1 hmem with hmem | hmem
    · obtain ⟨found, -, hfound⟩ := List.mem_map.1 hmem
      cases hfound
    · obtain ⟨units, ending, complete⟩ := layout
      cases ending with
      | clean => cases hmem
      | truncated unit short => cases List.mem_singleton.1 hmem
      | unknown leads byte rest hleads hbyte hkey =>
          cases List.mem_singleton.1 hmem
          rfl
      | dangling leads lead hleads hlead =>
          cases List.mem_singleton.1 hmem
          rfl
  · intro h
    exact Item.error_mem_of_instructions h

/-- A window without an error among its items is decoded. -/
theorem exists_decodeAll_of_no_error {bytes : List UInt8}
    (h : ∀ error : StreamError, .error error ∉ itemsOf bytes) :
    ∃ instrs : List Instruction, decodeAll bytes = .ok instrs := by
  cases hdecode : decodeAll bytes with
  | ok instrs => exact ⟨instrs, rfl⟩
  | error error => exact absurd (error_mem_itemsOf_iff.2 hdecode) (h error)

/-! ## Bodies -/

section Bodies

variable (labels : LabelSet) (resolver : Resolver) (options : Options)

/-- An instruction whose symbol is known is listed as head, operand and tail. -/
theorem Instruction.listed_of_operandText {instr : Instruction} {operand : Text}
    (h : instr.operandText resolver = .ok operand) :
    instr.listed labels resolver options =
      instr.lineHead labels options ++ operand ++ instr.lineTail options := by
  have hsink : ({} : Output).sink.IsUnlimited := rfl
  rw [listed, (puts_writeInstruction h).run_of_isUnlimited hsink]
  exact hsink.content_put _

/-- The body of instructions starts with those whose symbols are known. -/
theorem bodyOf_append {before : List Instruction} (rest : List Instruction)
    (h : ∀ instr ∈ before, instr.IsResolved resolver) :
    bodyOf labels resolver options (before ++ rest) =
      ⟨before.flatMap (Instruction.listed labels resolver options) ++
          (bodyOf labels resolver options rest).text,
        (bodyOf labels resolver options rest).missing?⟩ := by
  induction before with
  | nil => rfl
  | cons instr before ih =>
      obtain ⟨hinstr, hbefore⟩ := List.forall_mem_cons.1 h
      have hoperand := Instruction.operandText_of_isResolved hinstr
      rw [List.cons_append, bodyOf, hoperand]
      dsimp only
      rw [ih hbefore, List.flatMap_cons,
        Instruction.listed_of_operandText labels resolver options hoperand]
      simp only [List.append_assoc]

/-- The body of instructions whose symbols are all known. -/
theorem bodyOf_of_resolved {instrs : List Instruction}
    (h : ∀ instr ∈ instrs, instr.IsResolved resolver) :
    bodyOf labels resolver options instrs =
      ⟨instrs.flatMap (Instruction.listed labels resolver options), none⟩ := by
  have hbody := bodyOf_append labels resolver options [] h
  rw [List.append_nil] at hbody
  rw [hbody, bodyOf, List.append_nil]

end Bodies

/-- An operand whose symbol is not known cannot be written. -/
theorem Instruction.operandText_of_unresolved {resolver : Resolver} {instr : Instruction}
    {kind : SymbolKind} (hwidth : instr.operandWidth = instr.opcode.operandWidth)
    (hkind : instr.opcode.operand.symbol? = some kind)
    (hnone : resolver kind instr.operandToken = none) :
    instr.operandText resolver = .error ⟨kind, instr.operandToken⟩ := by
  have hfour := OperandKind.width_of_isToken (OperandKind.isToken_of_symbol? hkind)
  have hpos : ¬ instr.operandWidth = 0 := by
    rw [hwidth, Opcode.operandWidth, hfour]
    decide
  rw [operandText, if_neg hpos, hkind]
  dsimp only
  rw [hnone]

/-- Behind instructions whose symbols are known stands one that asks for a symbol that is
not known. -/
structure FirstUnresolved (resolver : Resolver) (instrs before : List Instruction)
    (instr : Instruction) (kind : SymbolKind) : Prop where
  split : ∃ after : List Instruction, instrs = before ++ instr :: after
  resolved : ∀ other ∈ before, other.IsResolved resolver
  asks : instr.opcode.operand.symbol? = some kind
  unknown : resolver kind instr.operandToken = none

theorem FirstUnresolved.mem {resolver : Resolver} {instrs before : List Instruction}
    {instr : Instruction} {kind : SymbolKind}
    (h : FirstUnresolved resolver instrs before instr kind) : instr ∈ instrs := by
  obtain ⟨after, rfl⟩ := h.split
  exact List.mem_append_right before List.mem_cons_self

/-- Among instructions that are not all resolved there is a first one that is not. -/
theorem exists_firstUnresolved {resolver : Resolver} {instrs : List Instruction}
    (h : ¬ ∀ instr ∈ instrs, instr.IsResolved resolver) :
    ∃ (before : List Instruction) (instr : Instruction) (kind : SymbolKind),
      FirstUnresolved resolver instrs before instr kind := by
  induction instrs with
  | nil => exact absurd (List.forall_mem_nil _) h
  | cons first rest ih =>
      by_cases hfirst : first.IsResolved resolver
      · -- the first instruction goes to those before the one that is looked for
        have hrest : ¬ ∀ instr ∈ rest, instr.IsResolved resolver := by
          intro hall
          exact h (List.forall_mem_cons.2 ⟨hfirst, hall⟩)
        obtain ⟨before, instr, kind, ⟨after, rfl⟩, hbefore, hasks, hunknown⟩ := ih hrest
        exact ⟨first :: before, instr, kind, ⟨after, rfl⟩,
          List.forall_mem_cons.2 ⟨hfirst, hbefore⟩, hasks, hunknown⟩
      · simp only [Instruction.IsResolved, not_forall] at hfirst
        obtain ⟨kind, hkind, hsome⟩ := hfirst
        rw [Option.not_isSome_iff_eq_none] at hsome
        exact ⟨[], first, kind, ⟨rest, rfl⟩, List.forall_mem_nil _, hkind, hsome⟩

/-- The body of instructions that are not all resolved ends in front of an operand. -/
theorem bodyOf_of_firstUnresolved {labels : LabelSet} {resolver : Resolver} {options : Options}
    {instrs before : List Instruction} {instr : Instruction} {kind : SymbolKind}
    (hwidth : instr.operandWidth = instr.opcode.operandWidth)
    (h : FirstUnresolved resolver instrs before instr kind) :
    bodyOf labels resolver options instrs =
      ⟨before.flatMap (Instruction.listed labels resolver options) ++
          instr.lineHead labels options,
        some ⟨kind, instr.operandToken⟩⟩ := by
  obtain ⟨⟨after, rfl⟩, hbefore, hasks, hunknown⟩ := h
  rw [bodyOf_append labels resolver options _ hbefore, bodyOf,
    Instruction.operandText_of_unresolved hwidth hasks hunknown]

/-! ## Whole listings -/

section Listings

variable {buffer : List UInt8} {start length : Nat} {output : Output}

/-- A window reaches past the buffer, or its bytes are decoded to an error or to instructions. -/
theorem window_cases (buffer : List UInt8) (start length : Nat) :
    buffer.length < start + length ∨
      ∃ bytes : List UInt8, window buffer start length = .ok bytes ∧
        ((∃ error : StreamError, decodeAll bytes = .error error) ∨
          ∃ instrs : List Instruction, decodeAll bytes = .ok instrs) := by
  rcases Nat.lt_or_ge buffer.length (start + length) with hout | hbounds
  · exact .inl hout
  · refine .inr ⟨_, window_eq_ok_iff.2 ⟨hbounds, rfl⟩, ?_⟩
    cases decodeAll ((buffer.drop start).take length) with
    | error error => exact .inl ⟨error, rfl⟩
    | ok instrs => exact .inr ⟨instrs, rfl⟩

/-- A window that reaches past the buffer is refused. -/
theorem run_disassemble_of_outOfBounds (resolver : Resolver) (options : Options)
    (h : buffer.length < start + length) :
    (disassemble buffer start length resolver options).run output =
      (.error (.decode (.windowOutOfBounds start length buffer.length)), output) := by
  rw [disassemble, window, if_neg (Nat.not_le.2 h), Listing.run_bind, Listing.run_ofExcept_error]

/-- A window with an error is refused, and nothing but its items is logged. -/
theorem run_disassemble_of_error {bytes : List UInt8} {error : StreamError}
    (resolver : Resolver) (options : Options)
    (hwindow : window buffer start length = .ok bytes)
    (hdecode : decodeAll bytes = .error error) :
    (disassemble buffer start length resolver options).run output =
      (.error (.decode (.stream error)),
        { output with log := output.log ++ Event.ofItems (itemsOf bytes) }) := by
  rw [disassemble, hwindow, Listing.run_bind, Listing.run_ofExcept_ok]
  dsimp only
  rw [Listing.run_bind, run_readInstructions, hdecode]
  rfl

/-- A window whose symbols are all known is listed in full. -/
theorem run_disassemble_of_resolved {bytes : List UInt8} {instrs : List Instruction}
    {resolver : Resolver} (options : Options) (hsink : output.sink.IsUnlimited)
    (hwindow : window buffer start length = .ok bytes)
    (hdecode : decodeAll bytes = .ok instrs)
    (hresolved : ∀ instr ∈ instrs, instr.IsResolved resolver) :
    let outcome := (disassemble buffer start length resolver options).run output
    outcome.1 = .ok instrs.length ∧
    outcome.2.sink.content.toList = output.sink.content.toList ++
      instrs.flatMap (Instruction.listed (branchTargets instrs) resolver options) := by
  have hrun := run_disassemble hsink resolver options hwindow hdecode
  dsimp only at hrun ⊢
  rw [bodyOf_of_resolved _ _ _ hresolved] at hrun
  rw [hrun]
  exact ⟨rfl, hsink.content_put _⟩

/-- A window with a symbol that is not known is listed up to the first operand that asks for
such a symbol. -/
theorem run_disassemble_of_firstUnresolved {bytes : List UInt8}
    {instrs before : List Instruction} {instr : Instruction} {kind : SymbolKind}
    {resolver : Resolver} (options : Options) (hsink : output.sink.IsUnlimited)
    (hwindow : window buffer start length = .ok bytes)
    (hdecode : decodeAll bytes = .ok instrs)
    (hfirst : FirstUnresolved resolver instrs before instr kind) :
    let outcome := (disassemble buffer start length resolver options).run output
    outcome.1 = .error (.unresolved ⟨kind, ⟨instr.operand.toUInt32⟩⟩) ∧
    outcome.2.sink.content.toList = output.sink.content.toList ++
      before.flatMap (Instruction.listed (branchTargets instrs) resolver options) ++
      instr.labelLine (branchTargets instrs) ++ instr.addressLabel options ++
      instr.opcode.mnemonic.toList ++ instr.padding options := by
  have hwidth := (isWellFormed_of_mem_decodeAll hdecode _ hfirst.mem).operandWidth_eq
  have hrun := run_disassemble hsink resolver options hwindow hdecode
  dsimp only at hrun ⊢
  rw [bodyOf_of_firstUnresolved hwidth hfirst] at hrun
  rw [hrun]
  refine ⟨rfl, (hsink.content_put _).trans ?_⟩
  simp only [Instruction.lineHead, List.append_assoc]

/-- A method is listed as the window of its whole body; without a body, or with flags that do
not allow one, it is refused with the output as it was. -/
theorem run_disassembleMethod (method : MethodBody) (options : Options) (output : Output) :
    (method.flags.isIl = false ∨ method.bytes? = none →
      (disassembleMethod method options).run output =
        (.error (.notDecodable method.flags), output)) ∧
    ∀ body : List UInt8, method.flags.isIl = true → method.bytes? = some body →
      (disassembleMethod method options).run output =
        (disassemble body 0 body.length method.resolver options).run output := by
  refine ⟨?_, ?_⟩
  · rintro (hflags | hbody)
    · rw [disassembleMethod, hflags]
      rfl
    · rw [disassembleMethod, hbody]
      cases method.flags.isIl <;> rfl
  · intro body hflags hbody
    rw [disassembleMethod, hflags, hbody]

/-- A buffer that is listed as a text of its own is decoded, all symbols of its instructions are
known, and the text consists of their lines. -/
theorem exists_lines_of_disassembleToString {resolver : Resolver} {options : Options}
    {text : String} (h : (disassembleToString buffer resolver options).1 = .ok text) :
    ∃ instrs : List Instruction, decodeAll buffer = .ok instrs ∧
      (∀ instr ∈ instrs, instr.IsResolved resolver) ∧
      text.toList = (linesOf (isTarget instrs) resolver options instrs).flatMap (· ++ ['\n']) := by
  have hsink : ({} : Output).sink.IsUnlimited := rfl
  have hwindow := window_whole buffer
  rw [disassembleToString] at h
  dsimp only at h
  cases hdecode : decodeAll buffer with
  | error error =>
      rw [run_disassemble_of_error resolver options hwindow hdecode] at h
      cases h
  | ok instrs =>
      have hrun := run_disassemble hsink resolver options hwindow hdecode
      dsimp only at hrun
      by_cases hresolved : ∀ instr ∈ instrs, instr.IsResolved resolver
      · rw [bodyOf_eq_lines instrs resolver options hresolved] at hrun
        rw [hrun] at h
        obtain rfl := Except.ok.inj h
        exact ⟨instrs, rfl, hresolved, hsink.content_put _⟩
      · obtain ⟨before, instr, kind, hfirst⟩ := exists_firstUnresolved hresolved
        obtain ⟨herror, -⟩ :=
          run_disassemble_of_firstUnresolved options hsink hwindow hdecode hfirst
        rw [herror] at h
        cases h

/-- If no name breaks a line, such a text is split into its lines again. -/
theorem splitOn_of_disassembleToString {instrs : List Instruction} {resolver : Resolver}
    {options : Options} {text : String} (hdecode : decodeAll buffer = .ok instrs)
    (hnames : resolver.NamesFitLine)
    (h : (disassembleToString buffer resolver options).1 = .ok text) :
    text.toList.splitOn '\n' = linesOf (isTarget instrs) resolver options instrs ++ [[]] := by
  obtain ⟨found, hfound, hresolved, htext⟩ := exists_lines_of_disassembleToString h
  obtain rfl := Except.ok.inj (hdecode.symm.trans hfound)
  rw [htext]
  apply splitOn_newline
  exact newline_not_mem_linesOf hnames (opcode_mem_of_mem_decodeAll hdecode) hresolved

/-- The outcome of listing a window on a sink without a limit, in every case. A window that
reaches past the buffer and a window with an error are refused with the sink as it was.
Otherwise, with the labels of all instructions, the instructions are listed one after the
other if all their symbols are known; and if not, those before the first one whose symbol is
not known, and of that one the label line, the address, the mnemonic and the padding.

A method is listed as the window of its whole body, unless it is refused with the output as
it was, and the listing as a text of its own is what is put into an empty sink. -/
theorem disassemble_outcome (buffer : List UInt8) (start length : Nat) (resolver : Resolver)
    (options : Options) {output : Output} (hsink : output.sink.IsUnlimited) :
    let bytes := (buffer.drop start).take length
    let outcome := (disassemble buffer start length resolver options).run output
    (buffer.length < start + length →
      outcome = (.error (.decode (.windowOutOfBounds start length buffer.length)), output)) ∧
    (start + length ≤ buffer.length →
      (∀ error : StreamError, .error error ∈ itemsOf bytes →
        outcome.1 = .error (.decode (.stream error)) ∧ outcome.2.sink = output.sink) ∧
      ((∀ error : StreamError, .error error ∉ itemsOf bytes) →
        ∃ instrs : List Instruction, decodeAll bytes = .ok instrs ∧
          ((∀ instr ∈ instrs, instr.IsResolved resolver) →
            outcome.1 = .ok instrs.length ∧
            outcome.2.sink.content.toList = output.sink.content.toList ++
              instrs.flatMap (Instruction.listed (branchTargets instrs) resolver options)) ∧
          ((¬ ∀ instr ∈ instrs, instr.IsResolved resolver) →
            ∃ (before : List Instruction) (instr : Instruction) (kind : SymbolKind),
              FirstUnresolved resolver instrs before instr kind ∧
              outcome.1 = .error (.unresolved ⟨kind, ⟨instr.operand.toUInt32⟩⟩) ∧
              outcome.2.sink.content.toList = output.sink.content.toList ++
                before.flatMap (Instruction.listed (branchTargets instrs) resolver options) ++
                instr.labelLine (branchTargets instrs) ++ instr.addressLabel options ++
                instr.opcode.mnemonic.toList ++ instr.padding options))) ∧
    (∀ method : MethodBody,
      (method.flags.isIl = false ∨ method.bytes? = none →
        (disassembleMethod method options).run output =
          (.error (.notDecodable method.flags), output)) ∧
      ∀ body : List UInt8, method.flags.isIl = true → method.bytes? = some body →
        (disassembleMethod method options).run output =
          (disassemble body 0 body.length method.resolver options).run output) ∧
    (disassembleToString buffer resolver options).1 =
      ((disassemble buffer 0 buffer.length resolver options).run {}).1.map (fun _ =>
        ((disassemble buffer 0 buffer.length resolver options).run {}).2.sink.content) := by
  refine ⟨run_disassemble_of_outOfBounds resolver options, fun hbounds => ?_,
    fun method => run_disassembleMethod method options output, rfl⟩
  have hwindow : window buffer start length = .ok ((buffer.drop start).take length) :=
    window_eq_ok_iff.2 ⟨hbounds, rfl⟩
  refine ⟨?_, ?_⟩
  · intro error herror
    rw [run_disassemble_of_error resolver options hwindow (error_mem_itemsOf_iff.1 herror)]
    exact ⟨rfl, rfl⟩
  · intro hnone
    obtain ⟨instrs, hdecode⟩ := exists_decodeAll_of_no_error hnone
    refine ⟨instrs, hdecode, run_disassemble_of_resolved options hsink hwindow hdecode, ?_⟩
    intro hunresolved
    obtain ⟨before, instr, kind, hfirst⟩ := exists_firstUnresolved hunresolved
    exact ⟨before, instr, kind, hfirst,
      run_disassemble_of_firstUnresolved options hsink hwindow hdecode hfirst⟩

/-- A return, a user string that is not known, and a branch to it, in the middle of a buffer:
the text ends in front of the operand of the second line, behind what was in the sink. -/
theorem disassemble_outcome_unresolved :
    let buffer : List UInt8 := [0xFF, 0x2A, 0x72, 1, 0, 0, 0x70, 0x2B, 0xF9, 0xFF]
    let outcome := (disassemble buffer 1 8 (fun _ _ => none) .resharperLike).run
      { sink := { content := "body\n" } }
    decodeAll ((buffer.drop 1).take 8) =
      .ok [⟨0, ⟨"ret", 0x2A, .inlineNone⟩, 0, 0⟩,
        ⟨1, ⟨"ldstr", 0x72, .inlineString⟩, 4, 0x70000001⟩,
        ⟨6, ⟨"br.s", 0x2B, .shortInlineBrTarget⟩, 1, 0xF9⟩] ∧
    outcome.1 = .error (.unresolved ⟨.string, ⟨0x70000001⟩⟩) ∧
    outcome.2.sink.content.toList =
      "body\nADDR_0000:  ret\nIL_0001:\nADDR_0001:  ldstr        ".toList := by
  have hdecode : decodeAll [0x2A, 0x72, 1, 0, 0, 0x70, 0x2B, 0xF9] =
      .ok [⟨0, ⟨"ret", 0x2A, .inlineNone⟩, 0, 0⟩,
        ⟨1, ⟨"ldstr", 0x72, .inlineString⟩, 4, 0x70000001⟩,
        ⟨6, ⟨"br.s", 0x2B, .shortInlineBrTarget⟩, 1, 0xF9⟩] := by
    decide +kernel
  have hsink : ({ sink := { content := "body\n" } } : Output).sink.IsUnlimited := rfl
  obtain ⟨-, hgranted, -⟩ := disassemble_outcome
    [0xFF, 0x2A, 0x72, 1, 0, 0, 0x70, 0x2B, 0xF9, 0xFF] 1 8 (fun _ _ => none) .resharperLike hsink
  obtain ⟨-, hread⟩ := hgranted (by decide)
  obtain ⟨instrs, hinstrs, -, hunresolved⟩ := hread (by
    intro error herror
    rw [error_mem_itemsOf_iff] at herror
    cases hdecode.symm.trans herror)
  obtain rfl := Except.ok.inj (hdecode.symm.trans hinstrs)
  obtain ⟨before, instr, kind, ⟨⟨after, hsplit⟩, hbefore, hasks, -⟩, herror, hcontent⟩ :=
    hunresolved (by
      intro hall
      have hsome := hall _ (List.mem_of_getElem? (i := 1) rfl) .string rfl
      cases hsome)
  refine ⟨hdecode, ?_⟩
  -- the first instruction asks for no symbol, and the second one cannot stand before another
  rcases before with _ | ⟨first, _ | ⟨second, rest⟩⟩
  · cases hsplit
    cases hasks
  · cases hsplit
    cases hasks
    exact ⟨herror, hcontent.trans (by decide +kernel)⟩
  · obtain ⟨-, hsecond⟩ := List.cons.inj hsplit
    obtain ⟨rfl, -⟩ := List.cons.inj hsecond
    have hsome := hbefore _ (List.mem_of_getElem? (i := 1) rfl) .string rfl
    cases hsome

end Listings

end CilDisassembly
