import CilDisassembly.Proofs.Listing.Outcome

/-!
# What a listing asks a resolver for

An instruction asks for at most one symbol, whose kind its operand fixes and whose token are the
low 32 bits of its operand. A listing asks for these symbols in the order of the instructions
(`demandsOf`), and stops at the first one that the resolver does not know. It asks for nothing
else, so that two resolvers which give the same answers up to there (`Resolver.AgreesUntilOpen`)
cannot be told apart by a listing, on any sink (`disassemble_eq_of_agrees`). In particular an
entry of a symbol table that is not asked for makes no difference.
-/

set_option autoImplicit false

namespace CilDisassembly

/-! ## Demands -/

/-- A symbol that is asked for. -/
structure Demand where
  /-- The kind of the symbol. -/
  kind : SymbolKind
  /-- The token that names it. -/
  token : Token
deriving DecidableEq, Repr

/-- The symbol that an instruction asks for. A token of unspecified kind is asked for as a type,
and a signature is not asked for. -/
def Instruction.demand? (instr : Instruction) : Option Demand :=
  match instr.opcode.operand with
  | .inlineMethod => some ⟨.method, ⟨instr.operand.toUInt32⟩⟩
  | .inlineField => some ⟨.field, ⟨instr.operand.toUInt32⟩⟩
  | .inlineString => some ⟨.string, ⟨instr.operand.toUInt32⟩⟩
  | .inlineType | .inlineTok => some ⟨.type, ⟨instr.operand.toUInt32⟩⟩
  | .inlineBrTarget | .inlineI | .inlineI8 | .inlineNone | .inlinePhi | .inlineR | .inlineSig
  | .inlineSwitch | .inlineVar | .shortInlineBrTarget | .shortInlineI | .shortInlineR
  | .shortInlineVar => none

/-- The symbols that instructions ask for, in order. -/
def demandsOf (instrs : List Instruction) : List Demand :=
  instrs.filterMap Instruction.demand?

namespace Resolver

/-- The answer of a resolver to a demand. -/
def answer? (resolver : Resolver) (demand : Demand) : Option demand.kind.Value :=
  resolver demand.kind demand.token

/-- Two resolvers give the same answers to all demands up to and including the first one that
the first resolver leaves open, if there is one, and to all demands otherwise. -/
def AgreesUntilOpen (first second : Resolver) (demands : List Demand) : Prop :=
  ∀ (before after : List Demand) (demand : Demand), demands = before ++ demand :: after →
    (∀ other ∈ before, (first.answer? other).isSome = true) →
    first.answer? demand = second.answer? demand

/-- Resolvers agree on the first demand, and if it is not left open, on the others as well. -/
theorem agreesUntilOpen_cons_iff {first second : Resolver} {demand : Demand}
    {rest : List Demand} :
    first.AgreesUntilOpen second (demand :: rest) ↔
      first.answer? demand = second.answer? demand ∧
        ((first.answer? demand).isSome = true → first.AgreesUntilOpen second rest) := by
  constructor
  · intro h
    refine ⟨h [] rest demand rfl (List.forall_mem_nil _), ?_⟩
    rintro hsome before after later rfl hbefore
    exact h (demand :: before) after later rfl (List.forall_mem_cons.2 ⟨hsome, hbefore⟩)
  · rintro ⟨hdemand, hrest⟩ before after later hsplit hbefore
    cases before with
    | nil =>
        cases hsplit
        exact hdemand
    | cons other before =>
        obtain ⟨rfl, rfl⟩ := List.cons.inj hsplit
        obtain ⟨hsome, hbefore⟩ := List.forall_mem_cons.1 hbefore
        exact hrest hsome before after later rfl hbefore

/-- Resolvers that give the same answer to every demand agree. -/
theorem agreesUntilOpen_of_forall {first second : Resolver} {demands : List Demand}
    (h : ∀ demand ∈ demands, first.answer? demand = second.answer? demand) :
    first.AgreesUntilOpen second demands := by
  rintro before after demand rfl -
  exact h demand (List.mem_append_right before List.mem_cons_self)

end Resolver

/-- An entry that is not asked for changes no answer to a demand, also if its token is asked for
as a symbol of another kind. -/
theorem SymbolTable.agreesUntilOpen_insert (table : SymbolTable) {entry : SymbolEntry}
    {demands : List Demand} (h : ⟨entry.kind, entry.token⟩ ∉ demands) :
    (table.insert entry).resolve.AgreesUntilOpen table.resolve demands := by
  apply Resolver.agreesUntilOpen_of_forall
  intro demand hdemand
  apply table.resolve_insert_of_ne
  rintro ⟨hkind, htoken⟩
  apply h
  rw [hkind, htoken]
  exact hdemand

/-! ## One instruction -/

namespace Instruction

variable {instr : Instruction}

/-- An instruction whose operand asks for a symbol has a demand. -/
theorem demand?_of_symbol? {kind : SymbolKind} (h : instr.opcode.operand.symbol? = some kind) :
    instr.demand? = some ⟨kind, instr.operandToken⟩ := by
  rw [demand?]
  cases hoperand : instr.opcode.operand <;> rw [hoperand] at h <;> cases h <;> rfl

/-- An instruction that has a demand asks for a symbol. -/
theorem symbol?_of_demand? {demand : Demand} (h : instr.demand? = some demand) :
    instr.opcode.operand.symbol? = some demand.kind ∧ demand.token = instr.operandToken := by
  rw [demand?] at h
  cases hoperand : instr.opcode.operand <;> rw [hoperand] at h <;> cases h <;> exact ⟨rfl, rfl⟩

/-- An operand whose demand is left open cannot be written. -/
theorem operandText_of_open {resolver : Resolver} {demand : Demand}
    (hwidth : instr.operandWidth = instr.opcode.operandWidth)
    (hdemand : instr.demand? = some demand) (hopen : resolver.answer? demand = none) :
    instr.operandText resolver = .error ⟨demand.kind, demand.token⟩ := by
  obtain ⟨hkind, htoken⟩ := symbol?_of_demand? hdemand
  rw [Resolver.answer?, htoken] at hopen
  rw [htoken]
  exact operandText_of_unresolved hwidth hkind hopen

/-- The operand is the same text for resolvers that give the same answer to the demand. -/
theorem operandText_eq_of_answer {first second : Resolver}
    (h : ∀ demand : Demand, instr.demand? = some demand →
      first.answer? demand = second.answer? demand) :
    instr.operandText first = instr.operandText second := by
  rw [operandText, operandText]
  cases hkind : instr.opcode.operand.symbol? with
  | none => rfl
  | some kind =>
      have hanswer : first kind instr.operandToken = second kind instr.operandToken :=
        h _ (demand?_of_symbol? hkind)
      dsimp only
      rw [hanswer]

end Instruction

/-! ## Listings -/

section Agreement

variable {first second : Resolver} (labels : LabelSet) (options : Options)

/-- Instructions have the same body for resolvers that agree on their demands. -/
theorem bodyOf_eq_of_agrees {instrs : List Instruction}
    (hwidth : ∀ instr ∈ instrs, instr.operandWidth = instr.opcode.operandWidth)
    (h : first.AgreesUntilOpen second (demandsOf instrs)) :
    bodyOf labels first options instrs = bodyOf labels second options instrs := by
  induction instrs with
  | nil => rfl
  | cons instr rest ih =>
      obtain ⟨hinstr, hrest⟩ := List.forall_mem_cons.1 hwidth
      cases hdemand : instr.demand? with
      | none =>
          have hdemands : demandsOf (instr :: rest) = demandsOf rest :=
            List.filterMap_cons_none hdemand
          have htext : instr.operandText first = instr.operandText second := by
            apply Instruction.operandText_eq_of_answer
            intro demand hasked
            cases hdemand.symm.trans hasked
          rw [hdemands] at h
          rw [bodyOf, bodyOf, htext, ih hrest h]
      | some demand =>
          have hdemands : demandsOf (instr :: rest) = demand :: demandsOf rest :=
            List.filterMap_cons_some hdemand
          rw [hdemands] at h
          obtain ⟨hanswer, hothers⟩ := Resolver.agreesUntilOpen_cons_iff.1 h
          have htext : instr.operandText first = instr.operandText second := by
            apply Instruction.operandText_eq_of_answer
            intro other hasked
            obtain rfl := Option.some.inj (hdemand.symm.trans hasked)
            exact hanswer
          rw [bodyOf, bodyOf, htext]
          cases hopen : first.answer? demand with
          | none =>
              -- the body ends here, so that the other instructions do not matter
              rw [hanswer] at hopen
              rw [Instruction.operandText_of_open hinstr hdemand hopen]
          | some symbol =>
              rw [hopen] at hothers
              rw [ih hrest (hothers rfl)]

/-- A window that is decoded is listed in the same way by resolvers that agree on the demands of
its instructions. -/
theorem run_disassemble_eq_of_agrees {buffer bytes : List UInt8} {start length : Nat}
    {instrs : List Instruction} (hwindow : window buffer start length = .ok bytes)
    (hdecode : decodeAll bytes = .ok instrs)
    (h : first.AgreesUntilOpen second (demandsOf instrs)) (output : Output) :
    (disassemble buffer start length first options).run output =
      (disassemble buffer start length second options).run output := by
  have hwidth : ∀ instr ∈ instrs, instr.operandWidth = instr.opcode.operandWidth :=
    fun instr hinstr => (isWellFormed_of_mem_decodeAll hdecode instr hinstr).operandWidth_eq
  -- what is written, and with which result, is known from the body
  have hfirst := puts_forM_writeInstruction (branchTargets instrs) first options instrs
  have hsecond := puts_forM_writeInstruction (branchTargets instrs) second options instrs
  rw [bodyOf_eq_of_agrees _ options hwidth h] at hfirst
  rw [run_disassemble_of_decoded first options hwindow hdecode,
    run_disassemble_of_decoded second options hwindow hdecode, Listing.run_bind,
    Listing.run_bind, hfirst.run_eq, hsecond.run_eq]

end Agreement

/-- A window that is decoded is listed with the same result, text and log by any two resolvers
that give the same answers to the demands of its instructions, up to and including the first one
that the first resolver leaves open. This holds for all options and all sinks. In particular an
entry that is added to a symbol table has no effect if it is not asked for. -/
theorem disassemble_eq_of_agrees {buffer bytes : List UInt8} {start length : Nat}
    {instrs : List Instruction} (hwindow : window buffer start length = .ok bytes)
    (hdecode : decodeAll bytes = .ok instrs) :
    (∀ first second : Resolver, first.AgreesUntilOpen second (demandsOf instrs) →
      ∀ (options : Options) (output : Output),
        (disassemble buffer start length first options).run output =
          (disassemble buffer start length second options).run output) ∧
    ∀ (table : SymbolTable) (entry : SymbolEntry),
      ⟨entry.kind, entry.token⟩ ∉ demandsOf instrs →
      ∀ (options : Options) (output : Output),
        (disassemble buffer start length (table.insert entry).resolve options).run output =
          (disassemble buffer start length table.resolve options).run output := by
  constructor
  · intro first second hagrees options output
    exact run_disassemble_eq_of_agrees options hwindow hdecode hagrees output
  · intro table entry hentry options output
    exact run_disassemble_eq_of_agrees options hwindow hdecode
      (table.agreesUntilOpen_insert hentry) output

/-- A user string that is known, a call of a method that is not, and a type with the token of
the string: a resolver that knows a type the other one does not know makes no difference behind
the call, and neither does a field with the token of the string. The sink has room for forty
characters, which is enough to write the string and to ask for the method. -/
theorem disassemble_eq_of_agrees_behind_open :
    let buffer : List UInt8 := [0x72, 1, 0, 0, 0x70, 0x28, 2, 0, 0, 0x0A, 0xD0, 1, 0, 0, 0x70]
    let instrs : List Instruction := [⟨0, ⟨"ldstr", 0x72, .inlineString⟩, 4, 0x70000001⟩,
      ⟨5, ⟨"call", 0x28, .inlineMethod⟩, 4, 0x0A000002⟩,
      ⟨10, ⟨"ldtoken", 0xD0, .inlineTok⟩, 4, 0x70000001⟩]
    let table : SymbolTable := .ofEntries [⟨.string, ⟨0x70000001⟩, "text"⟩]
    let richer : SymbolTable := table.insert ⟨.type, ⟨0x70000001⟩, "T"⟩
    let output : Output := { sink := { room := some 40 } }
    decodeAll buffer = .ok instrs ∧
    demandsOf instrs =
      [⟨.string, ⟨0x70000001⟩⟩, ⟨.method, ⟨0x0A000002⟩⟩, ⟨.type, ⟨0x70000001⟩⟩] ∧
    table.resolve.AgreesUntilOpen richer.resolve (demandsOf instrs) ∧
    table.resolve .type ⟨0x70000001⟩ ≠ richer.resolve .type ⟨0x70000001⟩ ∧
    ((disassemble buffer 0 15 table.resolve .standard).run output).1 =
      .error (.unresolved ⟨.method, ⟨0x0A000002⟩⟩) ∧
    ((disassemble buffer 0 15 table.resolve .standard).run output).2.sink.content =
      "ldstr        \"text\"\ncall         " ∧
    (disassemble buffer 0 15 table.resolve .standard).run output =
      (disassemble buffer 0 15 richer.resolve .standard).run output ∧
    (disassemble buffer 0 15 (table.insert ⟨.field, ⟨0x70000001⟩, ⟨"T", "f"⟩⟩).resolve
        .standard).run output =
      (disassemble buffer 0 15 table.resolve .standard).run output := by
  intro buffer instrs table richer output
  have hdecode : decodeAll buffer = .ok instrs := by decide +kernel
  have hdemands : demandsOf instrs =
      [⟨.string, ⟨0x70000001⟩⟩, ⟨.method, ⟨0x0A000002⟩⟩, ⟨.type, ⟨0x70000001⟩⟩] := by
    decide +kernel
  have htype : table.resolve .type ⟨0x70000001⟩ ≠ richer.resolve .type ⟨0x70000001⟩ := by
    show _ ≠ (table.insert ⟨.type, ⟨0x70000001⟩, "T"⟩).resolve .type ⟨0x70000001⟩
    rw [table.resolve_insert_self ⟨.type, ⟨0x70000001⟩, "T"⟩]
    decide +kernel
  have hagrees : table.resolve.AgreesUntilOpen richer.resolve (demandsOf instrs) := by
    rw [hdemands, Resolver.agreesUntilOpen_cons_iff, Resolver.agreesUntilOpen_cons_iff]
    refine ⟨by decide +kernel, fun _ => ⟨by decide +kernel, fun hopen => ?_⟩⟩
    -- the call is left open, so that nothing is asked behind it
    exact absurd hopen (by decide +kernel)
  obtain ⟨hsame, hinsert⟩ := disassemble_eq_of_agrees (window_whole buffer) hdecode
  refine ⟨hdecode, hdemands, hagrees, htype, by decide +kernel, by decide +kernel,
    hsame _ _ hagrees .standard output, ?_⟩
  exact hinsert table ⟨.field, ⟨0x70000001⟩, ⟨"T", "f"⟩⟩ (by rw [hdemands]; decide) .standard output

end CilDisassembly
