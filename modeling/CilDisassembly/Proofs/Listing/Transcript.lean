import CilDisassembly.Proofs.Listing.LimitedSink
import CilDisassembly.Proofs.Listing.Outcome
import CilDisassembly.Proofs.Stream.Invariant
import Mathlib.Data.List.Dedup

/-!
# The log of a listing

Reading a window logs a line for every instruction, and a warning in front of it if the window
ends inside the operand. Writing the instructions logs nothing, whatever the sink has room for, so
that two lines at most follow: one when all instructions are read, and one when all of them are
written.

The lines are given by the units of the window and the number of bytes that are left behind each
opcode byte (`unitLines`). What a reader knows of an operand is only how many bytes of it were
there; that this is the number of bytes that were left holds because a unit that is cut short has
nothing behind it.

## What this module delivers

- `traceLine`, `warnLine`, `targetsLine`, `finishedLine` and `unitLines`: the log lines.
- `size_branchTargets`: the number of labels is the number of distinct branch targets.
- `summaryOf`: the events behind the instructions of a decoded window.
- `lines_ofItems_units` and `ofItems_cases`: what reading a window logs.
- `log_disassemble_of_decoded`: what is logged after reading, on any sink.
- `disassemble_log`: the lines that listing a window logs, in every case.
-/

set_option autoImplicit false

namespace CilDisassembly

/-! ## Log lines -/

/-- The line of a decoded instruction. -/
def traceLine (instr : Instruction) : String :=
  "TRACE IL_" ++ String.ofList (Hex.padded 4 instr.offset.toNat) ++ ": " ++ instr.opcode.mnemonic
    ++ " (size " ++ String.ofList (Decimal.ofNat instr.byteSize) ++ ")"

/-- The warning for an instruction of whose operand only `available` bytes are there. -/
def warnLine (instr : Instruction) (available : Nat) : String :=
  "WARN operand of " ++ instr.opcode.mnemonic ++ " at 0x"
    ++ String.ofList (Hex.digits instr.offset.toNat) ++ " truncated: need "
    ++ String.ofList (Decimal.ofNat instr.operandWidth) ++ " bytes, have "
    ++ String.ofList (Decimal.ofNat available)

/-- The line for the branch targets of some instructions. -/
def targetsLine (targets instructions : Nat) : String :=
  "DEBUG " ++ String.ofList (Decimal.ofNat targets) ++ " branch targets across "
    ++ String.ofList (Decimal.ofNat instructions) ++ " instructions"

/-- The line for a window that was listed to its end. -/
def finishedLine (instructions labels bytes : Nat) : String :=
  "DEBUG disassembled " ++ String.ofList (Decimal.ofNat instructions) ++ " instructions ("
    ++ String.ofList (Decimal.ofNat labels) ++ " labels) from "
    ++ String.ofList (Decimal.ofNat bytes) ++ " bytes"

/-- The lines for the units of a window from `offset` on, with `left` bytes of the window from
there on. The operand of a unit can take the bytes that are left behind its opcode byte. -/
def unitLines (offset : UInt32) (left : Nat) : List CodeUnit → List String
  | [] => []
  | unit :: rest =>
      let instr := unit.instruction offset
      let behind := left - (unit.leads.length + 1)
      (if behind < instr.operandWidth then [warnLine instr behind] else []) ++
        traceLine instr ::
          unitLines (offset + UInt32.ofNat unit.byteSize) (left - unit.bytes.length) rest

namespace Event

@[simp] theorem line_decoded (instr : Instruction) :
    (decoded instr).line = traceLine instr := by
  have hfront : "TRACE" ++ " " ++ "IL_" = "TRACE IL_" := by decide
  have hlabel : String.ofList (labelName instr.offset) =
      "IL_" ++ String.ofList (Hex.padded 4 instr.offset.toNat) := by
    rw [← String.toList_inj]
    simp [labelName]
  unfold line message level traceLine
  dsimp only
  rw [hlabel]
  simp only [← hfront, String.append_assoc]

@[simp] theorem line_truncated (instr : Instruction) (present : Nat) :
    (truncated instr present).line = warnLine instr present := by
  have hfront : "WARN" ++ " " ++ "operand of " = "WARN operand of " := by decide
  unfold line message level warnLine
  simp only [← hfront, String.append_assoc]

@[simp] theorem line_labelled (targets instructions : Nat) :
    (labelled targets instructions).line = targetsLine targets instructions := by
  have hfront : "DEBUG" ++ " " = "DEBUG " := by decide
  unfold line message level targetsLine
  simp only [← hfront, String.append_assoc]

@[simp] theorem line_finished (instructions labels bytes : Nat) :
    (finished instructions labels bytes).line = finishedLine instructions labels bytes := by
  have hfront : "DEBUG" ++ " " ++ "disassembled " = "DEBUG disassembled " := by decide
  unfold line message level finishedLine
  simp only [← hfront, String.append_assoc]

end Event

/-! ## The number of labels -/

/-- There are as many labels as distinct branch targets. -/
theorem size_branchTargets (instrs : List Instruction) :
    (branchTargets instrs).size = (instrs.filterMap Instruction.branchTarget?).dedup.length := by
  rw [← Std.ExtTreeSet.length_toList]
  -- neither list has an offset twice, and both have the same offsets
  apply List.Perm.length_eq
  have hdistinct : (branchTargets instrs).toList.Nodup := by
    apply Std.ExtTreeSet.distinct_toList.imp
    intro a b hne heq
    exact hne (Std.LawfulEqCmp.compare_eq_iff_eq.2 heq)
  rw [List.perm_ext_iff_of_nodup hdistinct (List.nodup_dedup _)]
  intro offset
  rw [Std.ExtTreeSet.mem_toList, mem_branchTargets, List.mem_dedup, List.mem_filterMap]

/-! ## What is logged behind the instructions -/

/-- The events that follow the instructions of a decoded window, depending on whether all of
them were listed. -/
def summaryOf (instrs : List Instruction) (length : Nat) (listed : Bool) : List Event :=
  let labels := (branchTargets instrs).size
  .labelled labels instrs.length ::
    (if listed then [.finished instrs.length labels length] else [])

theorem level_of_mem_summaryOf {instrs : List Instruction} {length : Nat} {listed : Bool}
    {event : Event} (h : event ∈ summaryOf instrs length listed) : event.level = "DEBUG" := by
  rcases List.mem_cons.1 h with rfl | hfinished
  · rfl
  · cases listed with
    | false => cases hfinished
    | true =>
        obtain rfl := List.mem_singleton.1 hfinished
        rfl

theorem lines_summaryOf (instrs : List Instruction) (length : Nat) (listed : Bool) :
    (summaryOf instrs length listed).map Event.line =
      let targets := (instrs.filterMap Instruction.branchTarget?).dedup.length
      targetsLine targets instrs.length ::
        (if listed then [finishedLine instrs.length targets length] else []) := by
  rw [summaryOf, size_branchTargets]
  cases listed <;> simp

/-! ## What reading logs -/

/-- An error is not logged. -/
theorem Event.ofItems_eq_decodedOf (items : List Item) :
    Event.ofItems items = Event.ofItems ((decodedOf items).map .ok) := by
  induction items with
  | nil => rfl
  | cons item items ih =>
      cases item with
      | error error => exact ih
      | ok found => exact congrArg (Event.ofItem (.ok found) ++ ·) ih

/-- A unit that is cut short is read with a warning. -/
theorem Event.ofItem_cut {unit : CodeUnit} (offset : UInt32) (h : ¬ unit.IsComplete) :
    Event.ofItem (.ok (unit.decoded offset)) =
      [.truncated (unit.instruction offset) unit.operand.length,
        .decoded (unit.instruction offset)] := by
  have hcut : (unit.decoded offset).isTruncated = true := by
    rw [← Bool.not_eq_false, unit.isTruncated_decoded]
    exact h
  rw [Event.ofItem, hcut]
  rfl

/-- Reading a unit is logged according to the bytes that are left behind its opcode byte. These
are the bytes of its operand, unless the operand is there in full. -/
theorem lines_ofItem_unit (unit : CodeUnit) (offset : UInt32) {behind : List UInt8}
    (h : unit.IsComplete ∨ behind = []) :
    let left := (unit.bytes ++ behind).length - (unit.leads.length + 1)
    (Event.ofItem (.ok (unit.decoded offset))).map Event.line =
      (if left < unit.opcode.operandWidth then [warnLine (unit.instruction offset) left] else []) ++
        [traceLine (unit.instruction offset)] := by
  intro left
  -- the operand and all that stands behind the unit
  have hleft : left = unit.operand.length + behind.length := by
    have hlength := unit.length_bytes
    simp only [left, List.length_append]
    omega
  by_cases hunit : unit.IsComplete
  · have henough : ¬ left < unit.opcode.operandWidth := by
      rw [hleft, hunit]
      omega
    rw [Event.ofItem_complete offset hunit, if_neg henough]
    exact congrArg (fun text => [text]) (Event.line_decoded _)
  · obtain rfl := h.resolve_left hunit
    have hshort : unit.operand.length < unit.opcode.operandWidth :=
      Nat.lt_of_le_of_ne unit.operand_le hunit
    rw [hleft, List.length_nil, Nat.add_zero, Event.ofItem_cut offset hunit, if_pos hshort,
      List.map_cons, List.map_singleton, Event.line_truncated, Event.line_decoded]
    rfl

/-- Reading units is logged with their lines, if nothing stands behind one that is cut short. -/
theorem lines_ofItems_units (offset : UInt32) (units : List CodeUnit) (rest : List UInt8)
    (complete : ∀ unit ∈ units.dropLast, unit.IsComplete)
    (short : rest = [] ∨ ∀ unit ∈ units, unit.IsComplete) :
    (Event.ofItems ((decodedFrom offset units).map .ok)).map Event.line =
      unitLines offset (units.flatMap CodeUnit.bytes ++ rest).length units := by
  induction units generalizing offset with
  | nil => rfl
  | cons unit units ih =>
      -- the first unit is complete, or there is nothing behind it
      have hbehind := isComplete_or_nothing_behind (List.nil_append _).symm complete short
      have hcomplete : ∀ other ∈ units.dropLast, other.IsComplete := by
        intro other hother
        apply complete
        cases units with
        | nil => cases hother
        | cons second units => exact List.mem_cons_of_mem _ hother
      have hshort : rest = [] ∨ ∀ other ∈ units, other.IsComplete :=
        short.imp_right (fun hall other hother => hall other (List.mem_cons_of_mem _ hother))
      have hlength : (unit.bytes ++ (units.flatMap CodeUnit.bytes ++ rest)).length
          - unit.bytes.length = (units.flatMap CodeUnit.bytes ++ rest).length := by
        rw [List.length_append, Nat.add_sub_cancel_left]
      rw [decodedFrom, List.map_cons, Event.ofItems, List.flatMap_cons, List.map_append,
        lines_ofItem_unit unit offset hbehind, List.flatMap_cons, List.append_assoc unit.bytes,
        unitLines, hlength, ← ih _ hcomplete hshort, List.append_assoc]
      rfl

/-- What is read of a window are units, of which only the last one may be cut short. If it is, the
window ends with it and is decoded. -/
theorem exists_units_of_window (bytes : List UInt8) :
    ∃ (units : List CodeUnit) (rest : List UInt8),
      units.flatMap CodeUnit.bytes ++ rest = bytes ∧
      decodedOf (itemsOf bytes) = decodedFrom 0 units ∧
      (∀ unit ∈ units.dropLast, unit.IsComplete) ∧
      ((∀ unit ∈ units, unit.IsComplete) ∨
        rest = [] ∧ decodeAll bytes = .ok (instructionsOf units)) := by
  obtain ⟨⟨units, ending, complete⟩, rfl⟩ := exists_layout bytes
  have hdropLast : ∀ unit ∈ units.dropLast, unit.IsComplete :=
    fun unit hunit => complete unit ((List.dropLast_sublist units).mem hunit)
  rw [itemsOf_layout, decodeAll_layout]
  -- of the endings only a unit that is cut short is read as an instruction
  cases ending with
  | clean =>
      refine ⟨units, [], rfl, ?_, hdropLast, .inl complete⟩
      rw [Ending.items, List.append_nil, decodedOf_map_ok]
  | truncated unit short =>
      refine ⟨units ++ [unit], [], by simp [Layout.bytes, Ending.bytes], ?_, ?_, .inr ⟨rfl, rfl⟩⟩
      · have hitems : (decodedFrom 0 units).map .ok ++
            Ending.items (UInt32.ofNat (totalSize units)) (.truncated unit short) =
              (decodedFrom 0 (units ++ [unit])).map .ok := by
          rw [decodedFrom_concat, UInt32.zero_add, List.map_append]
          rfl
        rw [hitems, decodedOf_map_ok]
      · rw [List.dropLast_concat]
        exact complete
  | unknown leads byte rest hleads hbyte hkey =>
      exact ⟨units, leads ++ byte :: rest, rfl, decodedOf_concat_error _ _, hdropLast,
        .inl complete⟩
  | dangling leads lead hleads hlead =>
      exact ⟨units, leads ++ [lead], rfl, decodedOf_concat_error _ _, hdropLast, .inl complete⟩

/-- The lines that reading a window logs are those of the units that were read. -/
theorem exists_lines_of_window (bytes : List UInt8) :
    ∃ (units : List CodeUnit) (rest : List UInt8),
      units.flatMap CodeUnit.bytes ++ rest = bytes ∧
      (∀ unit ∈ units.dropLast, unit.IsComplete) ∧
      (rest = [] ∨ ∀ unit ∈ units, unit.IsComplete) ∧
      (decodedOf (itemsOf bytes)).map Decoded.instruction = instructionsOf units ∧
      (Event.ofItems (itemsOf bytes)).map Event.line = unitLines 0 bytes.length units := by
  obtain ⟨units, rest, rfl, hdecoded, hcomplete, hcut⟩ := exists_units_of_window bytes
  have hshort : rest = [] ∨ ∀ unit ∈ units, unit.IsComplete := hcut.symm.imp_left And.left
  refine ⟨units, rest, rfl, hcomplete, hshort,
    congrArg (List.map Decoded.instruction) hdecoded, ?_⟩
  rw [Event.ofItems_eq_decodedOf, hdecoded]
  exact lines_ofItems_units 0 units rest hcomplete hshort

/-- Reading a window logs instructions only, or it logs a warning in front of the last one. In
the second case the window is decoded. -/
theorem ofItems_cases (bytes : List UInt8) :
    (∃ instrs : List Instruction, Event.ofItems (itemsOf bytes) = instrs.map Event.decoded) ∨
    ∃ (before : List Instruction) (last : Instruction) (present : Nat),
      Event.ofItems (itemsOf bytes) =
        before.map Event.decoded ++ [.truncated last present, .decoded last] ∧
      decodeAll bytes = .ok (before ++ [last]) := by
  obtain ⟨units, rest, -, hdecoded, hcomplete, hshort⟩ := exists_units_of_window bytes
  rw [Event.ofItems_eq_decodedOf, hdecoded]
  -- a unit that is not complete can only be the last one
  by_cases hall : ∀ unit ∈ units, unit.IsComplete
  · exact .inl ⟨_, Event.ofItems_complete units 0 hall⟩
  · obtain ⟨-, hdecode⟩ := hshort.resolve_left hall
    rcases List.eq_nil_or_concat units with rfl | ⟨before, last, rfl⟩
    · exact absurd (List.forall_mem_nil _) hall
    · rw [List.concat_eq_append] at hcomplete hall hdecode ⊢
      rw [List.dropLast_concat] at hcomplete
      have hcut : ¬ last.IsComplete := fun hlast =>
        hall (List.forall_mem_append.2 ⟨hcomplete, List.forall_mem_singleton.2 hlast⟩)
      refine .inr ⟨instructionsOf before, last.instruction (UInt32.ofNat (totalSize before)),
        last.operand.length, ?_, ?_⟩
      · rw [decodedFrom_concat, UInt32.zero_add, List.map_append, Event.ofItems,
          List.flatMap_append, List.map_singleton, List.flatMap_singleton,
          Event.ofItem_cut _ hcut]
        exact congrArg (· ++ _) (Event.ofItems_complete before 0 hcomplete)
      · rw [hdecode, instructionsOf, decodedFrom_concat, UInt32.zero_add, List.map_append]
        rfl

/-! ## What writing logs -/

namespace Listing

variable {α β : Type}

/-- What is recorded behind a program that only puts text into the sink is logged exactly if the
program succeeds. -/
theorem Puts.log_record {program : Listing α} {text : Text} {result : Except ListingError α}
    (h : program.Puts text result) (events : List Event) (value : β) (output : Output) :
    let outcome := (program >>= fun _ => record events >>= fun _ => pure value).run output
    outcome.2.log.toList = output.log.toList ++ (if outcome.1.isOk then events else []) := by
  have hlog := congrArg Array.toList (h.log_eq output)
  dsimp only
  cases hresult : (program.run output).1 with
  | ok first =>
      rw [run_bind_of_ok _ hresult, run_bind, run_record, ← hlog]
      exact Array.toList_appendList
  | error error =>
      rw [run_bind_of_error _ hresult]
      exact hlog.trans (List.append_nil _).symm

end Listing

section Listings

variable {buffer : List UInt8} {start length : Nat}

/-- Behind what reading logs, listing a window that is decoded logs the number of labels, and a
last event exactly if the window was listed to its end. -/
theorem log_disassemble_of_decoded {bytes : List UInt8} {instrs : List Instruction}
    (resolver : Resolver) (options : Options)
    (hwindow : window buffer start length = .ok bytes)
    (hdecode : decodeAll bytes = .ok instrs) (output : Output) :
    let outcome := (disassemble buffer start length resolver options).run output
    outcome.2.log.toList = output.log.toList ++
      (Event.ofItems (itemsOf bytes) ++ summaryOf instrs length outcome.1.isOk) := by
  have hputs := puts_forM_writeInstruction (branchTargets instrs) resolver options instrs
  dsimp only
  rw [run_disassemble_of_decoded resolver options hwindow hdecode, hputs.log_record,
    Array.toList_appendList, Array.toList_appendList]
  simp only [summaryOf, List.append_assoc, List.singleton_append]

/-- Once a window is decoded, listing it does not end in a decode error, on any sink. -/
theorem result_ne_decode_of_decoded {bytes : List UInt8} {instrs : List Instruction}
    (resolver : Resolver) (options : Options)
    (hwindow : window buffer start length = .ok bytes)
    (hdecode : decodeAll bytes = .ok instrs) (output : Output) (error : DecodeError) :
    ((disassemble buffer start length resolver options).run output).1 ≠
      .error (.decode error) := by
  -- a limit of the sink can only put its own failure in the place of the result
  obtain ⟨text, result, hwrites⟩ := isCutOnly_disassemble buffer start length resolver options
  have hempty : ({} : Output).sink.IsUnlimited := rfl
  have hrun := run_disassemble hempty resolver options hwindow hdecode
  have hresult : result ≠ .error (.decode error) := by
    have hfree := hwrites.result_eq {}
    rw [hempty.fits, if_pos rfl, hrun] at hfree
    rw [← hfree]
    dsimp only
    cases (bodyOf (branchTargets instrs) resolver options instrs).missing? with
    | none => rintro ⟨⟩
    | some missing => rintro ⟨⟩
  rw [hwrites.result_eq output]
  split
  · exact hresult
  · rintro ⟨⟩

end Listings

/-! ## The whole log -/

/-- The levels of reading a window and of what is logged behind it: instructions, at most one
warning, which stands directly before the last one, and then the others. -/
theorem levels_ofItems (bytes : List UInt8) (behind : List Event)
    (hbehind : ∀ event ∈ behind, event.level = "DEBUG") :
    let levels := (Event.ofItems (itemsOf bytes) ++ behind).map Event.level
    levels.count "WARN" ≤ 1 ∧
    ("WARN" ∈ levels →
      (∃ n count : Nat, levels = List.replicate n "TRACE" ++ ["WARN", "TRACE"] ++
        List.replicate count "DEBUG") ∧
      ∃ instrs : List Instruction, decodeAll bytes = .ok instrs) := by
  have hdecoded : ∀ instrs : List Instruction,
      (instrs.map Event.decoded).map Event.level = List.replicate instrs.length "TRACE" := by
    intro instrs
    rw [List.map_map]
    exact List.map_const' ..
  have hlast : behind.map Event.level = List.replicate behind.length "DEBUG" :=
    List.map_eq_replicate_iff.2 hbehind
  dsimp only
  rw [List.map_append, hlast]
  rcases ofItems_cases bytes with ⟨instrs, hitems⟩ | ⟨before, last, present, hitems, hdecode⟩
  · have hnone : "WARN" ∉ List.replicate instrs.length "TRACE" ++
        List.replicate behind.length "DEBUG" := by
      simp [List.mem_replicate]
    rw [hitems, hdecoded, List.count_eq_zero_of_not_mem hnone]
    exact ⟨Nat.zero_le 1, fun hwarn => absurd hwarn hnone⟩
  · rw [hitems, List.map_append, hdecoded]
    refine ⟨?_, fun _ => ⟨⟨before.length, behind.length, rfl⟩, _, hdecode⟩⟩
    simp [Event.level, List.count_replicate]

/-- What listing a window logs behind what is in the log, on every sink. A window that reaches
past the buffer logs nothing. Otherwise the lines of the units that were read come first, also
if an error follows them. If there is none, the line with the number of distinct branch targets
and of instructions follows, and exactly if the listing succeeds the last line behind it.

Hence there is at most one warning. It stands directly before the line of the last instruction,
and if there is one the listing does not end in a decode error. -/
theorem disassemble_log (buffer : List UInt8) (start length : Nat) (resolver : Resolver)
    (options : Options) (output : Output) :
    let bytes := (buffer.drop start).take length
    let outcome := (disassemble buffer start length resolver options).run output
    ∃ events : List Event, outcome.2.log.toList = output.log.toList ++ events ∧
      (buffer.length < start + length → events = []) ∧
      (start + length ≤ buffer.length →
        ∃ (units : List CodeUnit) (rest : List UInt8),
          units.flatMap CodeUnit.bytes ++ rest = bytes ∧
          (∀ unit ∈ units.dropLast, unit.IsComplete) ∧
          (rest = [] ∨ ∀ unit ∈ units, unit.IsComplete) ∧
          (decodedOf (itemsOf bytes)).map Decoded.instruction = instructionsOf units ∧
          (∀ error : StreamError, decodeAll bytes = .error error →
            events.map Event.line = unitLines 0 bytes.length units) ∧
          ∀ instrs : List Instruction, decodeAll bytes = .ok instrs →
            let targets := (instrs.filterMap Instruction.branchTarget?).dedup.length
            events.map Event.line = unitLines 0 bytes.length units ++
              targetsLine targets instrs.length ::
                (if outcome.1.isOk then [finishedLine instrs.length targets length] else [])) ∧
      (events.map Event.level).count "WARN" ≤ 1 ∧
      ("WARN" ∈ events.map Event.level →
        (∃ n count : Nat, events.map Event.level =
          List.replicate n "TRACE" ++ ["WARN", "TRACE"] ++ List.replicate count "DEBUG") ∧
        ∀ error : DecodeError, outcome.1 ≠ .error (.decode error)) := by
  intro bytes outcome
  rcases Nat.lt_or_ge buffer.length (start + length) with hout | hbounds
  · have hrun : outcome = _ := run_disassemble_of_outOfBounds resolver options hout
    refine ⟨[], ?_, fun _ => rfl, fun hbounds => ?_, Nat.zero_le 1, fun hwarn => ?_⟩
    · rw [hrun, List.append_nil]
    · exact absurd hbounds (Nat.not_le.2 hout)
    · cases hwarn
  · have hwindow : window buffer start length = .ok bytes := window_eq_ok_iff.2 ⟨hbounds, rfl⟩
    have hinside : ¬ buffer.length < start + length := Nat.not_lt.2 hbounds
    obtain ⟨units, rest, hbytes, hcomplete, hshort, hinstrs, hlines⟩ :=
      exists_lines_of_window bytes
    cases hdecode : decodeAll bytes with
    | error error =>
        have hrun : outcome = _ := run_disassemble_of_error resolver options hwindow hdecode
        obtain ⟨hcount, hwarn⟩ := levels_ofItems bytes [] (List.forall_mem_nil _)
        refine ⟨Event.ofItems (itemsOf bytes) ++ [], ?_, fun hout => absurd hout hinside,
          fun _ => ?_, hcount, fun hmem => ?_⟩
        · rw [hrun, List.append_nil]
          exact Array.toList_appendList
        · rw [List.append_nil]
          exact ⟨units, rest, hbytes, hcomplete, hshort, hinstrs, fun _ _ => hlines,
            fun _ hok => by cases hok⟩
        · -- a window with a warning is decoded
          obtain ⟨-, instrs, hok⟩ := hwarn hmem
          cases hdecode.symm.trans hok
    | ok instrs =>
        obtain ⟨hcount, hwarn⟩ := levels_ofItems bytes
          (summaryOf instrs length outcome.1.isOk) (fun _ => level_of_mem_summaryOf)
        refine ⟨Event.ofItems (itemsOf bytes) ++ summaryOf instrs length outcome.1.isOk,
          log_disassemble_of_decoded resolver options hwindow hdecode output,
          fun hout => absurd hout hinside, fun _ => ?_, hcount, fun hmem => ?_⟩
        · refine ⟨units, rest, hbytes, hcomplete, hshort, hinstrs, ?_, ?_⟩
          · rintro _ ⟨⟩
          · rintro _ ⟨⟩
            rw [List.map_append, hlines, lines_summaryOf]
        · exact ⟨(hwarn hmem).1,
            result_ne_decode_of_decoded resolver options hwindow hdecode output⟩

/-- A branch to itself, and a constant of which only two operand bytes are there. -/
example : (disassembleToString [0x2B, 0xFE, 0x20, 1, 2] (fun _ _ => none) .plain).2.toList.map
    Event.line =
      ["TRACE IL_0000: br.s (size 2)",
        "WARN operand of ldc.i4 at 0x2 truncated: need 4 bytes, have 2",
        "TRACE IL_0002: ldc.i4 (size 5)",
        "DEBUG 1 branch targets across 2 instructions",
        "DEBUG disassembled 2 instructions (1 labels) from 5 bytes"] := by
  decide +kernel

end CilDisassembly
