import CilDisassembly.Proofs.Stream.Canonical
import CilDisassembly.Proofs.Stream.Offsets
import CilDisassembly.Proofs.Stream.Reading
import CilDisassembly.Proofs.Stream.WellFormed
import Mathlib.Algebra.BigOperators.Group.List.Basic

/-!
# The progress of a reader

A reader that was asked for some items has read units of the window, one after the other,
and perhaps the bytes of an error behind them (`Progress`). One request keeps this
(`Progress.next`), hence any number of them does (`progress_pull`).

The position of a reader and the offset it counts drift apart in both directions: lead
bytes that do not count are read and not counted, and operand bytes that are missing are
counted and not read. `length_units` balances the two over the units that were read.
-/

set_option autoImplicit false

namespace CilDisassembly

/-! ## Bytes that are read and bytes that count -/

namespace Place

/-- The number of lead bytes from a place on that do not count. -/
def superseded (place : Place) : List UInt8 → Nat
  | [] => 0
  | byte :: rest =>
      (if place.isSuperseded byte rest then 1 else 0) + (place.next byte).superseded rest

/-- The lead bytes that do not count are those that are left out. -/
theorem length_withoutSuperseded (place : Place) (bytes : List UInt8) :
    (place.withoutSuperseded bytes).length + place.superseded bytes = bytes.length := by
  induction bytes generalizing place with
  | nil => rfl
  | cons byte rest ih =>
      have hrest := ih (place.next byte)
      unfold withoutSuperseded superseded
      by_cases hbyte : place.isSuperseded byte rest = true
      · simp only [if_pos hbyte, List.length_cons]
        omega
      · simp only [if_neg hbyte, List.length_cons]
        omega

theorem foldl_next_leads (lead? : Option UInt8) {leads : List UInt8}
    (hleads : ∀ lead ∈ leads, isLeadByte lead = true) :
    leads.foldl next ⟨lead?, 0⟩ = ⟨leads.getLast?.or lead?, 0⟩ := by
  induction leads generalizing lead? with
  | nil => rfl
  | cons lead leads ih =>
      obtain ⟨hlead, hleads⟩ := List.forall_mem_cons.1 hleads
      have hnext : (Place.mk lead? 0).next lead = ⟨some lead, 0⟩ := if_pos hlead
      rw [List.foldl_cons, hnext, ih (some lead) hleads]
      cases hlast : leads.getLast? <;> simp [List.getLast?_cons, hlast]

theorem foldl_next_operand {operand : List UInt8} {left : Nat} (h : operand.length ≤ left) :
    operand.foldl next ⟨none, left⟩ = ⟨none, left - operand.length⟩ := by
  induction operand generalizing left with
  | nil => rfl
  | cons byte operand ih =>
      cases left with
      | zero => cases h
      | succ left =>
          rw [List.length_cons] at h
          have hle : operand.length ≤ left := by omega
          rw [List.length_cons, Nat.add_sub_add_right]
          exact ih hle

/-- Behind a unit as many operand bytes are to come as are missing. -/
theorem foldl_next_unit (unit : CodeUnit) :
    unit.bytes.foldl next start = ⟨none, unit.missing⟩ := by
  have hbyte : (Place.mk unit.leads.getLast? 0).next unit.byte =
      ⟨none, unit.opcode.operandWidth⟩ := by
    simp [next, unit.byte_not_lead, opcodeKey_getLast, unit.key_opcode]
  rw [CodeUnit.bytes, List.foldl_append, start, foldl_next_leads none unit.leads_lead,
    Option.or_none, List.foldl_cons, hbyte, foldl_next_operand unit.operand_le]
  rfl

end Place

namespace CodeUnit

/-- Nothing is missing from a complete unit. -/
theorem missing_eq_zero {unit : CodeUnit} (h : unit.IsComplete) : unit.missing = 0 := by
  rw [missing, h, Nat.sub_self]

/-- A unit in canonical form has the bytes it counts for. -/
theorem length_bytes_canonical (unit : CodeUnit) :
    unit.canonical.bytes.length = unit.byteSize := by
  have hencode : (unit.instruction 0).encode = unit.canonical.bytes :=
    unit.encode_instruction 0
  rw [← hencode, Instruction.length_encode]
  rfl

theorem length_bytes_pos (unit : CodeUnit) : 0 < unit.bytes.length := by
  rw [unit.length_bytes]
  omega

end CodeUnit

/-- The number of operand bytes that are missing from some units. -/
def totalMissing (units : List CodeUnit) : Nat :=
  (units.map CodeUnit.missing).sum

/-- Behind units as many operand bytes are to come as are missing. -/
theorem left_foldl_next_units (units : List CodeUnit)
    (h : ∀ unit ∈ units.dropLast, unit.IsComplete) :
    ((units.flatMap CodeUnit.bytes).foldl Place.next Place.start).left =
      totalMissing units := by
  induction units with
  | nil => rfl
  | cons unit units ih =>
      rw [List.flatMap_cons, List.foldl_append, Place.foldl_next_unit]
      cases units with
      | nil => simp [totalMissing]
      | cons second units =>
          -- only the last unit can lack bytes, so the next one starts afresh
          obtain ⟨hunit, hunits⟩ := List.forall_mem_cons.1 h
          have hmissing := CodeUnit.missing_eq_zero hunit
          have hrest := ih hunits
          rw [totalMissing, List.map_cons, List.sum_cons, hmissing, Nat.zero_add]
          exact hrest

theorem length_flatMap_canonical (units : List CodeUnit) :
    ((units.map CodeUnit.canonical).flatMap CodeUnit.bytes).length = totalSize units := by
  induction units with
  | nil => rfl
  | cons unit units ih =>
      rw [List.map_cons, List.flatMap_cons, List.length_append, ih,
        CodeUnit.length_bytes_canonical, totalSize_cons]

/-- The bytes of units, and those that are missing, are the bytes that the units count
for and the lead bytes that do not count. -/
theorem length_units (units : List CodeUnit)
    (h : ∀ unit ∈ units.dropLast, unit.IsComplete) :
    (units.flatMap CodeUnit.bytes).length + totalMissing units =
      totalSize units + Place.start.superseded (units.flatMap CodeUnit.bytes) := by
  have hcanonical := congrArg List.length (canonical_units units h)
  have hwithout := Place.start.length_withoutSuperseded (units.flatMap CodeUnit.bytes)
  rw [length_flatMap_canonical, canonical, Place.canonical, List.length_append,
    List.length_replicate, left_foldl_next_units units h] at hcanonical
  omega

/-! ## Requests -/

/-- The items that `count` requests for the next item bring, and the reader after them. -/
def Reader.pull (window : List UInt8) : (count : Nat) → List Item × Reader
  | 0 => ([], start window)
  | count + 1 =>
      let before := pull window count
      (before.1 ++ before.2.next.1.toList, before.2.next.2)

/-- How a reader has come to where it stands: what it has handed out, and how its window
is laid out up to there. -/
inductive Progress (window : List UInt8) : List Item → Reader → Prop where
  /-- Units were read and nothing else. If the last one was cut short, nothing follows. -/
  | reading (units : List CodeUnit) (rest : List UInt8) (ended : Bool)
      (layout : units.flatMap CodeUnit.bytes ++ rest = window)
      (complete : ∀ unit ∈ units.dropLast, unit.IsComplete)
      (short : rest = [] ∨ ∀ unit ∈ units, unit.IsComplete)
      (stop : ended = true → rest = []) :
      Progress window ((decodedFrom 0 units).map .ok)
        ⟨window, (units.flatMap CodeUnit.bytes).length, UInt32.ofNat (totalSize units), none,
          ended⟩
  /-- Behind complete units an error was found. -/
  | failed (units : List CodeUnit) (rest : List UInt8) (error : StreamError) (used : Nat)
      (layout : units.flatMap CodeUnit.bytes ++ rest = window)
      (complete : ∀ unit ∈ units, unit.IsComplete) (used_pos : 0 < used)
      (used_le : used ≤ rest.length) :
      Progress window ((decodedFrom 0 units).map .ok ++ [.error error])
        ⟨window, (units.flatMap CodeUnit.bytes).length + used,
          UInt32.ofNat (totalSize units), none, true⟩

namespace Progress

variable {window : List UInt8} {items : List Item} {reader : Reader}

theorem start (window : List UInt8) : Progress window [] (.start window) :=
  reading [] window false rfl (by simp) (.inr (by simp)) (by simp)

/-- One more unit is read. -/
theorem behind_unit {units : List CodeUnit} {unit : CodeUnit} {rest : List UInt8}
    (layout : units.flatMap CodeUnit.bytes ++ (unit.bytes ++ rest) = window)
    (complete : ∀ other ∈ units, other.IsComplete) (h : unit.IsComplete ∨ rest = []) :
    Progress window
      ((decodedFrom 0 units).map .ok ++
        [.ok (unit.decoded (UInt32.ofNat (totalSize units)))])
      ⟨window, (units.flatMap CodeUnit.bytes).length + unit.bytes.length,
        UInt32.ofNat (totalSize units) + UInt32.ofNat unit.byteSize, none, false⟩ := by
  have hlayout : (units ++ [unit]).flatMap CodeUnit.bytes ++ rest = window := by
    simpa using layout
  have hcomplete : ∀ other ∈ (units ++ [unit]).dropLast, other.IsComplete := by
    rw [List.dropLast_concat]
    exact complete
  have hshort : rest = [] ∨ ∀ other ∈ units ++ [unit], other.IsComplete := by
    rcases h with h | h
    · exact .inr (List.forall_mem_append.2 ⟨complete, List.forall_mem_singleton.2 h⟩)
    · exact .inl h
  have hread := reading (units ++ [unit]) rest false hlayout hcomplete hshort (by simp)
  rw [decodedFrom_concat, UInt32.zero_add, List.map_append, List.flatMap_append,
    List.length_append] at hread
  simpa [totalSize, UInt32.ofNat_add] using hread

/-- A request keeps the progress of a reader. -/
theorem next (h : Progress window items reader) :
    Progress window (items ++ reader.next.1.toList) reader.next.2 := by
  cases h with
  | failed units rest error used layout complete used_pos used_le =>
      rw [Reader.next_of_ended, Option.toList_none, List.append_nil]
      exact failed units rest error used layout complete used_pos used_le
  | reading units rest ended layout complete short stop =>
      cases ended with
      | true =>
          rw [Reader.next_of_ended, Option.toList_none, List.append_nil]
          exact reading units rest true layout complete short stop
      | false =>
          have hdrop : window.drop (units.flatMap CodeUnit.bytes).length = rest := by
            rw [← layout, List.drop_left]
          -- the bytes ahead decide; if there are any, no unit before was cut short
          rcases exists_ending_or_unit rest with ⟨ending, rfl⟩ | ⟨unit, rest, hunit, rfl⟩
          · cases ending with
            | clean =>
                rw [Reader.next_end _ hdrop, Option.toList_none, List.append_nil]
                exact reading units [] true layout complete short (fun _ => rfl)
            | truncated unit hshort =>
                have hall := short.resolve_left
                  (List.ne_nil_of_length_pos unit.length_bytes_pos)
                have hdrop' : window.drop (units.flatMap CodeUnit.bytes).length =
                    unit.bytes ++ [] := hdrop.trans (List.append_nil _).symm
                rw [Reader.next_unit _ unit hdrop' (.inr rfl)]
                exact behind_unit (by simpa [Ending.bytes] using layout) hall (.inr rfl)
            | unknown leads byte behind hleads hbyte hkey =>
                have hall := short.resolve_left (by simp [Ending.bytes])
                rw [Reader.next_unknown _ hdrop hleads hbyte hkey]
                exact failed units _ _ _ layout hall (Nat.succ_pos _) (by simp [Ending.bytes])
            | dangling leads lead hleads hlead =>
                have hall := short.resolve_left (by simp [Ending.bytes])
                rw [Reader.next_dangling _ hdrop hleads hlead]
                exact failed units _ _ _ layout hall (Nat.succ_pos _) (by simp [Ending.bytes])
          · have hall := short.resolve_left (by simp [CodeUnit.bytes])
            rw [Reader.next_unit _ unit hdrop (.inl hunit)]
            exact behind_unit layout hall (.inl hunit)

end Progress

/-- After any number of requests a reader has made progress. -/
theorem progress_pull (window : List UInt8) (count : Nat) :
    Progress window (Reader.pull window count).1 (Reader.pull window count).2 := by
  induction count with
  | zero => exact Progress.start window
  | succ count ih => exact ih.next

end CilDisassembly
