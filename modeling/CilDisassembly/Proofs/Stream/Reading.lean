import CilDisassembly.Proofs.Opcode.Key
import CilDisassembly.Proofs.Stream.CodeUnit
import CilDisassembly.Stream.Reader

/-!
# A reader is a cursor

A reader remembers a lead byte and whether it has ended; a cursor remembers neither.
Between two items no lead byte waits, and a reader that has ended reads like one with
no bytes left. So a reader between two items is a cursor (`Reader.cursor`), and reading
byte by byte is reading item by item (`Reader.next_eq_cursor`, `Reader.drain_eq_cursor`).

Each kind of unit and ending is followed through the bytes once (`Reader.next_unit`,
`Reader.next_unknown`, `Reader.next_dangling`, `Reader.next_end`). All else is taken
over from the cursor.
-/

set_option autoImplicit false

namespace CilDisassembly

namespace Reader

/-! ## Bytes at a position -/

theorem getElem?_of_drop {window rest : List UInt8} {position : Nat} {byte : UInt8}
    (h : window.drop position = byte :: rest) : window[position]? = some byte := by
  have hfirst : (window.drop position)[0]? = window[position + 0]? := List.getElem?_drop
  rw [h] at hfirst
  simpa using hfirst.symm

theorem getElem?_of_drop_nil {window : List UInt8} {position : Nat}
    (h : window.drop position = []) : window[position]? = none :=
  List.getElem?_eq_none (List.drop_eq_nil_iff.1 h)

theorem drop_add_of_drop {window front rest : List UInt8} {position : Nat}
    (h : window.drop position = front ++ rest) :
    window.drop (position + front.length) = rest := by
  rw [← List.drop_drop, h, List.drop_left]

/-- The position behind bytes that are there lies within the window. -/
theorem add_length_le_of_drop {window front rest : List UInt8} {position : Nat}
    (h : window.drop position = front ++ rest) (hposition : position ≤ window.length) :
    position + front.length ≤ window.length := by
  have hlength := congrArg List.length h
  rw [List.length_drop, List.length_append] at hlength
  omega

/-- An operand that is there in full, or that the window ends with, is read as it is. -/
theorem operandBytes_of_drop (reader : Reader) {operand rest : List UInt8} {width : Nat}
    (hdrop : reader.window.drop reader.position = operand ++ rest)
    (hle : operand.length ≤ width) (h : operand.length = width ∨ rest = []) :
    reader.operandBytes width = operand := by
  have hlength := congrArg List.length hdrop
  rw [List.length_drop, List.length_append] at hlength
  unfold operandBytes
  rw [hdrop, hlength]
  rcases h with rfl | rfl
  · rw [Nat.min_eq_left (Nat.le_add_right _ _), List.take_left]
  · rw [List.length_nil, Nat.add_zero, Nat.min_eq_right hle, List.take_left]

/-! ## The bytes of one item -/

section Item

variable {window : List UInt8} {position : Nat}

/-- Of a run of lead bytes the last one is held back. -/
theorem scan_leads (offset : UInt32) (lead? : Option UInt8) (ended : Bool)
    {leads rest : List UInt8} (hdrop : window.drop position = leads ++ rest)
    (hleads : ∀ lead ∈ leads, isLeadByte lead = true) :
    (Reader.mk window position offset lead? ended).scan =
      (Reader.mk window (position + leads.length) offset (leads.getLast?.or lead?) ended).scan := by
  -- every byte moves the position and takes the place of the one held back before
  induction leads generalizing position lead? with
  | nil => rfl
  | cons lead leads ih =>
      obtain ⟨hlead, hleads⟩ := List.forall_mem_cons.1 hleads
      have hcons : window.drop position = [lead] ++ (leads ++ rest) := hdrop
      have hrest : window.drop (position + 1) = leads ++ rest := drop_add_of_drop hcons
      rw [scan_of_lead (getElem?_of_drop hdrop) hlead]
      show (Reader.mk window (position + 1) offset (some lead) ended).scan = _
      rw [ih (some lead) hrest hleads, List.length_cons, Nat.add_assoc, Nat.add_comm 1]
      cases hlast : leads.getLast? <;> simp [List.getLast?_cons, hlast]

/-- At a unit the instruction of the unit is handed out, and the reader moves behind the
unit. Only the last unit of a window may be incomplete. -/
theorem next_unit (offset : UInt32) (unit : CodeUnit) {rest : List UInt8}
    (hdrop : window.drop position = unit.bytes ++ rest)
    (h : unit.IsComplete ∨ rest = []) :
    (Reader.mk window position offset none false).next =
      (some (.ok (unit.decoded offset)),
        ⟨window, position + unit.bytes.length, offset + UInt32.ofNat unit.byteSize, none,
          false⟩) := by
  have hbytes : window.drop position = unit.leads ++ unit.byte :: (unit.operand ++ rest) := by
    rw [hdrop]
    simp [CodeUnit.bytes]
  have hbyte : window.drop (position + unit.leads.length) =
      [unit.byte] ++ (unit.operand ++ rest) := drop_add_of_drop hbytes
  have hoperand := drop_add_of_drop hbyte
  show (Reader.mk window position offset none false).scan = _
  rw [scan_leads offset none false hbytes unit.leads_lead,
    scan_of_not_lead (getElem?_of_drop hbyte) unit.byte_not_lead]
  -- the byte behind the lead bytes gives the key, and what follows it the operand
  have hread := operandBytes_of_drop
    ⟨window, position + unit.leads.length + 1, offset, unit.leads.getLast?.or none, false⟩
    hoperand unit.operand_le h
  simp only [readOpcode, Option.or_none, opcodeKey_getLast, unit.key_opcode] at hread ⊢
  rw [hread, unit.packed_operand, unit.length_bytes]
  simp only [Nat.add_assoc]
  rfl

/-- At a key that no opcode has reading ends. -/
theorem next_unknown (offset : UInt32) {leads rest : List UInt8} {byte : UInt8}
    (hdrop : window.drop position = leads ++ byte :: rest)
    (hleads : ∀ lead ∈ leads, isLeadByte lead = true) (hbyte : isLeadByte byte = false)
    (hkey : Catalog.ofKey? (opcodeKey leads byte) = none) :
    (Reader.mk window position offset none false).next =
      (some (.error (.unknownOpcode offset (opcodeKey leads byte))),
        ⟨window, position + (leads.length + 1), offset, none, true⟩) := by
  show (Reader.mk window position offset none false).scan = _
  rw [scan_leads offset none false hdrop hleads,
    scan_of_not_lead (getElem?_of_drop (drop_add_of_drop hdrop)) hbyte]
  simp only [readOpcode, Option.or_none, opcodeKey_getLast, hkey, fail, Nat.add_assoc]

/-- Lead bytes with nothing behind them end reading, and the last one is reported. -/
theorem next_dangling (offset : UInt32) {leads : List UInt8} {lead : UInt8}
    (hdrop : window.drop position = leads ++ [lead])
    (hleads : ∀ before ∈ leads, isLeadByte before = true) (hlead : isLeadByte lead = true) :
    (Reader.mk window position offset none false).next =
      (some (.error (.danglingLead offset lead)),
        ⟨window, position + (leads.length + 1), offset, none, true⟩) := by
  have hall : ∀ byte ∈ leads ++ [lead], isLeadByte byte = true :=
    List.forall_mem_append.2 ⟨hleads, List.forall_mem_singleton.2 hlead⟩
  have hbytes : window.drop position = (leads ++ [lead]) ++ [] := by rw [hdrop, List.append_nil]
  show (Reader.mk window position offset none false).scan = _
  rw [scan_leads offset none false hbytes hall,
    scan_of_end (getElem?_of_drop_nil (drop_add_of_drop hbytes))]
  simp [fail]

/-- Behind the last byte nothing is handed out. -/
theorem next_end (offset : UInt32) (hdrop : window.drop position = []) :
    (Reader.mk window position offset none false).next =
      (none, ⟨window, position, offset, none, true⟩) := by
  show (Reader.mk window position offset none false).scan = _
  rw [scan_of_end (getElem?_of_drop_nil hdrop)]

/-- A reader that has ended stays as it is. -/
@[simp] theorem next_of_ended (position : Nat) (offset : UInt32) (lead? : Option UInt8) :
    (Reader.mk window position offset lead? true).next =
      (none, ⟨window, position, offset, lead?, true⟩) := rfl

end Item

end Reader

/-! ## Readers as cursors -/

namespace Cursor

/-- The item that a cursor stands before. -/
def item? (cursor : Cursor) : Option Item :=
  cursor.next?.map Prod.fst

/-- The cursor behind the next item. At the end of the stream a cursor stays. -/
def forward (cursor : Cursor) : Cursor :=
  (cursor.next?.map Prod.snd).getD cursor

theorem item?_of_next? {cursor : Cursor} {outcome : Option (Item × Cursor)}
    (h : cursor.next? = outcome) : cursor.item? = outcome.map Prod.fst := by
  rw [item?, h]

theorem forward_of_next? {cursor : Cursor} {outcome : Option (Item × Cursor)}
    (h : cursor.next? = outcome) :
    cursor.forward = (outcome.map Prod.snd).getD cursor := by
  rw [forward, h]

end Cursor

namespace Reader

/-- A reader between two items: no lead byte waits, and the position is one of the
window. -/
structure IsSettled (reader : Reader) : Prop where
  lead?_eq : reader.lead? = none
  position_le : reader.position ≤ reader.window.length

/-- The bytes that a reader is still to read. -/
def unread (reader : Reader) : List UInt8 :=
  if reader.ended then [] else reader.window.drop reader.position

/-- What a reader between two items is, apart from how it came there. -/
def cursor (reader : Reader) : Cursor :=
  ⟨reader.unread, reader.position, reader.offset⟩

theorem isSettled_start (window : List UInt8) : (start window).IsSettled :=
  ⟨rfl, Nat.zero_le _⟩

@[simp] theorem cursor_start (window : List UInt8) :
    (start window).cursor = Cursor.start window := rfl

/-- A reader at a unit goes on as its cursor does. -/
theorem next_eq_cursor_of_unit {window rest : List UInt8} {position : Nat} (offset : UInt32)
    (unit : CodeUnit) (hposition : position ≤ window.length)
    (hdrop : window.drop position = unit.bytes ++ rest) (h : unit.IsComplete ∨ rest = []) :
    let reader := Reader.mk window position offset none false
    reader.next.1 = reader.cursor.item? ∧ reader.next.2.cursor = reader.cursor.forward ∧
      reader.next.2.IsSettled := by
  intro reader
  have hcursor : reader.cursor = ⟨unit.bytes ++ rest, position, offset⟩ :=
    congrArg (Cursor.mk · position offset) hdrop
  have hnext := Cursor.next?_unit unit rest position offset h
  rw [next_unit offset unit hdrop h, hcursor, Cursor.item?_of_next? hnext,
    Cursor.forward_of_next? hnext]
  refine ⟨rfl, ?_, rfl, add_length_le_of_drop hdrop hposition⟩
  exact congrArg (Cursor.mk · _ _) (drop_add_of_drop hdrop)

/-- A reader between two items hands out the item that its cursor stands before, and
goes on as the cursor does. -/
theorem next_eq_cursor {reader : Reader} (h : reader.IsSettled) :
    reader.next.1 = reader.cursor.item? ∧ reader.next.2.cursor = reader.cursor.forward ∧
      reader.next.2.IsSettled := by
  obtain ⟨window, position, offset, lead?, ended⟩ := reader
  obtain ⟨rfl, hposition⟩ := h
  cases ended with
  | true => exact ⟨rfl, rfl, rfl, hposition⟩
  | false =>
      -- the bytes ahead start with a complete unit, or they are an ending
      rcases exists_ending_or_unit (window.drop position) with
        ⟨ending, hending⟩ | ⟨unit, rest, hunit, hbytes⟩
      · have hcursor : (Reader.mk window position offset none false).cursor =
            ⟨ending.bytes, position, offset⟩ := congrArg (Cursor.mk · _ _) hending.symm
        have hlength := add_length_le_of_drop
          (hending.symm.trans (List.append_nil _).symm) hposition
        cases ending with
        | clean =>
            rw [next_end offset hending.symm, hcursor]
            exact ⟨rfl, rfl, rfl, hposition⟩
        | truncated unit short =>
            have hdrop : window.drop position = unit.bytes ++ [] :=
              hending.symm.trans (List.append_nil _).symm
            exact next_eq_cursor_of_unit offset unit hposition hdrop (.inr rfl)
        | unknown leads byte rest hleads hbyte hkey =>
            have hnext := Cursor.next?_unknown rest position offset hleads hbyte hkey
            rw [next_unknown offset hending.symm hleads hbyte hkey, hcursor, Ending.bytes,
              Cursor.item?_of_next? hnext, Cursor.forward_of_next? hnext]
            refine ⟨rfl, rfl, rfl, ?_⟩
            simp only [Ending.bytes, List.length_append, List.length_cons] at hlength ⊢
            omega
        | dangling leads lead hleads hlead =>
            have hnext := Cursor.next?_dangling position offset hleads hlead
            rw [next_dangling offset hending.symm hleads hlead, hcursor, Ending.bytes,
              Cursor.item?_of_next? hnext, Cursor.forward_of_next? hnext]
            refine ⟨rfl, rfl, rfl, ?_⟩
            simpa [Ending.bytes] using hlength
      · exact next_eq_cursor_of_unit offset unit hposition hbytes.symm (.inl hunit)

/-- All items of a reader between two items are those of its cursor. -/
theorem drain_eq_cursor {reader : Reader} (h : reader.IsSettled) :
    reader.drain.1 = reader.cursor.items ∧ reader.drain.2.cursor = reader.cursor.last ∧
      reader.drain.2.IsSettled := by
  fun_induction drain reader with
  | case1 reader after hnext =>
      obtain ⟨hitem, hcursor, hsettled⟩ := next_eq_cursor h
      rw [hnext] at hitem hcursor hsettled
      have hnone : reader.cursor.next? = none := Option.map_eq_none_iff.1 hitem.symm
      rw [Cursor.forward_of_next? hnone] at hcursor
      rw [Cursor.items_of_next?_eq_none hnone, Cursor.last_of_next?_eq_none hnone]
      exact ⟨rfl, hcursor, hsettled⟩
  | case2 reader item after hnext rest ih =>
      obtain ⟨hitem, hcursor, hsettled⟩ := next_eq_cursor h
      rw [hnext] at hitem hcursor hsettled
      obtain ⟨⟨found, place⟩, hsome, rfl⟩ := Option.map_eq_some_iff.1 hitem.symm
      rw [Cursor.forward_of_next? hsome] at hcursor
      obtain ⟨hitems, hlast, hend⟩ := ih hsettled
      rw [Cursor.items_of_next?_eq_some hsome, Cursor.last_of_next?_eq_some hsome]
      rw [hcursor] at hitems hlast
      exact ⟨congrArg (found :: ·) hitems, hlast, hend⟩

/-- Reading a window byte by byte gives its items. -/
theorem drain_start (window : List UInt8) : (start window).drain.1 = itemsOf window :=
  (drain_eq_cursor (isSettled_start window)).1

/-- Where a reader stands when it has read a whole window. -/
theorem place_drain_start (window : List UInt8) :
    (start window).drain.2.position = (Cursor.start window).last.position ∧
      (start window).drain.2.offset = (Cursor.start window).last.offset := by
  have hlast := (drain_eq_cursor (isSettled_start window)).2.1
  rw [cursor_start] at hlast
  rw [← hlast]
  exact ⟨rfl, rfl⟩

end Reader

end CilDisassembly
