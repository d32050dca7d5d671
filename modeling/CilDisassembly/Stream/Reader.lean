import CilDisassembly.Stream.Item

/-!
# Reading a window byte by byte

A reader goes over a byte window one byte at a time. A lead byte is held back
until the byte behind it is read; a later lead byte takes its place. At the first
other byte the opcode is looked up and its operand is taken from the bytes that
follow, as far as there are any.

A reader that has come to the end, or to an error, is marked as ended and hands
out nothing more, even if bytes are left. Each item that is handed out lowers the
bound on the items still to come (`Reader.remaining_next_lt`).
-/

set_option autoImplicit false

namespace CilDisassembly

/-- A place in a byte window, with all that is remembered of the bytes before it. -/
structure Reader where
  /-- The bytes of the window. -/
  window : List UInt8
  /-- The number of bytes read so far. -/
  position : Nat
  /-- The offset of the next instruction. -/
  offset : UInt32
  /-- The lead byte that waits for an opcode byte. -/
  lead? : Option UInt8
  /-- Whether reading is over. -/
  ended : Bool
deriving DecidableEq, Repr

namespace Reader

/-- The reader before the first byte of a window. -/
def start (window : List UInt8) : Reader :=
  ⟨window, 0, 0, none, false⟩

/-- Hand out an error and end. -/
def fail (reader : Reader) (error : StreamError) : Option Item × Reader :=
  (some (.error error), { reader with lead? := none, ended := true })

/-- The operand bytes at the position: `width` of them, or as many as the window
still has. -/
def operandBytes (reader : Reader) (width : Nat) : List UInt8 :=
  (reader.window.drop reader.position).take
    (min width (reader.window.length - reader.position))

/-- Hand out the instruction whose opcode byte was just read. Operand bytes that
are missing count as zero. -/
def readOpcode (reader : Reader) (byte : UInt8) : Option Item × Reader :=
  let key := opcodeKey reader.lead?.toList byte
  match Catalog.ofKey? key with
  | none => reader.fail (.unknownOpcode reader.offset key)
  | some opcode =>
      let operand := reader.operandBytes opcode.operandWidth
      let instr := Instruction.ofOpcode reader.offset opcode (Bytes.packed operand)
      (some (.ok ⟨instr, operand.length⟩),
        { reader with
          position := reader.position + operand.length
          offset := instr.endOffset
          lead? := none })

/-- Read bytes until an item is complete or the window ends. -/
def scan (reader : Reader) : Option Item × Reader :=
  match _h : reader.window[reader.position]? with
  | some byte =>
      if isLeadByte byte then
        scan { reader with position := reader.position + 1, lead? := some byte }
      else { reader with position := reader.position + 1 }.readOpcode byte
  | none =>
      match reader.lead? with
      | some lead => reader.fail (.danglingLead reader.offset lead)
      | none => (none, { reader with ended := true })
termination_by reader.window.length - reader.position
decreasing_by
  obtain ⟨hlt, -⟩ := List.getElem?_eq_some_iff.1 _h
  show reader.window.length - (reader.position + 1) < reader.window.length - reader.position
  omega

/-- The next item, if there is one, and the reader after it. -/
def next (reader : Reader) : Option Item × Reader :=
  if reader.ended then (none, reader) else reader.scan

/-! ## One step of a scan -/

/-- A lead byte is held back, whatever was held back before it. -/
theorem scan_of_lead {reader : Reader} {byte : UInt8}
    (h : reader.window[reader.position]? = some byte) (hlead : isLeadByte byte = true) :
    reader.scan =
      scan { reader with position := reader.position + 1, lead? := some byte } := by
  rw [scan]
  split
  · next heq =>
      rw [h] at heq
      cases heq
      exact if_pos hlead
  · next heq => rw [h] at heq; cases heq

/-- Any other byte is an opcode byte. -/
theorem scan_of_not_lead {reader : Reader} {byte : UInt8}
    (h : reader.window[reader.position]? = some byte) (hlead : isLeadByte byte = false) :
    reader.scan = { reader with position := reader.position + 1 }.readOpcode byte := by
  rw [scan]
  split
  · next heq =>
      rw [h] at heq
      cases heq
      rw [hlead]
      rfl
  · next heq => rw [h] at heq; cases heq

/-- At the end of the window only a lead byte that still waits is an error. -/
theorem scan_of_end {reader : Reader} (h : reader.window[reader.position]? = none) :
    reader.scan =
      match reader.lead? with
      | some lead => reader.fail (.danglingLead reader.offset lead)
      | none => (none, { reader with ended := true }) := by
  rw [scan]
  split
  · next heq => rw [h] at heq; cases heq
  · rfl

/-! ## Every item is a step towards the end -/

/-- A bound on the number of items that are still to come. -/
def remaining (reader : Reader) : Nat :=
  if reader.ended then 0 else reader.window.length - reader.position + 1

theorem remaining_of_not_ended {reader : Reader} (h : reader.ended = false) :
    reader.remaining = reader.window.length - reader.position + 1 := by
  simp [remaining, h]

/-- A byte that is read brings a reader closer to its end. -/
theorem remaining_of_byte_lt {reader : Reader} (h : reader.ended = false) {byte : UInt8}
    (hbyte : reader.window[reader.position]? = some byte) (lead? : Option UInt8) :
    remaining { reader with position := reader.position + 1, lead? := lead? } <
      reader.remaining := by
  obtain ⟨hlt, -⟩ := List.getElem?_eq_some_iff.1 hbyte
  have hread : remaining { reader with position := reader.position + 1, lead? := lead? } =
      reader.window.length - (reader.position + 1) + 1 := remaining_of_not_ended h
  rw [hread, remaining_of_not_ended h]
  omega

/-- The operand behind an opcode byte brings a reader no further back. -/
theorem remaining_readOpcode_le (reader : Reader) (byte : UInt8) :
    (reader.readOpcode byte).2.remaining ≤ reader.remaining := by
  unfold readOpcode
  simp only
  split
  · exact Nat.zero_le _
  · simp only [remaining]
    split
    · exact Nat.le_refl _
    · omega

/-- Scanning for an item brings a reader closer to its end. -/
theorem remaining_scan_lt {reader : Reader} (h : reader.ended = false) :
    reader.scan.2.remaining < reader.remaining := by
  fun_induction scan reader with
  | case1 reader byte hbyte hlead ih =>
      exact Nat.lt_trans (ih h) (remaining_of_byte_lt h hbyte (some byte))
  | case2 reader byte hbyte hlead =>
      exact Nat.lt_of_le_of_lt (remaining_readOpcode_le _ byte)
        (remaining_of_byte_lt h hbyte reader.lead?)
  | case3 reader hend lead hlead =>
      rw [remaining_of_not_ended h]
      exact Nat.succ_pos _
  | case4 reader hend hlead =>
      rw [remaining_of_not_ended h]
      exact Nat.succ_pos _

/-- A reader that hands out an item has fewer to come after it. -/
theorem remaining_next_lt {reader after : Reader} {item : Item}
    (h : reader.next = (some item, after)) : after.remaining < reader.remaining := by
  cases hended : reader.ended with
  | true =>
      rw [next, hended] at h
      cases h
  | false =>
      have hlt := remaining_scan_lt hended
      rw [next, hended] at h
      simp only [Bool.false_eq_true, if_false] at h
      rw [h] at hlt
      exact hlt

/-! ## Several items -/

/-- All items from here on, and the reader after them. -/
def drain (reader : Reader) : List Item × Reader :=
  match _h : reader.next with
  | (none, after) => ([], after)
  | (some item, after) =>
      let rest := after.drain
      (item :: rest.1, rest.2)
termination_by reader.remaining
decreasing_by exact remaining_next_lt _h

/-- The outcome of reading a number of items: the items that were read, the one
that was asked for, and the reader after them. -/
structure Found where
  /-- The items that were read, the one asked for included. -/
  seen : List Item
  /-- The item that was asked for, unless the stream ended before it. -/
  item? : Option Item
  /-- The reader after the items that were read. -/
  after : Reader

/-- Skip `count` items of any sort and read the one that follows. Nothing is read
behind the end. -/
def nth (reader : Reader) (count : Nat) : Found :=
  match reader.next, count with
  | (none, after), _ => ⟨[], none, after⟩
  | (some item, after), 0 => ⟨[item], some item, after⟩
  | (some item, after), count + 1 =>
      let later := after.nth count
      { later with seen := item :: later.seen }

/-- At the end there is nothing to skip to. -/
theorem nth_of_none {reader after : Reader} (h : reader.next = (none, after)) (count : Nat) :
    reader.nth count = ⟨[], none, after⟩ := by
  unfold nth
  rw [h]

theorem nth_zero_of_some {reader after : Reader} {item : Item}
    (h : reader.next = (some item, after)) : reader.nth 0 = ⟨[item], some item, after⟩ := by
  unfold nth
  rw [h]

/-- An item that is skipped is read all the same. -/
theorem nth_succ_of_some {reader after : Reader} {item : Item}
    (h : reader.next = (some item, after)) (count : Nat) :
    reader.nth (count + 1) =
      ⟨item :: (after.nth count).seen, (after.nth count).item?, (after.nth count).after⟩ := by
  rw [nth.eq_def, h]

end Reader

end CilDisassembly
