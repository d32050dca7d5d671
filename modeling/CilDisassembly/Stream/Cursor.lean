import CilDisassembly.Stream.Item

/-!
# Reading an instruction stream

A cursor stands between two items of a byte window. Reading the next item skips
a run of lead bytes, takes the opcode byte after it and as many operand bytes as
the opcode asks for. Lead bytes do not count towards the offset by themselves:
the offset advances by the size of each instruction.

Every item uses up at least one byte (`Cursor.next?_unread_length_lt`), so that a
window can be read to its end (`Cursor.drain`, `decodeAll`).
-/

set_option autoImplicit false

namespace CilDisassembly

/-- A place in a byte window between two items. -/
structure Cursor where
  /-- The bytes still to be read; none once the stream has ended. -/
  unread : List UInt8
  /-- The number of bytes read so far. -/
  position : Nat
  /-- The offset of the next instruction. -/
  offset : UInt32
deriving DecidableEq, Repr

namespace Cursor

/-- The cursor before the first item of a window. -/
def start (window : List UInt8) : Cursor :=
  ⟨window, 0, 0⟩

/-- The end of the stream after an error that used up `count` bytes: whatever
follows is never read. -/
def abandon (cursor : Cursor) (count : Nat) : Cursor :=
  { cursor with unread := [], position := cursor.position + count }

/-- The instruction of an opcode that `rest` follows. The operand is taken from
the front of `rest`; bytes that are missing count as zero. -/
def decodeOperand (offset : UInt32) (opcode : Opcode) (rest : List UInt8) : Decoded :=
  let operand := rest.take opcode.operandWidth
  ⟨Instruction.ofOpcode offset opcode (Bytes.packed operand), operand.length⟩

/-- The next item of the stream and the cursor after it, or nothing at the end of
the stream. -/
def next? (cursor : Cursor) : Option (Item × Cursor) :=
  let leads := cursor.unread.takeWhile isLeadByte
  match cursor.unread.dropWhile isLeadByte with
  | [] =>
      -- nothing is left, or nothing but lead bytes
      leads.getLast?.map (fun lead =>
        (.error (.danglingLead cursor.offset lead), cursor.abandon leads.length))
  | byte :: rest =>
      let key := opcodeKey leads byte
      match Catalog.ofKey? key with
      | none =>
          -- an opcode of unknown width: where the next one starts cannot be told
          some (.error (.unknownOpcode cursor.offset key),
            cursor.abandon (leads.length + 1))
      | some opcode =>
          let decoded := decodeOperand cursor.offset opcode rest
          some (.ok decoded,
            { unread := rest.drop opcode.operandWidth
              position := cursor.position + leads.length + 1 + decoded.present
              offset := decoded.instruction.endOffset })

/-! ## Every item uses up bytes -/

/-- The bytes after a run of lead bytes are no more than all bytes. -/
theorem length_dropWhile_le (bytes : List UInt8) :
    (bytes.dropWhile isLeadByte).length ≤ bytes.length :=
  (List.dropWhile_sublist isLeadByte).length_le

/-- Reading an item shortens the unread part. -/
theorem next?_unread_length_lt {cursor after : Cursor} {item : Item}
    (h : cursor.next? = some (item, after)) :
    after.unread.length < cursor.unread.length := by
  have hle := length_dropWhile_le cursor.unread
  unfold next? at h
  simp only at h
  split at h
  · -- the stream ends after lead bytes, so there was at least one of them
    simp only [Option.map_eq_some_iff, Prod.mk.injEq] at h
    obtain ⟨lead, hlead, _, rfl⟩ := h
    cases hbytes : cursor.unread with
    | nil => simp [hbytes] at hlead
    | cons byte rest => simp [abandon]
  · next byte rest hdrop =>
      rw [hdrop, List.length_cons] at hle
      split at h
      · -- an unknown opcode ends the stream
        simp only [Option.some.injEq, Prod.mk.injEq] at h
        obtain ⟨_, rfl⟩ := h
        simp only [abandon, List.length_nil]
        omega
      · -- an instruction uses up its opcode byte at least
        simp only [Option.some.injEq, Prod.mk.injEq] at h
        obtain ⟨_, rfl⟩ := h
        simp only [List.length_drop]
        omega

/-! ## All remaining items -/

/-- All items from the cursor on, and the cursor after the last of them. -/
def drain (cursor : Cursor) : List Item × Cursor :=
  match _h : cursor.next? with
  | none => ([], cursor)
  | some (item, after) =>
      let rest := after.drain
      (item :: rest.1, rest.2)
termination_by cursor.unread.length
decreasing_by exact next?_unread_length_lt _h

/-- The items from the cursor on. -/
def items (cursor : Cursor) : List Item :=
  cursor.drain.1

/-- The cursor at the end of the stream. -/
def last (cursor : Cursor) : Cursor :=
  cursor.drain.2

/-- At the end of the stream nothing remains. -/
theorem drain_of_next?_eq_none {cursor : Cursor} (h : cursor.next? = none) :
    cursor.drain = ([], cursor) := by
  rw [drain]
  split
  · rfl
  · next heq => rw [h] at heq; cases heq

/-- Before an item, the remaining items are that item and those after it. -/
theorem drain_of_next?_eq_some {cursor after : Cursor} {item : Item}
    (h : cursor.next? = some (item, after)) :
    cursor.drain = (item :: after.drain.1, after.drain.2) := by
  rw [drain]
  split
  · next heq => rw [h] at heq; cases heq
  · next item' after' heq =>
      rw [h] at heq
      cases heq
      rfl

theorem items_of_next?_eq_none {cursor : Cursor} (h : cursor.next? = none) :
    cursor.items = [] := by
  rw [items, drain_of_next?_eq_none h]

theorem items_of_next?_eq_some {cursor after : Cursor} {item : Item}
    (h : cursor.next? = some (item, after)) : cursor.items = item :: after.items := by
  rw [items, drain_of_next?_eq_some h, items]

theorem last_of_next?_eq_none {cursor : Cursor} (h : cursor.next? = none) :
    cursor.last = cursor := by
  rw [last, drain_of_next?_eq_none h]

theorem last_of_next?_eq_some {cursor after : Cursor} {item : Item}
    (h : cursor.next? = some (item, after)) : cursor.last = after.last := by
  rw [last, drain_of_next?_eq_some h, last]

end Cursor

/-- All items of a window. -/
def itemsOf (window : List UInt8) : List Item :=
  (Cursor.start window).items

/-- The instructions of a window, or the error that ends it. -/
def decodeAll (window : List UInt8) : Except StreamError (List Instruction) :=
  Item.instructions (itemsOf window)

end CilDisassembly
