import CilDisassembly.Proofs.Stream.Grammar
import CilDisassembly.Proofs.Stream.Progress
import CilDisassembly.Stream.Walk
import Mathlib.Logic.Function.Iterate

/-!
# A walk is a bookmark in a list of items

The items of a window are one list, and all that can be seen of a walk follows from that
list and a number, the bookmark. What a reader remembers besides, such as bytes that are
left behind an error, has no effect.

A reader stands at a number of items if it is, as a cursor, that many steps behind the
start (`Reader.StandsAt`). Each way to read keeps this, and so does each move of a walk
(`Walk.IsAt.step`), hence every sequence of moves.

## What this module delivers

- `Cursor.items_iterate_forward` and `Cursor.iterate_forward_of_length_le`: where a cursor
  stands after a number of steps.
- `Reader.StandsAt`, with one lemma for each way to read.
- `Bookmark` and its moves.
- `Walk.sights_start`: what can be seen of a walk is what can be seen of a bookmark.
-/

set_option autoImplicit false

namespace CilDisassembly

/-! ## Steps of a cursor -/

namespace Cursor

/-- At a cursor there is an item and a cursor behind it, or nothing remains. -/
theorem next?_cases (cursor : Cursor) :
    (cursor.items = [] ∧ cursor.item? = none ∧ cursor.forward = cursor ∧
      cursor.last = cursor) ∨
    ∃ item : Item, cursor.items = item :: cursor.forward.items ∧
      cursor.item? = some item ∧ cursor.last = cursor.forward.last := by
  cases hnext : cursor.next? with
  | none =>
      exact .inl ⟨items_of_next?_eq_none hnext, item?_of_next? hnext, forward_of_next? hnext,
        last_of_next?_eq_none hnext⟩
  | some found =>
      obtain ⟨item, after⟩ := found
      have hforward : cursor.forward = after := forward_of_next? hnext
      rw [hforward]
      exact .inr ⟨item, items_of_next?_eq_some hnext, item?_of_next? hnext,
        last_of_next?_eq_some hnext⟩

theorem item?_eq_head? (cursor : Cursor) : cursor.item? = cursor.items.head? := by
  rcases cursor.next?_cases with ⟨hitems, hitem, -, -⟩ | ⟨item, hitems, hitem, -⟩
  · rw [hitems, hitem, List.head?_nil]
  · rw [hitems, hitem, List.head?_cons]

theorem items_forward (cursor : Cursor) : cursor.forward.items = cursor.items.tail := by
  rcases cursor.next?_cases with ⟨hitems, -, hforward, -⟩ | ⟨item, hitems, -, -⟩
  · rw [hforward, hitems, List.tail_nil]
  · rw [hitems, List.tail_cons]

theorem last_forward (cursor : Cursor) : cursor.forward.last = cursor.last := by
  rcases cursor.next?_cases with ⟨-, -, hforward, -⟩ | ⟨item, -, -, hlast⟩
  · rw [hforward]
  · exact hlast.symm

/-- Where nothing remains the stream is at its end. -/
theorem last_of_items_eq_nil {cursor : Cursor} (h : cursor.items = []) :
    cursor.last = cursor := by
  rcases cursor.next?_cases with ⟨-, -, -, hlast⟩ | ⟨item, hitems, -, -⟩
  · exact hlast
  · rw [h] at hitems
    cases hitems

/-- Steps forward leave out as many items. -/
theorem items_iterate_forward (cursor : Cursor) (count : Nat) :
    (forward^[count] cursor).items = cursor.items.drop count := by
  induction count with
  | zero => rfl
  | succ count ih => rw [Function.iterate_succ_apply', items_forward, ih, List.tail_drop]

theorem item?_iterate_forward (cursor : Cursor) (count : Nat) :
    (forward^[count] cursor).item? = cursor.items[count]? := by
  rw [item?_eq_head?, items_iterate_forward, List.head?_drop]

theorem last_iterate_forward (cursor : Cursor) (count : Nat) :
    (forward^[count] cursor).last = cursor.last := by
  induction count with
  | zero => rfl
  | succ count ih => rw [Function.iterate_succ_apply', last_forward, ih]

/-- After as many steps as there are items, or more, a cursor is at the end. -/
theorem iterate_forward_of_length_le {cursor : Cursor} {count : Nat}
    (h : cursor.items.length ≤ count) : forward^[count] cursor = cursor.last := by
  have hitems : (forward^[count] cursor).items = [] := by
    rw [items_iterate_forward, List.drop_of_length_le h]
  rw [← last_of_items_eq_nil hitems, last_iterate_forward]

end Cursor

/-! ## Where a reader stands -/

namespace Reader

/-- A reader stands at a number of items: as a cursor it has taken as many steps. At the
end it may have been asked for more than there are. -/
structure StandsAt (window : List UInt8) (reader : Reader) (count : Nat) : Prop where
  settled : reader.IsSettled
  cursor_eq : reader.cursor = Cursor.forward^[count] (Cursor.start window)

theorem standsAt_start (window : List UInt8) : StandsAt window (start window) 0 :=
  ⟨isSettled_start window, cursor_start window⟩

namespace StandsAt

variable {window : List UInt8} {reader : Reader} {count : Nat}

/-- A number of items behind the last one is as good as any other. -/
theorem of_end (h : StandsAt window reader count) {other : Nat}
    (hcount : (itemsOf window).length ≤ count) (hother : (itemsOf window).length ≤ other) :
    StandsAt window reader other := by
  refine ⟨h.settled, ?_⟩
  rw [h.cursor_eq, Cursor.iterate_forward_of_length_le hcount,
    Cursor.iterate_forward_of_length_le hother]

/-- Items that are not there need not be counted. -/
theorem min_length (h : StandsAt window reader count) :
    StandsAt window reader (min count (itemsOf window).length) := by
  by_cases hcount : count ≤ (itemsOf window).length
  · rw [Nat.min_eq_left hcount]
    exact h
  · have hle : (itemsOf window).length ≤ count := by omega
    rw [Nat.min_eq_right hle]
    exact h.of_end hle (Nat.le_refl _)

/-- The next item is the one at the number of items. -/
theorem next (h : StandsAt window reader count) :
    reader.next.1 = (itemsOf window)[count]? ∧ StandsAt window reader.next.2 (count + 1) := by
  obtain ⟨hitem, hcursor, hsettled⟩ := next_eq_cursor h.settled
  rw [h.cursor_eq, Cursor.item?_iterate_forward] at hitem
  rw [h.cursor_eq, ← Function.iterate_succ_apply' Cursor.forward count] at hcursor
  exact ⟨hitem, hsettled, hcursor⟩

/-- The item behind some that are skipped, wherever the stream ends. -/
theorem nth {reader : Reader} {count : Nat} (h : StandsAt window reader count)
    (skipped : Nat) :
    (reader.nth skipped).item? = (itemsOf window)[count + skipped]? ∧
      StandsAt window (reader.nth skipped).after (count + skipped + 1) := by
  obtain ⟨hitem, hafter⟩ := h.next
  rcases hnext : reader.next with ⟨_ | item, after⟩
  · -- the stream ends before the item, so more requests change nothing
    rw [hnext] at hitem hafter
    have hle : (itemsOf window).length ≤ count := List.getElem?_eq_none_iff.1 hitem.symm
    rw [Reader.nth_of_none hnext]
    constructor
    · exact (List.getElem?_eq_none (by omega)).symm
    · exact hafter.of_end (by omega) (by omega)
  · rw [hnext] at hitem hafter
    cases skipped with
    | zero =>
        rw [Reader.nth_zero_of_some hnext]
        exact ⟨hitem, hafter⟩
    | succ skipped =>
        obtain ⟨hlater, hstands⟩ := hafter.nth skipped
        rw [Reader.nth_succ_of_some hnext]
        have hcount : count + 1 + skipped = count + (skipped + 1) := by omega
        rw [hcount] at hlater hstands
        exact ⟨hlater, hstands⟩

/-- The remaining items are those from the number of items on. -/
theorem drain (h : StandsAt window reader count) :
    reader.drain.1 = (itemsOf window).drop count ∧
      StandsAt window reader.drain.2 (itemsOf window).length := by
  obtain ⟨hitems, hlast, hsettled⟩ := drain_eq_cursor h.settled
  rw [h.cursor_eq, Cursor.items_iterate_forward] at hitems
  rw [h.cursor_eq, Cursor.last_iterate_forward] at hlast
  refine ⟨hitems, hsettled, ?_⟩
  rw [hlast]
  exact (Cursor.iterate_forward_of_length_le (Nat.le_refl _)).symm

end StandsAt

theorem standsAt_pull (window : List UInt8) (count : Nat) :
    StandsAt window (pull window count).2 count := by
  induction count with
  | zero => exact standsAt_start window
  | succ count ih => exact ih.next.2

/-- Position and offset of a reader follow from the number of items it stands at. -/
theorem StandsAt.place_eq {window : List UInt8} {reader : Reader} {count : Nat}
    (h : StandsAt window reader count) :
    reader.position = (pull window count).2.position ∧
      reader.offset = (pull window count).2.offset := by
  have hcursor := h.cursor_eq.trans (standsAt_pull window count).cursor_eq.symm
  exact ⟨congrArg Cursor.position hcursor, congrArg Cursor.offset hcursor⟩

end Reader

/-! ## Bookmarks -/

/-- Whether an answer brings nothing. -/
def Answer.IsEmpty : Answer → Prop
  | .item item? => item? = none
  | .items all => all = []
  | .count number => number = 0
  | .done => True

/-- A place in a list of items, and a place to go back to. -/
structure Bookmark (items : List Item) where
  /-- The number of items before the place. -/
  current : Nat
  /-- The number of items before the place saved last. -/
  saved : Nat
  current_le : current ≤ items.length
  saved_le : saved ≤ items.length

namespace Bookmark

variable {items : List Item}

/-- The bookmark before the first item. -/
def start (items : List Item) : Bookmark items :=
  ⟨0, 0, Nat.zero_le _, Nat.zero_le _⟩

/-- The bookmark behind `count` items, or behind the last one. -/
def moveTo (mark : Bookmark items) (count : Nat) : Bookmark items :=
  ⟨min count items.length, mark.saved, Nat.min_le_right _ _, mark.saved_le⟩

/-- The answer to a move is taken from the list. -/
def answer (mark : Bookmark items) : Move → Answer
  | .read skipped => .item items[mark.current + skipped]?
  | .rest => .items (items.drop mark.current)
  | .count => .count (items.length - mark.current)
  | .save => .done
  | .restore => .done

/-- The bookmark after a move. -/
def after (mark : Bookmark items) : Move → Bookmark items
  | .read skipped => mark.moveTo (mark.current + skipped + 1)
  | .rest => mark.moveTo items.length
  | .count => mark.moveTo items.length
  | .save => { mark with saved := mark.current, saved_le := mark.current_le }
  | .restore => { mark with current := mark.saved, current_le := mark.saved_le }

/-- The bookmark after a sequence of moves. -/
def afterAll (mark : Bookmark items) (moves : List Move) : Bookmark items :=
  moves.foldl after mark

/-- What can be seen of moves of a bookmark in the items of a window. Position and offset
are those of a reader that was asked for as many items as stand before the bookmark. -/
def sights {window : List UInt8} (mark : Bookmark (itemsOf window)) : List Move → List Sight
  | [] => []
  | move :: moves =>
      let reader := (Reader.pull window (mark.after move).current).2
      ⟨mark.answer move, reader.position, reader.offset⟩ :: (mark.after move).sights moves

/-- Behind the last item a move brings nothing, and without going back the bookmark stays
there. -/
theorem move_at_end {mark : Bookmark items} (h : mark.current = items.length) {move : Move}
    (hmove : move ≠ .restore) :
    (mark.answer move).IsEmpty ∧ (mark.after move).current = items.length := by
  cases move with
  | read skipped =>
      have hbehind : items.length ≤ mark.current + skipped := by omega
      exact ⟨List.getElem?_eq_none hbehind, Nat.min_eq_right (Nat.le_succ_of_le hbehind)⟩
  | rest => exact ⟨List.drop_of_length_le (Nat.le_of_eq h.symm), Nat.min_self _⟩
  | count => exact ⟨Nat.sub_eq_zero_of_le (Nat.le_of_eq h.symm), Nat.min_self _⟩
  | save => exact ⟨trivial, h⟩
  | restore => exact absurd rfl hmove

/-- Behind the last item nothing more is seen until a move goes back. -/
theorem sights_at_end {window : List UInt8} {mark : Bookmark (itemsOf window)}
    (h : mark.current = (itemsOf window).length) {moves : List Move}
    (hmoves : .restore ∉ moves) :
    ∀ sight ∈ mark.sights moves, sight.answer.IsEmpty ∧
      sight.position = (Reader.pull window mark.current).2.position ∧
      sight.offset = (Reader.pull window mark.current).2.offset := by
  induction moves generalizing mark with
  | nil => simp [sights]
  | cons move moves ih =>
      have hmove : move ≠ .restore := Ne.symm (List.ne_of_not_mem_cons hmoves)
      obtain ⟨hanswer, hcurrent⟩ := move_at_end h hmove
      have hrest := ih hcurrent (List.not_mem_of_not_mem_cons hmoves)
      rw [sights]
      rw [hcurrent] at hrest ⊢
      rw [h]
      exact List.forall_mem_cons.2 ⟨⟨hanswer, rfl, rfl⟩, hrest⟩

end Bookmark

/-! ## Walks -/

namespace Walk

/-- A walk is at a bookmark: its reader stands at the number of items before it, and the
saved reader at the number of items before the saved place. -/
structure IsAt {window : List UInt8} (walk : Walk) (mark : Bookmark (itemsOf window)) :
    Prop where
  current : Reader.StandsAt window walk.current mark.current
  saved : Reader.StandsAt window walk.saved mark.saved

theorem isAt_start (window : List UInt8) :
    (Walk.start window).IsAt (Bookmark.start (itemsOf window)) :=
  ⟨Reader.standsAt_start window, Reader.standsAt_start window⟩

variable {window : List UInt8} {walk : Walk} {mark : Bookmark (itemsOf window)}

/-- A move of a walk is a move of its bookmark. -/
theorem IsAt.step (h : walk.IsAt mark) (move : Move) :
    (walk.step move).answer = mark.answer move ∧
      (walk.step move).after.IsAt (mark.after move) := by
  cases move with
  | read skipped =>
      obtain ⟨hitem, hafter⟩ := h.current.nth skipped
      exact ⟨congrArg Answer.item hitem, hafter.min_length, h.saved⟩
  | rest =>
      obtain ⟨hitems, hafter⟩ := h.current.drain
      exact ⟨congrArg Answer.items hitems, hafter.min_length, h.saved⟩
  | count =>
      obtain ⟨hitems, hafter⟩ := h.current.drain
      have hlength := congrArg List.length hitems
      rw [List.length_drop] at hlength
      exact ⟨congrArg Answer.count hlength, hafter.min_length, h.saved⟩
  | save => exact ⟨rfl, h.current, h.current⟩
  | restore => exact ⟨rfl, h.saved, h.saved⟩

theorem IsAt.afterAll (h : walk.IsAt mark) (moves : List Move) :
    (walk.afterAll moves).IsAt (mark.afterAll moves) := by
  induction moves generalizing walk mark with
  | nil => exact h
  | cons move moves ih => exact ih (h.step move).2

/-- What can be seen of a walk is what can be seen of its bookmark. -/
theorem IsAt.sights_eq (h : walk.IsAt mark) (moves : List Move) :
    walk.sights moves = mark.sights moves := by
  induction moves generalizing walk mark with
  | nil => rfl
  | cons move moves ih =>
      obtain ⟨hanswer, hafter⟩ := h.step move
      obtain ⟨hposition, hoffset⟩ := hafter.current.place_eq
      rw [Walk.sights, Bookmark.sights, hanswer, hposition, hoffset, ih hafter]

end Walk

/-- Only the last item of a window can be an error. -/
theorem ok_of_mem_dropLast_itemsOf (window : List UInt8) :
    ∀ item ∈ (itemsOf window).dropLast, ∃ found : Decoded, item = .ok found := by
  obtain ⟨⟨units, ending, complete⟩, rfl⟩ := exists_layout window
  -- an ending is one item at most, so what is left without it are the units
  have hunits : (itemsOf (Layout.mk units ending complete).bytes).dropLast.Sublist
      ((decodedFrom 0 units).map .ok) := by
    rw [itemsOf_layout]
    cases ending with
    | clean =>
        rw [Ending.items, List.append_nil]
        exact List.dropLast_sublist _
    | truncated => rw [Ending.items, List.dropLast_concat]
    | unknown => rw [Ending.items, List.dropLast_concat]
    | dangling => rw [Ending.items, List.dropLast_concat]
  intro item hitem
  obtain ⟨found, -, rfl⟩ := List.mem_map.1 (hunits.mem hitem)
  exact ⟨found, rfl⟩

/-- A walk over a window is a bookmark in its items. A reader that is asked again and again
hands them out one by one and then nothing, and only the last one can be an error. Whatever
moves a walk makes, its answers are taken from the list at the bookmark, and its position
and offset follow from the bookmark alone. Once the bookmark is behind the last item,
nothing more is seen and the place stays the same, until a move goes back. -/
theorem Walk.sights_start (window : List UInt8) :
    (Reader.start window).drain.1 = itemsOf window ∧
    (∀ count : Nat, (Reader.pull window count).2.next.1 = (itemsOf window)[count]?) ∧
    (∀ item ∈ (itemsOf window).dropLast, ∃ found : Decoded, item = .ok found) ∧
    (∀ moves : List Move,
      (Walk.start window).sights moves = (Bookmark.start (itemsOf window)).sights moves) ∧
    (∀ before later : List Move,
      ((Bookmark.start (itemsOf window)).afterAll before).current = (itemsOf window).length →
      .restore ∉ later →
      ∀ sight ∈ ((Walk.start window).afterAll before).sights later,
        sight.answer.IsEmpty ∧
        sight.position = ((Walk.start window).afterAll before).current.position ∧
        sight.offset = ((Walk.start window).afterAll before).current.offset) := by
  refine ⟨Reader.drain_start window, ?_, ok_of_mem_dropLast_itemsOf window, ?_, ?_⟩
  · intro count
    exact (Reader.standsAt_pull window count).next.1
  · intro moves
    exact (isAt_start window).sights_eq moves
  · intro before later hend hlater
    have hat := (isAt_start window).afterAll before
    obtain ⟨hposition, hoffset⟩ := hat.current.place_eq
    rw [hat.sights_eq, hposition, hoffset]
    exact Bookmark.sights_at_end hend hlater

/-- An opcode that is not known ends a walk for good, though a byte is left behind it. -/
theorem Walk.sights_start_byte_left :
    let window : List UInt8 := [0x00, 0x24, 0x00]
    ((Bookmark.start (itemsOf window)).afterAll [.read 2]).current = (itemsOf window).length ∧
    .restore ∉ [Move.count, .save, .read 0] ∧
    ∀ sight ∈ ((Walk.start window).afterAll [.read 2]).sights [.count, .save, .read 0],
      sight.answer.IsEmpty ∧ sight.position = 2 ∧ sight.offset = 1 := by
  intro window
  have hend : ((Bookmark.start (itemsOf window)).afterAll [.read 2]).current =
      (itemsOf window).length := by decide +kernel
  have hlater : .restore ∉ [Move.count, .save, .read 0] := by decide
  have hplace : ((Walk.start window).afterAll [.read 2]).current.position = 2 ∧
      ((Walk.start window).afterAll [.read 2]).current.offset = 1 := by decide +kernel
  obtain ⟨-, -, -, -, hstays⟩ := Walk.sights_start window
  have hseen := hstays [.read 2] _ hend hlater
  rw [hplace.1, hplace.2] at hseen
  exact ⟨hend, hlater, hseen⟩

end CilDisassembly
