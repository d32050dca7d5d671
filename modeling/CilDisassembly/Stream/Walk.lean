import CilDisassembly.Stream.Reader

/-!
# Walks over an instruction stream

A walk moves a reader over a window. It may read items one by one, skip some,
read all that remain, or go back to a place that was saved before. Each step also
reports the items that were read, in order, so that reading can be logged.
-/

set_option autoImplicit false

namespace CilDisassembly

/-- A reader on the move, and a place to go back to. -/
structure Walk where
  /-- The reader. -/
  current : Reader
  /-- The place saved last; the start of the window at first. -/
  saved : Reader

/-- One move of a walk. -/
inductive Move where
  /-- Skip `skipped` items and read the one that follows. -/
  | read (skipped : Nat)
  /-- Read all remaining items. -/
  | rest
  /-- Read all remaining items and count them. -/
  | count
  /-- Save the current place. -/
  | save
  /-- Go back to the saved place. -/
  | restore
deriving DecidableEq, Repr

/-- What a move answers. -/
inductive Answer where
  /-- The item that was asked for, if the stream goes that far. -/
  | item (item? : Option Item)
  /-- The remaining items. -/
  | items (items : List Item)
  /-- The number of remaining items. -/
  | count (count : Nat)
  /-- Nothing was asked. -/
  | done

/-- A move's answer, the items it read, and the walk after it. -/
structure Stride where
  /-- The answer to the move. -/
  answer : Answer
  /-- The items that were read, in order. -/
  seen : List Item
  /-- The walk after the move. -/
  after : Walk

namespace Walk

/-- The walk at the start of a window. -/
def start (window : List UInt8) : Walk :=
  ⟨.start window, .start window⟩

/-- One move of a walk. -/
def step (walk : Walk) : Move → Stride
  | .read skipped =>
      let outcome := walk.current.nth skipped
      ⟨.item outcome.item?, outcome.seen, { walk with current := outcome.after }⟩
  | .rest =>
      let all := walk.current.drain
      ⟨.items all.1, all.1, { walk with current := all.2 }⟩
  | .count =>
      let all := walk.current.drain
      ⟨.count all.1.length, all.1, { walk with current := all.2 }⟩
  | .save => ⟨.done, [], { walk with saved := walk.current }⟩
  | .restore => ⟨.done, [], { walk with current := walk.saved }⟩

end Walk

/-! ## Sequences of moves -/

/-- What can be seen of a move. -/
structure Sight where
  /-- The answer to the move. -/
  answer : Answer
  /-- The number of bytes read after the move. -/
  position : Nat
  /-- The offset of the next instruction after the move. -/
  offset : UInt32

namespace Walk

/-- What can be seen of moves that are made one after the other. -/
def sights (walk : Walk) : List Move → List Sight
  | [] => []
  | move :: moves =>
      let stride := walk.step move
      ⟨stride.answer, stride.after.current.position, stride.after.current.offset⟩ ::
        stride.after.sights moves

/-- The walk after a sequence of moves. -/
def afterAll (walk : Walk) (moves : List Move) : Walk :=
  moves.foldl (fun current move => (current.step move).after) walk

end Walk

end CilDisassembly
