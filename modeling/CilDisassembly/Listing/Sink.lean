import CilDisassembly.Event

/-!
# Sinks

Text goes to a sink, which may have room for a limited number of further
characters only. A sink that runs full keeps the characters that still fitted
(`Sink.content_put`).
-/

set_option autoImplicit false

namespace CilDisassembly

/-- A place for text. -/
structure Sink where
  /-- The text in the sink. -/
  content : String := ""
  /-- The number of further characters there is room for, if it is limited. -/
  room : Option Nat := none
deriving DecidableEq, Repr

namespace Sink

/-- Whether a text fits into the room that is left. -/
def fits (sink : Sink) (text : Text) : Bool :=
  match sink.room with
  | none => true
  | some room => text.length ≤ room

/-- The part of a text that fits into the room that is left. -/
def accepted (sink : Sink) (text : Text) : Text :=
  match sink.room with
  | none => text
  | some room => text.take room

/-- The sink after as much of a text as fits was put into it. -/
def put (sink : Sink) (text : Text) : Sink where
  content := sink.content ++ String.ofList (sink.accepted text)
  room := sink.room.map (fun room => room - text.length)

/-- The text that came into a sink since an earlier state of it. -/
def since (sink earlier : Sink) : String :=
  String.ofList (sink.content.toList.drop earlier.content.length)

/-- What was in the sink stays, and the accepted part follows it. -/
theorem content_put (sink : Sink) (text : Text) :
    (sink.put text).content.toList = sink.content.toList ++ sink.accepted text := by
  simp [put]

end Sink

/-- Where a listing goes: the text to a sink, the events to a log. -/
structure Output where
  /-- The text. -/
  sink : Sink := {}
  /-- The events so far, oldest first. -/
  log : Array Event := #[]
deriving DecidableEq, Repr

end CilDisassembly
