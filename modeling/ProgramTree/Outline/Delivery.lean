import ProgramTree.Outline.Render
import ProgramTree.Sink

/-!
# Delivering outlines to a sink

A tree is printed in full before the first byte of its text is offered to the sink, so a tree
that cannot be printed leaves the sink untouched.
-/

namespace ProgramTree

/-- Why a printed tree could not be delivered. -/
inductive DeliveryError where
  /-- The tree could not be printed. -/
  | unprinted (error : RenderError)
  /-- The sink did not take the whole text. -/
  | refused (error : SinkError)
  deriving DecidableEq

/-- The UTF-8 bytes of a text. -/
def utf8Bytes (text : String) : List UInt8 :=
  text.toUTF8.data.toList

/-- Print an optional node at a level and deliver the text to a sink. -/
def deliverTree (sink : Sink) (node : Option Node) (level : UInt64) :
    Except DeliveryError Unit × Sink :=
  match render node level with
  | .error error => (.error (.unprinted error), sink)
  | .ok text =>
    let (outcome, sink) := sink.deliver (utf8Bytes text)
    (outcome.mapError .refused, sink)

end ProgramTree
