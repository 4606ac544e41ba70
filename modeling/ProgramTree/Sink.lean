/-!
# Byte sinks

A sink takes bytes in calls. It has limited room, accepts a limited number of bytes per call and
may fail on one particular call. Delivering bytes offers all that remain in each call until none
remain; a call that accepts nothing ends the delivery with an error.
-/

namespace ProgramTree

/-- A destination of bytes with its limits and what it has seen so far. -/
structure Sink where
  /-- The number of bytes that fit altogether. -/
  capacity : Nat
  /-- The greatest number of bytes accepted in one call. -/
  chunk : Nat
  /-- The number of the call that fails, counted from one. -/
  failCall : Nat
  /-- The number of calls made. -/
  calls : Nat := 0
  /-- The bytes accepted. -/
  received : Array UInt8 := #[]

/-- Why a delivery ended early. -/
inductive SinkError where
  /-- The sink failed on this call. -/
  | callFailed
  /-- The sink accepted none of the offered bytes. -/
  | nothingAccepted
  deriving DecidableEq

/-- A delivery error in words. -/
def SinkError.message : SinkError → String
  | .callFailed => "sink failed"
  | .nothingAccepted => "failed to write whole buffer"

/-- The number of bytes that still fit. -/
def Sink.room (sink : Sink) : Nat :=
  sink.capacity - sink.received.size

/-- Offer bytes in one call; the answer is the number of them accepted. -/
def Sink.offer (sink : Sink) (bytes : List UInt8) : Except SinkError Nat × Sink :=
  let call := sink.calls + 1
  if call = sink.failCall then (.error .callFailed, { sink with calls := call })
  else
    let accepted := bytes.take (min sink.chunk sink.room)
    (.ok accepted.length, { sink with calls := call, received := sink.received ++ accepted })

/-- Offer the remaining bytes until none remain or a call brings no progress. -/
def Sink.deliver (sink : Sink) (bytes : List UInt8) : Except SinkError Unit × Sink :=
  match bytes with
  | [] => (.ok (), sink)
  | byte :: rest =>
    match sink.offer (byte :: rest) with
    | (.error error, sink) => (.error error, sink)
    | (.ok 0, sink) => (.error .nothingAccepted, sink)
    | (.ok (accepted + 1), sink) => sink.deliver (rest.drop accepted)
termination_by bytes.length
decreasing_by
  rw [List.length_drop, List.length_cons]
  omega

end ProgramTree
