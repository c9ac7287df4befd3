import Blackjack.Link
import Blackjack.Time
import Blackjack.Transport.StopCause

/-!
# Protocols and what happens to them

A protocol is what the loop of a connection drives: its callbacks take a state and give back the next
one, with the reaction they ask for. An `Occurrence` is one step of the life of an engine as the
protocol and the peer see it. A trace is the list of them in order, over all connections; the
outputs of a run and the frames of a connection are read off its trace.
-/

namespace Blackjack

/-- The callbacks of a protocol on its state. -/
structure Protocol (State Request Output : Type) where
  /-- A connection attempt is about to begin. -/
  connecting : State → Instant → State
  /-- One complete line of the peer, without its delimiter. -/
  line : State → String → Instant → State × Reaction Output
  /-- A request that a caller submitted. -/
  request : State → Request → Instant → State × Reaction Output
  /-- The loop begins an iteration. -/
  tick : State → Instant → State × Reaction Output
  /-- The loop has ended, and the connection is closed. -/
  stopped : State → StopCause → State × List Output

/-- Where a connection leads. -/
structure Endpoint where
  host : String
  port : UInt16
  deriving DecidableEq, Repr

/-- The host and the port in words. -/
def Endpoint.text (endpoint : Endpoint) : String :=
  endpoint.host ++ ":" ++ toString endpoint.port.toNat

/-- One step of the life of an engine. -/
inductive Occurrence (Request Output : Type) where
  /-- The protocol was told of a connection attempt. -/
  | connecting (now : Instant)
  /-- The protocol was ticked. -/
  | tick (now : Instant) (reaction : Reaction Output)
  /-- The endpoint was dialled. -/
  | dialed (endpoint : Endpoint)
  /-- The connection was established. -/
  | established
  /-- One read gave these bytes. -/
  | received (bytes : List UInt8)
  /-- The protocol was given a line. -/
  | line (text : String) (now : Instant) (reaction : Reaction Output)
  /-- The protocol was given a request. -/
  | request (request : Request) (now : Instant) (reaction : Reaction Output)
  /-- A message of a caller joined the queue without passing through the protocol. -/
  | forwarded (message : String)
  /-- The socket accepted these bytes. -/
  | wrote (bytes : List UInt8)
  /-- The protocol was told that the connection ended. -/
  | stopped (cause : StopCause) (outputs : List Output)
  deriving DecidableEq, Repr

/-- What happened, oldest first. -/
abbrev Trace (Request Output : Type) := List (Occurrence Request Output)

namespace Occurrence

variable {Request Output : Type}

/-- What the consumer of the protocol gets to see. -/
def outputs : Occurrence Request Output → List Output
  | tick _ reaction | line _ _ reaction | request _ _ reaction => reaction.outputs
  | stopped _ outputs => outputs
  | connecting _ | dialed _ | established | received _ | forwarded _ | wrote _ => []

/-- The frames that join the queue. -/
def frames : Occurrence Request Output → List (List UInt8)
  | tick _ reaction | line _ _ reaction | request _ _ reaction =>
    reaction.messages.map Link.wireBytes
  | forwarded message => [Link.wireBytes message]
  | connecting _ | dialed _ | established | received _ | wrote _ | stopped _ _ => []

/-- The bytes that the socket accepts. -/
def written : Occurrence Request Output → List UInt8
  | wrote bytes => bytes
  | _ => []

end Occurrence

namespace Trace

variable {Request Output : Type}

/-- What the consumer of the protocol gets to see. -/
def outputs (trace : Trace Request Output) : List Output := trace.flatMap Occurrence.outputs

/-- The frames that joined the queue. -/
def frames (trace : Trace Request Output) : List (List UInt8) := trace.flatMap Occurrence.frames

/-- The bytes that the socket accepted. -/
def written (trace : Trace Request Output) : List UInt8 := trace.flatMap Occurrence.written

@[simp] theorem outputs_append (before after : Trace Request Output) :
    Trace.outputs (before ++ after) = before.outputs ++ after.outputs :=
  List.flatMap_append

@[simp] theorem frames_append (before after : Trace Request Output) :
    Trace.frames (before ++ after) = before.frames ++ after.frames :=
  List.flatMap_append

@[simp] theorem written_append (before after : Trace Request Output) :
    Trace.written (before ++ after) = before.written ++ after.written :=
  List.flatMap_append

end Trace

end Blackjack
