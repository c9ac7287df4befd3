import Blackjack.Transport.Config
import Blackjack.Transport.Outbound
import Blackjack.Transport.Protocol

/-!
# The loop of one connection

A worker holds the protocol's state while it drives one connection. Each iteration ticks the
protocol and then waits for one thing: the answer to the dialling, bytes of the peer, work of a
caller, room in the socket, or the timer. `Wakeup` is what ended the wait, with the instants at
which the callbacks then ran, so `Worker.iterate` is a function of it.

Work of callers is taken up only while the connection is open. A wish of the protocol to stop is
heeded after each tick, after each line and after each batch of work; what is not delivered by then
is never delivered, and what is not written is never written. A callback that fails takes the
protocol's state with it.
-/

namespace Blackjack

/-- Work that a caller hands over. -/
inductive Ingress (Request : Type) where
  /-- A message that goes on the wire as it is. -/
  | message (text : String)
  /-- A request for the protocol. -/
  | request (request : Request)
  deriving DecidableEq, Repr

/-- How far a connection has come. -/
inductive Phase where
  | undialed
  | dialing
  | opened
  deriving DecidableEq, Repr

/-- How a loop came to its end. -/
inductive Outcome where
  /-- The protocol was told the cause. -/
  | ended (cause : StopCause)
  /-- A callback failed. -/
  | crashed
  deriving DecidableEq, Repr

/-- What ends the wait of an iteration. What cannot happen in the current phase ends it idly. -/
inductive Wakeup where
  | connected
  | unreachable (reason : String)
  /-- One read gives these bytes, none at the end of the stream. -/
  | received (bytes : List UInt8) (clock : Nat → Instant)
  | unreadable (reason : String)
  /-- Work of callers waits. -/
  | handedOver (clock : Nat → Instant)
  /-- The socket takes bytes, and answers what it is offered. -/
  | writable (answers : List Outbound.WriteAnswer)
  /-- The tick interval has passed. -/
  | timer

/-- The loop of one connection, with the state of its protocol. -/
structure Worker (State Request : Type) where
  endpoint : Endpoint
  state : State
  phase : Phase
  link : Link
  inbound : LineBuffer
  /-- The work that callers handed over, oldest first. -/
  ingress : List (Ingress Request)
  /-- How the loop came to its end, if it did. -/
  outcome : Option Outcome
  deriving DecidableEq, Repr

namespace Worker

variable {State Request Output : Type}

/-- The loop of a connection that is not dialled yet. -/
def new (config : TransportConfig) (endpoint : Endpoint) (state : State) :
    Worker State Request where
  endpoint := endpoint
  state := state
  phase := .undialed
  link := .fresh
  inbound := .empty config.maxLineLength
  ingress := []
  outcome := none

/-- Whether the loop still runs. -/
def isLive (worker : Worker State Request) : Bool := worker.outcome.isNone

/-- Takes over the state after a callback, and carries out what it asks for. -/
def absorb (worker : Worker State Request) (state : State) (reaction : Reaction Output) :
    Worker State Request :=
  { worker with
    state := state
    link := worker.link.absorb reaction
    outcome := if reaction.crashed then some .crashed else worker.outcome }

/-- Ends the loop and tells the protocol why. -/
def close (protocol : Protocol State Request Output) (worker : Worker State Request)
    (cause : StopCause) : Worker State Request × Trace Request Output :=
  let (state, outputs) := protocol.stopped worker.state cause
  ({ worker with state, outcome := some (.ended cause) }, [.stopped cause outputs])

/-- Ends the loop if the protocol asked for it. -/
def heed (protocol : Protocol State Request Output) (worker : Worker State Request) :
    Worker State Request × Trace Request Output :=
  if worker.isLive then
    match worker.link.stop with
    | some reason => worker.close protocol (.protocol reason)
    | none => (worker, [])
  else (worker, [])

/-- Ticks the protocol. -/
def tick (protocol : Protocol State Request Output) (worker : Worker State Request)
    (now : Instant) : Worker State Request × Trace Request Output :=
  let (state, reaction) := protocol.tick worker.state now
  let (worker, ending) := (worker.absorb state reaction).heed protocol
  (worker, .tick now reaction :: ending)

/-- Gives the protocol lines, one by one, until the loop ends. -/
def deliver (protocol : Protocol State Request Output) (worker : Worker State Request)
    (clock : Nat → Instant) : List String → Worker State Request × Trace Request Output
  | [] => (worker, [])
  | text :: later =>
    let (state, reaction) := protocol.line worker.state text (clock 0)
    let (worker, ending) := (worker.absorb state reaction).heed protocol
    if worker.isLive then
      let (worker, rest) := deliver protocol worker (fun n => clock (n + 1)) later
      (worker, .line text (clock 0) reaction :: rest)
    else (worker, .line text (clock 0) reaction :: ending)

/-- Takes what one read gives. Nothing at all is the end of the stream. -/
def receive (protocol : Protocol State Request Output) (worker : Worker State Request)
    (bytes : List UInt8) (clock : Nat → Instant) :
    Worker State Request × Trace Request Output :=
  if bytes = [] then worker.close protocol .peerClosed
  else
    let (worker, trace) : Worker State Request × Trace Request Output :=
      match worker.inbound.push bytes with
      | (inbound, .ok lines) => deliver protocol { worker with inbound } clock lines
      | (inbound, .error e) => close protocol { worker with inbound } (.fault e.message)
    (worker, .received bytes :: trace)

/-- Takes up work in the order in which it was handed over. -/
def collect (protocol : Protocol State Request Output) (worker : Worker State Request)
    (clock : Nat → Instant) :
    List (Ingress Request) → Worker State Request × Trace Request Output
  | [] => worker.heed protocol
  | .message text :: later =>
    let (worker, rest) :=
      collect protocol { worker with link := worker.link.send text } clock later
    (worker, .forwarded text :: rest)
  | .request request :: later =>
    let (state, reaction) := protocol.request worker.state request (clock 0)
    let worker := worker.absorb state reaction
    if worker.isLive then
      let (worker, rest) := collect protocol worker (fun n => clock (n + 1)) later
      (worker, .request request (clock 0) reaction :: rest)
    else (worker, [.request request (clock 0) reaction])

/-- Writes queued frames. -/
def flush (protocol : Protocol State Request Output) (worker : Worker State Request)
    (answers : List Outbound.WriteAnswer) : Worker State Request × Trace Request Output :=
  let result := Outbound.flush worker.link.outbound answers
  let worker := { worker with link := { worker.link with outbound := result.waiting } }
  match result.failure with
  | none => (worker, [.wrote result.written])
  | some reason =>
    let (worker, ending) := worker.close protocol (.fault ("write error: " ++ reason))
    (worker, .wrote result.written :: ending)

/-- The wait of an iteration while the connection is open. -/
def serve (protocol : Protocol State Request Output) (worker : Worker State Request) :
    Wakeup → Worker State Request × Trace Request Output
  | .received bytes clock => worker.receive protocol bytes clock
  | .unreadable reason => worker.close protocol (.fault ("read error: " ++ reason))
  | .handedOver clock =>
    if worker.ingress = [] then (worker, [])
    else collect protocol { worker with ingress := [] } clock worker.ingress
  | .writable answers =>
    if worker.link.outbound = [] then (worker, []) else worker.flush protocol answers
  | .connected | .unreachable _ | .timer => (worker, [])

/-- The wait of an iteration before the connection is open. -/
def dial (protocol : Protocol State Request Output) (worker : Worker State Request) :
    Wakeup → Worker State Request × Trace Request Output
  | .connected => ({ worker with phase := .opened }, [.established])
  | .unreachable reason =>
    worker.close protocol
      (.fault ("connect to " ++ worker.endpoint.text ++ " failed: " ++ reason))
  | .received _ _ | .unreadable _ | .handedOver _ | .writable _ | .timer => (worker, [])

/-- The wait of an iteration. The first one dials. -/
def wait (protocol : Protocol State Request Output) (worker : Worker State Request)
    (wakeup : Wakeup) : Worker State Request × Trace Request Output :=
  match worker.phase with
  | .opened => worker.serve protocol wakeup
  | .dialing => worker.dial protocol wakeup
  | .undialed =>
    let (worker, trace) := dial protocol { worker with phase := .dialing } wakeup
    (worker, .dialed worker.endpoint :: trace)

/-- One iteration: a tick, then a wait. A loop that has ended does nothing. -/
def iterate (protocol : Protocol State Request Output) (worker : Worker State Request)
    (now : Instant) (wakeup : Wakeup) : Worker State Request × Trace Request Output :=
  if worker.isLive then
    let (worker, ticked) := worker.tick protocol now
    if worker.isLive then
      let (worker, waited) := worker.wait protocol wakeup
      (worker, ticked ++ waited)
    else (worker, ticked)
  else (worker, [])

end Worker

end Blackjack
