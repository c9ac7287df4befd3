import Blackjack.Text.Blank
import Blackjack.Transport.Worker

/-!
# The transport engine

An engine keeps a protocol over many connections. The protocol's state is parked in the engine, or
in the custody of the worker that drives the current connection; a worker that has ended keeps it
until the next start or stop takes it back.

A stop asks the loop to end and waits until it has, so it counts as one step, taken where the loop
looks for it at the beginning of an iteration: what the loop still does before that is an iteration
before the stop. `Engine.step` gathers what callers and the loop can do, and `Engine.run` and
`Engine.trace` follow a history of such moves.
-/

namespace Blackjack

/-- Why the engine refuses a call. -/
inductive TransportError where
  | emptyHost
  | invalidPort
  | alreadyRunning
  | notRunning
  /-- A redial before any start. -/
  | noEndpoint
  /-- The protocol's state was lost when a callback failed. -/
  | protocolLost
  deriving DecidableEq, Repr

/-- The wording of a refusal. -/
def TransportError.message : TransportError → String
  | .emptyHost => "host is empty"
  | .invalidPort => "port must be in 1..=65535"
  | .alreadyRunning => "transport loop is already running"
  | .notRunning => "transport is not running"
  | .noEndpoint => "transport was never started"
  | .protocolLost => "protocol state was lost with the transport thread"

/-- A protocol's state, and the loop that drives it while there is one. -/
structure Engine (State Request : Type) where
  config : TransportConfig
  /-- Where the last start led. -/
  endpoint : Option Endpoint
  /-- The protocol's state while no worker holds it. -/
  parked : Option State
  worker : Option (Worker State Request)
  /-- What callers are told: whether a loop runs. -/
  running : Bool
  deriving DecidableEq, Repr

/-- What a call did: the engine afterwards, what happened meanwhile, and the answer. -/
structure Call (State Request Output : Type) where
  engine : Engine State Request
  trace : Trace Request Output := []
  answer : Except TransportError Unit := .ok ()

namespace Engine

variable {State Request Output : Type}

/-- The engine of a protocol that was never connected. -/
def new (config : TransportConfig) (state : State) : Engine State Request where
  config := config
  endpoint := none
  parked := some state
  worker := none
  running := false

/-- The worker whose loop still runs. -/
def live? (engine : Engine State Request) : Option (Worker State Request) :=
  engine.worker.filter Worker.isLive

/-- The protocol's state, wherever it is; a failed callback has lost it. -/
def state? (engine : Engine State Request) : Option State :=
  match engine.worker with
  | none => engine.parked
  | some worker => if worker.outcome = some .crashed then none else some worker.state

/-- Takes back the protocol's state from a worker that has ended. -/
def join (engine : Engine State Request) : Engine State Request :=
  match engine.worker with
  | none => engine
  | some worker =>
    { engine with
      worker := none
      parked := if worker.outcome = some .crashed then engine.parked else some worker.state }

/-- Hands the protocol's state to a new worker, if it is there. -/
def launch (protocol : Protocol State Request Output) (engine : Engine State Request)
    (endpoint : Endpoint) (now : Instant) : Call State Request Output :=
  match engine.parked with
  | none => { engine, answer := .error .protocolLost }
  | some state =>
    { engine := { engine with
        endpoint := some endpoint
        parked := none
        worker := some (.new engine.config endpoint (protocol.connecting state now))
        running := true }
      trace := [.connecting now] }

/-- Begins to connect. An unreachable host ends the loop later. -/
def start (protocol : Protocol State Request Output) (engine : Engine State Request)
    (endpoint : Endpoint) (now : Instant) : Call State Request Output :=
  if Text.trim endpoint.host.toList = [] then { engine, answer := .error .emptyHost }
  else if endpoint.port = 0 then { engine, answer := .error .invalidPort }
  else if engine.live?.isSome then { engine, answer := .error .alreadyRunning }
  else engine.join.launch protocol endpoint now

/-- The success of a start and its wording. -/
def report : Except TransportError Unit → Bool × String
  | .ok () => (true, "Network thread started.")
  | .error e => (false, "Socket creation failed: " ++ e.message)

/-- Ends the loop and takes back the protocol's state. Without a worker nothing happens. -/
def stop (protocol : Protocol State Request Output) (engine : Engine State Request)
    (reason : String) : Call State Request Output :=
  match engine.worker with
  | none => { engine }
  | some worker =>
    let (worker, trace) : Worker State Request × Trace Request Output :=
      if worker.isLive then worker.close protocol (.requested reason) else (worker, [])
    { engine := { join { engine with worker := some worker } with running := false }, trace }

/-- Ends the loop and begins to connect to the same endpoint again. -/
def reconnect (protocol : Protocol State Request Output) (engine : Engine State Request)
    (now : Instant) : Call State Request Output :=
  match engine.endpoint with
  | none => { engine, answer := .error .noEndpoint }
  | some endpoint =>
    let stopped := engine.stop protocol "reconnect"
    let started := stopped.engine.start protocol endpoint now
    { started with trace := stopped.trace ++ started.trace }

/-- Hands work to the loop, if it runs. -/
def handOver (engine : Engine State Request) (item : Ingress Request) :
    Call State Request Output :=
  match engine.live? with
  | none => { engine, answer := .error .notRunning }
  | some worker =>
    { engine := { engine with
        worker := some { worker with ingress := worker.ingress ++ [item] } } }

/-- Queues a message as it is. -/
def send (engine : Engine State Request) (message : String) : Call State Request Output :=
  engine.handOver (.message message)

/-- Hands a request to the protocol. -/
def submit (engine : Engine State Request) (request : Request) : Call State Request Output :=
  engine.handOver (.request request)

/-- One iteration of the loop. Callers are told that it has ended unless a callback failed. -/
def iterate (protocol : Protocol State Request Output) (engine : Engine State Request)
    (now : Instant) (wakeup : Wakeup) : Call State Request Output :=
  match engine.live? with
  | none => { engine }
  | some worker =>
    let (worker, trace) := worker.iterate protocol now wakeup
    { engine := { engine with
        worker := some worker
        running := match worker.outcome with
          | some (.ended _) => false
          | some .crashed | none => engine.running }
      trace }

/-- What callers and the loop can do. -/
inductive Move (Request : Type) where
  | start (endpoint : Endpoint) (now : Instant)
  | stop (reason : String)
  | reconnect (now : Instant)
  | send (message : String)
  | submit (request : Request)
  | iterate (now : Instant) (wakeup : Wakeup)

/-- One move. -/
def step (protocol : Protocol State Request Output) (engine : Engine State Request) :
    Move Request → Call State Request Output
  | .start endpoint now => engine.start protocol endpoint now
  | .stop reason => engine.stop protocol reason
  | .reconnect now => engine.reconnect protocol now
  | .send message => engine.send message
  | .submit request => engine.submit request
  | .iterate now wakeup => engine.iterate protocol now wakeup

/-- The engine after a history of moves. -/
def run (protocol : Protocol State Request Output) (engine : Engine State Request)
    (history : List (Move Request)) : Engine State Request :=
  history.foldl (fun engine move => (engine.step protocol move).engine) engine

/-- What happened in a history of moves. -/
def trace (protocol : Protocol State Request Output) (engine : Engine State Request) :
    List (Move Request) → Trace Request Output
  | [] => []
  | move :: later =>
    (engine.step protocol move).trace ++ (engine.step protocol move).engine.trace protocol later

@[simp] theorem run_nil (protocol : Protocol State Request Output)
    (engine : Engine State Request) : engine.run protocol [] = engine := rfl

theorem run_append (protocol : Protocol State Request Output) (engine : Engine State Request)
    (before after : List (Move Request)) :
    engine.run protocol (before ++ after) = (engine.run protocol before).run protocol after :=
  List.foldl_append

theorem trace_append (protocol : Protocol State Request Output) (engine : Engine State Request)
    (before after : List (Move Request)) :
    engine.trace protocol (before ++ after) =
      engine.trace protocol before ++ (engine.run protocol before).trace protocol after := by
  induction before generalizing engine with
  | nil => rfl
  | cons move later ih => simp [trace, ih, run]

end Engine

end Blackjack
