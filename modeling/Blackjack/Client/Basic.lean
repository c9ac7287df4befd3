import Blackjack.Client.Action
import Blackjack.Session.Protocol

/-!
# The client

A client is an engine that drives a session. What its consumer sees of the session are the events in
the trace of its calls and of its loop, and the published state, which can be looked at any time.
-/

namespace Blackjack

/-- An engine that drives a session. -/
abbrev Client := Engine Session Request

namespace Client

/-- What a call did to a client. -/
abbrev Called := Call Session Request SessionEvent

/-- A client that never connected. -/
def new (config : TransportConfig) (policy : SessionPolicy) (now : Instant) : Client :=
  Engine.new config (Session.new policy now)

/-- Begins to connect. A failure to connect arrives later as an event. -/
def connect (client : Client) (endpoint : Endpoint) (now : Instant) : Called :=
  client.start Session.protocol endpoint now

/-- Drops the connection and dials the same endpoint again. -/
def redial (client : Client) (now : Instant) : Called :=
  client.reconnect Session.protocol now

/-- Closes the connection. -/
def disconnect (client : Client) (reason : String) : Called :=
  client.stop Session.protocol reason

/-- One iteration of the loop. -/
def advance (client : Client) (now : Instant) (wakeup : Wakeup) : Called :=
  client.iterate Session.protocol now wakeup

/-- Whether the loop runs. -/
def isConnected (client : Client) : Bool := client.running

/-- The state that the session published last. -/
def state (client : Client) : SessionState :=
  match client.state? with
  | some session => session.watch.current
  | none => .disconnected

/-- Hands a call's refusal on as one of the client. -/
def answered (call : Called) : Client × Except ClientError Unit :=
  (call.engine, call.answer.mapError .transport)

/-- Hands a request to the session, if there is one. -/
def submitRequest (client : Client) (request : Except ClientError Request) :
    Client × Except ClientError Unit :=
  match request with
  | .error refusal => (client, .error refusal)
  | .ok request => answered (Engine.submit client request)

/-- Sends a command with its arguments. -/
def submitCommand (client : Client) (command : String) (args : List String) (requiresAck : Bool) :
    Client × Except ClientError Unit :=
  client.submitRequest ((Request.make command args requiresAck).mapError .frame)

/-- Does what the player asks for. -/
def perform (client : Client) (action : Action) : Client × Except ClientError Unit :=
  client.submitRequest action.request

/-- Sends a line as it is, past the session. -/
def sendRaw (client : Client) (line : String) : Client × Except ClientError Unit :=
  answered (Engine.send client line)

end Client

end Blackjack
