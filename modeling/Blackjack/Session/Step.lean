import Blackjack.Session.Basic
import Blackjack.Transport.StopCause

/-!
# The session's operations

Each operation takes the session and gives back the next one with the reaction it asks for. A line
without the prefix only counts against the peer. A valid line refreshes the liveness timer; an
acknowledgement ends the pending request, a heartbeat is answered and clears the count of lost
cycles, and everything but a heartbeat is passed on. A tick looks at the lost cycles first, then at
the liveness of the connection, and last at the pending request, so it does at most one thing.

`Session.step` gathers the operations, and `Session.run` folds it over a history.
-/

namespace Blackjack.Session

/-- A connection attempt begins: nothing of the last connection is left but the lost cycles. -/
def connecting (session : Session) (now : Instant) : Session :=
  { session with
    pending := none
    health := { session.health with lastMessageAt := now, invalidLines := 0 }
    stopping := false
    invalidReported := false }.enter .awaitingNickname

/-- Sends a request, or refuses it. A request that must be answered becomes the pending one. -/
def submit (session : Session) (request : Request) (now : Instant) :
    Except SubmitError (Session × Reaction SessionEvent) :=
  if session.state = .disconnected then .error .notConnected
  else if !request.requiresAck then .ok (session, .send request.frame)
  else
    match session.pending with
    | some pending => .error (.requestPending pending.command)
    | none =>
      .ok ({ session with pending := some ⟨request.command, request.frame, now, 0⟩ }.enter
        .awaitingAck, .send request.frame)

/-- Sends a request, and reports a refusal to the consumer. -/
def request (session : Session) (request : Request) (now : Instant) :
    Session × Reaction SessionEvent :=
  match session.submit request now with
  | .ok result => result
  | .error refusal => (session, .emit (.rejected request.command refusal.message))

/-- A line without the prefix counts against the peer, and is reported once per connection. -/
def invalidLine (session : Session) : Session × Reaction SessionEvent :=
  let count := session.health.invalidLines + 1
  let session := { session with health := { session.health with invalidLines := count } }
  if session.policy.maxInvalidLines < count ∧ session.invalidReported = false then
    ({ session with invalidReported := true, stopping := true },
      { outputs := [.fatal "Detected invalid messages from server"],
        stop := some "too many invalid messages" })
  else (session, .none)

/-- A line with the prefix, as its frame. -/
def validLine (session : Session) (frame : Frame) (now : Instant) :
    Session × Reaction SessionEvent :=
  let session :=
    { session with health := { session.health with lastMessageAt := now, invalidLines := 0 } }
  match frame.classify with
  | .heartbeat =>
    ({ session with health := { session.health with reconnectAttempts := 0 } },
      .send (linePrefix ++ Frame.pong))
  | .ack | .nack =>
    if session.pending.isSome then
      ({ session with pending := none }.enter .idle, .emit (.message frame))
    else (session, .emit (.message frame))
  | .generic => (session, .emit (.message frame))

/-- One complete line from the peer. -/
def line (session : Session) (text : String) (now : Instant) : Session × Reaction SessionEvent :=
  match Frame.decode text with
  | .ok frame => session.validLine frame now
  | .error _ => session.invalidLine

/-- The retry schedule of the pending request. -/
def retry (session : Session) (pending : PendingRequest) (now : Instant) :
    Session × Reaction SessionEvent :=
  if Instant.elapsed pending.sentAt now ≤ session.policy.ackTimeout then (session, .none)
  else if pending.retries < session.policy.maxRetries then
    ({ session with
        pending := some { pending with retries := pending.retries + 1, sentAt := now } },
      .send pending.frame)
  else
    ({ session with pending := none }.enter .idle, .emit (.requestExpired pending.command))

/-- The timers: lost cycles, then liveness, then the pending request. -/
def tick (session : Session) (now : Instant) : Session × Reaction SessionEvent :=
  if session.policy.maxReconnectAttempts < session.health.reconnectAttempts then
    ({ session with stopping := true, exhaustionReported := true },
      { outputs :=
          if session.exhaustionReported then [] else [.fatal "Ran out of reconnection attempts."],
        stop := some "reconnection attempts exhausted" })
  else if session.policy.livenessWindow < Instant.elapsed session.health.lastMessageAt now then
    ({ session with
        stopping := true
        health := { session.health with
          lastMessageAt := now
          reconnectAttempts := session.health.reconnectAttempts + 1 } },
      { outputs := [.offline "connection timed out"], stop := some "liveness timeout" })
  else
    match session.pending with
    | some pending => session.retry pending now
    | none => (session, .none)

/-- The connection has ended. A loss that the session did not ask for counts and is reported. -/
def stopped (session : Session) (cause : StopCause) : Session × List SessionEvent :=
  let lost := cause.isFault && !session.stopping
  let session := { session with pending := none, stopping := false }.enter .disconnected
  if lost then
    ({ session with health := { session.health with
        reconnectAttempts := session.health.reconnectAttempts + 1 } },
      [.offline cause.reason])
  else (session, [])

/-- What can happen to a session. -/
inductive Operation where
  | connecting (now : Instant)
  | line (text : String) (now : Instant)
  | submit (request : Request) (now : Instant)
  | request (request : Request) (now : Instant)
  | tick (now : Instant)
  | stopped (cause : StopCause)
  deriving DecidableEq, Repr

/-- One operation. A submission that is refused changes nothing. -/
def step (session : Session) : Operation → Session × Reaction SessionEvent
  | .connecting now => (session.connecting now, .none)
  | .line text now => session.line text now
  | .submit request now =>
    match session.submit request now with
    | .ok result => result
    | .error _ => (session, .none)
  | .request request now => session.request request now
  | .tick now => session.tick now
  | .stopped cause =>
    let (session, outputs) := session.stopped cause
    (session, { outputs })

/-- The session after a history of operations. -/
def run (session : Session) (history : List Operation) : Session :=
  history.foldl (fun session operation => (session.step operation).1) session

@[simp] theorem run_nil (session : Session) : session.run [] = session := rfl

theorem run_append (session : Session) (before after : List Operation) :
    session.run (before ++ after) = (session.run before).run after :=
  List.foldl_append

/-- The reactions of a history, one per operation. -/
def reactions (session : Session) : List Operation → List (Reaction SessionEvent)
  | [] => []
  | operation :: later =>
    (session.step operation).2 :: (session.step operation).1.reactions later

theorem reactions_append (session : Session) (before after : List Operation) :
    session.reactions (before ++ after) =
      session.reactions before ++ (session.run before).reactions after := by
  induction before generalizing session with
  | nil => rfl
  | cons operation later ih => simp [reactions, ih, run]

end Blackjack.Session
