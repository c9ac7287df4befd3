import Blackjack.Link
import Blackjack.Time
import Blackjack.Wire.Request

/-!
# The session's state

One client session lives through many connections. `Session` holds what it remembers: the request
that waits for its answer, the counters that decide whether the connection is healthy, the published
state, and what it has already reported on this connection or at all. `SessionEvent` is what its
consumer sees.
-/

namespace Blackjack

/-- The limits that a session works under. -/
structure SessionPolicy where
  /-- How long a request waits for its answer before it is sent again. -/
  ackTimeout : Duration := Duration.ofSecs 5
  /-- How often a request is sent again before it is given up. -/
  maxRetries : Nat := 3
  /-- The silence after which the connection is presumed dead. -/
  livenessWindow : Duration := Duration.ofSecs 10
  /-- The lost connection cycles that are tolerated. -/
  maxReconnectAttempts : Nat := 5
  /-- The invalid lines in a row that are tolerated. -/
  maxInvalidLines : Nat := 3
  deriving DecidableEq, Repr

/-- What a session is doing. -/
inductive SessionState where
  /-- No connection loop is running. -/
  | disconnected
  /-- Connected or connecting, before any acknowledged request. -/
  | awaitingNickname
  /-- Connected, with no request outstanding. -/
  | idle
  /-- One request is outstanding. -/
  | awaitingAck
  deriving DecidableEq, Repr

/-- What the consumer of a session sees. -/
inductive SessionEvent where
  /-- An inbound command, acknowledgements and application messages alike. -/
  | message (frame : Frame)
  /-- The connection was lost, and the consumer should dial again. -/
  | offline (reason : String)
  /-- The session cannot continue. -/
  | fatal (reason : String)
  /-- A request ran out of retries. -/
  | requestExpired (command : String)
  /-- A request was refused and never sent. -/
  | rejected (command reason : String)
  deriving DecidableEq, Repr

/-- Why a session refuses a request. -/
inductive SubmitError where
  | requestPending (command : String)
  | notConnected
  deriving DecidableEq, Repr

/-- The wording of a refusal. -/
def SubmitError.message : SubmitError → String
  | .requestPending command => "request " ++ command ++ " is still awaiting acknowledgement"
  | .notConnected => "session is not connected"

/-- The request that waits for its answer. -/
structure PendingRequest where
  command : String
  frame : String
  sentAt : Instant
  retries : Nat
  deriving DecidableEq, Repr

/-- The counters that decide whether the connection is healthy. -/
structure SessionHealth where
  /-- When the last valid line arrived, or the connection began. -/
  lastMessageAt : Instant
  /-- The invalid lines since the last valid one. -/
  invalidLines : Nat
  /-- The connection cycles lost since the last heartbeat. -/
  reconnectAttempts : Nat
  deriving DecidableEq, Repr

/-- The published state, and how often it was written. -/
structure StateWatch where
  current : SessionState
  writes : Nat
  deriving DecidableEq, Repr

/-- The watch of a session that never connected. -/
def StateWatch.new : StateWatch := ⟨.disconnected, 0⟩

/-- Publishes a state. -/
def StateWatch.set (watch : StateWatch) (state : SessionState) : StateWatch :=
  ⟨state, watch.writes + 1⟩

/-- A subscriber reads the slot that the watch writes to, and remembers how many writes it knows. -/
structure StateWatch.Subscriber where
  known : Nat
  deriving DecidableEq, Repr

namespace StateWatch.Subscriber

/-- The state that a subscriber sees. -/
def value (_ : Subscriber) (watch : StateWatch) : SessionState := watch.current

/-- Whether the watch was written since the subscriber last took note. -/
def hasNews (subscriber : Subscriber) (watch : StateWatch) : Bool :=
  subscriber.known ≠ watch.writes

end StateWatch.Subscriber

/-- The client's side of the protocol, as far as it depends on what has happened. -/
structure Session where
  policy : SessionPolicy
  state : SessionState
  pending : Option PendingRequest
  health : SessionHealth
  watch : StateWatch
  /-- The current loop is ending because the session asked for it. -/
  stopping : Bool
  /-- Too many invalid lines were reported on this connection. -/
  invalidReported : Bool
  /-- The end of the reconnection attempts was reported, once for all connections. -/
  exhaustionReported : Bool
  deriving DecidableEq, Repr

namespace Session

/-- A session that has not connected yet. -/
def new (policy : SessionPolicy) (now : Instant) : Session where
  policy := policy
  state := .disconnected
  pending := none
  health := ⟨now, 0, 0⟩
  watch := StateWatch.new
  stopping := false
  invalidReported := false
  exhaustionReported := false

/-- Enters a state; only a change is published. -/
def enter (session : Session) (state : SessionState) : Session :=
  if session.state = state then session
  else { session with state, watch := session.watch.set state }

section Enter

variable (session : Session) (state : SessionState)

@[simp] theorem enter_state : (session.enter state).state = state := by
  unfold enter
  split <;> simp_all

@[simp] theorem enter_policy : (session.enter state).policy = session.policy := by
  unfold enter
  split <;> rfl

@[simp] theorem enter_pending : (session.enter state).pending = session.pending := by
  unfold enter
  split <;> rfl

@[simp] theorem enter_health : (session.enter state).health = session.health := by
  unfold enter
  split <;> rfl

@[simp] theorem enter_stopping : (session.enter state).stopping = session.stopping := by
  unfold enter
  split <;> rfl

@[simp] theorem enter_invalidReported :
    (session.enter state).invalidReported = session.invalidReported := by
  unfold enter
  split <;> rfl

@[simp] theorem enter_exhaustionReported :
    (session.enter state).exhaustionReported = session.exhaustionReported := by
  unfold enter
  split <;> rfl

/-- Entering a state writes the watch only if that is a change. -/
theorem enter_watch : (session.enter state).watch =
    if session.state = state then session.watch else session.watch.set state := by
  unfold enter
  split <;> rfl

end Enter

/-- The command of the request that waits for its answer. -/
def pendingCommand (session : Session) : Option String :=
  session.pending.map PendingRequest.command

end Session

end Blackjack
