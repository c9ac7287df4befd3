import Blackjack.Session.Step

/-!
# What one operation can do

`Transition` lists every way in which one operation can change a session, with the guards of each
way and with everything it asks of the link and of the consumer. `step_transition` shows that the
list is complete, so what holds of every way holds of every operation, and a proof about sessions
never opens the operations themselves.
-/

namespace Blackjack.Session

/-- The operation hands over this request at this moment, reporting a refusal or not. -/
def Operation.Hands (operation : Operation) (request : Request) (now : Instant) : Prop :=
  operation = .submit request now ∨ operation = .request request now

/-- The session with a valid line just received. -/
def refreshed (session : Session) (now : Instant) : Session :=
  { session with health := { session.health with lastMessageAt := now, invalidLines := 0 } }

/-- The session with one more invalid line. -/
def discredited (session : Session) : Session :=
  { session with
    health := { session.health with invalidLines := session.health.invalidLines + 1 } }

/-- A tick gets past the count of lost cycles and the liveness of the connection. -/
def Healthy (session : Session) (now : Instant) : Prop :=
  session.health.reconnectAttempts ≤ session.policy.maxReconnectAttempts ∧
    Instant.elapsed session.health.lastMessageAt now ≤ session.policy.livenessWindow

/-- The ways in which an operation changes a session, and what each of them asks for. -/
inductive Transition (session : Session) :
    Operation → Session → Reaction SessionEvent → Prop
  | connected (now : Instant) :
      Transition session (.connecting now) (session.connecting now) .none
  | tolerated {text : String} {now : Instant} {failure : FrameError}
      (invalid : Frame.decode text = .error failure)
      (tolerable : ¬(session.policy.maxInvalidLines < session.health.invalidLines + 1 ∧
        session.invalidReported = false)) :
      Transition session (.line text now) session.discredited .none
  | condemned {text : String} {now : Instant} {failure : FrameError}
      (invalid : Frame.decode text = .error failure)
      (exceeded : session.policy.maxInvalidLines < session.health.invalidLines + 1)
      (first : session.invalidReported = false) :
      Transition session (.line text now)
        { session.discredited with invalidReported := true, stopping := true }
        { outputs := [.fatal "Detected invalid messages from server"],
          stop := some "too many invalid messages" }
  | heartbeat {text : String} {now : Instant} {frame : Frame}
      (valid : Frame.decode text = .ok frame) (probe : frame.classify = .heartbeat) :
      Transition session (.line text now) { session with health := ⟨now, 0, 0⟩ }
        (.send (linePrefix ++ Frame.pong))
  | resolved {text : String} {now : Instant} {frame : Frame}
      (valid : Frame.decode text = .ok frame)
      (answer : frame.classify = .ack ∨ frame.classify = .nack)
      (waiting : session.pending.isSome) :
      Transition session (.line text now)
        ({ session.refreshed now with pending := none }.enter .idle) (.emit (.message frame))
  | forwarded {text : String} {now : Instant} {frame : Frame}
      (valid : Frame.decode text = .ok frame) (silent : frame.classify ≠ .heartbeat)
      (unrelated : frame.classify = .ack ∨ frame.classify = .nack → session.pending = none) :
      Transition session (.line text now) (session.refreshed now) (.emit (.message frame))
  | refused {request : Request} {now : Instant} {refusal : SubmitError}
      (refuses : session.submit request now = .error refusal) :
      Transition session (.submit request now) session .none
  | rejected {request : Request} {now : Instant} {refusal : SubmitError}
      (refuses : session.submit request now = .error refusal) :
      Transition session (.request request now) session
        (.emit (.rejected request.command refusal.message))
  | fired {operation : Operation} {request : Request} {now : Instant}
      (hands : operation.Hands request now) (connected : session.state ≠ .disconnected)
      (free : request.requiresAck = false) :
      Transition session operation session (.send request.frame)
  | accepted {operation : Operation} {request : Request} {now : Instant}
      (hands : operation.Hands request now) (connected : session.state ≠ .disconnected)
      (tracked : request.requiresAck = true) (vacant : session.pending = none) :
      Transition session operation
        ({ session with pending := some ⟨request.command, request.frame, now, 0⟩ }.enter .awaitingAck)
        (.send request.frame)
  | exhausted {now : Instant}
      (spent : session.policy.maxReconnectAttempts < session.health.reconnectAttempts) :
      Transition session (.tick now) { session with stopping := true, exhaustionReported := true }
        { outputs :=
            if session.exhaustionReported then [] else [.fatal "Ran out of reconnection attempts."],
          stop := some "reconnection attempts exhausted" }
  | timedOut {now : Instant}
      (unspent : session.health.reconnectAttempts ≤ session.policy.maxReconnectAttempts)
      (silent : session.policy.livenessWindow < Instant.elapsed session.health.lastMessageAt now) :
      Transition session (.tick now)
        { session with
          stopping := true
          health := ⟨now, session.health.invalidLines, session.health.reconnectAttempts + 1⟩ }
        { outputs := [.offline "connection timed out"], stop := some "liveness timeout" }
  | waited {now : Instant} (healthy : session.Healthy now)
      (early : ∀ pending ∈ session.pending,
        Instant.elapsed pending.sentAt now ≤ session.policy.ackTimeout) :
      Transition session (.tick now) session .none
  | resent {now : Instant} {pending : PendingRequest} (healthy : session.Healthy now)
      (waiting : session.pending = some pending)
      (late : session.policy.ackTimeout < Instant.elapsed pending.sentAt now)
      (left : pending.retries < session.policy.maxRetries) :
      Transition session (.tick now)
        { session with
          pending := some { pending with retries := pending.retries + 1, sentAt := now } }
        (.send pending.frame)
  | expired {now : Instant} {pending : PendingRequest} (healthy : session.Healthy now)
      (waiting : session.pending = some pending)
      (late : session.policy.ackTimeout < Instant.elapsed pending.sentAt now)
      (spent : session.policy.maxRetries ≤ pending.retries) :
      Transition session (.tick now) ({ session with pending := none }.enter .idle)
        (.emit (.requestExpired pending.command))
  | lost {cause : StopCause} (fault : cause.isFault = true) (unasked : session.stopping = false) :
      Transition session (.stopped cause)
        { { session with pending := none, stopping := false }.enter .disconnected with
          health := { session.health with
            reconnectAttempts := session.health.reconnectAttempts + 1 } }
        { outputs := [.offline cause.reason] }
  | closed {cause : StopCause} (asked : cause.isFault = false ∨ session.stopping = true) :
      Transition session (.stopped cause)
        ({ session with pending := none, stopping := false }.enter .disconnected) .none

variable (session : Session)

private theorem line_transition (text : String) (now : Instant) :
    Transition session (.line text now) (session.line text now).1 (session.line text now).2 := by
  unfold line
  cases decoded : Frame.decode text with
  | error failure =>
    simp only [invalidLine]
    split
    · next reported => exact .condemned decoded reported.1 reported.2
    · next tolerable => exact .tolerated decoded tolerable
  | ok frame =>
    simp only [validLine]
    cases class_eq : frame.classify with
    | heartbeat => exact .heartbeat decoded class_eq
    | generic => exact .forwarded decoded (by simp [class_eq]) (by simp [class_eq])
    | ack =>
      simp only
      split
      · next waiting => exact .resolved decoded (.inl class_eq) waiting
      · next vacant =>
        exact .forwarded decoded (by simp [class_eq]) (fun _ => by simpa using vacant)
    | nack =>
      simp only
      split
      · next waiting => exact .resolved decoded (.inr class_eq) waiting
      · next vacant =>
        exact .forwarded decoded (by simp [class_eq]) (fun _ => by simpa using vacant)

/-- What an accepted request does, however it was handed over. -/
private theorem submit_transition {operation : Operation} {request : Request} {now : Instant}
    (hands : operation.Hands request now) {result : Session × Reaction SessionEvent}
    (accepts : session.submit request now = .ok result) :
    Transition session operation result.1 result.2 := by
  unfold submit at accepts
  split at accepts
  · cases accepts
  next connected =>
  split at accepts
  · next free =>
    cases accepts
    exact .fired hands connected (by simpa using free)
  next tracked =>
  cases waiting : session.pending with
  | some pending => simp [waiting] at accepts
  | none =>
    simp only [waiting] at accepts
    cases accepts
    exact .accepted hands connected (by simpa using tracked) waiting

private theorem retry_transition {pending : PendingRequest} {now : Instant}
    (healthy : session.Healthy now) (waiting : session.pending = some pending) :
    Transition session (.tick now) (session.retry pending now).1 (session.retry pending now).2 := by
  unfold retry
  split
  · next early => exact .waited healthy (by simpa [waiting] using early)
  next late =>
  split
  · next left => exact .resent healthy waiting (Nat.not_le.mp late) left
  · next spent => exact .expired healthy waiting (Nat.not_le.mp late) (Nat.not_lt.mp spent)

private theorem tick_transition (now : Instant) :
    Transition session (.tick now) (session.tick now).1 (session.tick now).2 := by
  unfold tick
  split
  · next spent => exact .exhausted spent
  next unspent =>
  split
  · next silent => exact .timedOut (Nat.not_lt.mp unspent) silent
  next alive =>
  have healthy : session.Healthy now := ⟨Nat.not_lt.mp unspent, Nat.not_lt.mp alive⟩
  cases waiting : session.pending with
  | none => exact .waited healthy (by simp [waiting])
  | some pending => exact retry_transition session healthy waiting

private theorem stopped_transition (cause : StopCause) :
    Transition session (.stopped cause) (session.stopped cause).1
      { outputs := (session.stopped cause).2 } := by
  unfold stopped
  by_cases lost : (cause.isFault && !session.stopping) = true
  · have parts : cause.isFault = true ∧ session.stopping = false := by simpa using lost
    simp only [lost, ↓reduceIte, enter_health]
    exact .lost parts.1 parts.2
  · have asked : cause.isFault = false ∨ session.stopping = true := by
      cases fault : cause.isFault <;> simp_all
    simp only [lost]
    exact .closed asked

/-- Every operation is one of the listed ways. -/
theorem step_transition (operation : Operation) :
    Transition session operation (session.step operation).1 (session.step operation).2 := by
  cases operation with
  | connecting now => exact .connected now
  | line text now => exact line_transition session text now
  | tick now => exact tick_transition session now
  | stopped cause => exact stopped_transition session cause
  | submit request now =>
    cases answer : session.submit request now with
    | ok result => simpa only [step, answer] using submit_transition session (.inl rfl) answer
    | error refusal => simpa only [step, answer] using Transition.refused answer
  | request request now =>
    cases answer : session.submit request now with
    | ok result =>
      simpa only [step, Session.request, answer] using submit_transition session (.inr rfl) answer
    | error refusal => simpa only [step, Session.request, answer] using Transition.rejected answer

/-- A connection attempt begins in one way only. -/
theorem Transition.of_connecting {session next : Session} {now : Instant}
    {reaction : Reaction SessionEvent}
    (transition : Transition session (.connecting now) next reaction) :
    next = session.connecting now ∧ reaction = .none := by
  cases transition with
  | connected => exact ⟨rfl, rfl⟩
  | fired hands | accepted hands => rcases hands with same | same <;> cases same

end Blackjack.Session
