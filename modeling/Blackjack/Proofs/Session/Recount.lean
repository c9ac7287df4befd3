import Blackjack.Proofs.Session.Transition

/-!
# Counts that a session only keeps

Apart from a line without the prefix, no operation looks at the count of such lines, and none at the
number of writes to the watch. So a session whose two counts are given other values goes on as it
would have gone on, as long as the values allow for what the operations do with the counts: they
clear the one and add to the other (`Recount`).
-/

namespace Blackjack.Session

/-- Other values for the two counts. -/
structure Recount where
  lines : Nat → Nat
  writes : Nat → Nat
  lines_zero : lines 0 = 0
  writes_succ : ∀ count, writes (count + 1) = writes count + 1

/-- The session with other values for its two counts. -/
def recounted (recount : Recount) (session : Session) : Session :=
  { session with
    health := { session.health with invalidLines := recount.lines session.health.invalidLines }
    watch := { session.watch with writes := recount.writes session.watch.writes } }

variable (recount : Recount) (session : Session)

theorem recounted_enter (state : SessionState) :
    (session.recounted recount).enter state = (session.enter state).recounted recount := by
  have same : (session.recounted recount).state = session.state := rfl
  unfold enter
  rw [same]
  split
  · rfl
  · simp [recounted, StateWatch.set, recount.writes_succ]

theorem recounted_refreshed (now : Instant) :
    (session.recounted recount).refreshed now = (session.refreshed now).recounted recount := by
  simp [recounted, refreshed, recount.lines_zero]

theorem recounted_connecting (now : Instant) :
    (session.recounted recount).connecting now = (session.connecting now).recounted recount := by
  have begun := recounted_enter recount { session.refreshed now with
    pending := none, stopping := false, invalidReported := false } .awaitingNickname
  simpa [connecting, recounted, refreshed, recount.lines_zero] using begun

theorem recounted_validLine (frame : Frame) (now : Instant) :
    (session.recounted recount).validLine frame now =
      (session.validLine frame now).map (recounted recount) id := by
  have heard := recounted_refreshed recount session now
  have released :
      { (session.recounted recount).refreshed now with pending := none }.enter .idle =
        ({ session.refreshed now with pending := none }.enter .idle).recounted recount := by
    rw [heard]
    exact recounted_enter recount { session.refreshed now with pending := none } .idle
  unfold validLine
  cases frame.classify with
  | heartbeat =>
    refine Prod.ext ?_ rfl
    exact congrArg (fun session => { session with health := { session.health with
      reconnectAttempts := 0 } }) heard
  | generic => exact Prod.ext heard rfl
  | ack | nack =>
    dsimp only
    rw [apply_ite (Prod.map _ _)]
    exact ite_congr rfl (fun _ => Prod.ext released rfl) fun _ => Prod.ext heard rfl

theorem recounted_submit (request : Request) (now : Instant) :
    (session.recounted recount).submit request now =
      (session.submit request now).map (Prod.map (recounted recount) id) := by
  have awaiting := recounted_enter recount
    { session with pending := some ⟨request.command, request.frame, now, 0⟩ } .awaitingAck
  have state : (session.recounted recount).state = session.state := rfl
  have waiting : (session.recounted recount).pending = session.pending := rfl
  unfold submit
  rw [state, waiting]
  split
  · rfl
  split
  · rfl
  cases session.pending with
  | some pending => rfl
  | none => exact congrArg Except.ok (Prod.ext awaiting rfl)

theorem recounted_request (request : Request) (now : Instant) :
    (session.recounted recount).request request now =
      (session.request request now).map (recounted recount) id := by
  unfold Session.request
  rw [recounted_submit]
  cases session.submit request now <;> rfl

theorem recounted_retry (pending : PendingRequest) (now : Instant) :
    (session.recounted recount).retry pending now =
      (session.retry pending now).map (recounted recount) id := by
  have released := recounted_enter recount { session with pending := none } .idle
  have policy : (session.recounted recount).policy = session.policy := rfl
  unfold retry
  rw [policy]
  split
  · rfl
  split
  · rfl
  · exact Prod.ext released rfl

theorem recounted_tick (now : Instant) :
    (session.recounted recount).tick now = (session.tick now).map (recounted recount) id := by
  unfold tick
  rw [apply_ite (Prod.map _ _), apply_ite (Prod.map _ _)]
  refine ite_congr rfl (fun _ => rfl) fun _ => ite_congr rfl (fun _ => rfl) fun _ => ?_
  have waiting : (session.recounted recount).pending = session.pending := rfl
  rw [waiting]
  cases session.pending with
  | none => rfl
  | some pending => exact recounted_retry recount session pending now

theorem recounted_stopped (cause : StopCause) :
    (session.recounted recount).stopped cause =
      (session.stopped cause).map (recounted recount) id := by
  have left := recounted_enter recount { session with pending := none, stopping := false }
    .disconnected
  unfold stopped
  dsimp only
  rw [apply_ite (Prod.map _ _)]
  refine ite_congr rfl (fun _ => ?_) fun _ => Prod.ext left rfl
  refine Prod.ext ?_ rfl
  exact congrArg (fun session => { session with health := { session.health with
    reconnectAttempts := session.health.reconnectAttempts + 1 } }) left

end Blackjack.Session
