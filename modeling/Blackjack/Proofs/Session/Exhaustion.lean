import Blackjack.Proofs.Session.Connection

/-!
# Running out of attempts

A session is `Spent` once it has lost more cycles than it tolerates. The next tick then asks for the
end of the connection, and tells the consumer so unless it has been told before. A tick that asks
for nothing finds the session unspent, and what can happen between two ticks of a connection that
goes on adds to no count, so an operation spends a session only by ending its connection.
-/

namespace Blackjack.Session

/-- More cycles have been lost than are tolerated. -/
def Spent (session : Session) : Prop :=
  session.policy.maxReconnectAttempts < session.health.reconnectAttempts

instance (session : Session) : Decidable session.Spent :=
  inferInstanceAs (Decidable (_ < _))

/-- What the consumer is told when the attempts have run out. -/
def exhaustion : SessionEvent := .fatal "Ran out of reconnection attempts."

/-- What a spent session asks of the link. -/
def exhaustionStop : String := "reconnection attempts exhausted"

/-- The reaction of a spent session to a tick. -/
def exhaustionReaction (session : Session) : Reaction SessionEvent where
  outputs := if session.exhaustionReported then [] else [exhaustion]
  stop := some exhaustionStop

theorem tick_of_spent {session : Session} (spent : session.Spent) (now : Instant) :
    session.tick now = ({ session with stopping := true, exhaustionReported := true },
      session.exhaustionReaction) := by
  unfold tick
  exact if_pos spent

namespace Transition

variable {session next : Session} {operation : Operation} {reaction : Reaction SessionEvent}

/-- A tick that asks for nothing finds attempts left, and takes none. -/
theorem unspent_of_tick {now : Instant} (transition : Transition session (.tick now) next reaction)
    (unasked : reaction.stop = none) : ¬session.Spent ∧
      next.health.reconnectAttempts = session.health.reconnectAttempts := by
  cases transition with
  | exhausted | timedOut => cases unasked
  | waited healthy | resent healthy => exact ⟨Nat.not_lt.mpr healthy.1, rfl⟩
  | expired healthy => exact ⟨Nat.not_lt.mpr healthy.1, by simp⟩
  | fired hands | accepted hands => rcases hands with same | same <;> cases same

/-- An operation that asks for nothing takes no attempt. -/
theorem reconnectAttempts_le (transition : Transition session operation next reaction)
    (traffic : operation.isTraffic) (unasked : reaction.stop = none) :
    next.health.reconnectAttempts ≤ session.health.reconnectAttempts := by
  rw [transition.reconnectAttempts_eq]
  obtain ⟨-, -, routine⟩ := transition.calm traffic unasked
  split
  · exact Nat.zero_le _
  · have none : reaction.outputs.countP SessionEvent.isOffline = 0 := by
      rw [List.countP_eq_zero]
      intro event member
      have quiet := routine event member
      cases event <;> simp_all [SessionEvent.isFinal, SessionEvent.isOffline]
    omega

/-- A request neither asks for the end of the connection nor touches any count. -/
theorem of_request {request : Request} {now : Instant}
    (transition : Transition session (.request request now) next reaction) :
    reaction.stop = none ∧ next.stopping = session.stopping ∧ next.health = session.health := by
  cases transition <;> simp

/-- What asks for the end of a connection marks it as such, and leaves at most one cycle more lost
than is tolerated if no more were lost before. -/
theorem of_asked (transition : Transition session operation next reaction)
    (asked : reaction.stop.isSome) :
    next.stopping = true ∧ next.policy = session.policy ∧
      next.health.reconnectAttempts ≤ max session.health.reconnectAttempts
        (session.policy.maxReconnectAttempts + 1) := by
  cases transition with
  | condemned => exact ⟨rfl, rfl, Nat.le_max_left _ _⟩
  | exhausted => exact ⟨rfl, rfl, Nat.le_max_left _ _⟩
  | timedOut unspent => exact ⟨rfl, rfl, by simp only; omega⟩
  | _ => simp at asked

/-- What asks for the end of a connection tells the consumer one final thing, unless the consumer
has been told that the attempts have run out. -/
theorem outputs_of_first_asked (transition : Transition session operation next reaction)
    (asked : reaction.stop.isSome) (untold : session.exhaustionReported = false) :
    ∃ final : SessionEvent, reaction.outputs = [final] ∧ final.isFinal := by
  cases transition with
  | condemned | timedOut => exact ⟨_, rfl, rfl⟩
  | exhausted =>
    rw [untold]
    exact ⟨_, rfl, rfl⟩
  | _ => simp at asked

/-- The end of a connection lets a session go on as one that did not ask for it. -/
theorem stopping_of_stopped {cause : StopCause}
    (transition : Transition session (.stopped cause) next reaction) : next.stopping = false := by
  cases transition with
  | lost | closed => simp
  | fired hands | accepted hands => rcases hands with same | same <;> cases same

theorem disconnected_of_stopped {cause : StopCause}
    (transition : Transition session (.stopped cause) next reaction) :
    next.state = .disconnected := by
  cases transition with
  | lost | closed => simp
  | fired hands | accepted hands => rcases hands with same | same <;> cases same

/-- The end of a connection counts if it is a loss that the session did not ask for. -/
theorem reconnectAttempts_of_stopped {cause : StopCause}
    (transition : Transition session (.stopped cause) next reaction) :
    next.health.reconnectAttempts = session.health.reconnectAttempts +
      if cause.isFault ∧ session.stopping = false then 1 else 0 := by
  cases transition with
  | lost fault unasked => simp [fault, unasked]
  | closed asked => rcases asked with asked | asked <;> simp [asked]
  | fired hands | accepted hands => rcases hands with same | same <;> cases same

/-- Only a tick of a spent session is the occasion to tell that the attempts have run out. -/
theorem exhaustionReported_iff (transition : Transition session operation next reaction) :
    next.exhaustionReported = true ↔
      session.exhaustionReported = true ∨ (∃ now, operation = .tick now) ∧ session.Spent := by
  cases transition with
  | exhausted spent => simp [Spent, spent]
  | timedOut unspent => simp [Spent, Nat.not_lt.mpr unspent]
  | waited healthy | resent healthy | expired healthy => simp [Spent, Nat.not_lt.mpr healthy.1]
  | fired hands | accepted hands => rcases hands with rfl | rfl <;> simp
  | _ => simp [connecting, discredited, refreshed]

/-- It is told on the first occasion, and not otherwise. -/
theorem exhaustion_mem_iff (transition : Transition session operation next reaction) :
    exhaustion ∈ reaction.outputs ↔
      (∃ now, operation = .tick now) ∧ session.Spent ∧ session.exhaustionReported = false := by
  cases transition with
  | exhausted spent => cases session.exhaustionReported <;> simp [Spent, spent, exhaustion]
  | timedOut unspent => simp [Spent, Nat.not_lt.mpr unspent, exhaustion]
  | waited healthy | resent healthy | expired healthy =>
    simp [Spent, Nat.not_lt.mpr healthy.1, exhaustion]
  | fired hands | accepted hands => rcases hands with rfl | rfl <;> simp
  | _ => simp [exhaustion]

end Transition

end Blackjack.Session
