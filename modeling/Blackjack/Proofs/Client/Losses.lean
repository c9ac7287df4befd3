import Blackjack.Proofs.Client.Exhaustion
import Mathlib.Data.List.Induction

/-!
# Two counts of the lost connections

A session counts the losses since the last heartbeat, and a consumer that takes a message for a sign
of health counts those since the last message. A heartbeat is no message, so neither count bounds
the other. The consumer's is the greater one only if a heartbeat came after the last message.
-/

namespace Blackjack

namespace SessionEvent

def isMessage : SessionEvent → Bool
  | message _ => true
  | _ => false

/-- The losses since the last message, with one more event. -/
def tally (losses : Nat) : SessionEvent → Nat
  | message _ => 0
  | offline _ => losses + 1
  | fatal _ | requestExpired _ | rejected _ _ => losses

/-- The losses since the last message. -/
def lossCount (events : List SessionEvent) : Nat := events.foldl tally 0

theorem lossCount_concat (events : List SessionEvent) (event : SessionEvent) :
    lossCount (events ++ [event]) = tally (lossCount events) event := by
  simp [lossCount]

theorem tally_of_message {event : SessionEvent} (told : event.isMessage) (losses : Nat) :
    tally losses event = 0 := by
  cases event with
  | message => rfl
  | offline | fatal | requestExpired | rejected => cases told

theorem lossCount_append {before after : List SessionEvent}
    (silent : ∀ event ∈ after, event.isMessage = false) :
    lossCount (before ++ after) = lossCount before + after.countP isOffline := by
  induction after using List.reverseRecOn with
  | nil => simp
  | append_singleton after event ih =>
    have earlier := ih fun other member => silent other (by simp [member])
    have last := silent event (by simp)
    rw [← List.append_assoc, lossCount_concat, earlier, List.countP_append]
    cases event with
    | message => cases last
    | offline => simp [tally, isOffline, Nat.add_assoc]
    | fatal | requestExpired | rejected => simp [tally, isOffline]

end SessionEvent

/-- The peer asked for a sign of life. -/
def Occurrence.isHeartbeat (occurrence : Occurrence Request SessionEvent) : Bool :=
  occurrence.operation?.any Session.Operation.isHeartbeat

/-- A heartbeat came, and no message after it. -/
def Trace.BeatSinceMessage (trace : Trace Request SessionEvent) : Prop :=
  ∃ (before : Trace Request SessionEvent) (beat : Occurrence Request SessionEvent)
    (after : Trace Request SessionEvent), trace = before ++ beat :: after ∧ beat.isHeartbeat ∧
      ∀ event ∈ after.outputs, event.isMessage = false

theorem Trace.BeatSinceMessage.concat {trace : Trace Request SessionEvent}
    {last : Occurrence Request SessionEvent} (since : trace.BeatSinceMessage)
    (silent : ∀ event ∈ last.outputs, event.isMessage = false) :
    Trace.BeatSinceMessage (trace ++ [last]) := by
  obtain ⟨before, beat, after, rfl, probe, quiet⟩ := since
  refine ⟨before, beat, after ++ [last], by simp, probe, ?_⟩
  intro event member
  rw [Trace.outputs_append, List.mem_append] at member
  rcases member with earlier | latest
  · exact quiet event earlier
  · exact silent event (by simpa [Trace.outputs] using latest)

namespace Session

variable {session next : Session} {trace : Trace Request SessionEvent}

/-- A message is all that its operation tells. -/
theorem Transition.outputs_of_message {operation : Operation} {reaction : Reaction SessionEvent}
    (transition : Transition session operation next reaction) {event : SessionEvent}
    (told : event ∈ reaction.outputs) (message : event.isMessage) : reaction.outputs = [event] := by
  cases transition with
  | resolved | forwarded => simpa [eq_comm] using told
  | condemned | timedOut | rejected | expired | lost =>
    simp only [Reaction.emit, List.mem_singleton] at told
    subst told
    cases message
  | exhausted =>
    simp only at told
    split at told
    · cases told
    · rw [List.mem_singleton.mp told] at message
      cases message
  | _ => cases told

/-- One more occurrence, of which the session counts the losses unless it is a heartbeat. -/
theorem Moves.lossCount_le {last : Occurrence Request SessionEvent}
    (moves : session.Moves last next)
    (counted : trace.BeatSinceMessage ∨
      SessionEvent.lossCount trace.outputs ≤ session.health.reconnectAttempts) :
    Trace.BeatSinceMessage (trace ++ [last]) ∨
      SessionEvent.lossCount (trace.outputs ++ last.outputs) ≤ next.health.reconnectAttempts := by
  -- A message makes the consumer count anew; without one, an earlier heartbeat still stands.
  by_cases told : ∃ event ∈ last.outputs, event.isMessage
  · right
    obtain ⟨event, member, message⟩ := told
    cases moves with
    | aside unseen =>
      rw [Occurrence.outputs_of_unseen unseen] at member
      cases member
    | operated _ transition outputs =>
      rw [outputs] at member
      rw [outputs, transition.outputs_of_message member message, SessionEvent.lossCount_concat,
        SessionEvent.tally_of_message message]
      exact Nat.zero_le _
  · have silent : ∀ event ∈ last.outputs, event.isMessage = false := by simpa using told
    rcases counted with since | bounded
    · exact .inl (since.concat silent)
    rw [SessionEvent.lossCount_append silent]
    cases moves with
    | aside unseen =>
      rw [Occurrence.outputs_of_unseen unseen]
      exact .inr bounded
    | @operated operation _ _ seen transition outputs =>
      rw [outputs, transition.reconnectAttempts_eq]
      cases beat : operation.isHeartbeat with
      | true => exact .inl ⟨trace, last, [], rfl, by simp [Occurrence.isHeartbeat, seen, beat], nofun⟩
      | false => exact .inr (Nat.add_le_add_right bounded _)

/-- The session has counted every loss since the last message, unless a heartbeat came after it. -/
theorem lossCount_le (replays : protocol.Replays session trace next) :
    trace.BeatSinceMessage ∨
      SessionEvent.lossCount trace.outputs ≤ next.health.reconnectAttempts := by
  induction trace using List.reverseRecOn generalizing next with
  | nil => exact .inr (Nat.zero_le _)
  | append_singleton trace last ih =>
    obtain ⟨middle, before, final⟩ := replays.of_append
    cases final with
    | cons answers rest =>
      cases rest
      have alone : Trace.outputs [last] = last.outputs := by simp [Trace.outputs]
      rw [Trace.outputs_append, alone]
      exact (moves_of_answers answers).lossCount_le (ih before)

end Session

end Blackjack
