import Blackjack.Proofs.Session.Omission
import Blackjack.Proofs.Session.Retry

/-!
# Requests in passing

Only a request that must be answered and is accepted changes the session. One that needs no answer
goes out at once, one that is refused is reported, and neither touches a timer, the pending request
or anything else. So a run without such requests goes the same way, operation by operation.
-/

namespace Blackjack.Session

/-- The operation makes a request that needs no answer, on a connection. -/
def fires (session : Session) : Operation → Bool
  | .request request _ => !request.requiresAck && session.state ≠ .disconnected
  | _ => false

/-- The operation makes a request that is refused. -/
def rejects (session : Session) : Operation → Bool
  | .request request now => (session.submit request now).toOption.isNone
  | _ => false

/-- The operation makes a request that the session only passes on or turns down. -/
def passes (session : Session) (operation : Operation) : Bool :=
  session.fires operation || session.rejects operation

section Step

variable {session : Session} {operation : Operation} {request : Request} {now : Instant}

theorem fires_iff : session.fires (.request request now) = true ↔
    request.requiresAck = false ∧ session.state ≠ .disconnected := by
  simp [fires]

theorem rejects_iff : session.rejects (.request request now) = true ↔
    ∃ refusal, session.submit request now = .error refusal := by
  cases answer : session.submit request now <;> simp [rejects, answer, Except.toOption]

theorem exists_request_of_passes (passes : session.passes operation) :
    ∃ request now, operation = .request request now := by
  cases operation with
  | request request now => exact ⟨request, now, rfl⟩
  | connecting | line | submit | tick | stopped => cases passes

theorem step_of_fires (fires : session.fires (.request request now)) :
    session.step (.request request now) = (session, .send request.frame) := by
  obtain ⟨free, connected⟩ := fires_iff.mp fires
  simp [step, Session.request, submit, free, connected]

theorem step_of_refused {refusal : SubmitError}
    (refused : session.submit request now = .error refusal) :
    session.step (.request request now) =
      (session, .emit (.rejected request.command refusal.message)) := by
  simp [step, Session.request, refused]

/-- A request in passing leaves the session as it was, and asks for no stop. -/
theorem step_of_passes (passes : session.passes operation) :
    (session.step operation).1 = session ∧ (session.step operation).2.stop = none := by
  obtain ⟨request, now, rfl⟩ := exists_request_of_passes passes
  rcases Bool.or_eq_true_iff.mp passes with fires | rejects
  · rw [step_of_fires fires]
    exact ⟨rfl, rfl⟩
  · obtain ⟨refusal, refused⟩ := rejects_iff.mp rejects
    rw [step_of_refused refused]
    exact ⟨rfl, rfl⟩

end Step

/-- Nobody who sees all of a session notices that requests in passing are missing. -/
theorem unnoticed_passes (start : Session) (history : List Operation) :
    Unnoticed id passes start history where
  omitted := fun _ _ _ passing => step_of_passes passing
  kept := by
    rintro session other operation - (rfl : other = session)
    exact ⟨rfl, rfl⟩

/-- Leaving out every request that needs no answer and was made on a connection, and every request
that was refused, changes nothing for the other operations of a run, whatever the run is. Each of
them keeps its place and meets the very session that it met in the whole run, so what it returns,
what it tells the consumer, the frames that it queues and the session that it leaves are the same,
and so is the wish to stop that it leaves on the link. A request that is left out queued its own
frame and told nothing, or was refused, and told just that. -/
theorem requests_in_passing (start : Session) (before : List Operation) (operation : Operation)
    (after : List Operation) :
    let session := start.run before
    let thinned := start.omitting passes
    let rest := (start.run (before ++ [operation])).omitting passes after
    (session.passes operation = false →
      thinned (before ++ operation :: after) = thinned before ++ operation :: rest ∧
      start.run (thinned before) = session ∧
      (start.link (thinned before ++ [operation])).stop =
        (start.link (before ++ [operation])).stop) ∧
    (session.passes operation = true →
      thinned (before ++ operation :: after) = thinned before ++ rest ∧
      ∃ request now, operation = .request request now ∧
        let reaction := (session.step operation).2
        (request.requiresAck = false ∧ session.state ≠ .disconnected ∧
            queuedFrames reaction = [Link.wireBytes request.frame] ∧ reaction.outputs = [] ∨
          ∃ refusal, session.submit request now = .error refusal ∧ queuedFrames reaction = [] ∧
            reaction.outputs = [.rejected request.command refusal.message])) := by
  intro session thinned rest
  refine ⟨fun stays => ⟨omitting_of_stays stays, ?_, ?_⟩, fun missing => ⟨?_, ?_⟩⟩
  · exact (unnoticed_passes start before).view_run
  · have whole := (unnoticed_passes start (before ++ [operation])).link_stop
    rwa [omitting_of_stays stays] at whole
  · exact omitting_of_missing missing
  · obtain ⟨request, now, rfl⟩ := exists_request_of_passes missing
    refine ⟨request, now, rfl, ?_⟩
    rcases Bool.or_eq_true_iff.mp missing with fires | rejects
    · obtain ⟨free, connected⟩ := fires_iff.mp fires
      rw [step_of_fires fires]
      exact .inl ⟨free, connected, rfl, rfl⟩
    · obtain ⟨refusal, refused⟩ := rejects_iff.mp rejects
      rw [step_of_refused refused]
      exact .inr ⟨refusal, refused, rfl, rfl⟩

/-- Before the tick that sends the login again, a card was asked for and a room was refused. -/
theorem requests_in_passing_resent :
    let login : Request := ⟨"LOGIN___", "BJ:LOGIN___:bob\n", true⟩
    let hit : Request := ⟨"HIT_____", "BJ:HIT_____\n", false⟩
    let join : Request := ⟨"JOIN____", "BJ:JOIN____:3\n", true⟩
    let kept : List Operation := [.connecting 0, .request login 0]
    let before : List Operation := kept ++ [.request hit 1, .request join 2]
    let session := (new {} 0).run kept
    ((new {} 0).run before).passes (.tick 5000000001) = false ∧
    (new {} 0).omitting passes before = kept ∧ session = (new {} 0).run before ∧
    session.passes (.request hit 1) = true ∧
    (session.step (.request hit 1)).2.outputs = [] ∧
    (session.step (.tick 5000000001)).2 = .send login.frame := by
  intro login hit join kept before session
  have stays : ((new {} 0).run before).passes (.tick 5000000001) = false := rfl
  have missing : session.passes (.request hit 1) = true := by decide
  have thin : (new {} 0).omitting passes before = kept := by decide
  obtain ⟨-, meets, -⟩ := (requests_in_passing (new {} 0) before (.tick 5000000001) []).1 stays
  obtain ⟨-, request, now, same, ⟨-, -, -, told⟩ | ⟨refusal, refused, -⟩⟩ :=
    (requests_in_passing (new {} 0) kept (.request hit 1) []).2 missing
  · rw [thin] at meets
    exact ⟨stays, thin, meets, missing, told, by decide⟩
  · cases same
    cases refused

end Blackjack.Session
