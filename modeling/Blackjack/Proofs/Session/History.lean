import Blackjack.Proofs.Session.Transition

/-!
# Histories of a session

A history is read from its end: `Since` says that something happened and that nothing of another
kind has happened after it, and `since_concat` is its one step. `Accepts` singles out the
operations that make a request the pending one, and `events` is all that the consumer is told.
-/

namespace Blackjack.Session

namespace Operation

/-- A connection attempt begins. -/
def IsConnecting : Operation → Prop
  | connecting _ => True
  | _ => False

/-- A connection has ended. -/
def IsStopped : Operation → Prop
  | stopped _ => True
  | _ => False

/-- What can happen between the two ends of a connection. -/
def isTraffic : Operation → Bool
  | connecting _ | stopped _ => false
  | line _ _ | submit _ _ | request _ _ | tick _ => true

/-- Some operation of the history satisfies `p` where it stands, and no later one satisfies `q`. -/
def Since (p : List Operation → Operation → Prop) (q : Operation → Prop)
    (history : List Operation) : Prop :=
  ∃ before operation after, history = before ++ operation :: after ∧ p before operation ∧
    ∀ later ∈ after, ¬q later

variable {p : List Operation → Operation → Prop} {q : Operation → Prop}

theorem not_since_nil : ¬Since p q [] := by
  rintro ⟨before, operation, after, split, -, -⟩
  simp at split

/-- The last operation counts itself, and spoils what came before it if it satisfies `q`. -/
theorem since_concat {history : List Operation} {last : Operation} :
    Since p q (history ++ [last]) ↔ p history last ∨ ¬q last ∧ Since p q history := by
  constructor
  · rintro ⟨before, operation, after, split, holds, none⟩
    rcases List.eq_nil_or_concat after with rfl | ⟨after, final, rfl⟩
    · obtain ⟨rfl, same⟩ := List.append_inj' split rfl
      obtain rfl : last = operation := by simpa using same
      exact .inl holds
    · rw [List.concat_eq_append] at split none
      rw [← List.cons_append, ← List.append_assoc] at split
      obtain ⟨rfl, same⟩ := List.append_inj' split rfl
      obtain rfl : last = final := by simpa using same
      exact .inr ⟨none last (by simp), before, operation, after, rfl, holds,
        fun later member => none later (by simp [member])⟩
  · rintro (holds | ⟨spared, before, operation, after, rfl, holds, none⟩)
    · exact ⟨history, last, [], rfl, holds, by simp⟩
    · refine ⟨before, operation, after ++ [last], by simp, holds, ?_⟩
      intro later member
      rcases List.mem_append.mp member with member | member
      · exact none later member
      · rwa [List.mem_singleton.mp member]

end Operation

@[simp] theorem run_cons (session : Session) (operation : Operation) (later : List Operation) :
    session.run (operation :: later) = (session.step operation).1.run later := rfl

@[simp] theorem run_concat (session : Session) (history : List Operation) (last : Operation) :
    session.run (history ++ [last]) = ((session.run history).step last).1 := by
  rw [run_append, run_cons, run_nil]

theorem Transition.policy_eq {session next : Session} {operation : Operation}
    {reaction : Reaction SessionEvent} (transition : Transition session operation next reaction) :
    next.policy = session.policy := by
  cases transition <;> simp [connecting, discredited, refreshed]

@[simp] theorem run_policy (session : Session) (history : List Operation) :
    (session.run history).policy = session.policy := by
  induction history generalizing session with
  | nil => rfl
  | cons operation later ih => rw [run_cons, ih, (step_transition session operation).policy_eq]

/-- The operation hands over a request that must be answered, and the request is not refused. -/
def Accepts (session : Session) (operation : Operation) (request : Request) (now : Instant) : Prop :=
  operation.Hands request now ∧ request.requiresAck = true ∧
    ∃ result, session.submit request now = .ok result

/-- A request that must be answered is accepted exactly if nothing stands in its way. -/
theorem accepts_iff {session : Session} {operation : Operation} {request : Request}
    {now : Instant} :
    session.Accepts operation request now ↔ operation.Hands request now ∧
      request.requiresAck = true ∧ session.state ≠ .disconnected ∧ session.pending = none := by
  unfold Accepts submit
  refine and_congr_right fun _ => and_congr_right fun tracked => ?_
  by_cases offline : session.state = .disconnected
  · simp [offline]
  · cases waiting : session.pending <;> simp [offline, tracked]

/-- An accepted request becomes the pending one, and its frame is queued. -/
theorem Accepts.step {session : Session} {operation : Operation} {request : Request}
    {now : Instant} (accepts : session.Accepts operation request now) :
    session.step operation =
      ({ session with pending := some ⟨request.command, request.frame, now, 0⟩ }.enter .awaitingAck,
        .send request.frame) := by
  obtain ⟨hands, tracked, connected, vacant⟩ := accepts_iff.mp accepts
  rcases hands with rfl | rfl <;>
    simp [Session.step, Session.request, submit, connected, tracked, vacant]

/-- What the consumer is told during a history. -/
def events (session : Session) (history : List Operation) : List SessionEvent :=
  (session.reactions history).flatMap Reaction.outputs

@[simp] theorem events_nil (session : Session) : session.events [] = [] := rfl

theorem events_cons (session : Session) (operation : Operation) (later : List Operation) :
    session.events (operation :: later) =
      (session.step operation).2.outputs ++ (session.step operation).1.events later := rfl

theorem events_singleton (session : Session) (operation : Operation) :
    session.events [operation] = (session.step operation).2.outputs := by
  rw [events_cons, events_nil, List.append_nil]

theorem events_append (session : Session) (before after : List Operation) :
    session.events (before ++ after) = session.events before ++ (session.run before).events after := by
  simp [events, reactions_append]

end Blackjack.Session
