import Blackjack.Proofs.Session.Exchange
import Blackjack.Proofs.Session.Retry
import Blackjack.Proofs.Wire.Request

/-!
# The fate of a request

A request that must be answered is refused or accepted, and an accepted one waits until it is
answered, expires, or is abandoned with its connection. `Transition.balance` says of one operation
that it begins and ends as many waits as it should, and the balance of a history is the sum. A
`Wait` is the interval in which one accepted request is pending: at no point of a history do two of
them last, and whatever is pending there is the request of the one that does.
-/

namespace Blackjack

/-- A request has run out of retries. -/
def SessionEvent.isExpiry : SessionEvent → Bool
  | requestExpired _ => true
  | _ => false

namespace Session

/-- The operation answers a request that waits. -/
def answers (session : Session) (operation : Operation) : Bool :=
  operation.isAnswer && session.pending.isSome

/-- The operation begins or ends a connection while a request waits. -/
def abandons (session : Session) (operation : Operation) : Bool :=
  !operation.isTraffic && session.pending.isSome

/-- How many operations of a history satisfy `p`, each at the session that it meets. -/
def tally (p : Session → Operation → Bool) (session : Session) : List Operation → Nat
  | [] => 0
  | operation :: later => (p session operation).toNat + tally p (session.step operation).1 later

section Step

variable {session next : Session} {operation : Operation} {reaction : Reaction SessionEvent}

theorem accepts_eq_false_of_error {request : Request} {now : Instant} {refusal : SubmitError}
    (hands : operation.Hands request now) (refuses : session.submit request now = .error refusal) :
    session.accepts operation = false := by
  rcases hands with rfl | rfl <;> simp [accepts, refuses, Except.toOption]

theorem answers_line_iff {text : String} {now : Instant} {frame : Frame}
    (valid : Frame.decode text = .ok frame) :
    session.answers (.line text now) = true ↔
      (frame.classify = .ack ∨ frame.classify = .nack) ∧ session.pending.isSome := by
  simp [answers, Operation.isAnswer, valid]

/-- A wait that was there before an operation, or begins with it, is there afterwards or has ended
with an answer, an expiry or the connection. -/
theorem Transition.balance (transition : Transition session operation next reaction) :
    (session.accepts operation).toNat + session.pending.isSome.toNat =
      (session.answers operation).toNat + reaction.outputs.countP SessionEvent.isExpiry +
        (session.abandons operation).toNat + next.pending.isSome.toNat := by
  cases transition with
  | connected | lost | closed =>
    simp [accepts, answers, abandons, Operation.isAnswer, Operation.isTraffic, connecting,
      SessionEvent.isExpiry]
  | tolerated invalid | condemned invalid =>
    simp [accepts, answers, abandons, Operation.isAnswer, Operation.isTraffic, invalid, discredited,
      SessionEvent.isExpiry]
  | heartbeat valid probe =>
    simp [accepts, answers, abandons, Operation.isAnswer, Operation.isTraffic, valid, probe]
  | @resolved text now frame valid answer waiting =>
    have answered : session.answers (.line text now) = true :=
      (answers_line_iff valid).mpr ⟨answer, waiting⟩
    simp [answered, accepts, abandons, Operation.isTraffic, waiting, SessionEvent.isExpiry]
  | @forwarded text now frame valid silent unrelated =>
    have unanswered : session.answers (.line text now) = false := by
      rw [Bool.eq_false_iff]
      intro answered
      obtain ⟨answer, waiting⟩ := (answers_line_iff valid).mp answered
      simp [unrelated answer] at waiting
    simp [unanswered, accepts, abandons, Operation.isTraffic, refreshed, SessionEvent.isExpiry]
  | refused refuses | rejected refuses =>
    rw [accepts_eq_false_of_error (by simp [Operation.Hands]) refuses]
    simp [answers, abandons, Operation.isAnswer, Operation.isTraffic, SessionEvent.isExpiry]
  | fired hands connected free =>
    rcases hands with rfl | rfl <;>
      simp [accepts, answers, abandons, Operation.isAnswer, Operation.isTraffic, free]
  | accepted hands connected tracked vacant =>
    have accepted : session.accepts operation = true :=
      accepts_eq_true_iff.mpr ⟨_, _, accepts_iff.mpr ⟨hands, tracked, connected, vacant⟩⟩
    simp [accepted, answers, abandons, vacant]
  | exhausted =>
    cases session.exhaustionReported <;>
      simp [accepts, answers, abandons, Operation.isAnswer, Operation.isTraffic,
        SessionEvent.isExpiry]
  | timedOut | waited =>
    simp [accepts, answers, abandons, Operation.isAnswer, Operation.isTraffic,
      SessionEvent.isExpiry]
  | resent healthy waiting | expired healthy waiting =>
    simp [accepts, answers, abandons, Operation.isAnswer, Operation.isTraffic, waiting,
      SessionEvent.isExpiry]

end Step

/-- Every request that is accepted waits until it is answered, expires or is abandoned. -/
theorem run_balance (start : Session) (history : List Operation) :
    start.tally accepts history + start.pending.isSome.toNat =
      start.tally answers history + (start.events history).countP SessionEvent.isExpiry +
        start.tally abandons history + (start.run history).pending.isSome.toNat := by
  induction history generalizing start with
  | nil => simp [tally]
  | cons operation later ih =>
    have here := (step_transition start operation).balance
    have there := ih (start.step operation).1
    simp only [tally, events_cons, List.countP_append, run_cons]
    omega

/-- A request that must be answered, as it is handed over with a report of its refusal. -/
theorem request_step {session : Session} {request : Request} {now : Instant}
    (tracked : request.requiresAck = true) :
    (∃ refusal : SubmitError, (session.state = .disconnected ∨ session.pending.isSome) ∧
      session.step (.request request now) =
        (session, .emit (.rejected request.command refusal.message))) ∨
    ¬(session.state = .disconnected ∨ session.pending.isSome) ∧
      session.Accepts (.request request now) request now := by
  by_cases offline : session.state = .disconnected
  · refine .inl ⟨.notConnected, .inl offline, ?_⟩
    simp [step, Session.request, submit, offline]
  cases waiting : session.pending with
  | some pending =>
    refine .inl ⟨.requestPending pending.command, .inr rfl, ?_⟩
    simp [step, Session.request, submit, offline, tracked, waiting]
  | none =>
    exact .inr ⟨by simp [offline], accepts_iff.mpr ⟨.inr rfl, tracked, offline, waiting⟩⟩

theorem Operation.Hands.unique {operation : Operation} {first second : Request}
    {early late : Instant} (hands : operation.Hands first early)
    (again : operation.Hands second late) : first = second ∧ early = late := by
  rcases hands with rfl | rfl <;> simpa [Operation.Hands] using again

/-- The wait of one accepted request: the operation that accepted it, with what came before and
what has happened since. -/
structure Wait where
  before : List Operation
  acceptance : Operation
  request : Request
  sent : Instant
  since : List Operation

namespace Wait

variable {start : Session} {wait first second : Wait}

/-- The history that the wait has reached. -/
def history (wait : Wait) : List Operation := wait.before ++ wait.acceptance :: wait.since

/-- The request was accepted, and some request has been pending ever since. -/
structure Lasts (start : Session) (wait : Wait) : Prop where
  accepts : (start.run wait.before).Accepts wait.acceptance wait.request wait.sent
  waiting : ∀ part, part <+: wait.since →
    (start.run (wait.before ++ wait.acceptance :: part)).pending.isSome

theorem Lasts.pending_isSome (lasts : wait.Lasts start) {part : List Operation}
    (inside : part <+: wait.since) :
    (((start.run wait.before).step wait.acceptance).1.run part).pending.isSome := by
  have waiting := lasts.waiting part inside
  rwa [run_append] at waiting

/-- What is pending at the end of a wait is the request that it began with, as often resent as its
retries say. -/
theorem Lasts.exists_waits (lasts : wait.Lasts start) :
    ∃ pending resends, (start.run wait.history).pending = some pending ∧
      Waits start.policy wait.request wait.sent resends pending := by
  have accepted : ((start.run wait.before).step wait.acceptance).1.pending =
      some ⟨wait.request.command, wait.request.frame, wait.sent, 0⟩ := by
    rw [lasts.accepts.step]
    exact enter_pending _ _
  obtain ⟨pending, found, waits⟩ := run_waits accepted fun _ => lasts.pending_isSome
  rw [(step_transition _ _).policy_eq, run_policy] at waits
  rw [history, run_append, run_cons]
  exact ⟨pending, _, found, waits⟩

theorem Lasts.pendingCommand_eq (lasts : wait.Lasts start) :
    (start.run wait.history).pendingCommand = some wait.request.command := by
  obtain ⟨pending, resends, found, waits⟩ := lasts.exists_waits
  rw [pendingCommand, found, Option.map_some, waits.command]

/-- A wait begins with the acceptance of its request. -/
theorem Lasts.of_accepts {before : List Operation} {acceptance : Operation} {request : Request}
    {sent : Instant} (accepts : (start.run before).Accepts acceptance request sent) :
    Lasts start ⟨before, acceptance, request, sent, []⟩ where
  accepts := accepts
  waiting := by
    intro part inside
    rw [List.prefix_nil.mp inside, run_concat, accepts.step, enter_pending]
    rfl

/-- A wait goes on with an operation after which the request is still pending. -/
theorem Lasts.concat (lasts : wait.Lasts start) {operation : Operation}
    (waiting : (start.run (wait.history ++ [operation])).pending.isSome) :
    Lasts start { wait with since := wait.since ++ [operation] } where
  accepts := lasts.accepts
  waiting := by
    intro part inside
    rcases List.prefix_concat_iff.mp inside with rfl | shorter
    · rwa [history, List.append_assoc, List.cons_append] at waiting
    · exact lasts.waiting part shorter

/-- What is pending was accepted, and has been pending ever since. -/
theorem exists_lasts (vacant : start.pending = none) {history : List Operation}
    (waiting : (start.run history).pending.isSome) :
    ∃ wait : Wait, wait.history = history ∧ wait.Lasts start := by
  induction history using List.reverseRecOn with
  | nil => simp [vacant] at waiting
  | append_singleton earlier operation ih =>
    rw [run_concat] at waiting
    cases before : (start.run earlier).pending with
    | none =>
      have accepted :=
        (step_transition (start.run earlier) operation).accepts_of_waiting before waiting
      obtain ⟨request, sent, accepts⟩ := accepts_eq_true_iff.mp accepted
      exact ⟨⟨earlier, operation, request, sent, []⟩, rfl, .of_accepts accepts⟩
    | some pending =>
      obtain ⟨wait, rfl, lasts⟩ := ih (by simp [before])
      rw [← run_concat] at waiting
      exact ⟨{ wait with since := wait.since ++ [operation] }, by simp [Wait.history],
        lasts.concat waiting⟩

/-- No wait begins while another one lasts. -/
theorem Lasts.before_eq_of_prefix (lasts : first.Lasts start) (later : second.Lasts start)
    (same : first.history = second.history) (earlier : first.before <+: second.before) :
    first.before = second.before := by
  obtain ⟨between, split⟩ := earlier
  rcases between with _ | ⟨operation, between⟩
  · rw [← split, List.append_nil]
  · rw [history, history, ← split, List.append_assoc, List.append_cancel_left_eq, List.cons_append,
      List.cons.injEq] at same
    have busy := lasts.waiting between ⟨_, same.2.symm⟩
    rw [same.1, split, (accepts_iff.mp later.accepts).2.2.2] at busy
    cases busy

/-- At most one wait lasts at any point of a history. -/
theorem Lasts.unique (lasts : first.Lasts start) (other : second.Lasts start)
    (same : first.history = second.history) : first = second := by
  have before : first.before = second.before := by
    have inside : second.before <+: first.history := same ▸ List.prefix_append second.before _
    rcases List.prefix_or_prefix_of_prefix (List.prefix_append first.before _) inside
      with earlier | earlier
    · exact lasts.before_eq_of_prefix other same earlier
    · exact (other.before_eq_of_prefix lasts same.symm earlier).symm
  obtain ⟨_, acceptance, request, sent, since⟩ := first
  obtain ⟨_, _, _, _, _⟩ := second
  obtain rfl := before
  obtain ⟨rfl, rfl⟩ := List.cons.inj (List.append_cancel_left same)
  obtain ⟨rfl, rfl⟩ := lasts.accepts.1.unique other.accepts.1
  rfl

end Wait

/-- Every request that must be answered has exactly one fate. When it is handed over, either its
frame is queued and it becomes the pending one, or it is rejected by its padded command and nothing
else happens; the latter exactly if the session is disconnected or another request is pending. The
accepted requests are, at every point, as many as those that were answered, that expired and that
were abandoned with their connection, and the one that is pending. What is pending is the request of
the one wait that lasts there; two waits never last at the same point; and a request that is
reported as expired is that of the wait which ends with the report. -/
theorem one_fate (policy : SessionPolicy) (created : Instant) (history : List Operation) :
    let start := new policy created
    let session := start.run history
    (∀ command args request, Request.make command args true = .ok request → ∀ now,
      let handed := session.step (.request request now)
      let Rejects (refusal : SubmitError) :=
        handed = (session, .emit (.rejected (padCommand command) refusal.message))
      (handed.2 = .send request.frame ∧
          handed.1.pending = some ⟨padCommand command, request.frame, now, 0⟩ ∨
        ∃ refusal, Rejects refusal) ∧
      ((∃ refusal, Rejects refusal) ↔ session.state = .disconnected ∨ session.pending.isSome)) ∧
    start.tally accepts history =
      start.tally answers history + (start.events history).countP SessionEvent.isExpiry +
        start.tally abandons history + session.pending.isSome.toNat ∧
    (∀ text now frame, Frame.decode text = .ok frame →
      (session.answers (.line text now) ↔
        (frame.classify = .ack ∨ frame.classify = .nack) ∧ session.pending.isSome)) ∧
    (session.pending.isSome ↔ ∃ wait : Wait, wait.history = history ∧ wait.Lasts start) ∧
    (∀ wait : Wait, wait.history = history → wait.Lasts start →
      session.pendingCommand = some wait.request.command ∧
      ∀ other : Wait, other.history = history → other.Lasts start → other = wait) ∧
    ∀ last command, .requestExpired command ∈ (session.step last).2.outputs →
      ∃ wait : Wait, wait.history = history ∧ wait.Lasts start ∧ command = wait.request.command ∧
        (session.step last).2.outputs = [.requestExpired command] ∧
        (session.step last).1.pending = none := by
  intro start session
  have fresh : start.pending = none := rfl
  refine ⟨?_, ?_, fun _ _ _ => answers_line_iff, ?_, ?_, ?_⟩
  · intro command args request made now handed Rejects
    obtain ⟨-, same⟩ := Draft.make_eq_ok_iff.mp (show Draft.make ⟨command, args, true⟩ = _ from made)
    have tracked : request.requiresAck = true := by rw [same]
    have named : request.command = padCommand command := by rw [same]
    rcases request_step tracked with ⟨refusal, busy, step⟩ | ⟨free, accepts⟩
    · rw [named] at step
      exact ⟨.inr ⟨refusal, step⟩, fun _ => busy, fun _ => ⟨refusal, step⟩⟩
    · have step : handed = _ := accepts.step
      rw [step, ← named]
      refine ⟨.inl ⟨rfl, enter_pending _ _⟩, ?_, fun busy => (free busy).elim⟩
      rintro ⟨refusal, rejects⟩
      simp [Rejects, step, Reaction.send, Reaction.emit] at rejects
  · have balance := run_balance start history
    simpa [fresh] using balance
  · refine ⟨Wait.exists_lasts fresh, ?_⟩
    rintro ⟨wait, rfl, lasts⟩
    exact lasts.waiting wait.since List.prefix_rfl
  · rintro wait rfl lasts
    exact ⟨lasts.pendingCommand_eq, fun other same again => again.unique lasts same⟩
  · intro last command reported
    obtain ⟨now, pending, -, found, -, -, reaction, vacant, -⟩ :=
      (step_transition session last).of_expired reported
    have waiting : session.pending.isSome := by rw [found, Option.isSome_some]
    obtain ⟨wait, same, lasts⟩ := Wait.exists_lasts fresh waiting
    have only : pending.command = wait.request.command := by
      simpa [same, session, pendingCommand, found] using lasts.pendingCommand_eq
    rw [reaction] at reported ⊢
    obtain rfl : command = pending.command := by simpa [Reaction.emit] using reported
    exact ⟨wait, same, lasts, only, rfl, vacant⟩

theorem one_fate_login :
    let policy : SessionPolicy := { maxRetries := 0 }
    let join : Request := ⟨"JOIN____", "BJ:JOIN____:3\n", true⟩
    let history : List Operation :=
      [.connecting 0, .submit ⟨"LOGIN___", "BJ:LOGIN___:bob\n", true⟩ 0]
    let session := (new policy 0).run history
    Request.make "JOIN" ["3"] true = .ok join ∧
    Frame.decode "BJ:ACK__NIC:bob;100" = .ok ⟨"ACK__NIC", some "bob;100"⟩ ∧
    .requestExpired "LOGIN___" ∈ (session.step (.tick 5000000001)).2.outputs ∧
    (∃ refusal : SubmitError, session.step (.request join 7) =
      (session, .emit (.rejected "JOIN____" refusal.message))) ∧
    session.answers (.line "BJ:ACK__NIC:bob;100" 7) ∧
    ∃ wait : Wait, wait.history = history ∧ wait.Lasts (new policy 0) ∧
      wait.request.command = "LOGIN___" ∧
      ∀ other : Wait, other.history = history → other.Lasts (new policy 0) → other = wait := by
  intro policy join history session
  have made : Request.make "JOIN" ["3"] true = .ok join := by decide
  have decoded : Frame.decode "BJ:ACK__NIC:bob;100" = .ok ⟨"ACK__NIC", some "bob;100"⟩ := by
    decide
  have reported : .requestExpired "LOGIN___" ∈ (session.step (.tick 5000000001)).2.outputs := by
    decide
  have waiting : session.pending.isSome := by decide
  obtain ⟨handed, -, answers, -, alone, expiry⟩ := one_fate policy 0 history
  obtain ⟨wait, reached, lasts, named, -, -⟩ := expiry _ _ reported
  exact ⟨made, decoded, reported, (handed _ _ join made 7).2.mpr (.inr waiting),
    (answers _ 7 _ decoded).mpr ⟨by decide, waiting⟩, wait, reached, lasts, named.symm,
    (alone wait reached lasts).2⟩

end Session

end Blackjack
