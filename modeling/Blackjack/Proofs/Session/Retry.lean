import Blackjack.Proofs.Session.History
import Mathlib.Data.List.Chain
import Mathlib.Data.List.Induction
import Mathlib.Data.List.Infix

/-!
# The retries of a pending request

While a request waits for its answer, only ticks send it again, and `resends` collects them with
the frames they queue. `Waits` relates the pending request to the resends since it was accepted;
every operation that leaves the request pending keeps it, whatever else happens in between. What
the schedule of retries promises is read off this one invariant.
-/

namespace Blackjack.Session

/-- A tick that queued frames, with the frames as they go on the wire. -/
structure Resend where
  now : Instant
  frames : List (List UInt8)
  deriving DecidableEq, Repr

/-- The frames that a reaction queues on the link. -/
def queuedFrames (reaction : Reaction SessionEvent) : List (List UInt8) :=
  reaction.messages.map Link.wireBytes

/-- An operation that sends a request again is a tick that queues something. -/
def resend? (reaction : Reaction SessionEvent) : Operation → Option Resend
  | .tick now =>
    if queuedFrames reaction = [] then none else some ⟨now, queuedFrames reaction⟩
  | _ => none

/-- The resends of a history, oldest first. -/
def resends (session : Session) : List Operation → List Resend
  | [] => []
  | operation :: later =>
    (resend? (session.step operation).2 operation).toList ++
      (session.step operation).1.resends later

theorem resends_append (session : Session) (before after : List Operation) :
    session.resends (before ++ after) =
      session.resends before ++ (session.run before).resends after := by
  induction before generalizing session with
  | nil => rfl
  | cons operation later ih => simp only [List.cons_append, resends, ih, run_cons, List.append_assoc]

/-- The pending request is the accepted one, sent again as the resends say. -/
structure Waits (policy : SessionPolicy) (request : Request) (sent : Instant)
    (resends : List Resend) (pending : PendingRequest) : Prop where
  command : pending.command = request.command
  frame : pending.frame = request.frame
  counted : pending.retries = resends.length
  last : (sent :: resends.map Resend.now).getLast? = some pending.sentAt
  identical : ∀ resend ∈ resends, resend.frames = [Link.wireBytes request.frame]
  bounded : resends.length ≤ policy.maxRetries
  spaced : (sent :: resends.map Resend.now).IsChain
    (fun before now => before + policy.ackTimeout < now)
  elapsed : sent + resends.length * policy.ackTimeout ≤ pending.sentAt

namespace Waits

variable {policy : SessionPolicy} {request : Request} {sent now : Instant}
  {resends : List Resend} {pending : PendingRequest}

theorem of_accepted (policy : SessionPolicy) (request : Request) (sent : Instant) :
    Waits policy request sent [] ⟨request.command, request.frame, sent, 0⟩ := by
  constructor <;> simp

/-- One more resend, later than the timeout after the last one. -/
theorem resend (waits : Waits policy request sent resends pending)
    (late : pending.sentAt + policy.ackTimeout < now) (left : pending.retries < policy.maxRetries) :
    Waits policy request sent (resends ++ [⟨now, [Link.wireBytes pending.frame]⟩])
      { pending with retries := pending.retries + 1, sentAt := now } := by
  have counted := waits.counted
  have elapsed := waits.elapsed
  constructor
  · exact waits.command
  · exact waits.frame
  · simp [counted]
  · rw [List.map_append, ← List.cons_append]
    exact List.getLast?_concat
  · intro resend member
    rcases List.mem_append.mp member with earlier | latest
    · exact waits.identical resend earlier
    · rw [List.mem_singleton.mp latest, waits.frame]
  · rw [List.length_append, List.length_singleton, ← counted]
    exact left
  · rw [List.map_append, ← List.cons_append]
    refine waits.spaced.append (by simp) ?_
    intro before final next head
    obtain rfl : pending.sentAt = before := by simpa [waits.last] using final
    obtain rfl : now = next := by simpa using head
    exact late
  · rw [List.length_append, List.length_singleton, Nat.succ_mul]
    dsimp only [Instant, Duration] at late elapsed ⊢
    omega

/-- The moment at which the request may be given up lies beyond all the timeouts. -/
theorem give_up (waits : Waits policy request sent resends pending)
    (late : pending.sentAt + policy.ackTimeout < now) (spent : policy.maxRetries ≤ pending.retries) :
    resends.length = policy.maxRetries ∧ sent + (policy.maxRetries + 1) * policy.ackTimeout < now := by
  have counted := waits.counted
  have elapsed := waits.elapsed
  have exact_count : resends.length = policy.maxRetries := by
    have := waits.bounded
    omega
  refine ⟨exact_count, ?_⟩
  rw [exact_count] at elapsed
  rw [Nat.succ_mul]
  dsimp only [Instant, Duration] at late elapsed ⊢
  omega

end Waits

section Step

variable {session next : Session} {operation : Operation} {reaction : Reaction SessionEvent}
  {request : Request} {sent : Instant} {pending : PendingRequest} {sofar : List Resend}

/-- An operation that leaves a request pending either leaves the pending request as it is, or is the
tick that sends it once more. -/
theorem Transition.waits (transition : Transition session operation next reaction)
    (waiting : session.pending = some pending) (still : next.pending.isSome)
    (waits : Waits session.policy request sent sofar pending) :
    ∃ pending, next.pending = some pending ∧
      Waits session.policy request sent (sofar ++ (resend? reaction operation).toList) pending := by
  cases transition with
  | connected | resolved | expired | lost | closed => simp [connecting] at still
  | accepted hands connected tracked vacant => simp [vacant] at waiting
  | resent healthy same late left =>
    obtain rfl := Option.some.inj (same.symm.trans waiting)
    exact ⟨_, rfl, waits.resend (Instant.lt_elapsed_iff.mp late) left⟩
  | fired hands connected free =>
    refine ⟨pending, waiting, ?_⟩
    rcases hands with rfl | rfl <;> simpa [resend?] using waits
  | tolerated | condemned | heartbeat | forwarded | refused | rejected | exhausted | timedOut
  | waited =>
    refine ⟨pending, waiting, ?_⟩
    simpa [resend?, queuedFrames] using waits

/-- Only the tick that gives the pending request up reports an expired request, and that is all
it does. -/
theorem Transition.of_expired (transition : Transition session operation next reaction)
    {command : String} (reported : .requestExpired command ∈ reaction.outputs) :
    ∃ now pending, operation = .tick now ∧ session.pending = some pending ∧
      pending.sentAt + session.policy.ackTimeout < now ∧
      session.policy.maxRetries ≤ pending.retries ∧
      reaction = .emit (.requestExpired pending.command) ∧
      next.pending = none ∧ next.state = .idle := by
  cases transition with
  | expired healthy waiting late spent =>
    exact ⟨_, _, rfl, waiting, Instant.lt_elapsed_iff.mp late, spent, rfl, by simp, by simp⟩
  | _ => simp at reported

end Step

/-- The invariant holds all through the wait of an accepted request. -/
theorem run_waits {start : Session} {request : Request} {sent : Instant}
    (accepted : start.pending = some ⟨request.command, request.frame, sent, 0⟩)
    {later : List Operation} (still : ∀ before, before <+: later → (start.run before).pending.isSome) :
    ∃ pending, (start.run later).pending = some pending ∧
      Waits start.policy request sent (start.resends later) pending := by
  induction later using List.reverseRecOn with
  | nil => exact ⟨_, accepted, .of_accepted start.policy request sent⟩
  | append_singleton later operation ih =>
    obtain ⟨pending, waiting, waits⟩ :=
      ih (fun before earlier => still before (earlier.trans (List.prefix_append _ _)))
    have transition := step_transition (start.run later) operation
    have last := still (later ++ [operation]) List.prefix_rfl
    rw [run_concat] at last
    rw [run_concat, resends_append]
    rw [← run_policy start later] at waits ⊢
    simpa [resends] using transition.waits waiting last waits

/-- Nothing is reported as expired while the request keeps waiting. -/
theorem not_expired_of_waiting {start : Session} {later : List Operation}
    (still : ∀ before, before <+: later → (start.run before).pending.isSome) (command : String) :
    .requestExpired command ∉ start.events later := by
  induction later using List.reverseRecOn with
  | nil => simp
  | append_singleton later operation ih =>
    have last := still (later ++ [operation]) List.prefix_rfl
    rw [run_concat] at last
    rw [events_append, events_singleton, List.mem_append, not_or]
    refine ⟨ih fun before earlier => still before (earlier.trans (List.prefix_append _ _)), ?_⟩
    intro reported
    obtain ⟨_, _, -, -, -, -, -, vacant, -⟩ :=
      (step_transition (start.run later) operation).of_expired reported
    simp [vacant] at last

/-- The life of an accepted request for as long as it stays pending, whatever else happens: every
resend queues the very frame of the acceptance, and only that; there are at most as many resends as
the policy allows; each comes more than a timeout after the one before; and it is this request that
is pending all along. It expires, if at all, once, at a tick after all these timeouts that finds
every retry used up, and that tick does nothing else. -/
theorem retry_discipline (policy : SessionPolicy) (created : Instant) (history : List Operation)
    {operation : Operation} {request : Request} {sent : Instant}
    (accepted : ((new policy created).run history).Accepts operation request sent)
    (later : List Operation)
    (still : ∀ before, before <+: later →
      ((new policy created).run (history ++ operation :: before)).pending.isSome) :
    let acceptance := ((new policy created).run history).step operation
    let resends := acceptance.1.resends later
    queuedFrames acceptance.2 = [Link.wireBytes request.frame] ∧
    (∀ resend ∈ resends, resend.frames = queuedFrames acceptance.2) ∧
    resends.length ≤ policy.maxRetries ∧
    (sent :: resends.map Resend.now).IsChain (fun before now => before + policy.ackTimeout < now) ∧
    (acceptance.1.run later).pendingCommand = some request.command ∧
    (∀ command, .requestExpired command ∉ acceptance.1.events later) ∧
    ∀ last command,
      let final := (acceptance.1.run later).step last
      .requestExpired command ∈ final.2.outputs →
        ∃ now, last = .tick now ∧ sent + (policy.maxRetries + 1) * policy.ackTimeout < now ∧
          resends.length = policy.maxRetries ∧ final.2.outputs = [.requestExpired request.command] ∧
          queuedFrames final.2 = [] ∧ final.2.stop = none ∧
          final.1.pending = none ∧ final.1.state = .idle := by
  intro acceptance resends
  have step : acceptance = _ := accepted.step
  have queued : queuedFrames acceptance.2 = [Link.wireBytes request.frame] := by
    rw [step]
    rfl
  have first : acceptance.1.pending = some ⟨request.command, request.frame, sent, 0⟩ := by
    rw [step]
    exact enter_pending _ _
  have stays (before : List Operation) (earlier : before <+: later) :
      (acceptance.1.run before).pending.isSome := by
    have waiting := still before earlier
    rwa [run_append] at waiting
  have same : acceptance.1.policy = policy := by
    rw [(step_transition _ operation).policy_eq, run_policy]
    rfl
  obtain ⟨pending, waiting, waits⟩ := run_waits first stays
  rw [same] at waits
  refine ⟨queued, ?_, waits.bounded, waits.spaced, ?_, not_expired_of_waiting stays, ?_⟩
  · intro resend member
    rw [queued, waits.identical resend member]
  · rw [pendingCommand, waiting, Option.map_some, waits.command]
  · intro last command final reported
    obtain ⟨now, given, rfl, found, late, spent, reaction, vacant, idle⟩ :=
      (step_transition (acceptance.1.run later) last).of_expired reported
    obtain rfl : given = pending := Option.some.inj (found.symm.trans waiting)
    rw [run_policy, same] at late spent
    obtain ⟨count, overdue⟩ := waits.give_up late spent
    refine ⟨now, rfl, overdue, count, ?_, ?_, ?_, vacant, idle⟩
    · rw [reaction, ← waits.command]
      rfl
    · rw [reaction]
      rfl
    · rw [reaction]
      rfl

theorem retry_discipline_login :
    let login : Request := ⟨"LOGIN___", "BJ:LOGIN___:bob\n", true⟩
    let policy : SessionPolicy := { maxRetries := 1, livenessWindow := Duration.ofSecs 3600 }
    let later : List Operation := [.tick 5000000000, .tick 5000000001, .submit login 7]
    ((new policy 0).run [.connecting 0]).Accepts (.submit login 0) login 0 ∧
    (∀ earlier, earlier <+: later →
      ((new policy 0).run ([.connecting 0] ++ .submit login 0 :: earlier)).pending.isSome) ∧
    .requestExpired "LOGIN___" ∈ (((((new policy 0).run [.connecting 0]).step
      (.submit login 0)).1.run later).step (.tick 10000000002)).2.outputs ∧
    ((((new policy 0).run [.connecting 0]).step (.submit login 0)).1.resends later).length =
      policy.maxRetries := by
  intro login policy later
  have accepts : ((new policy 0).run [.connecting 0]).Accepts (.submit login 0) login 0 :=
    ⟨.inl rfl, rfl, _, rfl⟩
  have still : ∀ earlier, earlier <+: later →
      ((new policy 0).run ([.connecting 0] ++ .submit login 0 :: earlier)).pending.isSome := by
    intro earlier inside
    have all : ∀ earlier ∈ later.inits,
        ((new policy 0).run ([.connecting 0] ++ .submit login 0 :: earlier)).pending.isSome := by
      decide
    exact all earlier ((List.mem_inits _ _).mpr inside)
  have reported : .requestExpired "LOGIN___" ∈ (((((new policy 0).run [.connecting 0]).step
      (.submit login 0)).1.run later).step (.tick 10000000002)).2.outputs := by
    decide
  obtain ⟨-, -, -, -, -, -, expiry⟩ := retry_discipline policy 0 [.connecting 0] accepts later still
  obtain ⟨now, -, -, count, -⟩ := expiry (.tick 10000000002) "LOGIN___" reported
  exact ⟨accepts, still, reported, count⟩

end Blackjack.Session
