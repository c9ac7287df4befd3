import Blackjack.Proofs.Client.Operations

/-!
# The end of the reconnection attempts

The lost cycles are counted at the end of a connection and by the tick that finds the peer silent,
and only compared with the bound by a tick. They still never exceed the bound by more than one,
since every connection is ticked before anything else happens on it: a connection that goes on has
found attempts left (`Session.Counts`). A spent session stays spent, and whatever is begun after
that comes to nothing (`Session.Spent.refuses`).
-/

namespace Blackjack

namespace Session

variable {session next : Session} {occurrence : Occurrence Request SessionEvent}
  {trace later : Trace Request SessionEvent} {stage last : Stage}

/-- What a stage says of the lost cycles. -/
def Counts (session : Session) : Stage → Prop
  | .down | .begun => session.stopping = false ∧
      session.health.reconnectAttempts ≤ session.policy.maxReconnectAttempts + 1
  | .going => session.stopping = false ∧ ¬session.Spent
  -- A request never asks for a stop, so no batch of work is cut short.
  | .leaving _ batch => batch = false ∧ session.stopping = true ∧
      session.health.reconnectAttempts ≤ session.policy.maxReconnectAttempts + 1

namespace Counts

theorem reconnectAttempts_le (counts : session.Counts stage) :
    session.health.reconnectAttempts ≤ session.policy.maxReconnectAttempts + 1 := by
  cases stage with
  | down | begun => exact counts.2
  | going => exact Nat.le_succ_of_le (Nat.not_lt.mp counts.2)
  | leaving => exact counts.2.2

theorem spent_iff (counts : session.Counts stage) : session.Spent ↔
    session.health.reconnectAttempts = session.policy.maxReconnectAttempts + 1 := by
  have bound := counts.reconnectAttempts_le
  unfold Spent
  omega

theorem stopping_of_isUp (counts : session.Counts stage) (up : stage.isUp) :
    session.stopping = false := by
  cases stage with
  | begun | going => exact counts.1
  | down | leaving => cases up

/-- The end of a connection that was not lost costs no attempt. -/
theorem down (counts : session.Counts stage) {cause : StopCause} {reaction : Reaction SessionEvent}
    (transition : Transition session (.stopped cause) next reaction)
    (kept : cause.isFault = false) : next.Counts .down := by
  have same := transition.reconnectAttempts_of_stopped
  rw [kept, if_neg (by simp), Nat.add_zero] at same
  refine ⟨transition.stopping_of_stopped, ?_⟩
  rw [transition.policy_eq, same]
  exact counts.reconnectAttempts_le

/-- A tick or a line that asks for the end of the connection. -/
theorem leaving (counts : session.Counts stage) {operation : Operation}
    {reaction : Reaction SessionEvent} (transition : Transition session operation next reaction)
    (asked : reaction.stop.isSome) (reason : String) : next.Counts (.leaving reason false) := by
  obtain ⟨stopping, policy, bound⟩ := transition.of_asked asked
  have before := counts.reconnectAttempts_le
  refine ⟨rfl, stopping, ?_⟩
  rw [policy]
  omega

/-- Every step keeps the count within its bounds. -/
theorem step (counts : session.Counts stage) (step : stage.Next occurrence last)
    (moves : session.Moves occurrence next) : next.Counts last := by
  cases moves with
  | aside unseen => rwa [Occurrence.next_eq_of_unseen step unseen]
  | operated seen transition _ stop =>
    cases step with
    | connecting now =>
      cases seen
      obtain ⟨rfl, -⟩ := transition.of_connecting
      exact ⟨by simp [connecting], by simpa [connecting] using counts.2⟩
    | ticked up unasked =>
      cases seen
      obtain ⟨unspent, same⟩ := transition.unspent_of_tick (stop.symm.trans unasked)
      obtain ⟨stopping, -⟩ := transition.calm rfl (stop.symm.trans unasked)
      refine ⟨stopping.trans (counts.stopping_of_isUp up), ?_⟩
      unfold Spent
      rwa [transition.policy_eq, same]
    | tickAsked up asked =>
      exact counts.leaving transition (Option.isSome_of_eq_some (stop.symm.trans asked)) _
    | met inner unasked =>
      have traffic := Occurrence.isTraffic_of_isInner inner seen
      obtain ⟨stopping, -⟩ := transition.calm traffic (stop.symm.trans unasked)
      have fewer := transition.reconnectAttempts_le traffic (stop.symm.trans unasked)
      have unspent := counts.2
      refine ⟨stopping.trans counts.1, ?_⟩
      unfold Spent at unspent ⊢
      rw [transition.policy_eq]
      omega
    | asked inner asked =>
      rw [transition.not_isIngress_of_asked seen (stop.symm.trans asked)]
      exact counts.leaving transition (Option.isSome_of_eq_some (stop.symm.trans asked)) _
    | worked => cases counts.1
    | halted | obeyed =>
      cases seen
      exact counts.down transition rfl
    | lost fault =>
      cases seen
      -- The last tick found an attempt left, so one more loss does not exceed the bound by two.
      have more := transition.reconnectAttempts_of_stopped
      rw [if_pos ⟨fault, counts.1⟩] at more
      have unspent := Nat.not_lt.mp counts.2
      refine ⟨transition.stopping_of_stopped, ?_⟩
      rw [transition.policy_eq]
      omega

theorem of_course (counts : session.Counts stage)
    (course : protocol.Course stage session trace last next) : next.Counts last :=
  course.invariant (fun stage session => session.Counts stage)
    (fun step answers counts => counts.step step (moves_of_answers answers)) counts

end Counts

namespace Spent

/-- Only a heartbeat gives attempts back. -/
theorem of_silent (spent : session.Spent) {operation : Operation} {reaction : Reaction SessionEvent}
    (transition : Transition session operation next reaction)
    (silent : operation.isHeartbeat = false) : next.Spent := by
  have count := transition.reconnectAttempts_eq
  rw [silent, if_neg Bool.false_ne_true] at count
  unfold Spent at spent ⊢
  rw [transition.policy_eq]
  omega

/-- A spent session stays spent: no line reaches it any more. -/
theorem step (spent : session.Spent) (counts : session.Counts stage)
    (step : stage.Next occurrence last) (moves : session.Moves occurrence next) : next.Spent := by
  cases moves with
  | aside => exact spent
  | operated seen transition =>
    cases step with
    | met | asked => exact absurd spent counts.2
    | worked => cases counts.1
    | _ =>
      cases seen
      exact spent.of_silent transition rfl

theorem of_course (spent : session.Spent) (counts : session.Counts stage)
    (course : protocol.Course stage session trace last next) : next.Spent := by
  have kept := course.invariant (fun stage session => session.Counts stage ∧ session.Spent)
    (fun step answers kept => ⟨kept.1.step step (moves_of_answers answers),
      kept.2.step kept.1 step (moves_of_answers answers)⟩) ⟨counts, spent⟩
  exact kept.2

end Spent

/-- What becomes of a connection that is begun after the last attempt: a caller stops it at once,
or its first tick ends it before anything is dialled. -/
inductive IsRefusal (session : Session) : Trace Request SessionEvent → Prop
  | stopped (reason : String) : IsRefusal session [.stopped (.requested reason) []]
  | ticked (now : Instant) : IsRefusal session
      [.tick now session.exhaustionReaction, .stopped (.protocol exhaustionStop) []]

theorem reaction_of_spent (spent : session.Spent) {now : Instant}
    {reaction : Reaction SessionEvent} (answers : protocol.Answers session (.tick now reaction)) :
    reaction = session.exhaustionReaction :=
  answers.trans (congrArg Prod.snd (tick_of_spent spent now))

theorem outputs_of_kept {cause : StopCause} {outputs : List SessionEvent}
    (kept : cause.isFault = false) (answers : protocol.Answers session (.stopped cause outputs)) :
    outputs = [] := by
  have told := (step_transition session (.stopped cause)).outputs_of_stopped
  rw [kept, if_neg (by simp)] at told
  exact answers.trans told

/-- A spent session refuses every connection. -/
theorem Spent.refuses (spent : session.Spent)
    (course : protocol.Course .begun session trace last next)
    (settled : ∀ reason batch, last ≠ .leaving reason batch) :
    trace = [] ∨ ∃ refusal rest, session.IsRefusal refusal ∧ trace = refusal ++ rest ∧
      ∀ first ∈ rest.head?, ∃ now, first = .connecting now := by
  cases course with
  | nil => exact .inl rfl
  | cons step answers rest =>
    right
    cases step with
    | ticked up unasked =>
      rw [reaction_of_spent spent answers] at unasked
      cases unasked
    | @tickAsked _ now _ _ up asked =>
      obtain rfl := reaction_of_spent spent answers
      obtain rfl := Option.some.inj asked
      cases rest with
      | nil => exact absurd rfl (settled _ _)
      | cons step answers rest =>
        cases step with
        | obeyed =>
          obtain rfl := outputs_of_kept rfl answers
          exact ⟨_, _, .ticked now, rfl, rest.head_of_down⟩
        | ticked up | tickAsked up | halted up => cases up
    | halted up reason =>
      obtain rfl := outputs_of_kept rfl answers
      exact ⟨_, _, .stopped reason, rfl, rest.head_of_down⟩

/-- Some tick of the trace found the session spent. -/
def SpentAtTick (session : Session) (trace : Trace Request SessionEvent) : Prop :=
  ∃ (before : Trace Request SessionEvent) (now : Instant) (reaction : Reaction SessionEvent)
    (after : Trace Request SessionEvent), trace = before ++ .tick now reaction :: after ∧
      (session.run before.operations).Spent

theorem spentAtTick_cons {later : Trace Request SessionEvent} :
    session.SpentAtTick (occurrence :: later) ↔
      (∃ now reaction, occurrence = .tick now reaction) ∧ session.Spent ∨
        (protocol.after session occurrence).SpentAtTick later := by
  constructor
  · rintro ⟨before, now, reaction, after, split, spent⟩
    rcases List.cons_eq_append_iff.mp split with ⟨rfl, same⟩ | ⟨rest, rfl, same⟩
    · obtain ⟨rfl, -⟩ := List.cons.inj same
      exact .inl ⟨⟨now, reaction, rfl⟩, spent⟩
    · rw [run_operations_cons] at spent
      exact .inr ⟨rest, now, reaction, after, same, spent⟩
  · rintro (⟨⟨now, reaction, rfl⟩, spent⟩ | ⟨before, now, reaction, after, rfl, spent⟩)
    · exact ⟨[], now, reaction, later, rfl, spent⟩
    · rw [← run_operations_cons] at spent
      exact ⟨occurrence :: before, now, reaction, after, rfl, spent⟩

/-- The end of the attempts has been reported exactly if a tick has found the session spent. -/
theorem exhaustionReported_of_replays (replays : protocol.Replays session trace next) :
    next.exhaustionReported = true ↔
      session.exhaustionReported = true ∨ session.SpentAtTick trace := by
  induction replays with
  | nil => simp [SpentAtTick]
  | cons answers _ ih =>
    rw [ih, (moves_of_answers answers).exhaustionReported_iff, spentAtTick_cons, or_assoc]

end Session

namespace Client

/-- The session of a client after a trace. -/
def session (policy : SessionPolicy) (created : Instant) (trace : Trace Request SessionEvent) :
    Session :=
  (Session.new policy created).run trace.operations

/-- The history of a client is a course of connections. -/
theorem exists_course (config : TransportConfig) (policy : SessionPolicy) (created : Instant)
    (history : List (Engine.Move Request)) :
    ∃ stage, Session.protocol.Course .down (Session.new policy created)
        ((new config policy created).trace Session.protocol history) stage
        (session policy created ((new config policy created).trace Session.protocol history)) ∧
      ((new config policy created).run Session.protocol history).Reaches stage
        (session policy created ((new config policy created).trace Session.protocol history)) := by
  have start : (new config policy created).Reaches .down (Session.new policy created) :=
    Engine.Rests.new config (Session.new policy created)
  have path := Engine.run_path Session.protocol_reliable start.kept history
  obtain ⟨stage, last, course, reaches⟩ := Engine.course_of_path path start
  have same : session policy created _ = last := Session.run_operations course.replays
  rw [same]
  exact ⟨stage, course, reaches⟩

section Course

variable {policy : SessionPolicy} {created : Instant} {stage : Stage} {last : Session}
  {before after part : Trace Request SessionEvent}

/-- A course can be cut anywhere. -/
theorem course_cut
    (course : Session.protocol.Course .down (.new policy created) (before ++ after) stage last) :
    ∃ middle, Session.protocol.Course .down (.new policy created) before middle
        (session policy created before) ∧
      Session.protocol.Course middle (session policy created before) after stage last ∧
      (session policy created before).Counts middle := by
  obtain ⟨middle, state, first, second⟩ := course.of_append
  have same : session policy created before = state := Session.run_operations first.replays
  have start : (Session.new policy created).Counts .down := ⟨rfl, Nat.zero_le _⟩
  rw [same]
  exact ⟨middle, first, second, start.of_course first⟩

theorem spent_iff
    (course : Session.protocol.Course .down (.new policy created) (before ++ after) stage last) :
    (session policy created before).Spent ↔
      (session policy created before).health.reconnectAttempts =
        policy.maxReconnectAttempts + 1 := by
  obtain ⟨middle, -, -, counts⟩ := course_cut course
  rw [counts.spent_iff, session, Session.run_policy]
  rfl

theorem spent_append
    (course : Session.protocol.Course .down (.new policy created) (before ++ part ++ after) stage last)
    (spent : (session policy created before).Spent) :
    (session policy created (before ++ part)).Spent := by
  rw [List.append_assoc] at course
  obtain ⟨middle, -, rest, counts⟩ := course_cut course
  obtain ⟨next, state, between, -⟩ := rest.of_append
  have same : session policy created (before ++ part) = state := by
    rw [session, Trace.operations_append, Session.run_append]
    exact Session.run_operations between.replays
  rw [same]
  exact spent.of_course counts between

theorem refused_of_spent {now : Instant}
    (course : Session.protocol.Course .down (.new policy created) (before ++ .connecting now :: after)
      stage last)
    (settled : ∀ reason batch, stage ≠ .leaving reason batch)
    (spent : (session policy created before).Spent) :
    after = [] ∨ ∃ refusal rest,
      (session policy created (before ++ [.connecting now])).IsRefusal refusal ∧
      after = refusal ++ rest ∧ ∀ first ∈ rest.head?, ∃ now, first = .connecting now := by
  have begun : session policy created (before ++ [.connecting now]) =
      (session policy created before).connecting now := by
    rw [session, Trace.operations_append, Session.run_append]
    rfl
  have whole : Session.protocol.Course .down (.new policy created)
      (before ++ [.connecting now] ++ after) stage last := by simpa using course
  have still := spent_append whole spent
  obtain ⟨middle, -, rest, -⟩ := course_cut course
  cases rest with
  | cons step _ rest =>
    obtain ⟨rfl, rfl⟩ := step.of_connecting
    rw [begun] at still ⊢
    exact still.refuses rest settled

theorem exhaustion_told_iff {occurrence : Occurrence Request SessionEvent}
    (course : Session.protocol.Course .down (.new policy created) (before ++ occurrence :: after)
      stage last) :
    Session.exhaustion ∈ occurrence.outputs ↔
      (∃ now reaction, occurrence = .tick now reaction) ∧ (session policy created before).Spent ∧
        ¬(Session.new policy created).SpentAtTick before := by
  obtain ⟨middle, first, rest, -⟩ := course_cut course
  have told : (session policy created before).exhaustionReported = true ↔
      (Session.new policy created).SpentAtTick before := by
    simpa [Session.new] using Session.exhaustionReported_of_replays first.replays
  cases rest with
  | cons _ answers _ =>
    rw [(Session.moves_of_answers answers).exhaustion_mem_iff, ← Bool.not_eq_true, told]

/-- A spent client that was dialled again ends the connection when its loop first goes on. -/
theorem advance_of_spent {client : Client} {session : Session}
    (reaches : Engine.Reaches client stage session) (counts : session.Counts stage)
    (spent : session.Spent) (live : (Engine.live? client).isSome) (now : Instant)
    (wakeup : Wakeup) :
    (advance client now wakeup).trace = [.tick now session.exhaustionReaction,
      .stopped (.protocol "reconnection attempts exhausted") []] ∧
    (advance client now wakeup).engine.live? = none := by
  cases stage with
  | down => simp [Engine.Rests.live? reaches] at live
  | going => exact absurd spent counts.2
  | leaving => exact reaches.elim
  | begun =>
    obtain ⟨worker, runs, rfl⟩ := reaches
    have ticked : Session.protocol.tick worker.state now = _ := Session.tick_of_spent spent now
    obtain ⟨trace, idle⟩ := Engine.iterate_of_tick_asks runs now wakeup ticked rfl rfl
    refine ⟨trace.trans ?_, idle⟩
    rw [Session.outputs_of_kept rfl rfl]
    rfl

end Course

/-- The lost cycles exceed the bound by one at most, and once they do, that is final: they stay as
they are, every connection begun from then on ends before anything is dialled, delivered or written,
by a caller or else by its first tick, and the first of these ticks tells the consumer, as nothing
else ever does. -/
theorem exhaustion_final (config : TransportConfig) (policy : SessionPolicy) (created : Instant)
    (bounded : policy.maxReconnectAttempts < UInt32.size - 1)
    (history : List (Engine.Move Request)) :
    let client := (new config policy created).run Session.protocol history
    let trace := (new config policy created).trace Session.protocol history
    let session := session policy created
    let attempts := fun part => (session part).health.reconnectAttempts
    let limit := policy.maxReconnectAttempts + 1
    client.state? = some (session trace) ∧
    (∀ before, before <+: trace → attempts before ≤ limit ∧ attempts before < UInt32.size) ∧
    (∀ before part, before ++ part <+: trace → attempts before = limit →
      attempts (before ++ part) = limit) ∧
    (∀ before now after, trace = before ++ .connecting now :: after → attempts before = limit →
      after = [] ∨ ∃ refusal rest, (session (before ++ [.connecting now])).IsRefusal refusal ∧
        after = refusal ++ rest ∧ ∀ first ∈ rest.head?, ∃ now, first = .connecting now) ∧
    (client.live?.isSome → attempts trace = limit → ∀ now wakeup,
      (advance client now wakeup).trace = [.tick now (session trace).exhaustionReaction,
        .stopped (.protocol "reconnection attempts exhausted") []] ∧
      (advance client now wakeup).engine.live? = none) ∧
    ∀ before occurrence after, trace = before ++ occurrence :: after →
      (.fatal "Ran out of reconnection attempts." ∈ occurrence.outputs ↔
        (∃ now reaction, occurrence = .tick now reaction) ∧ attempts before = limit ∧
          ∀ earlier now reaction rest, before = earlier ++ .tick now reaction :: rest →
            attempts earlier ≠ limit) := by
  intro client trace session attempts limit
  obtain ⟨stage, course, reaches⟩ := exists_course config policy created history
  -- Every part of the statement looks at the session where the course is cut.
  have cut : ∀ {before after}, trace = before ++ after →
      Session.protocol.Course .down (.new policy created) (before ++ after) stage (session trace) :=
    fun split => split ▸ course
  refine ⟨reaches.state?, ?_, ?_, ?_, ?_, ?_⟩
  · rintro before ⟨after, split⟩
    obtain ⟨middle, -, -, counts⟩ := course_cut (cut split.symm)
    have bound := counts.reconnectAttempts_le
    rw [Client.session, Session.run_policy] at bound
    exact ⟨bound, Nat.lt_of_le_of_lt bound (by simp only [Session.new]; omega)⟩
  · rintro before part ⟨after, split⟩ spent
    have whole := cut split.symm
    have here := whole
    rw [List.append_assoc] at here
    exact (spent_iff whole).mp (spent_append whole ((spent_iff here).mpr spent))
  · intro before now after split spent
    exact refused_of_spent (cut split) reaches.not_leaving ((spent_iff (cut split)).mpr spent)
  · intro live spent now wakeup
    have whole : trace = trace ++ [] := (List.append_nil trace).symm
    obtain ⟨middle, -, rest, counts⟩ := course_cut (cut whole)
    cases rest with
    | nil => exact advance_of_spent reaches counts ((spent_iff (cut whole)).mpr spent) live now wakeup
  · intro before occurrence after split
    rw [← Session.exhaustion, exhaustion_told_iff (cut split), spent_iff (cut split)]
    refine and_congr_right fun _ => and_congr_right fun _ => ?_
    have at_tick : ∀ {earlier : Trace Request SessionEvent} {now reaction rest},
        before = earlier ++ .tick now reaction :: rest →
        trace = earlier ++ (.tick now reaction :: rest ++ occurrence :: after) := by
      rintro earlier now reaction rest rfl
      simpa using split
    constructor
    · intro untold earlier now reaction rest made reached
      have spent := (spent_iff (cut (at_tick made))).mpr reached
      exact untold ⟨earlier, now, reaction, rest, made, spent⟩
    · rintro unreached ⟨earlier, now, reaction, rest, made, spent⟩
      exact unreached earlier now reaction rest made ((spent_iff (cut (at_tick made))).mp spent)

/-- Two redials after the only attempt: the first tells that it was the last, the second does not. -/
theorem exhaustion_final_unreachable :
    let policy : SessionPolicy := { maxReconnectAttempts := 0 }
    let history : List (Engine.Move Request) :=
      [.start ⟨"localhost", 7777⟩ 0, .iterate 1 (.unreachable "refused"), .reconnect 2,
        .iterate 3 .timer, .reconnect 4]
    let client := (new {} policy 0).run Session.protocol history
    let trace := (new {} policy 0).trace Session.protocol history
    let before := trace.take 5
    let tick := .tick 3 ((session policy 0 before).tick 3).2
    policy.maxReconnectAttempts < UInt32.size - 1 ∧ trace = before ++ tick :: trace.drop 6 ∧
    .fatal "Ran out of reconnection attempts." ∈ tick.outputs ∧
    (session policy 0 before).health.reconnectAttempts = 1 ∧
    (∀ earlier now reaction rest, before = earlier ++ .tick now reaction :: rest →
      (session policy 0 earlier).health.reconnectAttempts ≠ 1) ∧
    (advance client 5 .timer).trace = [.tick 5 { stop := some "reconnection attempts exhausted" },
      .stopped (.protocol "reconnection attempts exhausted") []] := by
  intro policy history client trace before tick
  have bounded : policy.maxReconnectAttempts < UInt32.size - 1 := by decide
  have split : trace = before ++ tick :: trace.drop 6 := by decide
  have tells : .fatal "Ran out of reconnection attempts." ∈ tick.outputs := by decide
  have live : client.live?.isSome := by decide
  have quiet : (session policy 0 trace).exhaustionReaction =
      { stop := some "reconnection attempts exhausted" } := by decide
  obtain ⟨-, -, -, -, ends, told⟩ := exhaustion_final {} policy 0 bounded history
  obtain ⟨-, reached, first⟩ := (told before tick _ split).mp tells
  have ended := (ends live (by decide) 5 .timer).1
  exact ⟨bounded, split, tells, reached, first, ended.trans (by rw [quiet])⟩

end Client

end Blackjack
