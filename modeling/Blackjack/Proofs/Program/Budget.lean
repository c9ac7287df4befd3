import Blackjack.Proofs.Client.Exhaustion
import Blackjack.Proofs.Client.Losses
import Blackjack.Proofs.Program.Attendance

/-!
# The console's redials and the session's attempts

The console hands out one redial for each loss that it takes up, and counts anew with each message
(`Tally`). It is given one redial more than the session tolerates losses, so that the session gives
up first. The session counts anew with each heartbeat instead, of which the console learns nothing.
So the console may run out of redials before the session gives up, but only if a heartbeat came
after the last message.
-/

namespace Blackjack

namespace Backoff

/-- The redials that are bounded by a session run out one loss later than the session's attempts. -/
theorem isExhausted_boundedBy_iff {policy : SessionPolicy}
    (bounded : policy.maxReconnectAttempts < UInt32.size - 1) (pacing : BackoffPolicy)
    (attempts : Nat) : (Backoff.mk (pacing.boundedBy policy) attempts).isExhausted ↔
      policy.maxReconnectAttempts + 1 ≤ attempts := by
  have uncapped : policy.maxReconnectAttempts + 1 ≤ BackoffPolicy.attemptLimit := bounded
  simp [isExhausted, BackoffPolicy.boundedBy, Nat.min_eq_left uncapped]

end Backoff

namespace Console

variable {console : Console} {event : SessionEvent} {factor : Binary64} {now : Instant}

/-- The console counts the losses since the last message. -/
theorem backoff_of_onEvent (free : console.redialAt = none)
    (proceeds : (console.onEvent event factor now).flow = .proceed) :
    (console.onEvent event factor now).console.backoff =
      { console.backoff with attempts := event.tally console.backoff.attempts } := by
  cases event with
  | message frame =>
    exact (serves_followUp { console with backoff := console.backoff.reset } frame).1.backoff
  | offline reason =>
    simp only [onEvent, free, Option.isNone_none, if_true] at proceeds ⊢
    obtain ⟨-, -, redials, -⟩ := schedule_spec console factor now
    exact (redials proceeds).2
  | fatal => cases proceeds
  | requestExpired | rejected => rfl

/-- An event that makes the console fail is fatal, or a loss for which no redial is left. -/
theorem of_onEvent_failure (fails : (console.onEvent event factor now).flow = .exit failure) :
    (∃ reason, event = .fatal reason) ∨
      (∃ reason, event = .offline reason) ∧ console.backoff.isExhausted := by
  cases event with
  | message frame =>
    have goes_on := (serves_followUp { console with backoff := console.backoff.reset } frame).2.2
    cases goes_on.symm.trans fails
  | offline reason =>
    simp only [onEvent] at fails
    split at fails
    · exact .inr ⟨⟨reason, rfl⟩, isExhausted_of_schedule fails⟩
    · cases fails
  | fatal reason => exact .inl ⟨reason, rfl⟩
  | requestExpired | rejected => cases fails

end Console

namespace Program

variable {program : Program} {move : Move} {pacing : BackoffPolicy} {told taken : List SessionEvent}

/-- The console has taken up the first of the events that it was told, and goes on. -/
structure Tally (program : Program) (pacing : BackoffPolicy) (told taken : List SessionEvent) :
    Prop where
  proceeds : program.flow = .proceed
  told_eq : told = taken ++ program.events
  backoff : program.console.backoff = ⟨pacing, SessionEvent.lossCount taken⟩
  calm : ∀ reason, .fatal reason ∉ taken

namespace Tally

theorem of_serves (tally : program.Tally pacing told taken) {console : Console}
    (serves : program.console.Serves console) :
    Tally { console, events := program.events } pacing told taken :=
  ⟨rfl, tally.told_eq, serves.backoff.trans tally.backoff, tally.calm⟩

/-- The console takes up one more event. -/
theorem takeUp (tally : program.Tally pacing told taken) (sound : program.Sound)
    {factor : Binary64} {now : Instant}
    (goes_on : (program.move (.takeUp factor now)).program.flow = .proceed) :
    ∃ taken', (program.move (.takeUp factor now)).program.Tally pacing
      (told ++ (program.move (.takeUp factor now)).trace.outputs) taken' := by
  cases queue : program.events with
  | nil =>
    rw [move_takeUp_nil queue]
    exact ⟨taken, by simpa [Trace.outputs] using tally⟩
  | cons event later =>
    rw [move_takeUp_cons queue] at goes_on ⊢
    obtain ⟨proceeds, next⟩ := follow_of_proceeds goes_on
    rw [next, Console.onEvent_trace]
    -- No redial is scheduled while an event waits, so a loss is not passed over.
    have counted := Console.backoff_of_onEvent (sound.redialAt_of_cons queue) proceeds
    refine ⟨taken ++ [event], rfl, ?_, ?_, ?_⟩
    · simp [Trace.outputs, tally.told_eq, queue]
    · simp only [counted, tally.backoff, SessionEvent.lossCount_concat]
    · intro reason member
      rcases List.mem_append.mp member with earlier | here
      · exact tally.calm reason earlier
      · obtain rfl := List.mem_singleton.mp here
        cases proceeds

/-- One move of a program that goes on. -/
theorem step (tally : program.Tally pacing told taken) (sound : program.Sound)
    (goes_on : (program.step move).program.flow = .proceed) :
    ∃ taken', (program.step move).program.Tally pacing (told ++ (program.step move).trace.outputs)
      taken' := by
  rw [Program.step, if_pos tally.proceeds] at goes_on ⊢
  cases move with
  | typed line =>
    rw [move_typed] at goes_on ⊢
    obtain ⟨-, next⟩ := follow_of_proceeds goes_on
    obtain ⟨serves, silent⟩ := Console.serves_onInput program.console line
    rw [next, silent]
    exact ⟨taken, by simpa [Trace.outputs] using tally.of_serves serves⟩
  | takeUp factor now => exact tally.takeUp sound goes_on
  | look factor now =>
    cases due : program.console.redialAt.any (· ≤ now) with
    | false =>
      rw [Sound.look_early tally.proceeds due]
      exact ⟨taken, by simpa [Trace.outputs] using tally⟩
    | true =>
      rw [(sound.look_due factor due).2]
      have silent : Trace.outputs [(.connecting now : Occurrence Request SessionEvent)] = [] := rfl
      rw [silent, List.append_nil]
      exact ⟨taken, rfl, tally.told_eq, tally.backoff, tally.calm⟩
  | advance now wakeup =>
    rw [move_advance]
    exact ⟨taken, tally.proceeds, by simp [tally.told_eq], tally.backoff, tally.calm⟩

theorem proceeds_of_run {history : List Move} (goes_on : (program.run history).flow = .proceed) :
    program.flow = .proceed := by
  induction history generalizing program with
  | nil => exact goes_on
  | cons move later ih =>
    have next : (program.step move).program.flow = .proceed := ih goes_on
    by_contra ended
    rw [step_of_ended ended] at next
    exact ended next

/-- A program that still goes on has counted all that it has taken up. -/
theorem run (tally : program.Tally pacing told taken) (sound : program.Sound)
    {history : List Move} (goes_on : (program.run history).flow = .proceed) :
    (program.run history).Sound ∧ ∃ taken', (program.run history).Tally pacing
      (told ++ (program.trace history).outputs) taken' := by
  induction history generalizing program told taken with
  | nil => exact ⟨sound, taken, by simpa [Program.trace, Trace.outputs] using tally⟩
  | cons move later ih =>
    have next : (program.step move).program.flow = .proceed := proceeds_of_run goes_on
    obtain ⟨taken', here⟩ := tally.step sound next
    have there := ih here (sound.step tally.proceeds move next) goes_on
    rwa [List.append_assoc, ← Trace.outputs_append] at there

end Tally

/-- A program fails when it takes up something fatal, or a loss for which no redial is left. -/
theorem Sound.of_failure (sound : program.Sound) (proceeds : program.flow = .proceed)
    (fails : (program.step move).program.flow = .exit Console.failure) :
    ∃ factor now event later, move = .takeUp factor now ∧ program.events = event :: later ∧
      ((∃ reason, event = .fatal reason) ∨
        (∃ reason, event = .offline reason) ∧ program.console.backoff.isExhausted) := by
  rw [Program.step, if_pos proceeds] at fails
  cases move with
  | typed line =>
    rw [move_typed, (follow_console _ _).2.2] at fails
    exact absurd fails (Console.onInput_not_failure _ line)
  | takeUp factor now =>
    cases queue : program.events with
    | nil =>
      rw [move_takeUp_nil queue] at fails
      cases proceeds.symm.trans fails
    | cons event later =>
      rw [move_takeUp_cons queue, (follow_console _ _).2.2] at fails
      exact ⟨factor, now, event, later, rfl, rfl, Console.of_onEvent_failure fails⟩
  | look factor now =>
    cases due : program.console.redialAt.any (· ≤ now) with
    | false =>
      rw [look_early proceeds due] at fails
      cases proceeds.symm.trans fails
    | true =>
      rw [(sound.look_due factor due).2] at fails
      cases fails
  | advance now wakeup => cases proceeds.symm.trans fails

/-- The program that begins to connect a new client, its redials bounded by the session's attempts. -/
def dialling (config : TransportConfig) (policy : SessionPolicy) (created : Instant)
    (endpoint : Endpoint) (began : Instant) (nickname : Option String) (pacing : BackoffPolicy) :
    Program where
  console := .new ((Client.new config policy created).connect endpoint began).engine nickname
    (pacing.boundedBy policy)

section Dialling

variable {config : TransportConfig} {policy : SessionPolicy} {created : Instant}
  {endpoint : Endpoint} {began : Instant} {nickname : Option String}

theorem dialling_tally : (dialling config policy created endpoint began nickname pacing).Tally
    (pacing.boundedBy policy) [] [] :=
  ⟨rfl, rfl, rfl, nofun⟩

/-- The session gives up in time, unless a heartbeat came after the last message. -/
theorem lossCount_le (valid : endpoint.Valid) (history : List Move) :
    let trace := (dialling config policy created endpoint began nickname pacing).trace history
    trace.BeatSinceMessage ∨
      SessionEvent.lossCount trace.outputs ≤ policy.maxReconnectAttempts + 1 := by
  intro trace
  obtain ⟨-, -, -, begun⟩ := Client.connect_of_new config policy created valid began
  have path : Engine.Path Session.protocol _ trace _ := run_path begun.kept history
  obtain ⟨stage, last, course, -⟩ := Engine.course_of_path path begun
  have start : ((Session.new policy created).connecting began).Counts .begun := ⟨rfl, Nat.zero_le _⟩
  have bound := (start.of_course course).reconnectAttempts_le
  rw [Session.policy_eq_of_replays course.replays] at bound
  exact (Session.lossCount_le course.replays).imp_right (Nat.le_trans · bound)

end Dialling

/-- A program fails when it takes up something fatal. It may also run out of redials before it is
told anything fatal, but only if a heartbeat came after the last message. -/
theorem failure_explained (config : TransportConfig) (policy : SessionPolicy) (created : Instant)
    (bounded : policy.maxReconnectAttempts < UInt32.size - 1) {endpoint : Endpoint}
    (valid : endpoint.Valid) (began : Instant) (nickname : Option String) (pacing : BackoffPolicy)
    (history : List Move) (move : Move) :
    let start := dialling config policy created endpoint began nickname pacing
    let program := start.run history
    program.flow = .proceed → (program.step move).program.flow = .exit Console.failure →
    ∃ factor now event later, move = .takeUp factor now ∧ program.events = event :: later ∧
      ((∃ reason, event = .fatal reason) ∨
        (∃ reason, event = .offline reason) ∧ program.console.backoff.isExhausted ∧
        (∀ reason, .fatal reason ∉ (start.trace history).outputs) ∧
        (start.trace history).BeatSinceMessage) := by
  intro start program proceeds fails
  have started : start.Sound :=
    (Sound.of_connect config policy created valid began nickname (pacing.boundedBy policy)).2.2
  obtain ⟨sound, taken, tally⟩ := dialling_tally.run started proceeds
  obtain ⟨factor, now, event, later, rfl, queue, explained⟩ := sound.of_failure proceeds fails
  refine ⟨factor, now, event, later, rfl, queue, explained.imp_right ?_⟩
  rintro ⟨⟨reason, rfl⟩, exhausted⟩
  have told : (start.trace history).outputs = taken ++ [.offline reason] := by
    rw [← List.nil_append (start.trace history).outputs, tally.told_eq, queue,
      sound.last_of_final queue rfl]
  refine ⟨⟨reason, rfl⟩, exhausted, ?_, ?_⟩
  · intro fatal member
    rw [told, List.mem_append, List.mem_singleton] at member
    rcases member with earlier | last
    · exact tally.calm fatal earlier
    · cases last
  · refine (lossCount_le valid history).resolve_right ?_
    -- The console has taken up as many losses as it had redials, and this one is one more.
    rw [tally.backoff, Backoff.isExhausted_boundedBy_iff bounded] at exhausted
    rw [told, SessionEvent.lossCount_concat, SessionEvent.tally]
    omega

/-- The first and the last of three connections are refused, and all that arrives on the other is a
heartbeat. -/
def heartbeatOnly : List Move :=
  [.advance 1 (.unreachable "refused"), .takeUp Binary64.one 2, .look Binary64.one 2000000002,
    .advance 2000000003 .connected,
    .advance 2000000004 (.received (Text.encode "BJ:PING____\n".toList) fun _ => 2000000004),
    .advance 2000000005 (.received [] fun _ => 2000000005), .takeUp Binary64.one 2000000006,
    .look Binary64.one 6000000006, .advance 6000000007 (.unreachable "refused")]

/-- The loss of the third connection ends the program, and nothing tells that the session gave up. -/
theorem failure_explained_heartbeat :
    let policy : SessionPolicy := { maxReconnectAttempts := 1 }
    let start := dialling {} policy 0 ⟨"localhost", 7777⟩ 0 none {}
    let program := start.run heartbeatOnly
    let move : Move := .takeUp Binary64.one 6000000008
    policy.maxReconnectAttempts < UInt32.size - 1 ∧ program.flow = .proceed ∧
      (program.step move).program.flow = .exit Console.failure ∧
      program.console.backoff.isExhausted ∧
      (∀ reason, .fatal reason ∉ (start.trace heartbeatOnly).outputs) ∧
      (start.trace heartbeatOnly).BeatSinceMessage := by
  intro policy start program move
  have bounded : policy.maxReconnectAttempts < UInt32.size - 1 := by decide
  have valid : Endpoint.Valid ⟨"localhost", 7777⟩ := ⟨by decide, by decide⟩
  have proceeds : program.flow = .proceed := by decide +kernel
  have fails : (program.step move).program.flow = .exit Console.failure := by decide +kernel
  have waits : program.events = [.offline "connect to localhost:7777 failed: refused"] := by
    decide +kernel
  obtain ⟨factor, now, event, later, -, queue, explained⟩ :=
    failure_explained {} policy 0 bounded valid 0 none {} heartbeatOnly move proceeds fails
  obtain ⟨rfl, -⟩ := List.cons.inj (queue.symm.trans waits)
  rcases explained with ⟨reason, fatal⟩ | ⟨-, exhausted, untold, since⟩
  · cases fatal
  · exact ⟨bounded, proceeds, fails, exhausted, untold, since⟩

/-- The program may fail although it is told nothing fatal. -/
theorem not_forall_failure_fatal :
    ¬∀ (config : TransportConfig) (policy : SessionPolicy) (created : Instant)
      (endpoint : Endpoint) (began : Instant) (nickname : Option String) (pacing : BackoffPolicy)
      (history : List Move) (move : Move),
      policy.maxReconnectAttempts < UInt32.size - 1 → endpoint.Valid →
      let start := dialling config policy created endpoint began nickname pacing
      let program := start.run history
      program.flow = .proceed → (program.step move).program.flow = .exit Console.failure →
      ∃ reason, .fatal reason ∈ (start.trace history).outputs := by
  intro always
  have fatal := always {} { maxReconnectAttempts := 1 } 0 ⟨"localhost", 7777⟩ 0 none {}
    heartbeatOnly (.takeUp Binary64.one 6000000008) (by decide) ⟨by decide, by decide⟩
    (by decide +kernel) (by decide +kernel)
  obtain ⟨reason, member⟩ := fatal
  have told : ((dialling {} { maxReconnectAttempts := 1 } 0 ⟨"localhost", 7777⟩ 0 none {}).trace
      heartbeatOnly).outputs =
      [.offline "connect to localhost:7777 failed: refused", .offline "peer closed",
        .offline "connect to localhost:7777 failed: refused"] := by decide +kernel
  simp [told] at member

end Program

end Blackjack
