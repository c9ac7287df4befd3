import Blackjack.Program.Startup
import Blackjack.Proofs.Program.Path

/-!
# Somebody attends to the connection

A program that goes on is attended: a loop runs, or the end of the last one still waits in the queue,
or a redial is scheduled and nothing waits. A loop that ends by itself leaves exactly one final event
at the end of the queue; a loss becomes a redial when it is taken up, and anything else ends the
program. So a program whose queue is empty either runs a loop or will dial again, and it dials when
that is due, without fail.
-/

namespace Blackjack

namespace Program

/-- What becomes of the connection of a program that goes on. -/
inductive Attended (program : Program) : Prop
  /-- A loop runs, or its end waits to be taken up. -/
  | told {stage : Stage} {session : Session}
      (reaches : Engine.Reaches program.console.client stage session)
      (told : session.Told program.events stage) (unscheduled : program.console.redialAt = none)
  /-- A redial is scheduled. -/
  | scheduled {session : Session} {deadline : Instant}
      (reaches : Engine.Reaches program.console.client .down session)
      (calm : session.stopping = false) (untold : session.exhaustionReported = false)
      (taken : program.events = []) (scheduled : program.console.redialAt = some deadline)

/-- A program that can go on dialling. -/
structure Sound (program : Program) : Prop where
  led : ∃ endpoint : Endpoint, program.console.client.endpoint = some endpoint ∧ endpoint.Valid
  attended : program.Attended

/-- The move dials again. -/
def redials (program : Program) : Move → Bool
  | .look _ now => program.flow = .proceed ∧ program.console.redialAt.any (· ≤ now)
  | .typed _ | .takeUp _ _ | .advance _ _ => false

/-- The program that has dialled again. -/
def redialled (program : Program) (now : Instant) : Program where
  console :=
    { program.console with
      client := (program.console.client.redial now).engine
      redialAt := none }
  events := program.events

/-- How often a history dials again. -/
def redialCount (program : Program) : List Move → Nat
  | [] => 0
  | move :: later =>
    (program.redials move).toNat + (program.step move).program.redialCount later

variable {program : Program} {turn : Turn}

theorem follow_of_proceeds (proceeds : (program.follow turn).program.flow = .proceed) :
    turn.flow = .proceed ∧ program.follow turn =
      { program := { console := turn.console, events := program.events ++ turn.trace.outputs }
        printed := turn.printed
        trace := turn.trace } := by
  unfold follow at proceeds ⊢
  cases flow : turn.flow with
  | proceed => exact ⟨rfl, rfl⟩
  | exit | abort => simp [flow] at proceeds

theorem stop_unbegun (client : Client) (reason : String) :
    (client.disconnect reason).trace.countP Occurrence.isConnecting = 0 := by
  unfold Client.disconnect Engine.stop
  split
  · rfl
  · next worker _ => cases worker.isLive <;> rfl

theorem follow_connecting (program : Program) (turn : Turn) :
    (program.follow turn).trace.countP Occurrence.isConnecting =
      turn.trace.countP Occurrence.isConnecting := by
  unfold follow
  split
  · rw [List.countP_append, stop_unbegun, Nat.add_zero]
  · rfl
  · rfl

theorem follow_console (program : Program) (turn : Turn) :
    (program.follow turn).program.console.redialAt = turn.console.redialAt ∧
      (program.follow turn).program.console.backoff = turn.console.backoff ∧
      (program.follow turn).program.flow = turn.flow := by
  unfold follow
  split <;> exact ⟨rfl, rfl, rfl⟩

namespace Sound

/-- Work that is handed to a loop, if one runs, leaves the connection attended. -/
theorem of_serves (sound : program.Sound) {console : Console}
    (serves : program.console.Serves console) :
    ({ console, events := program.events } : Program).Sound where
  led := by rw [serves.client.endpoint]; exact sound.led
  attended := by
    cases sound.attended with
    | told reaches told unscheduled =>
      exact .told (serves.client.reaches reaches) told (serves.redialAt.trans unscheduled)
    | scheduled reaches calm untold taken scheduled =>
      exact .scheduled (serves.client.reaches reaches) calm untold taken
        (serves.redialAt.trans scheduled)

theorem typed (sound : program.Sound) (line : String)
    (proceeds : (program.move (.typed line)).program.flow = .proceed) :
    (program.move (.typed line)).program.Sound := by
  rw [move_typed] at proceeds ⊢
  obtain ⟨serves, silent⟩ := Console.serves_onInput program.console line
  obtain ⟨-, next⟩ := follow_of_proceeds proceeds
  rw [next, silent]
  simp only [Trace.outputs, List.flatMap_nil, List.append_nil]
  exact sound.of_serves serves

/-- A routine event is taken up. -/
theorem takeUp_routine (sound : program.Sound) {event : SessionEvent} {later : List SessionEvent}
    (queue : program.events = event :: later) (routine : event.isFinal = false)
    {console : Console} (keeps : program.console.client.Keeps console.client)
    (redialAt : console.redialAt = program.console.redialAt) :
    ({ console, events := later } : Program).Sound where
  led := by rw [keeps.endpoint]; exact sound.led
  attended := by
    cases sound.attended with
    | scheduled _ _ _ taken => cases queue.symm.trans taken
    | told reaches told unscheduled =>
      rw [queue] at told
      exact .told (keeps.reaches reaches) (told.of_routine routine) (redialAt.trans unscheduled)

/-- The loss of the connection is taken up, and a redial scheduled. -/
theorem takeUp_offline (sound : program.Sound) {reason : String} {later : List SessionEvent}
    (queue : program.events = .offline reason :: later) {factor : Binary64} {now : Instant}
    (proceeds : (program.console.onEvent (.offline reason) factor now).flow = .proceed) :
    ({ console := (program.console.onEvent (.offline reason) factor now).console,
       events := later } : Program).Sound := by
  cases sound.attended with
  | scheduled _ _ _ taken => cases queue.symm.trans taken
  | @told stage session reaches told unscheduled =>
    rw [queue] at told
    have onEvent : program.console.onEvent (.offline reason) factor now =
        { program.console.schedule factor now with
          printed := ("* offline: " ++ reason) :: (program.console.schedule factor now).printed } := by
      simp [Console.onEvent, unscheduled]
    rw [onEvent] at proceeds ⊢
    obtain ⟨client, -, redials, -⟩ := Console.schedule_spec program.console factor now
    obtain ⟨⟨deadline, scheduled⟩, -⟩ := redials proceeds
    refine ⟨?_, ?_⟩
    · rw [client]
      exact sound.led
    · -- A loss waits only once the connection is down, and nothing waits behind it.
      cases stage with
      | begun | going => cases told.2.2 (.offline reason) (by simp)
      | leaving => exact reaches.elim
      | down =>
        obtain ⟨taken, told_only⟩ := told.2.of_final rfl
        have untold : session.exhaustionReported = false := by
          rw [← Bool.not_eq_true]
          intro reported
          cases told_only reported
        exact .scheduled (client.symm ▸ reaches) told.1 untold taken scheduled

/-- The consumer takes up an event: a loss becomes a redial, and nothing else ends a connection
without ending the program. -/
theorem takeUp (sound : program.Sound) (factor : Binary64) (now : Instant)
    (proceeds : (program.move (.takeUp factor now)).program.flow = .proceed) :
    (program.move (.takeUp factor now)).program.Sound := by
  cases queue : program.events with
  | nil =>
    rw [move_takeUp_nil queue]
    exact sound
  | cons event later =>
    rw [move_takeUp_cons queue] at proceeds ⊢
    obtain ⟨goes_on, next⟩ := follow_of_proceeds proceeds
    rw [next, Console.onEvent_trace]
    simp only [Trace.outputs, List.flatMap_nil, List.append_nil]
    cases routine : event.isFinal with
    | false =>
      exact sound.takeUp_routine queue routine (Console.keeps_onEvent _ event factor now)
        (Console.redialAt_of_routine routine factor now)
    | true =>
      cases event with
      | offline reason => exact sound.takeUp_offline queue goes_on
      | fatal => cases goes_on
      | message | requestExpired | rejected => cases routine

/-- A redial that is scheduled begins a new connection, without fail. -/
theorem redialled (sound : program.Sound) {deadline : Instant}
    (scheduled : program.console.redialAt = some deadline) (now : Instant) :
    (program.console.client.redial now).answer = .ok () ∧
      (program.console.client.redial now).trace = [.connecting now] ∧
      (program.redialled now).Sound := by
  obtain ⟨endpoint, led, valid⟩ := sound.led
  cases sound.attended with
  | told _ _ unscheduled => cases scheduled.symm.trans unscheduled
  | @scheduled session _ reaches calm untold taken _ =>
    obtain ⟨answer, trace, leads, begun⟩ := Client.redial_of_rests reaches led valid now
    have told : (session.connecting now).Told program.events .begun := by
      rw [taken]
      simpa [Session.connecting, Session.Told] using untold
    exact ⟨answer, trace, ⟨endpoint, leads, valid⟩, .told begun told rfl⟩

/-- A look at the redial before it is due changes nothing. -/
theorem look_early (proceeds : program.flow = .proceed) {factor : Binary64} {now : Instant}
    (early : program.console.redialAt.any (· ≤ now) = false) :
    program.move (.look factor now) = { program } := by
  obtain ⟨console, events, flow⟩ := program
  obtain rfl : flow = .proceed := proceeds
  simp [move, Console.redialIfDue_of_early early, follow, Trace.outputs]

/-- A look at the redial when it is due begins a new connection. -/
theorem look_due (sound : program.Sound) (factor : Binary64) {now : Instant}
    (due : program.console.redialAt.any (· ≤ now) = true) :
    (program.redialled now).Sound ∧ program.move (.look factor now) =
      { program := program.redialled now, trace := [.connecting now] } := by
  obtain ⟨deadline, scheduled, passed⟩ : ∃ deadline,
      program.console.redialAt = some deadline ∧ deadline ≤ now := by
    simpa [Option.any_eq_true] using due
  obtain ⟨answer, trace, next⟩ := sound.redialled scheduled now
  refine ⟨next, ?_⟩
  simp [move, Console.redialIfDue_of_due scheduled passed answer, follow, trace, Trace.outputs,
    Occurrence.outputs, Program.redialled]

theorem advance (sound : program.Sound) (now : Instant) (wakeup : Wakeup) :
    (program.move (.advance now wakeup)).program.Sound where
  led := by
    have same := Engine.iterate_endpoint Session.protocol program.console.client now wakeup
    obtain ⟨endpoint, led, valid⟩ := sound.led
    exact ⟨endpoint, same.trans led, valid⟩
  attended := by
    cases sound.attended with
    | told reaches told unscheduled =>
      obtain ⟨last, final, there, next⟩ := Client.told_of_advance reaches told now wakeup
      exact .told there next unscheduled
    | scheduled reaches calm untold taken scheduled =>
      have still : program.console.client.advance now wakeup = { engine := program.console.client } := by
        rw [Client.advance, Engine.iterate, Engine.Rests.live? reaches]
      simp only [move, still]
      exact .scheduled reaches calm untold (by simpa [Trace.outputs] using taken) scheduled

theorem kept (sound : program.Sound) : Engine.Kept program.console.client := by
  cases sound.attended with
  | told reaches => exact reaches.kept
  | scheduled reaches => exact Engine.Reaches.kept reaches

/-- A redial is scheduled by the loss of the connection and by nothing else, and taken from those
that are left. -/
theorem redialAt_step (sound : program.Sound) (proceeds : program.flow = .proceed) {move : Move}
    {deadline : Instant}
    (scheduled : (program.step move).program.console.redialAt = some deadline) :
    program.console.redialAt = some deadline ∨ program.console.redialAt = none ∧
      (∃ factor now reason later, move = .takeUp factor now ∧
        program.events = .offline reason :: later) ∧
      (program.step move).program.console.backoff.attempts =
        program.console.backoff.attempts + 1 := by
  rw [Program.step, if_pos proceeds] at scheduled ⊢
  cases move with
  | typed line =>
    rw [move_typed, (follow_console _ _).1] at scheduled
    exact .inl ((Console.serves_onInput _ line).1.redialAt.symm.trans scheduled)
  | takeUp factor now =>
    cases queue : program.events with
    | nil =>
      rw [move_takeUp_nil queue] at scheduled
      exact .inl scheduled
    | cons event later =>
      rw [move_takeUp_cons queue] at scheduled ⊢
      rw [(follow_console _ _).1] at scheduled
      rw [(follow_console _ _).2.1]
      rcases Console.redialAt_of_onEvent scheduled with same | ⟨free, ⟨reason, rfl⟩, attempts⟩
      · exact .inl same
      · exact .inr ⟨free, ⟨factor, now, reason, later, rfl, rfl⟩, attempts⟩
  | look factor now =>
    cases due : program.console.redialAt.any (· ≤ now) with
    | false =>
      rw [look_early proceeds due] at scheduled
      exact .inl scheduled
    | true =>
      rw [(sound.look_due factor due).2] at scheduled
      cases scheduled
  | advance now wakeup => exact .inl scheduled

/-- Nothing waits while a redial is scheduled. -/
theorem events_of_scheduled (sound : program.Sound) (scheduled : program.console.redialAt.isSome) :
    program.events = [] := by
  cases sound.attended with
  | told _ _ unscheduled => simp [unscheduled] at scheduled
  | scheduled _ _ _ taken => exact taken

theorem redialAt_of_cons (sound : program.Sound) {event : SessionEvent} {later : List SessionEvent}
    (queue : program.events = event :: later) : program.console.redialAt = none := by
  cases scheduled : program.console.redialAt with
  | none => rfl
  | some deadline =>
    have taken := sound.events_of_scheduled (by simp [scheduled])
    cases queue.symm.trans taken

/-- A final event at the head of the queue is the last one. -/
theorem last_of_final (sound : program.Sound) {event : SessionEvent} {later : List SessionEvent}
    (queue : program.events = event :: later) (final : event.isFinal) : later = [] := by
  cases sound.attended with
  | scheduled _ _ _ taken => cases queue.symm.trans taken
  | @told stage session reaches told _ =>
    rw [queue] at told
    cases stage with
    | begun | going => simp [told.2.2 event (by simp)] at final
    | leaving => exact reaches.elim
    | down => exact (told.2.of_final final).1

/-- If nothing waits, a loop runs or a redial is scheduled. -/
theorem live_or_scheduled (sound : program.Sound) (taken : program.events = []) :
    (Engine.live? program.console.client).isSome ∨ program.console.redialAt.isSome := by
  cases sound.attended with
  | scheduled _ _ _ _ scheduled => exact .inr (by simp [scheduled])
  | @told stage session reaches told _ =>
    left
    rw [← Engine.Reaches.isUp_eq reaches]
    cases stage with
    | begun | going => rfl
    | leaving => exact reaches.elim
    | down =>
      obtain ⟨routine, final, split, -⟩ := told.2
      simp [taken] at split

/-- One move of a program that goes on. -/
theorem step (sound : program.Sound) (proceeds : program.flow = .proceed) (move : Move)
    (goes_on : (program.step move).program.flow = .proceed) : (program.step move).program.Sound := by
  rw [Program.step, if_pos proceeds] at goes_on ⊢
  cases move with
  | typed line => exact sound.typed line goes_on
  | takeUp factor now => exact sound.takeUp factor now goes_on
  | look factor now =>
    cases due : program.console.redialAt.any (· ≤ now) with
    | false => rwa [look_early proceeds due]
    | true =>
      obtain ⟨next, dials⟩ := sound.look_due factor due
      rwa [dials]
  | advance now wakeup => exact sound.advance now wakeup

/-- Only a redial begins a connection. -/
theorem connecting_eq (sound : program.Sound) (proceeds : program.flow = .proceed) (move : Move) :
    (program.step move).trace.countP Occurrence.isConnecting = (program.redials move).toNat := by
  rw [Program.step, if_pos proceeds]
  cases move with
  | typed line =>
    rw [move_typed, follow_connecting, (Console.serves_onInput _ _).2]
    rfl
  | takeUp factor now =>
    cases queue : program.events with
    | nil => rw [move_takeUp_nil queue]; rfl
    | cons event later =>
      rw [move_takeUp_cons queue, follow_connecting, Console.onEvent_trace]
      rfl
  | look factor now =>
    cases due : program.console.redialAt.any (· ≤ now) with
    | false => simp [look_early proceeds due, redials, due]
    | true => simp [(sound.look_due factor due).2, redials, due, proceeds, Occurrence.isConnecting]
  | advance now wakeup =>
    rw [List.countP_eq_zero.mpr]
    · rfl
    · intro occurrence member
      have own := Engine.iterate_isOwn Session.protocol_reliable sound.kept now wakeup _ member
      simp [Occurrence.isConnecting_of_isOwn own]

/-- A program that begins to connect is sound. -/
theorem of_connect (config : TransportConfig) (policy : SessionPolicy) (created : Instant)
    {endpoint : Endpoint} (valid : endpoint.Valid) (now : Instant) (nickname : Option String)
    (pacing : BackoffPolicy) :
    let call := (Client.new config policy created).connect endpoint now
    call.answer = .ok () ∧ call.trace = [.connecting now] ∧
      ({ console := .new call.engine nickname pacing } : Program).Sound := by
  obtain ⟨answer, trace, leads, begun⟩ := Client.connect_of_new config policy created valid now
  have told : ((Session.new policy created).connecting now).Told [] .begun := by
    simp [Session.connecting, Session.new, Session.Told]
  exact ⟨answer, trace, ⟨endpoint, leads, valid⟩, .told begun told rfl⟩

end Sound

theorem step_of_ended (ended : program.flow ≠ .proceed) (move : Move) :
    program.step move = { program } := if_neg ended

/-- A sound program stays sound for as long as it goes on, and its redials begin its connections. -/
theorem run_sound (sound : program.flow = .proceed → program.Sound) (history : List Move) :
    ((program.run history).flow = .proceed → (program.run history).Sound) ∧
      (program.trace history).countP Occurrence.isConnecting = program.redialCount history := by
  induction history generalizing program with
  | nil => exact ⟨sound, rfl⟩
  | cons move later ih =>
    have here : (program.step move).program.flow = .proceed →
        (program.step move).program.Sound := by
      intro goes_on
      by_cases proceeds : program.flow = .proceed
      · exact (sound proceeds).step proceeds move goes_on
      · rw [step_of_ended proceeds] at goes_on
        exact absurd goes_on proceeds
    have begun : (program.step move).trace.countP Occurrence.isConnecting =
        (program.redials move).toNat := by
      by_cases proceeds : program.flow = .proceed
      · exact (sound proceeds).connecting_eq proceeds move
      · rw [step_of_ended proceeds]
        cases move <;> simp [redials, proceeds]
    obtain ⟨still, count⟩ := ih here
    exact ⟨still, by rw [trace, List.countP_append, begun, count, redialCount]⟩

theorem valid_endpoint {settings : Settings} (accepted : settings.fault? = none) :
    (endpoint settings).Valid := by
  unfold Settings.fault? at accepted
  split at accepted
  · cases accepted
  next hosted =>
  split at accepted
  · cases accepted
  next ported => exact ⟨hosted, ported⟩

/-- A program that starts has begun one connection, and is sound. -/
theorem start_sound {settings : Settings} {nickname : Option String} {now : Instant} {moved : Moved}
    (started : Program.start settings nickname now = .ok moved) :
    moved.trace = [.connecting now] ∧ moved.program.Sound := by
  unfold Program.start at started
  split at started
  · cases started
  · next accepted =>
    obtain ⟨answer, trace, sound⟩ := Sound.of_connect settings.network.transport
      settings.session.policy now (valid_endpoint accepted) now nickname settings.backoff
    simp only [answer, trace] at started
    cases started
    exact ⟨rfl, sound⟩

/-- In every run of a program that starts: while it goes on and no event waits, its loop runs or a
redial is scheduled. A redial is scheduled by a loss and by nothing else, and taken from those that
are left; a further loss changes nothing, and no event waits any more, so no message is handled
until the redial. It succeeds when it is due, and the connections are the first one and the redials. -/
theorem attended_of_start {settings : Settings} {nickname : Option String} {now : Instant}
    {moved : Moved} (started : Program.start settings nickname now = .ok moved)
    (history : List Move) :
    let program := moved.program.run history
    let console := program.console
    (program.flow = .proceed →
      console.client.isConnected = (Engine.live? console.client).isSome ∧
      (program.events = [] → console.client.isConnected ∨ console.redialAt.isSome) ∧
      (console.redialAt.isSome → program.events = []) ∧
      (console.redialAt.isSome → ∀ now, (console.client.redial now).answer = .ok ()) ∧
      ∀ move deadline, (program.step move).program.console.redialAt = some deadline →
        console.redialAt = some deadline ∨ console.redialAt = none ∧
          (∃ factor now reason later, move = .takeUp factor now ∧
            program.events = .offline reason :: later) ∧
          (program.step move).program.console.backoff.attempts = console.backoff.attempts + 1) ∧
    (console.redialAt.isSome → ∀ reason factor now,
      console.onEvent (.offline reason) factor now =
        { console, printed := ["* offline: " ++ reason] }) ∧
    (moved.trace ++ moved.program.trace history).countP Occurrence.isConnecting =
      1 + moved.program.redialCount history := by
  intro program console
  obtain ⟨begun, start⟩ := start_sound started
  obtain ⟨still, count⟩ := run_sound (fun _ => start) history
  refine ⟨?_, ?_, ?_⟩
  · intro proceeds
    have sound := still proceeds
    have running : console.client.isConnected = (Engine.live? console.client).isSome :=
      sound.kept.running_eq
    refine ⟨running, ?_, ?_, ?_, ?_⟩
    · intro taken
      rw [running]
      exact sound.live_or_scheduled taken
    · exact sound.events_of_scheduled
    · intro scheduled now
      obtain ⟨deadline, scheduled⟩ := Option.isSome_iff_exists.mp scheduled
      exact (sound.redialled scheduled now).1
    · intro move deadline scheduled
      exact sound.redialAt_step proceeds scheduled
  · intro scheduled reason factor now
    obtain ⟨deadline, scheduled⟩ := Option.isSome_iff_exists.mp scheduled
    exact Console.onEvent_offline_of_scheduled scheduled reason factor now
  · rw [List.countP_append, begun, count]
    rfl

/-- A refused connection, taken up as a loss and dialled again when that is due. -/
theorem attended_of_start_refused :
    ∃ moved, Program.start {} none 0 = .ok moved ∧
      let lost : List Move := [.advance 1 (.unreachable "refused"), .takeUp Binary64.one 2]
      let console := (moved.program.run lost).console
      console.redialAt = some 2000000002 ∧ (moved.program.run lost).events = [] ∧
      (console.client.redial 2000000002).answer = .ok () ∧
      (moved.trace ++ moved.program.trace (lost ++ [.look Binary64.one 2000000002])).countP
        Occurrence.isConnecting = 2 := by
  obtain ⟨moved, started⟩ : ∃ moved, Program.start {} none 0 = .ok moved := ⟨_, rfl⟩
  refine ⟨moved, started, ?_⟩
  intro lost console
  have facts : console.redialAt = some 2000000002 ∧ (moved.program.run lost).flow = .proceed ∧
      moved.program.redialCount (lost ++ [.look Binary64.one 2000000002]) = 1 := by
    cases started
    decide +kernel
  obtain ⟨scheduled, proceeds, dialled⟩ := facts
  obtain ⟨attended, -⟩ := attended_of_start started lost
  obtain ⟨-, -, taken, redials, -⟩ := attended proceeds
  obtain ⟨-, -, count⟩ :=
    attended_of_start started (lost ++ [.look Binary64.one 2000000002])
  have waits : console.redialAt.isSome := by rw [scheduled]; rfl
  exact ⟨scheduled, taken waits, redials waits _, by rw [count, dialled]⟩

end Program

end Blackjack
