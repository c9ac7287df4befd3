import Blackjack.Console.Basic
import Blackjack.Proofs.Client.Telling

/-!
# What a turn of the console leaves alone

Commands and automatic replies only hand work to the client's loop, so they leave the connection,
the redial and its pace as they are (`Console.Serves`). Only a lost connection schedules a redial,
and a redial that is due begins the one new connection of its turn.
-/

namespace Blackjack

namespace Client

/-- The client is the same but for work that its loop was given. -/
structure Keeps (client next : Client) : Prop where
  endpoint : next.endpoint = client.endpoint
  path : Engine.Kept client → Engine.Path Session.protocol client [] next

theorem Keeps.refl (client : Client) : client.Keeps client := ⟨rfl, fun _ => .nil⟩

theorem Keeps.reaches {client next : Client} (keeps : client.Keeps next) {stage : Stage}
    {session : Session} (reaches : Engine.Reaches client stage session) :
    Engine.Reaches next stage session := by
  obtain ⟨last, final, course, there⟩ := Engine.course_of_path (keeps.path reaches.kept) reaches
  cases course with
  | nil => exact there

theorem keeps_handOver (client : Client) (item : Ingress Request) :
    Keeps client (Engine.handOver client item : Called).engine where
  endpoint := by
    unfold Engine.handOver
    cases Engine.live? client <;> rfl
  path := by
    intro kept
    have act : Engine.Act Session.protocol client _ _ := Engine.handOver_act kept item
    have silent : (Engine.handOver client item : Called).trace = [] := by
      unfold Engine.handOver
      cases Engine.live? client <;> rfl
    rw [silent] at act
    exact .single act

theorem keeps_submitRequest (client : Client) (request : Except ClientError Request) :
    Keeps client (client.submitRequest request).1 := by
  cases request with
  | error refusal => exact .refl client
  | ok request => exact keeps_handOver client (.request request)

/-- The first connection of a client is begun. -/
theorem connect_of_new (config : TransportConfig) (policy : SessionPolicy) (created : Instant)
    {endpoint : Endpoint} (valid : endpoint.Valid) (now : Instant) :
    let call := connect (new config policy created) endpoint now
    call.answer = .ok () ∧ call.trace = [.connecting now] ∧ call.engine.endpoint = some endpoint ∧
      Engine.Reaches call.engine .begun ((Session.new policy created).connecting now) := by
  have rests : Engine.Rests (new config policy created) (Session.new policy created) :=
    Engine.Rests.new config (Session.new policy created)
  obtain ⟨answer, trace, leads, runs⟩ := Engine.start_of_rests Session.protocol rests valid now
  exact ⟨answer, trace, leads, _, runs, rfl⟩

/-- At rest, a redial begins a new connection to where the last one led. -/
theorem redial_of_rests {client : Client} {session : Session}
    (reaches : Engine.Reaches client .down session) {endpoint : Endpoint}
    (led : client.endpoint = some endpoint) (valid : endpoint.Valid) (now : Instant) :
    (redial client now).answer = .ok () ∧ (redial client now).trace = [.connecting now] ∧
      (redial client now).engine.endpoint = some endpoint ∧
      Engine.Reaches (redial client now).engine .begun (session.connecting now) :=
  Engine.reconnect_of_rests reaches led valid now

theorem keeps_sendRaw (client : Client) (line : String) : Keeps client (client.sendRaw line).1 :=
  keeps_handOver client (.message line)

end Client

namespace Backoff

variable {backoff after : Backoff} {factor : Binary64} {now deadline : Instant} {delay : Duration}

/-- A redial that is handed out is counted. -/
def counted (backoff : Backoff) : Backoff := { backoff with attempts := backoff.attempts + 1 }

theorem eq_counted_of_next (handed : backoff.next factor = (after, .next delay)) :
    after = backoff.counted := by
  unfold next at handed
  split at handed
  · cases handed
  · split at handed
    · cases handed
    · exact (Prod.mk.inj handed).1.symm

theorem eq_counted_of_nextDeadline
    (handed : backoff.nextDeadline factor now = (after, .next deadline)) :
    after = backoff.counted := by
  unfold nextDeadline at handed
  split at handed
  · next result =>
    obtain ⟨rfl, -⟩ := Prod.mk.inj handed
    exact eq_counted_of_next result
  · cases handed
  · cases handed

theorem isExhausted_of_next (refused : backoff.next factor = (after, .exhausted)) :
    backoff.isExhausted := by
  unfold next at refused
  split at refused
  · next spent => exact spent
  · split at refused
    · cases refused
    · have last := (Prod.mk.inj refused).2
      split at last <;> cases last

/-- No deadline is left only if no redial is. -/
theorem isExhausted_of_nextDeadline
    (refused : backoff.nextDeadline factor now = (after, .exhausted)) : backoff.isExhausted := by
  unfold nextDeadline at refused
  split at refused
  · have last := (Prod.mk.inj refused).2
    split at last <;> cases last
  · next result => exact isExhausted_of_next result
  · cases refused

end Backoff

namespace Console

variable {console next : Console}

/-- The console is the same but for work that the loop of its client was given. -/
structure Serves (console next : Console) : Prop where
  client : console.client.Keeps next.client
  redialAt : next.redialAt = console.redialAt
  backoff : next.backoff = console.backoff

theorem Serves.refl (console : Console) : console.Serves console := ⟨.refl _, rfl, rfl⟩

theorem serves_reported {result : Client × Except ClientError Unit}
    (keeps : console.client.Keeps result.1) : console.Serves (console.reported result).console :=
  ⟨keeps, rfl, rfl⟩

theorem serves_obey (console : Console) (command : Command) :
    console.Serves (console.obey command).console ∧ (console.obey command).trace = [] := by
  cases command with
  | quit | help => exact ⟨.refl console, rfl⟩
  | raw line => exact ⟨serves_reported (Client.keeps_sendRaw _ line), rfl⟩
  | login nickname =>
    have keeps : console.client.Keeps (console.client.perform (.login nickname)).1 :=
      Client.keeps_submitRequest _ _
    simp only [obey]
    split <;> exact ⟨⟨keeps, rfl, rfl⟩, rfl⟩
  | join | ready | unready | bet | hit | stand | leave | again | state =>
    exact ⟨serves_reported (Client.keeps_submitRequest _ _), rfl⟩

theorem serves_onInput (console : Console) (line : String) :
    console.Serves (console.onInput line).console ∧ (console.onInput line).trace = [] := by
  unfold onInput
  rcases Command.parse line with refusal | _ | command
  · exact ⟨.refl console, rfl⟩
  · exact ⟨.refl console, rfl⟩
  · exact serves_obey console command

/-- What the player types never fails. -/
theorem onInput_not_failure (console : Console) (line : String) :
    (console.onInput line).flow ≠ .exit failure := by
  unfold onInput
  rcases Command.parse line with refusal | _ | command
  · nofun
  · nofun
  · cases command with
    | quit => simp [obey, success, failure]
    | login nickname =>
      simp only [obey]
      split <;> nofun
    | _ => nofun

theorem serves_followUp (console : Console) (frame : Frame) :
    console.Serves (console.followUp frame).console ∧ (console.followUp frame).trace = [] ∧
      (console.followUp frame).flow = .proceed := by
  unfold followUp
  split
  · split
    · exact ⟨⟨Client.keeps_submitRequest _ _, rfl, rfl⟩, rfl, rfl⟩
    · exact ⟨.refl console, rfl, rfl⟩
  · split
    · exact ⟨.refl console, rfl, rfl⟩
    · exact ⟨⟨Client.keeps_submitRequest _ _, rfl, rfl⟩, rfl, rfl⟩
  · exact ⟨.refl console, rfl, rfl⟩

/-- What came of scheduling a redial: one more is handed out, or the console ends. -/
theorem schedule_spec (console : Console) (factor : Binary64) (now : Instant) :
    let turn := console.schedule factor now
    turn.console.client = console.client ∧ turn.trace = [] ∧
      (turn.flow = .proceed → (∃ deadline, turn.console.redialAt = some deadline) ∧
        turn.console.backoff = console.backoff.counted) ∧
      (turn.flow ≠ .proceed → turn.console.redialAt = console.redialAt) := by
  unfold schedule
  split
  · next handed =>
    exact ⟨rfl, rfl, fun _ => ⟨⟨_, rfl⟩, Backoff.eq_counted_of_nextDeadline handed⟩,
      fun ends => absurd rfl ends⟩
  · exact ⟨rfl, rfl, nofun, fun _ => rfl⟩
  · exact ⟨rfl, rfl, nofun, fun _ => rfl⟩

/-- Scheduling fails only if no redial is left. -/
theorem isExhausted_of_schedule {factor : Binary64} {now : Instant}
    (fails : (console.schedule factor now).flow = .exit failure) : console.backoff.isExhausted := by
  unfold schedule at fails
  split at fails
  · cases fails
  · next refused => exact Backoff.isExhausted_of_nextDeadline refused
  · cases fails

/-- Only a loss schedules a redial, and takes one from those that are left. -/
theorem redialAt_of_onEvent {event : SessionEvent} {factor : Binary64} {now deadline : Instant}
    (scheduled : (console.onEvent event factor now).console.redialAt = some deadline) :
    console.redialAt = some deadline ∨ console.redialAt = none ∧
      (∃ reason, event = .offline reason) ∧
      (console.onEvent event factor now).console.backoff.attempts =
        console.backoff.attempts + 1 := by
  cases event with
  | message frame =>
    have serves := (serves_followUp { console with backoff := console.backoff.reset } frame).1
    exact .inl (serves.redialAt.symm.trans scheduled)
  | fatal | requestExpired | rejected => exact .inl scheduled
  | offline reason =>
    cases waiting : console.redialAt with
    | some other => simp_all [onEvent]
    | none =>
      simp only [onEvent, waiting, Option.isNone_none, if_true] at scheduled ⊢
      obtain ⟨-, -, redials, ends⟩ := schedule_spec console factor now
      refine .inr ⟨trivial, ⟨reason, rfl⟩, ?_⟩
      -- A schedule that fails would leave the redial as it was, and none was scheduled.
      by_cases proceeds : (console.schedule factor now).flow = .proceed
      · exact congrArg Backoff.attempts (redials proceeds).2
      · rw [ends proceeds, waiting] at scheduled
        cases scheduled

theorem keeps_onEvent (console : Console) (event : SessionEvent) (factor : Binary64)
    (now : Instant) : console.client.Keeps (console.onEvent event factor now).console.client := by
  cases event with
  | message frame =>
    exact (serves_followUp { console with backoff := console.backoff.reset } frame).1.client
  | offline reason =>
    simp only [onEvent]
    split
    · rw [(schedule_spec console factor now).1]
      exact .refl console.client
    · exact .refl console.client
  | fatal | requestExpired | rejected => exact .refl console.client

/-- An event that ends no connection leaves the redial as it is. -/
theorem redialAt_of_routine {event : SessionEvent} (routine : event.isFinal = false)
    (factor : Binary64) (now : Instant) :
    (console.onEvent event factor now).console.redialAt = console.redialAt := by
  cases event with
  | message frame =>
    exact (serves_followUp { console with backoff := console.backoff.reset } frame).1.redialAt
  | requestExpired | rejected => rfl
  | offline | fatal => cases routine

theorem onEvent_trace (console : Console) (event : SessionEvent) (factor : Binary64)
    (now : Instant) : (console.onEvent event factor now).trace = [] := by
  cases event with
  | message frame => exact (serves_followUp _ frame).2.1
  | offline reason =>
    simp only [onEvent]
    split
    · exact (schedule_spec console factor now).2.1
    · rfl
  | fatal | requestExpired | rejected => rfl

/-- A redial that is not due is left for later. -/
theorem redialIfDue_of_early {now : Instant} (early : console.redialAt.any (· ≤ now) = false)
    (factor : Binary64) : console.redialIfDue factor now = { console } := by
  unfold redialIfDue
  cases scheduled : console.redialAt with
  | none => rfl
  | some deadline =>
    have before : now < deadline := by simpa [scheduled] using early
    simp only [if_pos before]

/-- A redial that is due and not refused is the end of its waiting. -/
theorem redialIfDue_of_due {deadline now : Instant} (scheduled : console.redialAt = some deadline)
    (due : deadline ≤ now) (answer : (console.client.redial now).answer = .ok ())
    (factor : Binary64) : console.redialIfDue factor now =
      { console := { console with client := (console.client.redial now).engine, redialAt := none }
        trace := (console.client.redial now).trace } := by
  unfold redialIfDue
  simp only [scheduled, if_neg (Nat.not_lt.mpr due), answer]

/-- A loss that is reported while a redial is scheduled is only printed. -/
theorem onEvent_offline_of_scheduled {deadline : Instant} (scheduled : console.redialAt = some deadline)
    (reason : String) (factor : Binary64) (now : Instant) :
    console.onEvent (.offline reason) factor now =
      { console, printed := ["* offline: " ++ reason] } := by
  simp [onEvent, scheduled]

end Console

end Blackjack
