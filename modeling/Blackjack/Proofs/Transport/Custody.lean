import Blackjack.Proofs.Transport.Block

/-!
# Who keeps the protocol's state, and what a refusal changes

The state of a protocol is with the engine, with a worker whose loop runs, or with a worker whose
loop has ended. Every move keeps `Custody`, so that it is in one of these places and never lost. What
a call is refused for is listed by `Refuses`; a refusal changes nothing, and every other call
succeeds (`custody_of_history`).
-/

namespace Blackjack.Engine

variable {State Request Output : Type} {protocol : Protocol State Request Output}
  {engine : Engine State Request} {state : State} {endpoint : Endpoint} {now : Instant}

/-- The state of the protocol is in exactly one place. -/
inductive Holds (engine : Engine State Request) (state : State) : Prop
  /-- No worker is registered, and the engine has the state. -/
  | parked (vacant : engine.worker = none) (parked : engine.parked = some state)
  /-- The one worker that is registered has the state, whether its loop still runs or not. -/
  | held {worker : Worker State Request} (registered : engine.worker = some worker)
      (away : engine.parked = none) (sane : worker.outcome ≠ some .crashed)
      (state : worker.state = state)

theorem Holds.state? (holds : engine.Holds state) : engine.state? = some state := by
  cases holds with
  | parked vacant parked => rw [Engine.state?, vacant, parked]
  | held registered _ sane state => simp only [Engine.state?, registered, ← state, if_neg sane]

/-- What a call is refused for. -/
inductive Refuses (engine : Engine State Request) : Move Request → TransportError → Prop
  | blank {endpoint : Endpoint} {now : Instant} (blank : Text.trim endpoint.host.toList = []) :
      Refuses engine (.start endpoint now) .emptyHost
  | portless {endpoint : Endpoint} {now : Instant} (hosted : Text.trim endpoint.host.toList ≠ [])
      (portless : endpoint.port = 0) : Refuses engine (.start endpoint now) .invalidPort
  | busy {endpoint : Endpoint} {now : Instant} (valid : endpoint.Valid)
      (busy : engine.running = true) : Refuses engine (.start endpoint now) .alreadyRunning
  | aimless {now : Instant} (never : engine.endpoint = none) :
      Refuses engine (.reconnect now) .noEndpoint
  | unsent {message : String} (idle : engine.running = false) :
      Refuses engine (.send message) .notRunning
  | unsubmitted {request : Request} (idle : engine.running = false) :
      Refuses engine (.submit request) .notRunning

/-- What every move keeps. -/
structure Custody (engine : Engine State Request) : Prop where
  kept : engine.Kept
  /-- The engine itself has the state only while no worker is registered. -/
  away : engine.worker ≠ none → engine.parked = none
  /-- A start that is not refused leads somewhere. -/
  valid : ∀ endpoint ∈ engine.endpoint, endpoint.Valid

theorem stop_worker (engine : Engine State Request) (reason : String) :
    (engine.stop protocol reason).engine.worker = none := by
  unfold stop
  cases last : engine.worker with
  | none => exact last
  | some worker => rfl

theorem stop_endpoint (engine : Engine State Request) (reason : String) :
    (engine.stop protocol reason).engine.endpoint = engine.endpoint := by
  unfold stop
  cases engine.worker with
  | none => rfl
  | some worker => exact join_endpoint _

theorem stop_rests (protocol : Protocol State Request Output) (kept : engine.Kept)
    (reason : String) :
    ∃ state, (engine.stop protocol reason).engine.Rests state := by
  have halted : Act protocol engine _ _ := stop_act kept reason
  rcases halted.kept kept with rests | ⟨worker, runs⟩
  · exact rests
  · cases (stop_worker engine reason).symm.trans runs.worker_eq

/-- At rest, a start that leads somewhere hands the state to a new worker. -/
theorem start_eq_of_rests (rests : engine.Rests state) (valid : endpoint.Valid) (now : Instant) :
    engine.start protocol endpoint now =
      { engine := { engine.join with
          endpoint := some endpoint
          parked := none
          worker := some (.new engine.config endpoint (protocol.connecting state now))
          running := true }
        trace := [.connecting now] } := by
  obtain ⟨-, parked, config⟩ := rests.join
  have vacant : engine.live?.isSome = false := by rw [rests.live?]; rfl
  simp only [start, if_neg valid.1, if_neg valid.2, vacant, Bool.false_eq_true, if_false, launch,
    parked, config]

/-- A start is refused for one reason, or else it finds the engine at rest. -/
theorem start_cases (protocol : Protocol State Request Output) (kept : engine.Kept)
    (endpoint : Endpoint) (now : Instant) :
    (∃ error, engine.Refuses (.start endpoint now) error ∧
      engine.start protocol endpoint now = { engine, answer := .error error }) ∨
    endpoint.Valid ∧ ∃ state, engine.Rests state := by
  by_cases blank : Text.trim endpoint.host.toList = []
  · exact .inl ⟨_, .blank blank, by simp [start, blank]⟩
  by_cases portless : endpoint.port = 0
  · exact .inl ⟨_, .portless blank portless, by simp [start, blank, portless]⟩
  rcases kept with rests | ⟨worker, runs⟩
  · exact .inr ⟨⟨blank, portless⟩, rests⟩
  · exact .inl ⟨_, .busy ⟨blank, portless⟩ runs.running,
      by simp [start, blank, portless, runs.live?]⟩

/-- At rest with nothing wrong about the call, there is nothing to refuse. -/
theorem Rests.not_refuses_start (rests : engine.Rests state) (valid : endpoint.Valid)
    (error : TransportError) : ¬engine.Refuses (.start endpoint now) error := by
  rintro (blank | ⟨-, portless⟩ | ⟨-, busy⟩)
  · exact valid.1 blank
  · exact valid.2 portless
  · cases busy.symm.trans rests.running

namespace Custody

theorem new (config : TransportConfig) (state : State) :
    (Engine.new config state : Engine State Request).Custody where
  kept := Rests.kept (.new config state)
  away := fun registered => absurd rfl registered
  valid := by simp [Engine.new]

theorem holds (custody : engine.Custody) (held : engine.state? = some state) :
    engine.Holds state := by
  unfold Engine.state? at held
  cases registered : engine.worker with
  | none =>
    rw [registered] at held
    exact .parked registered held
  | some worker =>
    simp only [registered] at held
    split at held
    · cases held
    · next sane =>
      exact .held registered (custody.away (by simp [registered])) sane (Option.some.inj held)

theorem start (custody : engine.Custody) (endpoint : Endpoint) (now : Instant) :
    (engine.start protocol endpoint now).engine.Custody := by
  have begun : Act protocol engine _ _ := start_act custody.kept endpoint now
  have kept := begun.kept custody.kept
  rcases start_cases protocol custody.kept endpoint now with
    ⟨error, -, refused⟩ | ⟨valid, state, rests⟩
  · rw [refused]
    exact custody
  · rw [start_eq_of_rests rests valid] at kept ⊢
    refine ⟨kept, fun _ => rfl, ?_⟩
    rintro other ⟨⟩
    exact valid

theorem stop (custody : engine.Custody) (reason : String) :
    (engine.stop protocol reason).engine.Custody where
  kept := Rests.kept (stop_rests protocol custody.kept reason).choose_spec
  away := fun registered => absurd (stop_worker engine reason) registered
  valid := by
    rw [stop_endpoint]
    exact custody.valid

theorem handOver (custody : engine.Custody) (item : Ingress Request) :
    (engine.handOver item : Call State Request Output).engine.Custody := by
  unfold Engine.handOver
  rcases custody.kept with ⟨state, rests⟩ | ⟨worker, runs⟩
  · rw [rests.live?]
    exact custody
  · rw [runs.live?]
    have registered : engine.worker ≠ none := by simp [runs.worker_eq]
    have still : ({ engine with
        worker := some { worker with ingress := worker.ingress ++ [item] } } :
          Engine State Request).Runs { worker with ingress := worker.ingress ++ [item] } :=
      ⟨live?_eq_some_iff.mpr ⟨rfl, runs.live⟩, runs.unasked, runs.running⟩
    exact ⟨still.kept, fun _ => custody.away registered, custody.valid⟩

theorem iterate (reliable : protocol.Reliable) (custody : engine.Custody) (now : Instant)
    (wakeup : Wakeup) : (engine.iterate protocol now wakeup).engine.Custody := by
  have kept := (iterate_act reliable custody.kept now wakeup).kept custody.kept
  unfold Engine.iterate at kept ⊢
  cases live : engine.live? with
  | none => exact custody
  | some worker =>
    simp only [live] at kept
    have registered : engine.worker ≠ none := by simp [(live?_eq_some_iff.mp live).1]
    exact ⟨kept, fun _ => custody.away registered, custody.valid⟩

theorem step (reliable : protocol.Reliable) (custody : engine.Custody) (move : Move Request) :
    (engine.step protocol move).engine.Custody := by
  cases move with
  | start endpoint now => exact custody.start endpoint now
  | stop reason => exact custody.stop reason
  | send message => exact custody.handOver (.message message)
  | submit request => exact custody.handOver (.request request)
  | iterate now wakeup => exact custody.iterate reliable now wakeup
  | reconnect now =>
    simp only [Engine.step, reconnect]
    cases engine.endpoint with
    | none => exact custody
    | some endpoint => exact (custody.stop "reconnect").start endpoint now

theorem run (reliable : protocol.Reliable) (custody : engine.Custody)
    (history : List (Move Request)) : (engine.run protocol history).Custody := by
  induction history generalizing engine with
  | nil => exact custody
  | cons move later ih => exact ih (custody.step reliable move)

end Custody

section Answers

/-- Work is refused exactly while no loop runs. -/
theorem handOver_cases (kept : engine.Kept) (item : Ingress Request) {move : Move Request}
    (refuses : ∀ error, engine.Refuses move error ↔ engine.running = false ∧ error = .notRunning) :
    (∃ error, engine.Refuses move error ∧
      (engine.handOver item : Call State Request Output) = { engine, answer := .error error }) ∨
    (∀ error, ¬engine.Refuses move error) ∧
      (engine.handOver item : Call State Request Output).answer = .ok () := by
  unfold handOver
  rcases kept with ⟨state, rests⟩ | ⟨worker, runs⟩
  · rw [rests.live?]
    exact .inl ⟨_, (refuses _).mpr ⟨rests.running, rfl⟩, rfl⟩
  · rw [runs.live?]
    refine .inr ⟨fun error refused => ?_, rfl⟩
    cases runs.running.symm.trans ((refuses error).mp refused).1

/-- A redial succeeds once a start has succeeded. -/
theorem reconnect_answer (custody : engine.Custody) {endpoint : Endpoint}
    (led : engine.endpoint = some endpoint) (now : Instant) :
    (engine.reconnect protocol now).answer = .ok () := by
  obtain ⟨state, rests⟩ := stop_rests protocol custody.kept "reconnect"
  have valid : endpoint.Valid := custody.valid endpoint led
  simp only [reconnect, led, start_eq_of_rests rests valid]

/-- A call is refused for one of the listed reasons, with nothing done, or else it succeeds. -/
theorem step_cases (protocol : Protocol State Request Output) (custody : engine.Custody)
    (move : Move Request) :
    (∃ error, engine.Refuses move error ∧
      engine.step protocol move = { engine, answer := .error error }) ∨
    (∀ error, ¬engine.Refuses move error) ∧ (engine.step protocol move).answer = .ok () := by
  cases move with
  | start endpoint now =>
    rcases start_cases protocol custody.kept endpoint now with
      refused | ⟨valid, state, rests⟩
    · exact .inl refused
    · refine .inr ⟨rests.not_refuses_start valid, ?_⟩
      simp only [step, start_eq_of_rests rests valid]
  | stop reason =>
    refine .inr ⟨fun error refused => ?_, ?_⟩
    · cases refused
    · simp only [step, stop]
      cases engine.worker <;> rfl
  | reconnect now =>
    cases led : engine.endpoint with
    | none => exact .inl ⟨_, .aimless led, by simp [step, reconnect, led]⟩
    | some endpoint =>
      refine .inr ⟨fun error refused => ?_, reconnect_answer custody led now⟩
      cases refused with
      | aimless never => cases led.symm.trans never
  | send message =>
    refine handOver_cases custody.kept (.message message) fun error => ⟨fun refused => ?_, ?_⟩
    · cases refused with
      | unsent idle => exact ⟨idle, rfl⟩
    · rintro ⟨idle, rfl⟩
      exact .unsent idle
  | submit request =>
    refine handOver_cases custody.kept (.request request) fun error => ⟨fun refused => ?_, ?_⟩
    · cases refused with
      | unsubmitted idle => exact ⟨idle, rfl⟩
    · rintro ⟨idle, rfl⟩
      exact .unsubmitted idle
  | iterate now wakeup =>
    refine .inr ⟨fun error refused => ?_, ?_⟩
    · cases refused
    · simp only [step, iterate]
      cases engine.live? <;> rfl

theorem Refuses.unique {move : Move Request} {error other : TransportError}
    (one : engine.Refuses move error) (two : engine.Refuses move other) : error = other := by
  cases one with
  | blank blank =>
    cases two with
    | blank => rfl
    | portless hosted => exact absurd blank hosted
    | busy valid => exact absurd blank valid.1
  | portless hosted portless =>
    cases two with
    | blank blank => exact absurd blank hosted
    | portless => rfl
    | busy valid => exact absurd portless valid.2
  | busy valid =>
    cases two with
    | blank blank => exact absurd blank valid.1
    | portless _ portless => exact absurd portless valid.2
    | busy => rfl
  | aimless | unsent | unsubmitted =>
    cases two
    rfl

end Answers

section Endpoint

end Endpoint

end Blackjack.Engine
