import Blackjack.Proofs.Transport.Iteration

/-!
# What the moves of an engine do

An engine whose callbacks never fail is at rest, with the state of its protocol in its keeping, or
it runs a loop that nobody has asked to stop. `Act` lists what can happen to such an engine, with
what each act leaves in the trace, and every move is a `Path` of acts: a reconnection halts the old
loop and begins a new one, and every other move is one act. What holds along every path therefore
holds of every history, and a proof about engines never opens the engine's functions themselves.
-/

namespace Blackjack

/-- Somewhere to connect to: a host that is not blank, and a port. -/
def Endpoint.Valid (endpoint : Endpoint) : Prop :=
  Text.trim endpoint.host.toList ≠ [] ∧ endpoint.port ≠ 0

namespace Engine

variable {State Request Output : Type}

/-- No loop runs, and the engine keeps the state of its protocol. -/
structure Rests (engine : Engine State Request) (state : State) : Prop where
  live? : engine.live? = none
  state? : engine.state? = some state
  running : engine.running = false

/-- A loop runs, and nobody has asked it to stop. -/
structure Runs (engine : Engine State Request) (worker : Worker State Request) : Prop where
  live? : engine.live? = some worker
  unasked : worker.link.stop = none
  running : engine.running = true

/-- The engine is in one of the two conditions. -/
def Kept (engine : Engine State Request) : Prop :=
  (∃ state, engine.Rests state) ∨ ∃ worker, engine.Runs worker

/-- What can happen to an engine, and what it leaves in the trace. -/
inductive Act (protocol : Protocol State Request Output) :
    Engine State Request → Trace Request Output → Engine State Request → Prop
  /-- A call is refused, or finds nothing to do. -/
  | refused (engine : Engine State Request) : Act protocol engine [] engine
  /-- The state comes back from a loop that has ended. -/
  | parked {engine next : Engine State Request} {state : State} (rests : engine.Rests state)
      (still : next.Rests state) : Act protocol engine [] next
  /-- Work is handed to the loop. -/
  | handed {engine next : Engine State Request} {worker : Worker State Request}
      {ingress : List (Ingress Request)} (runs : engine.Runs worker)
      (still : next.Runs { worker with ingress }) : Act protocol engine [] next
  /-- A new connection is begun. -/
  | connecting {engine next : Engine State Request} {state : State} {endpoint : Endpoint}
      {now : Instant} (rests : engine.Rests state)
      (runs : next.Runs (.new engine.config endpoint (protocol.connecting state now))) :
      Act protocol engine [.connecting now] next
  /-- A caller stops the loop. -/
  | halted {engine next : Engine State Request} {worker : Worker State Request} {reason : String}
      (runs : engine.Runs worker)
      (rests : next.Rests (protocol.stopped worker.state (.requested reason)).1) :
      Act protocol engine [.stopped (.requested reason)
        (protocol.stopped worker.state (.requested reason)).2] next
  /-- The loop goes through an iteration, and goes on. -/
  | iterated {engine next : Engine State Request} {worker after : Worker State Request}
      {iteration : Iteration Request Output} (runs : engine.Runs worker)
      (orderly : iteration.Orderly)
      (closed : worker.phase ≠ .opened → ∀ occurrence ∈ iteration.wait, occurrence.isSocket)
      (unasked : iteration.trace.asked = none)
      (replays : protocol.Replays worker.state iteration.trace after.state)
      (phase : after.phase = .opened ↔ worker.phase = .opened ∨ .established ∈ iteration.trace)
      (still : next.Runs after) : Act protocol engine iteration.trace next
  /-- The loop goes through an iteration, and ends in it. -/
  | ended {engine next : Engine State Request} {worker : Worker State Request} {state : State}
      {iteration : Iteration Request Output} {cause : StopCause} {outputs : List Output}
      (runs : engine.Runs worker) (orderly : iteration.Orderly)
      (closed : worker.phase ≠ .opened → ∀ occurrence ∈ iteration.wait, occurrence.isSocket)
      (follows : cause.Follows iteration.trace.asked)
      (replays : protocol.Replays worker.state (iteration.trace ++ [.stopped cause outputs]) state)
      (rests : next.Rests state) :
      Act protocol engine (iteration.trace ++ [.stopped cause outputs]) next

/-- Acts one after another, with all that they leave in the trace. -/
inductive Path (protocol : Protocol State Request Output) (start : Engine State Request) :
    Trace Request Output → Engine State Request → Prop
  | nil : Path protocol start [] start
  | snoc {before act : Trace Request Output} {middle next : Engine State Request}
      (path : Path protocol start before middle) (step : Act protocol middle act next) :
      Path protocol start (before ++ act) next

variable {protocol : Protocol State Request Output} {engine next : Engine State Request}
  {state : State} {worker : Worker State Request} {trace : Trace Request Output}

theorem Rests.kept (rests : engine.Rests state) : engine.Kept := .inl ⟨state, rests⟩

theorem Runs.kept (runs : engine.Runs worker) : engine.Kept := .inr ⟨worker, runs⟩

theorem live?_eq_some_iff : engine.live? = some worker ↔
    engine.worker = some worker ∧ worker.outcome = none := by
  simp [Engine.live?, Worker.isLive]

theorem Runs.worker_eq (runs : engine.Runs worker) : engine.worker = some worker :=
  (live?_eq_some_iff.mp runs.live?).1

theorem Runs.live (runs : engine.Runs worker) : worker.outcome = none :=
  (live?_eq_some_iff.mp runs.live?).2

theorem Runs.state? (runs : engine.Runs worker) : engine.state? = some worker.state := by
  simp [Engine.state?, runs.worker_eq, runs.live]

/-- A loop runs exactly if callers are told so. -/
theorem Kept.running_eq (kept : engine.Kept) : engine.running = engine.live?.isSome := by
  rcases kept with ⟨state, rests⟩ | ⟨worker, runs⟩
  · rw [rests.running, rests.live?]
    rfl
  · rw [runs.running, runs.live?]
    rfl

theorem Act.kept (act : Act protocol engine trace next) (kept : engine.Kept) : next.Kept := by
  cases act with
  | refused => exact kept
  | parked _ still | halted _ still | ended _ _ _ _ _ still => exact still.kept
  | handed _ still | connecting _ still | iterated _ _ _ _ _ _ still => exact still.kept

theorem Path.single (act : Act protocol engine trace next) : Path protocol engine trace next := by
  have path : Path protocol engine ([] ++ trace) next := .snoc .nil act
  simpa using path

theorem Path.append {first second : Trace Request Output} {start middle final : Engine State Request}
    (before : Path protocol start first middle) (after : Path protocol middle second final) :
    Path protocol start (first ++ second) final := by
  induction after with
  | nil => simpa using before
  | snoc _ step ih =>
    rw [← List.append_assoc]
    exact .snoc ih step

theorem Path.kept (path : Path protocol engine trace next) (kept : engine.Kept) : next.Kept := by
  induction path with
  | nil => exact kept
  | snoc _ step ih => exact step.kept ih

theorem Rests.new (config : TransportConfig) (state : State) :
    (Engine.new config state : Engine State Request).Rests state := ⟨rfl, rfl, rfl⟩

/-- At rest, the state comes back from the last worker, if there is one. -/
theorem Rests.join (rests : engine.Rests state) :
    engine.join.Rests state ∧ engine.join.parked = some state ∧
      engine.join.config = engine.config := by
  have held := rests.state?
  unfold Engine.join
  cases last : engine.worker with
  | none =>
    simp only [Engine.state?, last] at held
    exact ⟨rests, held, rfl⟩
  | some worker =>
    simp only [Engine.state?, last] at held
    have sane : worker.outcome ≠ some .crashed := by
      intro crashed
      simp [crashed] at held
    rw [if_neg sane] at held
    simp only [if_neg sane]
    exact ⟨⟨rfl, held, rests.running⟩, held, trivial⟩

/-- At rest, a new connection is begun. -/
theorem start_of_rests (protocol : Protocol State Request Output) (rests : engine.Rests state)
    {endpoint : Endpoint} (valid : endpoint.Valid) (now : Instant) :
    let call := engine.start protocol endpoint now
    call.answer = .ok () ∧ call.trace = [.connecting now] ∧ call.engine.endpoint = some endpoint ∧
      call.engine.Runs (.new engine.config endpoint (protocol.connecting state now)) := by
  obtain ⟨-, parked, config⟩ := rests.join
  have vacant : engine.live?.isSome = false := by rw [rests.live?]; rfl
  simp only [start, if_neg valid.1, if_neg valid.2, vacant, Bool.false_eq_true, if_false, launch,
    parked, config]
  exact ⟨trivial, trivial, trivial, rfl, rfl, rfl⟩

/-- A start that is not refused begins a new connection, and is refused while a loop runs. -/
theorem start_act (kept : engine.Kept) (endpoint : Endpoint) (now : Instant) :
    Act protocol engine (engine.start protocol endpoint now).trace
      (engine.start protocol endpoint now).engine := by
  by_cases valid : endpoint.Valid
  · rcases kept with ⟨state, rests⟩ | ⟨worker, runs⟩
    · obtain ⟨-, trace, -, begun⟩ := start_of_rests protocol rests valid now
      rw [trace]
      exact .connecting rests begun
    · have taken : engine.live?.isSome = true := by rw [runs.live?]; rfl
      simp only [start, if_neg valid.1, if_neg valid.2, taken, if_true]
      exact .refused engine
  · unfold start
    split
    · exact .refused engine
    · next hosted =>
      split
      · exact .refused engine
      · next ported => exact absurd ⟨hosted, ported⟩ valid

theorem join_endpoint (engine : Engine State Request) : engine.join.endpoint = engine.endpoint := by
  unfold join
  cases engine.worker <;> rfl

/-- At rest, there is nothing to stop. -/
theorem stop_of_rests (rests : engine.Rests state) (reason : String) :
    let call := engine.stop protocol reason
    call.trace = [] ∧ call.engine.Rests state ∧ call.engine.endpoint = engine.endpoint := by
  unfold stop
  cases last : engine.worker with
  | none => exact ⟨rfl, rests, rfl⟩
  | some worker =>
    have ended : worker.isLive = false := by
      have idle := rests.live?
      simpa [Engine.live?, last] using idle
    have same : { engine with worker := some worker } = engine := by rw [← last]
    simp only [ended, Bool.false_eq_true, if_false, same]
    obtain ⟨still, -⟩ := rests.join
    exact ⟨trivial, ⟨still.live?, still.state?, rfl⟩, engine.join_endpoint⟩

/-- A stop ends the loop if one runs, and finds nothing to end otherwise. -/
theorem stop_act (kept : engine.Kept) (reason : String) :
    Act protocol engine (engine.stop protocol reason).trace
      (engine.stop protocol reason).engine := by
  rcases kept with ⟨state, rests⟩ | ⟨worker, runs⟩
  · obtain ⟨trace, still, -⟩ := stop_of_rests rests reason
    rw [trace]
    exact .parked rests still
  · unfold stop
    simp only [runs.worker_eq, Worker.isLive_of_outcome runs.live, if_true]
    exact .halted runs ⟨rfl, rfl, rfl⟩

/-- At rest, a redial begins a new connection to where the last one led. -/
theorem reconnect_of_rests (rests : engine.Rests state) {endpoint : Endpoint}
    (led : engine.endpoint = some endpoint) (valid : endpoint.Valid) (now : Instant) :
    let call := engine.reconnect protocol now
    call.answer = .ok () ∧ call.trace = [.connecting now] ∧ call.engine.endpoint = some endpoint ∧
      ∃ worker, call.engine.Runs worker ∧ worker.state = protocol.connecting state now := by
  have quiet : (engine.stop protocol "reconnect").trace = [] := (stop_of_rests rests "reconnect").1
  have still : (engine.stop protocol "reconnect").engine.Rests state :=
    (stop_of_rests rests "reconnect").2.1
  obtain ⟨answer, begins, leads, runs⟩ := start_of_rests protocol still valid now
  simp only [reconnect, led, quiet, List.nil_append]
  exact ⟨answer, begins, leads, _, runs, rfl⟩

theorem stop_path_start (kept : engine.Kept) (reason : String) (endpoint : Endpoint)
    (now : Instant) :
    let stopped := engine.stop protocol reason
    let started := stopped.engine.start protocol endpoint now
    Path protocol engine (stopped.trace ++ started.trace) started.engine := by
  have halt : Act protocol engine _ _ := stop_act kept reason
  exact (Path.single halt).append (.single (start_act (halt.kept kept) endpoint now))

theorem handOver_act (kept : engine.Kept) (item : Ingress Request) :
    Act protocol engine (engine.handOver item : Call State Request Output).trace
      (engine.handOver item : Call State Request Output).engine := by
  unfold handOver
  rcases kept with ⟨state, rests⟩ | ⟨worker, runs⟩
  · rw [rests.live?]
    exact .refused engine
  · rw [runs.live?]
    have still : ({ engine with
        worker := some { worker with ingress := worker.ingress ++ [item] } } :
          Engine State Request).Runs { worker with ingress := worker.ingress ++ [item] } :=
      ⟨live?_eq_some_iff.mpr ⟨rfl, runs.live⟩, runs.unasked, runs.running⟩
    exact .handed runs still

theorem iterate_act (reliable : protocol.Reliable) (kept : engine.Kept) (now : Instant)
    (wakeup : Wakeup) :
    Act protocol engine (engine.iterate protocol now wakeup).trace
      (engine.iterate protocol now wakeup).engine := by
  unfold iterate
  rcases kept with ⟨state, rests⟩ | ⟨worker, runs⟩
  · rw [rests.live?]
    exact .refused engine
  · rw [runs.live?]
    obtain ⟨iteration, -, orderly, closed, brings⟩ :=
      Worker.iterate_brings reliable runs.live now wakeup
    have replays := brings.replays
    rcases brings.leaves with ⟨trace, live, unasked, nobody⟩ | ⟨cause, outputs, trace, ended, follows⟩
    · rw [trace] at replays
      simp only [trace]
      refine .iterated runs orderly closed ?_ replays brings.phase ⟨?_, unasked, ?_⟩
      · exact (Option.or_eq_none_iff.mp nobody).2
      · exact live?_eq_some_iff.mpr ⟨rfl, live⟩
      · simp only [live]
        exact runs.running
    · rw [trace] at replays
      rw [runs.unasked, Option.none_or] at follows
      simp only [trace]
      refine .ended runs orderly closed follows replays ⟨?_, ?_, ?_⟩
      · simp [Engine.live?, Worker.isLive, ended]
      · simp [Engine.state?, ended]
      · simp only [ended]

theorem iterate_endpoint (protocol : Protocol State Request Output) (engine : Engine State Request)
    (now : Instant) (wakeup : Wakeup) :
    (engine.iterate protocol now wakeup).engine.endpoint = engine.endpoint := by
  unfold iterate
  cases engine.live? <;> rfl

/-- Every move is a path of acts. -/
theorem step_path (reliable : protocol.Reliable) (kept : engine.Kept) (move : Move Request) :
    Path protocol engine (engine.step protocol move).trace (engine.step protocol move).engine := by
  cases move with
  | start endpoint now => exact .single (start_act kept endpoint now)
  | stop reason => exact .single (stop_act kept reason)
  | send message => exact .single (handOver_act kept (.message message))
  | submit request => exact .single (handOver_act kept (.request request))
  | iterate now wakeup => exact .single (iterate_act reliable kept now wakeup)
  | reconnect now =>
    simp only [step, reconnect]
    cases engine.endpoint with
    | none => exact .nil
    | some endpoint => exact stop_path_start kept "reconnect" endpoint now

theorem run_path (reliable : protocol.Reliable) (kept : engine.Kept)
    (history : List (Move Request)) :
    Path protocol engine (engine.trace protocol history) (engine.run protocol history) := by
  induction history generalizing engine with
  | nil => exact .nil
  | cons move later ih =>
    have first := step_path reliable kept move
    exact first.append (ih (first.kept kept))

/-- Along a path, the trace alone determines what becomes of the protocol's state. -/
theorem Act.replays (act : Act protocol engine trace next) (held : engine.state? = some state) :
    ∃ final, next.state? = some final ∧ protocol.Replays state trace final := by
  cases act with
  | refused => exact ⟨state, held, .nil state⟩
  | parked rests still =>
    obtain rfl := Option.some.inj (rests.state?.symm.trans held)
    exact ⟨_, still.state?, .nil _⟩
  | handed runs still =>
    obtain rfl := Option.some.inj (runs.state?.symm.trans held)
    exact ⟨_, still.state?, .nil _⟩
  | connecting rests runs =>
    obtain rfl := Option.some.inj (rests.state?.symm.trans held)
    exact ⟨_, runs.state?, .cons trivial (.nil _)⟩
  | halted runs rests =>
    obtain rfl := Option.some.inj (runs.state?.symm.trans held)
    exact ⟨_, rests.state?, .cons rfl (.nil _)⟩
  | iterated runs _ _ _ replays _ still =>
    obtain rfl := Option.some.inj (runs.state?.symm.trans held)
    exact ⟨_, still.state?, replays⟩
  | ended runs _ _ _ replays rests =>
    obtain rfl := Option.some.inj (runs.state?.symm.trans held)
    exact ⟨_, rests.state?, replays⟩

theorem Path.replays (path : Path protocol engine trace next) (held : engine.state? = some state) :
    ∃ final, next.state? = some final ∧ protocol.Replays state trace final := by
  induction path with
  | nil => exact ⟨state, held, .nil state⟩
  | snoc _ step ih =>
    obtain ⟨middle, there, before⟩ := ih
    obtain ⟨final, here, last⟩ := step.replays there
    exact ⟨final, here, before.append last⟩

end Engine

end Blackjack
