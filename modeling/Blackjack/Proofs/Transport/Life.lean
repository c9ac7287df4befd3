import Blackjack.Proofs.Transport.Course
import Blackjack.Proofs.Transport.Custody
import Blackjack.Proofs.Transport.Motion
import Mathlib.Data.List.DropRight

/-!
# The life of one connection

A connection begins with nothing: no frame waits, no byte is left of a line, and no work was handed
over. `Worker.Life` follows it, with the work that was handed over and with what happened, through
the motions of its loop. Whatever a history brings, the connection that was begun last has such a
life (`latest_of_history`), so what every motion keeps holds of every connection at every moment.
-/

namespace Blackjack

namespace Trace

variable {Request Output : Type}

/-- What happened on the connection that was begun last. -/
def current (trace : Trace Request Output) : Trace Request Output :=
  trace.rtakeWhile fun occurrence => !occurrence.isConnecting

theorem current_append {before part : Trace Request Output}
    (same : ∀ occurrence ∈ part, occurrence.isConnecting = false) :
    Trace.current (before ++ part) = before.current ++ part := by
  have goes_on : ∀ occurrence ∈ part.reverse, (!occurrence.isConnecting) = true := by
    intro occurrence member
    rw [same occurrence (List.mem_reverse.mp member)]
    rfl
  rw [current, current, List.rtakeWhile, List.reverse_append, List.takeWhile_append_of_pos goes_on,
    List.reverse_append, List.reverse_reverse, List.rtakeWhile]

/-- A connection begins with nothing. -/
theorem current_connecting (before : Trace Request Output) (now : Instant) :
    Trace.current (before ++ [.connecting now]) = [] :=
  List.rtakeWhile_concat_neg _ _ _ (by simp [Occurrence.isConnecting])

theorem current_append_nil (trace : Trace Request Output) :
    Trace.current (trace ++ []) = trace.current := by
  rw [List.append_nil]

end Trace

namespace Worker

variable {State Request Output : Type}

/-- The work that was handed to a worker since it began, what happened since then, and the moment
that its loop has come to. -/
inductive Life (protocol : Protocol State Request Output) (config : TransportConfig) :
    List (Ingress Request) → Trace Request Output → Moment State Request → Prop
  | begun (endpoint : Endpoint) (state : State) :
      Life protocol config [] [] ⟨.new config endpoint state, []⟩
  | handed {items : List (Ingress Request)} {trace : Trace Request Output}
      {worker : Worker State Request} (life : Life protocol config items trace ⟨worker, []⟩)
      (item : Ingress Request) :
      Life protocol config (items ++ [item]) trace
        ⟨{ worker with ingress := worker.ingress ++ [item] }, []⟩
  | moved {items : List (Ingress Request)} {trace part : Trace Request Output}
      {moment next : Moment State Request} (life : Life protocol config items trace moment)
      (motion : Motion protocol moment part next) :
      Life protocol config items (trace ++ part) next

theorem Life.motions {protocol : Protocol State Request Output} {config : TransportConfig}
    {items : List (Ingress Request)} {trace part : Trace Request Output}
    {moment next : Moment State Request} (life : Life protocol config items trace moment)
    (motions : Motions protocol moment part next) :
    Life protocol config items (trace ++ part) next := by
  induction motions generalizing trace with
  | nil => rwa [List.append_nil]
  | cons motion _ ih =>
    rw [← List.append_assoc]
    exact ih (life.moved motion)

end Worker

namespace Engine

variable {State Request Output : Type} {protocol : Protocol State Request Output}
  {config : TransportConfig} {engine : Engine State Request} {items : List (Ingress Request)}
  {trace : Trace Request Output}

/-- The work that a call hands over. -/
def Move.work? : Move Request → Option (Ingress Request)
  | .send message => some (.message message)
  | .submit request => some (.request request)
  | .start _ _ | .stop _ | .reconnect _ | .iterate _ _ => none

/-- What was handed over on a connection, after one more move: a refused call hands nothing over,
and a new connection begins with nothing. -/
def gather (protocol : Protocol State Request Output) (engine : Engine State Request)
    (items : List (Ingress Request)) (move : Move Request) : List (Ingress Request) :=
  match (engine.step protocol move).answer with
  | .error _ => items
  | .ok () =>
    if (engine.step protocol move).trace.any Occurrence.isConnecting then []
    else items ++ move.work?.toList

/-- The work that a history hands over on the connection that it begins last, in the order of the
calls. -/
def handed (protocol : Protocol State Request Output) (engine : Engine State Request)
    (items : List (Ingress Request)) : List (Move Request) → List (Ingress Request)
  | [] => items
  | move :: later =>
    (engine.step protocol move).engine.handed protocol (engine.gather protocol items move) later

/-- How the connection that was begun last stands. -/
structure Latest (protocol : Protocol State Request Output) (config : TransportConfig)
    (engine : Engine State Request) (items : List (Ingress Request))
    (trace : Trace Request Output) : Prop where
  config_eq : engine.config = config
  /-- None was begun yet, or the engine has its worker, or a stop has taken the worker away. -/
  life : engine.worker = none ∧ items = [] ∧ trace = [] ∨
    ∃ worker, Worker.Life protocol config items trace ⟨worker, []⟩ ∧
      (engine.worker = some worker ∨ engine.worker = none)

theorem stop_config (engine : Engine State Request) (reason : String) :
    (engine.stop protocol reason).engine.config = engine.config := by
  unfold stop
  cases engine.worker <;> rfl

theorem stop_not_isConnecting (engine : Engine State Request) (reason : String) :
    ∀ occurrence ∈ (engine.stop protocol reason).trace, occurrence.isConnecting = false := by
  unfold stop
  cases engine.worker with
  | none => simp
  | some worker => cases live : worker.isLive <;> simp [live, Worker.close, Occurrence.isConnecting]

theorem Runs.going {worker : Worker State Request} (runs : engine.Runs worker) : worker.Going :=
  ⟨runs.live, runs.unasked⟩

namespace Latest

theorem new (config : TransportConfig) (initial : State) :
    Latest protocol config (Engine.new config initial : Engine State Request) [] [] :=
  ⟨rfl, .inl ⟨rfl, rfl, rfl⟩⟩

/-- At rest, a start that leads somewhere begins a new connection. -/
theorem begun {state : State} {endpoint : Endpoint} (config_eq : engine.config = config)
    (rests : engine.Rests state) (valid : endpoint.Valid) (now : Instant) :
    Latest protocol config (engine.start protocol endpoint now).engine [] [] := by
  rw [start_eq_of_rests rests valid]
  obtain ⟨-, -, same⟩ := rests.join
  exact ⟨same.trans config_eq, .inr ⟨_, config_eq ▸ .begun endpoint _, .inl rfl⟩⟩

variable (latest : Latest protocol config engine items trace)
include latest

/-- The loop that runs is the one of the latest connection. -/
theorem of_runs {worker : Worker State Request} (runs : engine.Runs worker) :
    Worker.Life protocol config items trace ⟨worker, []⟩ := by
  rcases latest.life with ⟨vacant, -⟩ | ⟨other, life, same | vacant⟩
  · cases vacant.symm.trans runs.worker_eq
  · obtain rfl := Option.some.inj (runs.worker_eq.symm.trans same)
    exact life
  · cases vacant.symm.trans runs.worker_eq

theorem stop (kept : engine.Kept) (reason : String) :
    Latest protocol config (engine.stop protocol reason).engine items
      (trace ++ (engine.stop protocol reason).trace) := by
  refine ⟨(stop_config engine reason).trans latest.config_eq, ?_⟩
  have gone : (engine.stop protocol reason).engine.worker = none := stop_worker engine reason
  rcases kept with ⟨state, rests⟩ | ⟨worker, runs⟩
  · have quiet : (engine.stop protocol reason).trace = [] := (stop_of_rests rests reason).1
    rw [quiet, List.append_nil]
    rcases latest.life with ⟨-, none⟩ | ⟨worker, life, -⟩
    · exact .inl ⟨gone, none⟩
    · exact .inr ⟨worker, life, .inr gone⟩
  · have trace_eq : (engine.stop protocol reason).trace =
        (worker.close protocol (.requested reason)).2 := by
      simp [Engine.stop, runs.worker_eq, Worker.isLive_of_outcome runs.live]
    rw [trace_eq]
    exact .inr ⟨_, (latest.of_runs runs).moved (.halted runs.going reason), .inr gone⟩

theorem handOver (kept : engine.Kept) {item : Ingress Request}
    (accepted : (engine.handOver item : Call State Request Output).answer = .ok ()) :
    Latest protocol config (engine.handOver item : Call State Request Output).engine
      (items ++ [item]) (trace ++ (engine.handOver item : Call State Request Output).trace) := by
  unfold Engine.handOver at accepted ⊢
  rcases kept with ⟨state, rests⟩ | ⟨worker, runs⟩
  · simp [rests.live?] at accepted
  · rw [runs.live?, List.append_nil]
    exact ⟨latest.config_eq, .inr ⟨_, (latest.of_runs runs).handed item, .inl rfl⟩⟩

theorem iterate (reliable : protocol.Reliable) (kept : engine.Kept) (now : Instant)
    (wakeup : Wakeup) :
    Latest protocol config (engine.iterate protocol now wakeup).engine items
      (trace ++ (engine.iterate protocol now wakeup).trace) := by
  unfold Engine.iterate
  rcases kept with ⟨state, rests⟩ | ⟨worker, runs⟩
  · rw [rests.live?]
    rwa [List.append_nil]
  · rw [runs.live?]
    have motions := Worker.motions_iterate reliable runs.going now wakeup
    exact ⟨latest.config_eq, .inr ⟨_, (latest.of_runs runs).motions motions, .inl rfl⟩⟩

omit latest

section Step

variable {whole part : Trace Request Output} {move : Move Request}
  (accepted : (engine.step protocol move).answer = .ok ())
include accepted

/-- A call that succeeds and begins no connection hands over its work. -/
theorem of_same
    (same : ∀ occurrence ∈ (engine.step protocol move).trace, occurrence.isConnecting = false)
    (next : Latest protocol config (engine.step protocol move).engine
      (items ++ move.work?.toList) (whole.current ++ (engine.step protocol move).trace)) :
    Latest protocol config (engine.step protocol move).engine (engine.gather protocol items move)
      (Trace.current (whole ++ (engine.step protocol move).trace)) := by
  have none : (engine.step protocol move).trace.any Occurrence.isConnecting = false := by
    simpa using same
  simp only [gather, accepted, none, Bool.false_eq_true, if_false]
  rwa [Trace.current_append same]

/-- A call that begins a connection leaves nothing of the last one. -/
theorem of_begun {now : Instant}
    (trace_eq : (engine.step protocol move).trace = part ++ [.connecting now])
    (next : Latest protocol config (engine.step protocol move).engine [] []) :
    Latest protocol config (engine.step protocol move).engine (engine.gather protocol items move)
      (Trace.current (whole ++ (engine.step protocol move).trace)) := by
  simp only [gather, accepted, trace_eq]
  rw [if_pos (by simp [Occurrence.isConnecting]), ← List.append_assoc, Trace.current_connecting]
  exact next

end Step

/-- What one move makes of the latest connection, or of a new one. -/
theorem step (reliable : protocol.Reliable) (custody : engine.Custody)
    {whole : Trace Request Output} (latest : Latest protocol config engine items whole.current)
    (move : Move Request) :
    Latest protocol config (engine.step protocol move).engine (engine.gather protocol items move)
      (Trace.current (whole ++ (engine.step protocol move).trace)) := by
  rcases step_cases protocol custody move with ⟨error, -, refused⟩ | ⟨-, accepted⟩
  · simp only [gather, refused]
    rwa [Trace.current_append_nil]
  cases move with
  | start endpoint now =>
    rcases start_cases protocol custody.kept endpoint now with
      ⟨error, -, refused⟩ | ⟨valid, state, rests⟩
    · cases accepted.symm.trans (congrArg Call.answer refused)
    · have trace_eq : (engine.start protocol endpoint now).trace = [] ++ [.connecting now] := by
        rw [start_eq_of_rests rests valid]
        rfl
      exact of_begun accepted trace_eq (begun latest.config_eq rests valid now)
  | stop reason =>
    have kept := latest.stop custody.kept reason
    rw [← List.append_nil items] at kept
    exact of_same accepted (stop_not_isConnecting engine reason) kept
  | reconnect now =>
    cases led : engine.endpoint with
    | none => simp [Engine.step, reconnect, led] at accepted
    | some endpoint =>
      obtain ⟨state, rests⟩ := stop_rests protocol custody.kept "reconnect"
      have valid : endpoint.Valid := custody.valid endpoint led
      have config_eq := (latest.stop custody.kept "reconnect").config_eq
      have next : Latest protocol config (engine.reconnect protocol now).engine [] [] := by
        simp only [reconnect, led]
        exact begun config_eq rests valid now
      have trace_eq : (engine.reconnect protocol now).trace =
          (engine.stop protocol "reconnect").trace ++ [.connecting now] := by
        simp only [reconnect, led, start_eq_of_rests rests valid]
      exact of_begun accepted trace_eq next
  | send message | submit request =>
    have quiet (item : Ingress Request) :
        (engine.handOver item : Call State Request Output).trace = [] := by
      unfold Engine.handOver
      cases engine.live? <;> rfl
    refine of_same accepted ?_ (latest.handOver custody.kept accepted)
    intro occurrence (member : occurrence ∈ (engine.handOver _ : Call State Request Output).trace)
    rw [quiet] at member
    cases member
  | iterate now wakeup =>
    have kept := latest.iterate reliable custody.kept now wakeup
    rw [← List.append_nil items] at kept
    refine of_same accepted ?_ kept
    intro occurrence member
    exact Occurrence.isConnecting_of_isOwn
      (iterate_isOwn reliable custody.kept now wakeup occurrence member)

theorem run (reliable : protocol.Reliable) (custody : engine.Custody)
    {whole : Trace Request Output} (latest : Latest protocol config engine items whole.current)
    (history : List (Move Request)) :
    Latest protocol config (engine.run protocol history) (engine.handed protocol items history)
      (Trace.current (whole ++ engine.trace protocol history)) := by
  induction history generalizing engine items whole with
  | nil => rwa [Engine.trace, Trace.current_append_nil]
  | cons move later ih =>
    rw [Engine.trace, ← List.append_assoc]
    exact ih (custody.step reliable move) (latest.step reliable custody move)

end Latest

/-- Whatever history brings, the connection that was begun last has a life. -/
theorem latest_of_history (reliable : protocol.Reliable) (config : TransportConfig)
    (initial : State) (history : List (Move Request)) :
    Latest protocol config ((new config initial).run protocol history)
      ((new config initial).handed protocol [] history)
      ((new config initial).trace protocol history).current := by
  have fresh : Latest protocol config (new config initial) []
      (Trace.current ([] : Trace Request Output)) := .new config initial
  exact fresh.run reliable (.new config initial) history

/-- What the trace of a connection records of a callback is what the callback gives. -/
theorem answers_of_history (reliable : protocol.Reliable) (config : TransportConfig)
    (initial : State) (history : List (Move Request)) :
    ∀ occurrence ∈ ((new config initial).trace protocol history).current,
      ∃ state, protocol.Answers state occurrence := by
  intro occurrence member
  have rests : (new config initial : Engine State Request).Rests initial := .new config initial
  obtain ⟨final, -, replays⟩ := (run_path reliable rests.kept history).replays rests.state?
  exact replays.answers occurrence ((List.rtakeWhile_suffix _ _).subset member)

end Engine

end Blackjack
