import Blackjack.Transport.Engine

/-!
# Engines with matching states

A function on states matches one protocol to another if it commutes with every callback and the
callbacks ask for the same. The engines of the two protocols then go the same way: move by move the
engine of the image is the image of the engine, with the same trace and the same answers. A state
may therefore be replaced by one that the protocol does not tell apart from it.
-/

namespace Blackjack

variable {State Other Request Output : Type}

/-- Along `f`, the callbacks of `image` do what those of `protocol` do, and ask for the same. -/
structure Protocol.Matches (protocol : Protocol State Request Output) (f : State → Other)
    (image : Protocol Other Request Output) : Prop where
  connecting : ∀ state now, image.connecting (f state) now = f (protocol.connecting state now)
  line : ∀ state text now,
    image.line (f state) text now = (protocol.line state text now).map f id
  request : ∀ state request now,
    image.request (f state) request now = (protocol.request state request now).map f id
  tick : ∀ state now, image.tick (f state) now = (protocol.tick state now).map f id
  stopped : ∀ state cause, image.stopped (f state) cause = (protocol.stopped state cause).map f id

/-- The worker with another state. -/
def Worker.map (f : State → Other) (worker : Worker State Request) : Worker Other Request where
  endpoint := worker.endpoint
  state := f worker.state
  phase := worker.phase
  link := worker.link
  inbound := worker.inbound
  ingress := worker.ingress
  outcome := worker.outcome

/-- The engine with another state, wherever it is kept. -/
def Engine.map (f : State → Other) (engine : Engine State Request) : Engine Other Request where
  config := engine.config
  endpoint := engine.endpoint
  parked := engine.parked.map f
  worker := engine.worker.map (Worker.map f)
  running := engine.running

/-- The call on an engine with another state. -/
def Call.map (f : State → Other) (call : Call State Request Output) : Call Other Request Output where
  engine := call.engine.map f
  trace := call.trace
  answer := call.answer

section Worker

variable {f : State → Other} {protocol : Protocol State Request Output}
  {image : Protocol Other Request Output} (agrees : protocol.Matches f image)
  (worker : Worker State Request)

namespace Worker

@[simp] theorem map_state : (worker.map f).state = f worker.state := rfl

@[simp] theorem map_phase : (worker.map f).phase = worker.phase := rfl

@[simp] theorem map_link : (worker.map f).link = worker.link := rfl

@[simp] theorem map_inbound : (worker.map f).inbound = worker.inbound := rfl

@[simp] theorem map_ingress : (worker.map f).ingress = worker.ingress := rfl

@[simp] theorem map_outcome : (worker.map f).outcome = worker.outcome := rfl

@[simp] theorem map_isLive : (worker.map f).isLive = worker.isLive := rfl

theorem map_absorb (state : State) (reaction : Reaction Output) :
    (worker.map f).absorb (f state) reaction = (worker.absorb state reaction).map f := rfl

end Worker

namespace Protocol.Matches

include agrees

theorem close (cause : StopCause) :
    (worker.map f).close image cause = (worker.close protocol cause).map (Worker.map f) id := by
  unfold Worker.close
  rw [Worker.map_state, agrees.stopped]
  rfl

theorem heed :
    (worker.map f).heed image = (worker.heed protocol).map (Worker.map f) id := by
  unfold Worker.heed
  rw [Worker.map_isLive, Worker.map_link]
  split
  · cases worker.link.stop with
    | none => rfl
    | some reason => exact agrees.close worker _
  · rfl

theorem worker_tick (now : Instant) :
    (worker.map f).tick image now = (worker.tick protocol now).map (Worker.map f) id := by
  simp only [Worker.tick, Worker.map_state, agrees.tick, Prod.map, Worker.map_absorb, agrees.heed, id]

theorem deliver (clock : Nat → Instant) (texts : List String) :
    (worker.map f).deliver image clock texts =
      (worker.deliver protocol clock texts).map (Worker.map f) id := by
  induction texts generalizing worker clock with
  | nil => rfl
  | cons text later ih =>
    simp only [Worker.deliver, Worker.map_state, agrees.line, Prod.map, Worker.map_absorb,
      agrees.heed, id, Worker.map_isLive]
    split
    · simp only [ih, Prod.map, id]
    · rfl

theorem receive (bytes : List UInt8) (clock : Nat → Instant) :
    (worker.map f).receive image bytes clock =
      (worker.receive protocol bytes clock).map (Worker.map f) id := by
  unfold Worker.receive
  split
  · exact agrees.close worker _
  · let after (result : Worker Other Request × Trace Request Output) :=
      (result.1, Occurrence.received bytes :: result.2)
    rw [Worker.map_inbound]
    rcases worker.inbound.push bytes with ⟨inbound, failure | lines⟩
    · exact congrArg after (agrees.close { worker with inbound } _)
    · exact congrArg after (agrees.deliver { worker with inbound } clock lines)

theorem collect (clock : Nat → Instant) (work : List (Ingress Request)) :
    (worker.map f).collect image clock work =
      (worker.collect protocol clock work).map (Worker.map f) id := by
  induction work generalizing worker clock with
  | nil => exact agrees.heed worker
  | cons item later ih =>
    cases item with
    | message text =>
      exact congrArg (fun result => (result.1, Occurrence.forwarded text :: result.2))
        (ih { worker with link := worker.link.send text } clock)
    | request request =>
      simp only [Worker.collect, Worker.map_state, agrees.request, Prod.map, Worker.map_absorb, id,
        Worker.map_isLive]
      split
      · simp only [ih, Prod.map, id]
      · rfl

theorem flush (answers : List Outbound.WriteAnswer) :
    (worker.map f).flush image answers =
      (worker.flush protocol answers).map (Worker.map f) id := by
  unfold Worker.flush
  rw [Worker.map_link]
  rcases Outbound.flush worker.link.outbound answers with ⟨written, waiting, none | reason⟩
  · rfl
  · exact congrArg (fun result => (result.1, Occurrence.wrote written :: result.2))
      (agrees.close { worker with link := { worker.link with outbound := waiting } } _)

theorem serve (wakeup : Wakeup) :
    (worker.map f).serve image wakeup = (worker.serve protocol wakeup).map (Worker.map f) id := by
  cases wakeup with
  | received bytes clock => exact agrees.receive worker bytes clock
  | unreadable reason => exact agrees.close worker _
  | handedOver clock =>
    by_cases idle : worker.ingress = []
    · simp only [Worker.serve, Worker.map_ingress, idle, if_true]
      rfl
    · simp only [Worker.serve, Worker.map_ingress, idle, if_false]
      exact agrees.collect { worker with ingress := [] } clock worker.ingress
  | writable answers =>
    by_cases written : worker.link.outbound = []
    · simp only [Worker.serve, Worker.map_link, written, if_true]
      rfl
    · simp only [Worker.serve, Worker.map_link, written, if_false]
      exact agrees.flush worker answers
  | connected | unreachable | timer => rfl

theorem dial (wakeup : Wakeup) :
    (worker.map f).dial image wakeup = (worker.dial protocol wakeup).map (Worker.map f) id := by
  cases wakeup with
  | unreachable reason => exact agrees.close worker _
  | connected | received | unreadable | handedOver | writable | timer => rfl

theorem wait (wakeup : Wakeup) :
    (worker.map f).wait image wakeup = (worker.wait protocol wakeup).map (Worker.map f) id := by
  unfold Worker.wait
  rw [Worker.map_phase]
  cases worker.phase with
  | opened => exact agrees.serve worker wakeup
  | dialing => exact agrees.dial worker wakeup
  | undialed =>
    exact congrArg (fun result => (result.1, Occurrence.dialed result.1.endpoint :: result.2))
      (agrees.dial { worker with phase := .dialing } wakeup)

theorem worker_iterate (now : Instant) (wakeup : Wakeup) :
    (worker.map f).iterate image now wakeup =
      (worker.iterate protocol now wakeup).map (Worker.map f) id := by
  simp only [Worker.iterate, Worker.map_isLive, agrees.worker_tick, Prod.map, agrees.wait, id]
  split
  · split <;> rfl
  · rfl

end Protocol.Matches

end Worker

section Engine

variable {f : State → Other} {protocol : Protocol State Request Output}
  {image : Protocol Other Request Output} (agrees : protocol.Matches f image)
  (engine : Engine State Request)

namespace Engine

@[simp] theorem map_endpoint : (engine.map f).endpoint = engine.endpoint := rfl

@[simp] theorem map_parked : (engine.map f).parked = engine.parked.map f := rfl

@[simp] theorem map_worker : (engine.map f).worker = engine.worker.map (Worker.map f) := rfl

theorem map_live? : (engine.map f).live? = engine.live?.map (Worker.map f) := by
  unfold live?
  exact Option.filter_map ..

theorem map_state? : (engine.map f).state? = engine.state?.map f := by
  unfold state? map
  cases engine.worker with
  | none => rfl
  | some worker =>
    by_cases crashed : worker.outcome = some .crashed <;>
      simp only [Option.map_some, Worker.map_outcome, crashed, if_true, if_false] <;> rfl

theorem map_join : (engine.map f).join = engine.join.map f := by
  unfold join
  cases last : engine.worker with
  | none => simp [map, last]
  | some worker =>
    simp only [map, last, Option.map_some, Option.map_none, Worker.map_outcome]
    split <;> rfl

/-- A stop takes the state back from a worker whose loop has ended. -/
theorem map_taken (worker : Worker State Request) (trace : Trace Request Output) :
    ({ engine := { join { engine.map f with worker := some (worker.map f) } with
        running := false }, trace } : Call Other Request Output) =
      Call.map f { engine := { join { engine with worker := some worker } with
        running := false }, trace } :=
  congrArg (fun joined => ({ engine := { joined with running := false }, trace } : Call _ _ _))
    (map_join (f := f) { engine with worker := some worker })

end Engine

namespace Protocol.Matches

theorem handOver (item : Ingress Request) :
    ((engine.map f).handOver item : Call Other Request Output) =
      (engine.handOver item : Call State Request Output).map f := by
  unfold Engine.handOver
  rw [Engine.map_live?]
  cases engine.live? <;> rfl

include agrees

theorem launch (endpoint : Endpoint) (now : Instant) :
    (engine.map f).launch image endpoint now = (engine.launch protocol endpoint now).map f := by
  unfold Engine.launch
  rw [Engine.map_parked]
  cases engine.parked with
  | none => rfl
  | some state =>
    simp only [Option.map_some, agrees.connecting]
    rfl

theorem start (endpoint : Endpoint) (now : Instant) :
    (engine.map f).start image endpoint now = (engine.start protocol endpoint now).map f := by
  unfold Engine.start
  rw [Engine.map_live?, Option.isSome_map, Engine.map_join, agrees.launch]
  split
  · rfl
  split
  · rfl
  split <;> rfl

theorem stop (reason : String) :
    (engine.map f).stop image reason = (engine.stop protocol reason).map f := by
  unfold Engine.stop
  rw [Engine.map_worker]
  cases engine.worker with
  | none => rfl
  | some worker =>
    rcases Bool.eq_false_or_eq_true worker.isLive with live | ended
    · simp only [Option.map_some, Worker.map_isLive, live, if_true, agrees.close]
      exact Engine.map_taken engine _ _
    · simp only [Option.map_some, Worker.map_isLive, ended, Bool.false_eq_true, if_false]
      exact Engine.map_taken engine worker []

theorem reconnect (now : Instant) :
    (engine.map f).reconnect image now = (engine.reconnect protocol now).map f := by
  unfold Engine.reconnect
  rw [Engine.map_endpoint]
  cases engine.endpoint with
  | none => rfl
  | some endpoint =>
    simp only [agrees.stop]
    rw [show (Call.map f (engine.stop protocol "reconnect")).engine =
      (engine.stop protocol "reconnect").engine.map f from rfl, agrees.start]
    rfl

theorem iterate (now : Instant) (wakeup : Wakeup) :
    (engine.map f).iterate image now wakeup = (engine.iterate protocol now wakeup).map f := by
  unfold Engine.iterate
  rw [Engine.map_live?]
  cases engine.live? with
  | none => rfl
  | some worker =>
    simp only [Option.map_some, agrees.worker_iterate]
    rfl

/-- Every move of the one engine is that of the other. -/
theorem step (move : Engine.Move Request) :
    (engine.map f).step image move = (engine.step protocol move).map f := by
  cases move with
  | start endpoint now => exact agrees.start engine endpoint now
  | stop reason => exact agrees.stop engine reason
  | reconnect now => exact agrees.reconnect engine now
  | send message => exact handOver engine (.message message)
  | submit request => exact handOver engine (.request request)
  | iterate now wakeup => exact agrees.iterate engine now wakeup

theorem run (history : List (Engine.Move Request)) :
    (engine.map f).run image history = (engine.run protocol history).map f := by
  induction history generalizing engine with
  | nil => rfl
  | cons move later ih =>
    calc (engine.map f).run image (move :: later)
        = ((engine.map f).step image move).engine.run image later := rfl
      _ = ((engine.step protocol move).engine.map f).run image later := by
          rw [agrees.step]
          rfl
      _ = (engine.run protocol (move :: later)).map f := ih _

theorem trace (history : List (Engine.Move Request)) :
    (engine.map f).trace image history = engine.trace protocol history := by
  induction history generalizing engine with
  | nil => rfl
  | cons move later ih =>
    rw [Engine.trace, Engine.trace, agrees.step]
    exact congrArg _ (ih _)

end Protocol.Matches

end Engine

end Blackjack
