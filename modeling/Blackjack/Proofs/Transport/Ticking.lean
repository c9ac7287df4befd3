import Blackjack.Proofs.Transport.Life

/-!
# Loops that tick more often

The loop ticks its protocol once in every iteration, whatever the wait before it brought. If a tick
that asks for no stop leaves nothing for another one at the same moment (`Protocol.Settles`), an
iteration may be preceded by any number of iterations at its own moment in which nothing but the
timer ends the wait: the first of them takes over the tick, and dials where that is still to be
done, and the others find nothing to do (`iterate_timer`). So histories that repeat ticks in this
way (`Engine.Repeats`) lead to the same engine, and all that happens in them besides are ticks that
ask for nothing.
-/

namespace Blackjack

variable {State Request Output : Type}

/-- A tick that asks for no stop leaves nothing for another one at the same moment. -/
def Protocol.Settles (protocol : Protocol State Request Output) : Prop :=
  ∀ state now, (protocol.tick state now).2.stop = none →
    protocol.tick (protocol.tick state now).1 now = ((protocol.tick state now).1, .none)

section Eventful

variable [DecidableEq Output]

/-- A tick that asked for nothing. -/
def Occurrence.isIdleTick : Occurrence Request Output → Bool
  | tick _ reaction => reaction = .none
  | _ => false

namespace Trace

/-- What happened, but for the ticks that asked for nothing. -/
def eventful (trace : Trace Request Output) : Trace Request Output :=
  trace.filter fun occurrence => !occurrence.isIdleTick

@[simp] theorem eventful_append (before after : Trace Request Output) :
    Trace.eventful (before ++ after) = before.eventful ++ after.eventful :=
  List.filter_append ..

@[simp] theorem eventful_idle (now : Instant) (later : Trace Request Output) :
    Trace.eventful (.tick now .none :: later) = later.eventful := by
  simp [eventful, Occurrence.isIdleTick]

@[simp] theorem eventful_replicate_idle (now : Instant) (more : Nat) :
    Trace.eventful (List.replicate more (.tick now .none : Occurrence Request Output)) = [] := by
  simp [eventful, Occurrence.isIdleTick]

/-- Ticks that asked for nothing count for nothing. -/
theorem flatMap_eventful {Note : Type} {note : Occurrence Request Output → List Note}
    (blind : ∀ now, note (.tick now .none) = []) (trace : Trace Request Output) :
    trace.eventful.flatMap note = trace.flatMap note := by
  induction trace with
  | nil => rfl
  | cons occurrence later ih =>
    cases idle : occurrence.isIdleTick with
    | false => simpa [eventful, idle] using ih
    | true =>
      obtain ⟨now, rfl⟩ : ∃ now, occurrence = .tick now .none := by
        cases occurrence <;> simp_all [Occurrence.isIdleTick]
      rw [eventful_idle, ih, List.flatMap_cons, blind, List.nil_append]

theorem outputs_eventful (trace : Trace Request Output) : trace.eventful.outputs = trace.outputs :=
  flatMap_eventful (fun _ => rfl) trace

theorem frames_eventful (trace : Trace Request Output) : trace.eventful.frames = trace.frames :=
  flatMap_eventful (fun _ => rfl) trace

end Trace

end Eventful

/-! ## One iteration -/

namespace Worker

variable {protocol : Protocol State Request Output} {worker : Worker State Request} {now : Instant}

/-- The loop goes on, has dialled, and finds nothing to do at this moment. -/
structure Idle (protocol : Protocol State Request Output) (worker : Worker State Request)
    (now : Instant) : Prop where
  going : worker.Going
  dialed : worker.phase ≠ .undialed
  tick : protocol.tick worker.state now = (worker.state, .none)

theorem absorb_none (worker : Worker State Request) :
    worker.absorb worker.state (.none : Reaction Output) = worker := by
  rw [absorb, Link.absorb_none]
  rfl

/-- Once the connection is dialled, a wait that the timer ends does nothing. -/
theorem wait_timer (dialed : worker.phase ≠ .undialed) :
    worker.wait protocol .timer = (worker, []) := by
  unfold wait
  cases phase : worker.phase with
  | undialed => exact absurd phase dialed
  | dialing | opened => rfl

/-- Before that, a wait that the timer ends dials. -/
theorem wait_timer_of_undialed (undialed : worker.phase = .undialed) :
    worker.wait protocol .timer =
      ({ worker with phase := .dialing }, [.dialed worker.endpoint]) := by
  simp only [wait, undialed]
  rfl

/-- A wait that the timer ends leaves the connection dialled, and changes nothing else. -/
theorem dialed_of_wait_timer (protocol : Protocol State Request Output)
    (worker : Worker State Request) :
    let dialed := (worker.wait protocol .timer).1
    dialed.phase ≠ .undialed ∧ dialed.state = worker.state ∧ (worker.Going → dialed.Going) := by
  by_cases undialed : worker.phase = .undialed
  · rw [wait_timer_of_undialed undialed]
    exact ⟨by simp, rfl, fun going => ⟨going.live, going.unasked⟩⟩
  · rw [wait_timer undialed]
    exact ⟨undialed, rfl, id⟩

/-- Before any wait, the loop may as well wait for the timer. -/
theorem wait_split (protocol : Protocol State Request Output) (worker : Worker State Request)
    (wakeup : Wakeup) :
    let dialed := worker.wait protocol .timer
    worker.wait protocol wakeup =
      ((dialed.1.wait protocol wakeup).1, dialed.2 ++ (dialed.1.wait protocol wakeup).2) := by
  by_cases undialed : worker.phase = .undialed
  · rw [wait_timer_of_undialed undialed]
    simp only [wait, undialed, dial_endpoint]
    rfl
  · rw [wait_timer undialed]
    rfl

/-- A tick that asks for no stop is absorbed, and the loop goes on. -/
theorem tick_of_unasked (reliable : protocol.Reliable) (going : worker.Going)
    (unasked : (protocol.tick worker.state now).2.stop = none) :
    let ticked := worker.absorb (protocol.tick worker.state now).1
      (protocol.tick worker.state now).2
    ticked.Going ∧
      worker.tick protocol now = (ticked, [.tick now (protocol.tick worker.state now).2]) := by
  intro ticked
  have quiet : ticked.link.stop = none := by
    simp [ticked, absorb, Link.absorb, going.unasked, unasked]
  have goes : ticked.Going := ⟨outcome_absorb going.live (reliable.tick _ _), quiet⟩
  refine ⟨goes, ?_⟩
  have heeded : ticked.heed protocol = (ticked, []) := heed_of_unasked quiet
  simp only [Worker.tick]
  rw [heeded]

/-- An iteration whose tick asks for no stop goes on to its wait. -/
theorem iterate_of_unasked (reliable : protocol.Reliable) (going : worker.Going)
    (unasked : (protocol.tick worker.state now).2.stop = none) (wakeup : Wakeup) :
    let ticked := worker.absorb (protocol.tick worker.state now).1
      (protocol.tick worker.state now).2
    worker.iterate protocol now wakeup = ((ticked.wait protocol wakeup).1,
      .tick now (protocol.tick worker.state now).2 :: (ticked.wait protocol wakeup).2) := by
  intro ticked
  obtain ⟨goes, same⟩ := tick_of_unasked reliable going unasked
  simp only [iterate, if_pos (isLive_of_outcome going.live), same,
    if_pos (isLive_of_outcome goes.live)]
  rfl

/-- Where there is nothing to do, an iteration is a tick that asks for nothing, and its wait. -/
theorem Idle.iterate (reliable : protocol.Reliable) (idle : worker.Idle protocol now)
    (wakeup : Wakeup) :
    worker.iterate protocol now wakeup =
      ((worker.wait protocol wakeup).1, .tick now .none :: (worker.wait protocol wakeup).2) := by
  have unasked : (protocol.tick worker.state now).2.stop = none := by
    rw [idle.tick]
    rfl
  have all := iterate_of_unasked reliable idle.going unasked wakeup
  rwa [idle.tick, absorb_none] at all

/-- An iteration that the timer ends takes over the tick of a later one at the same moment. -/
theorem iterate_timer (reliable : protocol.Reliable) (settles : protocol.Settles)
    (going : worker.Going) (unasked : (protocol.tick worker.state now).2.stop = none) :
    let idle := worker.iterate protocol now .timer
    idle.1.Idle protocol now ∧ ∀ wakeup, worker.iterate protocol now wakeup =
      ((idle.1.wait protocol wakeup).1, idle.2 ++ (idle.1.wait protocol wakeup).2) := by
  intro idle
  obtain ⟨goes, -⟩ := tick_of_unasked reliable going unasked
  obtain ⟨dialed, state, goes_on⟩ := dialed_of_wait_timer protocol
    (worker.absorb (protocol.tick worker.state now).1 (protocol.tick worker.state now).2)
  have first : idle = _ := iterate_of_unasked reliable going unasked .timer
  rw [first]
  refine ⟨⟨goes_on goes, dialed, ?_⟩, fun wakeup => ?_⟩
  · rw [state]
    exact settles worker.state now unasked
  · rw [iterate_of_unasked reliable going unasked wakeup, wait_split]
    rfl

end Worker

/-! ## Histories that repeat ticks -/

namespace Engine

/-- A loop runs, and its tick at this moment asks for no stop. -/
def TicksOn (protocol : Protocol State Request Output) (engine : Engine State Request)
    (now : Instant) : Prop :=
  ∃ worker, engine.live? = some worker ∧ (protocol.tick worker.state now).2.stop = none

/-- The longer history is the shorter one with ticks repeated: where the tick of an iteration asks
for no stop, the loop may tick any number of times at that moment and wait for nothing but the
timer. -/
inductive Repeats (protocol : Protocol State Request Output) :
    Engine State Request → List (Move Request) → List (Move Request) → Prop
  | nil (engine : Engine State Request) : Repeats protocol engine [] []
  | once {engine : Engine State Request} (move : Move Request) {later longer : List (Move Request)}
      (rest : Repeats protocol (engine.step protocol move).engine later longer) :
      Repeats protocol engine (move :: later) (move :: longer)
  | again {engine : Engine State Request} {now : Instant} (unasked : engine.TicksOn protocol now)
      (more : Nat) (wakeup : Wakeup) {later longer : List (Move Request)}
      (rest : Repeats protocol (engine.iterate protocol now wakeup).engine later longer) :
      Repeats protocol engine (.iterate now wakeup :: later)
        (List.replicate more (.iterate now .timer) ++ .iterate now wakeup :: longer)

/-- A loop runs, and finds nothing to do at this moment. -/
def Idle (protocol : Protocol State Request Output) (engine : Engine State Request)
    (now : Instant) : Prop :=
  ∃ worker, engine.live? = some worker ∧ worker.Idle protocol now

variable {protocol : Protocol State Request Output} {engine : Engine State Request} {now : Instant}

theorem Kept.going (kept : engine.Kept) {worker : Worker State Request}
    (live : engine.live? = some worker) : worker.Going := by
  rcases kept with ⟨state, rests⟩ | ⟨other, runs⟩
  · cases rests.live?.symm.trans live
  · obtain rfl := Option.some.inj (runs.live?.symm.trans live)
    exact runs.going

section Idle

variable (reliable : protocol.Reliable) (idle : engine.Idle protocol now)
include reliable idle

/-- An iteration in which there is nothing to do leaves the engine as it is. -/
theorem Idle.iterate_timer :
    engine.iterate protocol now .timer = { engine, trace := [.tick now .none] } := by
  obtain ⟨worker, live, idle⟩ := idle
  have still := idle.iterate reliable .timer
  rw [Worker.wait_timer idle.dialed] at still
  have same : { engine with worker := some worker } = engine := by
    rw [← (live?_eq_some_iff.mp live).1]
  simp only [iterate, live, still, idle.going.live, same]

theorem Idle.run_replicate (more : Nat) :
    engine.run protocol (List.replicate more (.iterate now .timer)) = engine := by
  have stays : (engine.step protocol (.iterate now .timer)).engine = engine :=
    congrArg Call.engine (idle.iterate_timer reliable)
  induction more with
  | zero => rfl
  | succ more ih =>
    rw [List.replicate_succ, run, List.foldl_cons, stays]
    exact ih

theorem Idle.trace_replicate (more : Nat) :
    engine.trace protocol (List.replicate more (.iterate now .timer)) =
      List.replicate more (.tick now .none) := by
  have stays : engine.step protocol (.iterate now .timer) = _ := idle.iterate_timer reliable
  induction more with
  | zero => rfl
  | succ more ih =>
    rw [List.replicate_succ, trace, stays, ih]
    rfl

end Idle

section Split

variable (reliable : protocol.Reliable) (settles : protocol.Settles) (kept : engine.Kept)
include reliable settles kept

/-- An iteration that the timer ends takes over the tick of a later one at the same moment, and
leaves nothing else to do then. -/
theorem iterate_split (unasked : engine.TicksOn protocol now) :
    let first := engine.iterate protocol now .timer
    first.engine.Idle protocol now ∧ ∀ wakeup,
      let second := first.engine.iterate protocol now wakeup
      let whole := engine.iterate protocol now wakeup
      second.engine = whole.engine ∧ ∃ rest,
        second.trace = .tick now .none :: rest ∧ whole.trace = first.trace ++ rest := by
  obtain ⟨worker, live, unasked⟩ := unasked
  obtain ⟨idle, split⟩ := Worker.iterate_timer reliable settles (kept.going live) unasked
  have first : engine.iterate protocol now .timer =
      { engine := { engine with worker := some (worker.iterate protocol now .timer).1 }
        trace := (worker.iterate protocol now .timer).2 } := by
    simp only [iterate, live, idle.going.live]
  rw [first]
  generalize worker.iterate protocol now .timer = ticked at idle split
  have there : ({ engine with worker := some ticked.1 } : Engine State Request).live? =
      some ticked.1 := live?_eq_some_iff.mpr ⟨rfl, idle.going.live⟩
  refine ⟨⟨_, there, idle⟩, fun wakeup => ?_⟩
  simp only [iterate, live, there, split, idle.iterate reliable]
  exact ⟨trivial, _, rfl, rfl⟩

section Again

variable (unasked : engine.TicksOn protocol now) (more : Nat) (wakeup : Wakeup)
  (later : List (Move Request))
include unasked

/-- Whatever follows an iteration finds the same engine if its tick was repeated before. -/
theorem run_again :
    engine.run protocol (List.replicate more (.iterate now .timer) ++ .iterate now wakeup :: later) =
      (engine.iterate protocol now wakeup).engine.run protocol later := by
  cases more with
  | zero => rfl
  | succ more =>
    -- the first of the added iterations does what is to be done, and the others find it done
    let first := engine.iterate protocol now .timer
    obtain ⟨idle, split⟩ := iterate_split reliable settles kept unasked
    obtain ⟨same, -⟩ := split wakeup
    calc engine.run protocol (.iterate now .timer ::
          (List.replicate more (.iterate now .timer) ++ .iterate now wakeup :: later))
        = first.engine.run protocol
            (List.replicate more (.iterate now .timer) ++ .iterate now wakeup :: later) := rfl
      _ = first.engine.run protocol (.iterate now wakeup :: later) := by
          rw [run_append, idle.run_replicate reliable]
      _ = (engine.iterate protocol now wakeup).engine.run protocol later :=
          congrArg (fun engine => run protocol engine later) same

/-- All that happens besides if the tick of an iteration was repeated before are ticks that ask for
nothing. -/
theorem eventful_again [DecidableEq Output] :
    (engine.trace protocol
        (List.replicate more (.iterate now .timer) ++ .iterate now wakeup :: later)).eventful =
      (engine.trace protocol (.iterate now wakeup :: later)).eventful := by
  cases more with
  | zero => rfl
  | succ more =>
    let first := engine.iterate protocol now .timer
    let next := engine.iterate protocol now wakeup
    let quiet : Occurrence Request Output := .tick now .none
    obtain ⟨idle, split⟩ := iterate_split reliable settles kept unasked
    obtain ⟨same, rest, second, whole⟩ := split wakeup
    have told : first.engine.trace protocol (.iterate now wakeup :: later) =
        quiet :: (rest ++ next.engine.trace protocol later) := by
      rw [trace, step, second, same]
      rfl
    calc (engine.trace protocol (.iterate now .timer ::
          (List.replicate more (.iterate now .timer) ++ .iterate now wakeup :: later))).eventful
        = (first.trace ++ (List.replicate more quiet ++
            quiet :: (rest ++ next.engine.trace protocol later))).eventful := by
          rw [trace, trace_append, ← told]
          simp only [step, idle.run_replicate reliable, idle.trace_replicate reliable]
          rfl
      _ = (first.trace ++ (rest ++ next.engine.trace protocol later)).eventful := by
          simp only [Trace.eventful_append, quiet, Trace.eventful_replicate_idle,
            Trace.eventful_idle, List.nil_append]
      _ = (engine.trace protocol (.iterate now wakeup :: later)).eventful := by
          rw [← List.append_assoc, ← whole]
          rfl

end Again

end Split

namespace Repeats

/-- Ticks may be repeated after any other moves. -/
theorem prepend (moves : List (Move Request)) {later longer : List (Move Request)}
    (rest : (engine.run protocol moves).Repeats protocol later longer) :
    engine.Repeats protocol (moves ++ later) (moves ++ longer) := by
  induction moves generalizing engine with
  | nil => exact rest
  | cons move moves ih => exact .once move (ih rest)

variable (reliable : protocol.Reliable) (settles : protocol.Settles) (kept : engine.Kept)
  {history longer : List (Move Request)} (repeats : engine.Repeats protocol history longer)
include reliable settles kept repeats

/-- Repeated ticks leave the same engine. -/
theorem run_eq : engine.run protocol longer = engine.run protocol history := by
  induction repeats with
  | nil => rfl
  | once move _ ih => exact ih ((step_path reliable kept move).kept kept)
  | @again engine now unasked more wakeup later longer _ ih =>
    have next := (iterate_act reliable kept now wakeup).kept kept
    exact (run_again reliable settles kept unasked more wakeup longer).trans (ih next)

/-- Repeated ticks ask for nothing, and nothing else happens differently. -/
theorem eventful_eq [DecidableEq Output] :
    (engine.trace protocol longer).eventful = (engine.trace protocol history).eventful := by
  induction repeats with
  | nil => rfl
  | once move _ ih =>
    rw [trace, trace, Trace.eventful_append, Trace.eventful_append,
      ih ((step_path reliable kept move).kept kept)]
  | @again engine now unasked more wakeup later longer _ ih =>
    have next := (iterate_act reliable kept now wakeup).kept kept
    rw [eventful_again reliable settles kept unasked, trace, trace, Trace.eventful_append,
      Trace.eventful_append]
    exact congrArg _ (ih next)

end Repeats

end Engine

end Blackjack
