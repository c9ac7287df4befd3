import Blackjack.Proofs.Client.Operations

/-!
# What the consumer of a client waits for

The events of a connection wait in a queue. While the connection goes on they are all routine, and
once it has ended by itself the last one is final: the loss of the connection, or something fatal.
The end of the attempts is told once, so this holds only until then; `Session.Told` says of a queue
that it has, and every step of a connection keeps it, unless a caller stops the loop.
-/

namespace Blackjack

namespace Session

variable {session next : Session} {occurrence : Occurrence Request SessionEvent}
  {trace : Trace Request SessionEvent} {stage last : Stage} {events : List SessionEvent}

/-- The queue ends with a final event, which tells that the attempts have run out if that was
reported. -/
def Closes (session : Session) (events : List SessionEvent) : Prop :=
  ∃ routine final, events = routine ++ [final] ∧ (∀ event ∈ routine, event.isFinal = false) ∧
    final.isFinal ∧ (session.exhaustionReported = true → final = exhaustion)

/-- The events of a connection that wait to be taken up at some stage of it. -/
def Told (session : Session) (events : List SessionEvent) : Stage → Prop
  | .begun | .going => session.stopping = false ∧ session.exhaustionReported = false ∧
      ∀ event ∈ events, event.isFinal = false
  -- A request never asks for a stop, so no batch of work is cut short.
  | .leaving _ batch => batch = false ∧ session.stopping = true ∧ session.Closes events
  | .down => session.stopping = false ∧ session.Closes events

theorem Transition.exhaustionReported_of_stopped {cause : StopCause}
    {reaction : Reaction SessionEvent}
    (transition : Transition session (.stopped cause) next reaction) :
    next.exhaustionReported = session.exhaustionReported := by
  rw [Bool.eq_iff_iff, transition.exhaustionReported_iff]
  simp

/-- A routine event at the head of the queue leaves the final one behind. -/
theorem Closes.of_routine {event : SessionEvent} (closes : session.Closes (event :: events))
    (routine : event.isFinal = false) : session.Closes events := by
  obtain ⟨before, final, split, quiet, closing, told⟩ := closes
  cases before with
  | nil =>
    obtain ⟨rfl, -⟩ := List.cons.inj split
    simp [routine] at closing
  | cons first rest =>
    obtain ⟨-, rfl⟩ := List.cons.inj split
    exact ⟨rest, final, rfl, fun event member => quiet event (by simp [member]), closing, told⟩

/-- A final event at the head of the queue is the last one. -/
theorem Closes.of_final {event : SessionEvent} (closes : session.Closes (event :: events))
    (final : event.isFinal) :
    events = [] ∧ (session.exhaustionReported = true → event = exhaustion) := by
  obtain ⟨before, last, split, quiet, -, told⟩ := closes
  cases before with
  | nil =>
    obtain ⟨rfl, rfl⟩ := List.cons.inj split
    exact ⟨rfl, told⟩
  | cons first rest =>
    obtain ⟨rfl, -⟩ := List.cons.inj split
    simp [quiet event (by simp)] at final

namespace Told

theorem of_isUp (up : stage.isUp) : session.Told events stage ↔ session.stopping = false ∧
    session.exhaustionReported = false ∧ ∀ event ∈ events, event.isFinal = false := by
  cases stage with
  | begun | going => rfl
  | down | leaving => cases up

/-- A routine event is taken up. -/
theorem of_routine {event : SessionEvent} (told : session.Told (event :: events) stage)
    (routine : event.isFinal = false) : session.Told events stage := by
  cases stage with
  | begun | going =>
    exact ⟨told.1, told.2.1, fun other member => told.2.2 other (by simp [member])⟩
  | leaving => exact ⟨told.1, told.2.1, told.2.2.of_routine routine⟩
  | down => exact ⟨told.1, told.2.of_routine routine⟩

/-- What asks for the end of a connection closes the queue. -/
theorem leaving (told : session.Told events stage) (up : stage.isUp) {operation : Operation}
    {reaction : Reaction SessionEvent} (transition : Transition session operation next reaction)
    (asked : reaction.stop.isSome) (reason : String) :
    next.Told (events ++ reaction.outputs) (.leaving reason false) := by
  obtain ⟨-, untold, routine⟩ := (of_isUp up).mp told
  obtain ⟨final, outputs, closes⟩ := transition.outputs_of_first_asked asked untold
  refine ⟨rfl, (transition.of_asked asked).1, events, final, by rw [outputs], routine, closes, ?_⟩
  intro reported
  -- The end of the attempts is reported in the moment in which it is told.
  have ran_out := (transition.exhaustionReported_iff.mp reported).resolve_left (by simp [untold])
  have member := transition.exhaustion_mem_iff.mpr ⟨ran_out.1, ran_out.2, untold⟩
  rw [outputs, List.mem_singleton] at member
  exact member.symm

/-- What asks for nothing adds routine events only. -/
theorem going (told : session.Told events stage) (up : stage.isUp) {operation : Operation}
    {reaction : Reaction SessionEvent} (transition : Transition session operation next reaction)
    (traffic : operation.isTraffic) (unasked : reaction.stop = none) :
    next.Told (events ++ reaction.outputs) .going := by
  obtain ⟨calm, untold, routine⟩ := (of_isUp up).mp told
  obtain ⟨stopping, -, quiet⟩ := transition.calm traffic unasked
  refine ⟨stopping.trans calm, ?_, ?_⟩
  · rw [← Bool.not_eq_true, transition.exhaustionReported_iff]
    rintro (reported | ⟨⟨now, rfl⟩, spent⟩)
    · simp [untold] at reported
    · exact (transition.unspent_of_tick unasked).1 spent
  · intro event member
    rcases List.mem_append.mp member with earlier | latest
    · exact routine event earlier
    · exact quiet event latest

/-- A stop that the session asked for tells nothing more. -/
theorem obeyed {reason : String} {batch : Bool} (told : session.Told events (.leaving reason batch))
    {reaction : Reaction SessionEvent}
    (transition : Transition session (.stopped (.protocol reason)) next reaction) :
    next.Told (events ++ reaction.outputs) .down := by
  refine ⟨transition.stopping_of_stopped, ?_⟩
  rw [transition.outputs_of_stopped, if_neg (by simp [StopCause.isFault]), List.append_nil, Closes,
    transition.exhaustionReported_of_stopped]
  exact told.2.2

/-- The loss of a connection is the last thing that is told of it. -/
theorem lost (told : session.Told events .going) {cause : StopCause} (fault : cause.isFault)
    {reaction : Reaction SessionEvent}
    (transition : Transition session (.stopped cause) next reaction) :
    next.Told (events ++ reaction.outputs) .down := by
  obtain ⟨calm, untold, routine⟩ := told
  refine ⟨transition.stopping_of_stopped, events, .offline cause.reason, ?_, routine, rfl, ?_⟩
  · rw [transition.outputs_of_stopped, if_pos ⟨fault, calm⟩]
  · simp [transition.exhaustionReported_of_stopped, untold]

/-- Every step of a connection keeps the queue in order, unless a caller stops the loop. -/
theorem step (told : session.Told events stage) (step : stage.Next occurrence last)
    (moves : session.Moves occurrence next) (own : occurrence.isOwn) :
    next.Told (events ++ occurrence.outputs) last := by
  cases moves with
  | aside unseen =>
    rwa [Occurrence.outputs_of_unseen unseen, List.append_nil,
      Occurrence.next_eq_of_unseen step unseen]
  | operated seen transition outputs stop =>
    rw [outputs]
    cases step with
    | connecting => cases own
    | ticked up unasked =>
      cases seen
      exact told.going up transition rfl (stop.symm.trans unasked)
    | tickAsked up asked =>
      exact told.leaving up transition (Option.isSome_of_eq_some (stop.symm.trans asked)) _
    | met inner unasked =>
      have traffic := Occurrence.isTraffic_of_isInner inner seen
      exact told.going rfl transition traffic (stop.symm.trans unasked)
    | asked inner asked =>
      rw [transition.not_isIngress_of_asked seen (stop.symm.trans asked)]
      exact told.leaving rfl transition (Option.isSome_of_eq_some (stop.symm.trans asked)) _
    | worked => cases told.1
    | halted => cases own
    | obeyed =>
      cases seen
      exact told.obeyed transition
    | lost fault =>
      cases seen
      exact told.lost fault transition

theorem of_course (told : session.Told events stage)
    (course : protocol.Course stage session trace last next)
    (own : ∀ occurrence ∈ trace, occurrence.isOwn) :
    next.Told (events ++ trace.outputs) last := by
  induction course generalizing events with
  | nil => simpa [Trace.outputs] using told
  | @cons _ _ _ _ _ occurrence later step answers _ ih =>
    have first := told.step step (moves_of_answers answers) (own _ (by simp))
    have rest := ih first fun other member => own other (by simp [member])
    rwa [List.append_assoc] at rest

end Told

end Session

namespace Client

/-- While the loop goes on by itself, the queue stays in order. -/
theorem told_of_advance {client : Client} {stage : Stage} {session : Session}
    {events : List SessionEvent} (reaches : Engine.Reaches client stage session)
    (told : session.Told events stage) (now : Instant) (wakeup : Wakeup) :
    ∃ last final, Engine.Reaches (advance client now wakeup).engine last final ∧
      final.Told (events ++ (advance client now wakeup).trace.outputs) last := by
  have act : Engine.Act Session.protocol client _ _ :=
    Engine.iterate_act Session.protocol_reliable reaches.kept now wakeup
  obtain ⟨last, final, course, there⟩ := Engine.course_of_act act reaches
  have own := Engine.iterate_isOwn Session.protocol_reliable reaches.kept now wakeup
  exact ⟨last, final, there, told.of_course course own⟩

end Client

end Blackjack
