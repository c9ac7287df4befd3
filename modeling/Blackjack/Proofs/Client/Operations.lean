import Blackjack.Client.Basic
import Blackjack.Proofs.Session.Exhaustion
import Blackjack.Proofs.Transport.Course

/-!
# The trace of a client as operations of its session

The callbacks in a trace are operations of the session, and what the trace records of them is what
the operations give (`moves_of_answers`). So the session of a client is the run of the operations in
its trace, and the facts about a session's operations hold along the course of a client.
-/

namespace Blackjack

namespace Occurrence

variable {occurrence : Occurrence Request SessionEvent}

/-- The session's part in what happened. -/
def operation? : Occurrence Request SessionEvent → Option Session.Operation
  | connecting now => some (.connecting now)
  | tick now _ => some (.tick now)
  | line text now _ => some (.line text now)
  | request given now _ => some (.request given now)
  | stopped cause _ => some (.stopped cause)
  | dialed _ | established | received _ | forwarded _ | wrote _ => none

theorem outputs_of_unseen (unseen : occurrence.operation? = none) : occurrence.outputs = [] := by
  cases occurrence <;> first | rfl | cases unseen

theorem stop?_of_unseen (unseen : occurrence.operation? = none) : occurrence.stop? = none := by
  cases occurrence <;> first | rfl | cases unseen

theorem not_tick_of_unseen (unseen : occurrence.operation? = none) :
    ¬∃ now reaction, occurrence = .tick now reaction := by
  rintro ⟨now, reaction, rfl⟩
  cases unseen

theorem isTraffic_of_isInner (inner : occurrence.isInner) {operation : Session.Operation}
    (seen : occurrence.operation? = some operation) : operation.isTraffic := by
  cases occurrence <;> cases seen <;> first | rfl | cases inner

theorem isRequest_of_isIngress (ingress : occurrence.isIngress) {operation : Session.Operation}
    (seen : occurrence.operation? = some operation) :
    ∃ request now, operation = .request request now := by
  cases occurrence with
  | request given now => exact ⟨given, now, (Option.some.inj seen).symm⟩
  | forwarded => cases seen
  | _ => cases ingress

/-- What the session takes no part in leaves a connection where it is. -/
theorem next_eq_of_unseen {stage last : Stage} (step : stage.Next occurrence last)
    (unseen : occurrence.operation? = none) : last = stage := by
  cases step with
  | met | worked => rfl
  | asked _ asked => cases (stop?_of_unseen unseen).symm.trans asked
  | _ => cases unseen

theorem isTick_iff_of_seen {operation : Session.Operation}
    (seen : occurrence.operation? = some operation) :
    (∃ now, operation = .tick now) ↔ ∃ now reaction, occurrence = .tick now reaction := by
  cases occurrence <;> cases seen <;> simp

end Occurrence

/-- The session's part in a trace. -/
def Trace.operations (trace : Trace Request SessionEvent) : List Session.Operation :=
  trace.filterMap Occurrence.operation?

@[simp] theorem Trace.operations_append (before after : Trace Request SessionEvent) :
    (before ++ after).operations = before.operations ++ after.operations :=
  List.filterMap_append

namespace Session

variable {session next : Session} {occurrence : Occurrence Request SessionEvent}
  {trace : Trace Request SessionEvent}

theorem Transition.sane {operation : Operation} {reaction : Reaction SessionEvent}
    (transition : Transition session operation next reaction) : reaction.crashed = false := by
  cases transition <;> rfl

/-- A request never asks for the end of its connection. -/
theorem Transition.not_isIngress_of_asked {operation : Operation}
    {reaction : Reaction SessionEvent} (transition : Transition session operation next reaction)
    (seen : occurrence.operation? = some operation) {reason : String}
    (asked : reaction.stop = some reason) : occurrence.isIngress = false := by
  rw [Bool.eq_false_iff]
  intro ingress
  obtain ⟨request, now, rfl⟩ := Occurrence.isRequest_of_isIngress ingress seen
  rw [transition.of_request.1] at asked
  cases asked

/-- What happens between the two ends of a connection does not end it. -/
theorem Transition.online {operation : Operation} {reaction : Reaction SessionEvent}
    (transition : Transition session operation next reaction) (traffic : operation.isTraffic)
    (online : session.state ≠ .disconnected) : next.state ≠ .disconnected := by
  cases transition with
  | connected | lost | closed => cases traffic
  | resolved | accepted | expired => simp
  | _ => exact online

theorem protocol_reliable : protocol.Reliable where
  tick := fun session now => (step_transition session (.tick now)).sane
  line := fun session text now => (step_transition session (.line text now)).sane
  request := fun session request now => (step_transition session (.request request now)).sane

/-- What an occurrence does to the session, and what it shows of that. -/
inductive Moves (session : Session) : Occurrence Request SessionEvent → Session → Prop
  | aside {occurrence : Occurrence Request SessionEvent} (unseen : occurrence.operation? = none) :
      Moves session occurrence session
  | operated {occurrence : Occurrence Request SessionEvent} {operation : Operation}
      {next : Session} {reaction : Reaction SessionEvent}
      (seen : occurrence.operation? = some operation)
      (transition : Transition session operation next reaction)
      (outputs : occurrence.outputs = reaction.outputs)
      (stop : occurrence.stop? = reaction.stop) : Moves session occurrence next

theorem moves_of_answers (answers : protocol.Answers session occurrence) :
    Moves session occurrence (protocol.after session occurrence) := by
  cases occurrence with
  | connecting now => exact .operated rfl (step_transition session (.connecting now)) rfl rfl
  | tick now reaction =>
    cases answers
    exact .operated rfl (step_transition session (.tick now)) rfl rfl
  | line text now reaction =>
    cases answers
    exact .operated rfl (step_transition session (.line text now)) rfl rfl
  | request request now reaction =>
    cases answers
    exact .operated rfl (step_transition session (.request request now)) rfl rfl
  | stopped cause outputs =>
    cases answers
    exact .operated rfl (step_transition session (.stopped cause)) rfl rfl
  | dialed | established | received | forwarded | wrote => exact .aside rfl

namespace Moves

theorem exhaustionReported_iff (moves : session.Moves occurrence next) :
    next.exhaustionReported = true ↔ session.exhaustionReported = true ∨
      (∃ now reaction, occurrence = .tick now reaction) ∧ session.Spent := by
  cases moves with
  | aside unseen => simp [Occurrence.not_tick_of_unseen unseen]
  | operated seen transition =>
    rw [transition.exhaustionReported_iff, Occurrence.isTick_iff_of_seen seen]

theorem exhaustion_mem_iff (moves : session.Moves occurrence next) :
    exhaustion ∈ occurrence.outputs ↔ (∃ now reaction, occurrence = .tick now reaction) ∧
      session.Spent ∧ session.exhaustionReported = false := by
  cases moves with
  | aside unseen =>
    rw [Occurrence.outputs_of_unseen unseen]
    simp [Occurrence.not_tick_of_unseen unseen]
  | operated seen transition outputs =>
    rw [outputs, transition.exhaustion_mem_iff, Occurrence.isTick_iff_of_seen seen]

/-- A session is disconnected exactly while it has no connection. -/
theorem disconnected_iff {stage last : Stage} (moves : session.Moves occurrence next)
    (step : stage.Next occurrence last) (before : session.state = .disconnected ↔ stage = .down) :
    next.state = .disconnected ↔ last = .down := by
  cases moves with
  | aside unseen => rwa [Occurrence.next_eq_of_unseen step unseen]
  | operated seen transition =>
    cases step with
    | connecting now =>
      cases seen
      obtain ⟨rfl, -⟩ := transition.of_connecting
      simp [connecting]
    | halted | obeyed | lost =>
      cases seen
      exact iff_of_true transition.disconnected_of_stopped rfl
    | ticked up | tickAsked up =>
      cases seen
      have online : session.state ≠ .disconnected := by
        rw [Ne, before]
        rintro rfl
        cases up
      exact iff_of_false (transition.online rfl online) (by simp)
    | met inner | asked inner =>
      have traffic := Occurrence.isTraffic_of_isInner inner seen
      exact iff_of_false (transition.online traffic (by simp [before])) (by simp)
    | worked _ ingress =>
      obtain ⟨request, now, rfl⟩ := Occurrence.isRequest_of_isIngress ingress seen
      exact iff_of_false (transition.online rfl (by simp [before])) (by simp)

end Moves

theorem disconnected_iff_of_course {stage last : Stage}
    (course : protocol.Course stage session trace last next)
    (before : session.state = .disconnected ↔ stage = .down) :
    next.state = .disconnected ↔ last = .down :=
  course.invariant (fun stage session => session.state = .disconnected ↔ stage = .down)
    (fun step answers before => (moves_of_answers answers).disconnected_iff step before) before

theorem run_operations_cons (session : Session) (occurrence : Occurrence Request SessionEvent)
    (later : Trace Request SessionEvent) :
    session.run (Trace.operations (occurrence :: later)) =
      (protocol.after session occurrence).run later.operations := by
  cases occurrence <;> rfl

/-- A client's session is what the operations in its trace make of it. -/
theorem run_operations (replays : protocol.Replays session trace next) :
    session.run trace.operations = next := by
  induction replays with
  | nil => rfl
  | cons _ _ ih => rw [run_operations_cons, ih]

theorem policy_eq_of_replays (replays : protocol.Replays session trace next) :
    next.policy = session.policy := by
  rw [← run_operations replays, run_policy]

end Session

end Blackjack
