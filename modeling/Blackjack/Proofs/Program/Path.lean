import Blackjack.Program.Basic
import Blackjack.Proofs.Console.Turn

/-!
# What the moves of a program do to its client

A program touches its client through the calls of an engine only. So what happens to the client in a
history of the program is a path of acts, whatever the player types and however the program ends,
and what holds along every path of an engine holds of every program.
-/

namespace Blackjack

namespace Console

variable {console : Console}

theorem onInput_path (kept : Engine.Kept console.client) (line : String) :
    Engine.Path Session.protocol console.client (console.onInput line).trace
      (console.onInput line).console.client := by
  obtain ⟨serves, silent⟩ := serves_onInput console line
  rw [silent]
  exact serves.client.path kept

theorem onEvent_path (kept : Engine.Kept console.client) (event : SessionEvent) (factor : Binary64)
    (now : Instant) :
    Engine.Path Session.protocol console.client (console.onEvent event factor now).trace
      (console.onEvent event factor now).console.client := by
  rw [onEvent_trace]
  exact (keeps_onEvent console event factor now).path kept

theorem redialIfDue_path (kept : Engine.Kept console.client) (factor : Binary64) (now : Instant) :
    Engine.Path Session.protocol console.client (console.redialIfDue factor now).trace
      (console.redialIfDue factor now).console.client := by
  unfold redialIfDue
  split
  · exact .nil
  · split
    · exact .nil
    · have path : Engine.Path Session.protocol console.client (console.client.redial now).trace
          (console.client.redial now).engine :=
        Engine.step_path Session.protocol_reliable kept (.reconnect now)
      cases answer : (console.client.redial now).answer with
      | ok => simpa only [answer] using path
      | error refusal => simpa only [answer, (schedule_spec _ factor now).1] using path

end Console

namespace Program

variable {program : Program}

section Moves

variable {event : SessionEvent} {later : List SessionEvent} {factor : Binary64} {now : Instant}

theorem move_typed (program : Program) (line : String) :
    program.move (.typed line) = program.follow (program.console.onInput line) := rfl

theorem move_takeUp_nil (queue : program.events = []) :
    program.move (.takeUp factor now) = { program } := by
  simp [move, queue]

theorem move_takeUp_cons (queue : program.events = event :: later) :
    program.move (.takeUp factor now) =
      follow { program with events := later } (program.console.onEvent event factor now) := by
  simp [move, queue]

theorem move_look (program : Program) :
    program.move (.look factor now) = program.follow (program.console.redialIfDue factor now) := rfl

theorem move_advance (program : Program) (wakeup : Wakeup) :
    program.move (.advance now wakeup) =
      { program := { program with
          console :=
            { program.console with client := (program.console.client.advance now wakeup).engine }
          events := program.events ++ (program.console.client.advance now wakeup).trace.outputs }
        trace := (program.console.client.advance now wakeup).trace } := rfl

end Moves

/-- A console that exits stops its client. -/
theorem follow_path {client : Client} {turn : Turn} (kept : Engine.Kept client)
    (path : Engine.Path Session.protocol client turn.trace turn.console.client) :
    Engine.Path Session.protocol client (program.follow turn).trace
      (program.follow turn).program.console.client := by
  unfold follow
  split
  · exact path.append (.single (Engine.stop_act (path.kept kept) "client exiting"))
  · exact path
  · exact path

/-- Every move is a path of acts. -/
theorem step_path (kept : Engine.Kept program.console.client) (move : Move) :
    Engine.Path Session.protocol program.console.client (program.step move).trace
      (program.step move).program.console.client := by
  unfold step
  split
  · cases move with
    | typed line =>
      rw [move_typed]
      exact follow_path kept (Console.onInput_path kept line)
    | look factor now =>
      rw [move_look]
      exact follow_path kept (Console.redialIfDue_path kept factor now)
    | advance now wakeup =>
      have act : Engine.Act Session.protocol program.console.client
          (program.console.client.advance now wakeup).trace
          (program.console.client.advance now wakeup).engine :=
        Engine.iterate_act Session.protocol_reliable kept now wakeup
      rw [move_advance]
      exact .single act
    | takeUp factor now =>
      cases queue : program.events with
      | nil =>
        rw [move_takeUp_nil queue]
        exact .nil
      | cons event later =>
        rw [move_takeUp_cons queue]
        exact follow_path kept (Console.onEvent_path kept event factor now)
  · exact .nil

theorem run_path (kept : Engine.Kept program.console.client) (history : List Move) :
    Engine.Path Session.protocol program.console.client (program.trace history)
      (program.run history).console.client := by
  induction history generalizing program with
  | nil => exact .nil
  | cons move later ih =>
    have first := step_path kept move
    exact first.append (ih (first.kept kept))

end Program

end Blackjack
