import Blackjack.Console.Basic

/-!
# The running program

While the program runs, three things happen next to each other: the player types, the console takes
up the events of the session in order and dials again when that is due, and the loop of the
connection goes on. A `Move` is one of them, so a history of moves is one way in which they can
follow one another. The events that the moves report wait in a queue until the console takes them
up. Once the console has ended, nothing moves any more.
-/

namespace Blackjack

/-- The console, and the events that it has not taken up yet. -/
structure Program where
  console : Console
  /-- What the session reported and the console has not seen, oldest first. -/
  events : List SessionEvent := []
  /-- Whether the program goes on. -/
  flow : Flow := .proceed
  deriving DecidableEq, Repr

namespace Program

/-- What can happen while the program runs. -/
inductive Move where
  /-- The player typed a line. -/
  | typed (line : String)
  /-- The console takes up the oldest event, if there is one. -/
  | takeUp (factor : Binary64) (now : Instant)
  /-- The console looks whether a redial is due. -/
  | look (factor : Binary64) (now : Instant)
  /-- The loop of the connection goes through one iteration. -/
  | advance (now : Instant) (wakeup : Wakeup)

/-- What a move did. -/
structure Moved where
  program : Program
  /-- The printed texts, each on a line of its own. -/
  printed : List String := []
  trace : Trace Request SessionEvent := []
  deriving DecidableEq, Repr

/-- Goes on after a step of the console, or closes the connection for good. -/
def follow (program : Program) (turn : Turn) : Moved :=
  match turn.flow with
  | .exit _ =>
    let call := turn.console.client.disconnect "client exiting"
    { program :=
        { console := { turn.console with client := call.engine }
          events := program.events ++ turn.trace.outputs ++ call.trace.outputs
          flow := turn.flow }
      printed := turn.printed
      trace := turn.trace ++ call.trace }
  | .proceed | .abort =>
    { program :=
        { console := turn.console
          events := program.events ++ turn.trace.outputs
          flow := turn.flow }
      printed := turn.printed
      trace := turn.trace }

/-- One move of a program that goes on. -/
def move (program : Program) : Move → Moved
  | .typed line => program.follow (program.console.onInput line)
  | .takeUp factor now =>
    match program.events with
    | [] => { program }
    | event :: later =>
      follow { program with events := later } (program.console.onEvent event factor now)
  | .look factor now => program.follow (program.console.redialIfDue factor now)
  | .advance now wakeup =>
    let call := program.console.client.advance now wakeup
    { program := { program with
        console := { program.console with client := call.engine }
        events := program.events ++ call.trace.outputs }
      trace := call.trace }

/-- One move. -/
def step (program : Program) (move : Move) : Moved :=
  if program.flow = .proceed then program.move move else { program }

/-- The program after a history of moves. -/
def run (program : Program) (history : List Move) : Program :=
  history.foldl (fun program move => (program.step move).program) program

/-- What happened in a history of moves. -/
def trace (program : Program) : List Move → Trace Request SessionEvent
  | [] => []
  | move :: later => (program.step move).trace ++ (program.step move).program.trace later

@[simp] theorem run_nil (program : Program) : program.run [] = program := rfl

theorem run_append (program : Program) (before after : List Move) :
    program.run (before ++ after) = (program.run before).run after :=
  List.foldl_append

theorem trace_append (program : Program) (before after : List Move) :
    program.trace (before ++ after) =
      program.trace before ++ (program.run before).trace after := by
  induction before generalizing program with
  | nil => rfl
  | cons move later ih => simp [trace, ih, run]

end Program

end Blackjack
