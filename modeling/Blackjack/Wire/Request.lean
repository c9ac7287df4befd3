import Blackjack.Wire.Frame

/-!
# Requests

A request is an outgoing command whose line is already written. `Request.make` is the only way to
build one from a command and its arguments, so its line is well framed and names its command.
-/

namespace Blackjack

/-- A command to send: its padded token, its delimited line, and whether the peer must answer it. -/
structure Request where
  command : String
  frame : String
  requiresAck : Bool
  deriving DecidableEq, Repr

/-- The request of a command, unless the command or an argument cannot be framed. -/
def Request.make (command : String) (args : List String) (requiresAck : Bool) :
    Except FrameError Request :=
  (encode command args).map fun frame => ⟨padCommand command, frame, requiresAck⟩

end Blackjack
