import Blackjack.Proofs.Session.Recount
import Blackjack.Proofs.Transport.Image
import Blackjack.Session.Protocol

/-!
# The number of writes to the watch

A session counts the writes to its watch for its subscribers, and never looks at the count itself:
each operation does the same, and asks for the same, however often the watch was written before.
-/

namespace Blackjack.Session

/-- The session whose watch was written `more` times more. -/
def rewritten (more : Nat) (session : Session) : Session :=
  { session with watch := { session.watch with writes := session.watch.writes + more } }

section Rewritten

variable (more : Nat) (session : Session)

/-- More writes to the watch, and the same invalid lines. -/
def Recount.moreWrites : Recount where
  lines := id
  writes := (· + more)
  lines_zero := rfl
  writes_succ := fun count => Nat.add_right_comm count 1 more

theorem rewritten_line (text : String) (now : Instant) :
    (session.rewritten more).line text now = (session.line text now).map (rewritten more) id := by
  unfold line
  cases Frame.decode text with
  | error failure =>
    unfold invalidLine
    dsimp only [rewritten]
    split <;> rfl
  | ok frame => exact recounted_validLine (.moreWrites more) session frame now

/-- No operation looks at the number of writes. -/
theorem protocol_matches : protocol.Matches (rewritten more) protocol where
  connecting := recounted_connecting (.moreWrites more)
  line := rewritten_line more
  request := recounted_request (.moreWrites more)
  tick := recounted_tick (.moreWrites more)
  stopped := recounted_stopped (.moreWrites more)

end Rewritten

end Blackjack.Session
