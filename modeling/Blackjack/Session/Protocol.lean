import Blackjack.Session.Step
import Blackjack.Transport.Protocol

/-!
# The session as a protocol

The session's operations are the callbacks that the loop of a connection drives.
-/

namespace Blackjack.Session

/-- The protocol whose state is a session. -/
def protocol : Protocol Session Request SessionEvent where
  connecting := Session.connecting
  line := Session.line
  request := Session.request
  tick := Session.tick
  stopped := Session.stopped

end Blackjack.Session
