/-!
# Why a connection ended

A connection is lost when the peer closes it or when the socket fails; it is closed on purpose when
the caller or the protocol asks for it. Only a loss is a fault.
-/

namespace Blackjack

/-- Why the loop of a connection ended. -/
inductive StopCause where
  /-- The caller asked for the stop. -/
  | requested (reason : String)
  /-- The protocol asked for the stop. -/
  | protocol (reason : String)
  /-- The peer closed the connection. -/
  | peerClosed
  /-- Connecting, reading or writing failed. -/
  | fault (reason : String)
  deriving DecidableEq, Repr

namespace StopCause

/-- The reason in words. -/
def reason : StopCause → String
  | .requested reason | .protocol reason | .fault reason => reason
  | .peerClosed => "peer closed"

/-- Whether the connection was lost rather than closed on purpose. -/
def isFault : StopCause → Bool
  | .peerClosed | .fault _ => true
  | .requested _ | .protocol _ => false

end StopCause

end Blackjack
