import Blackjack.Time
import Blackjack.Wire.LineBuffer

/-!
# Transport configuration

How the loop of a connection is driven, and the options of its socket.
-/

namespace Blackjack

/-- The options of a connected socket. -/
structure SocketOptions where
  /-- Small frames are sent at once. -/
  noDelay : Bool := true
  keepalive : Bool := true
  /-- The idle time before the first probe. -/
  keepaliveIdle : Duration := Duration.ofSecs 30
  keepaliveInterval : Duration := Duration.ofSecs 5
  /-- The unanswered probes after which the connection is dead. -/
  keepaliveRetries : Nat := 3
  deriving DecidableEq, Repr

/-- How a connection is driven. -/
structure TransportConfig where
  /-- The longest wait; the protocol is ticked at least this often. -/
  tickInterval : Duration := Duration.ofMillis 100
  /-- The bytes asked for in one read. -/
  readBufferSize : Nat := 512
  /-- The longest line that may wait for its end; zero is no limit. -/
  maxLineLength : Nat := LineBuffer.defaultLimit
  socket : SocketOptions := {}
  deriving DecidableEq, Repr

/-- The bytes that one read gives at most; a read asks for one at least. -/
def TransportConfig.readLimit (config : TransportConfig) : Nat := max 1 config.readBufferSize

end Blackjack
