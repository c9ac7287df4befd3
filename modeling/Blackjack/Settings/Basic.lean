import Blackjack.CommandLine
import Blackjack.Text.Blank

/-!
# Settings

What the user can configure, in three sections, with the values that hold where nothing is
configured. `Settings.fault?` finds the first value that the client cannot run with; the values of
the command line replace those of the file one by one.
-/

namespace Blackjack

/-- The endpoint of the server, and how the connection is driven. -/
structure NetworkSettings where
  serverAddress : String := "127.0.0.1"
  serverPort : UInt16 := 10000
  /-- The longest wait of the loop, in milliseconds. -/
  tickIntervalMs : UInt64 := 100
  /-- The bytes asked for in one read. -/
  readBufferSize : UInt64 := 512
  /-- The wait before the first redial, in milliseconds. -/
  reconnectCheckMs : UInt64 := 2000
  deriving DecidableEq, Repr

/-- The limits of a session, with its times in milliseconds. -/
structure SessionSettings where
  ackTimeoutMs : UInt64 := 5000
  maxRetries : UInt32 := 3
  livenessWindowMs : UInt64 := 10000
  maxReconnectAttempts : UInt32 := 5
  maxInvalidMessages : UInt32 := 3
  deriving DecidableEq, Repr

/-- What is logged. -/
structure DebugSettings where
  logLevel : String := "info"
  deriving DecidableEq, Repr

/-- All that can be configured. -/
structure Settings where
  network : NetworkSettings := {}
  session : SessionSettings := {}
  debug : DebugSettings := {}
  deriving DecidableEq, Repr

/-- The values that a client cannot run with. -/
inductive SettingsFault where
  | emptyAddress
  | zeroPort
  | zeroTick
  | zeroBuffer
  | zeroAckTimeout
  | shortLiveness
  deriving DecidableEq, Repr

namespace SettingsFault

/-- The field that holds the value, with its section. -/
def field : SettingsFault → String
  | .emptyAddress => "network.server_address"
  | .zeroPort => "network.server_port"
  | .zeroTick => "network.tick_interval_ms"
  | .zeroBuffer => "network.read_buffer_size"
  | .zeroAckTimeout => "session.ack_timeout_ms"
  | .shortLiveness => "session.liveness_window_ms"

/-- What is wrong with the value. -/
def reason : SettingsFault → String
  | .emptyAddress => "must not be empty"
  | .zeroPort => "must be in 1..=65535"
  | .zeroTick | .zeroBuffer | .zeroAckTimeout => "must be positive"
  | .shortLiveness => "must be longer than network.tick_interval_ms"

/-- The wording of a fault. -/
def message (fault : SettingsFault) : String :=
  "invalid config value for `" ++ fault.field ++ "`: " ++ fault.reason

end SettingsFault

namespace Settings

/-- The first value that the client cannot run with. An address of white space is no address. -/
def fault? (settings : Settings) : Option SettingsFault :=
  if Text.trim settings.network.serverAddress.toList = [] then some .emptyAddress
  else if settings.network.serverPort = 0 then some .zeroPort
  else if settings.network.tickIntervalMs = 0 then some .zeroTick
  else if settings.network.readBufferSize = 0 then some .zeroBuffer
  else if settings.session.ackTimeoutMs = 0 then some .zeroAckTimeout
  else if settings.session.livenessWindowMs ≤ settings.network.tickIntervalMs then
    some .shortLiveness
  else none

/-- The settings with the values that the command line gives. -/
def override (settings : Settings) (arguments : Arguments) : Settings :=
  { settings with
    network := { settings.network with
      serverAddress := arguments.server.getD settings.network.serverAddress
      serverPort := arguments.port.getD settings.network.serverPort }
    debug := { logLevel := arguments.logLevel.getD settings.debug.logLevel } }

end Settings

end Blackjack
