import Blackjack.Backoff
import Blackjack.Settings.Basic
import Blackjack.Transport.Config

/-!
# From settings to policies

Each section gives the values of the running parts; what cannot be configured keeps its default.
-/

namespace Blackjack

/-- How the connection is driven. -/
def NetworkSettings.transport (settings : NetworkSettings) : TransportConfig :=
  { tickInterval := Duration.ofMillis settings.tickIntervalMs.toNat
    readBufferSize := settings.readBufferSize.toNat }

/-- How the redials are paced. -/
def NetworkSettings.backoff (settings : NetworkSettings) : BackoffPolicy :=
  { initialDelay := Duration.ofMillis settings.reconnectCheckMs.toNat }

/-- The limits of the session. -/
def SessionSettings.policy (settings : SessionSettings) : SessionPolicy where
  ackTimeout := Duration.ofMillis settings.ackTimeoutMs.toNat
  maxRetries := settings.maxRetries.toNat
  livenessWindow := Duration.ofMillis settings.livenessWindowMs.toNat
  maxReconnectAttempts := settings.maxReconnectAttempts.toNat
  maxInvalidLines := settings.maxInvalidMessages.toNat

/-- The pace of the redials, with one more than the session tolerates. -/
def Settings.backoff (settings : Settings) : BackoffPolicy :=
  settings.network.backoff.boundedBy settings.session.policy

end Blackjack
