import Blackjack.Ron.Record
import Blackjack.Settings.Basic

/-!
# The document of the settings

Settings are kept as a document with one record per section. Every field may be missing, in which
case it has its default value, and every field is written.
-/

namespace Blackjack

open Ron

namespace Settings

section

variable {α : Type}

/-- Reads the text of a field. -/
def textField (set : α → String → α) : FieldReader α := fun _ _ record text =>
  (string? text).map fun (value, rest) => (set record (String.ofList value), rest)

/-- Reads the number of a field, below `2 ^ bits`. -/
def numberField (bits : Nat) (set : α → Nat → α) : FieldReader α := fun _ _ record text =>
  (unsigned? bits text).map fun (value, rest) => (set record value, rest)

/-- Reads the record of a field, whose own fields may be missing. -/
def recordField {β : Type} (schema : Schema β) (missing : β) (set : α → β → α) : FieldReader α :=
  fun header depth record text =>
    (readRecord? schema header depth missing text).map fun (value, rest) => (set record value, rest)

end

/-- The fields of the network section. -/
def networkSchema : Schema NetworkSettings where
  name := "NetworkConfig"
  fields := [
    ("server_address", textField fun s v => { s with serverAddress := v }),
    ("server_port", numberField 16 fun s v => { s with serverPort := UInt16.ofNat v }),
    ("tick_interval_ms", numberField 64 fun s v => { s with tickIntervalMs := UInt64.ofNat v }),
    ("read_buffer_size", numberField 64 fun s v => { s with readBufferSize := UInt64.ofNat v }),
    ("reconnect_check_ms", numberField 64 fun s v => { s with reconnectCheckMs := UInt64.ofNat v })]

/-- The fields of the session section. -/
def sessionSchema : Schema SessionSettings where
  name := "SessionConfig"
  fields := [
    ("ack_timeout_ms", numberField 64 fun s v => { s with ackTimeoutMs := UInt64.ofNat v }),
    ("max_retries", numberField 32 fun s v => { s with maxRetries := UInt32.ofNat v }),
    ("liveness_window_ms", numberField 64 fun s v => { s with livenessWindowMs := UInt64.ofNat v }),
    ("max_reconnect_attempts",
      numberField 32 fun s v => { s with maxReconnectAttempts := UInt32.ofNat v }),
    ("max_invalid_messages",
      numberField 32 fun s v => { s with maxInvalidMessages := UInt32.ofNat v })]

/-- The fields of the debug section. -/
def debugSchema : Schema DebugSettings where
  name := "DebugConfig"
  fields := [("log_level", textField fun s v => { s with logLevel := v })]

/-- The sections. -/
def schema : Schema Settings where
  name := "Config"
  fields := [
    ("network", recordField networkSchema {} fun s v => { s with network := v }),
    ("session", recordField sessionSchema {} fun s v => { s with session := v }),
    ("debug", recordField debugSchema {} fun s v => { s with debug := v })]

/-- The settings of a document. -/
def ofDocument? (text : String) : Option Settings :=
  readDocument? schema {} text.toList

/-- A text as the value of a field. -/
def textValue (value : String) : List Char := quote value.toList

/-- A number as the value of a field. -/
def numberValue (value : Nat) : List Char := Nat.toDigits 10 value

/-- The network section as a record. -/
def networkFields (s : NetworkSettings) : List (String × List Char) :=
  [("server_address", textValue s.serverAddress),
    ("server_port", numberValue s.serverPort.toNat),
    ("tick_interval_ms", numberValue s.tickIntervalMs.toNat),
    ("read_buffer_size", numberValue s.readBufferSize.toNat),
    ("reconnect_check_ms", numberValue s.reconnectCheckMs.toNat)]

/-- The session section as a record. -/
def sessionFields (s : SessionSettings) : List (String × List Char) :=
  [("ack_timeout_ms", numberValue s.ackTimeoutMs.toNat),
    ("max_retries", numberValue s.maxRetries.toNat),
    ("liveness_window_ms", numberValue s.livenessWindowMs.toNat),
    ("max_reconnect_attempts", numberValue s.maxReconnectAttempts.toNat),
    ("max_invalid_messages", numberValue s.maxInvalidMessages.toNat)]

/-- The debug section as a record. -/
def debugFields (s : DebugSettings) : List (String × List Char) :=
  [("log_level", textValue s.logLevel)]

/-- The document of the settings. -/
def document (settings : Settings) : String :=
  String.ofList <| writeRecord 0
    [("network", writeRecord 1 (networkFields settings.network)),
      ("session", writeRecord 1 (sessionFields settings.session)),
      ("debug", writeRecord 1 (debugFields settings.debug))]

end Settings

end Blackjack
