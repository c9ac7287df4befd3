import Blackjack.Proofs.Ron.Filling
import Blackjack.Settings.Document

/-!
# Forms of the sections

The fields of each section with what a document may give them, as forms of records, and the sections
as the fields of a form again. Each reader of the schema does what its form says, so a document is
read by its fields alone (`ofDocument?_eq_some_iff`): those that it has replace the default values.
-/

namespace Blackjack.Settings

open Ron

section Forms

/-- What a document gives to a field: a text, or a number to a field of a width. -/
inductive Payload where
  | text (value : String)
  | number (bits : Nat) (value : Integer)

/-- How a value is written. -/
def Payload.Writes : Payload → List Char → Prop
  | .text value => WritesText value.toList
  | .number _ value => WritesInteger value

/-- Every text fits, and a number in the range of its field. -/
def Payload.Fits : Payload → Prop
  | .text _ => True
  | .number bits value => value.FitsIn bits

/-- A kind of record whose fields are texts and numbers. -/
def plainForm {ι α : Type} (title : String) (name : ι → String) (payload : ι → Payload)
    (set : α → ι → α) : Form ι α where
  title := title
  name := name
  writes _ field text := (payload field).Writes text
  fits field := (payload field).Fits
  set := set

/-- The fields of the network section. -/
inductive NetworkField where
  | serverAddress (value : String)
  | serverPort (value : Integer)
  | tickIntervalMs (value : Integer)
  | readBufferSize (value : Integer)
  | reconnectCheckMs (value : Integer)

def NetworkField.name : NetworkField → String
  | .serverAddress _ => "server_address"
  | .serverPort _ => "server_port"
  | .tickIntervalMs _ => "tick_interval_ms"
  | .readBufferSize _ => "read_buffer_size"
  | .reconnectCheckMs _ => "reconnect_check_ms"

def NetworkField.payload : NetworkField → Payload
  | .serverAddress value => .text value
  | .serverPort value => .number 16 value
  | .tickIntervalMs value | .readBufferSize value | .reconnectCheckMs value => .number 64 value

def NetworkField.set (s : NetworkSettings) : NetworkField → NetworkSettings
  | .serverAddress value => { s with serverAddress := value }
  | .serverPort value => { s with serverPort := UInt16.ofNat value.value.toNat }
  | .tickIntervalMs value => { s with tickIntervalMs := UInt64.ofNat value.value.toNat }
  | .readBufferSize value => { s with readBufferSize := UInt64.ofNat value.value.toNat }
  | .reconnectCheckMs value => { s with reconnectCheckMs := UInt64.ofNat value.value.toNat }

def networkForm : Form NetworkField NetworkSettings :=
  plainForm "NetworkConfig" NetworkField.name NetworkField.payload NetworkField.set

/-- The fields of the session section. -/
inductive SessionField where
  | ackTimeoutMs (value : Integer)
  | maxRetries (value : Integer)
  | livenessWindowMs (value : Integer)
  | maxReconnectAttempts (value : Integer)
  | maxInvalidMessages (value : Integer)

def SessionField.name : SessionField → String
  | .ackTimeoutMs _ => "ack_timeout_ms"
  | .maxRetries _ => "max_retries"
  | .livenessWindowMs _ => "liveness_window_ms"
  | .maxReconnectAttempts _ => "max_reconnect_attempts"
  | .maxInvalidMessages _ => "max_invalid_messages"

def SessionField.payload : SessionField → Payload
  | .ackTimeoutMs value | .livenessWindowMs value => .number 64 value
  | .maxRetries value | .maxReconnectAttempts value | .maxInvalidMessages value => .number 32 value

def SessionField.set (s : SessionSettings) : SessionField → SessionSettings
  | .ackTimeoutMs value => { s with ackTimeoutMs := UInt64.ofNat value.value.toNat }
  | .maxRetries value => { s with maxRetries := UInt32.ofNat value.value.toNat }
  | .livenessWindowMs value => { s with livenessWindowMs := UInt64.ofNat value.value.toNat }
  | .maxReconnectAttempts value => { s with maxReconnectAttempts := UInt32.ofNat value.value.toNat }
  | .maxInvalidMessages value => { s with maxInvalidMessages := UInt32.ofNat value.value.toNat }

def sessionForm : Form SessionField SessionSettings :=
  plainForm "SessionConfig" SessionField.name SessionField.payload SessionField.set

/-- The fields of the debug section. -/
inductive DebugField where
  | logLevel (value : String)

def DebugField.name : DebugField → String
  | .logLevel _ => "log_level"

def DebugField.payload : DebugField → Payload
  | .logLevel value => .text value

def DebugField.set (s : DebugSettings) : DebugField → DebugSettings
  | .logLevel value => { s with logLevel := value }

def debugForm : Form DebugField DebugSettings :=
  plainForm "DebugConfig" DebugField.name DebugField.payload DebugField.set

/-- The sections with what stands in them. -/
inductive Section where
  | network (items : List (Item NetworkField))
  | session (items : List (Item SessionField))
  | debug (items : List (Item DebugField))

def Section.name : Section → String
  | .network _ => "network"
  | .session _ => "session"
  | .debug _ => "debug"

/-- A section is a record by itself. -/
def Section.Writes (depth : Nat) : Section → List Char → Prop
  | .network items => networkForm.WritesRecord depth items
  | .session items => sessionForm.WritesRecord depth items
  | .debug items => debugForm.WritesRecord depth items

def Section.Fits : Section → Prop
  | .network items => networkForm.Proper (knownFields items)
  | .session items => sessionForm.Proper (knownFields items)
  | .debug items => debugForm.Proper (knownFields items)

/-- In a section, too, the fields that are missing have their default values. -/
def Section.set (s : Settings) : Section → Settings
  | .network items => { s with network := networkForm.fill {} (knownFields items) }
  | .session items => { s with session := sessionForm.fill {} (knownFields items) }
  | .debug items => { s with debug := debugForm.fill {} (knownFields items) }

/-- A whole document. -/
def form : Form Section Settings where
  title := "Config"
  name := Section.name
  writes := Section.Writes
  fits := Section.Fits
  set := Section.set

end Forms

section Readers

variable {ι α : Type} {depth : Nat} {text rest : List Char}

theorem Payload.starts (payload : Payload) (written : payload.Writes text) : Starts text := by
  cases payload with
  | text value => exact (Literal.text written).starts
  | number bits value =>
    obtain ⟨c, later, rfl, first⟩ := WritesInteger.exists_first written
    exact starts_of_first (.inr (.inl (isFloatChar_of_first first))) later

theorem textField_append {value : String} (written : (Payload.text value).Writes text)
    (set : α → String → α) (record : α) (rest : List Char) (result : α × List Char) :
    textField set {} depth record (text ++ rest) = some result ↔
      (Payload.text value).Fits ∧ result = (set record value, rest) := by
  have read : string? (text ++ rest) = some (value.toList, rest) :=
    WritesText.string?_append written rest
  simp [textField, read, Payload.Fits, @eq_comm _ result]

theorem numberField_append {bits : Nat} {value : Integer}
    (written : (Payload.number bits value).Writes text) (set : α → Nat → α) (record : α)
    (ends : EndsPart rest) (result : α × List Char) :
    numberField bits set {} depth record (text ++ rest) = some result ↔
      (Payload.number bits value).Fits ∧ result = (set record value.value.toNat, rest) := by
  have read :=
    WritesInteger.unsigned?_append written (any_isIdentifierRest ends.stops.endsName.apart.1) bits
  rw [numberField, Option.map_eq_some_iff]
  simp only [read, and_assoc, exists_and_left, exists_eq_left, @eq_comm _ result, Payload.Fits]

theorem recordField_append {β : Type} {inner : Form ι β} {schema : Schema β}
    (describes : inner.Describes schema) {items : List (Item ι)}
    (written : inner.WritesRecord depth items text) (missing : β) (set : α → β → α) (record : α)
    (rest : List Char) (result : α × List Char) :
    recordField schema missing set {} depth record (text ++ rest) = some result ↔
      inner.Proper (knownFields items) ∧
        result = (set record (inner.fill missing (knownFields items)), rest) := by
  have read := describes.readRecord?_append written missing rest
  rw [recordField, Option.map_eq_some_iff]
  simp only [read, and_assoc, exists_and_left, exists_eq_left, @eq_comm _ result]

theorem networkForm_describes : networkForm.Describes networkSchema where
  title := rfl
  starts := fun {_ field _} written => Payload.starts field.payload written
  reads field := by
    cases field with
    | serverAddress value =>
      exact ⟨_, rfl, fun record rest result written _ => textField_append written _ record rest result⟩
    | serverPort value | tickIntervalMs value | readBufferSize value | reconnectCheckMs value =>
      exact ⟨_, rfl, fun record rest result written ends =>
        numberField_append written _ record ends result⟩
  only := by
    have number : Integer := ⟨false, 0, none⟩
    simp only [networkSchema, List.map_cons, List.map_nil, List.forall_mem_cons, List.not_mem_nil,
      IsEmpty.forall_iff, implies_true, and_true]
    exact ⟨⟨.serverAddress "", rfl⟩, ⟨.serverPort number, rfl⟩, ⟨.tickIntervalMs number, rfl⟩,
      ⟨.readBufferSize number, rfl⟩, ⟨.reconnectCheckMs number, rfl⟩⟩

theorem sessionForm_describes : sessionForm.Describes sessionSchema where
  title := rfl
  starts := fun {_ field _} written => Payload.starts field.payload written
  reads field := by
    cases field <;> exact ⟨_, rfl, fun record rest result written ends =>
      numberField_append written _ record ends result⟩
  only := by
    have number : Integer := ⟨false, 0, none⟩
    simp only [sessionSchema, List.map_cons, List.map_nil, List.forall_mem_cons, List.not_mem_nil,
      IsEmpty.forall_iff, implies_true, and_true]
    exact ⟨⟨.ackTimeoutMs number, rfl⟩, ⟨.maxRetries number, rfl⟩, ⟨.livenessWindowMs number, rfl⟩,
      ⟨.maxReconnectAttempts number, rfl⟩, ⟨.maxInvalidMessages number, rfl⟩⟩

theorem debugForm_describes : debugForm.Describes debugSchema where
  title := rfl
  starts := fun {_ field _} written => Payload.starts field.payload written
  reads field := by
    cases field
    exact ⟨_, rfl, fun record rest result written _ => textField_append written _ record rest result⟩
  only := by
    simp only [debugSchema, List.map_cons, List.map_nil, List.forall_mem_cons, List.not_mem_nil,
      IsEmpty.forall_iff, implies_true, and_true]
    exact ⟨.logLevel "", rfl⟩

theorem form_describes : form.Describes schema where
  title := rfl
  starts := by
    intro depth field text written
    cases field with
    | network | session | debug => exact (Form.WritesRecord.starts written).1
  reads field := by
    cases field with
    | network items =>
      exact ⟨_, rfl, fun record rest result written _ =>
        recordField_append networkForm_describes written _ _ record rest result⟩
    | session items =>
      exact ⟨_, rfl, fun record rest result written _ =>
        recordField_append sessionForm_describes written _ _ record rest result⟩
    | debug items =>
      exact ⟨_, rfl, fun record rest result written _ =>
        recordField_append debugForm_describes written _ _ record rest result⟩
  only := by
    simp only [schema, List.map_cons, List.map_nil, List.forall_mem_cons, List.not_mem_nil,
      IsEmpty.forall_iff, implies_true, and_true]
    exact ⟨⟨.network [], rfl⟩, ⟨.session [], rfl⟩, ⟨.debug [], rfl⟩⟩

end Readers

/-- The settings that a document of proper fields holds. -/
theorem ofDocument?_eq_some_iff {items : List (Item Section)} {text : String}
    (written : form.WritesDocument items text.toList) (settings : Settings) :
    ofDocument? text = some settings ↔
      form.Proper (knownFields items) ∧ settings = form.fill {} (knownFields items) :=
  form_describes.readDocument?_iff written {} settings

end Blackjack.Settings
