import Blackjack.Proofs.Ron.Writing
import Blackjack.Proofs.Settings.Form
import Blackjack.Proofs.Settings.Folder
import Blackjack.Proofs.Text.Utf8
import Blackjack.Settings.Store

/-!
# Settings read back

Every written section holds all of the section, and the written document holds all of the settings
(`form_holds`), so `ofDocument?` undoes `document` for all settings, whether a client can run with
them or not. What a save writes is therefore what a load finds.
-/

namespace Blackjack.Settings

open Ron

section Document

/-- What a written network section gives to its fields. -/
def networkEntries (s : NetworkSettings) : List NetworkField :=
  [.serverAddress s.serverAddress, .serverPort (.natural s.serverPort.toNat),
    .tickIntervalMs (.natural s.tickIntervalMs.toNat),
    .readBufferSize (.natural s.readBufferSize.toNat),
    .reconnectCheckMs (.natural s.reconnectCheckMs.toNat)]

/-- What a written session section gives to its fields. -/
def sessionEntries (s : SessionSettings) : List SessionField :=
  [.ackTimeoutMs (.natural s.ackTimeoutMs.toNat), .maxRetries (.natural s.maxRetries.toNat),
    .livenessWindowMs (.natural s.livenessWindowMs.toNat),
    .maxReconnectAttempts (.natural s.maxReconnectAttempts.toNat),
    .maxInvalidMessages (.natural s.maxInvalidMessages.toNat)]

theorem networkForm_named : networkForm.Named := by
  intro field
  cases field <;> simp only [networkForm, plainForm, NetworkField.name] <;> exact .of_letters rfl

theorem sessionForm_named : sessionForm.Named := by
  intro field
  cases field <;> simp only [sessionForm, plainForm, SessionField.name] <;> exact .of_letters rfl

theorem debugForm_named : debugForm.Named := by
  intro field
  cases field
  simp only [debugForm, plainForm, DebugField.name]
  exact .of_letters rfl

theorem form_named : form.Named := by
  intro field
  cases field <;> simp only [form, Section.name] <;> exact .of_letters rfl

variable (depth step : Nat)

theorem networkForm_holds (s : NetworkSettings) :
    networkForm.Holds {} s (depth + 2) ((networkEntries s).map .known)
      (writeRecord step (networkFields s)) := by
  refine Form.holds_writeRecord networkForm_named ?written ⟨?once, ?fits⟩ ?filled step
  case written =>
    exact .cons ⟨rfl, writesText_quote _⟩ <| .cons ⟨rfl, writesInteger_toDigits _⟩ <|
      .cons ⟨rfl, writesInteger_toDigits _⟩ <| .cons ⟨rfl, writesInteger_toDigits _⟩ <|
      .cons ⟨rfl, writesInteger_toDigits _⟩ .nil
  case once => simp [networkEntries, networkForm, plainForm, NetworkField.name]
  case fits =>
    simp only [networkEntries, List.forall_mem_cons, List.not_mem_nil, IsEmpty.forall_iff,
      implies_true, and_true]
    exact ⟨trivial, Integer.fitsIn_natural s.serverPort.toNat_lt,
      Integer.fitsIn_natural s.tickIntervalMs.toNat_lt,
      Integer.fitsIn_natural s.readBufferSize.toNat_lt,
      Integer.fitsIn_natural s.reconnectCheckMs.toNat_lt⟩
  case filled =>
    change NetworkSettings.mk s.serverAddress (.ofNat s.serverPort.toNat)
      (.ofNat s.tickIntervalMs.toNat) (.ofNat s.readBufferSize.toNat)
      (.ofNat s.reconnectCheckMs.toNat) = s
    simp only [UInt16.ofNat_toNat, UInt64.ofNat_toNat]

theorem sessionForm_holds (s : SessionSettings) :
    sessionForm.Holds {} s (depth + 2) ((sessionEntries s).map .known)
      (writeRecord step (sessionFields s)) := by
  refine Form.holds_writeRecord sessionForm_named ?written ⟨?once, ?fits⟩ ?filled step
  case written =>
    exact .cons ⟨rfl, writesInteger_toDigits _⟩ <| .cons ⟨rfl, writesInteger_toDigits _⟩ <|
      .cons ⟨rfl, writesInteger_toDigits _⟩ <| .cons ⟨rfl, writesInteger_toDigits _⟩ <|
      .cons ⟨rfl, writesInteger_toDigits _⟩ .nil
  case once => simp [sessionEntries, sessionForm, plainForm, SessionField.name]
  case fits =>
    simp only [sessionEntries, List.forall_mem_cons, List.not_mem_nil, IsEmpty.forall_iff,
      implies_true, and_true]
    exact ⟨Integer.fitsIn_natural s.ackTimeoutMs.toNat_lt,
      Integer.fitsIn_natural s.maxRetries.toNat_lt,
      Integer.fitsIn_natural s.livenessWindowMs.toNat_lt,
      Integer.fitsIn_natural s.maxReconnectAttempts.toNat_lt,
      Integer.fitsIn_natural s.maxInvalidMessages.toNat_lt⟩
  case filled =>
    change SessionSettings.mk (.ofNat s.ackTimeoutMs.toNat) (.ofNat s.maxRetries.toNat)
      (.ofNat s.livenessWindowMs.toNat) (.ofNat s.maxReconnectAttempts.toNat)
      (.ofNat s.maxInvalidMessages.toNat) = s
    simp only [UInt32.ofNat_toNat, UInt64.ofNat_toNat]

theorem debugForm_holds (s : DebugSettings) :
    debugForm.Holds {} s (depth + 2) ([.logLevel s.logLevel].map .known)
      (writeRecord step (debugFields s)) := by
  refine Form.holds_writeRecord debugForm_named ?written ⟨?once, ?fits⟩ ?filled step
  case written => exact .cons ⟨rfl, writesText_quote _⟩ .nil
  case once => simp
  case fits => exact List.forall_mem_singleton.mpr trivial
  case filled => rfl

/-- The document of some settings has all of its sections. -/
theorem form_holds (settings : Settings) :
    form.Holds {} settings depthLimit
      ([.network ((networkEntries settings.network).map .known),
        .session ((sessionEntries settings.session).map .known),
        .debug ([.logLevel settings.debug.logLevel].map .known)].map .known)
      (writeRecord 0
        [("network", writeRecord 1 (networkFields settings.network)),
          ("session", writeRecord 1 (sessionFields settings.session)),
          ("debug", writeRecord 1 (debugFields settings.debug))]) := by
  have network := networkForm_holds 124 1 settings.network
  have session := sessionForm_holds 124 1 settings.session
  have debug := debugForm_holds 124 1 settings.debug
  refine Form.holds_writeRecord form_named ?written ⟨?once, ?fits⟩ ?filled 0
  case written =>
    exact .cons ⟨rfl, network.written⟩ <| .cons ⟨rfl, session.written⟩ <|
      .cons ⟨rfl, debug.written⟩ .nil
  case once => simp [form, Section.name]
  case fits =>
    simp only [List.forall_mem_cons, List.not_mem_nil, IsEmpty.forall_iff, implies_true, and_true]
    exact ⟨network.proper, session.proper, debug.proper⟩
  case filled =>
    change Settings.mk (networkForm.fill {} _) (sessionForm.fill {} _) (debugForm.fill {} _) = _
    rw [network.filled, session.filled, debug.filled]

/-- The document of some settings is read as these settings. -/
theorem ofDocument?_document (settings : Settings) :
    ofDocument? settings.document = some settings := by
  rw [ofDocument?, document, String.toList_ofList]
  exact form_describes.readDocument?_of_holds (form_holds settings)

end Document

section Store

variable {settings : Settings} {folder after : Folder} {directory : List String}

/-- What a save leaves in its directory is the document of the settings. -/
theorem readText_of_save (saved : settings.save folder directory = (after, .ok ())) :
    after.holds (filePath directory) ∧
      readText after (filePath directory) = .ok settings.document := by
  unfold save at saved
  split at saved
  · cases saved
  next ensured _ =>
  cases written : ensured.write (filePath directory) (Text.encode settings.document.toList) with
  | error e => simp [written] at saved
  | ok last =>
    obtain rfl : last = after := by simpa [written] using saved
    refine ⟨Folder.holds_of_write written, ?_⟩
    rw [readText, Folder.read_of_write written]
    simp [Text.decode?_encode]

/-- Settings that were saved are read as they were, unless a client cannot run with them. -/
theorem read_of_save (saved : settings.save folder directory = (after, .ok ())) :
    read after directory =
      match settings.fault? with
      | none => .ok settings
      | some fault => .error (.invalid fault) := by
  rw [read, (readText_of_save saved).2]
  simp only [parse, ofDocument?_document]
  cases settings.fault? <;> rfl

/-- Whatever the settings are, once they were saved in a directory they lie there as their document,
and they are what loading that directory gives, or else it gives the first fault that a client has
to find with them; reloading finds no change, or the same fault. None of this touches the file. -/
theorem load_of_saved (saved : settings.save folder directory = (after, .ok ())) :
    readText after (filePath directory) = .ok settings.document ∧
    loadOrCreate after directory = (after,
      match settings.fault? with
      | none => .ok settings
      | some fault => .error (.invalid fault)) ∧
    settings.reload after directory =
      match settings.fault? with
      | none => .ok none
      | some fault => .error (.invalid fault) := by
  obtain ⟨holds, text⟩ := readText_of_save saved
  have found := read_of_save saved
  refine ⟨text, ?_, ?_⟩
  · rw [loadOrCreate, if_pos holds, found]
  · rw [reload, found]
    cases settings.fault? <;> simp [Except.map]

/-- Quotes, a backslash, controls, a combining accent, a mark that has no shape and a character
beyond the first plane, in a directory that is not there yet. -/
theorem load_of_saved_escaped :
    let settings : Settings := {
      network := { serverAddress := "\"bj\"\\\x00\x7f e\u0301\u200b😀", serverPort := 65535 }
      debug := { logLevel := "'\n" } }
    let directory := ["conf", "bj-client"]
    let after := (settings.save {} directory).1
    settings.save {} directory = (after, .ok ()) ∧
      loadOrCreate after directory = (after, .ok settings) ∧
      settings.reload after directory = .ok none := by
  intro settings directory after
  have writable : (settings.save {} directory).2.isOk = true := by decide
  have saved : settings.save {} directory = (after, .ok ()) := by
    refine Prod.ext rfl ?_
    cases answer : (settings.save {} directory).2 with
    | ok => rfl
    | error e => simp [answer, Except.isOk, Except.toBool] at writable
  have sound : settings.fault? = none := by decide
  obtain ⟨-, loaded, reloaded⟩ := load_of_saved saved
  rw [sound] at loaded reloaded
  exact ⟨saved, loaded, reloaded⟩

end Store

end Blackjack.Settings
