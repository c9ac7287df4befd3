import Blackjack.Proofs.Program.Attendance
import Blackjack.Proofs.Settings.Loading
import Blackjack.Proofs.Text.Trim

/-!
# Starting with the settings at hand

Whatever lies in the directory, the program works with the settings that can be had from it, or with
the default ones, and with the values of the command line in their places. It starts exactly if they
are `Runnable`, and then the connection begins. A file that is there is not touched, and none is
made but the missing one (`startup`). The exception is a directory with a step `..` behind a missing
one: the file is looked for before the missing directory is made and written after that, so it takes
the place of a file that was there (`not_forall_file_kept`).
-/

namespace Blackjack

namespace Settings

variable {settings : Settings} {folder : Folder} {directory path place : List String}
  {entry : FolderEntry} {bytes : List UInt8}

/-- A client can run with the settings. -/
structure Runnable (settings : Settings) : Prop where
  address : ∃ c ∈ settings.network.serverAddress.toList, Text.isBlank c = false
  port : settings.network.serverPort ≠ 0
  tick : settings.network.tickIntervalMs ≠ 0
  buffer : settings.network.readBufferSize ≠ 0
  ackTimeout : settings.session.ackTimeoutMs ≠ 0
  liveness : settings.network.tickIntervalMs < settings.session.livenessWindowMs

theorem ite_some_eq_none_iff {α : Type} {p : Prop} [Decidable p] {a : α} {other : Option α} :
    (if p then some a else other) = none ↔ ¬p ∧ other = none := by
  split <;> simp [*]

theorem fault?_eq_none_iff : settings.fault? = none ↔ settings.Runnable := by
  have blank_iff : ¬Text.trim settings.network.serverAddress.toList = [] ↔
      ∃ c ∈ settings.network.serverAddress.toList, Text.isBlank c = false := by
    simp [Text.trim_eq_nil_iff]
  simp only [fault?, ite_some_eq_none_iff, blank_iff, UInt64.not_le]
  constructor
  · rintro ⟨address, port, tick, buffer, ackTimeout, liveness, -⟩
    exact ⟨address, port, tick, buffer, ackTimeout, liveness⟩
  · rintro ⟨address, port, tick, buffer, ackTimeout, liveness⟩
    exact ⟨address, port, tick, buffer, ackTimeout, liveness, trivial⟩

/-- The running parts get what they need: they tick, read and wait for answers, and tick more than
once before a silence counts. -/
theorem Runnable.policies (runnable : settings.Runnable) :
    0 < settings.network.transport.tickInterval ∧
    0 < settings.network.transport.readBufferSize ∧
    0 < settings.session.policy.ackTimeout ∧
    settings.network.transport.tickInterval < settings.session.policy.livenessWindow := by
  have positive {n : UInt64} (nonzero : n ≠ 0) : 0 < n.toNat :=
    Nat.pos_of_ne_zero fun zero => nonzero (UInt64.toNat_inj.mp zero)
  refine ⟨Nat.mul_pos (positive runnable.tick) (by decide), positive runnable.buffer,
    Nat.mul_pos (positive runnable.ackTimeout) (by decide), ?_⟩
  exact Nat.mul_lt_mul_of_pos_right (UInt64.lt_iff_toNat_lt.mp runnable.liveness) (by decide)

/-- The values of the command line stand in their places, and all others are as they were. -/
structure Overrides (arguments : Arguments) (loaded settings : Settings) : Prop where
  server : settings.network.serverAddress = arguments.server.getD loaded.network.serverAddress
  port : settings.network.serverPort = arguments.port.getD loaded.network.serverPort
  logLevel : settings.debug.logLevel = arguments.logLevel.getD loaded.debug.logLevel
  tick : settings.network.tickIntervalMs = loaded.network.tickIntervalMs
  buffer : settings.network.readBufferSize = loaded.network.readBufferSize
  reconnect : settings.network.reconnectCheckMs = loaded.network.reconnectCheckMs
  session : settings.session = loaded.session

theorem overrides_override (arguments : Arguments) (loaded : Settings) :
    Overrides arguments loaded (loaded.override arguments) :=
  ⟨rfl, rfl, rfl, rfl, rfl, rfl, rfl⟩

end Settings

namespace Program

variable {settings : Settings} {arguments : Arguments} {folder : Folder}
  {directory path place : List String} {entry : FolderEntry} {bytes : List UInt8}

section Loading

/-- Looking for the settings leaves the folder as loading them does. -/
theorem settings_folder (arguments : Arguments) (folder : Folder) (directory : List String) :
    (Program.settings arguments folder directory).1 =
      (Settings.loadOrCreate folder directory).1 := by
  unfold Program.settings
  generalize Settings.loadOrCreate folder directory = result
  obtain ⟨after, answer⟩ := result
  cases answer <;> rfl

theorem settings_of_holds (holds : folder.holds (Settings.filePath directory)) :
    (Program.settings arguments folder directory).1 = folder := by
  rw [settings_folder, Settings.loadOrCreate, if_pos holds]

theorem settings_of_missing (missing : folder.holds (Settings.filePath directory) = false) :
    (Program.settings arguments folder directory).1 =
      (Settings.save {} folder directory).1 := by
  rw [settings_folder, Settings.loadOrCreate, if_neg (by simp [missing])]
  generalize Settings.save {} folder directory = result
  obtain ⟨after, answer⟩ := result
  cases answer <;> rfl

/-- The values of the command line replace those of the settings in the directory, or of the default
ones where none can be had. -/
theorem overrides_settings (arguments : Arguments) (folder : Folder) (directory : List String) :
    match Settings.read folder directory with
    | .ok loaded =>
      Settings.Overrides arguments loaded (Program.settings arguments folder directory).2
    | .error _ =>
      Settings.Overrides arguments {} (Program.settings arguments folder directory).2 := by
  unfold Program.settings Settings.loadOrCreate
  cases holds : folder.holds (Settings.filePath directory) with
  | true =>
    rw [if_pos rfl]
    cases Settings.read folder directory <;> exact Settings.overrides_override arguments _
  | false =>
    obtain ⟨e, missing⟩ := Settings.read_of_missing holds
    rw [if_neg Bool.false_ne_true, missing]
    generalize Settings.save {} folder directory = result
    obtain ⟨after, answer⟩ := result
    cases answer <;> exact Settings.overrides_override arguments {}

/-- What could be found in the folder is found as it was, but for a file in the way of the new one,
and that takes a step `..`. -/
theorem find_settings (found : folder.find path = .ok (place, entry)) :
    let after := (Program.settings arguments folder directory).1
    let file := Settings.filePath directory
    after.find path = .ok (place, entry) ∨ ".." ∈ directory ∧ folder.holds file = false ∧
      (∃ old, entry = .file old) ∧
      after.find file = .ok (place, .file ({} : Settings).fileBytes) := by
  cases holds : folder.holds (Settings.filePath directory) with
  | true =>
    rw [settings_of_holds holds]
    exact .inl found
  | false =>
    rw [settings_of_missing holds]
    refine (Settings.find_of_save holds found).imp_right ?_
    rintro ⟨up, old, there⟩
    exact ⟨up, holds, old, there⟩

/-- The only file that can be new is the missing one, with the default settings. -/
theorem file_settings
    (here : Folder.entry? (Program.settings arguments folder directory).1 place =
      some (.file bytes)) :
    let after := (Program.settings arguments folder directory).1
    let file := Settings.filePath directory
    folder.entry? place = some (.file bytes) ∨ folder.holds file = false ∧
      bytes = ({} : Settings).fileBytes ∧ after.find file = .ok (place, .file bytes) := by
  cases holds : folder.holds (Settings.filePath directory) with
  | true =>
    rw [settings_of_holds holds] at here
    exact .inl here
  | false =>
    rw [settings_of_missing holds] at here ⊢
    refine (Settings.file_of_save here).imp_right ?_
    rintro ⟨same, there⟩
    exact ⟨holds, same, there⟩

end Loading

section Start

/-- The first value that a client cannot run with is all that keeps a program from starting. -/
theorem start_of_fault {fault : SettingsFault} (faulty : settings.fault? = some fault)
    (nickname : Option String) (now : Instant) :
    Program.start settings nickname now = .error (.settings fault) := by
  simp only [Program.start, faulty]

/-- With settings that a client can run with, the connection begins. -/
theorem start_of_runnable (runnable : settings.Runnable) (nickname : Option String)
    (now : Instant) :
    ∃ moved, Program.start settings nickname now = .ok moved ∧ moved.trace = [.connecting now] ∧
      moved.program.console.client.isConnected ∧
      moved.program.console.client.endpoint = some (endpoint settings) := by
  have accepted := Settings.fault?_eq_none_iff.mpr runnable
  obtain ⟨answer, begins, leads, begun⟩ := Client.connect_of_new settings.network.transport
    settings.session.policy now (valid_endpoint accepted) now
  have running := (Bool.not_eq_false _).mp (begun.running_eq_false_iff.not.mpr (by simp))
  simp only [Program.start, accepted, answer]
  exact ⟨_, rfl, begins, running, leads⟩

theorem start_eq_error_iff {nickname : Option String} {now : Instant} {failure : StartFailure} :
    Program.start settings nickname now = .error failure ↔
      ∃ fault, settings.fault? = some fault ∧ failure = .settings fault := by
  cases verdict : settings.fault? with
  | none =>
    obtain ⟨moved, started, -⟩ :=
      start_of_runnable (Settings.fault?_eq_none_iff.mp verdict) nickname now
    simp [started]
  | some fault => simp [start_of_fault verdict, eq_comm]

end Start

/-- For every folder, directory and command line: the program works with the settings that can be
read from the directory, or else with the default ones, each value of the command line in its place.

A file that is found is left alone with all of the folder. If it is missing, no other file is made,
and it is made with the default settings if its directory is there. All that could be found before
is found as it was; only if the directory has a step `..` can the missing file take the place of a
file that its path did not lead to before.

The program fails to start exactly with the first value that a client cannot run with. Otherwise the
connection to the endpoint of the settings begins, and the running parts get what they need. -/
theorem startup (arguments : Arguments) (folder : Folder) (directory : List String)
    (nickname : Option String) (now : Instant) :
    let file := Settings.filePath directory
    let fresh := FolderEntry.file ({} : Settings).fileBytes
    let after := (Program.settings arguments folder directory).1
    let settings := (Program.settings arguments folder directory).2
    (match Settings.read folder directory with
      | .ok loaded => Settings.Overrides arguments loaded settings
      | .error _ => Settings.Overrides arguments {} settings) ∧
    (folder.holds file → after = folder) ∧
    (∀ place bytes, after.entry? place = some (.file bytes) →
      folder.entry? place = some (.file bytes) ∨ folder.holds file = false ∧
        .file bytes = fresh ∧ after.find file = .ok (place, fresh)) ∧
    (folder.holds file = false → ∀ place, folder.find directory = .ok (place, .directory) →
      after.find file = .ok (place ++ [Settings.fileName], fresh)) ∧
    (∀ path place entry, folder.find path = .ok (place, entry) →
      after.find path = .ok (place, entry) ∨ ".." ∈ directory ∧ folder.holds file = false ∧
        (∃ old, entry = .file old) ∧ after.find file = .ok (place, fresh)) ∧
    (∀ failure, Program.start settings nickname now = .error failure ↔
      ∃ fault, settings.fault? = some fault ∧ failure = .settings fault) ∧
    (settings.fault? = none ↔ settings.Runnable) ∧
    (settings.Runnable →
      (∃ moved, Program.start settings nickname now = .ok moved ∧
        moved.trace = [.connecting now] ∧ moved.program.console.client.isConnected ∧
        moved.program.console.client.endpoint = some (endpoint settings)) ∧
      0 < settings.network.transport.tickInterval ∧
      0 < settings.network.transport.readBufferSize ∧
      0 < settings.session.policy.ackTimeout ∧
      settings.network.transport.tickInterval < settings.session.policy.livenessWindow) := by
  intro file fresh after settings
  refine ⟨overrides_settings arguments folder directory, settings_of_holds, ?_, ?_,
    fun path place entry => find_settings, fun failure => start_eq_error_iff,
    Settings.fault?_eq_none_iff,
    fun runnable => ⟨start_of_runnable runnable nickname now, runnable.policies⟩⟩
  · intro place bytes here
    refine (file_settings here).imp_right ?_
    rintro ⟨missing, same, there⟩
    exact ⟨missing, congrArg _ same, by rwa [same] at there⟩
  · intro missing place there
    change (Program.settings arguments folder directory).1.find file = _
    rw [settings_of_missing missing]
    exact (Settings.save_of_directory there missing).1

/-- A missing file is made next to another one, and the connection to the port of the command line
begins. A file that is no document stays as it is, and the port zero is refused. -/
theorem startup_missing :
    let file := ["conf", "config.ron"]
    let notes := (["conf", "notes"], FolderEntry.file [0x61])
    let folder : Folder := ⟨[(["conf"], .directory), notes]⟩
    let broken : Folder := ⟨[(["conf"], .directory), (file, .file [0x28])]⟩
    let made := Program.settings { port := some 9000 } folder ["conf"]
    let kept := Program.settings { port := some 0 } broken ["conf"]
    (folder.holds file = false ∧ folder.find ["conf"] = .ok (["conf"], .directory) ∧
      made.1.find file = .ok (file, .file ({} : Settings).fileBytes) ∧
      made.1.find notes.1 = .ok notes ∧ made.2.Runnable ∧
      ∃ moved, Program.start made.2 none 0 = .ok moved ∧
        moved.program.console.client.endpoint = some ⟨"127.0.0.1", 9000⟩) ∧
    broken.holds file ∧ kept.1 = broken ∧
    Program.start kept.2 none 0 = .error (.settings .zeroPort) := by
  intro file notes folder broken made kept
  obtain ⟨-, -, -, makes, keeps, -, -, begins⟩ :=
    startup { port := some 9000 } folder ["conf"] none 0
  obtain ⟨-, same, -, -, -, fails, -, -⟩ := startup { port := some 0 } broken ["conf"] none 0
  have missing : folder.holds file = false := by decide
  have there : folder.find ["conf"] = .ok (["conf"], .directory) := by decide
  have noted : folder.find notes.1 = .ok notes := by decide
  have stands : broken.holds file := by decide
  have chosen : made.2 = { network := { serverPort := 9000 } } := by decide
  have refused : kept.2.fault? = some .zeroPort := by decide
  have runnable : made.2.Runnable := by
    rw [← Settings.fault?_eq_none_iff, chosen]
    decide
  obtain ⟨⟨moved, started, -, -, leads⟩, -⟩ := begins runnable
  have unmoved := (keeps _ _ _ noted).resolve_right fun taken => absurd taken.1 (by decide)
  refine ⟨⟨missing, there, makes missing _ there, unmoved, runnable, moved, started, ?_⟩, stands,
    same stands, (fails _).mpr ⟨_, refused, rfl⟩⟩
  rw [leads, chosen]
  rfl

/-- The file that the path leads to in the end may be one that was there with other settings. -/
theorem not_forall_file_kept :
    ¬∀ (arguments : Arguments) (folder : Folder) (directory place : List String)
      (bytes : List UInt8), folder.entry? place = some (.file bytes) →
      let after := (Program.settings arguments folder directory).1
      (∃ entry, after.find (Settings.filePath directory) = .ok (place, entry)) →
      after.entry? place = some (.file bytes) := by
  intro always
  let old := Text.encode "(network: (server_port: 4242))".toList
  let folder : Folder := ⟨[(["config.ron"], .file old)]⟩
  have missing : folder.holds (Settings.filePath ["sub", ".."]) = false := by decide
  have made : folder.ensureDirectory ["sub", ".."] =
      (⟨[(["sub"], .directory), (["config.ron"], .file old)]⟩, .ok ()) := by decide
  have written : (Settings.save {} folder ["sub", ".."]).1.find (Settings.filePath ["sub", ".."]) =
      .ok (["config.ron"], .file ({} : Settings).fileBytes) :=
    (Settings.save_of_follow made (by decide) (by decide) (by decide)).1
  have kept := always {} folder ["sub", ".."] ["config.ron"] old rfl
  rw [settings_of_missing missing] at kept
  have same := (Folder.find_eq_ok_iff.mp written).2.symm.trans (kept ⟨_, written⟩)
  have other : ({} : Settings).fileBytes ≠ old := by
    rw [Settings.fileBytes, Settings.document, String.toList_ofList]
    decide
  exact other (FolderEntry.file.inj (Option.some.inj same))

end Program

end Blackjack
