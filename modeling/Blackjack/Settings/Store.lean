import Blackjack.Settings.Document
import Blackjack.Settings.Folder
import Blackjack.Settings.LogFilter
import Blackjack.Text.Utf8

/-!
# Keeping settings

The settings lie in the file `config.ron` of a directory. Reading them gives settings that a client
can run with, or the reason why not. Loading creates the file with the default settings where there
is none, and touches no file that is there already. Reloading tells whether anything has changed.
-/

namespace Blackjack

/-- Why settings could not be read or written. -/
inductive SettingsError where
  | unreadable (cause : FolderError)
  | unwritable (cause : FolderError)
  /-- The text is no document of settings. -/
  | malformed
  | invalid (fault : SettingsFault)
  deriving DecidableEq, Repr

namespace Settings

/-- The name of the file. -/
def fileName : String := "config.ron"

/-- The name of the directory of the file among those of other programs. -/
def directoryName : String := "bj-client"

/--
The directory of the file where none is given: below the place for configuration files, which counts
only as an absolute path, else below the usual place in the home directory, else the current one.
-/
def defaultDirectory (configurationHome home : Option String) : String :=
  match configurationHome.filter (·.startsWith "/"), home with
  | some place, _ => place ++ "/" ++ directoryName
  | none, some home => home ++ "/.config/" ++ directoryName
  | none, none => "."

/-- The path of the file in a directory. -/
def filePath (directory : List String) : List String := directory ++ [fileName]

/-- The text of the file at a path. -/
def readText (folder : Folder) (path : List String) : Except FolderError String :=
  match folder.read path with
  | .error e => .error e
  | .ok bytes =>
    match Text.decode? bytes with
    | some text => .ok (String.ofList text)
    | none => .error .invalidData

/-- The settings that a document holds, if a client can run with them. -/
def parse (document : String) : Except SettingsError Settings :=
  match ofDocument? document with
  | none => .error .malformed
  | some settings =>
    match settings.fault? with
    | some fault => .error (.invalid fault)
    | none => .ok settings

/-- The settings that lie in a directory. -/
def read (folder : Folder) (directory : List String) : Except SettingsError Settings :=
  match readText folder (filePath directory) with
  | .error e => .error (.unreadable e)
  | .ok document => parse document

/-- Writes settings to a directory, which is made if it is missing. -/
def save (settings : Settings) (folder : Folder) (directory : List String) :
    Folder × Except SettingsError Unit :=
  match folder.ensureDirectory directory with
  | (folder, .error e) => (folder, .error (.unwritable e))
  | (folder, .ok ()) =>
    match folder.write (filePath directory) (Text.encode settings.document.toList) with
    | .error e => (folder, .error (.unwritable e))
    | .ok folder => (folder, .ok ())

/-- The settings that lie in a directory, or the default ones, which then lie there. -/
def loadOrCreate (folder : Folder) (directory : List String) :
    Folder × Except SettingsError Settings :=
  if folder.holds (filePath directory) then (folder, read folder directory)
  else
    match save {} folder directory with
    | (folder, .ok ()) => (folder, .ok {})
    | (folder, .error e) => (folder, .error e)

/-- The settings that lie in a directory, if they differ from these. -/
def reload (settings : Settings) (folder : Folder) (directory : List String) :
    Except SettingsError (Option Settings) :=
  (read folder directory).map fun found => if found = settings then none else some found

/-- The directive of the log filter. -/
def filter (settings : Settings) : String := logFilter (some settings.debug.logLevel)

end Settings

end Blackjack
