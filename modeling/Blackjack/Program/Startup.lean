import Blackjack.Program.Basic
import Blackjack.Settings.Runtime
import Blackjack.Settings.Store

/-!
# Starting the program

The program works with the settings that lie in its directory, or with the default ones where none
can be had, and the command line replaces their values one by one. It starts if a client can run
with the result, and leaves an existing file as it is.
-/

namespace Blackjack

/-- Why the program does not start. -/
inductive StartFailure where
  | settings (fault : SettingsFault)
  | transport (refusal : TransportError)
  deriving DecidableEq, Repr

/-- The wording of a failure. -/
def StartFailure.message : StartFailure → String
  | .settings fault => fault.message
  | .transport refusal => "Cannot start networking: " ++ refusal.message

/-- The exit of a command line without a session: a request for help is no failure. -/
def CommandLineError.exitCode : CommandLineError → UInt8
  | help => 0
  | unknownArgument | missingValue | badValue | repeatedOption | unexpectedValue => 2

namespace Program

/-- The exit of a program that does not start. -/
def startFailure : UInt8 := 1

/-- The exit of a program that had to abort. -/
def abortion : UInt8 := 101

/-- The exit code of a program that does not go on. -/
def exitCode? (program : Program) : Option UInt8 :=
  match program.flow with
  | .proceed => none
  | .exit code => some code
  | .abort => some abortion

/-- The settings to work with, and the folder that looking for them leaves behind. -/
def settings (arguments : Arguments) (folder : Folder) (directory : List String) :
    Folder × Settings :=
  match Settings.loadOrCreate folder directory with
  | (folder, .ok loaded) => (folder, loaded.override arguments)
  | (folder, .error _) => (folder, ({} : Settings).override arguments)

/-- The endpoint of the server. -/
def endpoint (settings : Settings) : Endpoint :=
  ⟨settings.network.serverAddress, settings.network.serverPort⟩

/-- Begins to connect with settings that a client can run with. -/
def start (settings : Settings) (nickname : Option String) (now : Instant) :
    Except StartFailure Moved :=
  match settings.fault? with
  | some fault => .error (.settings fault)
  | none =>
    let client := Client.new settings.network.transport settings.session.policy now
    let call := client.connect (endpoint settings) now
    match call.answer with
    | .error refusal => .error (.transport refusal)
    | .ok () =>
      .ok {
        program :=
          { console := Console.new call.engine nickname settings.backoff
            events := call.trace.outputs }
        printed := Command.overview
        trace := call.trace }

end Program

end Blackjack
