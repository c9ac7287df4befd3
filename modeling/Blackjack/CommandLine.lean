import Blackjack.Text.Blank
import Blackjack.Text.Decimal

/-!
# The command line

Every option has a long name and one value, which follows it or is attached with `=`. A value that
follows may not start with `-`, unless it is `-` alone. A value is looked at when the next option
begins or the line ends, so an argument that is not understood is reported before a bad value that
stands right in front of it.
-/

namespace Blackjack

/-- The options that take a value. -/
inductive CommandOption where
  | server
  | port
  | logLevel
  | config
  | nickname
  deriving DecidableEq, Repr

/-- Why a command line is refused, or does not ask for a session at all. -/
inductive CommandLineError where
  | unknownArgument
  /-- An option without its value, or with an empty one where that means nothing. -/
  | missingValue
  /-- A port that is no number from 0 to 65535. -/
  | badValue
  /-- An option that was given before. -/
  | repeatedOption
  /-- A value attached to a flag. -/
  | unexpectedValue
  /-- The request for help. -/
  | help
  deriving DecidableEq, Repr

/-- The values given on the command line. -/
structure Arguments where
  server : Option String := none
  port : Option UInt16 := none
  logLevel : Option String := none
  config : Option String := none
  nickname : Option String := none
  deriving DecidableEq, Repr

namespace CommandLine

/-- The option of a long name. -/
def option? : String → Option CommandOption
  | "server" => some .server
  | "port" => some .port
  | "log-level" => some .logLevel
  | "config" => some .config
  | "nickname" => some .nickname
  | _ => none

/-- The port of a decimal numeral, which may have a sign. -/
def port? (text : String) : Option UInt16 :=
  match Text.signed? text.toList with
  | some n => if 0 ≤ n ∧ n < UInt16.size then some (UInt16.ofNat n.toNat) else none
  | none => none

/-- Whether an option has a value already. -/
def isGiven (arguments : Arguments) : CommandOption → Bool
  | .server => arguments.server.isSome
  | .port => arguments.port.isSome
  | .logLevel => arguments.logLevel.isSome
  | .config => arguments.config.isSome
  | .nickname => arguments.nickname.isSome

/-- Gives an option its value. -/
def assign (arguments : Arguments) (option : CommandOption) (value : String) :
    Except CommandLineError Arguments :=
  if isGiven arguments option then .error .repeatedOption
  else
    match option with
    | .server => .ok { arguments with server := some value }
    | .port =>
      match port? value with
      | some port => .ok { arguments with port := some port }
      | none => .error .badValue
    | .logLevel => .ok { arguments with logLevel := some value }
    | .config =>
      if value = "" then .error .missingValue else .ok { arguments with config := some value }
    | .nickname => .ok { arguments with nickname := some value }

/-- An option that is not finished: it waits for its value, or has one that is not looked at yet. -/
structure Unfinished where
  option : CommandOption
  value : Option String
  deriving DecidableEq, Repr

/-- The arguments read so far. -/
structure Reading where
  arguments : Arguments
  unfinished : Option Unfinished
  deriving DecidableEq, Repr

/-- Finishes the last option. -/
def Reading.finish (reading : Reading) : Except CommandLineError Arguments :=
  match reading.unfinished with
  | none => .ok reading.arguments
  | some ⟨option, some value⟩ => assign reading.arguments option value
  | some ⟨_, none⟩ => .error .missingValue

/-- The request for help, which finishes the last option first. -/
def Reading.help (reading : Reading) : Except CommandLineError Reading :=
  match reading.finish with
  | .ok _ => .error .help
  | .error e => .error e

/-- An argument that starts with two hyphens, without them. -/
def Reading.long (reading : Reading) (text : List Char) : Except CommandLineError Reading :=
  let (name, value) := match Text.splitOnce (· = '=') text with
    | some (name, value) => (String.ofList name, some (String.ofList value))
    | none => (String.ofList text, none)
  match option? name with
  | some option =>
    match reading.finish, value with
    | .error e, _ => .error e
    | .ok arguments, some value =>
      (assign arguments option value).map fun arguments => ⟨arguments, none⟩
    | .ok arguments, none => .ok ⟨arguments, some ⟨option, none⟩⟩
  | none =>
    if name = "help" then
      if value.isSome then .error .unexpectedValue else reading.help
    else .error .unknownArgument

/-- An argument that does not start with a hyphen. -/
def Reading.plain (reading : Reading) (text : String) : Except CommandLineError Reading :=
  match reading.unfinished with
  | some ⟨option, none⟩ => .ok { reading with unfinished := some ⟨option, some text⟩ }
  | _ => .error .unknownArgument

/-- Reads one argument that stands before a separating `--`. -/
def Reading.next (reading : Reading) (argument : String) : Except CommandLineError Reading :=
  match argument.toList with
  | '-' :: '-' :: text => reading.long text
  | ['-'] => reading.plain argument
  | '-' :: flag :: _ => if flag = 'h' then reading.help else .error .unknownArgument
  | _ => reading.plain argument

/-- Reads the arguments one by one; nothing may follow a separating `--`. -/
def readFrom (reading : Reading) : List String → Except CommandLineError Arguments
  | [] => reading.finish
  | "--" :: later => if later = [] then reading.finish else .error .unknownArgument
  | argument :: later =>
    match reading.next argument with
    | .ok reading => readFrom reading later
    | .error e => .error e

/-- What a command line can hold. -/
def usage : String :=
  "usage: blackjack [--server <host>] [--port <port>] [--log-level <level>] " ++
    "[--config <directory>] [--nickname <nick>]"

/-- The values given by the arguments of a command line. -/
def parse (arguments : List String) : Except CommandLineError Arguments :=
  readFrom ⟨{}, none⟩ arguments

end CommandLine

end Blackjack
