import Blackjack.Text.Blank
import Blackjack.Text.Decimal

/-!
# Console commands

A typed line is a keyword and, after white space, an argument. Keywords are read in any ASCII letter
case; an argument keeps its inner white space; commands without an argument ignore whatever follows.
Blank lines are no command and no error.
-/

namespace Blackjack

/-- What the user can ask for. -/
inductive Command where
  | login (nickname : String)
  | join (room : UInt32)
  | ready
  | unready
  | bet (amount : UInt32)
  | hit
  | stand
  | leave
  | again
  /-- Ask for the full game state. -/
  | state
  /-- Send a line as it is. -/
  | raw (line : String)
  | help
  | quit
  deriving DecidableEq, Repr

/-- Why a typed line is no command. -/
inductive CommandError where
  | unknown (word : String)
  | missingArgument (keyword : String)
  | invalidNumber (text : String)
  deriving DecidableEq, Repr

/-- The wording of an error. -/
def CommandError.message : CommandError → String
  | .unknown word => "unknown command `" ++ word ++ "`, try `help`"
  | .missingArgument keyword => "`" ++ keyword ++ "` needs an argument"
  | .invalidNumber text => "`" ++ text ++ "` is not a non-negative number"

namespace Command

/-- The overview of the commands. -/
def overview : List String :=
  ["commands:",
    "  login <nick>   join <room>   leave",
    "  ready          unready       bet <amount>",
    "  hit            stand         again",
    "  state          raw <line>    quit"]

/-- The first word of a trimmed line, and what follows it without white space at its ends. -/
def words (line : List Char) : List Char × List Char :=
  match Text.splitOnce Text.isBlank line with
  | some (word, rest) => (word, Text.trim rest)
  | none => (line, [])

/-- The argument of a command that needs one. -/
def argument (keyword : String) (rest : List Char) : Except CommandError String :=
  if rest = [] then .error (.missingArgument keyword) else .ok (String.ofList rest)

/-- The argument of a command that needs a number below `2 ^ 32`. -/
def number (keyword : String) (rest : List Char) : Except CommandError UInt32 :=
  match argument keyword rest with
  | .error e => .error e
  | .ok text =>
    match Text.unsigned? rest with
    | some n => if n < UInt32.size then .ok (UInt32.ofNat n) else .error (.invalidNumber text)
    | none => .error (.invalidNumber text)

/-- The command of a keyword in lower case and the text after it; no keyword is no command. -/
def ofWords (keyword : String) (rest : List Char) : Except CommandError (Option Command) :=
  match keyword with
  | "" => .ok none
  | "login" => (argument "login" rest).map fun text => some (.login text)
  | "join" => (number "join" rest).map fun n => some (.join n)
  | "ready" => .ok (some .ready)
  | "unready" => .ok (some .unready)
  | "bet" => (number "bet" rest).map fun n => some (.bet n)
  | "hit" => .ok (some .hit)
  | "stand" => .ok (some .stand)
  | "leave" => .ok (some .leave)
  | "again" => .ok (some .again)
  | "state" => .ok (some .state)
  | "raw" => (argument "raw" rest).map fun text => some (.raw text)
  | "help" | "?" => .ok (some .help)
  | "quit" | "exit" => .ok (some .quit)
  | word => .error (.unknown word)

/-- The command of a typed line, if there is one. -/
def parse (line : String) : Except CommandError (Option Command) :=
  let (word, rest) := words (Text.trim line.toList)
  ofWords (String.ofList (word.map Char.toLower)) rest

end Command

end Blackjack
