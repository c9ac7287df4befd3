import Blackjack.Backoff
import Blackjack.Client.Basic
import Blackjack.Console.Command

/-!
# The console

The console stands between the player and a client. A typed line becomes an action or a raw message;
an event of the session becomes a printed line, and what the server expects in return is sent at
once. A lost connection schedules a redial, unless one is scheduled already, and ends the console
when no redial is left. Each step says what it prints and whether the console goes on.
-/

namespace Blackjack

/-- What drives a client: the nickname to answer with, and when to dial again. -/
structure Console where
  client : Client
  /-- The nickname to log in with whenever the server asks for one. -/
  nickname : Option String
  backoff : Backoff
  /-- When to dial again, if that is scheduled. -/
  redialAt : Option Instant
  deriving DecidableEq, Repr

/-- Whether the console goes on. -/
inductive Flow where
  | proceed
  | exit (code : UInt8)
  /-- A wait cannot be represented. -/
  | abort
  deriving DecidableEq, Repr

/-- What a step of the console did. -/
structure Turn where
  console : Console
  flow : Flow := .proceed
  /-- The printed texts, each on a line of its own. -/
  printed : List String := []
  trace : Trace Request SessionEvent := []
  deriving DecidableEq, Repr

/-- The action of a command, for all but those that stay in the console. -/
def Command.action? : Command → Option Action
  | login nickname => some (.login nickname)
  | join room => some (.join room)
  | ready => some .ready
  | unready => some .unready
  | bet amount => some (.bet amount)
  | hit => some .hit
  | stand => some .stand
  | leave => some .leave
  | again => some .playAgain
  | state => some .gameState
  | raw _ | help | quit => none

namespace Console

/-- The exit of a player who is done. -/
def success : UInt8 := 0

/-- The exit of a console that cannot go on. -/
def failure : UInt8 := 1

/-- The console of a client that has not lost its connection yet. -/
def new (client : Client) (nickname : Option String) (policy : BackoffPolicy) : Console where
  client := client
  nickname := nickname
  backoff := .new policy
  redialAt := none

/-- Carries on with a client after a call, and prints its refusal. -/
def reported (console : Console) (result : Client × Except ClientError Unit) : Turn :=
  { console := { console with client := result.1 }
    printed := match result.2 with
      | .ok () => []
      | .error refusal => ["! " ++ refusal.message] }

/-- Does what the player asks for. A successful login is remembered. -/
def obey (console : Console) : Command → Turn
  | .quit => { console, flow := .exit success }
  | .help => { console, printed := Command.overview }
  | .raw line => console.reported (console.client.sendRaw line)
  | .login nickname =>
    let result := console.client.perform (.login nickname)
    let turn := console.reported result
    match result.2 with
    | .ok () => { turn with console := { turn.console with nickname := some nickname } }
    | .error _ => turn
  | command =>
    match command.action? with
    | some action => console.reported (console.client.perform action)
    | none => { console }

/-- Handles a typed line. -/
def onInput (console : Console) (line : String) : Turn :=
  match Command.parse line with
  | .error e => { console, printed := [e.message] }
  | .ok none => { console }
  | .ok (some command) => console.obey command

/-- The last of the fields that the server separates with semicolons. -/
def lastField (args : String) : String :=
  String.ofList (args.toList.reverse.takeWhile (· ≠ ';')).reverse

/-- What the server expects after a message; a refusal of it is not printed. -/
def followUp (console : Console) (frame : Frame) : Turn :=
  match frame.command with
  | "REQ_NICK" =>
    match console.nickname with
    | some nickname =>
      { console := { console with client := (console.client.perform (.login nickname)).1 } }
    | none => { console, printed := ["* server asks for a nickname: login <nick>"] }
  | "ACK__REC" =>
    if frame.args.map lastField = some "-1" then { console }
    else { console := { console with client := (console.client.perform .gameState).1 } }
  | _ => { console }

/-- Schedules the next redial. -/
def schedule (console : Console) (factor : Binary64) (now : Instant) : Turn :=
  match console.backoff.nextDeadline factor now with
  | (backoff, .next deadline) =>
    { console := { console with backoff, redialAt := some deadline } }
  | (backoff, .exhausted) => { console := { console with backoff }, flow := .exit failure }
  | (backoff, .unrepresentable) => { console := { console with backoff }, flow := .abort }

/-- Handles an event of the session. A redial that it schedules is spread by a factor. -/
def onEvent (console : Console) (event : SessionEvent) (factor : Binary64) (now : Instant) : Turn :=
  match event with
  | .message frame =>
    let turn := { console with backoff := console.backoff.reset }.followUp frame
    { turn with
      printed := ("< " ++ frame.command ++ " " ++ frame.args.getD "") :: turn.printed }
  | .offline reason =>
    let turn := if console.redialAt.isNone then console.schedule factor now else { console }
    { turn with printed := ("* offline: " ++ reason) :: turn.printed }
  | .fatal reason => { console, flow := .exit failure, printed := ["* fatal: " ++ reason] }
  | .requestExpired command =>
    { console, printed := ["* no answer to " ++ command ++ ", giving up"] }
  | .rejected command reason =>
    { console, printed := ["* " ++ command ++ " not sent: " ++ reason] }

/-- Dials again if that is due. -/
def redialIfDue (console : Console) (factor : Binary64) (now : Instant) : Turn :=
  match console.redialAt with
  | none => { console }
  | some deadline =>
    if now < deadline then { console }
    else
      let call := console.client.redial now
      let console := { console with client := call.engine, redialAt := none }
      match call.answer with
      | .ok () => { console, trace := call.trace }
      | .error _ => { console.schedule factor now with trace := call.trace }

end Console

end Blackjack
