import Blackjack.Text.Blank

/-!
# Frames

A line of the protocol is `BJ:`, a command token and, after a colon, the arguments as one opaque
text. `Frame.render` writes that line and `Frame.decode` reads it: white space around the content
is not part of the frame, the first colon ends the command, and every later one belongs to the
arguments. `encode` builds the line of an outgoing command, whose token is padded to eight
characters and whose text may not disturb the framing.
-/

namespace Blackjack

/-- What every line of the protocol starts with. -/
def linePrefix : String := "BJ:"

/-- The width that a command token is padded to. -/
def commandWidth : Nat := 8

/-- Why a text is not a frame, or cannot become one. -/
inductive FrameError where
  | missingPrefix
  | commandTooLong (command : String)
  | emptyCommand
  | reservedCharacter (text : String)
  | lineTooLong (length limit : Nat)
  deriving DecidableEq, Repr

/-- The wording of a framing error. -/
def FrameError.message : FrameError → String
  | .missingPrefix => "line is missing the `BJ:` prefix"
  | .commandTooLong command => "command `" ++ command ++ "` is longer than 8 characters"
  | .emptyCommand => "command is empty"
  | .reservedCharacter text => "`" ++ text ++ "` contains a reserved character"
  | .lineTooLong length limit =>
    "unterminated line of " ++ toString length ++ " bytes exceeds maximum " ++ toString limit

/-- A command token and the text of its arguments, if there is one. -/
structure Frame where
  command : String
  args : Option String
  deriving DecidableEq, Repr

/-- The classes of inbound commands that the session tells apart. -/
inductive CommandClass where
  | ack
  | nack
  | heartbeat
  | generic
  deriving DecidableEq, Repr

namespace Frame

/-- The command by which the peer asks for a sign of life. -/
def ping : String := "PING____"

/-- The command that answers a heartbeat. -/
def pong : String := "PONG____"

/-- A heartbeat is the one token `PING____`; the class of a reply is its text before the first `_`. -/
def classify (frame : Frame) : CommandClass :=
  if frame.command = ping then .heartbeat
  else
    match String.ofList (frame.command.toList.takeWhile (· ≠ '_')) with
    | "ACK" => .ack
    | "NACK" => .nack
    | _ => .generic

/-- The line of a frame, without its delimiter. -/
def render (frame : Frame) : String :=
  match frame.args with
  | some args => linePrefix ++ frame.command ++ ":" ++ args
  | none => linePrefix ++ frame.command

/-- The frame of a content that is already trimmed: the first colon ends the command. -/
def ofContent (content : List Char) : Frame :=
  match Text.splitOnce (· = ':') content with
  | some (command, args) => ⟨String.ofList command, some (String.ofList args)⟩
  | none => ⟨String.ofList content, none⟩

/-- What follows the prefix of a line, if the line has it. -/
def content? (line : String) : Option (List Char) :=
  if linePrefix.toList.isPrefixOf line.toList then some (line.toList.drop linePrefix.length)
  else none

/-- The frame of a line that stands without its delimiter. -/
def decode (line : String) : Except FrameError Frame :=
  match content? line with
  | some content => .ok (ofContent (Text.trim content))
  | none => .error .missingPrefix

end Frame

/-- The line breaks, and in a command also the colon, would disturb the framing. -/
def isReserved (inCommand : Bool) (c : Char) : Bool :=
  c = '\n' || c = '\r' || (inCommand && c = ':')

/-- A command token, filled up with `_` to its full width. -/
def padCommand (command : String) : String :=
  command ++ String.ofList (List.replicate (commandWidth - command.length) '_')

/-- A message that ends with its delimiter, which is appended where it is missing. -/
def ensureDelimited (message : String) : String :=
  if message.toList.getLast? = some '\n' then message else message ++ "\n"

/--
The delimited line of an outgoing command. An empty command is reported first, then a reserved
character in the command, its length, and last the first argument with a reserved character.
-/
def encode (command : String) (args : List String) : Except FrameError String :=
  if command = "" then .error .emptyCommand
  else if command.toList.any (isReserved true) then .error (.reservedCharacter command)
  else if commandWidth < command.length then .error (.commandTooLong command)
  else
    match args.find? (fun arg => arg.toList.any (isReserved false)) with
    | some arg => .error (.reservedCharacter arg)
    | none =>
      .ok (Frame.render ⟨padCommand command,
        if args = [] then none else some (",".intercalate args)⟩ ++ "\n")

end Blackjack
