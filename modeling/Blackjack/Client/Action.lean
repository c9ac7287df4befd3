import Blackjack.Client.Nickname
import Blackjack.Transport.Engine
import Blackjack.Wire.Request

/-!
# What a player can ask of the server

An action has a command, its arguments, and whether the server must answer it: what changes the
state of the server is acknowledged, and what only moves the game along is not. `Action.request` is
the request of an action; a nickname is looked at before it is framed.
-/

namespace Blackjack

/-- What a player can ask of the server. -/
inductive Action where
  | login (nickname : String)
  | join (room : UInt32)
  | leave
  | stand
  | ready
  | unready
  | bet (amount : UInt32)
  /-- Draw a card. -/
  | hit
  /-- Stay for another round. -/
  | playAgain
  /-- Have the whole state of the game sent again. -/
  | gameState
  deriving DecidableEq, Repr

/-- Why a client refuses what it is asked to do. -/
inductive ClientError where
  | transport (refusal : TransportError)
  | frame (refusal : FrameError)
  | nickname (refusal : Nickname.Refusal)
  deriving DecidableEq, Repr

/-- The wording of a refusal. -/
def ClientError.message : ClientError → String
  | .transport refusal => refusal.message
  | .frame refusal => refusal.message
  | .nickname refusal => "invalid nickname: " ++ refusal.message

namespace Action

/-- The command on the wire, before it is padded. -/
def command : Action → String
  | login _ => "LOGIN"
  | join _ => "JOIN"
  | leave => "LVRO"
  | stand => "STAND"
  | ready => "RDY"
  | unready => "NRD"
  | bet _ => "BT"
  | hit => "HIT"
  | playAgain => "PAG"
  | gameState => "REC__GAM"

/-- The arguments on the wire. -/
def args : Action → List String
  | login nickname => [nickname]
  | join n | bet n => [toString n.toNat]
  | leave | stand | ready | unready | hit | playAgain | gameState => []

/-- Whether the server must answer. -/
def requiresAck : Action → Bool
  | login _ | join _ | leave | stand | ready | unready | bet _ => true
  | hit | playAgain | gameState => false

/-- What speaks against the nickname of a login. -/
def nicknameRefusal? : Action → Option Nickname.Refusal
  | login nickname => Nickname.refusal? nickname
  | _ => none

/-- The request of an action. -/
def request (action : Action) : Except ClientError Request :=
  match action.nicknameRefusal? with
  | some refusal => .error (.nickname refusal)
  | none => (Request.make action.command action.args action.requiresAck).mapError .frame

end Action

end Blackjack
