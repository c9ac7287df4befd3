import Blackjack.Text.Utf8
import Blackjack.Wire.Frame

/-!
# The link

A link is the protocol's side of one connection: the frames that wait to be written, as bytes, and
the first reason given for ending the connection. A callback of a protocol does not touch the link.
It gives back a `Reaction`, and `Link.absorb` queues its frames behind everything queued before them
and keeps its stop reason if there is none yet.
-/

namespace Blackjack

/-- What one callback asks for: messages to send, a reason to stop, and outputs for the consumer. -/
structure Reaction (Output : Type) where
  messages : List String := []
  stop : Option String := none
  outputs : List Output := []
  /-- The callback failed, and its state is lost. -/
  crashed : Bool := false
  deriving DecidableEq, Repr

namespace Reaction

variable {Output : Type}

/-- The reaction that asks for nothing. -/
def none : Reaction Output := {}

/-- The reaction that only sends one message. -/
def send (message : String) : Reaction Output := { messages := [message] }

/-- The reaction that only reports one output. -/
def emit (output : Output) : Reaction Output := { outputs := [output] }

section Parts

variable (message : String) (output : Output)

@[simp] theorem none_messages : (none : Reaction Output).messages = [] := rfl

@[simp] theorem none_stop : (none : Reaction Output).stop = Option.none := rfl

@[simp] theorem none_outputs : (none : Reaction Output).outputs = [] := rfl

@[simp] theorem send_messages : (send message : Reaction Output).messages = [message] := rfl

@[simp] theorem send_stop : (send message : Reaction Output).stop = Option.none := rfl

@[simp] theorem send_outputs : (send message : Reaction Output).outputs = [] := rfl

@[simp] theorem emit_messages : (emit output).messages = [] := rfl

@[simp] theorem emit_stop : (emit output).stop = Option.none := rfl

@[simp] theorem emit_outputs : (emit output).outputs = [output] := rfl

end Parts

end Reaction

/-- The unwritten frames of a connection, oldest first, and the reason to end it. -/
structure Link where
  outbound : List (List UInt8) := []
  stop : Option String := none
  deriving DecidableEq, Repr

namespace Link

/-- The link of a fresh connection. -/
def fresh : Link := {}

/-- The bytes of a message as it goes on the wire, with its delimiter. -/
def wireBytes (message : String) : List UInt8 :=
  Text.encode (ensureDelimited message).toList

/-- Queues a message behind everything queued before it. -/
def send (link : Link) (message : String) : Link :=
  { link with outbound := link.outbound ++ [wireBytes message] }

/-- Asks for the end of the connection; the first reason wins. -/
def requestStop (link : Link) (reason : String) : Link :=
  { link with stop := link.stop <|> some reason }

/-- Carries out what a callback asked for. -/
def absorb {Output : Type} (link : Link) (reaction : Reaction Output) : Link where
  outbound := link.outbound ++ reaction.messages.map wireBytes
  stop := link.stop <|> reaction.stop

/-- A callback that asks for nothing leaves the link as it is. -/
theorem absorb_none {Output : Type} (link : Link) :
    link.absorb (.none : Reaction Output) = link := by
  simp [absorb]

/-- The number of frames that wait to be written. -/
def queued (link : Link) : Nat := link.outbound.length

end Link

end Blackjack
