import Blackjack.Text.Utf8
import Blackjack.Wire.Frame

/-!
# Reassembling lines

The bytes of a connection arrive in pieces. `LineBuffer.push` appends a piece, gives back the lines
that it completes and keeps what follows the last delimiter. Bytes that are not UTF-8 are dropped
from a line after it is complete, so a character may be cut by the end of a piece. An unterminated
line may not outgrow the limit: the push that exceeds it fails, with all lines that it completed,
and empties the buffer. A limit of zero is no limit.
-/

namespace Blackjack

/-- The byte that ends a line. -/
def delimiter : UInt8 := 0x0A

/-- The completed lines of a byte stream, without their delimiters, and the bytes after the last. -/
def splitLines : List UInt8 → List (List UInt8) × List UInt8
  | [] => ([], [])
  | b :: rest =>
    let (lines, remainder) := splitLines rest
    if b = delimiter then ([] :: lines, remainder)
    else
      match lines with
      | [] => ([], b :: remainder)
      | line :: later => ((b :: line) :: later, remainder)

/-- The text of a line, without the bytes that are not UTF-8. -/
def lineText (line : List UInt8) : String :=
  String.ofList (Text.decodeValid line)

/-- The bytes of a line that is not complete yet, and the number of them that may be held. -/
structure LineBuffer where
  limit : Nat
  pending : List UInt8
  deriving DecidableEq, Repr

namespace LineBuffer

/-- The limit of a buffer for which none is configured. -/
def defaultLimit : Nat := 64 * 1024

/-- The buffer that holds nothing. -/
def empty (limit : Nat) : LineBuffer := ⟨limit, []⟩

/-- Whether an unterminated line of this length is too long. -/
def exceeds (buffer : LineBuffer) (length : Nat) : Bool :=
  0 < buffer.limit && buffer.limit < length

/-- Appends a piece of the stream: the lines that it completes, or the refusal of what remains. -/
def push (buffer : LineBuffer) (bytes : List UInt8) :
    LineBuffer × Except FrameError (List String) :=
  let (lines, remainder) := splitLines (buffer.pending ++ bytes)
  if buffer.exceeds remainder.length then
    (empty buffer.limit, .error (.lineTooLong remainder.length buffer.limit))
  else (⟨buffer.limit, remainder⟩, .ok (lines.map lineText))

/-- Forgets the line that is not complete. -/
def clear (buffer : LineBuffer) : LineBuffer := empty buffer.limit

end LineBuffer

end Blackjack
