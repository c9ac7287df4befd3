import Blackjack.Link

/-!
# Writing queued frames

Frames are written in order until the socket accepts less than it is offered. The unwritten tail of
a frame stays at the front of the queue. Nothing is lost or reordered: the bytes that were accepted
and those that still wait are the bytes that waited before (`written_append_waiting`).
-/

namespace Blackjack.Outbound

/-- What a socket says when it is offered the bytes of a frame. -/
inductive WriteAnswer where
  /-- It accepts at most this many bytes. -/
  | accepted (count : Nat)
  /-- It accepts nothing now. -/
  | wouldBlock
  | failed (reason : String)
  deriving DecidableEq, Repr

/-- What came of writing. -/
structure Flush where
  /-- The bytes that the socket accepted. -/
  written : List UInt8
  /-- The frames that still wait. -/
  waiting : List (List UInt8)
  /-- Why the connection cannot be written to. -/
  failure : Option String
  deriving DecidableEq, Repr

/-- The failure of a socket that accepts no byte of a frame. -/
def zeroWrite : String := "write zero"

/-- Offers frames to the socket, one answer for each, until it accepts less than a whole frame. -/
def flush : List (List UInt8) → List WriteAnswer → Flush
  | [], _ => ⟨[], [], none⟩
  | frames, [] => ⟨[], frames, none⟩
  | frame :: later, answer :: answers =>
    match answer with
    | .wouldBlock => ⟨[], frame :: later, none⟩
    | .failed reason => ⟨[], frame :: later, some reason⟩
    | .accepted count =>
      if min count frame.length = 0 then ⟨[], frame :: later, some zeroWrite⟩
      else if count < frame.length then ⟨frame.take count, frame.drop count :: later, none⟩
      else
        let rest := flush later answers
        { rest with written := frame ++ rest.written }

theorem written_append_waiting (frames : List (List UInt8)) (answers : List WriteAnswer) :
    (flush frames answers).written ++ (flush frames answers).waiting.flatten = frames.flatten := by
  fun_induction flush frames answers with
  | case6 => simp [← List.append_assoc]
  | case7 _ _ _ _ _ _ rest ih => simpa using ih
  | _ => simp

end Blackjack.Outbound
