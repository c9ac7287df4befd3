/-!
# Text as bytes

`encode` writes a text in UTF-8. `decodeValid` reads bytes that may hold anything: it keeps the
characters whose encodings are well formed and drops every byte that is part of none. A byte that
starts no well-formed sequence is dropped alone, which is enough: the bytes that could follow it in
a truncated sequence are continuation bytes, and none of these starts a character.
-/

namespace Blackjack.Text

/-- The bytes of a text in UTF-8. -/
def encode (text : List Char) : List UInt8 :=
  text.flatMap String.utf8EncodeChar

/-- A continuation byte, `80` to `BF`. -/
def isTail (b : Nat) : Bool :=
  0x80 ≤ b && b ≤ 0xBF

/-- The bytes that may follow `a` in a sequence of three: no overlong form, no surrogate. -/
def isSecondOfThree (a b : Nat) : Bool :=
  if a = 0xE0 then 0xA0 ≤ b && b ≤ 0xBF
  else if a = 0xED then 0x80 ≤ b && b ≤ 0x9F
  else isTail b

/-- The bytes that may follow `a` in a sequence of four: no overlong form, nothing above `10FFFF`. -/
def isSecondOfFour (a b : Nat) : Bool :=
  if a = 0xF0 then 0x90 ≤ b && b ≤ 0xBF
  else if a = 0xF4 then 0x80 ≤ b && b ≤ 0x8F
  else isTail b

/-- The character of the well-formed sequence that the bytes start with, and its length. -/
def leading? : List UInt8 → Option (Char × Nat)
  | [] => none
  | first :: rest =>
    let a := first.toNat
    if a < 0x80 then some (Char.ofNat a, 1)
    else if a < 0xC2 then none
    else if a < 0xE0 then
      match rest with
      | second :: _ =>
        let b := second.toNat
        if isTail b then some (Char.ofNat ((a - 0xC0) * 0x40 + (b - 0x80)), 2) else none
      | [] => none
    else if a < 0xF0 then
      match rest with
      | second :: third :: _ =>
        let b := second.toNat
        let c := third.toNat
        if isSecondOfThree a b && isTail c then
          some (Char.ofNat ((a - 0xE0) * 0x1000 + (b - 0x80) * 0x40 + (c - 0x80)), 3)
        else none
      | _ => none
    else if a < 0xF5 then
      match rest with
      | second :: third :: fourth :: _ =>
        let b := second.toNat
        let c := third.toNat
        let d := fourth.toNat
        if isSecondOfFour a b && isTail c && isTail d then
          some (Char.ofNat
            ((a - 0xF0) * 0x40000 + (b - 0x80) * 0x1000 + (c - 0x80) * 0x40 + (d - 0x80)), 4)
        else none
      | _ => none
    else none

/-- The valid characters from the point where `skip` more bytes belong to the last one. -/
def decodeValidFrom : Nat → List UInt8 → List Char
  | _, [] => []
  | skip + 1, _ :: rest => decodeValidFrom skip rest
  | 0, b :: rest =>
    match leading? (b :: rest) with
    | some (c, width) => c :: decodeValidFrom (width - 1) rest
    | none => decodeValidFrom 0 rest

/-- The characters of the well-formed sequences, in order, without the bytes that are part of none. -/
def decodeValid (bytes : List UInt8) : List Char := decodeValidFrom 0 bytes

/-- The text from the point where `skip` more bytes belong to the last character. -/
def decodeFrom? : Nat → List UInt8 → Option (List Char)
  | 0, [] => some []
  | _ + 1, [] => none
  | skip + 1, _ :: rest => decodeFrom? skip rest
  | 0, b :: rest =>
    match leading? (b :: rest) with
    | some (c, width) => (decodeFrom? (width - 1) rest).map (c :: ·)
    | none => none

/-- The text that the bytes encode, if every one of them is part of a well-formed sequence. -/
def decode? (bytes : List UInt8) : Option (List Char) := decodeFrom? 0 bytes

end Blackjack.Text
