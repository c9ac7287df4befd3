import Blackjack.Ron.Space
import Blackjack.Text.Printable
import Blackjack.Text.Utf8

/-!
# String literals

`quote` writes a text between double quotes: both quotes, the backslash and the usual controls get a
short escape, every other character that is not printable its code point in hexadecimal digits.
`string?` reads a literal back. It also knows two-digit escapes, which stand for single bytes of the
encoded text, a backslash at the end of a line, which joins the line with the next one, and raw
literals, which have no escapes and end at a quote with as many `#` as they began with.
-/

namespace Blackjack.Ron

/-- The digits of a number in lower-case hexadecimal. -/
def hexDigits (n : Nat) : List Char := Nat.toDigits 16 n

/-- A character as it stands in a string literal. -/
def escapeChar (c : Char) : List Char :=
  match c with
  | '\x00' => ['\\', '0']
  | '\t' => ['\\', 't']
  | '\n' => ['\\', 'n']
  | '\r' => ['\\', 'r']
  | '"' => ['\\', '"']
  | '\'' => ['\\', '\'']
  | '\\' => ['\\', '\\']
  | c => if Text.isPrintable c then [c] else ['\\', 'u', '{'] ++ hexDigits c.toNat ++ ['}']

/-- A text as a string literal. -/
def quote (text : List Char) : List Char :=
  '"' :: text.flatMap escapeChar ++ ['"']

/-- The value of a hexadecimal digit in either case. -/
def hexValue? (c : Char) : Option Nat :=
  if c.isDigit then some (c.toNat - '0'.toNat)
  else if 'a' ≤ c ∧ c ≤ 'f' then some (c.toNat - 'a'.toNat + 10)
  else if 'A' ≤ c ∧ c ≤ 'F' then some (c.toNat - 'A'.toNat + 10)
  else none

/-- The value of a row of hexadecimal digits. -/
def hexNumber? (digits : List Char) : Option Nat :=
  digits.foldl (fun value c => do return 16 * (← value) + (← hexValue? c)) (some 0)

/-- The character with this code point, if there is one. -/
def ofCodePoint? (n : Nat) : Option Char :=
  if n < 0xD800 ∨ (0xDFFF < n ∧ n < 0x110000) then some (Char.ofNat n) else none

/-- The byte of an escape of one character. -/
def shortEscape? : Char → Option UInt8
  | '\'' => some 0x27
  | '"' => some 0x22
  | '\\' => some 0x5C
  | 'n' => some 0x0A
  | 'r' => some 0x0D
  | 't' => some 0x09
  | '0' => some 0x00
  | _ => none

/-- What an escape stands for. -/
inductive Escape where
  | byte (b : UInt8)
  | char (c : Char)
  deriving DecidableEq, Repr

/-- The escape that follows a backslash, and how many characters it takes. -/
def escape? (text : List Char) : Option (Escape × Nat) :=
  match text with
  | 'x' :: a :: b :: _ => (hexNumber? [a, b]).map fun n => (.byte (UInt8.ofNat n), 3)
  | 'u' :: '{' :: rest =>
    let digits := (rest.take 7).takeWhile (· ≠ '}')
    if digits = [] ∨ (rest.drop digits.length).head? ≠ some '}' ∨ 6 < digits.length then none
    else do
      let c ← ofCodePoint? (← hexNumber? digits)
      return (.char c, digits.length + 3)
  | c :: _ => (shortEscape? c).map fun b => (.byte b, 1)
  | [] => none

/-- The character that an escape writes by itself: a byte only does so in ASCII. -/
def Escape.char? : Escape → Option Char
  | .byte b => if b < 0x80 then some (Char.ofNat b.toNat) else none
  | .char c => some c

/-- The bytes of so many two-digit escapes in a row, the first without its backslash. -/
def byteRow : Nat → List Char → List UInt8
  | count + 1, 'x' :: a :: b :: rest =>
    match hexNumber? [a, b], rest with
    | some n, '\\' :: rest => UInt8.ofNat n :: byteRow count rest
    | some n, _ => [UInt8.ofNat n]
    | none, _ => []
  | _, _ => []

/-- The character beyond ASCII that two to four escapes write, byte by byte, and their width. -/
def encodedChar? (text : List Char) : Option (Char × Nat) :=
  let bytes := byteRow 4 text
  [2, 3, 4].findSome? fun count =>
    match Text.decode? (bytes.take count) with
    | some [c] => some (c, 4 * count - 1)
    | _ => none

/-- The white space that is left out where a line is continued. -/
def isLineSpace (c : Char) : Bool := c = ' ' || c = '\t' || c = '\n' || c = '\r'

/--
How many characters belong to the end of a line that a backslash continues: the end itself, and all
white space up to the continuation.
-/
def lineEnd? (text : List Char) : Option Nat :=
  if (token? "\n" text).isSome || (token? "\r\n" text).isSome then
    some (text.takeWhile isLineSpace).length
  else none

/-- What the rest of an escape adds to a text, and how many characters it takes. -/
def textEscape? (text : List Char) : Option (List Char × Nat) :=
  match lineEnd? text, escape? text with
  | some width, _ => some ([], width)
  | none, some (escape, width) =>
    match escape.char? with
    | some c => some ([c], width)
    | none => (encodedChar? text).map fun (c, width) => ([c], width)
  | none, none => none

/-- The same in a literal of bytes, whose content does not count. -/
def bytesEscape? (text : List Char) : Option (List Char × Nat) :=
  ((lineEnd? text) <|> (escape? text).map Prod.snd).map fun width => ([], width)

/--
The content of a literal up to its closing quote, and what follows it, given how to read its
escapes, from the point where `skip` more characters belong to the last one.
-/
def quotedFrom? (read? : List Char → Option (List Char × Nat)) :
    Nat → List Char → Option (List Char × List Char)
  | _, [] => none
  | skip + 1, _ :: rest => quotedFrom? read? skip rest
  | 0, '"' :: rest => some ([], rest)
  | 0, '\\' :: rest =>
    match read? rest with
    | some (content, width) =>
      (quotedFrom? read? width rest).map fun (later, rest) => (content ++ later, rest)
    | none => none
  | 0, c :: rest => (quotedFrom? read? 0 rest).map fun (later, rest) => (c :: later, rest)

/-- The content of a raw literal up to its closing mark, and what follows that mark. -/
def rawFrom? (closing : List Char) : List Char → Option (List Char × List Char)
  | [] => none
  | c :: rest =>
    if closing.isPrefixOf (c :: rest) then some ([], (c :: rest).drop closing.length)
    else (rawFrom? closing rest).map fun (content, rest) => (c :: content, rest)

/-- Whether the mark that opens a raw literal follows its first letters. -/
def opensRaw (text : List Char) : Bool := (text.dropWhile (· = '#')).head? = some '"'

/-- The content of a raw literal after its first letters. -/
def raw? (text : List Char) : Option (List Char × List Char) :=
  let hashes := text.takeWhile (· = '#')
  match text.dropWhile (· = '#') with
  | '"' :: rest => rawFrom? ('"' :: hashes) rest
  | _ => none

/-- Whether a text begins as a string literal does. -/
def opensString : List Char → Bool
  | '"' :: _ => true
  | 'r' :: rest => opensRaw rest
  | _ => false

/-- The text of a string literal, and what follows it. -/
def string? (text : List Char) : Option (List Char × List Char) :=
  match text with
  | '"' :: rest => quotedFrom? textEscape? 0 rest
  | 'r' :: rest => raw? rest
  | _ => none

/-- What follows a string literal. -/
def skipString? (text : List Char) : Option (List Char) := (string? text).map Prod.snd

/-- Whether a text begins as a literal of bytes does. -/
def opensBytes : List Char → Bool
  | 'b' :: '"' :: _ => true
  | 'b' :: 'r' :: rest => opensRaw rest
  | _ => false

/-- What follows a literal of bytes. -/
def skipBytes? (text : List Char) : Option (List Char) :=
  match text with
  | 'b' :: '"' :: rest => (quotedFrom? bytesEscape? 0 rest).map Prod.snd
  | 'b' :: 'r' :: rest => (raw? rest).map Prod.snd
  | _ => none

/-- What follows a literal of one character, which an escape of one byte can write only in ASCII. -/
def skipChar? (text : List Char) : Option (List Char) :=
  match text with
  | '\'' :: '\\' :: rest => do
    let (escape, width) ← escape? rest
    if escape.char?.isSome then token? "'" (rest.drop width) else none
  | '\'' :: _ :: rest => token? "'" rest
  | _ => none

end Blackjack.Ron
