import Blackjack.Ron.Space
import Blackjack.Text.Identifier

/-!
# Names

A name is an identifier, or `r#` and a row of characters that may also be points and signs. Where a
key is expected, an identifier that runs into a point or a sign is refused; where a value is
expected, it ends there. The letters that begin a string literal are no name.
-/

namespace Blackjack.Ron

/-- The characters of a name that is written with `r#`. -/
def isRawNameChar (c : Char) : Bool :=
  Text.isIdentifierRest c || c = '.' || c = '+' || c = '-'

/-- Splits off the characters of a class at the start of a text. -/
def spanChars (keep : Char → Bool) (text : List Char) : List Char × List Char :=
  (text.takeWhile keep, text.dropWhile keep)

/-- What follows a word that stands alone at the start of a text. -/
def word? (word : String) (text : List Char) : Option (List Char) :=
  match token? word text with
  | some rest => if rest.head?.any Text.isIdentifierRest then none else some rest
  | none => none

/-- A name in the place of a key, and what follows it. -/
def key? (text : List Char) : Option (List Char × List Char) :=
  match text with
  | 'r' :: '#' :: rest =>
    let (name, rest) := spanChars isRawNameChar rest
    if name = [] then none else some (name, rest)
  | first :: _ =>
    if Text.isIdentifierStart first then
      let (name, rest) := spanChars Text.isIdentifierRest text
      if rest.head?.any isRawNameChar then none else some (name, rest)
    else none
  | [] => none

/-- The beginnings of string and byte literals. -/
def literalStarts : List String :=
  ["b\"", "b'", "br#", "br\"", "r\"", "r#\"", "r##"]

/-- A name in the place of a value, and what follows it. -/
def name? (text : List Char) : Option (List Char × List Char) :=
  if literalStarts.any (fun start => start.toList.isPrefixOf text) then none
  else
    match text with
    | 'r' :: '#' :: rest =>
      let (name, rest) := spanChars isRawNameChar rest
      if name = [] then none else some (name, rest)
    | first :: _ =>
      if Text.isIdentifierStart first then some (spanChars Text.isIdentifierRest text) else none
    | [] => none

end Blackjack.Ron
