/-!
# White space between tokens

Between two tokens of a document may stand white space, line comments and block comments, which may
be nested. A slash that starts no comment, and a block comment that is not closed, are no white
space and no token either.
-/

namespace Blackjack.Ron

/-- The characters with the Unicode property `Pattern_White_Space`. -/
def isSpace (c : Char) : Bool :=
  let n := c.toNat
  (0x09 ≤ n && n ≤ 0x0D) || n == 0x20 || n == 0x85 || n == 0x200E || n == 0x200F ||
    n == 0x2028 || n == 0x2029

/-- Where white space is being read: in no comment, in a line, or in a block inside of others. -/
inductive Surrounding where
  | plain
  | line
  | block (depth : Nat)
  deriving DecidableEq, Repr

/-- What follows the white space that began in a surrounding. -/
def skipFrom? : Surrounding → List Char → Option (List Char)
  | .plain, [] => some []
  | .plain, '/' :: '/' :: rest => skipFrom? .line rest
  | .plain, '/' :: '*' :: rest => skipFrom? (.block 0) rest
  | .plain, '/' :: _ => none
  | .plain, c :: rest => if isSpace c then skipFrom? .plain rest else some (c :: rest)
  | .line, [] => some []
  | .line, c :: rest => skipFrom? (if c = '\n' then .plain else .line) rest
  | .block _, [] => none
  | .block depth, '/' :: '*' :: rest => skipFrom? (.block (depth + 1)) rest
  | .block 0, '*' :: '/' :: rest => skipFrom? .plain rest
  | .block (depth + 1), '*' :: '/' :: rest => skipFrom? (.block depth) rest
  | .block depth, _ :: rest => skipFrom? (.block depth) rest

/-- What follows the white space at the start of a text. -/
def skipSpace? (text : List Char) : Option (List Char) := skipFrom? .plain text

section First

variable {c : Char}

/-- Where no comment begins, one character is looked at. -/
theorem skipSpace?_of_ne (plain : c ≠ '/') (rest : List Char) :
    skipSpace? (c :: rest) = if isSpace c then skipSpace? rest else some (c :: rest) := by
  simp [skipSpace?, skipFrom?, plain]

theorem skipSpace?_cons (space : isSpace c = true) (rest : List Char) :
    skipSpace? (c :: rest) = skipSpace? rest := by
  have plain : c ≠ '/' := by
    rintro rfl
    cases space
  rw [skipSpace?_of_ne plain, if_pos space]

/-- White space ends at a character that is none and begins no comment. -/
theorem skipSpace?_of_solid (solid : isSpace c = false) (plain : c ≠ '/') (rest : List Char) :
    skipSpace? (c :: rest) = some (c :: rest) := by
  simp [skipSpace?_of_ne plain, solid]

/-- A line comment is passed over until its line ends. -/
theorem skipFrom?_line_cons (other : c ≠ '\n') (rest : List Char) :
    skipFrom? .line (c :: rest) = skipFrom? .line rest := by
  rw [skipFrom?, if_neg other]

end First

/-- What follows a token, if the text starts with it. -/
def token? (token : String) (text : List Char) : Option (List Char) :=
  if token.toList.isPrefixOf text then some (text.drop token.length) else none

/-- What follows a comma and the white space around it, and whether there is a comma at all. -/
def comma? (text : List Char) : Option (Bool × List Char) := do
  match ← skipSpace? text with
  | ',' :: rest => return (true, ← skipSpace? rest)
  | rest => return (false, rest)

end Blackjack.Ron
