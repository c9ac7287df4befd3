import Blackjack.Ron.Number

/-!
# Values that are passed over

A field that nobody asked for may hold any value: numbers and ranges, texts, characters, options,
lists, maps, tuples, and structures with or without a name. `skipValue?` finds the end of such a
value. Values may be nested only so deep; a list, a map, a tuple or a structure takes one step of
the depth for itself and one for its elements, an option takes one. A document can allow two more
ways to write an option: without brackets, or without those of the tuple or structure that it holds.
-/

namespace Blackjack.Ron

/-- How deep a document may be nested. -/
def depthLimit : Nat := 128

/-- A reader that only finds the end of what it reads. -/
abbrev Skip := List Char → Option (List Char)

/-- How an option may be written besides `Some( )` around a value. -/
structure OptionRules where
  /-- A value may follow `Some` without brackets. -/
  bare : Bool := false
  /-- A tuple or a structure needs no brackets of its own, and the empty tuple is nothing. -/
  unwrapped : Bool := false
  deriving DecidableEq, Repr

/-- What stands between two brackets. -/
inductive Content where
  | elements
  /-- Keys with values, where a key is a value too. -/
  | entries
  /-- Names with values. -/
  | fields
  deriving DecidableEq, Repr

/-- Passes over the value behind a key, and over the colon between them. -/
def skipKeyed? (skip : Skip) (text : List Char) : Option (List Char) := do
  match ← skipSpace? text with
  | ':' :: rest => skip (← skipSpace? rest)
  | _ => none

/-- Passes over a part of the content, which may be followed by a comma. -/
def skipPart? (skip : Skip) (content : Content) (text : List Char) : Option (Bool × List Char) := do
  match content with
  | .elements => comma? (← skip text)
  | .entries => comma? (← skipKeyed? skip (← skip text))
  | .fields => comma? (← skipKeyed? skip (← key? text).2)

/--
Passes over parts up to the closing character. Every part but the last needs its comma. The first
list is as long as the number of parts can be.
-/
def skipParts? (skip : Skip) (content : Content) (closing : Char) : List Char → Skip
  | [], _ => none
  | _ :: fuel, text => do
    match ← skipSpace? text with
    | [] => none
    | c :: rest =>
      if c = closing then some rest
      else
        let (separated, rest) ← skipPart? skip content (c :: rest)
        if separated then skipParts? skip content closing fuel rest
        else token? (String.ofList [closing]) rest

/--
Passes over everything between two brackets. The list `deeper` holds a reader for values one step
deeper than the brackets, one for two steps, and so on as far as values may be nested.
-/
def skipBracketed? (deeper : List Skip) (content : Content) (closing : Char) (text : List Char) :
    Option (List Char) :=
  if deeper.isEmpty then none
  else skipParts? (deeper[1]?.getD fun _ => none) content closing text text

/-- Whether there are named fields, seen from behind an opening bracket. -/
def hasFields (text : List Char) : Bool :=
  match skipSpace? text with
  | some text =>
    match name? text with
    | some (_, rest) => ((skipSpace? rest).bind List.head?) = some ':'
    | none => false
  | none => false

/-- Passes over a structure or tuple behind its name, if it has one; a name alone is a value. -/
def skipStructure? (deeper : List Skip) (text : List Char) : Option (List Char) :=
  match text with
  | '(' :: rest => skipBracketed? deeper (if hasFields rest then .fields else .elements) ')' rest
  | _ => some text

/--
Passes over a character, a string and bytes that stand close together, each only if it is there, and
over the white space behind them, so that the brackets and commas inside of them are not taken for
those around. What begins as a string or bytes has to be that.
-/
def skipLiterals? (text : List Char) : Option (List Char) := do
  let text := (skipChar? text).getD text
  let text ← if opensString text then skipString? text else some text
  skipSpace? (← if opensBytes text then skipBytes? text else some text)

/-- How many brackets are open after a character. -/
def bracketsAfter (depth : Nat) (c : Char) : Nat :=
  if c = '(' ∨ c = '[' ∨ c = '{' then depth + 1
  else if c = ')' ∨ c = ']' ∨ c = '}' then depth - 1
  else depth

/--
Whether something other than the closing bracket follows the first comma that is inside of the
outermost brackets only, with so many brackets open. The first list is as long as the text can be.
-/
def hasSecond? : List Char → Nat → List Char → Option Bool
  | _, 0, _ => some false
  | [], _, _ => none
  | _ :: fuel, depth, text => do
    match ← skipLiterals? (← skipSpace? text) with
    | [] => none
    | c :: rest =>
      if c = ',' ∧ depth = 1 then return (← skipSpace? rest).head? ≠ some ')'
      else hasSecond? fuel (bracketsAfter depth c) rest

/-- What an option holds that is unwrapped: named fields, several elements, or else one value. -/
def unwrapped? (text : List Char) : Option (Option Content) :=
  if hasFields text then some (some .fields)
  else do
    let rest ← skipSpace? (((name? text).map Prod.snd).getD text)
    return if ← hasSecond? rest 1 rest then some .elements else none

/-- Passes over the value of an option behind the word `Some`. -/
def skipOption? (rules : OptionRules) (deeper : List Skip) (text : List Char) :
    Option (List Char) := do
  match ← skipSpace? text, deeper with
  | '(' :: rest, skip :: deeper =>
    let rest ← skipSpace? rest
    if rules.unwrapped ∧ rest.head? = some ')' then return rest.tail
    else
      match ← if rules.unwrapped then unwrapped? rest else some none with
      | some content => skipBracketed? deeper content ')' rest
      | none =>
        let (_, rest) ← comma? (← skip rest)
        token? ")" rest
  | text, skip :: _ => if rules.bare then skip text else none
  | _, [] => none

/-- The words that are values by themselves and no numbers. -/
def valueWords : List String := ["true", "false", "None"]

/-- What follows a word that is a value, or the empty tuple. -/
def skipWord? (text : List Char) : Option (List Char) :=
  (valueWords.findSome? fun word => word? word text) <|> token? "()" text

/-- Passes over a value that has no name, but brackets or quotes. -/
def skipUnnamed? (deeper : List Skip) (text : List Char) : Option (List Char) :=
  match text with
  | '(' :: _ => skipStructure? deeper text
  | '[' :: rest => skipBracketed? deeper .elements ']' rest
  | '{' :: rest => skipBracketed? deeper .entries '}' rest
  | '"' :: _ | 'r' :: _ => skipString? text
  | 'b' :: _ => skipBytes? text
  | '\'' :: _ => skipChar? text
  | _ => none

/-- Passes over a value, given the readers for deeper values. -/
def skipValueWith? (rules : OptionRules) (deeper : List Skip) (text : List Char) :
    Option (List Char) :=
  match skipWord? text <|> skipRange? text with
  | some rest => some rest
  | none =>
    match word? "Some" text with
    | some rest => skipOption? rules deeper rest
    | none =>
      match name? text with
      | some (_, rest) => do skipStructure? deeper (← skipSpace? rest)
      | none => skipUnnamed? deeper text

/-- The readers for values one step below a depth, two steps below it, and so on down to none. -/
def deeperSkips (rules : OptionRules) : Nat → List Skip
  | 0 => []
  | depth + 1 => skipValueWith? rules (deeperSkips rules depth) :: deeperSkips rules depth

/-- Passes over a value of at most this depth. -/
def skipValue? (rules : OptionRules) (depth : Nat) : Skip :=
  skipValueWith? rules (deeperSkips rules depth)

end Blackjack.Ron
