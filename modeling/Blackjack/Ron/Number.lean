import Blackjack.Ron.Name
import Blackjack.Ron.Quoted
import Blackjack.Text.Decimal

/-!
# Numbers

An integer has an optional sign, an optional base (`0x`, `0b`, `0o`), digits with underscores after
the first, and an optional type as its suffix. `unsigned?` reads one of a given width. `skipNumber?`
passes over a number of any kind: an integer that fits no type is still a number, because it can be
read as one with a fraction. `skipRange?` passes over a number or a range, which has two points
between its bounds and no white space. Each bound may be missing, but not one that `..=` includes.
-/

namespace Blackjack.Ron

/-- The characters that a row of digits is made of. -/
def isIntegerChar (c : Char) : Bool := (hexValue? c).isSome || c = '_'

/-- The characters that a number with a fraction or an exponent is made of. -/
def isFloatChar (c : Char) : Bool :=
  c.isDigit || c = 'e' || c = 'E' || c = '.' || c = '+' || c = '-' || c = '_'

/-- Splits off the characters of a number with a fraction or an exponent; two points end it. -/
def spanFloat : List Char → List Char × List Char
  | '.' :: '.' :: rest => ([], '.' :: '.' :: rest)
  | c :: rest =>
    if isFloatChar c then
      let (number, rest) := spanFloat rest
      (c :: number, rest)
    else ([], c :: rest)
  | [] => ([], [])

section Span

variable {c : Char} {rest : List Char}

/-- Where it is no first of two points, one character is looked at. -/
theorem spanFloat_cons (single : c = '.' → rest.head? ≠ some '.') : spanFloat (c :: rest) =
    if isFloatChar c then (c :: (spanFloat rest).1, (spanFloat rest).2) else ([], c :: rest) := by
  rw [spanFloat]
  rintro more rfl rfl
  exact single rfl rfl

theorem spanFloat_of_not (other : isFloatChar c = false) (rest : List Char) :
    spanFloat (c :: rest) = ([], c :: rest) := by
  rw [spanFloat_cons, if_neg (by simp [other])]
  rintro rfl
  cases other

end Span

/-- The value of digits in a base, without their underscores. -/
def digitsValue? (base : Nat) (digits : List Char) : Option Nat :=
  (digits.filter (· ≠ '_')).foldl
    (fun value c => do
      let d ← hexValue? c
      if d < base then return base * (← value) + d else none)
    (some 0)

/-- A row of digits in a base, and what follows it. -/
def digitsIn? (base : Nat) (text : List Char) : Option (Nat × List Char) :=
  let (digits, rest) := spanChars isIntegerChar text
  if digits = [] ∨ digits.head? = some '_' then none
  else (digitsValue? base digits).map fun value => (value, rest)

/-- An integer without its sign and suffix, and what follows it. -/
def magnitude? (text : List Char) : Option (Nat × List Char) :=
  match text with
  | '0' :: 'x' :: rest => digitsIn? 16 rest
  | '0' :: 'b' :: rest => digitsIn? 2 rest
  | '0' :: 'o' :: rest => digitsIn? 8 rest
  | _ => digitsIn? 10 text

/-- The types of integers. -/
structure IntegerType where
  signed : Bool
  bits : Nat
  deriving DecidableEq, Repr

/-- The name of a type, as it stands behind a number. -/
def IntegerType.suffix (type : IntegerType) : String :=
  (if type.signed then "i" else "u") ++ toString type.bits

/-- Whether a number with this sign and magnitude belongs to a type. -/
def IntegerType.holds (type : IntegerType) (negative : Bool) (magnitude : Nat) : Bool :=
  if type.signed then
    if negative then magnitude ≤ 1 <<< (type.bits - 1) else magnitude < 1 <<< (type.bits - 1)
  else if negative then magnitude = 0
  else magnitude < 1 <<< type.bits

/-- The types that a suffix can name. -/
def integerTypes : List IntegerType :=
  [⟨true, 8⟩, ⟨true, 16⟩, ⟨true, 32⟩, ⟨true, 64⟩, ⟨false, 8⟩, ⟨false, 16⟩, ⟨false, 32⟩, ⟨false, 64⟩]

/-- An integer as it is written. -/
structure Integer where
  negative : Bool
  magnitude : Nat
  /-- The type that its suffix names. -/
  type : Option IntegerType
  deriving DecidableEq, Repr

/-- Splits off a sign. -/
def sign : List Char → Bool × List Char
  | '-' :: rest => (true, rest)
  | '+' :: rest => (false, rest)
  | text => (false, text)

/-- The type whose name stands alone at the start of a text, and what follows it. -/
def suffix? (text : List Char) : Option (IntegerType × List Char) :=
  integerTypes.findSome? fun type => (word? type.suffix text).map fun rest => (type, rest)

/-- An integer, and what follows it. A suffix must name a type that holds the number. -/
def integer? (text : List Char) : Option (Integer × List Char) := do
  let (negative, text) := sign text
  let (magnitude, rest) ← magnitude? text
  match suffix? rest with
  | some (type, rest) =>
    if type.holds negative magnitude then return (⟨negative, magnitude, some type⟩, rest) else none
  | none => return (⟨negative, magnitude, none⟩, rest)

/-- An unsigned integer of a width, and what follows it. A suffix must name just that type. -/
def unsigned? (bits : Nat) (text : List Char) : Option (Nat × List Char) := do
  let (number, rest) ← integer? text
  let type : IntegerType := ⟨false, bits⟩
  if type.holds number.negative number.magnitude ∧ number.type.getD type = type then
    return (number.magnitude, rest)
  else none

/-- The characters of a number without its underscores, none of which follows a point or a sign. -/
def withoutUnderscores? : Bool → List Char → Option (List Char)
  | _, [] => some []
  | allowed, c :: rest =>
    if c = '_' then if allowed then withoutUnderscores? allowed rest else none
    else
      let allowed :=
        if c.isDigit || c = 'e' || c = 'E' then true else if c = '.' then false else allowed
      (withoutUnderscores? allowed rest).map (c :: ·)

/-- Whether a text is empty or an exponent. -/
def isExponent : List Char → Bool
  | [] => true
  | c :: rest => (c = 'e' || c = 'E') && (Text.numeral? (sign rest).2).isSome

/-- Whether a text is a decimal number, with a digit before or after its point. -/
def isDecimal (text : List Char) : Bool :=
  let (whole, rest) := spanChars Char.isDigit (sign text).2
  match rest with
  | '.' :: rest =>
    let (fraction, rest) := spanChars Char.isDigit rest
    (whole ≠ [] || fraction ≠ []) && isExponent rest
  | rest => whole ≠ [] && isExponent rest

/-- The words for the numbers that have no digits. -/
def floatWords : List String :=
  ["inf", "inff32", "inff64", "NaN", "NaNf32", "NaNf64"]

/-- What follows a number with a fraction, an exponent or no digits at all. -/
def skipFloat? (text : List Char) : Option (List Char) :=
  match floatWords.findSome? fun word => word? word (sign text).2 with
  | some rest => some rest
  | none =>
    let (digits, rest) := spanFloat text
    match withoutUnderscores? false digits with
    | some number =>
      if isDecimal number then
        some (((word? "f32" rest) <|> word? "f64" rest).getD rest)
      else none
    | none => none

/-- Whether more characters belong to a fractional number than to an integer. -/
def looksFractional (text : List Char) : Bool :=
  let (_, text) := sign text
  (text.takeWhile isIntegerChar).length < (spanFloat text).1.length

/-- What follows a literal of one byte. -/
def skipByte? (text : List Char) : Option (List Char) :=
  match text with
  | 'b' :: '\'' :: '\\' :: rest =>
    match escape? rest with
    | some (.byte _, width) => token? "'" (rest.drop width)
    | _ => none
  | 'b' :: '\'' :: c :: rest => if c.toNat < 0x80 then token? "'" rest else none
  | _ => none

/-- What follows a number in digits. -/
def skipDigits? (text : List Char) : Option (List Char) :=
  if looksFractional text then skipFloat? text
  else
    match integer? text with
    | some (number, rest) =>
      let widest : IntegerType := ⟨number.negative, 64⟩
      if widest.holds number.negative number.magnitude then some rest else skipFloat? text
    | none => skipFloat? text

/-- What follows a number of any kind: a word, a byte or a number in digits. -/
def skipNumber? (text : List Char) : Option (List Char) :=
  match floatWords.findSome? fun word => word? word text with
  | some rest => some rest
  | none =>
    match text with
    | 'b' :: '\'' :: _ => skipByte? text
    | c :: _ =>
      if c.isDigit || c = '+' || c = '-' || c = '.' then skipDigits? text else none
    | [] => none

/-- What follows a number or a range of numbers. -/
def skipRange? (text : List Char) : Option (List Char) :=
  let lower := skipNumber? text
  let rest := lower.getD text
  match token? "..=" rest, token? ".." rest with
  | some rest, _ => skipNumber? rest
  | none, some rest => some ((skipNumber? rest).getD rest)
  | none, none => lower

end Blackjack.Ron
