/-!
# Decimal numerals

A numeral is one or more of the ten ASCII digits; leading zeros do not count.
-/

namespace Blackjack.Text

/-- The value of a digit. -/
def digitValue (c : Char) : Nat := c.toNat - '0'.toNat

/-- The value of a row of digits after those that are already read. -/
def valueFrom (value : Nat) (digits : List Char) : Nat :=
  digits.foldl (fun value c => 10 * value + digitValue c) value

/-- The value of a numeral. -/
def numeral? (text : List Char) : Option Nat :=
  if text ≠ [] ∧ text.all Char.isDigit then some (valueFrom 0 text) else none

/-- The value of a numeral that may have a plus sign in front. -/
def unsigned? : List Char → Option Nat
  | '+' :: digits => numeral? digits
  | digits => numeral? digits

/-- The value of a numeral that may have a sign in front. -/
def signed? : List Char → Option Int
  | '-' :: digits => (numeral? digits).map fun n => -(n : Int)
  | digits => (unsigned? digits).map fun n => (n : Int)

end Blackjack.Text
