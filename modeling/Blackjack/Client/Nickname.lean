/-!
# Nicknames

A nickname has three to ten characters and neither of the two characters that separate fields in
the server's messages. Its length is looked at first.
-/

namespace Blackjack.Nickname

/-- Why a nickname is refused. -/
inductive Refusal where
  | length
  | separator
  deriving DecidableEq, Repr

/-- The wording of a refusal. -/
def Refusal.message : Refusal → String
  | .length => "must be 3 to 10 characters long"
  | .separator => "must not contain ';' or ':'"

/-- What speaks against a nickname, if anything does. -/
def refusal? (nickname : String) : Option Refusal :=
  if ¬(3 ≤ nickname.length ∧ nickname.length ≤ 10) then some .length
  else if nickname.toList.any (fun c => c = ';' || c = ':') then some .separator
  else none

end Blackjack.Nickname
