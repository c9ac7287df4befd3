/-!
# Double precision numbers, exactly

A `Binary64` is a signed mantissa times a power of two, an infinity or a NaN. Every operation is the
exact one on the values followed by one rounding, `ofRatio`: to the nearest number with 53
significant binary digits and an exponent of at least `-1074`, an exact half going to the even
neighbour, and to infinity from half a unit above the largest such number.
-/

namespace Blackjack

/-- The integer nearest to `num / den`; an exact half goes to the even neighbour. -/
def divideHalfEven (num den : Nat) : Nat :=
  let quotient := num / den
  let twice := 2 * (num % den)
  if twice < den then quotient
  else if den < twice then quotient + 1
  else quotient + quotient % 2

/-- A number of the format; a finite one is `± mantissa * 2 ^ exponent`. -/
inductive Binary64 where
  | nan
  | infinite (negative : Bool)
  | finite (negative : Bool) (mantissa : Nat) (exponent : Int)
  deriving DecidableEq, Repr

namespace Binary64

/-- The fraction `num / den / 2 ^ exponent`, as numerator and denominator. -/
def scaled (num den : Nat) (exponent : Int) : Nat × Nat :=
  if 0 ≤ exponent then (num, den <<< exponent.toNat) else (num <<< (-exponent).toNat, den)

/-- The exponent of the greatest power of two that is not above `num / den`. -/
def floorLog2 (num den : Nat) : Int :=
  let guess : Int := (num.log2 : Int) - (den.log2 : Int)
  let (n, d) := scaled num den guess
  if d ≤ n then guess else guess - 1

/-- The number nearest to `± num / den`. -/
def ofRatio (negative : Bool) (num den : Nat) : Binary64 :=
  if num = 0 then .finite negative 0 0
  else
    let exponent := max (-1074) (floorLog2 num den - 52)
    let (n, d) := scaled num den exponent
    let mantissa := divideHalfEven n d
    if exponent + (mantissa.log2 : Int) ≥ 1024 then .infinite negative
    else .finite negative mantissa exponent

/-- The number nearest to a natural number. -/
def ofNat (n : Nat) : Binary64 := ofRatio false n 1

/-- The number nearest to `± digits * 10 ^ exponent`. -/
def ofDecimal (negative : Bool) (digits : Nat) (exponent : Int) : Binary64 :=
  if 0 ≤ exponent then ofRatio negative (digits * Nat.pow 10 exponent.toNat) 1
  else ofRatio negative digits (Nat.pow 10 (-exponent).toNat)

def zero : Binary64 := .finite false 0 0

def one : Binary64 := .finite false 1 0

/-- The number nearest to `± mantissa * 2 ^ exponent`. -/
def ofScaled (negative : Bool) (mantissa : Nat) (exponent : Int) : Binary64 :=
  if 0 ≤ exponent then ofRatio negative (mantissa <<< exponent.toNat) 1
  else ofRatio negative mantissa (1 <<< (-exponent).toNat)

/-- The product; a zero times an infinity is no number. -/
def mul : Binary64 → Binary64 → Binary64
  | .nan, _ | _, .nan => .nan
  | .infinite s, .infinite t => .infinite (s != t)
  | .infinite s, .finite t m _ | .finite s m _, .infinite t =>
    if m = 0 then .nan else .infinite (s != t)
  | .finite s m e, .finite t n f => ofScaled (s != t) (m * n) (e + f)

/-- A mantissa with its sign, moved to a smaller exponent. -/
def aligned (negative : Bool) (mantissa : Nat) (exponent target : Int) : Int :=
  let magnitude : Int := (mantissa <<< (exponent - target).toNat : Nat)
  if negative then -magnitude else magnitude

/-- The sum. A sum of zero is negative only when both terms are. -/
def add : Binary64 → Binary64 → Binary64
  | .nan, _ | _, .nan => .nan
  | .infinite s, .infinite t => if s = t then .infinite s else .nan
  | .infinite s, .finite .. | .finite .., .infinite s => .infinite s
  | .finite s m e, .finite t n f =>
    let target := min e f
    let total := aligned s m e target + aligned t n f target
    ofScaled (if total = 0 then s && t else total < 0) total.natAbs target

/-- The same magnitude with the other sign. -/
def neg : Binary64 → Binary64
  | .nan => .nan
  | .infinite s => .infinite !s
  | .finite s m e => .finite (!s) m e

/-- Whether the first number is below the second; a NaN is below nothing and above nothing. -/
def lt : Binary64 → Binary64 → Bool
  | .nan, _ | _, .nan => false
  | .infinite s, .infinite t => s && !t
  | .infinite s, .finite .. => s
  | .finite .., .infinite t => !t
  | .finite s m e, .finite t n f =>
    let target := min e f
    aligned s m e target < aligned t n f target

/-- The lesser of two numbers, or the one that is a number. -/
def min : Binary64 → Binary64 → Binary64
  | .nan, y => y
  | x, .nan => x
  | x, y => if y.lt x then y else x

/-- The greater of two numbers, or the one that is a number. -/
def max : Binary64 → Binary64 → Binary64
  | .nan, y => y
  | x, .nan => x
  | x, y => if x.lt y then y else x

/-- The product of `result` and a power of `base`, by repeated squaring from the lowest bit on. -/
def powFrom (result base : Binary64) (exponent : Nat) : Binary64 :=
  let result := if exponent % 2 = 1 then mul result base else result
  if exponent < 2 then result else powFrom result (mul base base) (exponent / 2)
termination_by exponent

/-- A power with a natural exponent. -/
def pow (base : Binary64) (exponent : Nat) : Binary64 := powFrom one base exponent

end Binary64

end Blackjack
