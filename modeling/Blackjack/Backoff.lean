import Blackjack.Binary64
import Blackjack.Session.Basic

/-!
# Pacing the redials

`Backoff` counts the redials handed out since the link was last healthy and says how long to wait
before the next. The wait grows from the initial delay by a constant factor up to a longest one, and
is spread by a random factor around one. Growth and spread are computed in double precision on
seconds; the results are durations in whole nanoseconds. `Backoff.next` takes the random factor as
an argument, so a run of it is determined by the factors drawn.
-/

namespace Blackjack

namespace Duration

/-- The seconds of a duration in double precision: the whole ones plus the fraction. -/
def toSeconds (d : Duration) : Binary64 :=
  (Binary64.ofNat d.secs).add (Binary64.ofRatio false d.subsecNanos 1000000000)

/-- The duration nearest to a number of seconds, below `2 ^ 64` seconds and not negative. -/
def ofSeconds? : Binary64 → Option Duration
  | .finite negative mantissa exponent =>
    let (num, den) := Binary64.scaled mantissa 1 (-exponent)
    if negative && mantissa != 0 then none
    else if den * UInt64.size ≤ num then none
    else some (divideHalfEven (num * 1000000000) den)
  | _ => none

end Duration

/-- An instant lies less than `2 ^ 63` seconds after the origin. -/
def Instant.after? (now : Instant) (delay : Duration) : Option Instant :=
  if now + delay < Duration.ofSecs (UInt64.size / 2) then some (now + delay) else none

/-- How the waits grow and how many there are. -/
structure BackoffPolicy where
  /-- The wait before the first redial. -/
  initialDelay : Duration := Duration.ofSecs 2
  /-- The factor from one wait to the next. -/
  multiplier : Binary64 := Binary64.ofNat 2
  /-- The longest wait. -/
  maxDelay : Duration := Duration.ofSecs 30
  /-- The redials handed out before giving up, if there is a bound. -/
  maxAttempts : Option Nat := none
  /-- The spread around each wait, from zero to one. -/
  jitter : Binary64 := Binary64.ofRatio false 1 4
  deriving DecidableEq, Repr

namespace BackoffPolicy

/-- The greatest number of redials that can be asked for. -/
def attemptLimit : Nat := UInt32.size - 1

/-- Allows one redial more than the session tolerates, so that the session gives up first. -/
def boundedBy (policy : BackoffPolicy) (session : SessionPolicy) : BackoffPolicy :=
  { policy with maxAttempts := some (min (session.maxReconnectAttempts + 1) attemptLimit) }

/-- The exponent stops growing here. -/
def exponentLimit : Nat := 32

/-- The wait before a redial without its spread, if it can be represented. -/
def baseDelay? (policy : BackoffPolicy) (attempt : Nat) : Option Duration :=
  let growth := policy.multiplier.pow (min attempt exponentLimit)
  let seconds := policy.initialDelay.toSeconds.mul growth
  Duration.ofSeconds? ((seconds.max Binary64.zero).min policy.maxDelay.toSeconds)

/-- Whether the waits are spread at all. -/
def isSpread (policy : BackoffPolicy) : Bool :=
  policy.jitter = .nan || Binary64.zero.lt policy.jitter

/-- The spread, at most one. -/
def spread (policy : BackoffPolicy) : Binary64 := policy.jitter.min Binary64.one

/-- The least and the greatest factor that a wait is multiplied by. -/
def factorRange (policy : BackoffPolicy) : Binary64 × Binary64 :=
  (Binary64.one.add policy.spread.neg, Binary64.one.add policy.spread)

/-- The factor at a position between the least and the greatest, from zero to one. -/
def factorAt (policy : BackoffPolicy) (position : Binary64) : Binary64 :=
  let (least, greatest) := policy.factorRange
  least.add ((greatest.add least.neg).mul position)

/-- A wait after its spread, again at most the longest one. -/
def spreadDelay? (policy : BackoffPolicy) (base : Duration) (factor : Binary64) :
    Option Duration :=
  if policy.isSpread then
    (Duration.ofSeconds? (factor.mul base.toSeconds)).map (min · policy.maxDelay)
  else some base

end BackoffPolicy

/-- What comes before the next redial. -/
inductive Wait (α : Type) where
  /-- The wait, or its end. -/
  | next (value : α)
  /-- All redials have been handed out. -/
  | exhausted
  /-- The wait or its end is too far away to be represented. -/
  | unrepresentable
  deriving DecidableEq, Repr

/-- The redials handed out since the link was last healthy. -/
structure Backoff where
  policy : BackoffPolicy
  attempts : Nat
  deriving DecidableEq, Repr

namespace Backoff

/-- No redial has been handed out. -/
def new (policy : BackoffPolicy) : Backoff := ⟨policy, 0⟩

/-- Whether all redials have been handed out. -/
def isExhausted (backoff : Backoff) : Bool :=
  backoff.policy.maxAttempts.any (· ≤ backoff.attempts)

/-- The wait before the next redial, which then counts as handed out. -/
def next (backoff : Backoff) (factor : Binary64) : Backoff × Wait Duration :=
  if backoff.isExhausted then (backoff, .exhausted)
  else
    match backoff.policy.baseDelay? backoff.attempts with
    | none => (backoff, .unrepresentable)
    | some base =>
      ({ backoff with attempts := backoff.attempts + 1 },
        match backoff.policy.spreadDelay? base factor with
        | some delay => .next delay
        | none => .unrepresentable)

/-- The moment of the next redial. -/
def nextDeadline (backoff : Backoff) (factor : Binary64) (now : Instant) :
    Backoff × Wait Instant :=
  match backoff.next factor with
  | (backoff, .next delay) =>
    (backoff, match now.after? delay with
      | some deadline => .next deadline
      | none => .unrepresentable)
  | (backoff, .exhausted) => (backoff, .exhausted)
  | (backoff, .unrepresentable) => (backoff, .unrepresentable)

/-- Traffic arrived: the next loss starts from the initial delay. -/
def reset (backoff : Backoff) : Backoff := { backoff with attempts := 0 }

end Backoff

end Blackjack
