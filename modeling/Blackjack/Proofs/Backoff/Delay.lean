import Blackjack.Proofs.Backoff.Seconds
import Mathlib.Tactic.Linarith

/-!
# How long a redial waits

A wait is capped at the longest one of its policy. If waits are spread, the cap is on the duration
itself and holds exactly. If they are not, it is on the seconds in double precision, and the wait
can be longer by what the rounding of the longest one adds: nothing below `2 ^ 23` seconds, and a
part in `2 ^ 52` and a nanosecond at most. `Capped` says so of one wait, `capped_of_mem_delays` of
all that a `Backoff` hands out, and `le_maxDelay_iff` for which longest waits a longer one occurs.
-/

namespace Blackjack

open Binary64

variable {policy : BackoffPolicy} {attempt : ℕ} {base delay : Duration} {factor : Binary64}

namespace BackoffPolicy

/-- A wait is at most the longest one, up to the rounding of that to seconds if waits are not
spread. -/
structure Capped (policy : BackoffPolicy) (delay : Duration) : Prop where
  of_isSpread : policy.isSpread → delay ≤ policy.maxDelay
  of_lt : policy.maxDelay < Duration.ofSecs (2 ^ 23) → delay ≤ policy.maxDelay
  /-- The cap in seconds comes back as a duration that is longer or not. -/
  le_rounded : ∀ longest, Duration.ofSeconds? policy.maxDelay.toSeconds = some longest →
    delay ≤ max longest policy.maxDelay
  le_add : delay ≤ policy.maxDelay + policy.maxDelay / 2 ^ 52 + 1

theorem capped_of_le (le : delay ≤ policy.maxDelay) : policy.Capped delay :=
  ⟨fun _ => le, fun _ => le, fun _ _ => le.trans (Nat.le_max_right ..),
    le.trans (Nat.le_add_right_of_le (Nat.le_add_right ..))⟩

/-- Before it is spread, a wait is nearest to a number of seconds not above that of the longest. -/
theorem exists_nearest_of_baseDelay? (waits : policy.baseDelay? attempt = some base) :
    ∃ v : ℚ, v < 2 ^ 64 ∧ Nearest (v * 1000000000) base ∧
      ∀ cap, policy.maxDelay.toSeconds.value? = some cap → v ≤ cap := by
  obtain ⟨v, value, below, nearest⟩ := Duration.nearest_ofSeconds? waits
  exact ⟨v, below, nearest, fun cap finite => le_of_value?_min value finite⟩

/-- The longest wait goes to seconds with two roundings and a wait comes back with one, so it is
above by what they add up to at most. -/
theorem le_add_of_baseDelay? (waits : policy.baseDelay? attempt = some base) :
    base ≤ policy.maxDelay + policy.maxDelay / 2 ^ 52 + 1 := by
  obtain ⟨v, below, nearest, le_cap⟩ := exists_nearest_of_baseDelay? waits
  have le_seconds := nearest.le_add
  by_cases small : policy.maxDelay < Duration.ofSecs (2 ^ 64)
  · obtain ⟨cap, value, close⟩ := Duration.toSeconds_close small
    have le := le_cap cap value
    have high := (abs_le.mp close).2
    have small' : (policy.maxDelay : ℚ) < 2 ^ 64 * 1000000000 := by exact_mod_cast small
    have whole : (policy.maxDelay : ℚ) + 1 ≤ 2 ^ 52 * (policy.maxDelay / 2 ^ 52 : ℕ) + 2 ^ 52 := by
      exact_mod_cast Nat.lt_mul_div_succ policy.maxDelay (by norm_num : 0 < 2 ^ 52)
    refine Nat.le_of_lt_succ ?_
    rw [← @Nat.cast_lt ℚ]
    push_cast
    linarith
  · have above : (2 : ℚ) ^ 64 * 1000000000 ≤ policy.maxDelay := by exact_mod_cast not_lt.mp small
    refine Nat.le_add_right_of_le (Nat.le_add_right_of_le (Nat.le_of_lt_succ ?_))
    rw [← @Nat.cast_lt ℚ]
    push_cast
    linarith

theorem capped_of_baseDelay? (waits : policy.baseDelay? attempt = some base)
    (flat : policy.isSpread = false) : policy.Capped base where
  of_isSpread spread := by
    rw [flat] at spread
    cases spread
  of_lt small := by
    obtain ⟨v, -, nearest, le_cap⟩ := exists_nearest_of_baseDelay? waits
    obtain ⟨cap, value, nearest_cap⟩ := Duration.nearest_toSeconds small
    exact nearest.le_of_le nearest_cap (by linarith [le_cap cap value])
  le_rounded longest rounded := by
    obtain ⟨v, -, nearest, le_cap⟩ := exists_nearest_of_baseDelay? waits
    obtain ⟨cap, value, -, nearest_cap⟩ := Duration.nearest_ofSeconds? rounded
    exact (nearest.le_of_le nearest_cap (by linarith [le_cap cap value])).trans
      (Nat.le_max_left ..)
  le_add := le_add_of_baseDelay? waits

/-- Spread or not, a wait is capped. -/
theorem capped_of_spreadDelay? (waits : policy.baseDelay? attempt = some base)
    (spread : policy.spreadDelay? base factor = some delay) : policy.Capped delay := by
  unfold spreadDelay? at spread
  split at spread
  · obtain ⟨wait, -, rfl⟩ := Option.map_eq_some_iff.mp spread
    exact capped_of_le (Nat.min_le_right ..)
  · next flat =>
    cases spread
    exact capped_of_baseDelay? waits (Bool.eq_false_of_not_eq_true flat)

end BackoffPolicy

/-- What comes is a wait, not its failure. -/
def Wait.value? {α : Type} : Wait α → Option α
  | .next value => some value
  | .exhausted | .unrepresentable => none

theorem Wait.value?_eq_some_iff {α : Type} {wait : Wait α} {value : α} :
    wait.value? = some value ↔ wait = .next value := by
  cases wait <;> simp [value?]

namespace Backoff

variable {backoff : Backoff} {now deadline : Instant}

/-- One use of a `Backoff`, with the random factor that is drawn for it. -/
inductive Use where
  /-- Asks for the next wait. -/
  | next (factor : Binary64)
  /-- Asks for the moment at which the next wait ends. -/
  | nextDeadline (factor : Binary64) (now : Instant)
  | reset
  deriving DecidableEq, Repr

/-- What a use leaves, and the wait that it hands out. -/
def use (backoff : Backoff) : Use → Backoff × Option Duration
  | .next factor => ((backoff.next factor).1, (backoff.next factor).2.value?)
  | .nextDeadline factor now =>
    ((backoff.nextDeadline factor now).1,
      (backoff.nextDeadline factor now).2.value?.map fun deadline => deadline - now)
  | .reset => (backoff.reset, none)

/-- The waits that are handed out over a history of uses. -/
def delays : Backoff → List Use → List Duration
  | _, [] => []
  | backoff, use :: history =>
    (backoff.use use).2.toList ++ (backoff.use use).1.delays history

theorem policy_next (backoff : Backoff) (factor : Binary64) :
    (backoff.next factor).1.policy = backoff.policy := by
  unfold next
  split
  · rfl
  · split <;> rfl

theorem nextDeadline_fst (backoff : Backoff) (factor : Binary64) (now : Instant) :
    (backoff.nextDeadline factor now).1 = (backoff.next factor).1 := by
  unfold nextDeadline
  split <;> next result => rw [result]

/-- No use changes the policy. -/
theorem policy_use (backoff : Backoff) (u : Use) : (backoff.use u).1.policy = backoff.policy := by
  cases u with
  | next factor => exact policy_next backoff factor
  | nextDeadline factor now =>
    exact (congrArg policy (nextDeadline_fst backoff factor now)).trans (policy_next backoff factor)
  | reset => rfl

theorem capped_of_next (handed : (backoff.next factor).2 = .next delay) :
    backoff.policy.Capped delay := by
  unfold next at handed
  split at handed
  · cases handed
  split at handed
  · cases handed
  next base waits =>
  dsimp only at handed
  split at handed
  · next spread =>
    cases handed
    exact BackoffPolicy.capped_of_spreadDelay? waits spread
  · cases handed

/-- The end of a wait lies as far ahead as the wait is long. -/
theorem next_of_nextDeadline (handed : (backoff.nextDeadline factor now).2 = .next deadline) :
    (backoff.next factor).2 = .next (deadline - now) := by
  unfold nextDeadline at handed
  split at handed
  · next delay result =>
    rw [result]
    dsimp only at handed
    split at handed
    · next ahead =>
      cases handed
      unfold Instant.after? at ahead
      split at ahead
      · cases ahead
        rw [Nat.add_sub_cancel_left]
      · cases ahead
    · cases handed
  · cases handed
  · cases handed

/-- Each wait that a use hands out is capped. -/
theorem capped_of_use {u : Use} (handed : (backoff.use u).2 = some delay) :
    backoff.policy.Capped delay := by
  cases u with
  | next factor => exact capped_of_next (Wait.value?_eq_some_iff.mp handed)
  | nextDeadline factor now =>
    obtain ⟨deadline, ahead, rfl⟩ := Option.map_eq_some_iff.mp handed
    exact capped_of_next (next_of_nextDeadline (Wait.value?_eq_some_iff.mp ahead))
  | reset => cases handed

theorem capped_of_mem_delays {history : List Use} (mem : delay ∈ backoff.delays history) :
    backoff.policy.Capped delay := by
  induction history generalizing backoff with
  | nil => cases mem
  | cons u history ih =>
    obtain first | later := List.mem_append.mp mem
    · exact capped_of_use (Option.mem_toList.mp first)
    · rw [← policy_use backoff u]
      exact ih later

/-- Without a spread a wait is the one before it is spread. -/
theorem next_of_flat {attempts : ℕ} (flat : policy.isSpread = false)
    (left : (Backoff.mk policy attempts).isExhausted = false)
    (waits : policy.baseDelay? attempts = some base) :
    (Backoff.mk policy attempts).next factor = (⟨policy, attempts + 1⟩, .next base) := by
  simp [next, left, waits, BackoffPolicy.spreadDelay?, flat]

/-- A policy without spread whose waits reach the longest one with the second. -/
def steep (longest : Duration) : BackoffPolicy :=
  { multiplier := .finite false 1 1023, maxDelay := longest, jitter := zero }

section Steep

variable {cap longest : Duration}

theorem isSpread_steep (cap : Duration) : (steep cap).isSpread = false := by
  have flat : ((zero = nan) || zero.lt zero) = false := by decide
  exact flat

theorem baseDelay?_steep_zero (rounded : Duration.ofSeconds? cap.toSeconds = some longest) :
    ∃ base, (steep cap).baseDelay? 0 = some base := by
  have unbounded : Duration.ofSeconds?
      (((Duration.ofSecs 2).toSeconds.mul (pow (.finite false 1 1023) 0)).max zero) =
      some (Duration.ofSecs 2) := by decide +kernel
  unfold BackoffPolicy.baseDelay?
  obtain left | right := min_eq_or _ (steep cap).maxDelay.toSeconds
  · exact ⟨_, (congrArg Duration.ofSeconds? left).trans unbounded⟩
  · exact ⟨_, (congrArg Duration.ofSeconds? right).trans rounded⟩

theorem baseDelay?_steep_one (rounded : Duration.ofSeconds? cap.toSeconds = some longest) :
    (steep cap).baseDelay? 1 = some longest := by
  -- Two seconds times the greatest power of two are more than the format holds.
  have unbounded : ((Duration.ofSecs 2).toSeconds.mul (pow (.finite false 1 1023) 1)).max zero =
      .infinite false := by decide +kernel
  obtain ⟨v, value, -⟩ := Duration.nearest_ofSeconds? rounded
  obtain ⟨s, m, e, finite, -⟩ := exists_of_value? value
  have capped : (Binary64.infinite false).min cap.toSeconds = cap.toSeconds := by
    rw [finite]
    rfl
  rw [← rounded, ← capped, ← unbounded]
  rfl

/-- A longest wait is kept by every policy exactly if its seconds do not round up. -/
theorem le_maxDelay_iff (rounded : Duration.ofSeconds? cap.toSeconds = some longest) :
    (∀ (policy : BackoffPolicy) (history : List Use), policy.maxDelay = cap →
      ∀ delay ∈ (new policy).delays history, delay ≤ cap) ↔ longest ≤ cap := by
  constructor
  · intro kept
    refine kept (steep cap) [.next one, .next one] rfl longest ?_
    obtain ⟨base, first⟩ := baseDelay?_steep_zero rounded
    have second := baseDelay?_steep_one rounded
    rw [delays, delays, use, use, new, next_of_flat (isSpread_steep cap) rfl first,
      next_of_flat (isSpread_steep cap) rfl second]
    simp [Wait.value?]
  · rintro le policy history rfl delay mem
    exact ((capped_of_mem_delays mem).le_rounded longest rounded).trans (max_le le le_rfl)

end Steep

/-- Whatever a policy and however it is used, no wait is longer than the longest one, except by what
the rounding of that to seconds adds, and only where waits are not spread. All policies with a
longest wait keep it exactly if nothing is added. -/
theorem redial_delay_capped (policy : BackoffPolicy) :
    (∀ (history : List Use), ∀ delay ∈ (new policy).delays history, policy.Capped delay) ∧
    ∀ longest, Duration.ofSeconds? policy.maxDelay.toSeconds = some longest →
      ((∀ (other : BackoffPolicy) (history : List Use), other.maxDelay = policy.maxDelay →
        ∀ delay ∈ (new other).delays history, delay ≤ policy.maxDelay) ↔
          longest ≤ policy.maxDelay) :=
  ⟨fun _ _ => capped_of_mem_delays, fun _ => le_maxDelay_iff⟩

/-- Three waits of the usual policy, the second by its end and the third after traffic. No policy
with its longest wait has a longer one. -/
theorem redial_delay_capped_usual :
    let usual : BackoffPolicy := {}
    let history := [Use.next one, .nextDeadline one 5, .reset, .next one]
    (new usual).delays history = [Duration.ofSecs 2, Duration.ofSecs 4, Duration.ofSecs 2] ∧
    usual.Capped (Duration.ofSecs 4) ∧
    Duration.ofSeconds? usual.maxDelay.toSeconds = some (Duration.ofSecs 30) ∧
    ∀ (other : BackoffPolicy) (history : List Use), other.maxDelay = Duration.ofSecs 30 →
      ∀ delay ∈ (new other).delays history, delay ≤ Duration.ofSecs 30 := by
  intro usual history
  obtain ⟨capped, kept_iff⟩ := redial_delay_capped usual
  have handed : (new usual).delays history =
      [Duration.ofSecs 2, Duration.ofSecs 4, Duration.ofSecs 2] := by decide +kernel
  have rounded : Duration.ofSeconds? usual.maxDelay.toSeconds = some (Duration.ofSecs 30) := by
    decide
  have mem : Duration.ofSecs 4 ∈ (new usual).delays history := by
    rw [handed]
    decide
  exact ⟨handed, capped history _ mem, rounded, (kept_iff _ rounded).mpr le_rfl⟩

/-- The longest wait is exceeded by a nanosecond if its seconds round up. -/
theorem not_forall_delay_le :
    ¬ ∀ (policy : BackoffPolicy) (history : List Use) (delay : Duration),
      policy.initialDelay < Duration.ofSecs (2 ^ 64) → policy.maxDelay < Duration.ofSecs (2 ^ 64) →
      policy.multiplier.value?.isSome → policy.jitter.value?.isSome →
      delay ∈ (new policy).delays history → delay ≤ policy.maxDelay := by
  intro kept
  have le := kept
    { initialDelay := Duration.ofParts 8388608 1, maxDelay := Duration.ofParts 8388608 1,
      multiplier := .finite false 1 1, jitter := zero }
    [.next one] (Duration.ofParts 8388608 2) (by decide) (by decide) rfl rfl (by decide +kernel)
  exact absurd le (by decide)

end Backoff

end Blackjack
