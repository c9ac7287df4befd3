import Blackjack.Backoff
import Blackjack.Proofs.Backoff.Rounding
import Mathlib.Tactic.NormNum

/-!
# Durations in seconds

A duration goes to double precision with two roundings, of its whole seconds and their fraction and
of the sum, and comes back with one more, to whole nanoseconds. Below `2 ^ 23` seconds all of them
together lose nothing (`nearest_toSeconds`); above, a duration may change by as much as
`toSeconds_close` says.
-/

namespace Blackjack

namespace Binary64

variable {q : ℚ} {x : Binary64}

/-- A rounding of a number below a power of two goes half a unit of its last digit at most. -/
theorem Rounds.close_of_lt {l : ℤ} (rounds : Rounds q x) (normal : -1022 < l)
    (below : |q| < 2 ^ l) : ∃ v, x.value? = some v ∧ |v - q| ≤ 2 ^ (l - 54) := by
  obtain ⟨v, value, rfl | ⟨k, low, close⟩⟩ := rounds
  · refine ⟨v, value, ?_⟩
    rw [sub_self, abs_zero]
    positivity
  · have lt : k < l :=
      (zpow_lt_zpow_iff_right₀ (by norm_num : (1 : ℚ) < 2)).mp (low.trans_lt below)
    exact ⟨v, value, close.trans (zpow_le_zpow_right₀ (by norm_num) (by omega))⟩

/-- A rounding in the normal range changes a number by at most a part in `2 ^ 53`. -/
theorem Rounds.close (rounds : Rounds q x) (normal : q = 0 ∨ 2 ^ (-1022 : ℤ) ≤ |q|) :
    ∃ v, x.value? = some v ∧ |v - q| ≤ |q| / 2 ^ 53 := by
  obtain ⟨v, value, rfl | ⟨k, low, close⟩⟩ := rounds
  · refine ⟨v, value, ?_⟩
    rw [sub_self, abs_zero]
    positivity
  · obtain rfl | normal := normal
    · exact absurd (low.trans abs_zero.le) (not_le.mpr (by positivity))
    have unit : (2 : ℚ) ^ Max.max (-1022) k ≤ |q| := by
      obtain eq | eq := max_choice (-1022) k <;> rw [eq] <;> assumption
    refine ⟨v, value, close.trans ?_⟩
    rw [zpow_sub₀ (by norm_num)]
    exact div_le_div_of_nonneg_right unit (by positivity)

/-- A quotient by a number that is not large is nothing or far above the least normal number. -/
theorem eq_zero_or_le_div (n : ℕ) {den : ℕ} (pos : 0 < den) (small : den ≤ 2 ^ 30) :
    (n : ℚ) / den = 0 ∨ 2 ^ (-30 : ℤ) ≤ (n : ℚ) / den := by
  obtain rfl | positive := Nat.eq_zero_or_pos n
  · exact .inl (by simp)
  · have den_pos : (0 : ℚ) < den := by exact_mod_cast pos
    have den_le : (den : ℚ) ≤ 2 ^ 30 := by exact_mod_cast small
    have one_le : (1 : ℚ) ≤ n := by exact_mod_cast positive
    refine .inr ((le_div_iff₀ den_pos).mpr ?_)
    calc (2 : ℚ) ^ (-30 : ℤ) * den ≤ 2 ^ (-30 : ℤ) * 2 ^ 30 := by gcongr
      _ = 1 := by norm_num
      _ ≤ n := one_le

/-- The rounding of such a quotient changes it by at most a part in `2 ^ 53`. -/
theorem exists_close_ofRatio (n : ℕ) {den : ℕ} (pos : 0 < den) (small : den ≤ 2 ^ 30)
    (below : (n : ℚ) / den < 2 ^ (1023 : ℤ)) :
    ∃ v, (ofRatio false n den).value? = some v ∧ |v - n / den| ≤ n / den / 2 ^ 53 := by
  have nonneg : (0 : ℚ) ≤ n / den := div_nonneg (Nat.cast_nonneg n) (Nat.cast_nonneg den)
  have rounds := rounds_ofRatio false pos below
  rw [unit_false, one_mul] at rounds
  have normal : (n : ℚ) / den = 0 ∨ 2 ^ (-1022 : ℤ) ≤ |(n : ℚ) / den| := by
    rw [abs_of_nonneg nonneg]
    exact (eq_zero_or_le_div n pos small).imp_right
      ((zpow_le_zpow_right₀ one_le_two (by norm_num : (-1022 : ℤ) ≤ -30)).trans ·)
  obtain ⟨v, value, close⟩ := rounds.close normal
  rw [abs_of_nonneg nonneg] at close
  exact ⟨v, value, close⟩

end Binary64

namespace Duration

open Binary64

variable {d : Duration}

theorem eq_secs_add_subsecNanos (d : Duration) :
    (d : ℚ) = secs d * 1000000000 + subsecNanos d := by
  have : d = secs d * 1000000000 + subsecNanos d := (Nat.div_add_mod' d 1000000000).symm
  exact_mod_cast this

theorem subsecNanos_lt (d : Duration) : subsecNanos d < 1000000000 :=
  Nat.mod_lt d (by norm_num)

theorem subsecNanos_div_lt_one (d : Duration) : (subsecNanos d : ℚ) / 1000000000 < 1 := by
  rw [div_lt_one (by norm_num)]
  exact_mod_cast subsecNanos_lt d

theorem secs_lt {bound : ℕ} (small : d < ofSecs bound) : secs d < bound :=
  Nat.div_lt_of_lt_mul (by rwa [mul_comm])

/-- The fraction of a second changes by a part in `2 ^ 53` at most. -/
theorem exists_fraction_close (d : Duration) :
    ∃ f, (ofRatio false (subsecNanos d) 1000000000).value? = some f ∧
      |f - subsecNanos d / 1000000000| ≤ subsecNanos d / 1000000000 / 2 ^ 53 :=
  exists_close_ofRatio (subsecNanos d) (by norm_num : 0 < 1000000000) (by norm_num)
    ((subsecNanos_div_lt_one d).trans (one_lt_zpow₀ (by norm_num) (by norm_num)))

/-- Only a number from nothing up to `2 ^ 64` seconds has a duration, the nearest one. -/
theorem nearest_ofSeconds? {x : Binary64} (some : ofSeconds? x = some d) :
    ∃ v : ℚ, x.value? = .some v ∧ v < 2 ^ 64 ∧ Nearest (v * 1000000000) d := by
  cases x with
  | nan => cases some
  | infinite negative => cases some
  | finite negative mantissa exponent =>
    simp only [ofSeconds?] at some
    have ratio := scaled_ratio mantissa 1 (-exponent)
    have pos : 0 < (scaled mantissa 1 (-exponent)).2 := scaled_snd_pos mantissa (-exponent) one_pos
    generalize scaled mantissa 1 (-exponent) = pair at some ratio pos
    obtain ⟨num, den⟩ := pair
    rw [Nat.cast_one, div_one, zpow_neg, div_inv_eq_mul] at ratio
    split at some
    · cases some
    next sign =>
    split at some
    · cases some
    next small =>
    have pos' : (0 : ℚ) < den := by exact_mod_cast pos
    have bound : (num : ℚ) < 2 ^ 64 * den := by
      have : num < 2 ^ 64 * den := by
        rw [mul_comm]
        exact not_le.mp small
      exact_mod_cast this
    have value : unit negative * (mantissa * 2 ^ exponent) = (num : ℚ) / den := by
      rw [ratio]
      cases negative with
      | false => exact one_mul _
      | true =>
        obtain rfl : mantissa = 0 := by simpa using sign
        simp
    refine ⟨_, congrArg _ value, (div_lt_iff₀ pos').mpr bound, ?_⟩
    rw [← Option.some.inj some, div_mul_eq_mul_div]
    exact_mod_cast nearest_divideHalfEven pos

/-- Below `2 ^ 23` seconds a duration is the one nearest to its seconds. -/
theorem nearest_toSeconds (small : d < ofSecs (2 ^ 23)) :
    ∃ v, d.toSeconds.value? = some v ∧ Nearest (v * 1000000000) d := by
  obtain ⟨f, fraction, fraction_close⟩ := exists_fraction_close d
  have whole : (ofNat (secs d)).value? = some (secs d : ℚ) :=
    value?_ofNat ((secs_lt small).trans (by norm_num))
  have secs_nonneg : (0 : ℚ) ≤ secs d := Nat.cast_nonneg _
  have secs_le : (secs d : ℚ) + 1 ≤ 2 ^ 23 := by exact_mod_cast secs_lt small
  have nanos_nonneg : 0 ≤ (subsecNanos d : ℚ) / 1000000000 := by positivity
  have nanos_le : (subsecNanos d : ℚ) / 1000000000 ≤ 999999999 / 1000000000 := by
    gcongr
    exact_mod_cast Nat.le_of_lt_succ (subsecNanos_lt d)
  rw [abs_le] at fraction_close
  -- The sum is below `2 ^ 23`, so its rounding goes `2 ^ (-31)` at most: less than half a nanosecond.
  have sum_lt : |(secs d : ℚ) + f| < 2 ^ (23 : ℤ) := by
    norm_num
    rw [abs_lt]
    constructor <;> linarith
  have rounds := rounds_add whole fraction
    (sum_lt.trans (zpow_lt_zpow_right₀ (by norm_num) (by norm_num)))
  obtain ⟨v, value, close⟩ := rounds.close_of_lt (by norm_num) sum_lt
  refine ⟨v, value, .of_close ?_⟩
  norm_num at close
  rw [abs_le] at close
  rw [eq_secs_add_subsecNanos d, abs_lt]
  constructor <;> linarith

/-- The whole seconds and the fraction, each rounded, are off by a part in `2 ^ 53` together. -/
theorem exists_parts_close (small : d < ofSecs (2 ^ 64)) :
    ∃ a f, (ofNat (secs d)).value? = some a ∧
      (ofRatio false (subsecNanos d) 1000000000).value? = some f ∧
      |a + f - (d : ℚ) / 1000000000| ≤ (d : ℚ) / 1000000000 / 2 ^ 53 := by
  have below : (secs d : ℚ) / (1 : ℕ) < 2 ^ (1023 : ℤ) := by
    rw [Nat.cast_one, div_one]
    exact (by exact_mod_cast secs_lt small : (secs d : ℚ) < 2 ^ (64 : ℤ)).trans
      (zpow_lt_zpow_right₀ (by norm_num) (by norm_num))
  obtain ⟨a, whole, whole_close⟩ := exists_close_ofRatio (secs d) one_pos (by norm_num) below
  obtain ⟨f, fraction, fraction_close⟩ := exists_fraction_close d
  refine ⟨a, f, whole, fraction, ?_⟩
  rw [Nat.cast_one, div_one] at whole_close
  rw [abs_le] at whole_close fraction_close ⊢
  rw [eq_secs_add_subsecNanos d]
  constructor <;> linarith

/-- The seconds of a duration are off by two roundings. -/
theorem toSeconds_close (small : d < ofSecs (2 ^ 64)) :
    ∃ v : ℚ, d.toSeconds.value? = some v ∧
      |v * 1000000000 - (d : ℚ)| ≤ (1 / 2 ^ 52 + 1 / 2 ^ 106) * (d : ℚ) := by
  obtain ⟨a, f, whole, fraction, parts⟩ := exists_parts_close small
  have nonneg : (0 : ℚ) ≤ (d : ℚ) / 1000000000 := by positivity
  have size : (d : ℚ) / 1000000000 = 0 ∨ 2 ^ (-30 : ℤ) ≤ (d : ℚ) / 1000000000 :=
    eq_zero_or_le_div d (by norm_num) (by norm_num)
  have small' : (d : ℚ) / 1000000000 < 2 ^ 64 := by
    rw [div_lt_iff₀ (by norm_num)]
    exact_mod_cast small
  have scale : (d : ℚ) = (d : ℚ) / 1000000000 * 1000000000 :=
    (div_mul_cancel₀ _ (by norm_num)).symm
  rw [scale]
  generalize (d : ℚ) / 1000000000 = s at *
  rw [abs_le] at parts
  have sum_nonneg : 0 ≤ a + f := by linarith
  have below : |a + f| < 2 ^ (1023 : ℤ) := by
    rw [abs_of_nonneg sum_nonneg]
    calc a + f < 2 ^ (65 : ℤ) := by norm_num; linarith
      _ < 2 ^ (1023 : ℤ) := zpow_lt_zpow_right₀ (by norm_num) (by norm_num)
  have normal : a + f = 0 ∨ 2 ^ (-1022 : ℤ) ≤ |a + f| := by
    rw [abs_of_nonneg sum_nonneg]
    obtain rfl | low := size
    · exact .inl (by linarith)
    · refine .inr (le_trans
        (zpow_le_zpow_right₀ one_le_two (by norm_num : (-1022 : ℤ) ≤ -31)) ?_)
      norm_num at low ⊢
      linarith
  obtain ⟨v, value, close⟩ := (rounds_add whole fraction below).close normal
  refine ⟨v, value, ?_⟩
  rw [abs_of_nonneg sum_nonneg] at close
  rw [abs_le] at close ⊢
  constructor <;> linarith

end Duration

end Blackjack
