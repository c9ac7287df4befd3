import Blackjack.Binary64
import Mathlib.Algebra.Order.Field.Power
import Mathlib.Tactic.Linarith
import Mathlib.Tactic.Positivity

/-!
# How far a rounding goes

A finite number of double precision stands for a rational, its `value?`. Comparing and adding go by
the values, with one rounding for a sum, and a rounding goes half a unit of the last binary digit at
most (`rounds_ofRatio`, `rounds_add`). The integer nearest to a rational grows with it
(`Nearest.le_of_le`).
-/

namespace Blackjack

/-- The integer is no more than half away, and even if it is just that. -/
structure Nearest (x : ℚ) (n : ℕ) : Prop where
  le_add : (n : ℚ) ≤ x + 1 / 2
  sub_le : x ≤ n + 1 / 2
  even : x = n + 1 / 2 ∨ (n : ℚ) = x + 1 / 2 → n % 2 = 0

namespace Nearest

variable {x y : ℚ} {m n : ℕ}

/-- A greater number has a greater nearest integer, or the same. -/
theorem le_of_le (first : Nearest x m) (second : Nearest y n) (le : x ≤ y) : m ≤ n := by
  by_contra above
  have step : (n : ℚ) + 1 ≤ m := by exact_mod_cast Nat.not_le.mp above
  have := first.le_add
  have := second.sub_le
  -- Nothing is left between them, so both are a half away from the same number.
  have next : m = n + 1 := by
    have : (m : ℚ) = n + 1 := by linarith
    exact_mod_cast this
  have even_m := first.even (.inr (by linarith))
  have even_n := second.even (.inl (by linarith))
  omega

theorem of_close (close : |x - n| < 1 / 2) : Nearest x n := by
  obtain ⟨low, high⟩ := abs_lt.mp close
  refine ⟨by linarith, by linarith, ?_⟩
  rintro (same | same) <;> linarith

end Nearest

/-- A half away on either side, the even one of two neighbours is the nearest. -/
theorem nearest_of_half (n : ℕ) : Nearest (n + 1 / 2) (n + n % 2) := by
  have parity : n % 2 = 0 ∨ n % 2 = 1 := Nat.mod_two_eq_zero_or_one n
  obtain even | odd := parity
  · rw [even, Nat.add_zero]
    exact ⟨by linarith, by linarith, fun _ => even⟩
  · have succ : ((n + 1 : ℕ) : ℚ) = n + 1 := Nat.cast_succ n
    rw [odd]
    exact ⟨by linarith, by linarith, fun _ => by omega⟩

theorem nearest_divideHalfEven {num den : ℕ} (pos : 0 < den) :
    Nearest (num / den) (divideHalfEven num den) := by
  have den_pos : (0 : ℚ) < den := by exact_mod_cast pos
  have whole : (num : ℚ) = den * (num / den : ℕ) + (num % den : ℕ) := by
    exact_mod_cast (Nat.div_add_mod num den).symm
  have value : (num : ℚ) / den = (num / den : ℕ) + (num % den : ℕ) / den := by
    rw [div_eq_iff den_pos.ne', add_mul, div_mul_cancel₀ _ den_pos.ne']
    linarith
  have below : ((num % den : ℕ) : ℚ) / den < 1 := by
    rw [div_lt_one den_pos]
    exact_mod_cast Nat.mod_lt num pos
  have nonneg : 0 ≤ ((num % den : ℕ) : ℚ) / den := by positivity
  have half_lt : 2 * (num % den) < den ↔ ((num % den : ℕ) : ℚ) / den < 1 / 2 := by
    rw [div_lt_iff₀ den_pos, ← @Nat.cast_lt ℚ]
    push_cast
    constructor <;> intro <;> linarith
  have lt_half : den < 2 * (num % den) ↔ 1 / 2 < ((num % den : ℕ) : ℚ) / den := by
    rw [lt_div_iff₀ den_pos, ← @Nat.cast_lt ℚ]
    push_cast
    constructor <;> intro <;> linarith
  rw [value]
  unfold divideHalfEven
  generalize ((num % den : ℕ) : ℚ) / den = part at *
  generalize num / den = quotient
  dsimp only
  simp only [half_lt, lt_half]
  split
  · next low => exact .of_close (abs_lt.mpr ⟨by linarith, by linarith⟩)
  · next low =>
    split
    · next high =>
      refine .of_close (abs_lt.mpr ?_)
      rw [Nat.cast_add, Nat.cast_one]
      exact ⟨by linarith, by linarith⟩
    · next high =>
      obtain rfl : part = 1 / 2 := le_antisymm (not_lt.mp high) (not_lt.mp low)
      exact nearest_of_half quotient

namespace Binary64

/-- One with a sign. -/
def unit (negative : Bool) : ℚ := if negative then -1 else 1

@[simp]
theorem unit_false : unit false = 1 := rfl

@[simp]
theorem abs_unit (negative : Bool) : |unit negative| = 1 := by
  cases negative <;> simp [unit]

/-- The number that a finite one of the format stands for. -/
def value? : Binary64 → Option ℚ
  | .finite negative mantissa exponent => some (unit negative * (mantissa * 2 ^ exponent))
  | _ => none

/-- A number of the format that `q` is rounded to: the same number, or one that is away half a unit
of the last of its 53 binary digits at most. -/
def Rounds (q : ℚ) (x : Binary64) : Prop :=
  ∃ v, x.value? = some v ∧
    (v = q ∨ ∃ l : ℤ, 2 ^ l ≤ |q| ∧ |v - q| ≤ 2 ^ (Max.max (-1022) l - 53))

section Scale

variable {num den : ℕ} {exponent : ℤ}

theorem scaled_snd_pos (num : ℕ) (exponent : ℤ) (pos : 0 < den) :
    0 < (scaled num den exponent).2 := by
  unfold scaled
  split
  · simpa [Nat.shiftLeft_eq] using pos
  · exact pos

/-- Scaling divides by a power of two. -/
theorem scaled_ratio (num den : ℕ) (exponent : ℤ) :
    ((scaled num den exponent).1 : ℚ) / (scaled num den exponent).2 =
      num / den / 2 ^ exponent := by
  unfold scaled
  split
  · next nonneg =>
    have up : (2 : ℚ) ^ exponent = 2 ^ exponent.toNat := by
      rw [← zpow_natCast, Int.toNat_of_nonneg nonneg]
    rw [up]
    push_cast [Nat.shiftLeft_eq]
    rw [div_div]
  · next negative =>
    have down : (2 : ℚ) ^ (-exponent) = 2 ^ (-exponent).toNat := by
      rw [← zpow_natCast, Int.toNat_of_nonneg (by omega)]
    rw [div_eq_mul_inv (num / den : ℚ), ← zpow_neg, down]
    push_cast [Nat.shiftLeft_eq]
    rw [div_mul_eq_mul_div]

theorem two_zpow_log2_le (pos : 0 < num) : (2 : ℚ) ^ (num.log2 : ℤ) ≤ num := by
  rw [zpow_natCast]
  exact_mod_cast Nat.log2_self_le pos.ne'

theorem lt_two_zpow_log2_add_one (pos : 0 < num) : (num : ℚ) < 2 ^ ((num.log2 : ℤ) + 1) := by
  have : num < 2 ^ (num.log2 + 1) := (Nat.log2_lt pos.ne').mp (Nat.lt_succ_self _)
  exact_mod_cast this

theorem two_zpow_floorLog2_le (num_pos : 0 < num) (den_pos : 0 < den) :
    (2 : ℚ) ^ floorLog2 num den ≤ num / den := by
  have den_pos' : (0 : ℚ) < den := by exact_mod_cast den_pos
  have ratio := scaled_ratio num den (num.log2 - den.log2)
  unfold floorLog2
  dsimp only
  split
  · next le =>
    have scaled_pos : (0 : ℚ) < (scaled num den (num.log2 - den.log2)).2 := by
      exact_mod_cast scaled_snd_pos num _ den_pos
    have one_le : (1 : ℚ) ≤ num / den / 2 ^ ((num.log2 : ℤ) - den.log2) := by
      rw [← ratio, one_le_div scaled_pos]
      exact_mod_cast le
    rwa [one_le_div (by positivity)] at one_le
  · have low := two_zpow_log2_le num_pos
    have high := lt_two_zpow_log2_add_one den_pos
    rw [le_div_iff₀ den_pos']
    calc (2 : ℚ) ^ ((num.log2 : ℤ) - den.log2 - 1) * den
        ≤ 2 ^ ((num.log2 : ℤ) - den.log2 - 1) * 2 ^ ((den.log2 : ℤ) + 1) := by gcongr
      _ = 2 ^ (num.log2 : ℤ) := by
        rw [← zpow_add₀ (by norm_num)]
        congr 1
        omega
      _ ≤ num := low

/-- Rounding to an integer multiple of a power of two goes half the power at most. -/
theorem abs_divideHalfEven_sub_le (num : ℕ) (exponent : ℤ) (pos : 0 < den) :
    |(divideHalfEven (scaled num den exponent).1 (scaled num den exponent).2 : ℚ) * 2 ^ exponent -
      num / den| ≤ 2 ^ (exponent - 1) := by
  have nearest := scaled_ratio num den exponent ▸
    nearest_divideHalfEven (scaled_snd_pos num exponent pos)
  have unit_pos : (0 : ℚ) < 2 ^ exponent := by positivity
  have half : (2 : ℚ) ^ (exponent - 1) = 1 / 2 * 2 ^ exponent := by
    rw [zpow_sub_one₀ (by norm_num), mul_comm, one_div]
  have whole : (num : ℚ) / den = num / den / 2 ^ exponent * 2 ^ exponent :=
    (div_mul_cancel₀ _ unit_pos.ne').symm
  rw [half, whole, ← sub_mul, abs_mul, abs_of_pos unit_pos]
  gcongr
  rw [abs_le]
  exact ⟨by linarith [nearest.sub_le], by linarith [nearest.le_add]⟩

/-- A multiple of a power of two that is near to a number below half the greatest one is below that
power. -/
theorem add_log2_lt {q : ℚ} {mantissa : ℕ} (below : q < 2 ^ (1023 : ℤ)) (bounded : exponent ≤ 1023)
    (close : |mantissa * 2 ^ exponent - q| ≤ 2 ^ (exponent - 1)) :
    exponent + (mantissa.log2 : ℤ) < 1024 := by
  obtain rfl | pos := Nat.eq_zero_or_pos mantissa
  · simpa using Int.lt_add_one_of_le bounded
  refine (zpow_lt_zpow_iff_right₀ (by norm_num : (1 : ℚ) < 2)).mp ?_
  have half : (2 : ℚ) ^ (exponent - 1) ≤ 2 ^ (1023 : ℤ) :=
    zpow_le_zpow_right₀ (by norm_num) (by omega)
  calc (2 : ℚ) ^ (exponent + (mantissa.log2 : ℤ)) = 2 ^ (mantissa.log2 : ℤ) * 2 ^ exponent := by
        rw [zpow_add₀ (by norm_num), mul_comm]
    _ ≤ mantissa * 2 ^ exponent := by
        gcongr
        exact two_zpow_log2_le pos
    _ ≤ q + 2 ^ (exponent - 1) := by linarith [(abs_le.mp close).2]
    _ < 2 ^ (1023 : ℤ) + 2 ^ (1023 : ℤ) := add_lt_add_of_lt_of_le below half
    _ = 2 ^ (1024 : ℤ) := by rw [← two_mul, ← zpow_one_add₀ (by norm_num)]; rfl

/-- A quotient below half the greatest power of two is rounded to a finite number. -/
theorem rounds_ofRatio (negative : Bool) (pos : 0 < den)
    (below : (num : ℚ) / den < 2 ^ (1023 : ℤ)) :
    Rounds (unit negative * (num / den)) (ofRatio negative num den) := by
  unfold ofRatio
  by_cases zero : num = 0
  · rw [if_pos zero]
    exact ⟨_, rfl, .inl (by simp [zero])⟩
  rw [if_neg zero]
  have low := two_zpow_floorLog2_le (Nat.pos_of_ne_zero zero) pos
  have floor_lt : floorLog2 num den < 1023 :=
    (zpow_lt_zpow_iff_right₀ (by norm_num : (1 : ℚ) < 2)).mp
      (low.trans_lt below)
  have bounded : Max.max (-1074) (floorLog2 num den - 52) ≤ 1023 := by omega
  have last : Max.max (-1074) (floorLog2 num den - 52) - 1 =
    Max.max (-1022) (floorLog2 num den) - 53 := by omega
  dsimp only
  generalize Max.max (-1074) (floorLog2 num den - 52) = exponent at bounded last
  have close := abs_divideHalfEven_sub_le num exponent pos
  rw [if_neg (not_le.mpr (add_log2_lt below bounded close))]
  have nonneg : (0 : ℚ) ≤ num / den := by positivity
  refine ⟨_, rfl, .inr ⟨floorLog2 num den, ?_, ?_⟩⟩
  · rwa [abs_mul, abs_unit, one_mul, abs_of_nonneg nonneg]
  · rwa [← mul_sub, abs_mul, abs_unit, one_mul, ← last]

theorem divideHalfEven_one (n : ℕ) : divideHalfEven n 1 = n := by
  simp [divideHalfEven, Nat.mod_one]

/-- Up to 53 binary digits a natural number is kept. -/
theorem value?_ofNat {n : ℕ} (small : n < 2 ^ 53) : (ofNat n).value? = some (n : ℚ) := by
  unfold ofNat ofRatio
  by_cases zero : n = 0
  · simp [zero, value?]
  rw [if_neg zero]
  have low := two_zpow_floorLog2_le (Nat.pos_of_ne_zero zero) one_pos
  rw [Nat.cast_one, div_one] at low
  have floor_lt : floorLog2 n 1 < 53 :=
    (zpow_lt_zpow_iff_right₀ (by norm_num : (1 : ℚ) < 2)).mp
      (low.trans_lt (by exact_mod_cast small))
  have nonpos : Max.max (-1074) (floorLog2 n 1 - 52) ≤ 0 := by omega
  dsimp only
  generalize Max.max (-1074) (floorLog2 n 1 - 52) = exponent at nonpos
  have ratio := scaled_ratio n 1 exponent
  have whole : (scaled n 1 exponent).2 = 1 := by
    unfold scaled
    split
    · next nonneg => simp [le_antisymm nonpos nonneg]
    · rfl
  rw [whole, Nat.cast_one, div_one, div_one, eq_div_iff (by positivity)] at ratio
  rw [whole, divideHalfEven_one]
  have below : (n : ℚ) < 2 ^ (1023 : ℤ) :=
    (by exact_mod_cast small : (n : ℚ) < 2 ^ 53).trans
      (zpow_lt_zpow_right₀ (by norm_num) (by norm_num : (53 : ℤ) < 1023))
  have close : |((scaled n 1 exponent).1 : ℚ) * 2 ^ exponent - n| ≤ 2 ^ (exponent - 1) := by
    rw [ratio, sub_self, abs_zero]
    positivity
  rw [if_neg (not_le.mpr (add_log2_lt below (by omega) close))]
  simp [value?, ratio]

theorem rounds_ofScaled (negative : Bool) {mantissa : ℕ}
    (below : (mantissa : ℚ) * 2 ^ exponent < 2 ^ (1023 : ℤ)) :
    Rounds (unit negative * (mantissa * 2 ^ exponent)) (ofScaled negative mantissa exponent) := by
  unfold ofScaled
  split
  · next nonneg =>
    have up : ((mantissa <<< exponent.toNat : ℕ) : ℚ) / (1 : ℕ) = mantissa * 2 ^ exponent := by
      push_cast [Nat.shiftLeft_eq]
      rw [div_one, ← zpow_natCast, Int.toNat_of_nonneg nonneg]
    rw [← up] at below ⊢
    exact rounds_ofRatio negative one_pos below
  · next above =>
    have down : (mantissa : ℚ) / (1 <<< (-exponent).toNat : ℕ) = mantissa * 2 ^ exponent := by
      push_cast [Nat.shiftLeft_eq]
      rw [one_mul, ← zpow_natCast, Int.toNat_of_nonneg (by omega), zpow_neg, div_inv_eq_mul]
    rw [← down] at below ⊢
    exact rounds_ofRatio negative (by simp [Nat.shiftLeft_eq]) below

end Scale

section Value

variable {x y : Binary64} {p q : ℚ}

/-- A mantissa moved to a smaller exponent is that of the same number. -/
theorem aligned_mul_two_zpow (negative : Bool) (mantissa : ℕ) {exponent target : ℤ}
    (le : target ≤ exponent) :
    (aligned negative mantissa exponent target : ℚ) * 2 ^ target =
      unit negative * (mantissa * 2 ^ exponent) := by
  have power : (2 : ℚ) ^ (exponent - target).toNat * 2 ^ target = 2 ^ exponent := by
    rw [← zpow_natCast, Int.toNat_of_nonneg (by omega), ← zpow_add₀ (by norm_num)]
    congr 1
    omega
  cases negative <;> simp [aligned, unit, Nat.shiftLeft_eq, mul_assoc, power]

theorem exists_of_value? (value : x.value? = some p) :
    ∃ s m e, x = .finite s m e ∧ p = unit s * (m * 2 ^ e) := by
  cases x with
  | nan => cases value
  | infinite s => cases value
  | finite s m e => exact ⟨s, m, e, rfl, (Option.some.inj value).symm⟩

/-- Finite numbers are compared by what they stand for. -/
theorem lt_iff (left : x.value? = some p) (right : y.value? = some q) : x.lt y ↔ p < q := by
  obtain ⟨s, m, e, rfl, rfl⟩ := exists_of_value? left
  obtain ⟨t, n, f, rfl, rfl⟩ := exists_of_value? right
  rw [← aligned_mul_two_zpow s m (min_le_left e f), ← aligned_mul_two_zpow t n (min_le_right e f),
    mul_lt_mul_iff_left₀ (by positivity)]
  simp [lt]

theorem min_eq_or (x y : Binary64) : x.min y = x ∨ x.min y = y := by
  unfold min
  split
  · exact .inr rfl
  · exact .inl rfl
  · split
    · exact .inr rfl
    · exact .inl rfl

/-- The lesser of two numbers is not above a finite one of them. -/
theorem le_of_value?_min (least : (x.min y).value? = some p) (right : y.value? = some q) :
    p ≤ q := by
  obtain ⟨t, n, f, rfl, -⟩ := exists_of_value? right
  cases x with
  | nan => exact (Option.some.inj (least.symm.trans right)).le
  | infinite s =>
    cases s with
    | false => exact (Option.some.inj (least.symm.trans right)).le
    | true => cases least
  | finite s m e =>
    change (if (finite t n f).lt (finite s m e) then finite t n f else finite s m e).value? =
      some p at least
    split at least
    · exact (Option.some.inj (least.symm.trans right)).le
    · next above => exact not_lt.mp (mt (lt_iff right least).mpr above)

/-- The sign of nothing does not matter. -/
theorem unit_mul_natAbs (total : ℤ) (zero : Bool) :
    unit (if total = 0 then zero else decide (total < 0)) * (total.natAbs : ℚ) = total := by
  obtain negative | rfl | positive := lt_trichotomy total 0
  · rw [if_neg negative.ne, decide_eq_true negative, Nat.cast_natAbs, Int.cast_abs,
      abs_of_neg (by exact_mod_cast negative)]
    simp [unit]
  · simp
  · rw [if_neg positive.ne', decide_eq_false positive.not_gt, Nat.cast_natAbs, Int.cast_abs,
      abs_of_pos (by exact_mod_cast positive), unit_false, one_mul]

/-- A sum is computed exactly and then rounded. -/
theorem rounds_add (left : x.value? = some p) (right : y.value? = some q)
    (below : |p + q| < 2 ^ (1023 : ℤ)) : Rounds (p + q) (x.add y) := by
  obtain ⟨s, m, e, rfl, rfl⟩ := exists_of_value? left
  obtain ⟨t, n, f, rfl, rfl⟩ := exists_of_value? right
  rw [← aligned_mul_two_zpow s m (min_le_left e f), ← aligned_mul_two_zpow t n (min_le_right e f),
    ← add_mul, ← Int.cast_add] at below ⊢
  unfold add
  dsimp only
  generalize aligned s m e (Min.min e f) + aligned t n f (Min.min e f) = total at below ⊢
  rw [abs_mul, ← Int.cast_abs, ← Nat.cast_natAbs,
    abs_of_pos (by positivity : (0 : ℚ) < 2 ^ Min.min e f)] at below
  have rounds := rounds_ofScaled (if total = 0 then s && t else decide (total < 0)) below
  rwa [← mul_assoc, unit_mul_natAbs] at rounds

end Value

end Binary64

end Blackjack
