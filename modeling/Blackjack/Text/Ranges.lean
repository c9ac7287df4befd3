/-!
# Sets of characters as ranges

The large character classes are tables of ranges of code points, both ends included.
-/

namespace Blackjack.Text

/-- Whether a code point lies in one of the ranges. -/
def inRanges (ranges : Array (Nat × Nat)) (n : Nat) : Bool :=
  ranges.any fun (first, last) => first ≤ n && n ≤ last

/-- Whether no range meets the code points from one to another, both included. -/
def spares (ranges : Array (Nat × Nat)) (low high : Nat) : Bool :=
  ranges.toList.all fun (first, last) => last.blt low || high.blt first

theorem inRanges_of_spares {ranges : Array (Nat × Nat)} {low high n : Nat}
    (spared : spares ranges low high = true) (above : low ≤ n) (below : n ≤ high) :
    inRanges ranges n = false := by
  rw [inRanges, ← Array.any_toList, List.any_eq_false]
  rintro ⟨first, last⟩ range
  have apart := List.all_eq_true.mp spared _ range
  simp only [Bool.or_eq_true, Nat.blt_eq] at apart
  simp only [Bool.and_eq_true, decide_eq_true_eq]
  omega

end Blackjack.Text
