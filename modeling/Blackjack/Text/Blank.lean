/-!
# White space and trimming

White space is the Unicode property `White_Space`. `trim` removes it at both ends of a text and
leaves the inside as it is; `splitOnce` cuts a text at the first character of a class and drops
that character.
-/

namespace Blackjack.Text

/-- The characters with the Unicode property `White_Space`. -/
def isBlank (c : Char) : Bool :=
  let n := c.toNat
  (0x09 ≤ n && n ≤ 0x0D) || n == 0x20 || n == 0x85 || n == 0xA0 || n == 0x1680 ||
    (0x2000 ≤ n && n ≤ 0x200A) || n == 0x2028 || n == 0x2029 || n == 0x202F || n == 0x205F ||
    n == 0x3000

/-- A text without the white space at its end. -/
def trimRight (text : List Char) : List Char :=
  (text.reverse.dropWhile isBlank).reverse

/-- A text without the white space at its two ends. -/
def trim (text : List Char) : List Char :=
  trimRight (text.dropWhile isBlank)

/-- The parts before and after the first character of the class, which itself is dropped. -/
def splitOnce (cut : Char → Bool) : List Char → Option (List Char × List Char)
  | [] => none
  | c :: rest =>
    if cut c then some ([], rest)
    else (splitOnce cut rest).map fun (before, after) => (c :: before, after)

theorem splitOnce_eq_none_iff {cut : Char → Bool} {text : List Char} :
    splitOnce cut text = none ↔ ∀ c ∈ text, cut c = false := by
  induction text with
  | nil => simp [splitOnce]
  | cons c rest ih => by_cases h : cut c <;> simp [splitOnce, h, ih]

theorem splitOnce_eq_some_iff {cut : Char → Bool} {text before after : List Char} :
    splitOnce cut text = some (before, after) ↔
      ∃ c, cut c = true ∧ text = before ++ c :: after ∧ ∀ d ∈ before, cut d = false := by
  induction text generalizing before after with
  | nil => simp [splitOnce]
  | cons head rest ih =>
    by_cases h : cut head
    · simp only [splitOnce, h, if_true, Option.some.injEq, Prod.mk.injEq]
      constructor
      · rintro ⟨rfl, rfl⟩
        exact ⟨head, h, rfl, by simp⟩
      · rintro ⟨c, hc, heq, hbefore⟩
        cases before with
        | nil => exact ⟨rfl, (List.cons.inj heq).2⟩
        | cons d ds =>
          obtain ⟨rfl, -⟩ := List.cons.inj heq
          simp [h] at hbefore
    · simp only [splitOnce, h, Bool.false_eq_true, if_false, Option.map_eq_some_iff]
      constructor
      · rintro ⟨⟨b, a⟩, found, heq⟩
        obtain ⟨rfl, rfl⟩ := Prod.mk.inj heq
        obtain ⟨c, hc, rfl, hb⟩ := ih.1 found
        exact ⟨c, hc, rfl, by simpa [h] using hb⟩
      · rintro ⟨c, hc, heq, hbefore⟩
        cases before with
        | nil =>
          obtain ⟨rfl, -⟩ := List.cons.inj heq
          exact absurd hc h
        | cons d ds =>
          obtain ⟨rfl, rfl⟩ := List.cons.inj heq
          exact ⟨(ds, after), ih.2 ⟨c, hc, rfl, fun e he => hbefore e (by simp [he])⟩, rfl⟩

end Blackjack.Text
