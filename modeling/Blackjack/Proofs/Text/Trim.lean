import Blackjack.Text.Blank
import Mathlib.Data.List.DropRight

/-!
# What trimming leaves

A text is `Tight` if white space stands at neither of its ends. Trimming takes away white space at
both ends until what is left is tight, and there is only one way to do so (`trims_iff`).
-/

namespace Blackjack.Text

/-- The text neither starts nor ends with white space. -/
def Tight (text : List Char) : Prop :=
  (∀ c ∈ text.head?, isBlank c = false) ∧ ∀ c ∈ text.getLast?, isBlank c = false

instance (text : List Char) : Decidable (Tight text) :=
  inferInstanceAs (Decidable (_ ∧ _))

/-- White space around `body` makes up the text, and `body` is tight. -/
def Trims (text body : List Char) : Prop :=
  ∃ before after, text = before ++ body ++ after ∧ (∀ c ∈ before, isBlank c = true) ∧
    (∀ c ∈ after, isBlank c = true) ∧ Tight body

section TrimRight

variable {text body after : List Char}

theorem trimRight_append (blank : ∀ c ∈ after, isBlank c = true) :
    trimRight (body ++ after) = trimRight body := by
  rw [trimRight, List.reverse_append, List.dropWhile_append_of_pos (by simpa using blank), trimRight]

theorem trimRight_of_last (last : ∀ c ∈ body.getLast?, isBlank c = false) :
    trimRight body = body := by
  refine List.rdropWhile_eq_self_iff.mpr fun some_last => ?_
  simp [last _ (List.getLast?_eq_some_getLast some_last)]

/-- White space at the end is all that keeps such a text from being tight. -/
theorem tight_trimRight (first : ∀ c ∈ text.head?, isBlank c = false) : Tight (trimRight text) := by
  constructor
  · intro c head
    obtain ⟨later, same⟩ : trimRight text <+: text := List.rdropWhile_prefix isBlank text
    refine first c ?_
    rw [← same, List.head?_append, Option.mem_def.mp head]
    rfl
  · intro c last
    obtain ⟨some_last, rfl⟩ := List.mem_getLast?_eq_getLast last
    exact Bool.eq_false_iff.mpr (List.rdropWhile_last_not isBlank text some_last)

end TrimRight

theorem head?_dropWhile_isBlank {text : List Char} :
    ∀ c ∈ (text.dropWhile isBlank).head?, isBlank c = false := by
  intro c head
  have stopped := List.head?_dropWhile_not isBlank text
  rwa [Option.mem_def.mp head] at stopped

theorem trims_trim (text : List Char) : Trims text (trim text) := by
  refine ⟨text.takeWhile isBlank, (text.dropWhile isBlank).rtakeWhile isBlank, ?_,
    fun c member => List.mem_takeWhile_imp member, fun c member => List.mem_rtakeWhile_imp member,
    tight_trimRight head?_dropWhile_isBlank⟩
  calc
    text = text.takeWhile isBlank ++ text.dropWhile isBlank :=
      List.takeWhile_append_dropWhile.symm
    _ = text.takeWhile isBlank ++ (trim text ++ (text.dropWhile isBlank).rtakeWhile isBlank) :=
      congrArg _ List.rdropWhile_append_rtakeWhile.symm
    _ = _ := (List.append_assoc ..).symm

theorem Trims.trim_eq {text body : List Char} (trims : Trims text body) : trim text = body := by
  obtain ⟨before, after, rfl, blank_before, blank_after, first, last⟩ := trims
  rw [trim, List.append_assoc, List.dropWhile_append_of_pos blank_before]
  cases body with
  | nil =>
    rw [List.nil_append, List.dropWhile_eq_nil_iff.mpr blank_after]
    rfl
  | cons c body =>
    rw [List.cons_append, List.dropWhile_cons_of_neg (by simp [first c rfl]), ← List.cons_append,
      trimRight_append blank_after, trimRight_of_last last]

/-- Trimming is all that it takes, and takes away no more. -/
theorem trims_iff {text body : List Char} : Trims text body ↔ trim text = body :=
  ⟨Trims.trim_eq, fun same => same ▸ trims_trim text⟩

theorem trim_of_blank {line : List Char} (blank : ∀ c ∈ line, isBlank c = true) : trim line = [] :=
  Trims.trim_eq ⟨line, [], by simp, blank, by simp, by simp [Tight]⟩

theorem trim_eq_nil_iff {text : List Char} : trim text = [] ↔ ∀ c ∈ text, isBlank c = true := by
  refine ⟨fun trimmed => ?_, trim_of_blank⟩
  obtain ⟨before, after, rfl, blank_before, blank_after, -⟩ := trims_iff.mpr trimmed
  rw [List.append_nil, List.forall_mem_append]
  exact ⟨blank_before, blank_after⟩

theorem trim_eq_self_iff {text : List Char} : trim text = text ↔ Tight text := by
  rw [← trims_iff]
  constructor
  · rintro ⟨-, -, -, -, -, tight⟩
    exact tight
  · intro tight
    exact ⟨[], [], by simp, by simp, by simp, tight⟩

end Blackjack.Text
