import Blackjack.Console.Command
import Blackjack.Proofs.Text.Trim
import Mathlib.Algebra.Group.Nat.Defs

/-!
# The grammar of typed lines

A typed line is a word, and after white space a text that white space may surround. The word is a
keyword in any letter case of ASCII, and the keyword says whether the text is ignored, taken as it
is, or read as a number. `Reads` is this grammar, with the answer to every line, and `parse` gives
that answer and no other (`parse_eq_iff`).
-/

namespace Blackjack

namespace Text

/-- Digits that write a number, perhaps behind a plus sign. -/
def IsNumeral (text : List Char) (n : Nat) : Prop :=
  ∃ digits, (text = digits ∨ text = '+' :: digits) ∧ digits ≠ [] ∧
    (∀ c ∈ digits, c.isDigit = true) ∧ Nat.ofDigitChars 10 digits 0 = n

theorem numeral?_eq_some_iff {digits : List Char} {n : Nat} :
    numeral? digits = some n ↔ digits ≠ [] ∧ (∀ c ∈ digits, c.isDigit = true) ∧
      Nat.ofDigitChars 10 digits 0 = n := by
  unfold numeral?
  split
  · next plain =>
    rw [List.all_eq_true] at plain
    rw [Option.some.injEq, and_iff_right plain.1, and_iff_right plain.2]
    rfl
  · next other =>
    rw [List.all_eq_true] at other
    exact iff_of_false nofun fun numeral => other ⟨numeral.1, numeral.2.1⟩

theorem unsigned?_eq_some_iff {text : List Char} {n : Nat} :
    unsigned? text = some n ↔ IsNumeral text n := by
  unfold unsigned?
  split
  · next digits =>
    rw [numeral?_eq_some_iff]
    constructor
    · exact fun numeral => ⟨digits, .inr rfl, numeral⟩
    · rintro ⟨whole, rfl | same, some_digit, plain, value⟩
      · exact absurd (plain '+' (by simp)) (by decide)
      · obtain rfl := (List.cons.inj same).2
        exact ⟨some_digit, plain, value⟩
  · next unsigned =>
    rw [numeral?_eq_some_iff]
    constructor
    · exact fun numeral => ⟨text, .inl rfl, numeral⟩
    · rintro ⟨digits, rfl | rfl, numeral⟩
      · exact numeral
      · exact absurd rfl (unsigned digits)

end Text

namespace Command

/-- What is made of the text behind a keyword. -/
inductive Keyword where
  | bare (command : Command)
  | text (make : String → Command)
  | number (make : UInt32 → Command)

/-- The keywords in lower case. -/
def keywords : List (String × Keyword) :=
  [("login", .text login), ("join", .number join), ("leave", .bare leave), ("ready", .bare ready),
    ("unready", .bare unready), ("bet", .number bet), ("hit", .bare hit), ("stand", .bare stand),
    ("again", .bare again), ("state", .bare state), ("raw", .text raw), ("help", .bare help),
    ("?", .bare help), ("quit", .bare quit), ("exit", .bare quit)]

/-- A word spells a name in any letter case of ASCII. -/
def Spells (word : List Char) (name : String) : Prop :=
  List.Forall₂ (fun c letter => c = letter ∨ c = letter.toUpper) word name.toList

/-- White space surrounds a word and a text without white space at its ends. -/
def Splits (line word text : List Char) : Prop :=
  ∃ before gap after, line = before ++ word ++ gap ++ text ++ after ∧
    (∀ c ∈ before ++ gap ++ after, Text.isBlank c = true) ∧
    word ≠ [] ∧ (∀ c ∈ word, Text.isBlank c = false) ∧ Text.Tight text ∧ (text ≠ [] → gap ≠ [])

/-- The answer to a keyword and the text behind it. -/
inductive Keyword.Answers (name : String) :
    Keyword → List Char → Except CommandError (Option Command) → Prop
  | bare (command : Command) (text : List Char) :
      Answers name (.bare command) text (.ok (some command))
  | text (make : String → Command) {text : List Char} (given : text ≠ []) :
      Answers name (.text make) text (.ok (some (make (String.ofList text))))
  | number (make : UInt32 → Command) {text : List Char} (n : UInt32)
      (numeral : Text.IsNumeral text n.toNat) :
      Answers name (.number make) text (.ok (some (make n)))
  | noNumber (make : UInt32 → Command) {text : List Char} (given : text ≠ [])
      (other : ∀ n < 2 ^ 32, ¬Text.IsNumeral text n) :
      Answers name (.number make) text (.error (.invalidNumber (String.ofList text)))
  | missingText (make : String → Command) :
      Answers name (.text make) [] (.error (.missingArgument name))
  | missingNumber (make : UInt32 → Command) :
      Answers name (.number make) [] (.error (.missingArgument name))

/-- The grammar: what every line is read as. -/
inductive Reads : List Char → Except CommandError (Option Command) → Prop
  | blank {line : List Char} (blank : ∀ c ∈ line, Text.isBlank c = true) : Reads line (.ok none)
  | known {line word text : List Char} {name : String} {keyword : Keyword}
      {answer : Except CommandError (Option Command)} (splits : Splits line word text)
      (known : (name, keyword) ∈ keywords) (spells : Spells word name)
      (answers : keyword.Answers name text answer) : Reads line answer
  | unknown {line word text : List Char} (splits : Splits line word text)
      (unknown : ∀ name keyword, (name, keyword) ∈ keywords → ¬Spells word name) :
      Reads line (.error (.unknown (String.ofList (word.map Char.toLower))))

section Words

variable {line word text : List Char}

/-- The words of a line that splits are its parts. -/
theorem Splits.words_eq (splits : Splits line word text) : words (Text.trim line) = (word, text) := by
  obtain ⟨before, gap, after, rfl, blank, some_word, solid, ⟨first, last⟩, apart⟩ := splits
  simp only [List.forall_mem_append] at blank
  obtain ⟨⟨blank_before, blank_gap⟩, blank_after⟩ := blank
  have front : ∀ c ∈ word.head?, Text.isBlank c = false := fun c head =>
    solid c (List.mem_of_head? head)
  have back : ∀ c ∈ word.getLast?, Text.isBlank c = false := fun c last =>
    solid c (List.mem_of_getLast? last)
  cases text with
  | nil =>
    have trims : Text.Trims (before ++ word ++ gap ++ [] ++ after) word :=
      ⟨before, gap ++ after, by simp, blank_before,
        List.forall_mem_append.mpr ⟨blank_gap, blank_after⟩, front, back⟩
    rw [trims.trim_eq, words, Text.splitOnce_eq_none_iff.mpr solid]
  | cons t text =>
    obtain ⟨c, gap, rfl⟩ := List.exists_cons_of_ne_nil (apart (List.cons_ne_nil t text))
    have trims : Text.Trims (before ++ word ++ c :: gap ++ t :: text ++ after)
        (word ++ c :: (gap ++ t :: text)) := by
      refine ⟨before, after, by simp, blank_before, blank_after, ?_, ?_⟩
      · rwa [List.head?_append_of_ne_nil _ some_word]
      · rwa [List.getLast?_append_of_ne_nil _ (by simp), ← List.cons_append,
          List.getLast?_append_of_ne_nil _ (by simp)]
    have rest : Text.Trims (gap ++ t :: text) (t :: text) :=
      ⟨gap, [], by simp, fun d member => blank_gap d (by simp [member]), by simp, first, last⟩
    have cut : Text.splitOnce Text.isBlank (word ++ c :: (gap ++ t :: text)) =
        some (word, gap ++ t :: text) :=
      Text.splitOnce_eq_some_iff.mpr ⟨c, blank_gap c (by simp), rfl, solid⟩
    rw [trims.trim_eq, words, cut]
    simp only [rest.trim_eq]

/-- The first word is not empty in lower case either. -/
theorem Splits.name_ne_empty (splits : Splits line word text) :
    String.ofList (word.map Char.toLower) ≠ "" := by
  obtain ⟨_, _, _, _, _, some_word, _⟩ := splits
  simpa [← String.toList_inj] using some_word

/-- A line that is not blank splits. -/
theorem exists_splits (some_word : ¬∀ c ∈ line, Text.isBlank c = true) :
    ∃ word text, Splits line word text := by
  obtain ⟨before, after, spelled, blank_before, blank_after, first, last⟩ := Text.trims_trim line
  cases body : Text.trim line with
  | nil =>
    rw [body, List.append_nil] at spelled
    exact absurd (spelled ▸ List.forall_mem_append.mpr ⟨blank_before, blank_after⟩) some_word
  | cons c later =>
    rw [body] at spelled first
    have solid : Text.isBlank c = false := first c rfl
    cases cut : Text.splitOnce Text.isBlank (c :: later) with
    | none =>
      refine ⟨c :: later, [], before, [], after, by simpa using spelled, ?_, by simp,
        Text.splitOnce_eq_none_iff.mp cut, by simp [Text.Tight], by simp⟩
      simpa using List.forall_mem_append.mpr ⟨blank_before, blank_after⟩
    | some parts =>
      obtain ⟨word, rest⟩ := parts
      obtain ⟨d, blank, parted, inside⟩ := Text.splitOnce_eq_some_iff.mp cut
      obtain ⟨gap, more, same, blank_gap, blank_more, tight⟩ := Text.trims_trim rest
      refine ⟨word, Text.trim rest, before, d :: gap, more ++ after, ?_, ?_, ?_, inside, tight, by simp⟩
      · rw [spelled, parted]
        conv_lhs => rw [same]
        simp
      · simp only [List.forall_mem_append, List.forall_mem_cons]
        exact ⟨⟨blank_before, blank, blank_gap⟩, blank_more, blank_after⟩
      · rintro rfl
        obtain ⟨rfl, -⟩ := List.cons.inj parted
        rw [solid] at blank
        cases blank

end Words

section Case

theorem toNat_toLower (c : Char) :
    c.toLower.toNat = if 0x41 ≤ c.toNat ∧ c.toNat ≤ 0x5A then c.toNat + 32 else c.toNat := by
  have range : (c.val ≥ 'A'.val ∧ c.val ≤ 'Z'.val) ↔ 0x41 ≤ c.toNat ∧ c.toNat ≤ 0x5A := Iff.rfl
  unfold Char.toLower
  split
  · next upper =>
    have code : 0x41 ≤ c.val.toNat ∧ c.val.toNat ≤ 0x5A := range.mp upper
    rw [if_pos (range.mp upper)]
    change (c.val.toNat + 32) % 2 ^ 32 = c.val.toNat + 32
    omega
  · next other => rw [if_neg (range.not.mp other)]

theorem toNat_toUpper (c : Char) :
    c.toUpper.toNat = if 0x61 ≤ c.toNat ∧ c.toNat ≤ 0x7A then c.toNat - 32 else c.toNat := by
  have range : (c.val ≥ 'a'.val ∧ c.val ≤ 'z'.val) ↔ 0x61 ≤ c.toNat ∧ c.toNat ≤ 0x7A := Iff.rfl
  unfold Char.toUpper
  split
  · next lower =>
    have code : 0x61 ≤ c.val.toNat ∧ c.val.toNat ≤ 0x7A := range.mp lower
    have shift : ('A'.val - 'a'.val).toNat = 2 ^ 32 - 32 := by decide
    rw [if_pos (range.mp lower)]
    change (c.val + ('A'.val - 'a'.val)).toNat = c.val.toNat - 32
    rw [UInt32.toNat_add, shift]
    omega
  · next other => rw [if_neg (range.not.mp other)]

/-- A character is spelled in two letter cases at most. -/
theorem toLower_eq_iff {c letter : Char} (lower : letter.toLower = letter) :
    c.toLower = letter ↔ c = letter ∨ c = letter.toUpper := by
  simp only [← Char.toNat_inj, toNat_toLower, toNat_toUpper] at lower ⊢
  split_ifs at lower ⊢ <;> omega

theorem map_toLower_eq_iff {word letters : List Char}
    (lower : ∀ letter ∈ letters, letter.toLower = letter) :
    word.map Char.toLower = letters ↔
      List.Forall₂ (fun c letter => c = letter ∨ c = letter.toUpper) word letters := by
  induction letters generalizing word with
  | nil =>
    cases word with
    | nil => simp
    | cons c word => exact iff_of_false nofun nofun
  | cons letter letters ih =>
    rw [List.forall_mem_cons] at lower
    cases word with
    | nil => exact iff_of_false nofun nofun
    | cons c word =>
      rw [List.map_cons, List.cons.injEq, ih lower.2, toLower_eq_iff lower.1, List.forall₂_cons]

end Case

section Keyword

/-- The answer to a keyword and the text behind it, as a function. -/
def Keyword.answer (name : String) :
    Keyword → List Char → Except CommandError (Option Command)
  | bare command, _ => .ok (some command)
  | text make, rest => (argument name rest).map fun text => some (make text)
  | number make, rest => (Command.number name rest).map fun n => some (make n)

variable {name : String} {keyword : Keyword} {word text : List Char}
  {answer : Except CommandError (Option Command)}

/-- The keywords stand in lower case, and none is empty. -/
theorem lower_of_mem (known : (name, keyword) ∈ keywords) :
    name ≠ "" ∧ ∀ letter ∈ name.toList, letter.toLower = letter := by
  have all : ∀ entry ∈ keywords, entry.1 ≠ "" ∧
      (entry.1.toList.all fun letter => letter.toLower = letter) = true := by decide
  obtain ⟨letters, lower⟩ := all _ known
  exact ⟨letters, by simpa using lower⟩

theorem spells_iff (known : (name, keyword) ∈ keywords) :
    Spells word name ↔ String.ofList (word.map Char.toLower) = name := by
  rw [Spells, ← map_toLower_eq_iff (lower_of_mem known).2, ← String.toList_inj, String.toList_ofList]

theorem ofWords_of_mem (known : (name, keyword) ∈ keywords) (text : List Char) :
    ofWords name text = keyword.answer name text := by
  simp only [keywords, List.mem_cons, Prod.mk.injEq, List.not_mem_nil, or_false] at known
  rcases known with ⟨rfl, rfl⟩ | ⟨rfl, rfl⟩ | ⟨rfl, rfl⟩ | ⟨rfl, rfl⟩ | ⟨rfl, rfl⟩ | ⟨rfl, rfl⟩ |
    ⟨rfl, rfl⟩ | ⟨rfl, rfl⟩ | ⟨rfl, rfl⟩ | ⟨rfl, rfl⟩ | ⟨rfl, rfl⟩ | ⟨rfl, rfl⟩ | ⟨rfl, rfl⟩ |
    ⟨rfl, rfl⟩ | ⟨rfl, rfl⟩ <;> rfl

theorem ofWords_of_not_mem (some_name : name ≠ "") (unknown : ∀ keyword, (name, keyword) ∉ keywords)
    (text : List Char) : ofWords name text = .error (.unknown name) := by
  simp only [keywords, List.mem_cons, Prod.mk.injEq, List.not_mem_nil, or_false, not_or] at unknown
  unfold ofWords
  split
  case h_17 => rfl
  all_goals simp_all

theorem number_eq_ok_iff {n : UInt32} :
    Command.number name text = .ok n ↔ Text.IsNumeral text n.toNat := by
  rw [← Text.unsigned?_eq_some_iff, Command.number, argument]
  split
  · next missing =>
    split at missing
    · next empty => simp [empty, Text.unsigned?, Text.numeral?]
    · cases missing
  · cases read : Text.unsigned? text with
    | none => exact iff_of_false nofun nofun
    | some m =>
      by_cases small : m < UInt32.size
      · simp [small, ← UInt32.toNat_inj, UInt32.toNat_ofNat_of_lt' small]
      · have bound : n.toNat < UInt32.size := n.toNat_lt
        simp only [small, if_false, Option.some.injEq]
        exact iff_of_false nofun fun same => small (same ▸ bound)

/-- A text that is no number is refused as it is. -/
theorem number_of_no_numeral (given : text ≠ []) (other : ∀ n < 2 ^ 32, ¬Text.IsNumeral text n) :
    Command.number name text = .error (.invalidNumber (String.ofList text)) := by
  cases read : Command.number name text with
  | ok n => exact absurd (number_eq_ok_iff.mp read) (other _ n.toNat_lt)
  | error refusal =>
    unfold Command.number at read
    rw [argument, if_neg given] at read
    simp only at read
    split at read
    · split at read
      · cases read
      · exact read.symm
    · exact read.symm

/-- The answers to a keyword are those of the grammar. -/
theorem Keyword.answers_iff :
    keyword.Answers name text answer ↔ keyword.answer name text = answer := by
  constructor
  · rintro (_ | ⟨make, given⟩ | ⟨make, n, numeral⟩ | ⟨make, given, other⟩ | make | make)
    · rfl
    · simp [Keyword.answer, argument, given, Except.map]
    · rw [Keyword.answer, number_eq_ok_iff.mpr numeral]
      rfl
    · rw [Keyword.answer, number_of_no_numeral given other]
      rfl
    · rfl
    · rfl
  · rintro rfl
    cases keyword with
    | bare command => exact .bare command text
    | text make =>
      by_cases given : text = []
      · subst given
        exact .missingText make
      · simpa [Keyword.answer, argument, given, Except.map] using Answers.text make given
    | number make =>
      by_cases given : text = []
      · subst given
        exact .missingNumber make
      rw [Keyword.answer]
      cases read : Command.number name text with
      | ok n => exact .number make n (number_eq_ok_iff.mp read)
      | error refusal =>
        have other : ∀ n < 2 ^ 32, ¬Text.IsNumeral text n := by
          intro n small numeral
          have same : (UInt32.ofNat n).toNat = n := UInt32.toNat_ofNat_of_lt' small
          rw [number_eq_ok_iff.mpr (same.symm ▸ numeral)] at read
          cases read
        obtain rfl := Except.error.inj ((number_of_no_numeral given other).symm.trans read)
        exact .noNumber make given other

end Keyword

theorem Splits.parse_eq {line : String} {word text : List Char}
    (splits : Splits line.toList word text) :
    parse line = ofWords (String.ofList (word.map Char.toLower)) text := by
  rw [parse, splits.words_eq]

/-- What `parse` answers is what the grammar reads. -/
theorem reads_parse (line : String) : Reads line.toList (parse line) := by
  by_cases blank : ∀ c ∈ line.toList, Text.isBlank c = true
  · rw [parse, Text.trim_of_blank blank]
    exact .blank blank
  obtain ⟨word, text, splits⟩ := exists_splits blank
  rw [splits.parse_eq]
  by_cases known : ∃ keyword, (String.ofList (word.map Char.toLower), keyword) ∈ keywords
  · obtain ⟨keyword, known⟩ := known
    rw [ofWords_of_mem known]
    exact .known splits known ((spells_iff known).mpr rfl) (Keyword.answers_iff.mpr rfl)
  · rw [ofWords_of_not_mem splits.name_ne_empty (not_exists.mp known)]
    refine .unknown splits fun name keyword member spells => known ⟨keyword, ?_⟩
    rwa [(spells_iff member).mp spells]

/-- Every line is read by the grammar in one way, and `parse` answers it in this way. -/
theorem parse_eq_iff {line : String} {answer : Except CommandError (Option Command)} :
    parse line = answer ↔ Reads line.toList answer := by
  constructor
  · rintro rfl
    exact reads_parse line
  · rintro (blank | ⟨splits, known, spells, answers⟩ | ⟨splits, unknown⟩)
    · rw [parse, Text.trim_of_blank blank]
      rfl
    · rw [splits.parse_eq, (spells_iff known).mp spells, ofWords_of_mem known]
      exact Keyword.answers_iff.mp answers
    · rw [splits.parse_eq, ofWords_of_not_mem splits.name_ne_empty]
      exact fun keyword member => unknown _ _ member ((spells_iff member).mpr rfl)

example : parse "\u2003JoIn\u00a0+0007 " = .ok (some (.join 7)) := by decide

end Command

end Blackjack
