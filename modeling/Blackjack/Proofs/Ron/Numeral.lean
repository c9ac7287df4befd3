import Blackjack.Proofs.Ron.Word
import Mathlib.Algebra.Group.Nat.Defs

/-!
# Integers

A row of digits in a base has its value, and an integer is read with its sign, base and type as it is
written, up to a boundary or the points of a range (`WritesInteger.integer?_append`).
-/

namespace Blackjack.Ron

section Halt

variable {rest : List Char}

/-- What may follow a number: a boundary, or the points of a range. -/
def Halts (rest : List Char) : Prop := Stops rest ∨ ['.', '.'] <+: rest

theorem Halts.apart (halts : Halts rest) : rest.head?.any Text.isIdentifierRest = false := by
  rcases halts with stops | ⟨more, rfl⟩
  · exact any_isIdentifierRest stops.endsName.apart.1
  · rfl

theorem Halts.spanFloat (halts : Halts rest) : spanFloat rest = ([], rest) := by
  rcases halts with stops | ⟨more, rfl⟩
  · cases rest with
    | nil => rfl
    | cons c later => exact spanFloat_of_not (apart_of_isBoundary (stops c rfl)).2.1 later
  · rfl

end Halt

section Digits

variable {base n d : Nat} {c : Char} {text rest : List Char}

theorem isDigit_of_hexValue? (digit : hexValue? c = some d) (small : d < 10) : c.isDigit = true := by
  unfold hexValue? at digit
  split at digit
  · assumption
  · split at digit
    · grind
    · grind

/-- A row of digits consists of digits below the base and of underscores. -/
theorem Digits.of_mem (row : Digits base n text) (member : c ∈ text) :
    c = '_' ∨ ∃ d < base, hexValue? c = some d := by
  induction row with
  | first digit small =>
    obtain rfl := List.mem_singleton.mp member
    exact .inr ⟨_, small, digit⟩
  | digit _ digit small ih =>
    rcases List.mem_append.mp member with before | last
    · exact ih before
    · obtain rfl := List.mem_singleton.mp last
      exact .inr ⟨_, small, digit⟩
  | underscore _ ih =>
    rcases List.mem_append.mp member with before | last
    · exact ih before
    · exact .inl (List.mem_singleton.mp last)

theorem Digits.isIntegerChar (row : Digits base n text) : ∀ c ∈ text, isIntegerChar c = true := by
  intro c member
  rcases row.of_mem member with rfl | ⟨d, -, digit⟩
  · rfl
  · simp [Ron.isIntegerChar, digit]

/-- A number begins with a digit. -/
theorem Digits.exists_first (row : Digits base n text) :
    ∃ c later d, text = c :: later ∧ hexValue? c = some d ∧ d < base := by
  induction row with
  | first digit small => exact ⟨_, _, _, rfl, digit, small⟩
  | digit _ _ _ ih | underscore _ ih =>
    obtain ⟨c, later, d, rfl, first⟩ := ih
    exact ⟨c, _, d, rfl, first⟩

theorem Digits.digitsValue? (row : Digits base n text) : digitsValue? base text = some n := by
  have plain : ∀ {c d}, hexValue? c = some d → c ≠ '_' := by
    rintro c d digit rfl
    cases digit
  induction row with
  | first digit small => simp [Ron.digitsValue?, plain digit, digit, small]
  | digit _ digit small ih =>
    rw [Ron.digitsValue?] at ih ⊢
    rw [List.filter_append, List.foldl_append, ih]
    simp [plain digit, digit, small]
  | underscore _ ih =>
    rw [Ron.digitsValue?] at ih ⊢
    rw [List.filter_append, List.foldl_append, ih]
    rfl

theorem Digits.digitsIn?_append (row : Digits base n text)
    (ends : rest.head?.any Ron.isIntegerChar = false) :
    digitsIn? base (text ++ rest) = some (n, rest) := by
  obtain ⟨c, later, d, rfl, digit, -⟩ := row.exists_first
  have plain : c ≠ '_' := by
    rintro rfl
    cases digit
  rw [digitsIn?, spanChars_append row.isIntegerChar ends]
  simp [plain, row.digitsValue?]

/-- Decimal digits are a row. -/
theorem Digits.isRow (row : Digits 10 n text) : isRow text = true := by
  obtain ⟨first, later, d, rfl, digit, small⟩ := row.exists_first
  rw [Ron.isRow, isDigit_of_hexValue? digit small, Bool.true_and, List.all_eq_true]
  intro c member
  rcases row.of_mem (List.mem_cons_of_mem _ member) with rfl | ⟨d, small, digit⟩
  · rfl
  · rw [isDigit_of_hexValue? digit small, Bool.true_or]

theorem exists_of_isRow (row : isRow text = true) : ∃ first later, text = first :: later ∧
    first.isDigit = true ∧ ∀ c ∈ later, c.isDigit = true ∨ c = '_' := by
  unfold isRow at row
  split at row
  · cases row
  · rw [Bool.and_eq_true, List.all_eq_true] at row
    exact ⟨_, _, rfl, row.1, by simpa using row.2⟩

/-- The characters of a row of decimal digits. -/
theorem mem_row (row : isRow text = true) : ∀ c ∈ text, c.isDigit = true ∨ c = '_' := by
  obtain ⟨first, later, rfl, digit, inside⟩ := exists_of_isRow row
  simpa [digit] using inside

theorem hexValue?_of_isDigit (digit : c.isDigit = true) : (hexValue? c).isSome = true := by
  simp [hexValue?, digit]

theorem plain_of_rowChar (plain : c.isDigit = true ∨ c = '_') :
    isIntegerChar c = true ∧ isFloatChar c = true ∧ c ∉ ['.', '+', '-', 'x', 'b', 'o', 'e', 'E'] := by
  rcases plain with digit | rfl
  · refine ⟨by simp [isIntegerChar, hexValue?_of_isDigit digit], by simp [isFloatChar, digit], ?_⟩
    intro member
    simp only [List.mem_cons, List.not_mem_nil, or_false] at member
    rcases member with rfl | rfl | rfl | rfl | rfl | rfl | rfl | rfl <;> cases digit
  · decide

/-- In decimal digits no base is named. -/
theorem magnitude?_row (row : isRow text = true)
    (next : ∀ c ∈ rest.head?, c ∉ ['x', 'b', 'o']) :
    magnitude? (text ++ rest) = digitsIn? 10 (text ++ rest) := by
  obtain ⟨first, later, rfl, digit, inside⟩ := exists_of_isRow row
  have second : ∀ c ∈ (later ++ rest).head?, c ∉ ['x', 'b', 'o'] := by
    intro c head
    cases later with
    | nil => exact next c head
    | cons d later =>
      obtain rfl := Option.some.inj head
      have plain := (plain_of_rowChar (inside d (by simp))).2.2
      simp_all
  rw [List.cons_append]
  unfold magnitude?
  split
  case h_4 => rfl
  all_goals
    next same =>
    obtain ⟨-, same⟩ := List.cons.inj same
    simp [same] at second

end Digits

section Integer

variable {negative : Bool} {number : Integer} {text tail rest : List Char} {type : IntegerType}

theorem SignMark.sign_append {mark : List Char} (signed : SignMark negative mark)
    (plain : ∀ c ∈ text.head?, c ∉ ['+', '-']) : sign (mark ++ text) = (negative, text) := by
  cases signed with
  | none =>
    rw [List.nil_append]
    unfold sign
    split
    case h_3 => rfl
    all_goals simp at plain
  | plus | minus => rfl

/-- A type is told from the others by its name, which is a word. -/
theorem suffix_spec (known : type ∈ integerTypes) :
    (∀ c ∈ type.suffix.toList, Text.isIdentifierRest c = true) ∧
      (∃ first later, type.suffix.toList = first :: later ∧ (first = 'i' ∨ first = 'u')) ∧
      ∀ other ∈ integerTypes, type.suffix.toList = other.suffix.toList → other = type := by
  have all : ∀ type ∈ integerTypes, (type.suffix.toList.all Text.isIdentifierRest) = true ∧
      (type.suffix.toList.head?.any fun c => c = 'i' ∨ c = 'u') = true ∧
      ∀ other ∈ integerTypes, type.suffix.toList = other.suffix.toList → other = type := by
    decide
  obtain ⟨letters, first, only⟩ := all type known
  refine ⟨by simpa using letters, ?_, only⟩
  cases spelled : type.suffix.toList with
  | nil => simp [spelled] at first
  | cons c later => exact ⟨c, later, rfl, by simpa [spelled] using first⟩

theorem suffix?_append (known : type ∈ integerTypes)
    (apart : rest.head?.any Text.isIdentifierRest = false) :
    suffix? (type.suffix.toList ++ rest) = some (type, rest) := by
  obtain ⟨letters, -, only⟩ := suffix_spec known
  refine findSome?_eq_some_of_mem known ?_ fun other listed => ?_
  · rw [word?_append letters letters apart, if_pos rfl, Option.map_some]
  · rw [word?_append (suffix_spec listed).1 letters apart]
    split
    · next same =>
      obtain rfl := only other listed same
      exact .inr rfl
    · exact .inl rfl

/-- Where no word follows, no type does. -/
theorem suffix?_of_apart (apart : rest.head?.any Text.isIdentifierRest = false) :
    suffix? rest = none := by
  refine List.findSome?_eq_none_iff.mpr fun type known => ?_
  obtain ⟨letters, ⟨first, later, spelled, -⟩, -⟩ := suffix_spec known
  have alone : word? type.suffix ([] ++ rest) = _ := word?_append letters (by simp) apart
  rw [List.nil_append, if_neg (by simp [spelled])] at alone
  rw [alone, Option.map_none]

/-- A digit of any base is a letter or a decimal digit. -/
theorem isAlphanum_of_hexValue? {c : Char} (digit : (hexValue? c).isSome = true) :
    c.isAlphanum = true := by
  unfold hexValue? at digit
  split at digit
  · next plain => exact Bool.or_eq_true_iff.mpr (.inr plain)
  · split at digit
    · next lower =>
      have letter : c.isLower = true :=
        Bool.and_eq_true_iff.mpr
          ⟨decide_eq_true lower.1, decide_eq_true (UInt32.le_trans lower.2 (by decide))⟩
      exact Bool.or_eq_true_iff.mpr (.inl (Bool.or_eq_true_iff.mpr (.inr letter)))
    · split at digit
      · next upper =>
        have letter : c.isUpper = true :=
          decide_eq_true ⟨upper.1, UInt32.le_trans upper.2 (by decide)⟩
        exact Bool.or_eq_true_iff.mpr (.inl (Bool.or_eq_true_iff.mpr (.inl letter)))
      · cases digit

theorem isIdentifierRest_of_isIntegerChar {c : Char} (digit : isIntegerChar c = true) :
    Text.isIdentifierRest c = true := by
  refine isIdentifierRest_of_isAlphanum ?_
  simp only [isIntegerChar, Bool.or_eq_true, decide_eq_true_eq] at digit ⊢
  exact digit.imp isAlphanum_of_hexValue? id

/-- What may follow digits: the name of a type, or what may follow a number. -/
theorem digits_end {named : Option IntegerType} (known : ∀ t ∈ named, t ∈ integerTypes)
    (apart : rest.head?.any Text.isIdentifierRest = false) :
    ∀ c ∈ ((named.elim [] fun t => t.suffix.toList) ++ rest).head?,
      isIntegerChar c = false ∧ c ∉ ['x', 'b', 'o'] := by
  intro c head
  cases named with
  | none =>
    have other : Text.isIdentifierRest c = false := by
      rw [Option.elim_none, List.nil_append] at head
      simpa [Option.mem_def.mp head] using apart
    refine ⟨?_, ?_⟩
    · refine Bool.eq_false_iff.mpr fun digit => ?_
      simp [isIdentifierRest_of_isIntegerChar digit] at other
    · have letters : (['x', 'b', 'o'].all Text.isIdentifierRest) = true := by decide
      intro member
      simp [List.all_eq_true.mp letters c member] at other
  | some type =>
    obtain ⟨-, ⟨first, later, spelled, letter⟩, -⟩ := suffix_spec (known type rfl)
    rw [Option.elim_some, spelled, List.cons_append, List.head?_cons] at head
    obtain rfl := Option.some.inj head
    rcases letter with rfl | rfl <;> decide

variable {base n : Nat} {mark digits : List Char}

/-- No sign stands between the sign of a number and its digits. -/
theorem BaseMark.unsigned (marked : BaseMark base mark) (row : Digits base n digits) :
    ∀ c ∈ (mark ++ (digits ++ tail)).head?, c ∉ ['+', '-'] := by
  intro c first
  cases marked with
  | decimal =>
    obtain ⟨d, later, value, rfl, digit, -⟩ := row.exists_first
    obtain rfl := Option.some.inj first
    rintro sign
    simp only [List.mem_cons, List.not_mem_nil, or_false] at sign
    rcases sign with rfl | rfl <;> cases digit
  | hexadecimal | binary | octal =>
    obtain rfl := Option.some.inj first
    decide

theorem BaseMark.magnitude?_append (marked : BaseMark base mark) (row : Digits base n digits)
    (ends : ∀ c ∈ tail.head?, isIntegerChar c = false ∧ c ∉ ['x', 'b', 'o']) :
    magnitude? (mark ++ (digits ++ tail)) = some (n, tail) := by
  have last : tail.head?.any isIntegerChar = false :=
    (Option.any_eq_false ..).mpr fun c first => by simp [(ends c first).1]
  cases marked with
  | decimal =>
    rw [List.nil_append, magnitude?_row row.isRow fun c first => (ends c first).2]
    exact row.digitsIn?_append last
  | hexadecimal | binary | octal => exact row.digitsIn?_append last

/-- An integer is read as it is written, if it fits its type. -/
theorem WritesInteger.integer?_append (written : WritesInteger number text)
    (apart : rest.head?.any Text.isIdentifierRest = false) :
    integer? (text ++ rest) =
      if number.type.all fun type => type.holds number.negative number.magnitude then
        some (number, rest)
      else none := by
  cases written with
  | @intro negative base n type signs mark digits signed marked row known =>
  have magnitude := marked.magnitude?_append row (digits_end known apart)
  simp only [List.append_assoc, integer?, signed.sign_append (marked.unsigned row), magnitude]
  cases type with
  | none => simp [suffix?_of_apart apart]
  | some type => simp [suffix?_append (known type rfl) apart]

/-- The number that an integer stands for. -/
def Integer.value (number : Integer) : Int :=
  if number.negative then -number.magnitude else number.magnitude

/-- An integer in the range of a width, which names no other type. -/
def Integer.FitsIn (number : Integer) (bits : Nat) : Prop :=
  0 ≤ number.value ∧ number.value < (2 ^ bits : Nat) ∧ ∀ type ∈ number.type, type = ⟨false, bits⟩

theorem Integer.fitsIn_iff {number : Integer} {bits : Nat} : number.FitsIn bits ↔
    IntegerType.holds ⟨false, bits⟩ number.negative number.magnitude = true ∧
      ∀ type ∈ number.type, type = ⟨false, bits⟩ := by
  have room : 0 < 2 ^ bits := Nat.two_pow_pos bits
  rw [Integer.FitsIn, ← and_assoc]
  refine and_congr_left fun _ => ?_
  unfold Integer.value IntegerType.holds
  cases number.negative with
  | false =>
    simp only [Bool.false_eq_true, if_false, Nat.one_shiftLeft, decide_eq_true_eq]
    omega
  | true =>
    simp only [Bool.false_eq_true, if_false, if_true, decide_eq_true_eq]
    omega

theorem Integer.FitsIn.toNat_value {number : Integer} {bits : Nat} (fits : number.FitsIn bits) :
    number.value.toNat = number.magnitude := by
  have least := fits.1
  revert least
  unfold Integer.value
  cases number.negative with
  | false => exact fun _ => Int.toNat_natCast _
  | true =>
    rw [if_pos rfl]
    omega

/-- A number is read into a field if it fits. -/
theorem WritesInteger.unsigned?_append (written : WritesInteger number text)
    (apart : rest.head?.any Text.isIdentifierRest = false) (bits : Nat) (result : Nat × List Char) :
    unsigned? bits (text ++ rest) = some result ↔
      number.FitsIn bits ∧ result = (number.value.toNat, rest) := by
  rw [unsigned?, written.integer?_append apart]
  constructor
  · intro read
    split at read
    next =>
      simp only [Option.bind_eq_bind, Option.bind_some] at read
      split at read
      next held =>
        have fits : number.FitsIn bits := by
          refine Integer.fitsIn_iff.mpr ⟨held.1, fun type named => ?_⟩
          rw [Option.mem_def.mp named] at held
          exact held.2
        exact ⟨fits, by rw [fits.toNat_value]; exact (Option.some.inj read).symm⟩
      next => cases read
    next => cases read
  · rintro ⟨fits, rfl⟩
    obtain ⟨held, named⟩ := Integer.fitsIn_iff.mp fits
    have known : (number.type.all fun type => type.holds number.negative number.magnitude) = true := by
      cases typed : number.type with
      | none => rfl
      | some type => rw [named type typed]; exact held
    have same : number.type.getD ⟨false, bits⟩ = ⟨false, bits⟩ := by
      cases typed : number.type with
      | none => rfl
      | some type => exact named type typed
    simp [known, held, same, fits.toNat_value]

end Integer

end Blackjack.Ron
