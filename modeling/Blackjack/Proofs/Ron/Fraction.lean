import Blackjack.Proofs.Ron.Numeral

/-!
# Numbers passed over

A number in digits is passed over as an integer or, with a point, an exponent or a type of fractions,
by its characters, of which a point may be followed by digits but not by another point
(`Mantissa.spanFloat_append`). Without its underscores it is a decimal number, and where it reads as
an integer as well, it ends at the same place.
-/

namespace Blackjack.Ron

section Fraction

variable {text tail rest : List Char} {c : Char}

theorem spanFloat_append (plain : ∀ c ∈ text, isFloatChar c = true ∧ c ≠ '.') (tail : List Char) :
    spanFloat (text ++ tail) = (text ++ (spanFloat tail).1, (spanFloat tail).2) := by
  induction text with
  | nil => rfl
  | cons c text ih =>
    obtain ⟨inside, other⟩ := plain c (by simp)
    rw [List.cons_append, spanFloat_cons fun point => absurd point other, if_pos inside,
      ih fun d member => plain d (by simp [member]), List.cons_append]

/-- One point belongs to a number, two do not. -/
theorem spanFloat_point (next : tail.head? ≠ some '.') :
    spanFloat ('.' :: tail) = ('.' :: (spanFloat tail).1, (spanFloat tail).2) := by
  rw [spanFloat_cons fun _ => next, if_pos (by decide)]

/-- The name of a type belongs to no fraction. -/
theorem spanFloat_digits_end {named : Option IntegerType} (known : ∀ t ∈ named, t ∈ integerTypes)
    (halts : Halts rest) :
    (spanFloat ((named.elim [] fun t => t.suffix.toList) ++ rest)).1 = [] := by
  cases named with
  | none => rw [Option.elim_none, List.nil_append, halts.spanFloat]
  | some type =>
    obtain ⟨-, ⟨first, later, spelled, letter⟩, -⟩ := suffix_spec (known type rfl)
    rw [Option.elim_some, spelled, List.cons_append]
    rcases letter with rfl | rfl <;> rw [spanFloat_of_not (by decide)]

theorem WritesInteger.looksFractional_append {number : Integer} (written : WritesInteger number text)
    (halts : Halts rest) : looksFractional (text ++ rest) = false := by
  cases written with
  | @intro negative base n type signs mark digits signed marked row known =>
  have ends := spanFloat_digits_end known halts
  simp only [List.append_assoc, looksFractional, signed.sign_append (marked.unsigned row)]
  cases marked with
  | decimal =>
    have plain : ∀ c ∈ digits, isFloatChar c = true ∧ c ≠ '.' := fun c member => by
      have plain := plain_of_rowChar (mem_row row.isRow c member)
      exact ⟨plain.2.1, by simp_all⟩
    rw [List.nil_append, spanFloat_append plain, ends,
      List.takeWhile_append_of_pos row.isIntegerChar]
    simp
  | hexadecimal | binary | octal =>
    -- The mark itself is no part of a fraction, so the number would end behind its zero.
    refine decide_eq_false (Nat.not_lt.mpr ?_)
    exact Nat.succ_le_succ (Nat.zero_le _)

/-- A type of at most 64 bits holds no more than the widest type of a sign. -/
theorem holds_widest {type : IntegerType} (known : type ∈ integerTypes) {negative : Bool} {n : Nat}
    (held : type.holds negative n = true) : IntegerType.holds ⟨negative, 64⟩ negative n = true := by
  simp only [integerTypes, List.mem_cons, List.not_mem_nil, or_false] at known
  cases negative <;> rcases known with rfl | rfl | rfl | rfl | rfl | rfl | rfl | rfl <;>
    simp [IntegerType.holds] at held ⊢ <;> omega

theorem WritesInteger.skipDigits?_append {number : Integer} (written : WritesInteger number text)
    (fits : number.fits = true) (halts : Halts rest) : skipDigits? (text ++ rest) = some rest := by
  have read := written.integer?_append halts.apart
  have known : ∀ type ∈ number.type, type ∈ integerTypes := by
    cases written
    assumption
  have held : (number.type.all fun type => type.holds number.negative number.magnitude) = true ∧
      IntegerType.holds ⟨number.negative, 64⟩ number.negative number.magnitude = true := by
    unfold Integer.fits at fits
    cases named : number.type with
    | none => simpa [named] using fits
    | some type =>
      have held : type.holds number.negative number.magnitude = true := by simpa [named] using fits
      exact ⟨by simp [held], holds_widest (known type (by simp [named])) held⟩
  simp only [skipDigits?, written.looksFractional_append halts, read, held.1, held.2, if_true,
    Bool.false_eq_true, if_false]

/-- The characters of a number without its underscores. -/
def bare (text : List Char) : List Char := text.filter (· ≠ '_')

theorem bare_append (text tail : List Char) : bare (text ++ tail) = bare text ++ bare tail :=
  List.filter_append ..

theorem bare_cons (other : c ≠ '_') (text : List Char) : bare (c :: text) = c :: bare text :=
  List.filter_cons_of_pos (by simp [other])

theorem mem_bare : c ∈ bare text ↔ c ∈ text ∧ c ≠ '_' := by
  simp [bare]

theorem ne_underscore (digit : c.isDigit = true) : c ≠ '_' := by
  rintro rfl
  cases digit

/-- The digits of a row, without its underscores. -/
theorem bare_row (row : isRow text = true) : bare text ≠ [] ∧ ∀ c ∈ bare text, c.isDigit = true := by
  obtain ⟨first, later, rfl, digit, inside⟩ := exists_of_isRow row
  refine ⟨by simp [bare_cons (ne_underscore digit)], fun c member => ?_⟩
  obtain ⟨member, other⟩ := mem_bare.mp member
  exact (mem_row row c member).resolve_right other

theorem withoutUnderscores?_digits (inside : ∀ c ∈ text, c.isDigit = true ∨ c = '_')
    (tail : List Char) :
    withoutUnderscores? true (text ++ tail) =
      (withoutUnderscores? true tail).map (bare text ++ ·) := by
  induction text with
  | nil => simp [bare]
  | cons c text ih =>
    have later := ih fun d member => inside d (by simp [member])
    rcases inside c (by simp) with digit | rfl
    · have other := ne_underscore digit
      simp [withoutUnderscores?, other, digit, later, bare_cons other, Function.comp_def]
    · simp [withoutUnderscores?, later, bare]

/-- After a first digit underscores are allowed, whether or not they were before. -/
theorem withoutUnderscores?_row (row : isRow text = true) (allowed : Bool) (tail : List Char) :
    withoutUnderscores? allowed (text ++ tail) =
      (withoutUnderscores? true tail).map (bare text ++ ·) := by
  obtain ⟨first, later, rfl, digit, inside⟩ := exists_of_isRow row
  have other := ne_underscore digit
  have rest := withoutUnderscores?_digits inside tail
  simp [withoutUnderscores?, other, digit, rest, bare_cons other, Function.comp_def]

theorem Mantissa.withoutUnderscores? {mantissa : List Char} (digits : Mantissa mantissa)
    (allowed : Bool) : ∃ allowed_behind, ∀ tail,
      Ron.withoutUnderscores? allowed (mantissa ++ tail) =
        (Ron.withoutUnderscores? allowed_behind tail).map (bare mantissa ++ ·) := by
  have point : ∀ allowed tail, Ron.withoutUnderscores? allowed ('.' :: tail) =
      (Ron.withoutUnderscores? false tail).map ('.' :: ·) := fun _ _ => rfl
  cases digits with
  | whole row => exact ⟨true, withoutUnderscores?_row row allowed⟩
  | @point digits fraction row behind =>
    rcases behind with rfl | behind
    · refine ⟨false, fun tail => ?_⟩
      simp [withoutUnderscores?_row row, point, bare, Function.comp_def]
    · refine ⟨true, fun tail => ?_⟩
      simp [withoutUnderscores?_row row, point, withoutUnderscores?_row behind, bare_append,
        bare_cons, Function.comp_def]
  | @fraction digits row =>
    refine ⟨true, fun tail => ?_⟩
    simp [withoutUnderscores?_row row, point, bare_cons, Function.comp_def]

theorem SignMark.withoutUnderscores?_append {negative : Bool} {mark : List Char}
    (signed : SignMark negative mark) (allowed : Bool) (tail : List Char) :
    withoutUnderscores? allowed (mark ++ tail) =
      (withoutUnderscores? allowed tail).map (mark ++ ·) := by
  cases signed with
  | none => simp
  | plus | minus => rfl

theorem SignMark.bare_eq {negative : Bool} {mark : List Char} (signed : SignMark negative mark) :
    bare mark = mark := by
  cases signed <;> rfl

theorem Exponent.withoutUnderscores? {exponent : List Char} (scaled : Exponent exponent)
    (allowed : Bool) : Ron.withoutUnderscores? allowed exponent = some (bare exponent) := by
  cases scaled with
  | absent => rfl
  | @present mark negative sign digits marked signed inside some_digit =>
    have read := withoutUnderscores?_digits inside []
    have first : Ron.withoutUnderscores? allowed (mark :: (sign ++ digits)) =
        (Ron.withoutUnderscores? true (sign ++ digits)).map (mark :: ·) := by
      rcases marked with rfl | rfl <;> rfl
    have other : mark ≠ '_' := by
      rcases marked with rfl | rfl <;> decide
    rw [List.append_nil] at read
    have nothing : Ron.withoutUnderscores? true [] = some [] := rfl
    rw [first, signed.withoutUnderscores?_append, read, nothing]
    simp [bare_cons other, bare_append, signed.bare_eq]

/-- An exponent is read as one, and neither digit nor point is in front of it. -/
theorem Exponent.isExponent_bare {exponent : List Char} (scaled : Exponent exponent) :
    isExponent (bare exponent) = true ∧
      ∀ c ∈ (bare exponent).head?, c.isDigit = false ∧ c ≠ '.' := by
  cases scaled with
  | absent => exact ⟨rfl, nofun⟩
  | @present mark negative sign digits marked signed inside some_digit =>
    have other : mark ≠ '_' := by
      rcases marked with rfl | rfl <;> decide
    have plain : ∀ c ∈ bare digits, c.isDigit = true := fun c member =>
      (inside c (mem_bare.mp member).1).resolve_right (mem_bare.mp member).2
    have filled : bare digits ≠ [] := by
      obtain ⟨c, member, digit⟩ := some_digit
      exact List.ne_nil_of_mem (mem_bare.mpr ⟨member, ne_underscore digit⟩)
    have unsigned : ∀ c ∈ (bare digits).head?, c ∉ ['+', '-'] := by
      intro c first member
      have digit := plain c (List.mem_of_head? first)
      simp only [List.mem_cons, List.not_mem_nil, or_false] at member
      rcases member with rfl | rfl <;> cases digit
    rw [bare_cons other, bare_append, signed.bare_eq]
    refine ⟨?_, ?_⟩
    · have value : (Text.numeral? (bare digits)).isSome = true := by
        rw [Text.numeral?, if_pos ⟨filled, List.all_eq_true.mpr plain⟩]
        rfl
      simp only [isExponent, signed.sign_append unsigned, value, Bool.and_true, Bool.or_eq_true,
        decide_eq_true_eq]
      exact marked
    · intro c first
      obtain rfl := Option.some.inj first
      rcases marked with rfl | rfl <;> decide

/-- A mantissa begins with a digit or a point, and keeps its first character. -/
theorem Mantissa.exists_first {mantissa : List Char} (digits : Mantissa mantissa) :
    ∃ first later, mantissa = first :: later ∧ (first.isDigit = true ∨ first = '.') := by
  cases digits with
  | whole row | point row =>
    obtain ⟨first, later, rfl, digit, -⟩ := exists_of_isRow row
    exact ⟨first, _, rfl, .inl digit⟩
  | fraction => exact ⟨_, _, rfl, .inr rfl⟩

theorem not_sign {c : Char} (first : c.isDigit = true ∨ c = '.') : c ∉ ['+', '-'] := by
  rcases first with digit | rfl
  · have plain := (plain_of_rowChar (.inl digit)).2.2
    grind
  · decide

theorem spanChars_isDigit {digits : List Char} (plain : ∀ c ∈ digits, c.isDigit = true)
    (ends : ∀ c ∈ tail.head?, c.isDigit = false) :
    spanChars Char.isDigit (digits ++ tail) = (digits, tail) :=
  spanChars_append plain ((Option.any_eq_false ..).mpr fun c first => by simp [ends c first])

theorem Mantissa.isDecimal_bare {negative : Bool} {sign mantissa exponent : List Char}
    (digits : Mantissa mantissa) (signed : SignMark negative sign) (scaled : Exponent exponent) :
    isDecimal (sign ++ (bare mantissa ++ bare exponent)) = true := by
  obtain ⟨exponential, ends⟩ := scaled.isExponent_bare
  have unsigned : ∀ c ∈ (bare mantissa ++ bare exponent).head?, c ∉ ['+', '-'] := by
    obtain ⟨first, later, rfl, kind⟩ := digits.exists_first
    have other : first ≠ '_' := by
      rcases kind with digit | rfl
      · exact ne_underscore digit
      · decide
    intro c head
    rw [bare_cons other] at head
    obtain rfl := Option.some.inj head
    exact not_sign kind
  rw [isDecimal, signed.sign_append unsigned]
  have before_point : ∀ tail, ∀ c ∈ ('.' :: tail : List Char).head?, c.isDigit = false := by
    intro tail c head
    obtain rfl := Option.some.inj head
    rfl
  have point_bare : ∀ text, bare ('.' :: text) = '.' :: bare text := bare_cons (by decide)
  cases digits with
  | whole row =>
    obtain ⟨filled, plain⟩ := bare_row row
    simp only [spanChars_isDigit plain fun c head => (ends c head).1]
    split
    next same => exact absurd rfl (ends '.' (by rw [same, List.head?_cons, Option.mem_some])).2
    next => simp [filled, exponential]
  | @point digits fraction row behind =>
    obtain ⟨filled, plain⟩ := bare_row row
    have last : ∀ c ∈ bare fraction, c.isDigit = true := by
      rcases behind with rfl | behind
      · exact nofun
      · exact (bare_row behind).2
    rw [bare_append, point_bare, List.append_assoc, List.cons_append,
      spanChars_isDigit plain (before_point _)]
    simp only [spanChars_isDigit last fun c head => (ends c head).1, exponential, Bool.and_true]
    simp [filled]
  | @fraction digits row =>
    obtain ⟨filled, plain⟩ := bare_row row
    have none : spanChars Char.isDigit ([] ++ '.' :: (bare digits ++ bare exponent)) = _ :=
      spanChars_isDigit nofun (before_point _)
    rw [List.nil_append] at none
    rw [point_bare, List.cons_append]
    simp only [none, spanChars_isDigit plain fun c head => (ends c head).1, exponential, Bool.and_true]
    simp [filled]

/-- A mantissa is taken as a whole, unless it ends with a point and another one follows. -/
theorem Mantissa.spanFloat_append {mantissa : List Char} (digits : Mantissa mantissa)
    (next : mantissa.getLast? = some '.' → tail.head? ≠ some '.') :
    spanFloat (mantissa ++ tail) = (mantissa ++ (spanFloat tail).1, (spanFloat tail).2) := by
  have plain : ∀ {text : List Char}, isRow text = true → ∀ c ∈ text, isFloatChar c = true ∧ c ≠ '.' := by
    intro text row c member
    have plain := plain_of_rowChar (mem_row row c member)
    exact ⟨plain.2.1, by grind⟩
  have behind_point : ∀ {text : List Char}, isRow text = true →
      spanFloat ('.' :: (text ++ tail)) = ('.' :: (text ++ (spanFloat tail).1), (spanFloat tail).2) := by
    intro text row
    obtain ⟨first, later, rfl, digit, -⟩ := exists_of_isRow row
    rw [spanFloat_point, Ron.spanFloat_append (plain row)]
    rintro same
    obtain rfl := Option.some.inj same
    cases digit
  cases digits with
  | whole row => exact Ron.spanFloat_append (plain row) tail
  | @point digits fraction row behind =>
    rw [List.append_assoc, Ron.spanFloat_append (plain row), List.cons_append]
    rcases behind with rfl | behind
    · rw [List.nil_append, spanFloat_point (next (by simp))]
      simp
    · rw [behind_point behind]
      simp
  | fraction row => exact behind_point row

theorem SignMark.spanFloat_append {negative : Bool} {mark : List Char}
    (signed : SignMark negative mark) (tail : List Char) :
    spanFloat (mark ++ tail) = (mark ++ (spanFloat tail).1, (spanFloat tail).2) := by
  refine Ron.spanFloat_append (fun c member => ?_) tail
  cases signed with
  | none => cases member
  | plus | minus =>
    obtain rfl := List.mem_singleton.mp member
    decide

theorem Exponent.spanFloat_append {exponent : List Char} (scaled : Exponent exponent)
    (tail : List Char) :
    spanFloat (exponent ++ tail) = (exponent ++ (spanFloat tail).1, (spanFloat tail).2) := by
  cases scaled with
  | absent => rfl
  | @present mark negative sign digits marked signed inside =>
    have plain : ∀ c ∈ digits, isFloatChar c = true ∧ c ≠ '.' := by
      intro c member
      have plain := plain_of_rowChar (inside c member)
      exact ⟨plain.2.1, by grind⟩
    have first : ∀ c ∈ [mark], isFloatChar c = true ∧ c ≠ '.' := by
      intro c member
      obtain rfl := List.mem_singleton.mp member
      rcases marked with rfl | rfl <;> decide
    have rest := Ron.spanFloat_append first (sign ++ (digits ++ tail))
    rw [signed.spanFloat_append, Ron.spanFloat_append plain] at rest
    simpa using rest

/-- What a fraction may be followed by: the name of its type, or what may follow a number. -/
theorem spanFloat_type {type : String} (known : type ∈ ["", "f32", "f64"]) (halts : Halts rest) :
    spanFloat (type.toList ++ rest) = ([], type.toList ++ rest) := by
  simp only [List.mem_cons, List.not_mem_nil, or_false] at known
  rcases known with rfl | rfl | rfl
  · exact halts.spanFloat
  · rfl
  · rfl

/-- A text that begins with another character has no number without digits. -/
theorem floatWords_eq_none (first : ∀ c ∈ text.head?, c ∉ ['i', 'N']) :
    (floatWords.findSome? fun word => word? word text) = none :=
  List.findSome?_eq_none_iff.mpr (words_eq_none floatWords ['i', 'N'] (by decide) first)

/-- The name of a type is passed over, if it is there. -/
theorem skipType_append {type : String} (known : type ∈ ["", "f32", "f64"])
    (apart : rest.head?.any Text.isIdentifierRest = false) :
    ((word? "f32" (type.toList ++ rest)) <|> word? "f64" (type.toList ++ rest)).getD
      (type.toList ++ rest) = rest := by
  have letters : ∀ word ∈ ["", "f32", "f64"], (word.toList.all Text.isIdentifierRest) = true := by
    decide
  have plain := List.all_eq_true.mp (letters type known)
  rw [word?_append (by simpa using letters "f32" (by simp)) plain apart,
    word?_append (by simpa using letters "f64" (by simp)) plain apart]
  simp only [List.mem_cons, List.not_mem_nil, or_false] at known
  rcases known with rfl | rfl | rfl <;> simp

section

variable {negative : Bool} {sign mantissa exponent : List Char} {type : String}

/-- Behind a point that ends a mantissa, another one could only follow the whole number. -/
theorem Mantissa.next_point (digits : Mantissa mantissa) (scaled : Exponent exponent)
    (known : type ∈ ["", "f32", "f64"])
    (joined : (sign ++ mantissa ++ exponent ++ type.toList).getLast? = some '.' →
      rest.head? ≠ some '.') :
    mantissa.getLast? = some '.' → (exponent ++ (type.toList ++ rest)).head? ≠ some '.' := by
  intro last
  simp only [List.mem_cons, List.not_mem_nil, or_false] at known
  cases scaled with
  | absent =>
    rcases known with rfl | rfl | rfl
    · obtain ⟨first, later, rfl, -⟩ := digits.exists_first
      exact joined (by simpa using last)
    · simp
    · simp
  | present marked =>
    rcases marked with rfl | rfl <;> simp

theorem Mantissa.not_sign (digits : Mantissa mantissa) :
    ∀ c ∈ (mantissa ++ tail).head?, c ∉ ['+', '-'] := by
  obtain ⟨first, later, rfl, kind⟩ := digits.exists_first
  intro c head
  obtain rfl := Option.some.inj head
  exact Ron.not_sign kind

theorem Mantissa.not_word (digits : Mantissa mantissa) :
    ∀ c ∈ (mantissa ++ tail).head?, c ∉ ['i', 'N'] := by
  obtain ⟨first, later, rfl, kind⟩ := digits.exists_first
  intro c head
  obtain rfl := Option.some.inj head
  rcases kind with digit | rfl
  · intro member
    simp only [List.mem_cons, List.not_mem_nil, or_false] at member
    rcases member with rfl | rfl <;> cases digit
  · decide

/-- A number with a fraction is passed over. -/
theorem skipFloat?_append (signed : SignMark negative sign) (digits : Mantissa mantissa)
    (scaled : Exponent exponent) (known : type ∈ ["", "f32", "f64"]) (halts : Halts rest)
    (joined : (sign ++ mantissa ++ exponent ++ type.toList).getLast? = some '.' →
      rest.head? ≠ some '.') :
    skipFloat? (sign ++ (mantissa ++ (exponent ++ (type.toList ++ rest)))) = some rest := by
  have next := digits.next_point scaled known joined
  have span : spanFloat (sign ++ (mantissa ++ (exponent ++ (type.toList ++ rest)))) =
      (sign ++ (mantissa ++ exponent), type.toList ++ rest) := by
    rw [signed.spanFloat_append, digits.spanFloat_append next, scaled.spanFloat_append,
      spanFloat_type known halts, List.append_nil]
  have number : withoutUnderscores? false (sign ++ (mantissa ++ exponent)) =
      some (sign ++ (bare mantissa ++ bare exponent)) := by
    obtain ⟨allowed, read⟩ := digits.withoutUnderscores? false
    rw [signed.withoutUnderscores?_append, read, scaled.withoutUnderscores?]
    rfl
  rw [skipFloat?, signed.sign_append digits.not_sign, floatWords_eq_none digits.not_word]
  simp only [span, number, digits.isDecimal_bare signed scaled, if_true,
    skipType_append known halts.apart]

/-- Digits with another letter among them have no value. -/
theorem digitsIn?_eq_none {row : List Char} {c : Char} {d : Nat} (digits : isRow row = true)
    (letter : hexValue? c = some d) (large : 10 ≤ d) (tail : List Char) :
    digitsIn? 10 (row ++ c :: tail) = none := by
  have inside : ∀ c ∈ row, isIntegerChar c = true := fun c member =>
    (plain_of_rowChar (mem_row digits c member)).1
  have also : isIntegerChar c = true := by simp [isIntegerChar, letter]
  have other : c ≠ '_' := by
    rintro rfl
    cases letter
  have stuck : ∀ later : List Char, later.foldl (fun value c => do
      let d ← hexValue? c
      if d < 10 then return 10 * (← value) + d else none) (none : Option Nat) = none := by
    intro later
    induction later with
    | nil => rfl
    | cons c later ih =>
      rw [List.foldl_cons]
      cases hexValue? c with
      | none => exact ih
      | some d => by_cases small : d < 10 <;> simpa [small] using ih
  have value : ∀ later, digitsValue? 10 (row ++ c :: later) = none := by
    intro later
    rw [digitsValue?, List.filter_append, List.filter_cons_of_pos (by simp [other]),
      List.foldl_append, List.foldl_cons]
    simp only [letter, Option.bind_eq_bind, Option.bind_some, Nat.not_lt.mpr large, if_false]
    exact stuck _
  have span : spanChars isIntegerChar (row ++ c :: tail) =
      (row ++ c :: tail.takeWhile isIntegerChar, tail.dropWhile isIntegerChar) := by
    rw [spanChars, List.takeWhile_append_of_pos inside, List.takeWhile_cons_of_pos also,
      List.dropWhile_append_of_pos inside, List.dropWhile_cons_of_pos also]
  rw [digitsIn?, span]
  simp [value]

theorem skipDigits?_of_skipFloat? (found : skipFloat? text = some rest)
    (only : looksFractional text = false →
      ∀ number left, integer? text = some (number, left) → left = rest) :
    skipDigits? text = some rest := by
  unfold skipDigits?
  split
  · exact found
  next whole =>
    split
    next number left read =>
      dsimp only
      split
      · rw [only (by simpa using whole) number left read]
      · exact found
    next => exact found

/-- With a point more characters belong to a fraction than to an integer. -/
theorem looksFractional_of_point {row : List Char} (signed : SignMark negative sign)
    (inside : ∀ c ∈ row, isIntegerChar c = true)
    (unsigned : ∀ c ∈ (row ++ '.' :: tail).head?, c ∉ ['+', '-'])
    (span : (row ++ ['.']).length ≤ (spanFloat (row ++ '.' :: tail)).1.length) :
    looksFractional (sign ++ (row ++ '.' :: tail)) = true := by
  rw [looksFractional, signed.sign_append unsigned]
  have stop : isIntegerChar '.' = false := by decide
  simp only [List.takeWhile_append_of_pos inside, decide_eq_true_eq]
  rw [List.takeWhile_cons_of_neg (by simp [stop]), List.append_nil]
  rwa [List.length_append] at span

/-- With another letter behind its digits a text is no integer. -/
theorem integer?_eq_none {row : List Char} (signed : SignMark negative sign) (digits : isRow row = true)
    {d : Nat} (letter : hexValue? c = some d) (large : 10 ≤ d) (other : c ∉ ['x', 'b', 'o'])
    (tail : List Char) : integer? (sign ++ (row ++ c :: tail)) = none := by
  have unsigned : ∀ d ∈ (row ++ c :: tail).head?, d ∉ ['+', '-'] := (Mantissa.whole digits).not_sign
  have next : ∀ d ∈ (c :: tail).head?, d ∉ ['x', 'b', 'o'] := by
    intro d head
    obtain rfl := Option.some.inj head
    exact other
  rw [integer?, signed.sign_append unsigned]
  simp only [magnitude?_row digits next, digitsIn?_eq_none digits letter large]
  rfl

/-- An integer without a type ends with its digits. -/
theorem eq_of_integer?_row {row left : List Char} {number : Integer} (signed : SignMark negative sign)
    (digits : isRow row = true) (apart : rest.head?.any Text.isIdentifierRest = false)
    (read : integer? (sign ++ (row ++ rest)) = some (number, left)) : left = rest := by
  have unsigned : ∀ d ∈ (row ++ rest).head?, d ∉ ['+', '-'] := (Mantissa.whole digits).not_sign
  have inside : ∀ c ∈ row, isIntegerChar c = true := fun c member =>
    (plain_of_rowChar (mem_row digits c member)).1
  have ends : ∀ c ∈ rest.head?, isIntegerChar c = false ∧ c ∉ ['x', 'b', 'o'] := by
    have none : ∀ t ∈ (none : Option IntegerType), t ∈ integerTypes := nofun
    simpa using digits_end none apart
  have last : rest.head?.any isIntegerChar = false :=
    (Option.any_eq_false ..).mpr fun c first => by simp [(ends c first).1]
  rw [integer?, signed.sign_append unsigned] at read
  cases found : magnitude? (row ++ rest) with
  | none => simp [found] at read
  | some pair =>
    obtain ⟨value, behind⟩ := pair
    obtain rfl : behind = rest := by
      rw [magnitude?_row digits fun c first => (ends c first).2, digitsIn?,
        spanChars_append inside last] at found
      dsimp only at found
      split at found
      · cases found
      · obtain ⟨n, -, same⟩ := Option.map_eq_some_iff.mp found
        exact (Prod.mk.inj same).2.symm
    simp only [found, Option.bind_eq_bind, Option.bind_some, suffix?_of_apart apart, Option.pure_def,
      Option.some.injEq, Prod.mk.injEq] at read
    exact read.2.symm

/-- Digits are followed by what follows the number, or by a letter that is a digit in other bases. -/
theorem Exponent.follows_row (scaled : Exponent exponent) (known : type ∈ ["", "f32", "f64"]) :
    exponent ++ (type.toList ++ rest) = rest ∨
      ∃ c tail d, exponent ++ (type.toList ++ rest) = c :: tail ∧
        hexValue? c = some d ∧ 10 ≤ d ∧ c ∉ ['x', 'b', 'o'] := by
  simp only [List.mem_cons, List.not_mem_nil, or_false] at known
  cases scaled with
  | absent =>
    rcases known with rfl | rfl | rfl
    · exact .inl rfl
    · exact .inr ⟨'f', _, 15, rfl, by decide⟩
    · exact .inr ⟨'f', _, 15, rfl, by decide⟩
  | present marked =>
    rcases marked with rfl | rfl
    · exact .inr ⟨'e', _, 14, rfl, by decide⟩
    · exact .inr ⟨'E', _, 14, rfl, by decide⟩

/-- A number with a fraction is passed over as one, unless it reads as an integer up to its end. -/
theorem skipDigits?_append (signed : SignMark negative sign) (digits : Mantissa mantissa)
    (scaled : Exponent exponent) (known : type ∈ ["", "f32", "f64"]) (halts : Halts rest)
    (joined : (sign ++ mantissa ++ exponent ++ type.toList).getLast? = some '.' →
      rest.head? ≠ some '.') :
    skipDigits? (sign ++ (mantissa ++ (exponent ++ (type.toList ++ rest)))) = some rest := by
  refine skipDigits?_of_skipFloat? (skipFloat?_append signed digits scaled known halts joined) ?_
  intro whole number left read
  have span := digits.spanFloat_append (digits.next_point scaled known joined)
  have unsigned : ∀ c ∈ (mantissa ++ (exponent ++ (type.toList ++ rest))).head?, c ∉ ['+', '-'] :=
    digits.not_sign
  cases digits with
  | @point row fraction digits behind =>
    have inside : ∀ c ∈ row, isIntegerChar c = true := fun c member =>
      (plain_of_rowChar (mem_row digits c member)).1
    rw [List.append_assoc, List.cons_append] at span unsigned whole
    have fractional := looksFractional_of_point signed inside unsigned (by simp [span])
    simp [fractional] at whole
  | @fraction row digits =>
    rw [List.cons_append] at span unsigned whole
    have fractional : looksFractional (sign ++ ([] ++ '.' :: _)) = true :=
      looksFractional_of_point signed nofun unsigned (by simp [span])
    rw [List.nil_append, whole] at fractional
    cases fractional
  | whole row =>
    rcases scaled.follows_row known with same | ⟨c, tail, d, same, letter, large, other⟩
    · rw [same] at read
      exact eq_of_integer?_row signed row halts.apart read
    · rw [same, integer?_eq_none signed row letter large other] at read
      cases read

end

end Fraction

end Blackjack.Ron
