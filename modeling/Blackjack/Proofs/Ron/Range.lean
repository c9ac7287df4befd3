import Blackjack.Proofs.Ron.Fraction
import Blackjack.Proofs.Ron.Quotation

/-!
# Numbers of every kind and their ranges

A number is passed over up to a boundary or to the two points of a range
(`Number.skipNumber?_append`). The points of a range begin no number, so the bound in front of them
ends there, and a range ends where its upper bound does.
-/

namespace Blackjack.Ron

section Number

variable {text rest : List Char} {c : Char}

/-- Digits, signs and points begin a number in digits. -/
theorem skipNumber?_of_first (first : c.isDigit = true ∨ c ∈ ['+', '-', '.']) (later : List Char) :
    skipNumber? (c :: later) = skipDigits? (c :: later) := by
  have words : (floatWords.findSome? fun word => word? word (c :: later)) = none := by
    refine floatWords_eq_none fun d head => ?_
    obtain rfl := Option.some.inj head
    intro member
    simp only [List.mem_cons, List.not_mem_nil, or_false] at member first
    rcases member with rfl | rfl <;> simp at first
  unfold skipNumber?
  simp only [words]
  split
  next same =>
    obtain ⟨rfl, -⟩ := List.cons.inj same
    simp at first
  next same =>
    obtain ⟨rfl, -⟩ := List.cons.inj same
    rw [if_pos]
    simpa [or_assoc] using first
  next same => cases same

theorem isFloatChar_of_first (first : c.isDigit = true ∨ c ∈ ['+', '-', '.']) :
    isFloatChar c = true := by
  rcases first with digit | mark
  · simp [isFloatChar, digit]
  · simp only [List.mem_cons, List.not_mem_nil, or_false] at mark
    rcases mark with rfl | rfl | rfl <;> rfl

/-- Nothing else begins a number but the words for those without digits, and bytes. -/
theorem skipNumber?_eq_none (words : ∀ word ∈ floatWords, word? word text = none)
    (byte : ¬['b', '\''] <+: text)
    (first : ∀ c ∈ text.head?, ¬(c.isDigit = true ∨ c ∈ ['+', '-', '.'])) : skipNumber? text = none := by
  unfold skipNumber?
  simp only [List.findSome?_eq_none_iff.mpr words]
  split
  next later => exact absurd ⟨later, rfl⟩ byte
  next c later same =>
    have other := first c rfl
    rw [if_neg (by simpa [or_assoc] using other)]
  next => rfl

/-- A number begins with a digit, a sign, a point or a letter. -/
theorem WritesInteger.exists_first {number : Integer} (written : WritesInteger number text) :
    ∃ c later, text = c :: later ∧ (c.isDigit = true ∨ c ∈ ['+', '-', '.']) := by
  cases written with
  | intro signed marked row known =>
    cases signed with
    | plus | minus => exact ⟨_, _, rfl, .inr (by simp)⟩
    | none =>
      cases marked with
      | decimal =>
        obtain ⟨first, later, rfl, digit, -⟩ := exists_of_isRow row.isRow
        exact ⟨first, _, rfl, .inl digit⟩
      | hexadecimal | binary | octal => exact ⟨'0', _, rfl, .inl rfl⟩

theorem SignMark.exists_first {negative : Bool} {sign mantissa : List Char}
    (signed : SignMark negative sign) (digits : Mantissa mantissa) (tail : List Char) :
    ∃ c later, sign ++ (mantissa ++ tail) = c :: later ∧ (c.isDigit = true ∨ c ∈ ['+', '-', '.']) := by
  cases signed with
  | plus | minus => exact ⟨_, _, rfl, .inr (by simp)⟩
  | none =>
    obtain ⟨first, later, rfl, kind⟩ := digits.exists_first
    exact ⟨first, _, rfl, by simpa using kind.imp id fun same => by simp [same]⟩

theorem floatWords_append {word : String} (known : word ∈ floatWords)
    (apart : rest.head?.any Text.isIdentifierRest = false) :
    (floatWords.findSome? fun other => word? other (word.toList ++ rest)) = some rest :=
  words_append floatWords (fun _ listed =>
    (letters_of_reserved (List.mem_cons_of_mem _ (List.mem_append_right _ listed))).1) known apart

/-- A word with a sign is passed over as a number without digits. -/
theorem skipDigits?_word {negative : Bool} {sign : List Char} {word : String}
    (signed : SignMark negative sign) (known : word ∈ floatWords)
    (apart : rest.head?.any Text.isIdentifierRest = false) :
    skipDigits? (sign ++ (word.toList ++ rest)) = some rest := by
  have begins : ∀ word ∈ floatWords, (word.toList.head?.any fun c => c ∈ ['i', 'N']) = true := by
    decide
  obtain ⟨c, later, spelled, letter⟩ : ∃ c later, word.toList = c :: later ∧ (c = 'i' ∨ c = 'N') := by
    have letter := begins word known
    cases spelled : word.toList with
    | nil => simp [spelled] at letter
    | cons c later => exact ⟨c, later, rfl, by simpa [spelled] using letter⟩
  have unsigned : ∀ d ∈ (word.toList ++ rest).head?, d ∉ ['+', '-'] := by
    intro d head
    rw [spelled] at head
    obtain rfl := Option.some.inj head
    rcases letter with rfl | rfl <;> decide
  have found : skipFloat? (sign ++ (word.toList ++ rest)) = some rest := by
    rw [skipFloat?, signed.sign_append unsigned, floatWords_append known apart]
  refine skipDigits?_of_skipFloat? found fun _ number left read => ?_
  have digits : magnitude? (word.toList ++ rest) = none := by
    rw [spelled]
    rcases letter with rfl | rfl <;> rfl
  rw [integer?, signed.sign_append unsigned] at read
  simp [digits] at read

theorem skipNumber?_byte (later : List Char) :
    skipNumber? ('b' :: '\'' :: later) = skipByte? ('b' :: '\'' :: later) := by
  have words : (floatWords.findSome? fun word => word? word ('b' :: '\'' :: later)) = none :=
    floatWords_eq_none fun c head => by
      obtain rfl := Option.some.inj head
      decide
  unfold skipNumber?
  simp only [words]

/-- A number is passed over up to a boundary, or to the points of a range if it ends with none. -/
theorem Number.skipNumber?_append (number : Number text)
    (ends : Stops rest ∨ text.getLast? ≠ some '.' ∧ ['.', '.'] <+: rest) :
    skipNumber? (text ++ rest) = some rest := by
  have halts : Halts rest := ends.imp id And.right
  cases number with
  | integer written fits =>
    obtain ⟨c, later, rfl, first⟩ := written.exists_first
    rw [List.cons_append, skipNumber?_of_first first, ← List.cons_append]
    exact written.skipDigits?_append fits halts
  | @decimal negative sign mantissa exponent type signed digits scaled known =>
    have joined : (sign ++ mantissa ++ exponent ++ type.toList).getLast? = some '.' →
        rest.head? ≠ some '.' := by
      intro last head
      rcases ends with stops | ⟨other, -⟩
      · have boundary := stops '.' head
        cases boundary
      · exact other last
    have passed := skipDigits?_append signed digits scaled known halts joined
    simp only [List.append_assoc] at passed ⊢
    obtain ⟨c, later, whole, first⟩ :=
      signed.exists_first digits (exponent ++ (type.toList ++ rest))
    rw [whole] at passed ⊢
    rw [skipNumber?_of_first first, passed]
  | @word negative sign word signed known =>
    have passed := skipDigits?_word signed known halts.apart
    cases signed with
    | none =>
      have found := floatWords_append known halts.apart
      unfold skipNumber?
      simp only [List.nil_append, found]
    | plus => rw [List.append_assoc]; exact (skipNumber?_of_first (.inr (by simp)) _).trans passed
    | minus => rw [List.append_assoc]; exact (skipNumber?_of_first (.inr (by simp)) _).trans passed
  | byte ascii escape =>
    have quote : token? "'" ('\'' :: rest) = some rest := rfl
    simp [skipNumber?_byte, skipByte?, ascii, quote]
  | escapedByte escape =>
    have quote : token? "'" ('\'' :: rest) = some rest := rfl
    have read := escape.escape?_append ('\'' :: rest)
    simp [skipNumber?_byte, skipByte?, read, quote]

end Number

section Range

variable {lower upper text rest : List Char}

theorem Stops.skipNumber? (stops : Stops rest) : skipNumber? rest = none := by
  have letters : ∀ c ∈ rest.head?, c ∉ ['i', 'N', 'b'] := by
    intro c head member
    have other := isIdentifierRest_of_isBoundary (stops c head)
    have all : (['i', 'N', 'b'].all Text.isIdentifierRest) = true := by decide
    simp [List.all_eq_true.mp all c member] at other
  refine skipNumber?_eq_none ?_ ?_ fun c head digits => ?_
  · exact words_eq_none floatWords ['i', 'N'] (by decide) fun c head member =>
      letters c head (by simp_all)
  · rintro ⟨later, rfl⟩
    exact letters 'b' rfl (by decide)
  · cases (isFloatChar_of_first digits).symm.trans (apart_of_isBoundary (stops c head)).2.1

/-- Two points begin no number. -/
theorem skipNumber?_points (later : List Char) : skipNumber? ('.' :: '.' :: later) = none := by
  rw [skipNumber?_of_first (.inr (by simp))]
  have words : (floatWords.findSome? fun word => word? word ('.' :: '.' :: later)) = none :=
    floatWords_eq_none fun c head => by
      obtain rfl := Option.some.inj head
      decide
  have fraction : skipFloat? ('.' :: '.' :: later) = none := by
    have unsigned : sign ('.' :: '.' :: later) = (false, '.' :: '.' :: later) := rfl
    rw [skipFloat?, unsigned, words]
    rfl
  have integer : integer? ('.' :: '.' :: later) = none := rfl
  unfold skipDigits?
  rw [fraction, integer]
  simp

/-- Behind the lower bound of a range there are its points. -/
theorem Lower.skipNumber?_append (low : Lower lower) (later : List Char) :
    (skipNumber? (lower ++ '.' :: '.' :: later)).getD (lower ++ '.' :: '.' :: later) =
      '.' :: '.' :: later := by
  rcases low with rfl | ⟨number, other⟩
  · rw [List.nil_append, skipNumber?_points]
    rfl
  · have passed : skipNumber? (lower ++ '.' :: '.' :: later) = some ('.' :: '.' :: later) :=
      number.skipNumber?_append (.inr ⟨other, later, rfl⟩)
    rw [passed, Option.getD_some]

/-- A number is a word, or it begins with a digit, a sign or a point, or it is a byte. -/
theorem Number.first_cases (number : Number text) :
    (∃ word ∈ floatWords, text = word.toList) ∨
      (∃ c later, text = c :: later ∧ (c.isDigit = true ∨ c ∈ ['+', '-', '.'])) ∨
        ∃ later, text = 'b' :: '\'' :: later := by
  cases number with
  | integer written => exact .inr (.inl written.exists_first)
  | @decimal negative sign mantissa exponent type signed digits =>
    obtain ⟨c, later, whole, kind⟩ := signed.exists_first digits (exponent ++ type.toList)
    exact .inr (.inl ⟨c, later, by simpa using whole, kind⟩)
  | @word negative sign word signed known =>
    cases signed with
    | none => exact .inl ⟨word, known, rfl⟩
    | plus | minus => exact .inr (.inl ⟨_, _, rfl, .inr (by simp)⟩)
  | byte | escapedByte => exact .inr (.inr ⟨_, rfl⟩)

/-- Neither number nor what follows one begins with the sign of a range that includes its end. -/
theorem head_ne_equals (high : upper = [] ∨ Number upper) (stops : Stops rest) :
    (upper ++ rest).head? ≠ some '=' := by
  intro head
  rcases high with rfl | number
  · exact (apart_of_isBoundary (stops '=' head)).2.2 (by decide)
  rcases number.first_cases with ⟨word, known, rfl⟩ | ⟨c, later, rfl, kind⟩ | ⟨later, rfl⟩
  · simp only [floatWords, List.mem_cons, List.not_mem_nil, or_false] at known
    rcases known with rfl | rfl | rfl | rfl | rfl | rfl <;> cases head
  · obtain rfl := Option.some.inj head
    revert kind
    decide
  · cases head

theorem Number.skipRange?_append (number : Number text) (stops : Stops rest) :
    skipRange? (text ++ rest) = some rest := by
  have point : rest.head? ≠ some '.' := fun head => by cases stops '.' head
  have through : token? "..=" rest = none := token?_eq_none rfl point
  have points : token? ".." rest = none := token?_eq_none rfl point
  rw [skipRange?, number.skipNumber?_append (.inl stops)]
  simp only [Option.getD_some, through, points]

theorem Range.skipRange?_append (range : Range text) (stops : Stops rest) :
    skipRange? (text ++ rest) = some rest := by
  cases range with
  | @short lower upper low high =>
    have behind := low.skipNumber?_append (upper ++ rest)
    have through : token? "..=" ('.' :: '.' :: (upper ++ rest)) = none := by
      refine Option.eq_none_iff_forall_ne_some.mpr fun left found => head_ne_equals high stops ?_
      have same := token?_eq_some_iff.mp found
      simp at same
      simp [same]
    have points : token? ".." ('.' :: '.' :: (upper ++ rest)) = some (upper ++ rest) := rfl
    simp only [List.append_assoc, List.cons_append, skipRange?, behind, through, points]
    rcases high with rfl | number
    · rw [List.nil_append, stops.skipNumber?, Option.getD_none]
    · rw [number.skipNumber?_append (.inl stops), Option.getD_some]
  | @through lower upper low high =>
    have behind := low.skipNumber?_append ('=' :: (upper ++ rest))
    have through : token? "..=" ('.' :: '.' :: '=' :: (upper ++ rest)) = some (upper ++ rest) := rfl
    simp only [List.append_assoc, List.cons_append, skipRange?, behind, through]
    exact high.skipNumber?_append (.inl stops)

/-- Where neither a number nor a point begins, there is no range. -/
theorem skipRange?_eq_none (words : ∀ word ∈ floatWords, word? word text = none)
    (byte : ¬['b', '\''] <+: text)
    (first : ∀ c ∈ text.head?, ¬(c.isDigit = true ∨ c ∈ ['+', '-', '.'])) : skipRange? text = none := by
  have point : text.head? ≠ some '.' := fun head => first '.' head (by decide)
  have through : token? "..=" text = none := token?_eq_none rfl point
  have points : token? ".." text = none := token?_eq_none rfl point
  rw [skipRange?, skipNumber?_eq_none words byte first]
  simp only [Option.getD_none, through, points]

end Range

end Blackjack.Ron
