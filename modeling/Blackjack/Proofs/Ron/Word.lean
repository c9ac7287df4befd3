import Blackjack.Proofs.Ron.Spacing

/-!
# Words and names

A word stands alone only if it is all of the name that it begins (`word?_append`), and a name is read
up to the boundary or the bracket that ends it, as a key and as a value. The second needs that no
name begins as a literal does.
-/

namespace Blackjack.Ron

section Word

variable {word : String} {name rest : List Char}

theorem findSome?_eq_some_of_mem {α β : Type} {find : α → Option β} {a : α} {b : β} {list : List α}
    (member : a ∈ list) (found : find a = some b)
    (only : ∀ other ∈ list, find other = none ∨ find other = some b) :
    list.findSome? find = some b := by
  induction list with
  | nil => cases member
  | cons first later ih =>
    rcases only first (by simp) with nothing | same
    · have inside : a ∈ later := by
        rcases List.mem_cons.mp member with rfl | inside
        · rw [nothing] at found
          cases found
        · exact inside
      rw [List.findSome?_cons, nothing]
      exact ih inside fun other member => only other (by simp [member])
    · rw [List.findSome?_cons, same]

theorem token?_eq_some_iff {token : String} {text : List Char} :
    token? token text = some rest ↔ text = token.toList ++ rest := by
  unfold token?
  split
  next begins =>
    obtain ⟨left, rfl⟩ := List.isPrefixOf_iff_prefix.mp begins
    rw [← String.length_toList, List.drop_left, Option.some.injEq, List.append_cancel_left_eq]
  next other =>
    refine iff_of_false nofun fun same => other ?_
    rw [same, List.isPrefixOf_iff_prefix]
    exact ⟨rest, rfl⟩

/-- A token stands nowhere but where its first character does. -/
theorem token?_eq_none {token : String} {c : Char} {text : List Char}
    (begins : token.toList.head? = some c) (other : text.head? ≠ some c) : token? token text = none := by
  refine Option.eq_none_iff_forall_ne_some.mpr fun left found => other ?_
  rw [token?_eq_some_iff.mp found, List.head?_append, begins, Option.some_or]

theorem word?_eq_some_iff {text : List Char} : word? word text = some rest ↔
    text = word.toList ++ rest ∧ rest.head?.any Text.isIdentifierRest = false := by
  rw [word?, ← token?_eq_some_iff]
  split
  next after found =>
    cases extended : after.head?.any Text.isIdentifierRest <;>
      simp only [found, Option.some.injEq, Bool.false_eq_true, if_false, if_true, reduceCtorEq,
        false_iff, not_and] <;> grind
  next nothing => simp [nothing]

/-- A word stands alone if it is all of the name that it begins. -/
theorem word?_append (letters : ∀ c ∈ word.toList, Text.isIdentifierRest c = true)
    (inside : ∀ c ∈ name, Text.isIdentifierRest c = true)
    (apart : rest.head?.any Text.isIdentifierRest = false) :
    word? word (name ++ rest) = if name = word.toList then some rest else none := by
  split
  next same => exact word?_eq_some_iff.mpr ⟨by rw [same], apart⟩
  next other =>
  refine Option.eq_none_iff_forall_ne_some.mpr fun left found => ?_
  obtain ⟨whole, ends⟩ := word?_eq_some_iff.mp found
  rcases List.append_eq_append_iff.mp whole with ⟨_ | ⟨c, more⟩, split, after⟩ |
    ⟨_ | ⟨c, more⟩, split, after⟩
  · exact other (by simpa using split.symm)
  · have letter := letters c (by simp [split])
    simp [after, letter] at apart
  · exact other (by simpa using split)
  · have letter := inside c (by simp [split])
    simp [after, letter] at ends

/-- No word of a table stands where none of them begins. -/
theorem words_eq_none (words : List String) (letters : List Char)
    (begins : (words.all fun word => word.toList.head?.any fun c => c ∈ letters) = true)
    {text : List Char} (first : ∀ c ∈ text.head?, c ∉ letters) :
    ∀ word ∈ words, word? word text = none := by
  intro word known
  refine Option.eq_none_iff_forall_ne_some.mpr fun left found => ?_
  obtain ⟨rfl, -⟩ := word?_eq_some_iff.mp found
  have letter := List.all_eq_true.mp begins word known
  cases spelled : word.toList with
  | nil => simp [spelled] at letter
  | cons c later =>
    rw [spelled] at letter first
    exact first c rfl (by simpa using letter)

/-- A word of a table is found as the one that it is. -/
theorem words_append (words : List String)
    (letters : ∀ word ∈ words, ∀ c ∈ word.toList, Text.isIdentifierRest c = true)
    (known : word ∈ words) (apart : rest.head?.any Text.isIdentifierRest = false) :
    (words.findSome? fun other => word? other (word.toList ++ rest)) = some rest := by
  refine findSome?_eq_some_of_mem known ?_ fun other listed => ?_
  · rw [word?_append (letters word known) (letters word known) apart, if_pos rfl]
  · rw [word?_append (letters other listed) (letters word known) apart]
    split
    · exact .inr rfl
    · exact .inl rfl

theorem letters_of_reserved (known : word ∈ reserved) :
    (∀ c ∈ word.toList, Text.isIdentifierRest c = true) ∧ word ≠ "r" := by
  have all : ∀ word ∈ reserved, (word.toList.all Text.isIdentifierRest) = true ∧ word ≠ "r" := by
    decide
  exact ⟨List.all_eq_true.mp (all word known).1, (all word known).2⟩

end Word

section Name

variable {name text rest : List Char} {c : Char}

/-- What may follow a name: a boundary, or the bracket of a structure. -/
def EndsName (rest : List Char) : Prop := ∀ c ∈ rest.head?, isBoundary c = true ∨ c = '('

theorem Stops.endsName (stops : Stops rest) : EndsName rest := fun c first => .inl (stops c first)

theorem EndsName.apart (ends : EndsName rest) : rest.head?.any isRawNameChar = false ∧
    ∀ c ∈ rest.head?, c ∉ ['"', '\'', '#'] := by
  cases rest with
  | nil => exact ⟨rfl, nofun⟩
  | cons c later =>
    rcases ends c rfl with boundary | rfl
    · obtain ⟨raw, -, opens⟩ := apart_of_isBoundary boundary
      refine ⟨raw, fun d first => ?_⟩
      obtain rfl := Option.some.inj first
      simp_all
    · have bracket : isRawNameChar '(' = false := by decide
      refine ⟨bracket, fun d first => ?_⟩
      obtain rfl := Option.some.inj first
      decide

theorem toNat_of_isAlpha {c : Char} (letter : c.isAlpha = true) :
    0x41 ≤ c.toNat ∧ c.toNat ≤ 0x7A := by
  rcases Bool.or_eq_true_iff.mp letter with upper | lower
  · have code : 0x41 ≤ c.toNat ∧ c.toNat ≤ 0x5A := of_decide_eq_true upper
    omega
  · have ⟨above, below⟩ := Bool.and_eq_true_iff.mp lower
    have code : 0x61 ≤ c.toNat ∧ c.toNat ≤ 0x7A :=
      ⟨of_decide_eq_true above, of_decide_eq_true below⟩
    omega

theorem toNat_of_isAlphanum {c : Char} (plain : c.isAlphanum = true) :
    0x30 ≤ c.toNat ∧ c.toNat ≤ 0x7A := by
  rcases Bool.or_eq_true_iff.mp plain with letter | digit
  · have code := toNat_of_isAlpha letter
    omega
  · have code : 0x30 ≤ c.toNat ∧ c.toNat ≤ 0x39 := Char.isDigit_iff_toNat.mp digit
    omega

theorem isIdentifierRest_of_isAlphanum {c : Char} (plain : (c.isAlphanum || c = '_') = true) :
    Text.isIdentifierRest c = true := by
  have ascii : c.toNat < 0x80 := by
    simp only [Bool.or_eq_true, decide_eq_true_eq] at plain
    rcases plain with letter | rfl
    · have code := toNat_of_isAlphanum letter
      omega
    · decide
  rw [Text.isIdentifierRest, if_pos ascii, plain]

theorem isIdentifierRest_of_start {c : Char} (start : Text.isIdentifierStart c = true) :
    Text.isIdentifierRest c = true := by
  unfold Text.isIdentifierStart at start
  unfold Text.isIdentifierRest
  split at start
  next ascii =>
    rw [if_pos ascii, Char.isAlphanum]
    grind
  next wide => rw [if_neg wide, start, Bool.true_or]

/-- A plain name consists of characters of identifiers. -/
theorem letters_of_plain {first : Char} {later : List Char}
    (start : Text.isIdentifierStart first = true)
    (inside : ∀ c ∈ later, Text.isIdentifierRest c = true) :
    ∀ c ∈ first :: later, Text.isIdentifierRest c = true := by
  simpa [isIdentifierRest_of_start start] using inside

/-- A name that is an identifier is written as it is. -/
theorem WritesName.of_letters {name : List Char}
    (letters : (name.head?.any Text.isIdentifierStart && name.all Text.isIdentifierRest) = true) :
    WritesName name name := by
  cases name with
  | nil => cases letters
  | cons first later =>
    rw [Bool.and_eq_true, List.all_eq_true] at letters
    exact .plain letters.1 fun c member => letters.2 c (List.mem_cons_of_mem _ member)

theorem WritesName.exists_first (written : WritesName name text) :
    ∃ c later, text = c :: later ∧ Text.isIdentifierStart c = true := by
  cases written with
  | plain start => exact ⟨_, _, rfl, start⟩
  | raw => exact ⟨_, _, rfl, by decide⟩

theorem spanChars_append {keep : Char → Bool} (inside : ∀ c ∈ text, keep c = true)
    (ends : rest.head?.any keep = false) : spanChars keep (text ++ rest) = (text, rest) := by
  rw [spanChars, List.takeWhile_append_of_pos inside, List.dropWhile_append_of_pos inside]
  cases rest with
  | nil => simp
  | cons c later =>
    have other : keep c = false := ends
    simp [other]

theorem any_isIdentifierRest (ends : rest.head?.any isRawNameChar = false) :
    rest.head?.any Text.isIdentifierRest = false := by
  cases rest with
  | nil => rfl
  | cons c later =>
    simp only [List.head?_cons, Option.any_some, isRawNameChar, Bool.or_eq_false_iff] at ends ⊢
    exact ends.1.1.1

/-- What follows an identifier is what is left of any text with the same characters. -/
theorem dropWhile_of_append_eq {whole : List Char}
    (inside : ∀ c ∈ name, Text.isIdentifierRest c = true)
    (apart : rest.head?.any Text.isIdentifierRest = false) (same : name ++ rest = whole) :
    whole.dropWhile Text.isIdentifierRest = rest := by
  rw [← same]
  exact congrArg Prod.snd (spanChars_append inside apart)

/-- A name as it stands has no mark at its second place. -/
theorem ne_raw_of_plain (inside : ∀ c ∈ name, Text.isIdentifierRest c = true) (ends : EndsName rest)
    (more : List Char) : name ++ rest ≠ 'r' :: '#' :: more := by
  intro same
  obtain ⟨apart, marks⟩ := ends.apart
  have left : ('r' :: '#' :: more).dropWhile Text.isIdentifierRest = rest :=
    dropWhile_of_append_eq inside (any_isIdentifierRest apart) same
  have letter : Text.isIdentifierRest 'r' = true := by decide
  have mark : Text.isIdentifierRest '#' = false := by decide
  rw [List.dropWhile_cons_of_pos letter, List.dropWhile_cons_of_neg (by simp [mark])] at left
  exact marks '#' (by rw [← left]; rfl) (by decide)

/-- What begins a literal is no name: behind its letters stands a mark that follows no name. -/
theorem WritesName.not_literalStart (written : WritesName name text) (ends : EndsName rest) :
    ¬literalStarts.any fun start => start.toList.isPrefixOf (text ++ rest) := by
  obtain ⟨apart, marks⟩ := ends.apart
  rw [List.any_eq_true]
  rintro ⟨start, member, begins⟩
  obtain ⟨more, same⟩ := List.isPrefixOf_iff_prefix.mp begins
  cases written with
  | @plain first later initial inside =>
    have letters := letters_of_plain initial inside
    have left := dropWhile_of_append_eq letters (any_isIdentifierRest apart) same.symm
    have all : (literalStarts.all fun start =>
        (start.toList.dropWhile Text.isIdentifierRest).head?.any
          fun c => c ∈ ['"', '\'', '#']) = true := by decide
    have mark := List.all_eq_true.mp all start member
    rw [List.dropWhile_append] at left
    cases behind : start.toList.dropWhile Text.isIdentifierRest with
    | nil => simp [behind] at mark
    | cons c later =>
      rw [behind] at mark left
      exact marks c (by simp [← left]) (by simpa using mark)
  | @raw name some_char inside =>
    obtain ⟨c, later, rfl⟩ := List.exists_cons_of_ne_nil some_char
    have plain := inside c (by simp)
    have quote : isRawNameChar '"' = false := by decide
    have sign : isRawNameChar '#' = false := by decide
    simp only [literalStarts, List.mem_cons, List.not_mem_nil, or_false] at member
    rcases member with rfl | rfl | rfl | rfl | rfl | rfl | rfl <;> simp at same <;> grind

/-- A name that is no reserved word begins with none of them. -/
theorem WritesName.word?_eq_none (written : WritesName name text) (ends : EndsName rest)
    {word : String} (known : word ∈ reserved) (free : text ≠ word.toList) :
    word? word (text ++ rest) = none := by
  obtain ⟨letters, other⟩ := letters_of_reserved known
  cases written with
  | plain start inside =>
    rw [word?_append letters (letters_of_plain start inside) (any_isIdentifierRest ends.apart.1),
      if_neg free]
  | @raw name some_char inside =>
    have letter : Text.isIdentifierRest 'r' = true := by decide
    have mark : Text.isIdentifierRest '#' = false := by decide
    have alone : word? word (['r'] ++ '#' :: (name ++ rest)) = _ :=
      word?_append letters (by simpa using letter) (by simp [mark])
    rw [if_neg fun same => other (String.toList_inj.mp same.symm)] at alone
    exact alone

/-- A name is read as a key up to what ends it. -/
theorem WritesName.key?_append (written : WritesName name text) (ends : EndsName rest) :
    key? (text ++ rest) = some (name, rest) := by
  obtain ⟨apart, -⟩ := ends.apart
  unfold key?
  cases written with
  | @plain first later start inside =>
    have letters := letters_of_plain start inside
    have span := spanChars_append letters (any_isIdentifierRest apart)
    split
    next more same => exact absurd same (ne_raw_of_plain letters ends more)
    next head _ _ same =>
      obtain ⟨rfl, -⟩ := List.cons.inj same
      simp only [start, span, if_true, apart, Bool.false_eq_true, if_false]
    next nothing => cases nothing
  | raw some_char inside =>
    simp [spanChars_append inside apart, some_char]

/-- A name is read as a value up to what ends it. -/
theorem WritesName.name?_append (written : WritesName name text) (ends : EndsName rest) :
    name? (text ++ rest) = some (name, rest) := by
  obtain ⟨apart, -⟩ := ends.apart
  have unquoted := written.not_literalStart ends
  unfold name?
  rw [if_neg unquoted]
  cases written with
  | @plain first later start inside =>
    have letters := letters_of_plain start inside
    have span := spanChars_append letters (any_isIdentifierRest apart)
    split
    next more same => exact absurd same (ne_raw_of_plain letters ends more)
    next head _ _ same =>
      obtain ⟨rfl, -⟩ := List.cons.inj same
      rw [if_pos start, span]
    next nothing => cases nothing
  | raw some_char inside =>
    simp [spanChars_append inside apart, some_char]

theorem name?_of_first (other : Text.isIdentifierStart c = false) (later : List Char) :
    name? (c :: later) = none := by
  unfold name?
  split
  · rfl
  split
  next same =>
    obtain ⟨rfl, -⟩ := List.cons.inj same
    cases other
  next same =>
    obtain ⟨rfl, -⟩ := List.cons.inj same
    rw [if_neg (by simp [other])]
  next => rfl

theorem name?_of_literalStart {start : String} (known : start ∈ literalStarts) (more : List Char) :
    name? (start.toList ++ more) = none := by
  have begins : literalStarts.any fun other => other.toList.isPrefixOf (start.toList ++ more) :=
    List.any_eq_true.mpr ⟨start, known, List.isPrefixOf_iff_prefix.mpr (List.prefix_append ..)⟩
  unfold name?
  rw [if_pos begins]

/-- What follows a word that is read as a name. -/
theorem name?_word {word : String} (known : word ∈ reserved)
    (apart : rest.head?.any Text.isIdentifierRest = false) :
    name? (word.toList ++ rest) = some (word.toList, rest) := by
  have all : ∀ word ∈ reserved, (word.toList.head?.any fun c =>
      Text.isIdentifierStart c && c ∉ ['b', 'r']) = true := by decide
  have begins := all word known
  have span := spanChars_append (letters_of_reserved known).1 apart
  cases spelled : word.toList with
  | nil => simp [spelled] at begins
  | cons c later =>
    rw [spelled] at begins span
    simp only [List.head?_cons, Option.any_some, Bool.and_eq_true, decide_eq_true_eq] at begins
    obtain ⟨start, other⟩ := begins
    have literal : ¬literalStarts.any fun start => start.toList.isPrefixOf (c :: later ++ rest) := by
      rw [List.any_eq_true]
      rintro ⟨literal, member, begins⟩
      obtain ⟨more, same⟩ := List.isPrefixOf_iff_prefix.mp begins
      have all : ∀ start ∈ literalStarts, (start.toList.head?.any fun c => c ∈ ['b', 'r']) = true := by
        decide
      have first := all literal member
      cases opened : literal.toList with
      | nil => simp [opened] at first
      | cons d others =>
        rw [opened] at same first
        obtain ⟨rfl, -⟩ := List.cons.inj same
        exact other (by simpa using first)
    unfold name?
    rw [if_neg literal]
    split
    next same =>
      obtain ⟨rfl, -⟩ := List.cons.inj same
      simp at other
    next same =>
      obtain ⟨rfl, -⟩ := List.cons.inj same
      rw [if_pos start, span]
    next nothing => cases nothing

end Name

end Blackjack.Ron
