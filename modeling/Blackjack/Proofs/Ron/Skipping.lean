import Blackjack.Proofs.Ron.Range

/-!
# Values passed over

A value that nobody asked for is passed over up to what ends it (`Value.passes`), by induction on the
depth that its nesting takes: literals need no deeper reader, an option needs one, and of two
brackets it is enough to know how their parts are passed over (`Laid.skipParts?_append`). What stands
inside of quotes is never taken for a bracket or a comma, since a literal is read as a whole.
-/

namespace Blackjack.Ron

section Quoted

variable {content text : List Char}

/-- The opening of a raw literal is none of a name. -/
theorem Raw.name?_eq_none (raw : Raw content text) (rest : List Char) :
    name? ('r' :: (text ++ rest)) = none ∧ name? ('b' :: 'r' :: (text ++ rest)) = none := by
  have opening : ∀ (start : String) {more whole : List Char}, start ∈ literalStarts →
      start.toList ++ more = whole → name? whole = none := by
    rintro start more _ known rfl
    exact name?_of_literalStart known more
  cases raw with
  | @intro count inside =>
    rcases count with _ | _ | count
    · exact ⟨opening "r\"" (by decide) rfl, opening "br\"" (by decide) rfl⟩
    · exact ⟨opening "r#\"" (by decide) rfl, opening "br#" (by decide) rfl⟩
    · exact ⟨opening "r##" (by decide) rfl, opening "br#" (by decide) rfl⟩

theorem WritesText.name?_eq_none (written : WritesText content text) (rest : List Char) :
    name? (text ++ rest) = none := by
  cases written with
  | quoted => exact name?_of_first (by decide) _
  | raw raw => exact (raw.name?_eq_none rest).1

theorem Bytes.name?_eq_none (bytes : Bytes text) (rest : List Char) : name? (text ++ rest) = none := by
  cases bytes with
  | @quoted content text =>
    have opening : name? ("b\"".toList ++ (text ++ ['"'] ++ rest)) = none :=
      name?_of_literalStart (by decide) _
    exact opening
  | raw raw => exact (raw.name?_eq_none rest).2

end Quoted

section Scalar

variable {rules : OptionRules} {deeper : List Skip} {text rest : List Char}

/-- The empty tuple and the words that are values need their first letters. -/
theorem skipWord?_eq_none (words : ∀ word ∈ valueWords, word? word text = none)
    (unit : ¬['(', ')'] <+: text) : skipWord? text = none := by
  have tuple : token? "()" text = none :=
    Option.eq_none_iff_forall_ne_some.mpr fun left found =>
      unit ⟨left, (token?_eq_some_iff.mp found).symm⟩
  simp [skipWord?, List.findSome?_eq_none_iff.mpr words, tuple]

theorem mem_reserved {word : String} :
    word ∈ reserved ↔ word = "Some" ∨ word ∈ valueWords ∨ word ∈ floatWords := by
  rw [reserved, List.mem_cons, List.mem_append]

/-- What is no word, no number and no range is read by its name or by its first character. -/
theorem skipValueWith?_eq (words : ∀ word ∈ reserved, word? word text = none)
    (unit : ¬['(', ')'] <+: text) (byte : ¬['b', '\''] <+: text)
    (first : ∀ c ∈ text.head?, ¬(c.isDigit = true ∨ c ∈ ['+', '-', '.'])) :
    skipValueWith? rules deeper text =
      match name? text with
      | some (_, rest) => (skipSpace? rest).bind (skipStructure? deeper)
      | none => skipUnnamed? deeper text := by
  have plain := skipWord?_eq_none
    (fun word known => words word (mem_reserved.mpr (.inr (.inl known)))) unit
  have range := skipRange?_eq_none
    (fun word known => words word (mem_reserved.mpr (.inr (.inr known)))) byte first
  have some := words "Some" (mem_reserved.mpr (.inl rfl))
  simp only [skipValueWith?, plain, range, some]
  rfl

theorem skipValueWith?_unnamed {c : Char} {later : List Char}
    (other : c ∉ ['S', 't', 'f', 'N', 'i'] ∧ ¬(c.isDigit = true ∨ c ∈ ['+', '-', '.']))
    (unit : c = '(' → later.head? ≠ some ')') (byte : c = 'b' → later.head? ≠ some '\'')
    (unnamed : name? (c :: later) = none) :
    skipValueWith? rules deeper (c :: later) = skipUnnamed? deeper (c :: later) := by
  have letters : ∀ d ∈ (c :: later).head?, d ∉ ['S', 't', 'f', 'N', 'i'] := by simpa using other.1
  have digits : ∀ d ∈ (c :: later).head?, ¬(d.isDigit = true ∨ d ∈ ['+', '-', '.']) := by
    simpa using other.2
  rw [skipValueWith?_eq (words_eq_none reserved _ (by decide) letters) ?_ ?_ digits, unnamed]
  · rintro ⟨more, same⟩
    obtain ⟨rfl, rfl⟩ := List.cons.inj same
    exact unit rfl rfl
  · rintro ⟨more, same⟩
    obtain ⟨rfl, rfl⟩ := List.cons.inj same
    exact byte rfl rfl

end Scalar

section Literal

variable {rules : OptionRules} {deeper : List Skip} {text rest : List Char}

/-- Numbers are no words that are values. -/
theorem Number.skipWord?_eq_none (number : Number text) (rest : List Char) :
    skipWord? (text ++ rest) = none := by
  rcases number.first_cases with ⟨word, known, rfl⟩ | ⟨c, later, rfl, kind⟩ | ⟨later, rfl⟩
  · simp only [floatWords, List.mem_cons, List.not_mem_nil, or_false] at known
    rcases known with rfl | rfl | rfl | rfl | rfl | rfl <;> rfl
  · refine Ron.skipWord?_eq_none (words_eq_none valueWords ['t', 'f', 'N'] (by decide) ?_) ?_
    · intro d head member
      obtain rfl := Option.some.inj head
      simp only [List.mem_cons, List.not_mem_nil, or_false] at member
      rcases member with rfl | rfl | rfl <;> revert kind <;> decide
    · rintro ⟨more, same⟩
      obtain ⟨rfl, -⟩ := List.cons.inj same
      revert kind
      decide
  · rfl

theorem Range.skipWord?_eq_none (range : Range text) (rest : List Char) :
    skipWord? (text ++ rest) = none := by
  cases range with
  | short low | through low =>
    rcases low with rfl | ⟨number, -⟩
    · rfl
    · rw [List.append_assoc]
      exact number.skipWord?_eq_none _

/-- Values without others inside are passed over up to their end. -/
theorem Literal.skipValueWith?_append (literal : Literal text) (stops : Stops rest) :
    skipValueWith? rules deeper (text ++ rest) = some rest := by
  have passed : ∀ {text : List Char}, (skipWord? text <|> skipRange? text) = some rest →
      skipValueWith? rules deeper text = some rest := by
    intro text found
    simp only [skipValueWith?, found]
  cases literal with
  | word known =>
    refine passed ?_
    have found := words_append valueWords
      (fun _ listed => (letters_of_reserved (mem_reserved.mpr (.inr (.inl listed)))).1) known
      (any_isIdentifierRest stops.endsName.apart.1)
    simp [skipWord?, found]
  | unit => exact passed rfl
  | number number =>
    refine passed ?_
    rw [number.skipWord?_eq_none, number.skipRange?_append stops]
    rfl
  | range range =>
    refine passed ?_
    rw [range.skipWord?_eq_none, range.skipRange?_append stops]
    rfl
  | text written =>
    have read := written.string?_append rest
    have unnamed := written.name?_eq_none rest
    cases written with
    | quoted | raw =>
      rw [List.cons_append] at read unnamed ⊢
      rw [skipValueWith?_unnamed (by decide) (by simp) (by simp) unnamed]
      exact congrArg (Option.map Prod.snd) read
  | bytes bytes =>
    have read := bytes.skipBytes?_append rest
    have unnamed := bytes.name?_eq_none rest
    cases bytes with
    | quoted | raw =>
      rw [List.cons_append] at read unnamed ⊢
      rw [skipValueWith?_unnamed (by decide) (by simp) (by simp) unnamed]
      exact read
  | char character =>
    have read := character.skipChar?_append rest
    cases character with
    | plain | byte | point =>
      rw [List.cons_append] at read ⊢
      rw [skipValueWith?_unnamed (by decide) (by simp) (by simp) (name?_of_first (by decide) _)]
      exact read

theorem isIdentifierStart_of_isDigit {c : Char} (digit : c.isDigit = true) :
    Text.isIdentifierStart c = false := by
  have code : 0x30 ≤ c.toNat ∧ c.toNat ≤ 0x39 := Char.isDigit_iff_toNat.mp digit
  have letter : c.isAlpha = false := Bool.eq_false_iff.mpr fun letter => by
    have above := toNat_of_isAlpha letter
    omega
  rw [Text.isIdentifierStart, if_pos (by omega), letter]
  simpa using ne_underscore digit

/-- All of a number is read as a name, if it is one. -/
theorem Number.eq_of_name? (number : Number text) (apart : rest.head?.any Text.isIdentifierRest = false)
    {name left : List Char} (found : name? (text ++ rest) = some (name, left)) : left = rest := by
  rcases number.first_cases with ⟨word, known, rfl⟩ | ⟨c, later, rfl, kind⟩ | ⟨later, rfl⟩
  · rw [name?_word (mem_reserved.mpr (.inr (.inr known))) apart] at found
    exact (Prod.mk.inj (Option.some.inj found)).2.symm
  · have other : Text.isIdentifierStart c = false := by
      rcases kind with digit | mark
      · exact isIdentifierStart_of_isDigit digit
      · simp only [List.mem_cons, List.not_mem_nil, or_false] at mark
        rcases mark with rfl | rfl | rfl <;> decide
    rw [List.cons_append, name?_of_first other] at found
    cases found
  · have opening : name? ("b'".toList ++ (later ++ rest)) = none := name?_of_literalStart (by decide) _
    cases opening.symm.trans found

/-- What is read as a name at the start of a literal is no key. -/
theorem Literal.not_key (literal : Literal text) (stops : Stops rest) {solid name left : List Char}
    (follows : skipSpace? rest = some solid) (other : solid.head? ≠ some ':')
    (found : name? (text ++ rest) = some (name, left)) :
    (skipSpace? left).bind List.head? ≠ some ':' := by
  have apart := any_isIdentifierRest stops.endsName.apart.1
  have key : left = rest → (skipSpace? left).bind List.head? ≠ some ':' := by
    rintro rfl
    rwa [follows]
  cases literal with
  | word known =>
    rw [name?_word (mem_reserved.mpr (.inr (.inl known))) apart] at found
    exact key (Prod.mk.inj (Option.some.inj found)).2.symm
  | unit =>
    rw [List.cons_append, name?_of_first (by decide)] at found
    cases found
  | number number => exact key (number.eq_of_name? apart found)
  | range range =>
    cases range with
    | short low | through low =>
      rcases low with rfl | ⟨number, -⟩
      · rw [List.nil_append, List.cons_append, name?_of_first (by decide)] at found
        cases found
      · rw [List.append_assoc] at found
        obtain rfl := number.eq_of_name? rfl found
        rw [List.cons_append, skipSpace?_of_solid (by decide) (by decide)]
        simp
  | text written => cases (written.name?_eq_none rest).symm.trans found
  | bytes bytes => cases (bytes.name?_eq_none rest).symm.trans found
  | char character =>
    cases character with
    | plain | byte | point =>
      rw [List.cons_append, name?_of_first (by decide)] at found
      cases found

theorem starts_of_reserved {word : String} (known : word ∈ reserved) : Starts word.toList := by
  have all : ∀ word ∈ reserved, word.toList ≠ [] := by decide
  have letters := (letters_of_reserved known).1
  cases spelled : word.toList with
  | nil => exact absurd spelled (all word known)
  | cons c later => exact starts_of_first (.inl (letters c (by simp [spelled]))) later

theorem Number.starts (number : Number text) : Starts text := by
  rcases number.first_cases with ⟨word, known, rfl⟩ | ⟨c, later, rfl, kind⟩ | ⟨later, rfl⟩
  · exact starts_of_reserved (mem_reserved.mpr (.inr (.inr known)))
  · exact starts_of_first (.inr (.inl (isFloatChar_of_first kind))) later
  · exact starts_of_first (.inl (by decide)) _

theorem Literal.starts (literal : Literal text) : Starts text := by
  cases literal with
  | word known => exact starts_of_reserved (mem_reserved.mpr (.inr (.inl known)))
  | unit => exact starts_of_first (by decide) _
  | number number => exact number.starts
  | range range =>
    cases range with
    | short low | through low =>
      rcases low with rfl | ⟨number, -⟩
      · exact starts_of_first (.inr (.inl rfl)) _
      · exact number.starts.append _
  | text written => cases written <;> exact starts_of_first (by decide) _
  | bytes bytes => cases bytes <;> exact starts_of_first (by decide) _
  | char character => cases character <;> exact starts_of_first (by decide) _

end Literal

section Parts

variable {skip : Skip} {content : Content} {closing : Char} {parts : List (List Char)} {n : Nat}
  {value text rest : List Char}

/-- The reader passes over this value, and it may pass over the white space behind it, too. -/
def Passes (skip : Skip) (text : List Char) : Prop :=
  ∀ rest solid, skipSpace? rest = some solid → Stops solid →
    ∃ left, skip (text ++ rest) = some left ∧ skipSpace? left = some solid

/-- After a gap a part is ended by a comma or by a bracket. -/
def EndsPart (rest : List Char) : Prop :=
  ∃ c ∈ [',', ')', ']', '}'], ∃ later, skipSpace? rest = some (c :: later)

theorem Gap.endsPart {gap : List Char} (inside : Gap gap) {c : Char} (mark : c ∈ [',', ')', ']', '}'])
    (rest : List Char) : EndsPart (gap ++ c :: rest) := by
  have all : ([',', ')', ']', '}'].all fun c => !isSpace c && c ≠ '/') = true := by decide
  have solid : isSpace c = false ∧ c ≠ '/' := by simpa using List.all_eq_true.mp all c mark
  exact ⟨c, mark, rest, by rw [inside.skipSpace?_append, skipSpace?_of_solid solid.1 solid.2]⟩

theorem EndsPart.exists_solid (ends : EndsPart rest) :
    ∃ solid, skipSpace? rest = some solid ∧ Stops solid ∧ solid.head? ≠ some ':' := by
  obtain ⟨c, mark, later, follows⟩ := ends
  have all : ([',', ')', ']', '}'].all fun c => isBoundary c && c ≠ ':') = true := by decide
  have boundary : isBoundary c = true ∧ c ≠ ':' := by simpa using List.all_eq_true.mp all c mark
  refine ⟨_, follows, fun d head => ?_, by simpa using boundary.2⟩
  obtain rfl := Option.some.inj head
  exact boundary.1

theorem EndsPart.stops (ends : EndsPart rest) : Stops rest := by
  obtain ⟨solid, follows, stops, -⟩ := ends.exists_solid
  exact stops.of_skipSpace? follows

/-- Behind the value of a key stands what ends the part. -/
theorem Passes.skipKeyed?_append (passes : Passes skip value) (starts : Starts value)
    {left after : List Char} (back : Gap after)
    (follows : skipSpace? left = some (':' :: (after ++ (value ++ rest)))) (ends : EndsPart rest) :
    (skipKeyed? skip left).bind comma? = comma? rest := by
  obtain ⟨solid, behind, stops, -⟩ := ends.exists_solid
  obtain ⟨last, passed, same⟩ := passes rest solid behind stops
  have begins : skipSpace? (after ++ (value ++ rest)) = some (value ++ rest) := by
    rw [back.skipSpace?_append, starts.skipSpace?]
  simp [skipKeyed?, follows, begins, passed, comma?_congr (same.trans behind.symm)]

theorem WritesName.starts {name : List Char} (written : WritesName name text) : Starts text := by
  obtain ⟨c, later, rfl, start⟩ := written.exists_first
  exact starts_of_first (.inl (isIdentifierRest_of_start start)) later

theorem Value.starts (value : Value n text) : Starts text := by
  cases value with
  | literal literal => exact literal.starts
  | name written => exact written.starts
  | option => exact starts_of_first (by decide) _
  | brackets kind named =>
    cases named with
    | none => cases kind <;> exact starts_of_first (by decide) _
    | name written => exact (written.starts.append _).append _

theorem Part.starts (part : Part n content text) : Starts text := by
  cases part with
  | element value => exact value.starts
  | entry front back keyed =>
    cases keyed with
    | intro => exact (front.starts.append _).append _
  | field front back keyed =>
    cases keyed with
    | intro => exact (front.starts.append _).append _

theorem Part.skipPart?_append (part : Part n content text)
    (passes : ∀ text, Value n text → Passes skip text) (ends : EndsPart rest) :
    skipPart? skip content (text ++ rest) = comma? rest := by
  cases part with
  | element value =>
    obtain ⟨solid, behind, stops, -⟩ := ends.exists_solid
    obtain ⟨left, passed, same⟩ := passes _ value rest solid behind stops
    simp [skipPart?, passed, comma?_congr (same.trans behind.symm)]
  | @entry _ key value _ front back keyed =>
    cases keyed with
    | @intro before after first second =>
      have colon : skipSpace? (before ++ ':' :: (after ++ (value ++ rest))) =
          some (':' :: (after ++ (value ++ rest))) := by
        rw [first.skipSpace?_append, skipSpace?_of_solid (by decide) (by decide)]
      obtain ⟨left, passed, same⟩ := passes _ front _ _ colon (by simp [Stops, isBoundary])
      have keyed := (passes _ back).skipKeyed?_append back.starts second same ends
      simpa [skipPart?, passed] using keyed
  | @field _ name key value _ front back keyed =>
    cases keyed with
    | @intro before after first second =>
      have colon : skipSpace? (before ++ ':' :: (after ++ (value ++ rest))) =
          some (':' :: (after ++ (value ++ rest))) := by
        rw [first.skipSpace?_append, skipSpace?_of_solid (by decide) (by decide)]
      have stops := first.stops (c := ':') (by decide) (after ++ (value ++ rest))
      have read := front.key?_append stops.endsName
      have keyed := (passes _ back).skipKeyed?_append back.starts second colon ends
      simpa [skipPart?, read] using keyed

/-- Parts are passed over up to the closing bracket behind them. -/
theorem Laid.skipParts?_append (laid : Laid (· = ·) closing parts text)
    (bracket : closing ∈ [')', ']', '}']) (starts : ∀ part ∈ parts, Starts part)
    (passes : ∀ part ∈ parts, ∀ rest, EndsPart rest →
      skipPart? skip content (part ++ rest) = comma? rest)
    {fuel begin : List Char} (enough : parts.length < fuel.length)
    (begins : skipSpace? begin = skipSpace? (text ++ rest)) :
    skipParts? skip content closing fuel begin = some rest := by
  have mark : closing ∈ [',', ')', ']', '}'] := List.mem_cons_of_mem _ bracket
  have closed : token? (String.singleton closing) (closing :: rest) = some rest :=
    token?_eq_some_iff.mpr (by simp)
  have closes : ∀ {c : Char}, isBoundary c = false → c ≠ closing := by
    have all : ([')', ']', '}'].all isBoundary) = true := by decide
    rintro c other rfl
    rw [List.all_eq_true.mp all c bracket] at other
    cases other
  induction laid generalizing fuel begin with
  | none inside =>
    obtain ⟨_, fuel, rfl⟩ := List.exists_cons_of_length_pos (Nat.zero_lt_of_lt enough)
    rw [List.append_assoc, inside.skipSpace?_append, List.singleton_append,
      skipSpace?_bracket bracket] at begins
    simp [skipParts?, begins]
  | @last item before text after front written back =>
    obtain ⟨_, fuel, rfl⟩ := List.exists_cons_of_length_pos (Nat.zero_lt_of_lt enough)
    subst written
    have begins_item := starts item (by simp)
    have passed := passes item (by simp) _ (back.endsPart mark rest)
    rw [back.comma?_append_bracket bracket] at passed
    simp only [List.append_assoc, front.skipSpace?_append, begins_item.skipSpace?] at begins
    obtain ⟨c, later, rfl, solid⟩ := begins_item
    simp only [List.cons_append, List.nil_append] at begins passed
    simp [skipParts?, begins, closes solid, passed, closed]
  | @next item items before text after later front written back laid ih =>
    obtain ⟨_, fuel, rfl⟩ := List.exists_cons_of_length_pos (Nat.zero_lt_of_lt enough)
    subst written
    have begins_item := starts item (by simp)
    have those : ∀ part ∈ items, Starts part := fun part member => starts part (by simp [member])
    obtain ⟨solid, follows⟩ := laid.exists_skipSpace? bracket
      (fun part member text same => same ▸ those part member) rest
    have passed := passes item (by simp) _ (back.endsPart (c := ',') (by simp) (later ++ rest))
    rw [back.comma?_append follows] at passed
    have done := ih those (fun part member => passes part (by simp [member]))
      (Nat.lt_of_succ_lt_succ enough) ((skipSpace?_of_skipFrom? follows).trans follows.symm)
    simp only [List.append_assoc, front.skipSpace?_append, begins_item.skipSpace?] at begins
    obtain ⟨c, later, rfl, solid⟩ := begins_item
    simp only [List.cons_append] at begins passed
    simp [skipParts?, begins, closes solid, passed, done]

end Parts

section Values

variable {content : Content} {closing : Char} {parts : List (List Char)} {n : Nat}
  {gap text rest : List Char}

/-- A name is also ended by a gap before an opening bracket. -/
theorem Gap.endsName (inside : Gap gap) (rest : List Char) : EndsName (gap ++ '(' :: rest) := by
  intro c head
  cases inside with
  | none => exact .inr (Option.some.inj head).symm
  | space space inside => exact .inl ((Gap.space space inside).stops (c := ',') (by decide) rest c head)
  | line plain inside => exact .inl ((Gap.line plain inside).stops (c := ',') (by decide) rest c head)
  | block comment inside =>
    exact .inl ((Gap.block comment inside).stops (c := ',') (by decide) rest c head)

theorem Gap.skipSpace?_bracket (inside : Gap gap) (rest : List Char) :
    skipSpace? (gap ++ '(' :: rest) = some ('(' :: rest) := by
  rw [inside.skipSpace?_append, skipSpace?_of_solid (by decide) (by decide)]

/-- What is read as a name at the start of a value is no key. -/
theorem Value.not_key (value : Value n text) (ends : EndsPart rest) {name left : List Char}
    (found : name? (text ++ rest) = some (name, left)) :
    (skipSpace? left).bind List.head? ≠ some ':' := by
  obtain ⟨solid, follows, stops, other⟩ := ends.exists_solid
  have stops := stops.of_skipSpace? follows
  cases value with
  | literal literal => exact literal.not_key stops follows other found
  | name written free =>
    rw [written.name?_append stops.endsName] at found
    obtain ⟨-, rfl⟩ := Prod.mk.inj (Option.some.inj found)
    rwa [follows]
  | @option _ gap value inner behind held laid =>
    have apart := any_isIdentifierRest (behind.endsName (inner ++ rest)).apart.1
    rw [List.append_assoc, List.append_assoc, List.cons_append,
      name?_word (mem_reserved.mpr (.inl rfl)) apart] at found
    obtain ⟨-, rfl⟩ := Prod.mk.inj (Option.some.inj found)
    rw [behind.skipSpace?_bracket]
    simp
  | brackets kind named room each laid =>
    cases named with
    | none =>
      rw [List.nil_append, List.cons_append, name?_of_first (by cases kind <;> decide)] at found
      cases found
    | name written free behind =>
      rw [List.append_assoc, List.append_assoc, List.cons_append,
        written.name?_append (behind.endsName _)] at found
      obtain ⟨-, rfl⟩ := Prod.mk.inj (Option.some.inj found)
      rw [behind.skipSpace?_bracket]
      simp

theorem Value.hasFields_append (value : Value n text) (ends : EndsPart rest) :
    hasFields (text ++ rest) = false := by
  rw [hasFields, value.starts.skipSpace?]
  dsimp only
  split
  next found => exact decide_eq_false (value.not_key ends found)
  next => rfl

/-- In a tuple or a structure the first part tells which of them it is. -/
theorem Part.hasFields_append (part : Part n content text) (kind : content ≠ .entries)
    (ends : EndsPart rest) : hasFields (text ++ rest) = decide (content = .fields) := by
  have starts := part.starts
  cases part with
  | element value => exact value.hasFields_append ends
  | entry => exact absurd rfl kind
  | @field _ name key value _ written back keyed =>
    rw [hasFields, starts.skipSpace?]
    cases keyed with
    | @intro before after first second =>
      have stops := first.stops (c := ':') (by decide) (after ++ value ++ rest)
      simp only [List.append_assoc, List.cons_append] at stops ⊢
      simp only [written.name?_append stops.endsName, first.skipSpace?_append,
        skipSpace?_of_solid (c := ':') (by decide) (by decide)]
      rfl

theorem Laid.hasFields_append (laid : Laid (· = ·) ')' parts text) (some_part : parts ≠ [])
    (each : ∀ part ∈ parts, Part n content part) (kind : content ≠ .entries) (rest : List Char) :
    hasFields (text ++ rest) = decide (content = .fields) := by
  have begins : ∀ {gap : List Char}, Gap gap → ∀ text, hasFields (gap ++ text) = hasFields text := by
    intro gap inside text
    simp only [hasFields, inside.skipSpace?_append]
  cases laid with
  | none => exact absurd rfl some_part
  | last front written back =>
    subst written
    simp only [List.append_assoc, begins front]
    exact (each _ (by simp)).hasFields_append kind (back.endsPart (c := ')') (by simp) rest)
  | next front written back laid =>
    subst written
    simp only [List.append_assoc, begins front]
    exact (each _ (by simp)).hasFields_append kind (back.endsPart (c := ',') (by simp) _)

/-- What stands between two brackets is passed over, given readers for deeper values. -/
theorem Laid.skipBracketed?_append (laid : Laid (· = ·) closing parts text)
    (bracket : closing ∈ [')', ']', '}']) (room : parts = [] ∨ 0 < n)
    (each : ∀ part ∈ parts, Part (n - 1) content part)
    (passes : ∀ m < n, ∀ text, Value m text → Passes (skipValue? {} m) text)
    {seen : Content} (same : parts ≠ [] → seen = content) (rest : List Char) :
    skipBracketed? (deeperSkips {} (n + 1)) seen closing (text ++ rest) = some rest := by
  have starts : ∀ part ∈ parts, Starts part := fun part member => (each part member).starts
  have enough : parts.length < (text ++ rest).length := by
    have fewer := laid.length_lt fun part member text same => same ▸ starts part member
    rw [List.length_append]
    omega
  rw [skipBracketed?, if_neg (by simp [deeperSkips])]
  refine laid.skipParts?_append bracket starts (fun part member rest ends => ?_) enough rfl
  have some_part := List.ne_nil_of_mem member
  obtain ⟨m, rfl⟩ : ∃ m, n = m + 1 := ⟨n - 1, by have := room.resolve_left some_part; omega⟩
  rw [same some_part]
  exact (each part member).skipPart?_append (passes m (Nat.lt_succ_self m)) ends

/-- An option is passed over, given a reader for the value that it holds. -/
theorem Passes.skipOption?_append {skip : Skip} {deeper : List Skip} {value : List Char}
    (passes : Passes skip value) (starts : Starts value) (behind : Gap gap)
    (laid : Laid (· = ·) ')' [value] text) (rest : List Char) :
    skipOption? {} (skip :: deeper) (gap ++ '(' :: (text ++ rest)) = some rest := by
  have closed : ∀ rest, token? ")" (')' :: rest) = some rest := fun rest => rfl
  cases laid with
  | @last item before text after front written back =>
    subst written
    obtain ⟨solid, follows, stops, -⟩ := (back.endsPart (c := ')') (by simp) rest).exists_solid
    obtain ⟨left, passed, same⟩ := passes _ solid follows stops
    have comma := comma?_congr (same.trans follows.symm)
    rw [back.comma?_append_bracket (by simp)] at comma
    simp [skipOption?, behind.skipSpace?_bracket, front.skipSpace?_append, starts.skipSpace?, passed,
      comma, closed]
  | @next item items before text after later front written back laid =>
    subst written
    cases laid with
    | @none between inside =>
      have bracket : skipSpace? (between ++ ')' :: rest) = some (')' :: rest) := by
        rw [inside.skipSpace?_append, skipSpace?_of_solid (by decide) (by decide)]
      obtain ⟨solid, follows, stops, -⟩ :=
        (back.endsPart (c := ',') (by simp) (between ++ ')' :: rest)).exists_solid
      obtain ⟨left, passed, same⟩ := passes _ solid follows stops
      have comma := comma?_congr (same.trans follows.symm)
      rw [back.comma?_append bracket] at comma
      simp [skipOption?, behind.skipSpace?_bracket, front.skipSpace?_append, starts.skipSpace?, passed,
        comma, closed]

/-- A name that is no reserved word is read as one, with a tuple or a structure behind it. -/
theorem WritesName.skipValueWith?_append {rules : OptionRules} {deeper : List Skip} {name : List Char}
    (written : WritesName name text) (free : ∀ word ∈ reserved, text ≠ word.toList)
    (ends : EndsName rest) :
    skipValueWith? rules deeper (text ++ rest) = (skipSpace? rest).bind (skipStructure? deeper) := by
  have words := fun word known => written.word?_eq_none ends known (free word known)
  obtain ⟨c, later, rfl, start⟩ := written.exists_first
  have unit : ¬['(', ')'] <+: c :: later ++ rest := by
    rintro ⟨more, same⟩
    obtain ⟨rfl, -⟩ := List.cons.inj same
    cases start
  have digits : ∀ d ∈ (c :: later ++ rest).head?, ¬(d.isDigit = true ∨ d ∈ ['+', '-', '.']) := by
    rintro d head (digit | mark)
    · obtain rfl := Option.some.inj head
      cases (isIdentifierStart_of_isDigit digit).symm.trans start
    · obtain rfl := Option.some.inj head
      revert mark start
      simp only [List.mem_cons, List.not_mem_nil, or_false]
      rintro start (rfl | rfl | rfl) <;> cases start
  have byte : ¬['b', '\''] <+: c :: later ++ rest := by
    rintro ⟨more, same⟩
    have opening : name? ("b'".toList ++ more) = none := name?_of_literalStart (by decide) more
    have read := written.name?_append ends
    rw [← same] at read
    cases opening.symm.trans read
  rw [skipValueWith?_eq words unit byte digits, written.name?_append ends]

theorem skipValueWith?_option {rules : OptionRules} {deeper : List Skip}
    (apart : rest.head?.any Text.isIdentifierRest = false) :
    skipValueWith? rules deeper ("Some".toList ++ rest) = skipOption? rules deeper rest := by
  have found : word? "Some" ("Some".toList ++ rest) = some rest := word?_eq_some_iff.mpr ⟨rfl, apart⟩
  have first : ∀ c ∈ ("Some".toList ++ rest).head?, c = 'S' := by simp
  have plain : skipWord? ("Some".toList ++ rest) = none := by
    refine skipWord?_eq_none (words_eq_none valueWords ['t', 'f', 'N'] (by decide) fun c head => ?_) ?_
    · rw [first c head]
      decide
    · simp
  have range : skipRange? ("Some".toList ++ rest) = none := by
    refine skipRange?_eq_none (words_eq_none floatWords ['i', 'N'] (by decide) fun c head => ?_) ?_
      fun c head => ?_
    · rw [first c head]
      decide
    · simp
    · rw [first c head]
      decide
  simp only [skipValueWith?, plain, range, found]
  rfl

/-- A tuple without a name is read behind its bracket, also if it is empty. -/
theorem skipValueWith?_structure {rules : OptionRules} {deeper : List Skip} {later : List Char}
    (room : deeper ≠ []) (read : skipStructure? deeper ('(' :: later) = some rest) :
    skipValueWith? rules deeper ('(' :: later) = some rest := by
  by_cases unit : later.head? = some ')'
  · obtain ⟨left, rfl⟩ : ∃ left, later = ')' :: left := List.head?_eq_some_iff.mp unit
    have closed := skipSpace?_of_solid (c := ')') (by decide) (by decide) left
    simp only [skipStructure?, skipBracketed?, skipParts?, closed] at read
    simp [room] at read
    rw [← read]
    rfl
  · rw [skipValueWith?_unnamed (by decide) (fun _ => unit) (by simp) (name?_of_first (by decide) _)]
    exact read

/-- Every value is passed over by the reader for its depth. -/
theorem Value.passes (value : Value n text) : Passes (skipValue? {} n) text := by
  induction n using Nat.strongRecOn generalizing text with
  | ind n deeper =>
  intro rest solid follows solid_stops
  have stops := solid_stops.of_skipSpace? follows
  cases value with
  | literal literal => exact ⟨rest, literal.skipValueWith?_append stops, follows⟩
  | name written free =>
    refine ⟨solid, ?_, skipSpace?_of_skipFrom? follows⟩
    rw [skipValue?, written.skipValueWith?_append free stops.endsName, follows, Option.bind_some]
    unfold skipStructure?
    split
    · cases solid_stops '(' rfl
    · rfl
  | @option n gap value inner behind held laid =>
    refine ⟨rest, ?_, follows⟩
    have held_passes := deeper n (Nat.lt_succ_self n) held
    have read : skipOption? {} (deeperSkips {} (n + 1)) (gap ++ '(' :: (inner ++ rest)) = some rest :=
      held_passes.skipOption?_append held.starts behind laid rest
    have apart := any_isIdentifierRest (behind.endsName (inner ++ rest)).apart.1
    rw [List.append_assoc, List.append_assoc, List.cons_append, skipValue?, skipValueWith?_option apart]
    exact read
  | @brackets n opening closing content front inner parts kind named room each laid =>
    refine ⟨rest, ?_, follows⟩
    have passes := fun m (below : m < n) text (value : Value m text) =>
      deeper m (Nat.lt_succ_of_lt below) value
    have structured : closing = ')' → content ≠ .entries →
        skipStructure? (deeperSkips {} (n + 1)) ('(' :: (inner ++ rest)) = some rest := by
      rintro rfl tuple
      refine laid.skipBracketed?_append (by simp) room each passes (fun some_part => ?_) rest
      rw [laid.hasFields_append some_part each tuple rest]
      cases content <;> simp_all
    rw [List.append_assoc, List.cons_append, skipValue?]
    cases named with
    | none =>
      rw [List.nil_append]
      cases kind with
      | tuple | record => exact skipValueWith?_structure (by simp [deeperSkips]) (structured rfl nofun)
      | list | map =>
        rw [skipValueWith?_unnamed (by decide) (by simp) (by simp) (name?_of_first (by decide) _)]
        exact laid.skipBracketed?_append (by simp) room each passes (fun _ => rfl) rest
    | name written free behind =>
      rw [List.append_assoc, written.skipValueWith?_append free (behind.endsName _),
        behind.skipSpace?_bracket, Option.bind_some]
      cases kind with
      | tuple | record => exact structured rfl nofun

end Values

end Blackjack.Ron
