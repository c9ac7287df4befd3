import Blackjack.Proofs.Ron.Grammar

/-!
# White space and what stands between it

The reader passes over a gap whatever follows it (`Gap.skipSpace?_append`). Every value is followed
by a boundary, which is white space, a comment or a mark, and begins with none (`Starts`), so a
value is read as far as it goes and a gap ends where the next value begins.
-/

namespace Blackjack.Ron

/-- After white space there is no more of it. -/
theorem skipSpace?_of_skipFrom? {surrounding : Surrounding} {text rest : List Char}
    (skipped : skipFrom? surrounding text = some rest) : skipSpace? rest = some rest := by
  fun_induction skipFrom? surrounding text with
  | case1 | case7 =>
    cases skipped
    rfl
  | case6 _ _ _ _ plain solid =>
    cases skipped
    exact skipSpace?_of_solid (by simpa using solid) plain _
  | _ => simp_all

section Boundary

variable {c : Char} {text rest : List Char}

/-- The characters that may follow a value: white space, a comment, a comma, a colon, a bracket. -/
def isBoundary (c : Char) : Bool :=
  isSpace c || c = '/' || c = ',' || c = ':' || c = ')' || c = ']' || c = '}'

/-- Nothing that belongs to a value follows. -/
def Stops (text : List Char) : Prop := ∀ c ∈ text.head?, isBoundary c = true

/-- A value may begin here. -/
def Starts (text : List Char) : Prop := ∃ c later, text = c :: later ∧ isBoundary c = false

/-- The boundaries one by one. -/
def boundaries : List Char :=
  [0x09, 0x0A, 0x0B, 0x0C, 0x0D, 0x20, 0x85, 0x200E, 0x200F, 0x2028, 0x2029].map Char.ofNat ++
    ['/', ',', ':', ')', ']', '}']

theorem mem_boundaries (boundary : isBoundary c = true) : c ∈ boundaries := by
  by_cases space : isSpace c = true
  · have code : c.toNat ∈
        [0x09, 0x0A, 0x0B, 0x0C, 0x0D, 0x20, 0x85, 0x200E, 0x200F, 0x2028, 0x2029] := by
      simp only [isSpace, Bool.or_eq_true, Bool.and_eq_true, decide_eq_true_eq, beq_iff_eq] at space
      simp only [List.mem_cons, List.not_mem_nil, or_false]
      omega
    exact List.mem_append_left _ (List.mem_map.mpr ⟨c.toNat, code, Char.ofNat_toNat c⟩)
  · refine List.mem_append_right _ ?_
    simpa [isBoundary, space, or_assoc] using boundary

/-- No boundary continues an identifier. -/
theorem isIdentifierRest_of_isBoundary (boundary : isBoundary c = true) :
    Text.isIdentifierRest c = false := by
  have all : (boundaries.all fun c =>
      if c.toNat < 0x80 then !c.isAlphanum && c ≠ '_'
      else c.toNat ≤ 0xA9 || 0x200E ≤ c.toNat && c.toNat ≤ 0x2029) = true := by decide
  have apart := List.all_eq_true.mp all c (mem_boundaries boundary)
  unfold Text.isIdentifierRest
  split at apart
  next ascii => simpa [ascii] using apart
  next wide =>
    -- White space beyond ASCII is in two stretches with no characters of identifiers.
    have clear : ∀ ranges ∈ [Text.identifierStarts, Text.identifierTails],
        Text.inRanges ranges c.toNat = false := by
      intro ranges table
      obtain ⟨low, high⟩ := Bool.and_eq_true_iff.mp (Text.spares_identifiers ranges table)
      simp only [Bool.or_eq_true, Bool.and_eq_true, decide_eq_true_eq] at apart
      obtain below | ⟨above, below⟩ := apart
      · exact Text.inRanges_of_spares low (by omega) below
      · exact Text.inRanges_of_spares high above below
    simp [wide, clear]

/-- A boundary belongs to no name, to no number, and opens nothing. -/
theorem apart_of_isBoundary (boundary : isBoundary c = true) :
    isRawNameChar c = false ∧ isFloatChar c = false ∧
      c ∉ ['(', '[', '{', '"', '\'', '#', '='] := by
  have all : (boundaries.all fun c => c ≠ '.' && c ≠ '+' && c ≠ '-' && !isFloatChar c &&
      c ∉ ['(', '[', '{', '"', '\'', '#', '=']) = true := by decide
  have apart := List.all_eq_true.mp all c (mem_boundaries boundary)
  have name := isIdentifierRest_of_isBoundary boundary
  simp_all [isRawNameChar]

theorem Starts.skipSpace? (starts : Starts text) (rest : List Char) :
    skipSpace? (text ++ rest) = some (text ++ rest) := by
  obtain ⟨c, later, rfl, solid⟩ := starts
  simp only [isBoundary, Bool.or_eq_false_iff, decide_eq_false_iff_not, and_assoc] at solid
  exact skipSpace?_of_solid solid.1 solid.2.1 _

/-- Identifiers, numbers, quotes and opening brackets begin with no boundary. -/
theorem starts_of_first {c : Char} (kind : Text.isIdentifierRest c = true ∨ isFloatChar c = true ∨
    c ∈ ['(', '[', '{', '"', '\'', '#', '=']) (later : List Char) : Starts (c :: later) := by
  refine ⟨c, later, rfl, Bool.eq_false_iff.mpr fun boundary => ?_⟩
  obtain ⟨-, float, marks⟩ := apart_of_isBoundary boundary
  rw [isIdentifierRest_of_isBoundary boundary, float] at kind
  simpa using kind.resolve_left nofun |>.resolve_left nofun |> marks

theorem Starts.append (starts : Starts text) (rest : List Char) : Starts (text ++ rest) := by
  obtain ⟨c, later, rfl, solid⟩ := starts
  exact ⟨c, later ++ rest, rfl, solid⟩

theorem Stops.of_skipSpace? {solid : List Char} (follows : skipSpace? rest = some solid)
    (stops : Stops solid) : Stops rest := by
  cases rest with
  | nil => nofun
  | cons c later =>
    intro d head
    obtain rfl := Option.some.inj head
    by_cases space : isSpace c = true
    · simp [isBoundary, space]
    by_cases slash : c = '/'
    · simp [isBoundary, slash]
    rw [skipSpace?_of_solid (by simpa using space) slash, Option.some.injEq] at follows
    exact stops c (by rw [← follows]; rfl)

end Boundary

section Gap

variable {gap later text rest : List Char}

/-- The surrounding that the end of a block comment leads back to. -/
def Surrounding.outside : Nat → Surrounding
  | 0 => .plain
  | depth + 1 => .block depth

theorem Comment.skipFrom?_append {comment : List Char} (inside : Comment comment) (depth : Nat)
    (rest : List Char) :
    skipFrom? (.block depth) (comment ++ rest) = skipFrom? (.outside depth) rest := by
  induction inside generalizing depth rest with
  | close => cases depth <;> rfl
  | nested first later first_ih later_ih =>
    simp only [List.cons_append, List.append_assoc, skipFrom?, first_ih, Surrounding.outside, later_ih]
  | @char c later opens closes comment ih =>
    obtain ⟨d, more, rfl⟩ : ∃ d more, later = d :: more := by
      cases comment <;> exact ⟨_, _, rfl⟩
    simp only [List.cons_prefix_cons, List.nil_prefix, and_true] at opens closes
    rw [List.cons_append, ← ih, List.cons_append, skipFrom?]
    · exact fun _ slash same => opens ⟨slash.symm, (List.cons.inj same).1.symm⟩
    · exact fun _ _ star same => closes ⟨star.symm, (List.cons.inj same).1.symm⟩
    · exact fun _ _ _ star same => closes ⟨star.symm, (List.cons.inj same).1.symm⟩

/-- White space is passed over, whatever follows it. -/
theorem Gap.skipSpace?_append (inside : Gap gap) (rest : List Char) :
    skipSpace? (gap ++ rest) = skipSpace? rest := by
  induction inside with
  | none => rfl
  | space space _ ih => rw [List.cons_append, skipSpace?_cons space, ih]
  | @line words later plain _ ih =>
    have line : skipFrom? .line (words ++ '\n' :: (later ++ rest)) = skipSpace? (later ++ rest) := by
      clear ih
      induction words with
      | nil => rfl
      | cons c words words_ih =>
        simp only [List.mem_cons, not_or] at plain
        rw [List.cons_append, skipFrom?_line_cons (Ne.symm plain.1), words_ih plain.2]
    rw [List.cons_append, List.cons_append, List.append_assoc, List.cons_append, ← ih]
    exact line
  | @block comment later inside _ ih =>
    rw [List.cons_append, List.cons_append, List.append_assoc, ← ih]
    exact inside.skipFrom?_append 0 _

theorem Gap.stops (inside : Gap gap) {c : Char} (boundary : isBoundary c = true)
    (rest : List Char) : Stops (gap ++ c :: rest) := by
  intro d first
  cases inside with
  | none =>
    obtain rfl : c = d := by simpa using first
    exact boundary
  | space space =>
    obtain rfl := Option.some.inj first
    simp [isBoundary, space]
  | line | block =>
    obtain rfl := Option.some.inj first
    decide

/-- At the end of a document there is nothing left to read. -/
theorem Ending.skipSpace? (ending : Ending text) : skipSpace? text = some [] := by
  have last : ∀ words : List Char, '\n' ∉ words → skipFrom? .line words = some [] := by
    intro words plain
    induction words with
    | nil => rfl
    | cons c words ih =>
      simp only [List.mem_cons, not_or] at plain
      rw [skipFrom?_line_cons (Ne.symm plain.1), ih plain.2]
  cases ending with
  | gap gap =>
    have empty := gap.skipSpace?_append []
    rwa [List.append_nil] at empty
  | @line text words gap plain =>
    rw [gap.skipSpace?_append]
    exact last words plain

/-- A comma after a gap is taken with the gap behind it. -/
theorem Gap.comma?_append (inside : Gap gap) {solid : List Char}
    (follows : skipSpace? later = some solid) :
    comma? (gap ++ ',' :: later) = some (true, solid) := by
  have comma := skipSpace?_of_solid (c := ',') (by decide) (by decide) later
  simp [comma?, inside.skipSpace?_append, comma, follows]

theorem skipSpace?_bracket {closing : Char} (bracket : closing ∈ [')', ']', '}'])
    (rest : List Char) : skipSpace? (closing :: rest) = some (closing :: rest) := by
  have all : ([')', ']', '}'].all fun c => !isSpace c && c ≠ '/') = true := by decide
  have solid : isSpace closing = false ∧ closing ≠ '/' := by
    simpa using List.all_eq_true.mp all closing bracket
  exact skipSpace?_of_solid solid.1 solid.2 rest

/-- At a bracket there is no comma. -/
theorem Gap.comma?_append_bracket (inside : Gap gap) {closing : Char}
    (bracket : closing ∈ [')', ']', '}']) (rest : List Char) :
    comma? (gap ++ closing :: rest) = some (false, closing :: rest) := by
  have other : closing ≠ ',' := by
    rintro rfl
    revert bracket
    decide
  simp [comma?, inside.skipSpace?_append, skipSpace?_bracket bracket, other]

theorem comma?_congr {other : List Char} (same : skipSpace? text = skipSpace? other) :
    comma? text = comma? other := by
  rw [comma?, comma?, same]

end Gap

section Laid

variable {ι : Type} {writes : ι → List Char → Prop} {closing : Char} {items : List ι}
  {text : List Char}

/-- Before an item or the closing bracket there is nothing but a gap. -/
theorem Laid.exists_skipSpace? (laid : Laid writes closing items text)
    (bracket : closing ∈ [')', ']', '}'])
    (starts : ∀ item ∈ items, ∀ text, writes item text → Starts text) (rest : List Char) :
    ∃ solid, skipSpace? (text ++ rest) = some solid := by
  cases laid with
  | none inside =>
    rw [List.append_assoc, inside.skipSpace?_append]
    exact ⟨_, skipSpace?_bracket bracket rest⟩
  | last front written | next front written =>
    simp only [List.append_assoc, front.skipSpace?_append]
    exact ⟨_, (starts _ (by simp) _ written).skipSpace? _⟩

/-- There are more characters than items. -/
theorem Laid.length_lt (laid : Laid writes closing items text)
    (starts : ∀ item ∈ items, ∀ text, writes item text → Starts text) :
    items.length < text.length := by
  induction laid with
  | none => simp
  | last _ written =>
    obtain ⟨c, later, rfl, -⟩ := starts _ (by simp) _ written
    simp only [List.length_cons, List.length_append, List.length_nil]
    omega
  | next _ written _ _ ih =>
    obtain ⟨c, later, rfl, -⟩ := starts _ (by simp) _ written
    have more := ih fun item member => starts item (by simp [member])
    simp only [List.length_cons, List.length_append]
    omega

end Laid

end Blackjack.Ron
