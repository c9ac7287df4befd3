import Blackjack.Proofs.Ron.Grammar
import Blackjack.Proofs.Text.Utf8
import Mathlib.Data.List.Induction
import Mathlib.Tactic.NthRewrite

/-!
# Quoted literals

Each kind of escape is read with its width, whatever follows it, and a content between quotes is one
piece after another, so every text, byte string and character that is written as the grammar says is
read up to its end. Two to four bytes in a row write a character because no part of its encoding is
one.
-/

namespace Blackjack.Ron

section Escape

variable {b : UInt8} {c : Char} {digits text rest : List Char}

theorem ByteEscape.escape?_append (escape : ByteEscape b text) (rest : List Char) :
    escape? (text ++ rest) = some (.byte b, text.length) := by
  cases escape with
  | @short b c known =>
    rw [List.singleton_append]
    unfold escape?
    split
    next same =>
      obtain ⟨rfl, -⟩ := List.cons.inj same
      cases known
    next same =>
      obtain ⟨rfl, -⟩ := List.cons.inj same
      cases known
    next same =>
      obtain ⟨rfl, -⟩ := List.cons.inj same
      simp [known]
    next same => cases same
  | digits number => simp [escape?, number]

theorem hexNumber?_concat (digits : List Char) (c : Char) : hexNumber? (digits ++ [c]) =
    (hexNumber? digits).bind fun n => (hexValue? c).bind fun d => some (16 * n + d) := by
  rw [hexNumber?, List.foldl_append]
  rfl

theorem hexValue?_of_hexNumber? {n : Nat} (number : hexNumber? digits = some n) :
    ∀ c ∈ digits, (hexValue? c).isSome = true := by
  induction digits using List.reverseRecOn generalizing n with
  | nil => simp
  | append_singleton digits c ih =>
    rw [hexNumber?_concat] at number
    obtain ⟨value, earlier, number⟩ := Option.bind_eq_some_iff.mp number
    obtain ⟨d, digit, -⟩ := Option.bind_eq_some_iff.mp number
    intro other member
    rcases List.mem_append.mp member with before | last
    · exact ih earlier other before
    · obtain rfl := List.mem_singleton.mp last
      simp [digit]

theorem ofCodePoint?_toNat (c : Char) : ofCodePoint? c.toNat = some c := by
  have valid : c.toNat < 0xD800 ∨ (0xDFFF < c.toNat ∧ c.toNat < 0x110000) := c.valid
  rw [ofCodePoint?, if_pos valid, Char.ofNat_toNat]

/-- Up to six digits end at the bracket. -/
theorem takeWhile_take_of_few {digits : List Char} (inside : ∀ c ∈ digits, c ≠ '}')
    (few : digits.length ≤ 6) (rest : List Char) : ((digits ++ '}' :: rest).take 7).takeWhile (· ≠ '}') = digits := by
  obtain ⟨more, room⟩ : ∃ more, 7 - digits.length = more + 1 := ⟨6 - digits.length, by omega⟩
  have plain : ∀ c ∈ digits, decide (c ≠ '}') = true := fun c member =>
    decide_eq_true (inside c member)
  rw [List.take_append, List.take_of_length_le (by omega), room, List.take_succ_cons,
    List.takeWhile_append_of_pos plain, List.takeWhile_cons_of_neg (by decide), List.append_nil]

theorem PointEscape.escape?_append (escape : PointEscape c text) (rest : List Char) :
    escape? (text ++ rest) = some (.char c, text.length) := by
  cases escape with
  | @intro digits number some_digit few =>
    have inside : ∀ d ∈ digits, d ≠ '}' := by
      rintro d member rfl
      have digit := hexValue?_of_hexNumber? number _ member
      cases digit
    have taken := takeWhile_take_of_few inside few rest
    simp only [List.cons_append, List.append_assoc, List.nil_append, escape?, taken]
    rw [if_neg (by simp [some_digit, few]), number]
    simp [ofCodePoint?_toNat]

/-- An escape continues no line. -/
theorem lineEnd?_eq_none (first : ∀ c ∈ text.head?, c ∉ ['\n', '\r']) : lineEnd? text = none := by
  cases text with
  | nil => rfl
  | cons c later =>
    have other := first c rfl
    simp only [List.mem_cons, List.not_mem_nil, or_false, not_or] at other
    simp [lineEnd?, token?, Ne.symm other.1, Ne.symm other.2]

theorem ByteEscape.lineEnd?_append (escape : ByteEscape b text) (rest : List Char) :
    lineEnd? (text ++ rest) = none := by
  refine lineEnd?_eq_none fun c first => ?_
  cases escape with
  | short known =>
    obtain rfl := Option.some.inj first
    intro member
    simp only [List.mem_cons, List.not_mem_nil, or_false] at member
    rcases member with rfl | rfl <;> cases known
  | digits =>
    obtain rfl := Option.some.inj first
    decide

theorem PointEscape.lineEnd?_append (escape : PointEscape c text) (rest : List Char) :
    lineEnd? (text ++ rest) = none := by
  cases escape
  rfl

end Escape

section Wide

variable {bytes : List UInt8} {c : Char} {text rest : List Char}

theorem ByteRow.length_eq (row : ByteRow bytes text) : text.length + 1 = 4 * bytes.length := by
  induction row with
  | last => rfl
  | next _ _ ih =>
    simp only [List.length_cons]
    omega

theorem ByteRow.byteRow_append (row : ByteRow bytes text) {count : Nat}
    (room : bytes.length ≤ count) (rest : List Char) :
    ∃ more, byteRow count (text ++ rest) = bytes ++ more := by
  induction row generalizing count with
  | last number =>
    obtain ⟨count, rfl⟩ : ∃ n, count = n + 1 := ⟨count - 1, by simp at room; omega⟩
    rcases rest with _ | ⟨c, rest⟩
    · exact ⟨[], by simp [byteRow, number]⟩
    · by_cases same : c = '\\'
      · subst same
        exact ⟨byteRow count rest, by simp [byteRow, number]⟩
      · exact ⟨[], by simp [byteRow, number, same]⟩
  | next number _ ih =>
    obtain ⟨count, rfl⟩ : ∃ n, count = n + 1 := ⟨count - 1, by simp at room; omega⟩
    obtain ⟨more, later⟩ := ih (Nat.le_of_succ_le_succ room)
    exact ⟨more, by simp [byteRow, number, later]⟩

/-- A row of bytes begins with an escape of its first one. -/
theorem ByteRow.escape?_append {b : UInt8} (row : ByteRow (b :: bytes) text) (rest : List Char) :
    escape? (text ++ rest) = some (.byte b, 3) ∧ lineEnd? (text ++ rest) = none := by
  cases row with
  | last number | next number => exact ⟨by simp [escape?, number], rfl⟩

/-- A character beyond ASCII has two to four bytes. -/
theorem length_encodeChar (wide : 0x80 ≤ c.toNat) : (String.utf8EncodeChar c).length = 2 ∨
    (String.utf8EncodeChar c).length = 3 ∨ (String.utf8EncodeChar c).length = 4 := by
  have low : 0x7F < c.val.toNat := wide
  by_cases two : c.val.toNat ≤ 0x7FF
  · simp [Text.encodeChar_two c low two]
  by_cases three : c.val.toNat ≤ 0xFFFF
  · simp [Text.encodeChar_three c (by omega) three]
  · simp [Text.encodeChar_four c (by omega)]

/-- A part of the bytes of a character encodes no character. -/
theorem decode?_take_encodeChar {count : Nat} (few : count < (String.utf8EncodeChar c).length)
    (d : Char) : Text.decode? ((String.utf8EncodeChar c).take count) ≠ some [d] := by
  have split := List.take_append_drop count (String.utf8EncodeChar c)
  have size : ((String.utf8EncodeChar c).take count).length ≤ count := List.length_take_le ..
  cases part : (String.utf8EncodeChar c).take count with
  | nil =>
    rintro ⟨⟩
  | cons b more =>
    rw [part] at split size
    rw [Text.decode?, Text.decodeFrom?]
    cases found : Text.leading? (b :: more) with
    | none =>
      rintro ⟨⟩
    | some leading =>
      obtain ⟨e, width⟩ := leading
      obtain ⟨later, spelled, -⟩ := Text.leading?_eq_some_iff.mp found
      -- Whatever the part begins with, the whole begins with, but the whole begins with all of itself.
      have whole := (Text.leads_encodeChar_append c []).leading?
      have inside := (Text.leads_encodeChar_append e
        (later ++ (String.utf8EncodeChar c).drop count)).leading?
      rw [← List.append_assoc, ← spelled, split] at inside
      rw [List.append_nil, inside] at whole
      have width := (Prod.mk.inj (Option.some.inj whole)).2
      rw [spelled, List.length_append] at size
      omega

theorem ByteRow.encodedChar?_append (row : ByteRow (String.utf8EncodeChar c) text)
    (wide : 0x80 ≤ c.toNat) (rest : List Char) :
    encodedChar? (text ++ rest) = some (c, text.length) := by
  have size := row.length_eq
  have decoded : Text.decode? (String.utf8EncodeChar c) = some [c] := by
    simpa [Text.encode] using Text.decode?_encode [c]
  have room : (String.utf8EncodeChar c).length ≤ 4 := by
    rcases length_encodeChar wide with size | size | size <;> omega
  obtain ⟨more, read⟩ := row.byteRow_append room rest
  have whole : (byteRow 4 (text ++ rest)).take (String.utf8EncodeChar c).length =
      String.utf8EncodeChar c := by
    rw [read, List.take_left]
  have part : ∀ count < (String.utf8EncodeChar c).length,
      Text.decode? ((byteRow 4 (text ++ rest)).take count) = none ∨
        Text.decode? ((byteRow 4 (text ++ rest)).take count) = some [] ∨
        ∃ d e more, Text.decode? ((byteRow 4 (text ++ rest)).take count) = some (d :: e :: more) := by
    intro count few
    rw [read, List.take_append_of_le_length (Nat.le_of_lt few)]
    rcases found : Text.decode? ((String.utf8EncodeChar c).take count) with _ | _ | ⟨d, _ | ⟨e, more⟩⟩
    · exact .inl rfl
    · exact .inr (.inl rfl)
    · exact absurd found (decode?_take_encodeChar few d)
    · exact .inr (.inr ⟨d, e, more, rfl⟩)
  simp only [encodedChar?, List.findSome?_cons]
  rcases length_encodeChar wide with two | three | four
  · rw [two] at whole size
    simp only [whole, decoded, Option.some.injEq, Prod.mk.injEq, true_and]
    omega
  · rw [three] at whole size part
    rcases part 2 (by omega) with first | first | ⟨_, _, _, first⟩ <;>
      simp only [first, whole, decoded, Option.some.injEq, Prod.mk.injEq, true_and] <;> omega
  · rw [four] at whole size part
    rcases part 2 (by omega) with first | first | ⟨_, _, _, first⟩ <;>
      rcases part 3 (by omega) with second | second | ⟨_, _, _, second⟩ <;>
      simp only [first, second, whole, decoded, Option.some.injEq, Prod.mk.injEq, true_and] <;> omega

end Wide

section Literal

variable {added content spelling text rest : List Char} {c : Char}

theorem TextEscape.textEscape?_append (escape : TextEscape added text) (rest : List Char) :
    textEscape? (text ++ rest) = some (added, text.length) := by
  cases escape with
  | byte escape ascii =>
    simp [textEscape?, escape.lineEnd?_append, escape.escape?_append, Escape.char?, ascii]
  | point escape =>
    simp [textEscape?, escape.lineEnd?_append, escape.escape?_append, Escape.char?]
  | @bytes c text wide row =>
    obtain ⟨b, later, first⟩ : ∃ b later, String.utf8EncodeChar c = b :: later :=
      List.exists_cons_of_ne_nil String.utf8EncodeChar_ne_nil
    have large : ¬b < 0x80 := by
      intro ascii
      have same := Text.eq_of_mem_encodeChar (b := b) (c := c) (by simp [first]) ascii
      have small : b.toNat < 0x80 := ascii
      have code : 0x80 ≤ c.val.toNat := wide
      omega
    have read := row.encodedChar?_append wide rest
    rw [first] at row
    obtain ⟨escape, single⟩ := row.escape?_append rest
    simp [textEscape?, single, escape, Escape.char?, large, read]

theorem BytesEscape.bytesEscape?_append (escape : BytesEscape added text) (rest : List Char) :
    bytesEscape? (text ++ rest) = some (added, text.length) := by
  cases escape with
  | byte escape | point escape =>
    simp [bytesEscape?, escape.lineEnd?_append, escape.escape?_append]

/-- A line is continued at its first character that is no white space. -/
theorem lineEnd?_append {lineEnd : String} {spaces : List Char} (ends : lineEnd ∈ ["\n", "\r\n"])
    (blank : ∀ c ∈ spaces, isLineSpace c = true) (solid : ∀ c ∈ rest.head?, isLineSpace c = false) :
    lineEnd? (lineEnd.toList ++ spaces ++ rest) = some (lineEnd.toList ++ spaces).length := by
  have ended : ∀ c ∈ lineEnd.toList, isLineSpace c = true := by
    have all : ∀ lineEnd ∈ ["\n", "\r\n"], (lineEnd.toList.all isLineSpace) = true := by decide
    exact List.all_eq_true.mp (all lineEnd ends)
  have inside : ∀ c ∈ lineEnd.toList ++ spaces, isLineSpace c = true := fun c member =>
    (List.mem_append.mp member).elim (ended c) (blank c)
  have last : rest.takeWhile isLineSpace = [] := by
    cases rest with
    | nil => rfl
    | cons c later => rw [List.takeWhile_cons_of_neg (by simp [solid c rfl])]
  have begins : ((token? "\n" (lineEnd.toList ++ spaces ++ rest)).isSome ||
      (token? "\r\n" (lineEnd.toList ++ spaces ++ rest)).isSome) = true := by
    simp only [List.mem_cons, List.not_mem_nil, or_false] at ends
    rcases ends with rfl | rfl <;> rfl
  rw [lineEnd?, if_pos begins, List.takeWhile_append_of_pos inside, last, List.append_nil]

/-- Characters that belong to an escape are passed over. -/
theorem quotedFrom?_length_append (read? : List Char → Option (List Char × Nat))
    (escape rest : List Char) :
    quotedFrom? read? escape.length (escape ++ rest) = quotedFrom? read? 0 rest := by
  induction escape with
  | nil => rfl
  | cons c escape ih => exact ih

/-- A quoted content is read back, given a reader of its escapes. -/
theorem Quoted.quotedFrom?_append {escapes : List Char → List Char → Prop}
    {read? : List Char → Option (List Char × Nat)} (inside : Quoted escapes content text)
    (reads : ∀ added spelling rest, escapes added spelling →
      read? (spelling ++ rest) = some (added, spelling.length))
    (joins : ∀ text width, lineEnd? text = some width → read? text = some ([], width))
    (rest : List Char) : quotedFrom? read? 0 (text ++ '"' :: rest) = some (content, rest) := by
  induction inside with
  | nil => rfl
  | char mark escape _ ih => simp [quotedFrom?, ih]
  | escape escape _ ih =>
    simp [quotedFrom?, reads _ _ _ escape, quotedFrom?_length_append, ih]
  | @join lineEnd spaces content text ends blank solid _ ih =>
    have next : ∀ c ∈ (text ++ '"' :: rest).head?, isLineSpace c = false := by
      cases text with
      | nil =>
        intro c first
        obtain rfl := Option.some.inj first
        decide
      | cons d later => exact fun c first => solid c first
    have joined := joins _ _ (lineEnd?_append ends blank next)
    rw [List.cons_append, List.append_assoc, quotedFrom?, joined]
    simp only [quotedFrom?_length_append, ih]
    rfl

/-- A raw content ends at the first closing mark. -/
theorem rawFrom?_append {count : Nat} (inside : ¬('"' :: List.replicate count '#') <:+: content)
    (rest : List Char) :
    rawFrom? ('"' :: List.replicate count '#')
      (content ++ ('"' :: List.replicate count '#') ++ rest) = some (content, rest) := by
  generalize closing_eq : '"' :: List.replicate count '#' = closing at inside ⊢
  induction content with
  | nil =>
    have begins : closing.isPrefixOf (closing ++ rest) = true :=
      List.isPrefixOf_iff_prefix.mpr (List.prefix_append ..)
    subst closing_eq
    rw [List.nil_append, List.cons_append, rawFrom?, ← List.cons_append, if_pos begins, List.drop_left]
  | cons c content ih =>
    have later := ih fun found => inside (found.trans (List.suffix_cons c content).isInfix)
    have other : ¬closing.isPrefixOf (c :: (content ++ closing ++ rest)) = true := by
      intro begins
      have whole : c :: content <+: c :: (content ++ closing ++ rest) := by simp
      have begins := List.isPrefixOf_iff_prefix.mp begins
      rcases List.prefix_or_prefix_of_prefix begins whole with short | ⟨_ | ⟨d, more⟩, long⟩
      · exact inside short.isInfix
      · exact inside (by simp [← long])
      -- Behind its first quote a mark has no other, so no mark can begin before the last one.
      · have sign : d ∈ List.replicate count '#' := by
          rw [← closing_eq, List.cons_append] at long
          rw [← (List.cons.inj long).2]
          simp
        have quote : d :: more <+: closing ++ rest := by
          rw [List.append_assoc, ← List.cons_append] at begins
          nth_rewrite 1 [← long] at begins
          exact (List.prefix_append_right_inj _).mp begins
        rw [← closing_eq, List.cons_append, List.cons_prefix_cons] at quote
        rw [quote.1] at sign
        cases List.eq_of_mem_replicate sign
    rw [List.cons_append, List.cons_append, rawFrom?, if_neg other, later]
    rfl

theorem Raw.raw?_append (raw : Raw content text) (rest : List Char) :
    raw? (text ++ rest) = some (content, rest) := by
  cases raw with
  | @intro count inside =>
    have signs : ∀ c ∈ List.replicate count '#', decide (c = '#') = true := by simp
    have closes := rawFrom?_append inside rest
    rw [List.append_assoc] at closes
    unfold raw?
    simp only [List.append_assoc, List.cons_append, List.takeWhile_append_of_pos signs,
      List.dropWhile_append_of_pos signs]
    simpa using closes

theorem WritesText.string?_append (written : WritesText content text) (rest : List Char) :
    string? (text ++ rest) = some (content, rest) := by
  cases written with
  | quoted inside =>
    have read := inside.quotedFrom?_append (fun _ _ rest escape => escape.textEscape?_append rest)
      (fun text width ended => by simp [textEscape?, ended]) rest
    simpa [string?] using read
  | raw inside => simpa [string?] using inside.raw?_append rest

theorem Bytes.skipBytes?_append (bytes : Bytes text) (rest : List Char) :
    skipBytes? (text ++ rest) = some rest := by
  cases bytes with
  | quoted inside =>
    have read := inside.quotedFrom?_append (fun _ _ rest escape => escape.bytesEscape?_append rest)
      (fun text width ended => by simp [bytesEscape?, ended]) rest
    simp [skipBytes?, read]
  | raw inside => simp [skipBytes?, inside.raw?_append rest]

theorem Character.skipChar?_append (character : Character text) (rest : List Char) :
    skipChar? (text ++ rest) = some rest := by
  have quote : token? "'" ('\'' :: rest) = some rest := rfl
  cases character with
  | plain escape => simp [skipChar?, quote]
  | byte escape ascii =>
    have read := escape.escape?_append ('\'' :: rest)
    simp [skipChar?, read, Escape.char?, ascii, quote]
  | point escape =>
    have read := escape.escape?_append ('\'' :: rest)
    simp [skipChar?, read, Escape.char?, quote]

end Literal

end Blackjack.Ron
