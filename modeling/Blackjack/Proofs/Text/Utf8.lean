import Blackjack.Text.Utf8

/-!
# Reading bytes that need not be text

`leading?` finds a character exactly where the bytes begin with its encoding
(`leading?_eq_some_iff`). So `decodeValid` keeps the characters that stand in the bytes and drops
every byte at which none begins, which is what `Keeps` says without reading bytes at all
(`keeps_iff`), and a text that was encoded comes back, whether bytes are dropped or refused. A byte
below `80` is a character of its own and part of no other, so bytes can be cut at it before they are
decoded as well as after (`decodeValid_append_cons`).
-/

namespace Blackjack.Text

section Leading

/-- The well-formed sequences that bytes can begin with, each with its character and its length. -/
inductive Leads : List UInt8 → Char → Nat → Prop
  | one {a : UInt8} {rest : List UInt8} (ascii : a.toNat < 0x80) :
      Leads (a :: rest) (Char.ofNat a.toNat) 1
  | two {a b : UInt8} {rest : List UInt8} (low : 0xC2 ≤ a.toNat) (high : a.toNat < 0xE0)
      (tail : isTail b.toNat) :
      Leads (a :: b :: rest) (Char.ofNat ((a.toNat - 0xC0) * 0x40 + (b.toNat - 0x80))) 2
  | three {a b c : UInt8} {rest : List UInt8} (low : 0xE0 ≤ a.toNat) (high : a.toNat < 0xF0)
      (second : isSecondOfThree a.toNat b.toNat) (tail : isTail c.toNat) :
      Leads (a :: b :: c :: rest)
        (Char.ofNat ((a.toNat - 0xE0) * 0x1000 + (b.toNat - 0x80) * 0x40 + (c.toNat - 0x80))) 3
  | four {a b c d : UInt8} {rest : List UInt8} (low : 0xF0 ≤ a.toNat) (high : a.toNat < 0xF5)
      (second : isSecondOfFour a.toNat b.toNat) (third : isTail c.toNat) (tail : isTail d.toNat) :
      Leads (a :: b :: c :: d :: rest)
        (Char.ofNat ((a.toNat - 0xF0) * 0x40000 + (b.toNat - 0x80) * 0x1000 +
          (c.toNat - 0x80) * 0x40 + (d.toNat - 0x80))) 4

variable {bytes : List UInt8} {c : Char} {width : Nat}

theorem leads_of_leading? (found : leading? bytes = some (c, width)) : Leads bytes c width := by
  revert found
  fun_cases leading? bytes with
  | case2 first rest a ascii =>
    intro found
    obtain ⟨rfl, rfl⟩ := Prod.mk.inj (Option.some.inj found)
    exact .one ascii
  | case4 first a _ low high second rest b tail =>
    intro found
    obtain ⟨rfl, rfl⟩ := Prod.mk.inj (Option.some.inj found)
    exact .two (by omega) high tail
  | case7 first a _ _ low high second third rest b c inner =>
    intro found
    obtain ⟨rfl, rfl⟩ := Prod.mk.inj (Option.some.inj found)
    rw [Bool.and_eq_true] at inner
    exact .three (by omega) high inner.1 inner.2
  | case10 first a _ _ _ low high second third fourth rest b c d inner =>
    intro found
    obtain ⟨rfl, rfl⟩ := Prod.mk.inj (Option.some.inj found)
    rw [Bool.and_eq_true, Bool.and_eq_true] at inner
    exact .four (by omega) high inner.1.1 inner.1.2 inner.2
  | case1 | case3 | case5 | case6 | case8 | case9 | case11 | case12 | case13 => nofun

theorem Leads.leading? (leads : Leads bytes c width) : leading? bytes = some (c, width) := by
  cases leads with
  | one ascii => simp only [Text.leading?, if_pos ascii]
  | two low high tail =>
    simp only [Text.leading?]
    rw [if_neg (by omega), if_neg (by omega), if_pos high, if_pos tail]
  | three low high second tail =>
    simp only [Text.leading?]
    rw [if_neg (by omega), if_neg (by omega), if_neg (by omega), if_pos high,
      if_pos (by rw [second, tail]; rfl)]
  | four low high second third tail =>
    simp only [Text.leading?]
    rw [if_neg (by omega), if_neg (by omega), if_neg (by omega), if_neg (by omega), if_pos high,
      if_pos (by rw [second, third, tail]; rfl)]

theorem isTail_iff {b : Nat} : isTail b = true ↔ 0x80 ≤ b ∧ b ≤ 0xBF := by
  simp [isTail]

theorem isSecondOfThree_iff {a b : Nat} : isSecondOfThree a b = true ↔
    isTail b ∧ (a = 0xE0 → 0xA0 ≤ b) ∧ (a = 0xED → b ≤ 0x9F) := by
  unfold isSecondOfThree
  split
  · simp [isTail]; omega
  · split
    · simp [isTail]; omega
    · simp_all

theorem isSecondOfFour_iff {a b : Nat} : isSecondOfFour a b = true ↔
    isTail b ∧ (a = 0xF0 → 0x90 ≤ b) ∧ (a = 0xF4 → b ≤ 0x8F) := by
  unfold isSecondOfFour
  split
  · simp [isTail]; omega
  · split
    · simp [isTail]; omega
    · simp_all

/-- The codes of characters leave out the surrogates. -/
theorem toNat_val_ofNat {v : Nat} (valid : v < 0xD800 ∨ 0xDFFF < v ∧ v < 0x110000) :
    (Char.ofNat v).val.toNat = v := by
  have valid : v.isValidChar := valid
  rw [Char.ofNat, dif_pos valid]
  rfl

theorem ofNat_eq_of_toNat {b : UInt8} {n : Nat} (same : n = b.toNat) : UInt8.ofNat n = b := by
  rw [same, UInt8.ofNat_toNat]

section Rows

variable (c : Char)

theorem encodeChar_one (ascii : c.val.toNat ≤ 0x7F) :
    String.utf8EncodeChar c = [UInt8.ofNat c.val.toNat] := by
  simp only [String.utf8EncodeChar]
  rw [if_pos ascii]

theorem encodeChar_two (low : 0x7F < c.val.toNat) (high : c.val.toNat ≤ 0x7FF) :
    String.utf8EncodeChar c = [UInt8.ofNat (c.val.toNat / 0x40 % 0x20 + 0xC0),
      UInt8.ofNat (c.val.toNat % 0x40 + 0x80)] := by
  simp only [String.utf8EncodeChar]
  rw [if_neg (by omega), if_pos high]

theorem encodeChar_three (low : 0x7FF < c.val.toNat) (high : c.val.toNat ≤ 0xFFFF) :
    String.utf8EncodeChar c = [UInt8.ofNat (c.val.toNat / 0x1000 % 0x10 + 0xE0),
      UInt8.ofNat (c.val.toNat / 0x40 % 0x40 + 0x80), UInt8.ofNat (c.val.toNat % 0x40 + 0x80)] := by
  simp only [String.utf8EncodeChar]
  rw [if_neg (by omega), if_neg (by omega), if_pos high]

theorem encodeChar_four (low : 0xFFFF < c.val.toNat) :
    String.utf8EncodeChar c = [UInt8.ofNat (c.val.toNat / 0x40000 % 8 + 0xF0),
      UInt8.ofNat (c.val.toNat / 0x1000 % 0x40 + 0x80),
      UInt8.ofNat (c.val.toNat / 0x40 % 0x40 + 0x80), UInt8.ofNat (c.val.toNat % 0x40 + 0x80)] := by
  simp only [String.utf8EncodeChar]
  rw [if_neg (by omega), if_neg (by omega), if_neg (by omega)]

end Rows

/-- What bytes begin with is spelled as the encoding spells it. -/
theorem Leads.spelled (leads : Leads bytes c width) :
    ∃ rest, bytes = String.utf8EncodeChar c ++ rest ∧ width = (String.utf8EncodeChar c).length := by
  cases leads with
  | @one a rest ascii =>
    have code : (Char.ofNat a.toNat).val.toNat = a.toNat := toNat_val_ofNat (by omega)
    rw [encodeChar_one _ (by omega), code, UInt8.ofNat_toNat]
    exact ⟨rest, rfl, rfl⟩
  | @two a b rest low high tail =>
    rw [isTail_iff] at tail
    have code := toNat_val_ofNat (v := (a.toNat - 0xC0) * 0x40 + (b.toNat - 0x80)) (by omega)
    rw [encodeChar_two _ (by omega) (by omega), code]
    refine ⟨rest, ?_, rfl⟩
    rw [ofNat_eq_of_toNat (b := a) (by omega), ofNat_eq_of_toNat (b := b) (by omega)]
    rfl
  | @three a b c rest low high second tail =>
    rw [isSecondOfThree_iff, isTail_iff] at second
    rw [isTail_iff] at tail
    have code := toNat_val_ofNat
      (v := (a.toNat - 0xE0) * 0x1000 + (b.toNat - 0x80) * 0x40 + (c.toNat - 0x80)) (by omega)
    rw [encodeChar_three _ (by omega) (by omega), code]
    refine ⟨rest, ?_, rfl⟩
    rw [ofNat_eq_of_toNat (b := a) (by omega), ofNat_eq_of_toNat (b := b) (by omega),
      ofNat_eq_of_toNat (b := c) (by omega)]
    rfl
  | @four a b c d rest low high second third tail =>
    rw [isSecondOfFour_iff, isTail_iff] at second
    rw [isTail_iff] at third tail
    have code := toNat_val_ofNat (v := (a.toNat - 0xF0) * 0x40000 + (b.toNat - 0x80) * 0x1000 +
          (c.toNat - 0x80) * 0x40 + (d.toNat - 0x80)) (by omega)
    rw [encodeChar_four _ (by omega), code]
    refine ⟨rest, ?_, rfl⟩
    rw [ofNat_eq_of_toNat (b := a) (by omega), ofNat_eq_of_toNat (b := b) (by omega),
      ofNat_eq_of_toNat (b := c) (by omega), ofNat_eq_of_toNat (b := d) (by omega)]
    rfl

section Encoded

variable (c : Char) (rest : List UInt8)

theorem toNat_ofNat_of_lt {n : Nat} (small : n < 0x100) : (UInt8.ofNat n).toNat = n := by
  simpa using small

theorem leads_encodeChar_one (ascii : c.val.toNat ≤ 0x7F) :
    Leads (String.utf8EncodeChar c ++ rest) c (String.utf8EncodeChar c).length := by
  have same : Char.ofNat c.val.toNat = c := Char.ofNat_toNat c
  rw [encodeChar_one c ascii]
  generalize c.val.toNat = v at ascii same ⊢
  have first : (UInt8.ofNat v).toNat = v := toNat_ofNat_of_lt (by omega)
  generalize UInt8.ofNat v = a at first ⊢
  have leads : Leads (a :: rest) _ 1 := .one (by omega)
  rwa [first, same] at leads

theorem leads_encodeChar_two (low : 0x7F < c.val.toNat) (high : c.val.toNat ≤ 0x7FF) :
    Leads (String.utf8EncodeChar c ++ rest) c (String.utf8EncodeChar c).length := by
  have same : Char.ofNat c.val.toNat = c := Char.ofNat_toNat c
  rw [encodeChar_two c low high]
  generalize c.val.toNat = v at low high same ⊢
  have first := toNat_ofNat_of_lt (n := v / 0x40 % 0x20 + 0xC0) (by omega)
  have second := toNat_ofNat_of_lt (n := v % 0x40 + 0x80) (by omega)
  generalize UInt8.ofNat (v / 0x40 % 0x20 + 0xC0) = a at first ⊢
  generalize UInt8.ofNat (v % 0x40 + 0x80) = b at second ⊢
  have leads : Leads (a :: b :: rest) _ 2 :=
    .two (by omega) (by omega) (isTail_iff.mpr (by omega))
  rwa [show (a.toNat - 0xC0) * 0x40 + (b.toNat - 0x80) = v by omega, same] at leads

theorem leads_encodeChar_three (low : 0x7FF < c.val.toNat) (high : c.val.toNat ≤ 0xFFFF) :
    Leads (String.utf8EncodeChar c ++ rest) c (String.utf8EncodeChar c).length := by
  have valid : c.val.toNat < 0xD800 ∨ 0xDFFF < c.val.toNat ∧ c.val.toNat < 0x110000 := c.valid
  have same : Char.ofNat c.val.toNat = c := Char.ofNat_toNat c
  rw [encodeChar_three c low high]
  generalize c.val.toNat = v at low high valid same ⊢
  have first := toNat_ofNat_of_lt (n := v / 0x1000 % 0x10 + 0xE0) (by omega)
  have second := toNat_ofNat_of_lt (n := v / 0x40 % 0x40 + 0x80) (by omega)
  have third := toNat_ofNat_of_lt (n := v % 0x40 + 0x80) (by omega)
  generalize UInt8.ofNat (v / 0x1000 % 0x10 + 0xE0) = a at first ⊢
  generalize UInt8.ofNat (v / 0x40 % 0x40 + 0x80) = b at second ⊢
  generalize UInt8.ofNat (v % 0x40 + 0x80) = d at third ⊢
  -- The range of the second byte leaves out the surrogates.
  have inner : isSecondOfThree a.toNat b.toNat := by
    rw [isSecondOfThree_iff, isTail_iff]
    omega
  have leads : Leads (a :: b :: d :: rest) _ 3 :=
    .three (by omega) (by omega) inner (isTail_iff.mpr (by omega))
  rwa [show (a.toNat - 0xE0) * 0x1000 + (b.toNat - 0x80) * 0x40 + (d.toNat - 0x80) = v by omega,
    same] at leads

theorem leads_encodeChar_four (low : 0xFFFF < c.val.toNat) :
    Leads (String.utf8EncodeChar c ++ rest) c (String.utf8EncodeChar c).length := by
  have valid : c.val.toNat < 0xD800 ∨ 0xDFFF < c.val.toNat ∧ c.val.toNat < 0x110000 := c.valid
  have same : Char.ofNat c.val.toNat = c := Char.ofNat_toNat c
  rw [encodeChar_four c low]
  generalize c.val.toNat = v at low valid same ⊢
  have first := toNat_ofNat_of_lt (n := v / 0x40000 % 8 + 0xF0) (by omega)
  have second := toNat_ofNat_of_lt (n := v / 0x1000 % 0x40 + 0x80) (by omega)
  have third := toNat_ofNat_of_lt (n := v / 0x40 % 0x40 + 0x80) (by omega)
  have fourth := toNat_ofNat_of_lt (n := v % 0x40 + 0x80) (by omega)
  generalize UInt8.ofNat (v / 0x40000 % 8 + 0xF0) = a at first ⊢
  generalize UInt8.ofNat (v / 0x1000 % 0x40 + 0x80) = b at second ⊢
  generalize UInt8.ofNat (v / 0x40 % 0x40 + 0x80) = d at third ⊢
  generalize UInt8.ofNat (v % 0x40 + 0x80) = e at fourth ⊢
  have inner : isSecondOfFour a.toNat b.toNat := by
    rw [isSecondOfFour_iff, isTail_iff]
    omega
  have leads : Leads (a :: b :: d :: e :: rest) _ 4 :=
    .four (by omega) (by omega) inner (isTail_iff.mpr (by omega)) (isTail_iff.mpr (by omega))
  rwa [show (a.toNat - 0xF0) * 0x40000 + (b.toNat - 0x80) * 0x1000 + (d.toNat - 0x80) * 0x40 +
    (e.toNat - 0x80) = v by omega, same] at leads

/-- The encoding of a character is a well-formed sequence, whatever follows it. -/
theorem leads_encodeChar_append :
    Leads (String.utf8EncodeChar c ++ rest) c (String.utf8EncodeChar c).length := by
  by_cases one : c.val.toNat ≤ 0x7F
  · exact leads_encodeChar_one c rest one
  by_cases two : c.val.toNat ≤ 0x7FF
  · exact leads_encodeChar_two c rest (by omega) two
  by_cases three : c.val.toNat ≤ 0xFFFF
  · exact leads_encodeChar_three c rest (by omega) three
  · exact leads_encodeChar_four c rest (by omega)

end Encoded

/-- A character is found exactly where the bytes begin with its encoding. -/
theorem leading?_eq_some_iff : leading? bytes = some (c, width) ↔
    ∃ rest, bytes = String.utf8EncodeChar c ++ rest ∧ width = (String.utf8EncodeChar c).length := by
  constructor
  · exact fun found => (leads_of_leading? found).spelled
  · rintro ⟨rest, rfl, rfl⟩
    exact (leads_encodeChar_append c rest).leading?

theorem leading?_eq_none_iff :
    leading? bytes = none ↔ ∀ c, ¬String.utf8EncodeChar c <+: bytes := by
  rw [Option.eq_none_iff_forall_ne_some]
  constructor
  · rintro nothing c ⟨rest, rfl⟩
    exact nothing _ (leading?_eq_some_iff.mpr ⟨rest, rfl, rfl⟩)
  · rintro nothing ⟨c, width⟩ found
    obtain ⟨rest, rfl, -⟩ := leading?_eq_some_iff.mp found
    exact nothing c (List.prefix_append _ _)

end Leading

section Valid

theorem decodeValidFrom_eq (skip : Nat) (bytes : List UInt8) :
    decodeValidFrom skip bytes = decodeValid (bytes.drop skip) := by
  induction bytes generalizing skip with
  | nil => cases skip <;> rfl
  | cons b rest ih =>
    cases skip with
    | zero => rfl
    | succ skip => exact ih skip

/-- A character that stands in front is kept. -/
theorem decodeValid_encodeChar_append (c : Char) (rest : List UInt8) :
    decodeValid (String.utf8EncodeChar c ++ rest) = c :: decodeValid rest := by
  have found := (leads_encodeChar_append c rest).leading?
  cases spelled : String.utf8EncodeChar c with
  | nil => exact absurd spelled String.utf8EncodeChar_ne_nil
  | cons b more =>
    rw [spelled, List.cons_append] at found
    simp only [List.cons_append, decodeValid, decodeValidFrom, found, List.length_cons,
      Nat.add_sub_cancel]
    rw [decodeValidFrom_eq, List.drop_left, decodeValid]

/-- A byte at which no character begins is dropped. -/
theorem decodeValid_cons_of_stray {b : UInt8} {rest : List UInt8}
    (stray : ∀ c, ¬String.utf8EncodeChar c <+: b :: rest) :
    decodeValid (b :: rest) = decodeValid rest := by
  simp only [decodeValid, decodeValidFrom, leading?_eq_none_iff.mpr stray]

/-- The text that is left of some bytes when every byte at which no character begins is dropped. -/
inductive Keeps : List UInt8 → List Char → Prop
  | nil : Keeps [] []
  | char (c : Char) {rest : List UInt8} {text : List Char} (later : Keeps rest text) :
      Keeps (String.utf8EncodeChar c ++ rest) (c :: text)
  | drop {b : UInt8} {rest : List UInt8} {text : List Char}
      (stray : ∀ c, ¬String.utf8EncodeChar c <+: b :: rest) (later : Keeps rest text) :
      Keeps (b :: rest) text

theorem keeps_decodeValidFrom (skip : Nat) (bytes : List UInt8) :
    Keeps (bytes.drop skip) (decodeValidFrom skip bytes) := by
  fun_induction decodeValidFrom skip bytes with
  | case1 skip =>
    rw [List.drop_nil]
    exact .nil
  | case2 skip b rest ih => exact ih
  | case3 b rest c width found ih =>
    obtain ⟨after, spelled, rfl⟩ := leading?_eq_some_iff.mp found
    cases sequence : String.utf8EncodeChar c with
    | nil => exact absurd sequence String.utf8EncodeChar_ne_nil
    | cons first more =>
      obtain ⟨rfl, rfl⟩ : b = first ∧ rest = more ++ after := by simpa [sequence] using spelled
      have left : (more ++ after).drop ((String.utf8EncodeChar c).length - 1) = after := by
        simp [sequence]
      rw [left, sequence] at ih
      rw [List.drop_zero, spelled]
      exact .char c ih
  | case4 b rest nothing ih => exact .drop (leading?_eq_none_iff.mp nothing) ih

/-- What is kept of some bytes is what they decode to. -/
theorem keeps_iff {bytes : List UInt8} {text : List Char} :
    Keeps bytes text ↔ decodeValid bytes = text := by
  constructor
  · intro keeps
    induction keeps with
    | nil => rfl
    | char c _ ih => rw [decodeValid_encodeChar_append, ih]
    | drop stray _ ih => rw [decodeValid_cons_of_stray stray, ih]
  · rintro rfl
    exact keeps_decodeValidFrom 0 bytes

@[simp] theorem encode_nil : encode [] = [] := rfl

theorem encode_cons (c : Char) (text : List Char) :
    encode (c :: text) = String.utf8EncodeChar c ++ encode text := rfl

@[simp] theorem encode_append (first second : List Char) :
    encode (first ++ second) = encode first ++ encode second :=
  List.flatMap_append

/-- What was encoded comes back. -/
theorem decodeValid_encode (text : List Char) : decodeValid (encode text) = text := by
  induction text with
  | nil => rfl
  | cons c text ih => rw [encode_cons, decodeValid_encodeChar_append, ih]

end Valid

section Decode

theorem decodeFrom?_length_append (skipped rest : List UInt8) :
    decodeFrom? skipped.length (skipped ++ rest) = decode? rest := by
  induction skipped with
  | nil => rfl
  | cons b skipped ih => exact ih

theorem decode?_encodeChar_append (c : Char) (rest : List UInt8) :
    decode? (String.utf8EncodeChar c ++ rest) = (decode? rest).map (c :: ·) := by
  have found := (leads_encodeChar_append c rest).leading?
  cases spelled : String.utf8EncodeChar c with
  | nil => exact absurd spelled String.utf8EncodeChar_ne_nil
  | cons b more =>
    rw [spelled, List.cons_append] at found
    simp only [List.cons_append, decode?, decodeFrom?, found, List.length_cons, Nat.add_sub_cancel]
    rw [decodeFrom?_length_append, decode?]

/-- The encoding of a text is refused nowhere. -/
theorem decode?_encode (text : List Char) : decode? (encode text) = some text := by
  induction text with
  | nil => rfl
  | cons c text ih => rw [encode_cons, decode?_encodeChar_append, ih, Option.map_some]

end Decode

section Ascii

/-- A byte below `80` stands for its own character only. -/
theorem eq_of_mem_encodeChar {b : UInt8} {c : Char} (member : b ∈ String.utf8EncodeChar c)
    (ascii : b.toNat < 0x80) : c.val.toNat = b.toNat := by
  by_cases one : c.val.toNat ≤ 0x7F
  · rw [encodeChar_one c one, List.mem_singleton] at member
    rw [member, UInt8.toNat_ofNat']
    omega
  -- All bytes of a longer sequence are above the limit.
  refine absurd ascii ?_
  by_cases two : c.val.toNat ≤ 0x7FF
  · rw [encodeChar_two c (by omega) two] at member
    simp only [List.mem_cons, List.not_mem_nil, or_false] at member
    rcases member with rfl | rfl <;> rw [UInt8.toNat_ofNat'] <;> omega
  by_cases three : c.val.toNat ≤ 0xFFFF
  · rw [encodeChar_three c (by omega) three] at member
    simp only [List.mem_cons, List.not_mem_nil, or_false] at member
    rcases member with rfl | rfl | rfl <;> rw [UInt8.toNat_ofNat'] <;> omega
  · rw [encodeChar_four c (by omega)] at member
    simp only [List.mem_cons, List.not_mem_nil, or_false] at member
    rcases member with rfl | rfl | rfl | rfl <;> rw [UInt8.toNat_ofNat'] <;> omega

theorem encodeChar_ofNat {b : UInt8} (ascii : b.toNat < 0x80) :
    String.utf8EncodeChar (Char.ofNat b.toNat) = [b] := by
  have code : (Char.ofNat b.toNat).val.toNat = b.toNat := toNat_val_ofNat (by omega)
  rw [encodeChar_one _ (by omega), code, UInt8.ofNat_toNat]

/-- No sequence goes on across such a byte, so where no character began none begins now. -/
theorem stray_append {a b : UInt8} {rest later : List UInt8} (ascii : b.toNat < 0x80)
    (stray : ∀ c, ¬String.utf8EncodeChar c <+: a :: rest) (c : Char) :
    ¬String.utf8EncodeChar c <+: a :: rest ++ b :: later := by
  intro starts
  by_cases short : (String.utf8EncodeChar c).length ≤ (a :: rest).length
  · exact stray c (List.prefix_of_prefix_length_le starts (List.prefix_append ..) short)
  -- A sequence that is longer than what stood there has the byte in it, and so is only that byte.
  have reaches : a :: rest ++ [b] <+: String.utf8EncodeChar c := by
    refine List.prefix_of_prefix_length_le ⟨later, by simp⟩ starts ?_
    simp only [List.length_append, List.length_singleton]
    omega
  have member : b ∈ String.utf8EncodeChar c := reaches.subset (by simp)
  have same : Char.ofNat b.toNat = c := by
    rw [← eq_of_mem_encodeChar member ascii]
    exact Char.ofNat_toNat c
  rw [← same, encodeChar_ofNat ascii] at short
  simp at short

theorem Keeps.append_cons {bytes later : List UInt8} {text more : List Char} {b : UInt8}
    (ascii : b.toNat < 0x80) (keeps : Keeps bytes text) (rest : Keeps later more) :
    Keeps (bytes ++ b :: later) (text ++ Char.ofNat b.toNat :: more) := by
  induction keeps with
  | nil =>
    have alone := Keeps.char (Char.ofNat b.toNat) rest
    rwa [encodeChar_ofNat ascii] at alone
  | char c _ ih =>
    rw [List.append_assoc]
    exact .char c ih
  | drop stray _ ih => exact .drop (stray_append ascii stray) ih

/-- Such a byte is kept, and neither side of it has to do with the other. -/
theorem decodeValid_append_cons {b : UInt8} (ascii : b.toNat < 0x80) (bytes later : List UInt8) :
    decodeValid (bytes ++ b :: later) =
      decodeValid bytes ++ Char.ofNat b.toNat :: decodeValid later :=
  keeps_iff.mp (Keeps.append_cons ascii (keeps_iff.mpr rfl) (keeps_iff.mpr rfl))

/-- A character is kept only where the bytes have all of its encoding. -/
theorem Keeps.encodeChar_subset {bytes : List UInt8} {text : List Char} (keeps : Keeps bytes text)
    {c : Char} (member : c ∈ text) : String.utf8EncodeChar c ⊆ bytes := by
  induction keeps with
  | nil => cases member
  | char d _ ih =>
    rcases List.mem_cons.mp member with rfl | later
    · exact List.subset_append_left ..
    · exact List.Subset.trans (ih later) (List.subset_append_right ..)
  | drop _ _ ih => exact List.Subset.trans (ih member) (List.subset_cons_self ..)

/-- The encoding of a text has such a byte only where the text has its character. -/
theorem mem_of_mem_encode {b : UInt8} {text : List Char} (member : b ∈ encode text)
    (ascii : b.toNat < 0x80) : Char.ofNat b.toNat ∈ text := by
  obtain ⟨c, inside, member⟩ := List.mem_flatMap.mp member
  rwa [← eq_of_mem_encodeChar member ascii, show Char.ofNat c.val.toNat = c from Char.ofNat_toNat c]

end Ascii

end Blackjack.Text
