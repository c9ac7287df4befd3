import Blackjack.Proofs.Ron.Filling
import Mathlib.Data.List.Forall2

/-!
# What is written

The literals of `quote`, the digits of a number and the records of `writeRecord` belong to the
grammar, whatever the text, the number or the indentation is. A record that `Holds` a value has
fields that fit and that fill all of the value, so as a document it is read as this value
(`Form.Describes.readDocument?_of_holds`).
-/

namespace Blackjack.Ron

section Numbers

theorem hexValue?_digitChar {d : Nat} (small : d < 16) : hexValue? d.digitChar = some d := by
  have all : ∀ d < 16, hexValue? d.digitChar = some d := by decide
  exact all d small

/-- The digits of a number in a base have its value there. -/
theorem digits_toDigits {base : Nat} (many : 1 < base) (few : base ≤ 16) (n : Nat) :
    Digits base n (Nat.toDigits base n) := by
  induction n using Nat.strongRecOn with
  | ind n ih =>
    rw [Nat.toDigits_eq_if many]
    split
    · next small => exact .first (hexValue?_digitChar (Nat.lt_of_lt_of_le small few)) small
    · have small : n % base < base := Nat.mod_lt _ (by omega)
      have earlier := ih (n / base) (Nat.div_lt_self (by omega) many)
      have whole := earlier.digit (hexValue?_digitChar (Nat.lt_of_lt_of_le small few)) small
      rwa [Nat.div_add_mod] at whole

/-- A number with neither a sign nor a type. -/
def Integer.natural (n : Nat) : Integer := ⟨false, n, none⟩

theorem writesInteger_toDigits (n : Nat) : WritesInteger (.natural n) (Nat.toDigits 10 n) := by
  have digits := digits_toDigits (by decide : 1 < 10) (by decide) n
  have typed : ∀ t ∈ (none : Option IntegerType), t ∈ integerTypes := nofun
  have written := WritesInteger.intro .none .decimal digits typed
  rwa [Option.elim_none, List.append_nil] at written

theorem Integer.fitsIn_natural {n bits : Nat} (small : n < 2 ^ bits) :
    (Integer.natural n).FitsIn bits :=
  ⟨Int.natCast_nonneg n, Int.ofNat_lt.mpr small, nofun⟩

end Numbers

section Texts

variable {c : Char} {content text : List Char}

theorem hexNumber?_hexDigits (n : Nat) : hexNumber? (hexDigits n) = some n := by
  unfold hexDigits
  induction n using Nat.strongRecOn with
  | ind n ih =>
    rw [Nat.toDigits_eq_if (by decide)]
    split
    · next small => simp [hexNumber?, hexValue?_digitChar small]
    · rw [hexNumber?_concat, ih (n / 16) (Nat.div_lt_self (by omega) (by decide)),
        hexValue?_digitChar (Nat.mod_lt n (by decide)), Option.bind_some, Option.bind_some,
        Nat.div_add_mod]

/-- The code point of a character takes at most six digits. -/
theorem pointEscape_hexDigits (c : Char) :
    PointEscape c ('u' :: '{' :: (hexDigits c.toNat ++ ['}'])) := by
  have valid : c.toNat < 0xD800 ∨ (0xDFFF < c.toNat ∧ c.toNat < 0x110000) := c.valid
  have code : c.toNat < 16 ^ 6 := by omega
  exact .intro (hexNumber?_hexDigits c.toNat) Nat.toDigits_ne_nil
    ((Nat.length_toDigits_le_iff (by decide) (by decide)).mpr code)

theorem Quoted.short {mark : Char}
    (known : ((shortEscape? mark).any fun b => b < 0x80 && Char.ofNat b.toNat = c) = true)
    (later : Quoted TextEscape content text) :
    Quoted TextEscape (c :: content) ('\\' :: mark :: text) := by
  cases found : shortEscape? mark with
  | none => simp [found] at known
  | some b =>
    rw [found, Option.any_some, Bool.and_eq_true, decide_eq_true_eq, decide_eq_true_eq] at known
    obtain ⟨ascii, rfl⟩ := known
    exact .escape (.byte (.short found) ascii) later

theorem Quoted.escapeChar_append (later : Quoted TextEscape content text) :
    Quoted TextEscape (c :: content) (escapeChar c ++ text) := by
  unfold escapeChar
  split
  case h_8 _ _ _ _ mark _ escape =>
    split
    · exact .char mark escape later
    · exact .escape (.point (pointEscape_hexDigits c)) later
  all_goals exact later.short rfl

/-- A text is written as a literal of the grammar. -/
theorem writesText_quote (text : List Char) : WritesText text (quote text) := by
  have inside : Quoted TextEscape text (text.flatMap escapeChar) := by
    induction text with
    | nil => exact .nil
    | cons c text ih => exact ih.escapeChar_append
  exact .quoted inside

end Texts

section Records

variable {ι α : Type} {form : Form ι α} {schema : Schema α} {missing value : α} {depth : Nat}
  {fields : List ι} {items : List (Item ι)} {parts : List (String × List Char)} {text : List Char}

theorem gap_indent (step : Nat) : Gap (indent step) := by
  unfold indent
  induction 4 * step with
  | zero => exact .none
  | succ n ih => exact .space rfl ih

/-- The names of the fields are written as they are. -/
def Form.Named (form : Form ι α) : Prop :=
  ∀ field, WritesName (form.name field).toList (form.name field).toList

/-- The fields with their names and with their values as they are written. -/
def Form.WritesFields (form : Form ι α) (depth : Nat) : List ι → List (String × List Char) → Prop :=
  List.Forall₂ fun field part => part.1 = form.name field ∧ form.writes depth field part.2

/-- Fields on lines of their own, with the line end in front of them and the bracket behind. -/
theorem Form.WritesFields.laid (written : form.WritesFields depth fields parts)
    (named : form.Named) (step : Nat) :
    Laid (form.WritesItem depth) ')' (fields.map .known)
      ('\n' :: (parts.flatMap (fun (name, value) => writeField (step + 1) name value) ++
        indent step ++ [')'])) := by
  induction written with
  | nil => exact .none (.space rfl (gap_indent step))
  | @cons field part fields parts same _ ih =>
    obtain ⟨name, value⟩ := part
    obtain ⟨rfl, writes⟩ := same
    have item : form.WritesItem depth (.known field)
        ((form.name field).toList ++ [] ++ ':' :: ([' '] ++ value)) :=
      .known (named field) writes (.intro .none (.space rfl .none))
    have front : Gap ('\n' :: indent (step + 1)) := .space rfl (gap_indent _)
    simpa [writeField] using Laid.next front item .none ih

/-- A record that is written with all of a value in it, if the missing fields have theirs. -/
structure Form.Holds (form : Form ι α) (missing value : α) (depth : Nat) (items : List (Item ι))
    (text : List Char) : Prop where
  written : form.WritesRecord depth items text
  proper : form.Proper (knownFields items)
  filled : form.fill missing (knownFields items) = value

theorem knownFields_map_known (fields : List ι) : knownFields (fields.map .known) = fields := by
  induction fields with
  | nil => rfl
  | cons field fields ih => rw [List.map_cons, knownFields_known, ih]

theorem Form.holds_writeRecord (named : form.Named) (written : form.WritesFields depth fields parts)
    (proper : form.Proper fields) (filled : form.fill missing fields = value) (step : Nat) :
    form.Holds missing value (depth + 2) (fields.map .known) (writeRecord step parts) where
  written := by simpa [writeRecord] using Form.WritesRecord.intro .none (written.laid named step)
  proper := by rwa [knownFields_map_known]
  filled := by rwa [knownFields_map_known]

/-- A document that is one record is read as the value in it. -/
theorem Form.Describes.readDocument?_of_holds (describes : form.Describes schema)
    (holds : form.Holds missing value depthLimit items text) :
    readDocument? schema missing text = some value := by
  have whole : form.WritesDocument items ([] ++ (text ++ [])) :=
    .intro .none holds.written (.gap .none)
  rw [List.nil_append, List.append_nil] at whole
  exact (describes.readDocument?_iff whole missing value).mpr ⟨holds.proper, holds.filled.symm⟩

end Records

end Blackjack.Ron
