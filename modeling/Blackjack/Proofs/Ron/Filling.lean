import Blackjack.Proofs.Ron.Skipping
import Blackjack.Ron.Record

/-!
# Records filled from a document

`Form` says how a kind of record is written and what its fields mean, without a reader. A document
of it may have its fields in any order, with others between them. Where a schema reads the fields of
a form (`Form.Describes`), it reads a record or a whole document just when no field stands twice and
every value fits, and then with these values (`Form.Describes.readDocument?_iff`). A form describes
the records inside of others in the same way, so sections need no theorem of their own.
-/

namespace Blackjack.Ron

section Forms

/-- What stands between two commas of a record: a field that is asked for, or another one. -/
inductive Item (ι : Type) where
  | known (field : ι)
  | unknown
  deriving DecidableEq, Repr

/-- The fields that are asked for, in their order. -/
def knownFields {ι : Type} (items : List (Item ι)) : List ι :=
  items.filterMap fun
    | .known field => some field
    | .unknown => none

section

variable {ι : Type} (items : List (Item ι))

@[simp]
theorem knownFields_nil : knownFields ([] : List (Item ι)) = [] := rfl

@[simp]
theorem knownFields_known (field : ι) :
    knownFields (.known field :: items) = field :: knownFields items := rfl

@[simp]
theorem knownFields_unknown : knownFields (.unknown :: items) = knownFields items := rfl

end

/-- A kind of record as it is written, and what its fields mean. -/
structure Form (ι α : Type) where
  /-- The name that may stand in front of the record. -/
  title : String
  name : ι → String
  /-- How the value of a field is written where so much depth is left. -/
  writes : Nat → ι → List Char → Prop
  /-- Whether the value of a field is one that the record can have. -/
  fits : ι → Prop
  set : α → ι → α

namespace Form

variable {ι α : Type} (form : Form ι α)

/-- An item with its name and its value; what is not asked for can have any value. -/
inductive WritesItem (depth : Nat) : Item ι → List Char → Prop
  | known {field : ι} {key value text : List Char} (front : WritesName (form.name field).toList key)
      (back : form.writes depth field value) (keyed : Keyed key value text) :
      WritesItem depth (.known field) text
  | unknown {name : String} {key value text : List Char} (other : ∀ field, form.name field ≠ name)
      (front : WritesName name.toList key) (back : Value depth value) (keyed : Keyed key value text) :
      WritesItem depth .unknown text

/-- The name of the record with a gap behind it, or nothing. -/
inductive Titled (title : String) : List Char → Prop
  | none : Titled title []
  | name {text gap : List Char} (written : WritesName title.toList text) (behind : Gap gap) :
      Titled title (text ++ gap)

/-- Items between the brackets of a record, which takes two steps of the depth. -/
inductive WritesRecord : Nat → List (Item ι) → List Char → Prop
  | intro {depth : Nat} {items : List (Item ι)} {front text : List Char}
      (titled : Titled form.title front) (laid : Laid (form.WritesItem depth) ')' items text) :
      WritesRecord (depth + 2) items (front ++ '(' :: text)

/-- A record with nothing around it but white space and comments. -/
inductive WritesDocument (items : List (Item ι)) : List Char → Prop
  | intro {gap record ending : List Char} (before : Gap gap)
      (written : form.WritesRecord depthLimit items record) (after : Ending ending) :
      WritesDocument items (gap ++ (record ++ ending))

/-- Every field stands at most once, and every value is one that its field can have. -/
def Proper (fields : List ι) : Prop :=
  (fields.map form.name).Nodup ∧ ∀ field ∈ fields, form.fits field

/-- The record with the values of the fields. -/
def fill (record : α) (fields : List ι) : α := fields.foldl form.set record

/-- The schema reads the fields of the form and no others. -/
structure Describes (schema : Schema α) : Prop where
  title : schema.name = form.title
  starts : ∀ {depth field text}, form.writes depth field text → Starts text
  reads : ∀ field, ∃ read, schema.fields.lookup (form.name field) = some read ∧
    ∀ {depth text} record rest result, form.writes depth field text → EndsPart rest →
      (read {} depth record (text ++ rest) = some result ↔
        form.fits field ∧ result = (form.set record field, rest))
  only : ∀ name ∈ schema.fields.map Prod.fst, ∃ field, form.name field = name

end Form

end Forms

section Fields

variable {ι α : Type} {form : Form ι α} {schema : Schema α} {depth : Nat} {items : List (Item ι)}
  {item : Item ι} {seen : List String} {record : α} {text rest : List Char}

theorem Form.WritesItem.starts (written : form.WritesItem depth item text) : Starts text := by
  cases written with
  | known front _ keyed | unknown _ front _ keyed =>
    cases keyed with
    | intro => exact (front.starts.append _).append _

/-- The names that are seen after an item. -/
def Form.seenAfter (form : Form ι α) (seen : List String) : Item ι → List String
  | .known field => form.name field :: seen
  | .unknown => seen

/-- An item that does not repeat a name and has a value that fits. -/
def Form.Accepts (form : Form ι α) (seen : List String) : Item ι → Prop
  | .known field => form.name field ∉ seen ∧ form.fits field
  | .unknown => True

/-- Behind the name of a field its value is read, or passed over if the name is not asked for. -/
theorem readField?_keyed {name : String} {key value : List Char} (front : WritesName name.toList key)
    (keyed : Keyed key value text) (starts : Starts value) (rest : List Char) :
    readField? schema {} depth seen record (text ++ rest) =
      match schema.fields.lookup name with
      | some read =>
        if name ∈ seen then none
        else (read {} depth record (value ++ rest)).bind fun (record, rest) =>
          (comma? rest).map fun (separated, rest) => (name :: seen, record, separated, rest)
      | none =>
        ((skipValue? {} depth (value ++ rest)).bind comma?).map fun (separated, rest) =>
          (seen, record, separated, rest) := by
  cases keyed with
  | @intro before after first second =>
  have stops := first.stops (c := ':') (by decide) (after ++ (value ++ rest))
  have colon : skipSpace? (before ++ ':' :: (after ++ (value ++ rest))) =
      some (':' :: (after ++ (value ++ rest))) := by
    rw [first.skipSpace?_append, skipSpace?_of_solid (by decide) (by decide)]
  have begins : skipSpace? (after ++ (value ++ rest)) = some (value ++ rest) := by
    rw [second.skipSpace?_append, starts.skipSpace?]
  simp only [readField?, List.append_assoc, List.cons_append, front.key?_append stops.endsName,
    Option.bind_eq_bind, Option.bind_some, colon, begins, String.ofList_toList]
  cases schema.fields.lookup name with
  | none =>
    simp only [Option.map_bind]
    refine congrArg _ (funext fun left => ?_)
    simp only [Function.comp_apply]
    cases comma? left <;> rfl
  | some read =>
    dsimp only
    split
    · rfl
    refine congrArg _ (funext fun found => ?_)
    cases comma? found.2 <;> rfl

theorem Form.Describes.lookup_eq_none (describes : form.Describes schema) {name : String}
    (other : ∀ field, form.name field ≠ name) : schema.fields.lookup name = none := by
  rw [List.lookup_eq_none_iff]
  intro entry member
  obtain ⟨field, named⟩ := describes.only entry.1 (List.mem_map_of_mem member)
  rw [bne_iff_ne, ← named]
  exact (other field).symm

/-- One item is read if it is accepted, and then it does what it means. -/
theorem Form.Describes.readField?_append (describes : form.Describes schema)
    (written : form.WritesItem depth item text) (ends : EndsPart rest) {separated : Bool}
    {left : List Char} (comma : comma? rest = some (separated, left)) (seen : List String) (record : α)
    (result : List String × α × Bool × List Char) :
    readField? schema {} depth seen record (text ++ rest) = some result ↔
      form.Accepts seen item ∧
        result = (form.seenAfter seen item, form.fill record (knownFields [item]), separated, left) := by
  cases written with
  | @known field key value text front back keyed =>
    obtain ⟨read, known, reads⟩ := describes.reads field
    rw [readField?_keyed front keyed (describes.starts back), known]
    dsimp only
    have meaning := fun result => reads record rest result back ends
    by_cases repeated : form.name field ∈ seen
    · simp [Form.Accepts, repeated]
    · rw [if_neg repeated, Option.bind_eq_some_iff]
      constructor
      · rintro ⟨⟨next, rest⟩, found, same⟩
        obtain ⟨fits, equal⟩ := (meaning _).mp found
        obtain ⟨rfl, rfl⟩ := Prod.mk.inj equal
        rw [comma, Option.map_some, Option.some.injEq] at same
        exact ⟨⟨repeated, fits⟩, same.symm⟩
      · rintro ⟨⟨-, fits⟩, rfl⟩
        refine ⟨_, (meaning _).mpr ⟨fits, rfl⟩, ?_⟩
        rw [comma]
        rfl
  | @unknown name key value text other front back keyed =>
    obtain ⟨solid, follows, stops, -⟩ := ends.exists_solid
    obtain ⟨last, passed, same⟩ := back.passes rest solid follows stops
    rw [readField?_keyed front keyed back.starts, describes.lookup_eq_none other, passed,
      Option.bind_some, comma?_congr (same.trans follows.symm), comma]
    simp [Form.Accepts, Form.seenAfter, Form.fill, eq_comm]

/-- No field has a name that was seen. -/
def Form.Fresh (form : Form ι α) (seen : List String) (fields : List ι) : Prop :=
  ∀ field ∈ fields, form.name field ∉ seen

theorem Form.accepts_and_iff (form : Form ι α) (seen : List String) (item : Item ι)
    (items : List (Item ι)) :
    form.Accepts seen item ∧ form.Fresh (form.seenAfter seen item) (knownFields items) ∧
        form.Proper (knownFields items) ↔
      form.Fresh seen (knownFields (item :: items)) ∧ form.Proper (knownFields (item :: items)) := by
  cases item with
  | unknown => simp [Form.Accepts, Form.seenAfter]
  | known field =>
    simp only [Form.Accepts, Form.Fresh, Form.Proper, Form.seenAfter, knownFields_known, List.map_cons,
      List.nodup_cons, List.mem_map, List.mem_cons, forall_eq_or_imp, not_or, not_exists, not_and]
    constructor
    · rintro ⟨⟨new, fits⟩, fresh, nodup, all⟩
      exact ⟨⟨new, fun other member => (fresh other member).2⟩,
        ⟨fun other member => (fresh other member).1, nodup⟩, fits, all⟩
    · rintro ⟨⟨new, fresh⟩, ⟨other, nodup⟩, fits, all⟩
      exact ⟨⟨new, fits⟩, fun field member => ⟨other field member, fresh field member⟩, nodup, all⟩

theorem Form.fill_cons (form : Form ι α) (record : α) (item : Item ι) (items : List (Item ι)) :
    form.fill record (knownFields (item :: items)) =
      form.fill (form.fill record (knownFields [item])) (knownFields items) := by
  cases item <;> rfl

/-- Before anything but the closing bracket one more field is read. -/
theorem readFields?_cons {begin fuel later : List Char} {c d : Char} (solid : isBoundary c = false)
    (begins : skipSpace? begin = some (c :: later)) :
    readFields? schema {} depth (d :: fuel) seen record begin =
      (readField? schema {} depth seen record (c :: later)).bind fun read =>
        if read.2.2.1 then readFields? schema {} depth fuel read.1 read.2.1 read.2.2.2
        else (token? ")" read.2.2.2).map fun rest => (read.2.1, rest) := by
  have other : c ≠ ')' := by
    rintro rfl
    cases solid
  simp only [readFields?, begins, Option.bind_eq_bind, Option.bind_some]
  split
  next same =>
    obtain ⟨rfl, -⟩ := List.cons.inj same
    exact absurd rfl other
  next =>
    refine congrArg _ (funext fun read => ?_)
    obtain ⟨seen, record, separated, rest⟩ := read
    dsimp only
    split
    · rfl
    · cases token? ")" rest <;> rfl

/-- Items are read up to the closing bracket, if they are accepted one after another. -/
theorem Form.Describes.readFields?_append (describes : form.Describes schema)
    (laid : Laid (form.WritesItem depth) ')' items text) (seen : List String) (record : α)
    (result : α × List Char) {fuel begin : List Char}
    (enough : items.length < fuel.length) (begins : skipSpace? begin = skipSpace? (text ++ rest)) :
    readFields? schema {} depth fuel seen record begin = some result ↔
      (form.Fresh seen (knownFields items) ∧ form.Proper (knownFields items)) ∧
        result = (form.fill record (knownFields items), rest) := by
  have closed : token? ")" (')' :: rest) = some rest := rfl
  induction laid generalizing fuel seen record begin with
  | none inside =>
    obtain ⟨_, fuel, rfl⟩ := List.exists_cons_of_length_pos (Nat.zero_lt_of_lt enough)
    rw [List.append_assoc, inside.skipSpace?_append, List.singleton_append,
      skipSpace?_bracket (by simp)] at begins
    simp only [readFields?, begins, @eq_comm _ result]
    simp [Form.Fresh, Form.Proper, Form.fill]
  | @last item before text after front written back =>
    obtain ⟨_, fuel, rfl⟩ := List.exists_cons_of_length_pos (Nat.zero_lt_of_lt enough)
    have comma : comma? (after ++ ')' :: rest) = some (false, ')' :: rest) :=
      back.comma?_append_bracket (by simp) rest
    have read := describes.readField?_append written (back.endsPart (by simp) rest) comma seen record
    have accepted := form.accepts_and_iff seen item []
    simp only [List.append_assoc, front.skipSpace?_append, written.starts.skipSpace?] at begins
    obtain ⟨c, later, rfl, solid⟩ := written.starts
    simp only [List.cons_append, List.nil_append] at begins read
    rw [readFields?_cons solid begins, Option.bind_eq_some_iff, ← accepted]
    simp only [read, and_assoc, exists_and_left, exists_eq_left, Bool.false_eq_true, if_false, closed,
      Option.map_some, Option.some.injEq, @eq_comm _ result]
    simp [Form.Fresh, Form.Proper]
  | @next item items before text after later front written back laid ih =>
    obtain ⟨_, fuel, rfl⟩ := List.exists_cons_of_length_pos (Nat.zero_lt_of_lt enough)
    obtain ⟨solid, follows⟩ := laid.exists_skipSpace? (by simp)
      (fun item _ text written => Form.WritesItem.starts written) rest
    have comma := back.comma?_append follows
    have read := describes.readField?_append written (back.endsPart (by simp) (later ++ rest)) comma
      seen record
    have accepted := form.accepts_and_iff seen item items
    have later_read := fun seen record => ih seen record (Nat.lt_of_succ_lt_succ enough)
      ((skipSpace?_of_skipFrom? follows).trans follows.symm)
    simp only [List.append_assoc, front.skipSpace?_append, written.starts.skipSpace?] at begins
    obtain ⟨c, later, rfl, plain⟩ := written.starts
    simp only [List.cons_append] at begins read
    rw [readFields?_cons plain begins, Option.bind_eq_some_iff, ← accepted, form.fill_cons]
    simp only [read, and_assoc, exists_and_left, exists_eq_left, if_true, later_read]

/-- Behind the name of a record, or where there is none, stands its bracket. -/
theorem Form.Titled.recordName?_append {title : String} {front : List Char} (titled : Titled title front)
    (later : List Char) : ∃ left, recordName? {} title (front ++ '(' :: later) = some left ∧
      skipSpace? left = some ('(' :: later) := by
  have bracket := skipSpace?_of_solid (c := '(') (by decide) (by decide) later
  cases titled with
  | none =>
    have unnamed : Text.isIdentifierRest '(' = false := by decide
    exact ⟨_, by simp [recordName?, unnamed], bracket⟩
  | @name text gap written behind =>
    have read := written.key?_append (behind.endsName later)
    obtain ⟨c, more, rfl, start⟩ := written.exists_first
    have letter := isIdentifierRest_of_start start
    refine ⟨gap ++ '(' :: later, ?_, behind.skipSpace?_bracket later⟩
    rw [List.append_assoc]
    rw [List.cons_append] at read ⊢
    simp [recordName?, letter, read]

/-- A record is read if its fields are proper, and then it has their values. -/
theorem Form.Describes.readRecord?_append (describes : form.Describes schema)
    (written : form.WritesRecord depth items text) (record : α) (rest : List Char)
    (result : α × List Char) :
    readRecord? schema {} depth record (text ++ rest) = some result ↔
      form.Proper (knownFields items) ∧ result = (form.fill record (knownFields items), rest) := by
  cases written with
  | @intro depth items front inner titled laid =>
  obtain ⟨left, named, bracket⟩ := titled.recordName?_append (inner ++ rest)
  have opened : token? "(" ('(' :: (inner ++ rest)) = some (inner ++ rest) := rfl
  have enough : items.length < (inner ++ rest).length := by
    have fewer := laid.length_lt fun item _ text written => Form.WritesItem.starts written
    rw [List.length_append]
    omega
  have begins : skipSpace? (inner ++ rest) = skipSpace? (inner ++ rest) := rfl
  have read := fun result => describes.readFields?_append laid [] record result enough begins
  simp only [readRecord?, describes.title, List.append_assoc, List.cons_append, named, bracket, opened,
    Option.bind_eq_bind, Option.bind_some]
  rw [if_neg (by omega), Nat.add_sub_cancel, read]
  simp [Form.Fresh]

theorem Form.WritesRecord.starts (written : form.WritesRecord depth items text) :
    Starts text ∧ text.head? ≠ some '#' := by
  cases written with
  | intro titled laid =>
  cases titled with
  | none => exact ⟨starts_of_first (by decide) _, nofun⟩
  | name written behind =>
    refine ⟨(written.starts.append _).append _, ?_⟩
    obtain ⟨c, more, rfl, start⟩ := written.exists_first
    intro head
    obtain rfl := Option.some.inj head
    cases start

/-- A document is read if its fields are proper, and then it has their values. -/
theorem Form.Describes.readDocument?_iff (describes : form.Describes schema)
    (written : form.WritesDocument items text) (missing result : α) :
    readDocument? schema missing text = some result ↔
      form.Proper (knownFields items) ∧ result = form.fill missing (knownFields items) := by
  cases written with
  | @intro gap record ending before inside after =>
  obtain ⟨starts, sign⟩ := inside.starts
  have begins : skipSpace? (gap ++ (record ++ ending)) = some (record ++ ending) := by
    rw [before.skipSpace?_append, starts.skipSpace?]
  have plain : header? {} (gap ++ (record ++ ending)) (gap ++ (record ++ ending)) =
      some ({}, record ++ ending) := by
    obtain ⟨c, later, rfl, -⟩ := starts
    obtain ⟨d, fuel, nonempty⟩ : ∃ d fuel, gap ++ (c :: later ++ ending) = d :: fuel :=
      List.exists_cons_of_ne_nil (by simp)
    rw [nonempty] at begins ⊢
    simp only [header?, begins, List.cons_append, Option.bind_eq_bind, Option.bind_some]
    split
    next same =>
      obtain ⟨rfl, -⟩ := List.cons.inj same
      exact absurd rfl sign
    next => rfl
  have read := fun result => describes.readRecord?_append inside missing ending result
  simp only [readDocument?, plain, Option.bind_eq_bind, Option.bind_some, Option.bind_eq_some_iff,
    read, and_assoc, exists_and_left, exists_eq_left, after.skipSpace?]
  simp [@eq_comm _ result]

end Fields

end Blackjack.Ron
