import Blackjack.Ron.Value

/-!
# Records

A document is a record with named fields, in any order and each at most once. A field that is not
known is passed over, one that is missing keeps the value it had. The name of the record may stand
in front of it; a document can ask in its header that it must, and allow more ways to write options.
The header can also name the type and the schema of the document, which changes nothing.
`writeRecord` writes each field on a line of its own, indented by the depth, with a comma behind it.
-/

namespace Blackjack.Ron

/-- What the header of a document asks for. -/
structure Header where
  /-- The name of a record must stand in front of it. -/
  explicitNames : Bool := false
  /-- How options may be written. -/
  options : OptionRules := {}
  deriving DecidableEq, Repr

/-- How the value of a field is read: into the record so far, at a depth, from the text. -/
abbrev FieldReader (α : Type) := Header → Nat → α → List Char → Option (α × List Char)

/-- A kind of record: its name, and its fields with their readers. -/
structure Schema (α : Type) where
  name : String
  fields : List (String × FieldReader α)

/-- What follows the name of a record, if it is there. -/
def recordName? (header : Header) (name : String) (text : List Char) : Option (List Char) :=
  if text.head?.any Text.isIdentifierRest then do
    let (found, rest) ← key? text
    if found = name.toList then return rest else none
  else if header.explicitNames then none
  else some text

section

variable {α : Type}

/-- The record after one field, whether a comma follows it, and the rest. -/
def readField? (schema : Schema α) (header : Header) (depth : Nat) (seen : List String) (record : α)
    (text : List Char) : Option (List String × α × Bool × List Char) := do
  let (key, rest) ← key? text
  let key := String.ofList key
  match ← skipSpace? rest with
  | ':' :: rest =>
    let rest ← skipSpace? rest
    match schema.fields.lookup key with
    | some read =>
      if key ∈ seen then none
      else do
        let (record, rest) ← read header depth record rest
        let (separated, rest) ← comma? rest
        return (key :: seen, record, separated, rest)
    | none =>
      let (separated, rest) ← comma? (← skipValue? header.options depth rest)
      return (seen, record, separated, rest)
  | _ => none

/--
The record after all fields up to the closing bracket, and what follows that. The first list is as
long as the number of fields can be.
-/
def readFields? (schema : Schema α) (header : Header) (depth : Nat) :
    List Char → List String → α → List Char → Option (α × List Char)
  | [], _, _, _ => none
  | _ :: fuel, seen, record, text => do
    match ← skipSpace? text with
    | ')' :: rest => return (record, rest)
    | text =>
      let (seen, record, separated, rest) ← readField? schema header depth seen record text
      if separated then readFields? schema header depth fuel seen record rest
      else return (record, ← token? ")" rest)

/-- A record of at most this depth, starting from the values of missing fields. -/
def readRecord? (schema : Schema α) : FieldReader α := fun header depth record text => do
  let rest ← skipSpace? (← recordName? header schema.name text)
  let rest ← token? "(" rest
  if depth < 2 then none
  else readFields? schema header (depth - 2) rest [] record rest

end

/-- The header with one more word, if the word has a meaning there. -/
def Header.enable? (header : Header) (word : String) : Option Header :=
  match word with
  | "unwrap_newtypes" => some header
  | "implicit_some" => some { header with options.bare := true }
  | "unwrap_variant_newtypes" => some { header with options.unwrapped := true }
  | "explicit_struct_names" => some { header with explicitNames := true }
  | _ => none

/-- What follows tokens that may have white space behind each. -/
def tokens? : List String → List Char → Option (List Char)
  | [], text => some text
  | token :: later, text => do tokens? later (← skipSpace? (← token? token text))

/--
The header after its words, which are separated by commas, and what follows them. The first list is
as long as the number of words can be.
-/
def headerWords? (header : Header) : List Char → List Char → Option (Header × List Char)
  | [], _ => none
  | _ :: fuel, text => do
    let (word, rest) ← key? text
    let header ← header.enable? (String.ofList word)
    let (separated, rest) ← comma? rest
    if separated ∧ rest.head?.any Text.isIdentifierStart then headerWords? header fuel rest
    else return (header, rest)

/-- What follows a part of the header that gives a text for one of its names. -/
def headerText? (text : List Char) : Option (List Char) := do
  let rest ← (word? "type" text) <|> word? "schema" text
  let rest ← tokens? ["="] (← skipSpace? rest)
  skipSpace? (← skipString? rest)

/-- The header after the part that starts behind its bracket, and what follows that part. -/
def headerPart? (header : Header) (text : List Char) : Option (Header × List Char) :=
  match headerText? text with
  | some rest => return (header, ← token? "]" rest)
  | none => do
    let rest ← tokens? ["enable", "("] text
    let (header, rest) ← headerWords? header rest rest
    return (header, ← tokens? [")", "]"] (← skipSpace? rest))

/--
The header of a document, which may have several parts, and what follows it. The first list is as
long as the number of parts can be.
-/
def header? (header : Header) : List Char → List Char → Option (Header × List Char)
  | [], _ => none
  | _ :: fuel, text => do
    match ← skipSpace? text with
    | '#' :: rest =>
      let (header, rest) ← headerPart? header (← tokens? ["#", "!", "["] ('#' :: rest))
      header? header fuel rest
    | rest => return (header, rest)

/-- The record of a whole document. -/
def readDocument? {α : Type} (schema : Schema α) (missing : α) (text : List Char) : Option α := do
  let (header, rest) ← header? {} text text
  let (record, rest) ← readRecord? schema header depthLimit missing rest
  if (← skipSpace? rest) = [] then return record else none

/-- The white space in front of a line at a depth. -/
def indent (depth : Nat) : List Char := List.replicate (4 * depth) ' '

/-- A field on a line of its own. -/
def writeField (depth : Nat) (name : String) (value : List Char) : List Char :=
  indent depth ++ name.toList ++ ": ".toList ++ value ++ ",\n".toList

/-- A record whose fields stand one step deeper than itself. -/
def writeRecord (depth : Nat) (fields : List (String × List Char)) : List Char :=
  "(\n".toList ++ fields.flatMap (fun (name, value) => writeField (depth + 1) name value) ++
    indent depth ++ [')']

end Blackjack.Ron
