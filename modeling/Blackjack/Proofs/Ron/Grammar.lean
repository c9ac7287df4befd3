import Blackjack.Ron.Value

/-!
# The grammar of values

How white space, names, numbers, texts and nested values are written, said without the reader that
finds their ends. `Gap` is what may stand between two tokens, `Laid` how items stand between two
brackets, and `Value` every value with the depth that its nesting takes at most: an option takes one
step, brackets one and their content another.
-/

namespace Blackjack.Ron

section Spacing

/-- A block comment from behind its opening mark through its closing mark; others may be inside. -/
inductive Comment : List Char → Prop
  | close : Comment ['*', '/']
  | nested {inner outer : List Char} (first : Comment inner) (later : Comment outer) :
      Comment ('/' :: '*' :: (inner ++ outer))
  | char {c : Char} {later : List Char} (opens : ¬['/', '*'] <+: c :: later)
      (closes : ¬['*', '/'] <+: c :: later) (comment : Comment later) : Comment (c :: later)

/-- White space and comments between two tokens. -/
inductive Gap : List Char → Prop
  | none : Gap []
  | space {c : Char} {later : List Char} (space : isSpace c = true) (gap : Gap later) :
      Gap (c :: later)
  | line {words later : List Char} (inside : '\n' ∉ words) (gap : Gap later) :
      Gap ('/' :: '/' :: (words ++ '\n' :: later))
  | block {comment later : List Char} (inside : Comment comment) (gap : Gap later) :
      Gap ('/' :: '*' :: (comment ++ later))

/-- What may stand at the end of a document, where a line comment needs no line end. -/
inductive Ending : List Char → Prop
  | gap {text : List Char} (gap : Gap text) : Ending text
  | line {text words : List Char} (gap : Gap text) (inside : '\n' ∉ words) :
      Ending (text ++ '/' :: '/' :: words)

/--
Items up to a closing bracket, with a comma between two of them and perhaps one behind the last.
-/
inductive Laid {ι : Type} (writes : ι → List Char → Prop) (closing : Char) :
    List ι → List Char → Prop
  | none {gap : List Char} (inside : Gap gap) : Laid writes closing [] (gap ++ [closing])
  | last {item : ι} {before text after : List Char} (front : Gap before)
      (written : writes item text) (back : Gap after) :
      Laid writes closing [item] (before ++ text ++ after ++ [closing])
  | next {item : ι} {items : List ι} {before text after later : List Char} (front : Gap before)
      (written : writes item text) (back : Gap after) (laid : Laid writes closing items later) :
      Laid writes closing (item :: items) (before ++ text ++ after ++ ',' :: later)

/-- A key, a colon and a value. -/
inductive Keyed (key value : List Char) : List Char → Prop
  | intro {before after : List Char} (front : Gap before) (back : Gap after) :
      Keyed key value (key ++ before ++ ':' :: (after ++ value))

end Spacing

section Names

/-- A name as it stands, or behind `r#`, where it may have points and signs. -/
inductive WritesName : List Char → List Char → Prop
  | plain {first : Char} {later : List Char} (start : Text.isIdentifierStart first = true)
      (inside : ∀ c ∈ later, Text.isIdentifierRest c = true) :
      WritesName (first :: later) (first :: later)
  | raw {name : List Char} (some_char : name ≠ []) (inside : ∀ c ∈ name, isRawNameChar c = true) :
      WritesName name ('r' :: '#' :: name)

/-- The words that name no structure, because they are values or begin one. -/
def reserved : List String := "Some" :: (valueWords ++ floatWords)

end Names

section Numbers

/-- Decimal digits, with underscores after the first. -/
def isRow : List Char → Bool
  | [] => false
  | first :: later => first.isDigit && later.all fun c => c.isDigit || c = '_'

/-- A number in digits of a base, with underscores after the first digit. -/
inductive Digits (base : Nat) : Nat → List Char → Prop
  | first {c : Char} {d : Nat} (digit : hexValue? c = some d) (small : d < base) : Digits base d [c]
  | digit {n d : Nat} {c : Char} {text : List Char} (earlier : Digits base n text)
      (digit : hexValue? c = some d) (small : d < base) : Digits base (base * n + d) (text ++ [c])
  | underscore {n : Nat} {text : List Char} (earlier : Digits base n text) :
      Digits base n (text ++ ['_'])

/-- The sign of a number, and whether it is negative. -/
inductive SignMark : Bool → List Char → Prop
  | none : SignMark false []
  | plus : SignMark false ['+']
  | minus : SignMark true ['-']

/-- What stands in front of digits to tell their base. -/
inductive BaseMark : Nat → List Char → Prop
  | decimal : BaseMark 10 []
  | hexadecimal : BaseMark 16 ['0', 'x']
  | binary : BaseMark 2 ['0', 'b']
  | octal : BaseMark 8 ['0', 'o']

/-- An integer with its sign and its type, if it names one. -/
inductive WritesInteger : Integer → List Char → Prop
  | intro {negative : Bool} {base n : Nat} {type : Option IntegerType} {sign mark digits : List Char}
      (signed : SignMark negative sign) (marked : BaseMark base mark) (row : Digits base n digits)
      (known : ∀ t ∈ type, t ∈ integerTypes) :
      WritesInteger ⟨negative, n, type⟩
        (sign ++ mark ++ digits ++ type.elim [] fun t => t.suffix.toList)

/-- Whether an integer fits the type that it names, or else the widest one of its sign. -/
def Integer.fits (number : Integer) : Bool :=
  (number.type.getD ⟨number.negative, 64⟩).holds number.negative number.magnitude

/-- Digits with at most one point among, before or behind them. -/
inductive Mantissa : List Char → Prop
  | whole {digits : List Char} (row : isRow digits = true) : Mantissa digits
  | point {digits fraction : List Char} (row : isRow digits = true)
      (behind : fraction = [] ∨ isRow fraction = true) : Mantissa (digits ++ '.' :: fraction)
  | fraction {digits : List Char} (row : isRow digits = true) : Mantissa ('.' :: digits)

/-- The exponent of a number, if it has one. -/
inductive Exponent : List Char → Prop
  | absent : Exponent []
  | present {mark : Char} {negative : Bool} {sign digits : List Char} (marked : mark = 'e' ∨ mark = 'E')
      (signed : SignMark negative sign) (inside : ∀ c ∈ digits, c.isDigit = true ∨ c = '_')
      (some_digit : ∃ c ∈ digits, c.isDigit = true) : Exponent (mark :: (sign ++ digits))

end Numbers

section Quotations

/-- An escape of one byte behind its backslash: a short one, or one of two digits. -/
inductive ByteEscape : UInt8 → List Char → Prop
  | short {b : UInt8} {c : Char} (known : shortEscape? c = some b) : ByteEscape b [c]
  | digits {n : Nat} {a b : Char} (number : hexNumber? [a, b] = some n) :
      ByteEscape (UInt8.ofNat n) ['x', a, b]

/-- An escape of a code point behind its backslash, in one to six digits. -/
inductive PointEscape : Char → List Char → Prop
  | intro {c : Char} {digits : List Char} (number : hexNumber? digits = some c.toNat)
      (some_digit : digits ≠ []) (few : digits.length ≤ 6) :
      PointEscape c ('u' :: '{' :: (digits ++ ['}']))

/-- Bytes in two digits each, all but the first with their backslash. -/
inductive ByteRow : List UInt8 → List Char → Prop
  | last {n : Nat} {a b : Char} (number : hexNumber? [a, b] = some n) :
      ByteRow [UInt8.ofNat n] ['x', a, b]
  | next {n : Nat} {a b : Char} {bytes : List UInt8} {later : List Char}
      (number : hexNumber? [a, b] = some n) (row : ByteRow bytes later) :
      ByteRow (UInt8.ofNat n :: bytes) ('x' :: a :: b :: '\\' :: later)

/-- The escapes of one character: its byte in ASCII, its code point, its bytes beyond ASCII. -/
inductive TextEscape : List Char → List Char → Prop
  | byte {b : UInt8} {text : List Char} (escape : ByteEscape b text) (ascii : b < 0x80) :
      TextEscape [Char.ofNat b.toNat] text
  | point {c : Char} {text : List Char} (escape : PointEscape c text) : TextEscape [c] text
  | bytes {c : Char} {text : List Char} (wide : 0x80 ≤ c.toNat)
      (row : ByteRow (String.utf8EncodeChar c) text) : TextEscape [c] text

/-- The escapes in bytes, whose content does not count. -/
inductive BytesEscape : List Char → List Char → Prop
  | byte {b : UInt8} {text : List Char} (escape : ByteEscape b text) : BytesEscape [] text
  | point {c : Char} {text : List Char} (escape : PointEscape c text) : BytesEscape [] text

/--
A content between quotes, with escapes, and with lines that a backslash joins to the next one up to
its first character.
-/
inductive Quoted (escapes : List Char → List Char → Prop) : List Char → List Char → Prop
  | nil : Quoted escapes [] []
  | char {c : Char} {content text : List Char} (mark : c ≠ '"') (escape : c ≠ '\\')
      (later : Quoted escapes content text) : Quoted escapes (c :: content) (c :: text)
  | escape {added spelling content text : List Char} (escape : escapes added spelling)
      (later : Quoted escapes content text) :
      Quoted escapes (added ++ content) ('\\' :: (spelling ++ text))
  | join {lineEnd : String} {spaces content text : List Char} (ends : lineEnd ∈ ["\n", "\r\n"])
      (blank : ∀ c ∈ spaces, isLineSpace c = true) (solid : ∀ c ∈ text.head?, isLineSpace c = false)
      (later : Quoted escapes content text) :
      Quoted escapes content ('\\' :: (lineEnd.toList ++ spaces ++ text))

/-- A content between quotes with as many `#` on both sides, which ends where these stand first. -/
inductive Raw : List Char → List Char → Prop
  | intro {content : List Char} {count : Nat}
      (inside : ¬('"' :: List.replicate count '#') <:+: content) :
      Raw content (List.replicate count '#' ++ '"' :: (content ++ '"' :: List.replicate count '#'))

/-- A text as a literal. -/
inductive WritesText : List Char → List Char → Prop
  | quoted {content text : List Char} (inside : Quoted TextEscape content text) :
      WritesText content ('"' :: (text ++ ['"']))
  | raw {content text : List Char} (inside : Raw content text) : WritesText content ('r' :: text)

/-- Bytes as a literal. -/
inductive Bytes : List Char → Prop
  | quoted {content text : List Char} (inside : Quoted BytesEscape content text) :
      Bytes ('b' :: '"' :: (text ++ ['"']))
  | raw {content text : List Char} (inside : Raw content text) : Bytes ('b' :: 'r' :: text)

/-- A character as a literal. -/
inductive Character : List Char → Prop
  | plain {c : Char} (escape : c ≠ '\\') : Character ['\'', c, '\'']
  | byte {b : UInt8} {text : List Char} (escape : ByteEscape b text) (ascii : b < 0x80) :
      Character ('\'' :: '\\' :: (text ++ ['\'']))
  | point {c : Char} {text : List Char} (escape : PointEscape c text) :
      Character ('\'' :: '\\' :: (text ++ ['\'']))

end Quotations

section Values

/-- Numbers of all kinds. -/
inductive Number : List Char → Prop
  | integer {number : Integer} {text : List Char} (written : WritesInteger number text)
      (fits : number.fits = true) : Number text
  | decimal {negative : Bool} {sign mantissa exponent : List Char} {type : String}
      (signed : SignMark negative sign) (digits : Mantissa mantissa) (scaled : Exponent exponent)
      (known : type ∈ ["", "f32", "f64"]) : Number (sign ++ mantissa ++ exponent ++ type.toList)
  | word {negative : Bool} {sign : List Char} {word : String} (signed : SignMark negative sign)
      (known : word ∈ floatWords) : Number (sign ++ word.toList)
  | byte {c : Char} (ascii : c.toNat < 0x80) (escape : c ≠ '\\') : Number ['b', '\'', c, '\'']
  | escapedByte {b : UInt8} {text : List Char} (escape : ByteEscape b text) :
      Number ('b' :: '\'' :: '\\' :: (text ++ ['\'']))

/-- The lower bound of a range, if it has one; a point at its end would belong to the range. -/
def Lower (text : List Char) : Prop := text = [] ∨ Number text ∧ text.getLast? ≠ some '.'

/-- Ranges of numbers. -/
inductive Range : List Char → Prop
  | short {lower upper : List Char} (low : Lower lower) (high : upper = [] ∨ Number upper) :
      Range (lower ++ '.' :: '.' :: upper)
  | through {lower upper : List Char} (low : Lower lower) (high : Number upper) :
      Range (lower ++ '.' :: '.' :: '=' :: upper)

/-- Values that hold no others. -/
inductive Literal : List Char → Prop
  | word {word : String} (known : word ∈ valueWords) : Literal word.toList
  | unit : Literal ['(', ')']
  | number {text : List Char} (number : Number text) : Literal text
  | range {text : List Char} (range : Range text) : Literal text
  | text {content text : List Char} (written : WritesText content text) : Literal text
  | bytes {text : List Char} (bytes : Bytes text) : Literal text
  | char {text : List Char} (character : Character text) : Literal text

/-- Two brackets, and what stands between them. -/
inductive Brackets : Char → Char → Content → Prop
  | tuple : Brackets '(' ')' .elements
  | record : Brackets '(' ')' .fields
  | list : Brackets '[' ']' .elements
  | map : Brackets '{' '}' .entries

/-- The name of a structure or tuple in front of its bracket, if it has one. -/
inductive Front : Char → List Char → Prop
  | none {opening : Char} : Front opening []
  | name {name text gap : List Char} (written : WritesName name text)
      (free : ∀ word ∈ reserved, text ≠ word.toList) (behind : Gap gap) : Front '(' (text ++ gap)

mutual

/-- Values whose nesting takes at most so many steps. -/
inductive Value : Nat → List Char → Prop
  | literal {depth : Nat} {text : List Char} (literal : Literal text) : Value depth text
  | name {depth : Nat} {name text : List Char} (written : WritesName name text)
      (free : ∀ word ∈ reserved, text ≠ word.toList) : Value depth text
  | option {depth : Nat} {gap value text : List Char} (behind : Gap gap) (held : Value depth value)
      (laid : Laid (· = ·) ')' [value] text) :
      Value (depth + 1) ("Some".toList ++ gap ++ '(' :: text)
  | brackets {depth : Nat} {opening closing : Char} {content : Content} {front text : List Char}
      {parts : List (List Char)} (kind : Brackets opening closing content)
      (named : Front opening front) (room : parts = [] ∨ 0 < depth)
      (each : ∀ part ∈ parts, Part (depth - 1) content part)
      (laid : Laid (· = ·) closing parts text) : Value (depth + 1) (front ++ opening :: text)

/-- What can stand between two commas. -/
inductive Part : Nat → Content → List Char → Prop
  | element {depth : Nat} {text : List Char} (value : Value depth text) : Part depth .elements text
  | entry {depth : Nat} {key value text : List Char} (front : Value depth key)
      (back : Value depth value) (keyed : Keyed key value text) : Part depth .entries text
  | field {depth : Nat} {name key value text : List Char} (front : WritesName name key)
      (back : Value depth value) (keyed : Keyed key value text) : Part depth .fields text

end

end Values

end Blackjack.Ron
