import Labyrinth.Json.Reading.Basic
import Labyrinth.Json.Text

/-!
# Well-formed texts

What is well-formed JSON is said here by its grammar, without a reader: how numerals, strings and values
are spelled (`SpellsNumeral`, `SpellsString`, `Spells`), with blanks wherever they may stand. A text that
holds a value is that value with blanks around it (`Holds`). Nothing bounds the size of a numeral or the
depth of the nesting, and a string may have half a surrogate pair in it, which spells no characters.
-/

namespace Labyrinth.Json

/-! ### Numerals -/

/-- One decimal digit or more. -/
structure Digits (text : List Char) : Prop where
  nonempty : text ≠ []
  each : ∀ c ∈ text, c.isDigit = true

/-- The digits before the point: a zero alone, or digits that do not start with one. -/
def WholeDigits (text : List Char) : Prop := text = ['0'] ∨ Digits text ∧ text.head? ≠ some '0'

/-- The digits after the point, and how they are written; without digits there is no point. -/
inductive SpellsFraction : List Char → List Char → Prop where
  | none : SpellsFraction [] []
  | point {digits : List Char} (each : Digits digits) : SpellsFraction digits ('.' :: digits)

/-- The sign of an exponent, and whether it is negative. -/
inductive SpellsSign : Bool → List Char → Prop where
  | none : SpellsSign false []
  | plus : SpellsSign false ['+']
  | minus : SpellsSign true ['-']

/-- An exponent and how it is written, if there is one. -/
inductive SpellsExponent : Option Exponent → List Char → Prop where
  | none : SpellsExponent none []
  | power {letter : Char} {negative : Bool} {sign digits : List Char} (letter_e : letter ∈ ['e', 'E'])
      (signed : SpellsSign negative sign) (each : Digits digits) :
      SpellsExponent (some ⟨negative, digits⟩) (letter :: (sign ++ digits))

/-- A numeral and its text: a minus sign or none, the digits before the point, those after it, and the
    exponent. -/
inductive SpellsNumeral : Numeral → List Char → Prop where
  | parts {negative : Bool} {digits fraction point power : List Char} {exponent : Option Exponent}
      (whole : WholeDigits digits) (after : SpellsFraction fraction point)
      (scale : SpellsExponent exponent power) :
      SpellsNumeral ⟨negative, digits, fraction, exponent⟩
        (Numeral.sign negative ++ (digits ++ (point ++ power)))

/-! ### Strings -/

/-- The letters that stand for a character after a backslash. -/
def escapes : List (Char × Char) :=
  [('"', '"'), ('\\', '\\'), ('/', '/'), ('b', '\x08'), ('f', '\x0c'), ('n', '\n'), ('r', '\r'),
    ('t', '\t')]

/-- A character of a string, as it stands or after a backslash, or a code unit of four digits. -/
inductive SpellsPiece : Piece → List Char → Prop where
  | plain {c : Char} (printable : 32 ≤ c.toNat) (no_quote : c ≠ '"') (no_backslash : c ≠ '\\') :
      SpellsPiece (.char c) [c]
  | escape {letter c : Char} (known : (letter, c) ∈ escapes) : SpellsPiece (.char c) ['\\', letter]
  | unit {a b c d : Char} {n : Nat} (digits : codeUnit? a b c d = some n) :
      SpellsPiece (.unit n) ['\\', 'u', a, b, c, d]

/-- The pieces of a string, one written after the other. -/
inductive SpellsPieces : List Piece → List Char → Prop where
  | nil : SpellsPieces [] []
  | cons {piece : Piece} {text : List Char} {pieces : List Piece} {rest : List Char}
      (first : SpellsPiece piece text) (later : SpellsPieces pieces rest) :
      SpellsPieces (piece :: pieces) (text ++ rest)

/-- The characters that pieces stand for. A code unit is a character unless it is half of a surrogate
    pair; the two halves of a pair are one character. -/
inductive Joins : List Piece → List Char → Prop where
  | nil : Joins [] []
  | char {c : Char} {pieces : List Piece} {cs : List Char} (later : Joins pieces cs) :
      Joins (.char c :: pieces) (c :: cs)
  | single {n : Nat} {pieces : List Piece} {cs : List Char} (no_half : n < 0xd800 ∨ 0xe000 ≤ n)
      (later : Joins pieces cs) : Joins (.unit n :: pieces) (Char.ofNat n :: cs)
  | pair {n m : Nat} {pieces : List Piece} {cs : List Char} (leading : 0xd800 ≤ n ∧ n < 0xdc00)
      (trailing : 0xdc00 ≤ m ∧ m < 0xe000) (later : Joins pieces cs) :
      Joins (.unit n :: .unit m :: pieces)
        (Char.ofNat (0x10000 + (n - 0xd800) * 0x400 + (m - 0xdc00)) :: cs)

/-- A string between its quotes. It spells no characters if half of a surrogate pair is alone. -/
inductive SpellsString : Option String → List Char → Prop where
  | joined {pieces : List Piece} {text cs : List Char} (written : SpellsPieces pieces text)
      (joins : Joins pieces cs) : SpellsString (some (String.ofList cs)) ('"' :: (text ++ ['"']))
  | torn {pieces : List Piece} {text : List Char} (written : SpellsPieces pieces text)
      (alone : ∀ cs, ¬Joins pieces cs) : SpellsString none ('"' :: (text ++ ['"']))

/-! ### Values -/

/-- Any number of the four characters that may stand between tokens. -/
def Blanks (text : List Char) : Prop := ∀ c ∈ text, c ∈ [' ', '\t', '\n', '\r']

instance (text : List Char) : Decidable (Blanks text) :=
  List.decidableBAll (fun c => c ∈ [' ', '\t', '\n', '\r']) text

theorem blanks_nil : Blanks [] := List.forall_mem_nil _

/-- A value and a text for it with blanks around it. -/
structure Item where
  value : Reading
  before : List Char
  text : List Char
  after : List Char
  blanks_before : Blanks before
  blanks_after : Blanks after

def Item.chars (item : Item) : List Char := item.before ++ (item.text ++ item.after)

/-- A member of an object: its key with blanks around it, a colon, and its value. -/
structure Entry extends Item where
  key : Option String
  left : List Char
  spelling : List Char
  right : List Char
  blanks_left : Blanks left
  blanks_right : Blanks right
  spelled : SpellsString key spelling

def Entry.chars (entry : Entry) : List Char :=
  entry.left ++ (entry.spelling ++ (entry.right ++ ':' :: entry.toItem.chars))

def Entry.member (entry : Entry) : Key × Reading := (.text entry.key, entry.value)

/-- Texts with commas between them. -/
def separated : List (List Char) → List Char
  | [] => []
  | [text] => text
  | text :: rest => text ++ ',' :: separated rest

theorem separated_cons_cons (first second : List Char) (rest : List (List Char)) :
    separated (first :: second :: rest) = first ++ ',' :: separated (second :: rest) := rfl

/-- A value and a text for it: a word, a numeral, a string, or values in brackets. -/
inductive Spells : Reading → List Char → Prop where
  | null : Spells .null ['n', 'u', 'l', 'l']
  | yes : Spells (.bool true) ['t', 'r', 'u', 'e']
  | no : Spells (.bool false) ['f', 'a', 'l', 's', 'e']
  | number {n : Numeral} {text : List Char} (numeral : SpellsNumeral n text) : Spells (.number n) text
  | text {s : Option String} {text : List Char} (string : SpellsString s text) : Spells (.text s) text
  | emptyArray {blanks : List Char} (blank : Blanks blanks) :
      Spells (.array [] .closed) ('[' :: (blanks ++ [']']))
  | array {items : List Item} (nonempty : items ≠ []) (each : ∀ item ∈ items, Spells item.value item.text) :
      Spells (.array (items.map Item.value) .closed)
        ('[' :: (separated (items.map Item.chars) ++ [']']))
  | emptyObject {blanks : List Char} (blank : Blanks blanks) :
      Spells (.object [] .closed) ('\x7b' :: (blanks ++ ['\x7d']))
  | object {entries : List Entry} (nonempty : entries ≠ [])
      (each : ∀ entry ∈ entries, Spells entry.value entry.text) :
      Spells (.object (entries.map Entry.member) .closed)
        ('\x7b' :: (separated (entries.map Entry.chars) ++ ['\x7d']))

/-- A text that holds a value and nothing else but blanks around it. -/
inductive Holds : List Char → Reading → Prop where
  | alone {item : Item} (spelled : Spells item.value item.text) : Holds item.chars item.value

end Labyrinth.Json
