import Labyrinth.Json.Numeral.Reader
import Labyrinth.Json.Text

/-!
# JSON tokens

A text is cut into tokens up to its end or up to the first place where no token can be read; that
place becomes a last token that says what is wrong.
-/

namespace Labyrinth.Json

/-- A token. A string has no characters if a surrogate in it lacks its other half. -/
inductive Token where
  | openArray | closeArray | openObject | closeObject | comma | colon
  | null
  | bool (b : Bool)
  | number (n : Numeral)
  | text (s : Option String)
  /-- No token can be read here; nothing follows. -/
  | broken (fault : Fault)
  deriving DecidableEq

/-! ### One token -/

/-- The token `token` if the text goes on with `letters`. -/
def scanWord (token : Token) : List Char → List Char → Token × List Char
  | [], text => (token, text)
  | letter :: letters, c :: rest =>
    if c = letter then scanWord token letters rest else (.broken (.word .illFormed), [])
  | _ :: _, [] => (.broken (.word .truncated), [])

/-- The string after its opening quote. -/
def scanString (text : List Char) : Token × List Char :=
  match scanPieces text with
  | (pieces, .ok rest) => (.text ((joinPieces false pieces).map String.ofList), rest)
  | (pieces, .error flaw) =>
    let wanted := if (joinPieces true pieces).isNone then .illFormed else flaw
    (.broken (.string wanted flaw), [])

/-- The token that starts with the character `c`, and what follows it. -/
def scanToken (c : Char) (rest : List Char) : Token × List Char :=
  match c with
  | '[' => (.openArray, rest)
  | ']' => (.closeArray, rest)
  | '\x7b' => (.openObject, rest)
  | '\x7d' => (.closeObject, rest)
  | ',' => (.comma, rest)
  | ':' => (.colon, rest)
  | 'n' => scanWord .null ['u', 'l', 'l'] rest
  | 't' => scanWord (.bool true) ['r', 'u', 'e'] rest
  | 'f' => scanWord (.bool false) ['a', 'l', 's', 'e'] rest
  | '"' => scanString rest
  | _ =>
    if c = '-' || c.isDigit then
      match scanNumeral (c :: rest) with
      | .ok (n, rest) => (.number n, rest)
      | .error flaw => (.broken (.numeral flaw), [])
    else (.broken .stray, [])

/-! ### The whole text -/

/-- The four characters that may stand between tokens. -/
def isBlank (c : Char) : Bool := c = ' ' || c = '\t' || c = '\n' || c = '\r'

/-- The tokens of a text; each takes at least one character, so its length is fuel enough. -/
def tokensWith : Nat → List Char → List Token
  | 0, _ => []
  | _, [] => []
  | fuel + 1, c :: rest =>
    if isBlank c then tokensWith fuel rest
    else
      let (token, rest) := scanToken c rest
      token :: tokensWith fuel rest

/-- The tokens of a text. -/
def tokens (text : List Char) : List Token := tokensWith text.length text

end Labyrinth.Json
