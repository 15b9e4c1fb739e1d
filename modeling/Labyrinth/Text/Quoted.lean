import Labyrinth.Text.Extender
import Labyrinth.Text.Unprintable

/-!
# A character in quotes

Messages name a character between single quotes. What could not be read there, or would spoil the
quotes, is written as an escape.
-/

namespace Labyrinth.Text

/-- The code point in lower-case hexadecimal, without leading zeros. -/
def hexDigits (c : Char) : String := String.ofList (Nat.toDigits 16 c.toNat)

/-- The escape of one sign after a backslash, for the characters that have one. -/
def shortEscape? (c : Char) : Option String :=
  if c.toNat = 0 then some "\\0"
  else if c = '\t' then some "\\t"
  else if c = '\n' then some "\\n"
  else if c = '\r' then some "\\r"
  else if c = '\x27' then some "\\'"
  else if c = '\\' then some "\\\\"
  else none

/-- What stands for `c` between the quotes: its short escape, its code point if it extends the
    character before it or shows nothing, and else itself. -/
def escaped (c : Char) : String :=
  match shortEscape? c with
  | some escape => escape
  | none =>
    if isExtender c || !isPrintable c then "\\u\x7b" ++ hexDigits c ++ "\x7d" else c.toString

/-- The character between single quotes. -/
def quoted (c : Char) : String := "'" ++ escaped c ++ "'"

end Labyrinth.Text
