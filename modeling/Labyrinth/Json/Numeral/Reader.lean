import Labyrinth.Json.Fault
import Labyrinth.Json.Numeral.Basic

/-!
# Reading numerals

A numeral starts with a minus sign or a digit and goes on for as long as it can: digits, a point with
digits after it, an exponent with digits in it. What follows is left to others.
-/

namespace Labyrinth.Json

/-- The digits that a text starts with, of which there must be one, and what follows. -/
def scanDigits (text : List Char) : Except Flaw (List Char × List Char) :=
  match text.takeWhile Char.isDigit with
  | [] => .error (flawAt text)
  | digits => .ok (digits, text.dropWhile Char.isDigit)

/-- The digits after a point, if there is a point. -/
def scanFraction : List Char → Except Flaw (List Char × List Char)
  | '.' :: rest => scanDigits rest
  | text => .ok ([], text)

/-- A sign that an exponent may have, and what follows. -/
def scanSign : List Char → Bool × List Char
  | '+' :: rest => (false, rest)
  | '-' :: rest => (true, rest)
  | text => (false, text)

/-- The exponent, if there is one. -/
def scanExponent : List Char → Except Flaw (Option Exponent × List Char)
  | c :: rest =>
    if c = 'e' || c = 'E' then do
      let (negative, rest) := scanSign rest
      let (digits, rest) ← scanDigits rest
      return (some ⟨negative, digits⟩, rest)
    else .ok (none, c :: rest)
  | [] => .ok (none, [])

/-- The numeral after the sign. A zero in front has no digit after it. -/
def scanUnsigned (negative : Bool) (text : List Char) : Except Flaw (Numeral × List Char) := do
  let (digits, rest) ← scanDigits text
  if digits.head? = some '0' && digits ≠ ['0'] then
    throw .illFormed
  let (fraction, rest) ← scanFraction rest
  let (exponent, rest) ← scanExponent rest
  return (⟨negative, digits, fraction, exponent⟩, rest)

/-- The numeral that a text starts with. -/
def scanNumeral : List Char → Except Flaw (Numeral × List Char)
  | '-' :: rest => scanUnsigned true rest
  | text => scanUnsigned false text

end Labyrinth.Json
