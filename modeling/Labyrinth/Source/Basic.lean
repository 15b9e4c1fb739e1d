import Labyrinth.Program.Basic

/-!
# Source text

A program is written in the letters and in six signs. A lower-case letter is an anchor: it names the
instruction that follows it. An upper-case letter is a reference: it jumps to the anchor of the same
letter. The two conditions `?` and `!` skip the next instruction when the cell ahead is free, or is
a wall. The four movement signs are moves. Letters are those of ASCII only.
-/

namespace Labyrinth

/-- A text, character by character. -/
abbrev Source := List Char

namespace Source

/-- A lower-case letter, which names a place. -/
def isAnchor (c : Char) : Bool := c.isLower

/-- An upper-case letter, which jumps to a named place. -/
def isReference (c : Char) : Bool := c.isUpper

/-- The anchor that a reference asks for. -/
def anchorOf (c : Char) : Char := c.toLower

/-- The reference that asks for an anchor. -/
def referenceTo (c : Char) : Char := c.toUpper

/-- What a condition looks for ahead. -/
def sensed? : Char → Option Tile
  | '?' => some .free
  | '!' => some .wall
  | _ => none

/-- Whether `c` is one of the two conditions. -/
def isCondition (c : Char) : Bool := (sensed? c).isSome

/-- Whether `c` may stand in a program at all. -/
def isSymbol (c : Char) : Bool :=
  isAnchor c || isReference c || isCondition c || (Move.ofSymbol? c).isSome

/-- Every symbol but an anchor becomes an instruction. -/
def emits (c : Char) : Bool := !isAnchor c

/-- Drops one `=` from the end of a text, where a form may have left it. -/
def dropTrailingEquals (text : Source) : Source :=
  if text.getLast? = some '=' then text.dropLast else text

end Source

end Labyrinth
