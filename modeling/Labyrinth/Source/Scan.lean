import Labyrinth.Source.Shape

/-!
# The shape of a text in one scan

The shape can also be found while the text is read once, with only two things kept in mind: the letters
that were seen, each of them once, and whether the last character was a condition. A letter is written
down as it is looked for. The two offences stop the reading; a text that was read to its end is judged
by what is in mind then.
-/

namespace Labyrinth.Source

/-- What is kept in mind of the text that was read. -/
structure Scan where
  /-- The letters that were seen, each of them once. -/
  letters : List Char := []
  /-- Whether the last character was a condition. -/
  afterCondition : Bool := false
  deriving DecidableEq

namespace Scan

/-- Writes a letter down, and tells whether it was there before. Other characters are let pass. -/
def note (scan : Scan) (c : Char) : Bool × Scan :=
  if isAnchor c || isReference c then
    (scan.letters.contains c, { scan with letters := scan.letters.insert c })
  else (false, scan)

/-- Reads one character, or stops with its offence. Of the letters that were there before only the
    anchors offend. -/
def read (scan : Scan) (c : Char) : Except Shape Scan :=
  let (old, scan) := scan.note c
  if old && isAnchor c then .error .repeatedAnchor
  else if isCondition c then
    if scan.afterCondition then .error .adjacentConditions
    else .ok { scan with afterCondition := true }
  else .ok { scan with afterCondition := false }

/-- The shape of a text that was read to its end. -/
def shape (scan : Scan) : Shape :=
  if scan.afterCondition then .danglingCondition
  else if scan.letters.any fun c => isReference c && !scan.letters.contains (anchorOf c) then
    .missingAnchor
  else if scan.letters.any fun c => isAnchor c && !scan.letters.contains (referenceTo c) then
    .unusedAnchor
  else .sound

end Scan

/-- The shape of a whole text, found in one scan. -/
def shapeInOneScan (text : Source) : Shape :=
  match text.foldlM Scan.read {} with
  | .error offence => offence
  | .ok scan => scan.shape

end Labyrinth.Source
