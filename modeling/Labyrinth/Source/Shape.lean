import Labyrinth.Source.Basic

/-!
# The shape of a text

Whether the anchors, references and conditions of a text fit together. Two offences are found in
reading order: an anchor that was there before, and a condition right after a condition; the first of
them decides. A text without one is judged as a whole: it may end with a condition, ask for an anchor
that it does not have, or have an anchor that nothing asks for. Only the last of these may run.
-/

namespace Labyrinth

/-- How the anchors, references and conditions of a text fit together. -/
inductive Shape where
  | sound
  /-- A condition right after a condition. -/
  | adjacentConditions
  /-- A condition with nothing after it to skip. -/
  | danglingCondition
  /-- An anchor that was there before. -/
  | repeatedAnchor
  /-- A reference without its anchor. -/
  | missingAnchor
  /-- An anchor that no reference asks for. -/
  | unusedAnchor
  deriving DecidableEq

namespace Shape

/-- Every shape once. -/
def all : List Shape :=
  [.sound, .adjacentConditions, .danglingCondition, .repeatedAnchor, .missingAnchor, .unusedAnchor]

def name : Shape → String
  | .sound => "Valid"
  | .adjacentConditions => "MoreConditionsInRow"
  | .danglingCondition => "EndsWithCondition"
  | .repeatedAnchor => "UncertainJumpGoal"
  | .missingAnchor => "NoJumpGoal"
  | .unusedAnchor => "UnnecessaryJumpGoal"

/-- Whether a text of this shape is refused. -/
def isFatal : Shape → Bool
  | .sound | .unusedAnchor => false
  | _ => true

end Shape

namespace Source

/-- The offence of the character `c` after the text whose reverse is `before`. -/
def offenceAt? (before : List Char) (c : Char) : Option Shape :=
  if isAnchor c && before.contains c then some .repeatedAnchor
  else if isCondition c && before.head?.any isCondition then some .adjacentConditions
  else none

/-- The first offence of a text that follows the text whose reverse is `before`. -/
def offence? (before : List Char) : Source → Option Shape
  | [] => none
  | c :: rest => (offenceAt? before c).or (offence? (c :: before) rest)

/-- Whether every reference of the text has its anchor. -/
def isAnchored (text : Source) : Bool :=
  text.all fun c => !isReference c || text.contains (anchorOf c)

/-- Whether every anchor of the text has a reference. -/
def isReferenced (text : Source) : Bool :=
  text.all fun c => !isAnchor c || text.contains (referenceTo c)

/-- The shape of a whole text, which may hold any characters. -/
def shape (text : Source) : Shape :=
  match offence? [] text with
  | some offence => offence
  | none =>
    if text.getLast?.any isCondition then .danglingCondition
    else if !isAnchored text then .missingAnchor
    else if !isReferenced text then .unusedAnchor
    else .sound

theorem isFatal_of_offenceAt? {before : List Char} {c : Char} {s : Shape}
    (h : offenceAt? before c = some s) : s.isFatal = true := by
  unfold offenceAt? at h
  split at h
  · cases h; rfl
  · split at h
    · cases h; rfl
    · cases h

/-- An offence is always a reason to refuse. -/
theorem isFatal_of_offence? {before : List Char} {text : Source} {s : Shape}
    (h : offence? before text = some s) : s.isFatal = true := by
  induction text generalizing before with
  | nil => cases h
  | cons c rest ih =>
    rcases Option.or_eq_some_iff.1 h with h | ⟨-, h⟩
    · exact isFatal_of_offenceAt? h
    · exact ih h

/-- A text that may run has the anchor of each of its references. -/
theorem isAnchored_of_shape {text : Source} (h : (shape text).isFatal = false) :
    isAnchored text = true := by
  unfold shape at h
  split at h
  · next found => rw [isFatal_of_offence? found] at h; cases h
  · split at h
    · cases h
    · split at h
      · cases h
      · next anchored => simpa using anchored

end Source

end Labyrinth
