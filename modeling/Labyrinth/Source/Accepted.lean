import Labyrinth.Limits
import Labyrinth.Source.Compile
import Labyrinth.Text.Quoted

/-!
# Accepted texts

A text is accepted when it holds nothing but symbols, is not too long, and has a shape that may run.
The three are tried in this order, and the first that fails is the reason for the rejection. An
accepted text carries what was found out about it, so it has a program.
-/

namespace Labyrinth

/-- Why a text is not accepted. -/
inductive Rejection where
  | disallowed (character : Char) (position : Nat)
  | tooLong (length limit : Nat)
  | malformed (shape : Shape)
  deriving DecidableEq

def Rejection.message : Rejection → String
  | .disallowed character position =>
    "character " ++ Text.quoted character ++ " at position " ++ toString position ++
      " is not allowed"
  | .tooLong length limit =>
    "program is " ++ toString length ++ " characters long, the limit is " ++ toString limit
  | .malformed shape => "malformed program: " ++ shape.name

namespace Source

/-- Refuses the first character that is no symbol; `position` counts from the start of the text. -/
def checkSymbolsFrom (position : Nat) : Source → Except Rejection Unit
  | [] => .ok ()
  | c :: rest =>
    if isSymbol c then checkSymbolsFrom (position + 1) rest else .error (.disallowed c position)

/-- Refuses the first character that is no symbol. -/
def checkSymbols (text : Source) : Except Rejection Unit := checkSymbolsFrom 0 text

/-- Refuses a text of more than `limit` characters. -/
def checkLength (text : Source) (limit : Nat) : Except Rejection Unit :=
  if text.length ≤ limit then .ok () else .error (.tooLong text.length limit)

/-- Refuses a text whose shape may not run. -/
def checkShape (text : Source) : Except Rejection Unit :=
  if (shape text).isFatal then .error (.malformed (shape text)) else .ok ()

theorem checkSymbolsFrom_eq_ok_iff {position : Nat} {text : Source} :
    checkSymbolsFrom position text = .ok () ↔ ∀ c ∈ text, isSymbol c = true := by
  induction text generalizing position with
  | nil => simp [checkSymbolsFrom]
  | cons c rest ih =>
    by_cases hc : isSymbol c = true
    · simp [checkSymbolsFrom, hc, ih]
    · simp [checkSymbolsFrom, hc]

theorem checkSymbols_eq_ok_iff {text : Source} :
    checkSymbols text = .ok () ↔ ∀ c ∈ text, isSymbol c = true :=
  checkSymbolsFrom_eq_ok_iff

theorem checkLength_eq_ok_iff {text : Source} {limit : Nat} :
    checkLength text limit = .ok () ↔ text.length ≤ limit := by
  by_cases h : text.length ≤ limit <;> simp [checkLength, h]

theorem checkShape_eq_ok_iff {text : Source} :
    checkShape text = .ok () ↔ (shape text).isFatal = false := by
  by_cases h : (shape text).isFatal = true <;> simp [checkShape, h]

end Source

/-- A text that was checked: symbols only, in a shape that may run. -/
@[ext]
structure Accepted where
  text : Source
  symbols : ∀ c ∈ text, Source.isSymbol c = true
  shape_not_fatal : (Source.shape text).isFatal = false

namespace Accepted

/-- The shape of the text, which is sound or has an anchor that nothing asks for. -/
def shape (accepted : Accepted) : Shape := Source.shape accepted.text

/-- The program of the text. -/
def program (accepted : Accepted) : Program :=
  (Source.compile? accepted.text).get
    (Source.isSome_compile? accepted.symbols (Source.isAnchored_of_shape accepted.shape_not_fatal))

/-- The text's program is the one that compiling finds. -/
theorem compile?_text (accepted : Accepted) :
    Source.compile? accepted.text = some accepted.program :=
  (Option.some_get _).symm

end Accepted

/-- Accepts a text, or rejects it for the first of: its symbols, its length, its shape. -/
def Source.accept (text : Source) (limits : Limits) : Except Rejection Accepted :=
  match symbols : checkSymbols text with
  | .error reason => .error reason
  | .ok () =>
    match checkLength text limits.sourceLength with
    | .error reason => .error reason
    | .ok () =>
      match shape : checkShape text with
      | .error reason => .error reason
      | .ok () => .ok ⟨text, checkSymbols_eq_ok_iff.1 symbols, checkShape_eq_ok_iff.1 shape⟩

/-- What is accepted is the text itself, if it is short enough; the rest is in its type. -/
theorem Source.accept_eq_ok_iff {text : Source} {limits : Limits} {accepted : Accepted} :
    text.accept limits = .ok accepted ↔
      accepted.text = text ∧ text.length ≤ limits.sourceLength := by
  constructor
  · intro h
    unfold Source.accept at h
    split at h
    · cases h
    · split at h
      · cases h
      · next length =>
        split at h
        · cases h
        · cases h
          exact ⟨rfl, checkLength_eq_ok_iff.1 length⟩
  · rintro ⟨rfl, length⟩
    unfold Source.accept
    split
    · next h => rw [checkSymbols_eq_ok_iff.2 accepted.symbols] at h; cases h
    · split
      · next h => rw [checkLength_eq_ok_iff.2 length] at h; cases h
      · split
        · next h => rw [checkShape_eq_ok_iff.2 accepted.shape_not_fatal] at h; cases h
        · rfl

end Labyrinth
