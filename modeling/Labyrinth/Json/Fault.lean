/-!
# Faults of a text

A text can end too early or be ill formed. Which of the two a fault counts as can depend on what the
reader wanted there: a value, a key, or nothing but to get past it. So a fault names its cause, and
is judged where it is met.
-/

namespace Labyrinth.Json

/-- What is wrong with a text as such. -/
inductive Flaw where
  /-- It goes against the grammar. -/
  | illFormed
  /-- It ends too early. -/
  | truncated
  deriving DecidableEq

/-- Why a token, or a value in its place, could not be read. -/
inductive Fault where
  /-- The text ends where something should start. -/
  | missing
  /-- Something stands there that does not belong there. -/
  | stray
  /-- `null`, `true` or `false` is misspelt or cut short. -/
  | word (flaw : Flaw)
  /-- A numeral is ill formed or cut short. -/
  | numeral (flaw : Flaw)
  /-- A string is ill formed or cut short; a reader that wants its characters may be stopped earlier
      than one that passes over it. -/
  | string (wanted skipped : Flaw)
  deriving DecidableEq

namespace Fault

/-- The flaw for a reader that wants a value. -/
def asValue : Fault → Flaw
  | .missing => .truncated
  | .stray => .illFormed
  | .word flaw => flaw
  | .numeral flaw => flaw
  | .string wanted _ => wanted

/-- The flaw for a reader that wants a string and looks no further than its opening quote. -/
def asKey : Fault → Flaw
  | .missing => .truncated
  | .string wanted _ => wanted
  | _ => .illFormed

/-- The flaw for a reader that passes over a value. -/
def asSkipped : Fault → Flaw
  | .missing => .truncated
  | .word flaw => flaw
  | .string _ skipped => skipped
  | _ => .illFormed

/-- The flaw for a reader that passes over the key of a member. -/
def asSkippedKey : Fault → Flaw
  | .missing => .truncated
  | .string _ skipped => skipped
  | _ => .illFormed

end Fault

/-- The flaw of a text that stops here, or goes on where it should not. -/
def flawAt : List Char → Flaw
  | [] => .truncated
  | _ :: _ => .illFormed

end Labyrinth.Json
