/-!
# Limits

How long a program may be and how long it may run.
-/

namespace Labyrinth

/-- The longest accepted text, in characters, and the number of steps after which a run is cut off.
    Thirty-two characters keep a search through all programs out of reach. -/
structure Limits where
  sourceLength : Nat := 32
  steps : Nat := 10000
  deriving DecidableEq

/-- A limit on steps that no run could live with. -/
inductive LimitsError where
  | noSteps
  deriving DecidableEq

def LimitsError.message : LimitsError → String
  | .noSteps => "invalid config value: step_limit must be at least 1"

/-- Limits fit for use leave a run at least one step. -/
def Limits.checked (limits : Limits) : Except LimitsError Limits :=
  if limits.steps = 0 then .error .noSteps else .ok limits

end Labyrinth
