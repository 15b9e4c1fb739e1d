import Labyrinth.Program.Run
import Labyrinth.Source.Accepted

/-!
# Verdicts

A submitted text goes through the whole language: it is accepted, compiled, and run from the start
of a layout. The verdict says why it was rejected, or how the run ended.
-/

namespace Labyrinth

/-- What is said of a submitted text. -/
inductive Verdict where
  | rejected (reason : Rejection)
  /-- The text ran; `unusedAnchor` tells whether it has an anchor that nothing asks for. -/
  | completed (report : Report) (unusedAnchor : Bool)
  deriving DecidableEq

namespace Verdict

/-- How the run ended, if there was one. -/
def outcome? : Verdict → Option Outcome
  | .rejected _ => none
  | .completed report _ => some report.outcome

/-- Why the text was rejected, if it was. -/
def rejection? : Verdict → Option Rejection
  | .rejected reason => some reason
  | .completed _ _ => none

end Verdict

/-- What texts are judged by: the limits, and the layout that every run starts on. -/
structure Arena where
  limits : Limits := {}
  layout : Layout
  deriving DecidableEq

/-- The verdict on a submitted text. A trailing `=` is not part of the program. -/
def Arena.judge (arena : Arena) (submitted : Source) : Verdict :=
  match (Source.dropTrailingEquals submitted).accept arena.limits with
  | .error reason => .rejected reason
  | .ok accepted =>
    .completed (accepted.program.run arena.layout arena.layout.start arena.limits.steps)
      (accepted.shape = .unusedAnchor)

end Labyrinth
