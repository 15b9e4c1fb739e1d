import Labyrinth.Verdict

/-!
# The log of a verdict

Judging a text leaves a log: either that it was rejected, or that it was compiled, each step of its
run, and how the run finished.
-/

namespace Labyrinth

/-- What is written to the log. -/
inductive Event where
  | rejected (source : Source) (reason : Rejection)
  | compiled (source : Source) (instructions : Nat)
  | executed (execution : Execution)
  | finished (report : Report)
  deriving DecidableEq

namespace Event

/-- How closely one has to look to see an event. -/
inductive Level where
  | debug | trace
  deriving DecidableEq

def Level.name : Level → String
  | .debug => "DEBUG"
  | .trace => "TRACE"

/-- Single steps are only traced. -/
def level : Event → Level
  | .executed _ => .trace
  | _ => .debug

def message : Event → String
  | .rejected _ _ => "program rejected"
  | .compiled _ _ => "compiled program"
  | .executed _ => "execute"
  | .finished _ => "run finished"

end Event

/-- The log that judging a submitted text leaves. -/
def Arena.transcript (arena : Arena) (submitted : Source) : List Event :=
  let source := Source.dropTrailingEquals submitted
  match source.accept arena.limits with
  | .error reason => [.rejected source reason]
  | .ok accepted =>
    let program := accepted.program
    let start := arena.layout.start
    .compiled source program.size ::
      (program.trace arena.layout start arena.limits.steps).map .executed ++
      [.finished (program.run arena.layout start arena.limits.steps)]

end Labyrinth
