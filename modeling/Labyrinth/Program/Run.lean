import Labyrinth.Moves

/-!
# Running a program

A machine is a place in the program and a robot. Each step spends one unit of the budget, and so does
noticing that the place lies outside the program: a program that ends just as the budget runs out is
reported as cut off. `Program.trace` lists the steps of the same run.
-/

namespace Labyrinth

/-- How a run ended. -/
inductive Outcome where
  | goalReached | wallHit
  /-- The place left the program. -/
  | programEnded
  /-- The budget ran out first. -/
  | cutOff
  deriving DecidableEq

namespace Outcome

/-- Every outcome once. -/
def all : List Outcome := [.goalReached, .wallHit, .programEnded, .cutOff]

def name : Outcome → String
  | .goalReached => "GoalReached"
  | .wallHit => "WallHit"
  | .programEnded => "ProgramEnded"
  | .cutOff => "TerminatedAfterLimit"

end Outcome

/-- How a run ended, after how many steps, and where the robot was left. -/
@[ext]
structure Report where
  outcome : Outcome
  steps : Nat
  robot : Robot
  deriving DecidableEq

/-- What changes during a run: the place of the next instruction, and the robot. -/
@[ext]
structure Machine where
  pointer : Nat
  robot : Robot
  deriving DecidableEq

/-- The machine after one instruction, and what became of the move if it was one. -/
def Machine.execute (layout : Layout) (m : Machine) : Instruction → MoveResult × Machine
  | .move move =>
    let (result, robot) := m.robot.perform layout move
    (result, ⟨m.pointer + 1, robot⟩)
  | .jump target => (.clear, { m with pointer := target })
  | .jumpIf sensed target =>
    (.clear, { m with
      pointer := if layout.look m.robot.ahead = sensed then target else m.pointer + 1 })

/-- One step of a run: the machine before it, and the instruction it was about to execute. -/
@[ext]
structure Execution extends Machine where
  step : Nat
  instruction : Instruction
  deriving DecidableEq

namespace Program

/-- The report of a run with `budget` units left from a machine that has made `step` steps. -/
def runFrom (program : Program) (layout : Layout) : Nat → Nat → Machine → Report
  | 0, step, m => ⟨.cutOff, step, m.robot⟩
  | budget + 1, step, m =>
    match program.get? m.pointer with
    | none => ⟨.programEnded, step, m.robot⟩
    | some instruction =>
      match m.execute layout instruction with
      | (.clear, next) => runFrom program layout budget (step + 1) next
      | (.wallHit, last) => ⟨.wallHit, step + 1, last.robot⟩
      | (.goalReached, last) => ⟨.goalReached, step + 1, last.robot⟩

/-- The steps of that run. -/
def traceFrom (program : Program) (layout : Layout) : Nat → Nat → Machine → List Execution
  | 0, _, _ => []
  | budget + 1, step, m =>
    match program.get? m.pointer with
    | none => []
    | some instruction =>
      ⟨m, step, instruction⟩ ::
        match m.execute layout instruction with
        | (.clear, next) => traceFrom program layout budget (step + 1) next
        | _ => []

/-- Runs a program on a robot for at most `limit` steps. -/
def run (program : Program) (layout : Layout) (robot : Robot) (limit : Nat) : Report :=
  program.runFrom layout limit 0 ⟨0, robot⟩

/-- The steps of `Program.run`, in order. -/
def trace (program : Program) (layout : Layout) (robot : Robot) (limit : Nat) : List Execution :=
  program.traceFrom layout limit 0 ⟨0, robot⟩

end Program

/-- Runs a program where the robot of a maze stands; the robot stays where the run left it. -/
def Maze.run (maze : Maze) (program : Program) (limit : Nat) : Report × Maze :=
  let report := program.run maze.layout maze.robot limit
  (report, { maze with robot := report.robot })

end Labyrinth
