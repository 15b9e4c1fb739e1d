import Labyrinth.Layout.Basic
import Labyrinth.Program.Basic

/-!
# Moving through a maze

A maze is a layout with a robot in it; only the robot changes. A step enters the next cell unless it
looks like a wall, in which case the robot stays as it was. A step backward is a step against the
heading, which does not change.
-/

namespace Labyrinth

/-- What became of a move. -/
inductive MoveResult where
  | clear | wallHit | goalReached
  deriving DecidableEq

namespace MoveResult

/-- Every result once. -/
def all : List MoveResult := [.clear, .wallHit, .goalReached]

def name : MoveResult → String
  | .clear => "Normal"
  | .wallHit => "WallHit"
  | .goalReached => "GoalReached"

end MoveResult

namespace Robot

/-- One step towards `toward`, whatever the heading: a wall stops it, the goal is noticed. -/
def step (layout : Layout) (toward : Heading) (r : Robot) : MoveResult × Robot :=
  let cell := r.position + toward.offset
  if layout.isWall cell then (.wallHit, r)
  else (if cell = layout.goal then .goalReached else .clear, { r with position := cell })

theorem step_of_wall {layout : Layout} {toward : Heading} {r : Robot}
    (wall : layout.isWall (r.position + toward.offset) = true) :
    r.step layout toward = (.wallHit, r) :=
  if_pos wall

theorem step_of_free {layout : Layout} {toward : Heading} {r : Robot}
    (free : layout.isWall (r.position + toward.offset) = false) :
    r.step layout toward =
      (if r.position + toward.offset = layout.goal then .goalReached else .clear,
        ⟨r.position + toward.offset, r.heading⟩) :=
  if_neg (Bool.eq_false_iff.1 free)

/-- The robot after a move, and what became of it. Turns are always clear. -/
def perform (layout : Layout) (r : Robot) : Move → MoveResult × Robot
  | .forward => r.step layout r.heading
  | .backward => r.step layout r.heading.opposite
  | .turnLeft => (.clear, r.turnLeft)
  | .turnRight => (.clear, r.turnRight)

end Robot

/-- A layout and the robot that walks it. -/
structure Maze where
  layout : Layout
  robot : Robot
  deriving DecidableEq

namespace Maze

/-- The maze of a layout, with the robot at the start. -/
def enter (layout : Layout) : Maze := ⟨layout, layout.start⟩

/-- Whether the robot faces a wall. -/
def wallAhead (maze : Maze) : Bool := maze.layout.isWall maze.robot.ahead

/-- The maze after a move of the robot, and what became of the move. -/
def perform (maze : Maze) (m : Move) : MoveResult × Maze :=
  let (result, robot) := maze.robot.perform maze.layout m
  (result, { maze with robot })

end Maze

end Labyrinth
