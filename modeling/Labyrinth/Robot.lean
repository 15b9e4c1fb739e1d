import Labyrinth.Grid

/-!
# Robots

A robot stands on a cell and faces a heading. Nothing here knows of walls: what a robot may do is
decided where it meets a layout.
-/

namespace Labyrinth

/-- Where a robot stands and which way it faces. -/
@[ext]
structure Robot where
  position : Cell
  heading : Heading
  deriving DecidableEq

namespace Robot

/-- The cell in front. -/
def ahead (r : Robot) : Cell := r.position + r.heading.offset

def turnLeft (r : Robot) : Robot := { r with heading := r.heading.turnLeft }

def turnRight (r : Robot) : Robot := { r with heading := r.heading.turnRight }

/-- The robot in the words of the log. -/
def describe (r : Robot) : String :=
  "Robot \x7b position: IVec2(" ++ toString r.position.column ++ ", " ++ toString r.position.row ++
    "), orientation: " ++ r.heading.name ++ " \x7d"

end Robot

end Labyrinth
