/-!
# Cells and headings

A cell is a column and a row; columns count to the right and rows count downwards, so "up" is one
row less. Both are signed words of 32 bits, and sums that do not fit wrap around. A heading is one of
the four ways a robot can face. The lemmas say how the quarter turns and the half turn fit together.
-/

namespace Labyrinth

/-- The number that a coordinate stands for. -/
instance coordinateToNumber : Coe Int32 Int := ⟨Int32.toInt⟩

/-- The coordinate that stands for a number; a number that is too large is cut down to the word. -/
instance numberToCoordinate : Coe Int Int32 := ⟨Int32.ofInt⟩

/-- A place on the plane, inside a grid or not. -/
@[ext]
structure Cell where
  column : Int32
  row : Int32
  deriving DecidableEq

namespace Cell

/-- Coordinates are added as words: after the last one comes the first. -/
instance : Add Cell := ⟨fun a b => ⟨a.column + b.column, a.row + b.row⟩⟩

@[simp] theorem column_add (a b : Cell) : (a + b).column = a.column + b.column := rfl

@[simp] theorem row_add (a b : Cell) : (a + b).row = a.row + b.row := rfl

end Cell

/-- The four ways to face. -/
inductive Heading where
  | up | down | left | right
  deriving DecidableEq

namespace Heading

/-- Every heading once. -/
def all : List Heading := [.up, .down, .left, .right]

def name : Heading → String
  | .up => "Up"
  | .down => "Down"
  | .left => "Left"
  | .right => "Right"

/-- How far one step in this heading moves. -/
def offset : Heading → Cell
  | .up => ⟨0, -1⟩
  | .down => ⟨0, 1⟩
  | .left => ⟨-1, 0⟩
  | .right => ⟨1, 0⟩

/-- A quarter turn counter-clockwise. -/
def turnLeft : Heading → Heading
  | .up => .left
  | .left => .down
  | .down => .right
  | .right => .up

/-- A quarter turn clockwise. -/
def turnRight : Heading → Heading
  | .up => .right
  | .right => .down
  | .down => .left
  | .left => .up

/-- The heading behind. -/
def opposite : Heading → Heading
  | .up => .down
  | .down => .up
  | .left => .right
  | .right => .left

/-! ### How the turns fit together -/

@[simp] theorem turnLeft_turnRight (h : Heading) : h.turnRight.turnLeft = h := by cases h <;> rfl

@[simp] theorem turnRight_turnLeft (h : Heading) : h.turnLeft.turnRight = h := by cases h <;> rfl

/-- Three left turns make a right turn. -/
theorem turnLeft_three (h : Heading) : h.turnLeft.turnLeft.turnLeft = h.turnRight := by
  cases h <;> rfl

/-- Two left turns make a half turn. -/
theorem turnLeft_two (h : Heading) : h.turnLeft.turnLeft = h.opposite := by cases h <;> rfl

@[simp] theorem opposite_opposite (h : Heading) : h.opposite.opposite = h := by cases h <;> rfl

theorem mem_all (h : Heading) : h ∈ all := by cases h <;> decide

end Heading

end Labyrinth
