/-!
# Tiles

What one cell of a grid holds, and the sign that stands for it in a drawn layout.
-/

namespace Labyrinth

/-- What a cell holds. -/
inductive Tile where
  | wall | free
  deriving DecidableEq

namespace Tile

/-- Both tiles. -/
def all : List Tile := [.wall, .free]

def name : Tile → String
  | .wall => "Wall"
  | .free => "Free"

/-- A hash is a wall and a space is free floor; nothing else is drawn. -/
def ofChar? : Char → Option Tile
  | '#' => some .wall
  | ' ' => some .free
  | _ => none

/-- The sign a tile is drawn with. -/
def toChar : Tile → Char
  | .wall => '#'
  | .free => ' '

@[simp] theorem ofChar?_toChar (t : Tile) : ofChar? t.toChar = some t := by cases t <;> rfl

end Tile

end Labyrinth
