import Labyrinth.Layout.Basic

/-!
# The reference layout

The one puzzle that comes with the language: sixteen rows of sixteen tiles, with the exit as a gap
in the top wall.
-/

namespace Labyrinth.Layout

/-- The puzzle as it is drawn. -/
def referenceRows : List String := [
  "######### ######",
  "#   ###   #### #",
  "#       ##  #  #",
  "######  #     ##",
  "#       #  # ###",
  "### ##### ######",
  "#     ##    ## #",
  "#### #### ## # #",
  "#              #",
  "############## #",
  "#           ## #",
  "## #######     #",
  "#  ##  ##  ##  #",
  "# ### ####     #",
  "#      #   ### #",
  "################"]

/-- The puzzle: the robot starts in row 14, column 3, facing up; the goal is in row 0, column 9. -/
def reference : Layout where
  width := 16
  height := 16
  tiles := (referenceRows.flatMap fun row => row.toList.filterMap Tile.ofChar?).toArray
  start := ⟨⟨3, 14⟩, .up⟩
  goal := ⟨9, 0⟩

end Labyrinth.Layout
