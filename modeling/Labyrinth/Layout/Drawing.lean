import Labyrinth.Layout.Basic

/-!
# Drawn layouts

A layout can be drawn as rows of text, a hash for a wall and a space for free floor. The first row
sets the width. Of several faults the topmost is reported; in one row a wrong width comes before an
unknown sign, and the leftmost unknown sign is the one that is named. Start and goal are looked at
last. All of this is `Layout.ofRows`. Before, once the width is known, room is made for the tiles of
the whole grid, and for more than `mostTiles` there is none (`Layout.load?`).
-/

namespace Labyrinth.Layout

/-- The tiles of one row from column `column` on, or the first sign that draws nothing. -/
def tilesOfRow (row : Nat) : Nat → List Char → Except LayoutError (List Tile)
  | _, [] => .ok []
  | column, c :: rest =>
    match Tile.ofChar? c with
    | none => .error (.unknownTile c row column)
    | some tile => do return tile :: (← tilesOfRow row (column + 1) rest)

/-- The tiles of the rows from row `row` on, each of which must be `width` wide. -/
def tilesOfRows (width : Nat) : Nat → List (List Char) → Except LayoutError (List Tile)
  | _, [] => .ok []
  | row, text :: rest => do
    if text.length ≠ width then
      throw (.raggedRow row text.length width)
    let tiles ← tilesOfRow row 0 text
    return tiles ++ (← tilesOfRows width (row + 1) rest)

/-- The layout that the rows draw, given that there is room for it. -/
def ofRows (rows : List (List Char)) (start : Robot) (goal : Cell) : Except LayoutError Layout := do
  let width := (rows.headD []).length
  if width = 0 then
    throw .empty
  let tiles ← tilesOfRows width 0 rows
  checked ⟨width, rows.length, tiles.toArray, start, goal⟩

/-- The most tiles that there can be room for. -/
def mostTiles : Nat := 0x7fffffffffffffff

/-- Loads a drawing. A grid without room for its tiles is given up before any row is read: nothing is
    given out then, and no fault is named either. -/
def load? (rows : List (List Char)) (start : Robot) (goal : Cell) :
    Option (Except LayoutError Layout) :=
  if (rows.headD []).length * rows.length ≤ mostTiles then some (ofRows rows start goal) else none

end Labyrinth.Layout
