import Labyrinth.Proofs.Coordinates
import Labyrinth.Proofs.Loaders

/-!
# Looking up the cells of a grid

In a well-formed layout each cell of the grid has its own tile, stored row by row, and outside the grid
there is none. The number of the tile is computed in words of 64 bits; with no more tiles than can be
stored it always fits. Width and height are words too, and their product need not be one: a loader
takes the largest word instead, which is more than can be stored, so this changes nothing
(`checkedInWords_eq_checked`).
-/

namespace Labyrinth.Layout

/-- The number of cells as a word: the largest stands for every number that does not fit. -/
def areaInWords (layout : Layout) : Nat := min (layout.width * layout.height) largestCount

/-- The check of a layout with the number of cells as a word. -/
def checkedInWords (layout : Layout) : Except LayoutError Layout :=
  if layout.areaInWords = 0 then .error .empty
  else if layout.tiles.size ≠ layout.areaInWords then
    .error (.tileCount layout.tiles.size layout.areaInWords)
  else do
    layout.checkFree .start layout.start.position
    layout.checkFree .goal layout.goal
    return layout

variable {layout : Layout} {cell : Cell}

/-- For tiles that can be stored, the check with words is the check. -/
theorem checkedInWords_eq_checked (storable : layout.tiles.size ≤ mostTiles) :
    layout.checkedInWords = layout.checked := by
  have word : layout.areaInWords = min layout.area largestCount := rfl
  have largest : mostTiles < largestCount := by decide
  have empty : layout.areaInWords = 0 ↔ layout.area = 0 := by omega
  have count : layout.tiles.size = layout.areaInWords ↔ layout.tiles.size = layout.area := by omega
  simp only [checkedInWords, checked, empty, ne_eq, count]
  rw [word]

/-- So it is for every grid whose number of cells is a word. -/
theorem checkedInWords_eq_checked_of_area_le (word : layout.area ≤ largestCount) :
    layout.checkedInWords = layout.checked := by
  have exact_area : layout.areaInWords = layout.area := Nat.min_eq_left word
  simp only [checkedInWords, checked, exact_area, Nat.min_eq_left word]

/-! ### The tile of a cell -/

/-- The rows before that of a cell, and what is before it in its row, are less than all cells. -/
theorem index_lt_area (inside : layout.Inside cell) : layout.index cell < layout.area := by
  obtain ⟨⟨left, right⟩, top, bottom⟩ := inside
  have column : cell.column.toInt.toNat < layout.width := by omega
  have row : cell.row.toInt.toNat + 1 ≤ layout.height := by omega
  calc layout.index cell
      < cell.row.toInt.toNat * layout.width + layout.width := Nat.add_lt_add_left column _
    _ = (cell.row.toInt.toNat + 1) * layout.width := (Nat.succ_mul _ _).symm
    _ ≤ layout.height * layout.width := Nat.mul_le_mul_right _ row
    _ = layout.area := Nat.mul_comm _ _

theorem look_of_outside (outside : ¬layout.Inside cell) : layout.look cell = .wall := by
  rw [look, tile?, if_neg outside, Option.getD_none]

/-- The cell whose tile is stored at a place, in a grid of some width. -/
def cellAt (width place : Nat) : Cell := ⟨.ofNat (place % width), .ofNat (place / width)⟩

/-- The number of a cell names its column and its row. -/
theorem cellAt_index (inside : layout.Inside cell) :
    cellAt layout.width (layout.index cell) = cell := by
  obtain ⟨⟨left, right⟩, top, bottom⟩ := inside
  have column : cell.column.toInt.toNat < layout.width := by omega
  have index : layout.index cell =
      layout.width * cell.row.toInt.toNat + cell.column.toInt.toNat := by
    rw [Layout.index, Nat.mul_comm]
  rw [cellAt, index, Nat.mul_add_mod, Nat.mod_eq_of_lt column, Nat.mul_add_div (by omega),
    Nat.div_eq_of_lt column]
  rw [Nat.add_zero, Coordinate.ofNat_toNat left, Coordinate.ofNat_toNat top]

namespace WellFormed

theorem index_lt_size (wellFormed : layout.WellFormed) (inside : layout.Inside cell) :
    layout.index cell < layout.tiles.size := by
  rw [wellFormed.size_tiles]
  exact index_lt_area inside

/-- A cell of the grid has the tile that is stored at its number. -/
theorem tile?_of_inside (wellFormed : layout.WellFormed) (inside : layout.Inside cell) :
    ∃ stored : layout.index cell < layout.tiles.size,
      layout.tile? cell = some layout.tiles[layout.index cell] := by
  have stored := wellFormed.index_lt_size inside
  exact ⟨stored, by rw [tile?, if_pos inside, Array.getElem?_eq_getElem stored]⟩

/-- On the cells of the grid their tiles are seen. -/
theorem tile?_eq_look (wellFormed : layout.WellFormed) (inside : layout.Inside cell) :
    layout.tile? cell = some (layout.look cell) := by
  obtain ⟨_, found⟩ := wellFormed.tile?_of_inside inside
  rw [look, found, Option.getD_some]

/-- The cells of the grid are those that have a tile. -/
theorem isSome_tile?_iff (wellFormed : layout.WellFormed) :
    (layout.tile? cell).isSome = true ↔ layout.Inside cell := by
  constructor
  · intro found
    obtain ⟨tile, found⟩ := Option.isSome_iff_exists.1 found
    exact inside_of_tile? found
  · intro inside
    obtain ⟨_, found⟩ := wellFormed.tile?_of_inside inside
    rw [found, Option.isSome_some]

/-- Every cell but the free ones of the grid is a wall. -/
theorem isWall_iff (wellFormed : layout.WellFormed) :
    layout.isWall cell = true ↔ ¬layout.Inside cell ∨ layout.tile? cell = some .wall := by
  rw [← wellFormed.isSome_tile?_iff, ← Bool.not_eq_false, isWall_eq_false_iff]
  cases layout.tile? cell with
  | none => simp
  | some tile => cases tile <;> simp

end WellFormed

/-- Every layout that is given out has a grid with one tile a cell, and start and goal on free floor of
    it. A cell has a tile exactly if it lies in the grid, and then the one that is stored at its number
    row by row; neither that number nor what is computed on the way to it exceeds a word, and there are
    more tiles. Cells outside the grid and those with a wall tile are walls. The loaders may take the
    number of cells as a word. -/
theorem loaded_grid_is_indexable (loaded : layout.Loaded) (storable : layout.tiles.size ≤ mostTiles) :
    (1 ≤ layout.width ∧ 1 ≤ layout.height ∧ layout.tiles.size = layout.width * layout.height ∧
      (layout.Inside layout.start.position ∧ layout.tile? layout.start.position = some .free) ∧
      layout.Inside layout.goal ∧ layout.tile? layout.goal = some .free) ∧
    (∀ cell : Cell,
      ((layout.tile? cell).isSome = true ↔
        (0 ≤ cell.column.toInt ∧ cell.column.toInt < layout.width) ∧
          0 ≤ cell.row.toInt ∧ cell.row.toInt < layout.height) ∧
      (layout.Inside cell →
        let rows := cell.row.toInt.toNat * layout.width
        let index := rows + cell.column.toInt.toNat
        rows ≤ largestCount ∧ index ≤ largestCount ∧
          ∃ stored : index < layout.tiles.size, layout.tile? cell = some layout.tiles[index]) ∧
      (layout.isWall cell = true ↔ ¬layout.Inside cell ∨ layout.tile? cell = some .wall)) ∧
    ∀ raw : Layout, raw.tiles.size ≤ mostTiles → raw.checkedInWords = raw.checked := by
  have wellFormed := loaded.wellFormed
  refine ⟨⟨wellFormed.width_pos, wellFormed.height_pos, wellFormed.size_tiles, ?_, ?_⟩,
    fun cell => ⟨wellFormed.isSome_tile?_iff, fun inside => ?_, wellFormed.isWall_iff⟩,
    fun raw => checkedInWords_eq_checked⟩
  · exact ⟨inside_of_tile? wellFormed.start_free, wellFormed.start_free⟩
  · exact ⟨inside_of_tile? wellFormed.goal_free, wellFormed.goal_free⟩
  · have stored := wellFormed.index_lt_size inside
    have largest : mostTiles < largestCount := by decide
    have index_le : layout.index cell ≤ largestCount := by omega
    exact ⟨Nat.le_of_add_right_le index_le, index_le, wellFormed.tile?_of_inside inside⟩

/-- The reference layout, which no loader checks: its last cell, and a cell below it. -/
theorem loaded_grid_is_indexable_reference :
    reference.Loaded ∧ reference.tiles.size ≤ mostTiles ∧ reference.tiles.size = 16 * 16 ∧
      (∃ stored : 15 * 16 + 15 < reference.tiles.size,
        reference.tile? ⟨15, 15⟩ = some reference.tiles[15 * 16 + 15]) ∧
      reference.isWall ⟨15, 16⟩ = true := by
  have size : reference.tiles.size = 16 * 16 := wellFormed_reference.size_tiles
  have storable : reference.tiles.size ≤ mostTiles := by rw [size]; decide
  obtain ⟨⟨-, -, count, -⟩, cells, -⟩ := loaded_grid_is_indexable .reference storable
  obtain ⟨-, stored, -⟩ := cells ⟨15, 15⟩
  obtain ⟨-, -, wall⟩ := cells ⟨15, 16⟩
  exact ⟨.reference, storable, count, (stored (by decide)).2.2, wall.2 (.inl (by decide))⟩

end Labyrinth.Layout
