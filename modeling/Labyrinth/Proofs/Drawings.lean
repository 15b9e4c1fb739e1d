import Labyrinth.Proofs.Indexing

/-!
# Drawing the tiles of a layout

A list of tiles is drawn as rows of signs (`Layout.rowsOf`), and reading the rows gives back the tiles
(`tilesOfRows_eq_ok`). So it makes no difference whether a layout is given by its tiles or by a
drawing of them: both loaders end with the same check, on the same layout (`ofRows_eq_checked`). Tiles
that are there have found room, so the drawing of them finds it too (`Draws.load?_eq_some_iff`).
-/

namespace Labyrinth.Layout

/-- The tiles drawn in `height` rows of `width` signs. -/
def rowsOf (width : Nat) : Nat → List Tile → List (List Char)
  | 0, _ => []
  | height + 1, tiles =>
    (tiles.take width).map Tile.toChar :: rowsOf width height (tiles.drop width)

/-- The layout as it is drawn. -/
def drawn (layout : Layout) : List (List Char) :=
  rowsOf layout.width layout.height layout.tiles.toList

/-- The rows draw these tiles, one row after the other, in a grid of this width and height. -/
structure Draws (width height : Nat) (tiles : List Tile) (rows : List (List Char)) : Prop where
  length_eq : rows.length = height
  length_of_mem : ∀ row ∈ rows, row.length = width
  flatten_eq : rows.flatten = tiles.map Tile.toChar

variable {width height : Nat} {tiles : List Tile} {rows : List (List Char)}

/-- As many tiles as the grid has cells can be drawn. -/
theorem draws_rowsOf (size : tiles.length = width * height) :
    Draws width height tiles (rowsOf width height tiles) := by
  induction height generalizing tiles with
  | zero =>
    obtain rfl : tiles = [] := List.length_eq_zero_iff.1 size
    exact ⟨rfl, nofun, rfl⟩
  | succ height ih =>
    rw [Nat.mul_succ] at size
    have rest : Draws width height (tiles.drop width) (rowsOf width height (tiles.drop width)) := by
      refine ih ?_
      rw [List.length_drop, size, Nat.add_sub_cancel]
    refine ⟨congrArg Nat.succ rest.length_eq, List.forall_mem_cons.2 ⟨?_, rest.length_of_mem⟩, ?_⟩
    · rw [List.length_map, List.length_take, size]
      exact Nat.min_eq_left (Nat.le_add_left _ _)
    · rw [rowsOf, List.flatten_cons, rest.flatten_eq, ← List.map_append, List.take_append_drop]

/-! ### Reading what was drawn -/

theorem tilesOfRow_map_toChar (row column : Nat) (tiles : List Tile) :
    tilesOfRow row column (tiles.map Tile.toChar) = .ok tiles := by
  induction tiles generalizing column with
  | nil => rfl
  | cons tile tiles ih =>
    rw [List.map_cons, tilesOfRow, Tile.ofChar?_toChar]
    simp only [ih]
    rfl

/-- The tiles come back from their rows. -/
theorem tilesOfRows_eq_ok (first : Nat) (lengths : ∀ row ∈ rows, row.length = width)
    (signs : rows.flatten = tiles.map Tile.toChar) : tilesOfRows width first rows = .ok tiles := by
  induction rows generalizing first tiles with
  | nil =>
    obtain rfl : tiles = [] := List.map_eq_nil_iff.1 signs.symm
    rfl
  | cons row rows ih =>
    obtain ⟨length, others⟩ := List.forall_mem_cons.1 lengths
    obtain ⟨here, below, rfl, rfl, signs_below⟩ := List.append_eq_map_iff.1 signs
    rw [tilesOfRows, if_neg (Decidable.not_not.2 length)]
    simp only [tilesOfRow_map_toChar, ih (first + 1) others signs_below.symm]
    rfl

/-- Loading a drawing is checking the layout that has the tiles drawn. -/
theorem ofRows_eq_checked (draws : Draws width height tiles rows) (width_pos : 1 ≤ width)
    (height_pos : 1 ≤ height) (start : Robot) (goal : Cell) :
    ofRows rows start goal = checked ⟨width, height, tiles.toArray, start, goal⟩ := by
  obtain ⟨rfl, lengths, signs⟩ := draws
  obtain ⟨row, others, rfl⟩ := List.exists_cons_of_length_pos height_pos
  have first : ((row :: others).headD []).length = width := lengths row List.mem_cons_self
  have some_width : width ≠ 0 := Nat.ne_of_gt width_pos
  simp only [ofRows, first, if_neg some_width, tilesOfRows_eq_ok 0 lengths signs]
  rfl

/-- There is room for a drawing of tiles that could be stored. -/
theorem Draws.load?_eq_some_iff {start : Robot} {goal : Cell} {result : Except LayoutError Layout}
    (draws : Draws width height tiles rows) (height_pos : 1 ≤ height)
    (storable : width * height ≤ mostTiles) :
    load? rows start goal = some result ↔ ofRows rows start goal = result := by
  obtain ⟨rfl, lengths, -⟩ := draws
  obtain ⟨row, others, rfl⟩ := List.exists_cons_of_length_pos height_pos
  have first : ((row :: others).headD []).length = width := lengths row List.mem_cons_self
  rw [Layout.load?_eq_some_iff, first]
  exact and_iff_right storable

/-- A layout passes the check exactly if it can be loaded from its drawing. -/
theorem wellFormed_iff_ofRows_drawn {layout : Layout} :
    layout.WellFormed ↔ ofRows layout.drawn layout.start layout.goal = .ok layout := by
  constructor
  · intro wellFormed
    have draws : Draws layout.width layout.height layout.tiles.toList layout.drawn :=
      draws_rowsOf wellFormed.size_tiles
    rw [ofRows_eq_checked draws wellFormed.width_pos wellFormed.height_pos]
    exact checked_eq_ok_iff.2 ⟨rfl, wellFormed⟩
  · exact wellFormed_of_ofRows

/-- For tiles that could be stored, this is loading with the room for them. -/
theorem wellFormed_iff_load?_drawn {layout : Layout} (storable : layout.tiles.size ≤ mostTiles) :
    layout.WellFormed ↔
      load? layout.drawn layout.start layout.goal = some (.ok layout) := by
  constructor
  · intro wellFormed
    have draws : Draws layout.width layout.height layout.tiles.toList layout.drawn :=
      draws_rowsOf wellFormed.size_tiles
    rw [wellFormed.size_tiles] at storable
    exact (draws.load?_eq_some_iff wellFormed.height_pos storable).2
      (wellFormed_iff_ofRows_drawn.1 wellFormed)
  · intro loaded
    exact wellFormed_of_ofRows (Layout.load?_eq_some_iff.1 loaded).2

/-- The loaders agree. A grid of any width and height, whose number of cells is a word, with one tile a
    cell: the check of the layout that has these tiles gives the same layout or the same error as
    loading the rows that draw the tiles, also if the check computes with words; for tiles that could
    be stored there is room for the rows as well. And a text is decoded to a layout exactly if its fields
    are those of the layout, and the layout is what its own drawing is loaded to. -/
theorem loaders_agree :
    (∀ (width height : Nat) (tiles : List Tile) (start : Robot) (goal : Cell),
      1 ≤ width → 1 ≤ height → width * height ≤ largestCount → tiles.length = width * height →
        let raw : Layout := ⟨width, height, tiles.toArray, start, goal⟩
        (Draws width height tiles raw.drawn ∧
          raw.checked = ofRows raw.drawn start goal ∧
          raw.checkedInWords = ofRows raw.drawn start goal) ∧
        (tiles.length ≤ mostTiles → load? raw.drawn start goal = some raw.checkedInWords)) ∧
    ∀ (route : Json.Route) (text : List Char) (layout : Layout),
      (Wire.layout.decodeText route text = .ok layout ↔
        Wire.layoutFields.decodeText route text = .ok layout ∧
          ofRows layout.drawn layout.start layout.goal = .ok layout) ∧
      (layout.tiles.size ≤ mostTiles →
        (Wire.layout.decodeText route text = .ok layout ↔
          Wire.layoutFields.decodeText route text = .ok layout ∧
            load? layout.drawn layout.start layout.goal = some (.ok layout))) := by
  constructor
  · intro width height tiles start goal width_pos height_pos word size raw
    have draws : Draws width height tiles raw.drawn := draws_rowsOf size
    have same := ofRows_eq_checked draws width_pos height_pos start goal
    have words : raw.checkedInWords = raw.checked := checkedInWords_eq_checked_of_area_le word
    refine ⟨⟨draws, same.symm, words.trans same.symm⟩, fun storable => ?_⟩
    exact (draws.load?_eq_some_iff height_pos (size ▸ storable)).2 (same.trans words.symm)
  · intro route text layout
    refine ⟨?_, fun storable => ?_⟩
    · rw [← wellFormed_iff_ofRows_drawn]
      exact decodeText_layout_eq_ok_iff
    · rw [← wellFormed_iff_load?_drawn storable]
      exact decodeText_layout_eq_ok_iff

/-- A goal on a wall is refused by both loaders with the same words. -/
theorem loaders_agree_walled_goal :
    let tiles : List Tile := [.free, .wall, .free, .free]
    let raw : Layout := ⟨2, 2, tiles.toArray, ⟨⟨0, 0⟩, .up⟩, ⟨1, 0⟩⟩
    tiles.length = 2 * 2 ∧ 2 * 2 ≤ largestCount ∧ tiles.length ≤ mostTiles ∧
      raw.drawn = [[' ', '#'], [' ', ' ']] ∧
      raw.checkedInWords = .error (.walled .goal ⟨1, 0⟩) ∧
      load? [[' ', '#'], [' ', ' ']] raw.start raw.goal = some (.error (.walled .goal ⟨1, 0⟩)) := by
  intro tiles raw
  have size : tiles.length = 2 * 2 := rfl
  have word : 2 * 2 ≤ largestCount := by decide
  have storable : tiles.length ≤ mostTiles := by decide
  have refused : raw.checkedInWords = .error (.walled .goal ⟨1, 0⟩) := rfl
  obtain ⟨-, loaded⟩ :=
    loaders_agree.1 2 2 tiles raw.start raw.goal (by decide) (by decide) word size
  exact ⟨size, word, storable, rfl, refused, (loaded storable).trans (congrArg some refused)⟩

end Labyrinth.Layout
