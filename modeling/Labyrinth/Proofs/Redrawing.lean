import Labyrinth.Proofs.Symmetry

/-!
# Turned, mirrored and walled in

Three ways to draw a layout again without a change for the robots in it. A quarter turn exchanges the
sides of the grid. A mirror image exchanges left and right, so the texts have to exchange their turns. And
around the grid there may be as many walls as one likes, since outside of it walls are seen anyway. Each is
the image of a symmetry, and all that remains to be shown is that the symmetry sends the cells of the
old grid into the new one. No coordinate is cut down there, since the sides of both grids are signed
words; on the rest of the plane the coordinates wrap around.
-/

namespace Labyrinth

/-! ### A quarter turn -/

/-- Where a cell of a grid of this width is after a quarter turn to the left. -/
def Cell.quarterTurned (width : Nat) (c : Cell) : Cell := ⟨c.row, (width - 1 - c.column : Int)⟩

/-- Where it was before. -/
def Cell.quarterTurnedBack (width : Nat) (c : Cell) : Cell := ⟨(width - 1 - c.row : Int), c.column⟩

theorem Cell.quarterTurnedBack_quarterTurned (width : Nat) (c : Cell) :
    (c.quarterTurned width).quarterTurnedBack width = c :=
  Cell.ext (Coordinate.opposite_opposite width c.column) rfl

theorem Cell.quarterTurned_quarterTurnedBack (width : Nat) (c : Cell) :
    (c.quarterTurnedBack width).quarterTurned width = c :=
  Cell.ext rfl (Coordinate.opposite_opposite width c.row)

theorem Cell.quarterTurned_add_offset (width : Nat) (c : Cell) (h : Heading) :
    (c + h.offset).quarterTurned width = c.quarterTurned width + h.turnLeft.offset := by
  refine Cell.ext ?_ ((Coordinate.opposite_add width c.column h.offset.column).trans ?_)
  · cases h <;> rfl
  · cases h <;> rfl

def Robot.quarterTurned (width : Nat) (r : Robot) : Robot :=
  ⟨r.position.quarterTurned width, r.heading.turnLeft⟩

/-- Turning a grid of this width to the left. -/
def Symmetry.quarterTurn (width : Nat) : Symmetry where
  cell :=
    { toFun := Cell.quarterTurned width
      invFun := Cell.quarterTurnedBack width
      left_inv := Cell.quarterTurnedBack_quarterTurned width
      right_inv := Cell.quarterTurned_quarterTurnedBack width }
  heading := Heading.turnLeft
  mirrored := false
  cell_add_offset := Cell.quarterTurned_add_offset width
  heading_turnLeft _ := rfl

namespace Layout

/-- The layout after a quarter turn to the left. -/
def quarterTurned (layout : Layout) : Layout :=
  (Symmetry.quarterTurn layout.width).image layout.height layout.width layout

theorem inside_quarterTurned_iff {layout : Layout} (width : layout.width ≤ 0x7fffffff) {c : Cell} :
    layout.quarterTurned.Inside (c.quarterTurned layout.width) ↔ layout.Inside c :=
  (and_congr_right' (Coordinate.within_opposite_iff width c.column)).trans and_comm

/-- A layout may be turned. After a quarter turn to the left its sides are exchanged, the tile in row
    `r` and column `c` is in column `r` and in row `width - 1 - c`, and so are start and goal; the robot
    starts with its heading turned to the left. A loader gives this layout out as well, and the verdict on
    each text is the same under all limits, but for the robot, which is left where it is after the turn. -/
theorem quarter_turn_symmetry {layout : Layout} (loaded : layout.Loaded)
    (width : layout.width ≤ 0x7fffffff) (height : layout.height ≤ 0x7fffffff) :
    let turned := layout.quarterTurned
    ((turned.width = layout.height ∧ turned.height = layout.width) ∧
      (∀ c : Cell, turned.tile? (c.quarterTurned layout.width) = layout.tile? c) ∧
      turned.start = layout.start.quarterTurned layout.width ∧
      turned.goal = layout.goal.quarterTurned layout.width) ∧
    turned.Loaded ∧
    ∀ limits text, (Arena.mk limits turned).judge text =
      ((Arena.mk limits layout).judge text).mapRobot (Robot.quarterTurned layout.width) := by
  intro turned
  have covers : ∀ c, layout.Inside c → turned.Inside (c.quarterTurned layout.width) := by
    intro c inside
    exact (inside_quarterTurned_iff width).2 inside
  refine ⟨⟨⟨rfl, rfl⟩, ?_, rfl, rfl⟩, ?_, ?_⟩
  · exact Symmetry.tile?_image_of_inside_iff loaded.wellFormed fun _ => inside_quarterTurned_iff width
  · exact Symmetry.loaded_image loaded covers height width
  · intro limits text
    exact (Symmetry.depicts_image covers).judge_of_not_mirrored rfl limits text

/-- Around a corner, before and after the turn. -/
theorem quarter_turn_symmetry_corner :
    let layout : Layout := ⟨3, 2, #[.free, .free, .free, .wall, .wall, .free], ⟨⟨0, 0⟩, .right⟩, ⟨2, 1⟩⟩
    layout.Loaded ∧ layout.width ≤ 0x7fffffff ∧ layout.height ≤ 0x7fffffff ∧
      layout.quarterTurned.Loaded ∧ layout.quarterTurned.tile? ⟨1, 0⟩ = some .free ∧
      (Arena.mk {} layout.quarterTurned).judge "++>+=".toList =
        .completed ⟨.goalReached, 4, ⟨⟨1, 0⟩, .right⟩⟩ false := by
  intro layout
  have drawing : load? [[' ', ' ', ' '], ['#', '#', ' ']] layout.start layout.goal =
      some (.ok layout) := rfl
  obtain ⟨⟨-, tiles, -⟩, loaded, judged⟩ :=
    quarter_turn_symmetry (.drawn drawing) (by decide) (by decide)
  have corner : Cell.quarterTurned layout.width ⟨2, 1⟩ = ⟨1, 0⟩ := by decide
  have free := tiles ⟨2, 1⟩
  rw [corner] at free
  refine ⟨.drawn drawing, by decide, by decide, loaded, free, ?_⟩
  rw [judged]
  decide

end Layout

/-! ### A mirror image -/

/-- Where a cell of a grid of this width is seen in a mirror. -/
def Cell.mirrored (width : Nat) (c : Cell) : Cell := ⟨(width - 1 - c.column : Int), c.row⟩

theorem Cell.mirrored_mirrored (width : Nat) (c : Cell) : (c.mirrored width).mirrored width = c :=
  Cell.ext (Coordinate.opposite_opposite width c.column) rfl

/-- The heading as it is seen in a mirror. -/
def Heading.mirrored : Heading → Heading
  | .left => .right
  | .right => .left
  | .up => .up
  | .down => .down

theorem Cell.mirrored_add_offset (width : Nat) (c : Cell) (h : Heading) :
    (c + h.offset).mirrored width = c.mirrored width + h.mirrored.offset := by
  refine Cell.ext ((Coordinate.opposite_add width c.column h.offset.column).trans ?_) ?_
  · cases h <;> rfl
  · cases h <;> rfl

def Robot.mirrored (width : Nat) (r : Robot) : Robot :=
  ⟨r.position.mirrored width, r.heading.mirrored⟩

/-- Seeing a grid of this width in a mirror. -/
def Symmetry.mirror (width : Nat) : Symmetry where
  cell :=
    { toFun := Cell.mirrored width
      invFun := Cell.mirrored width
      left_inv := Cell.mirrored_mirrored width
      right_inv := Cell.mirrored_mirrored width }
  heading := Heading.mirrored
  mirrored := true
  cell_add_offset := Cell.mirrored_add_offset width
  heading_turnLeft := by
    intro h
    cases h <;> rfl

namespace Layout

/-- The layout as it is seen in a mirror. -/
def mirrored (layout : Layout) : Layout :=
  (Symmetry.mirror layout.width).image layout.width layout.height layout

theorem inside_mirrored_iff {layout : Layout} (width : layout.width ≤ 0x7fffffff) {c : Cell} :
    layout.mirrored.Inside (c.mirrored layout.width) ↔ layout.Inside c :=
  and_congr_left' (Coordinate.within_opposite_iff width c.column)

/-- A layout may be seen in a mirror. Column `c` is then column `width - 1 - c`, for the tiles, the start
    and the goal, and left and right are exchanged for the heading. A loader gives this layout out as
    well, and the verdict on a text with its turns exchanged is the verdict on the text itself under all
    limits, but for the robot, which is left where it is seen in the mirror. -/
theorem mirror_symmetry {layout : Layout} (loaded : layout.Loaded)
    (width : layout.width ≤ 0x7fffffff) (height : layout.height ≤ 0x7fffffff) :
    let image := layout.mirrored
    ((image.width = layout.width ∧ image.height = layout.height) ∧
      (∀ c : Cell, image.tile? (c.mirrored layout.width) = layout.tile? c) ∧
      image.start = layout.start.mirrored layout.width ∧
      image.goal = layout.goal.mirrored layout.width) ∧
    image.Loaded ∧
    ∀ limits text, (Arena.mk limits image).judge (Source.exchangeTurns text) =
      ((Arena.mk limits layout).judge text).mapRobot (Robot.mirrored layout.width) := by
  intro image
  have covers : ∀ c, layout.Inside c → image.Inside (c.mirrored layout.width) := by
    intro c inside
    exact (inside_mirrored_iff width).2 inside
  refine ⟨⟨⟨rfl, rfl⟩, ?_, rfl, rfl⟩, ?_, ?_⟩
  · exact Symmetry.tile?_image_of_inside_iff loaded.wellFormed fun _ => inside_mirrored_iff width
  · exact Symmetry.loaded_image loaded covers width height
  · intro limits text
    exact (Symmetry.depicts_image covers).judge Source.exchangingTurns rfl limits text

/-- Around a corner, in the mirror to the other side. -/
theorem mirror_symmetry_corner :
    let layout : Layout := ⟨3, 2, #[.free, .free, .free, .wall, .wall, .free], ⟨⟨0, 0⟩, .right⟩, ⟨2, 1⟩⟩
    layout.Loaded ∧ layout.width ≤ 0x7fffffff ∧ layout.height ≤ 0x7fffffff ∧
      layout.mirrored.Loaded ∧ layout.mirrored.tile? ⟨0, 1⟩ = some .free ∧
      (Arena.mk {} layout.mirrored).judge "++<+=".toList =
        .completed ⟨.goalReached, 4, ⟨⟨0, 1⟩, .down⟩⟩ false := by
  intro layout
  have drawing : load? [[' ', ' ', ' '], ['#', '#', ' ']] layout.start layout.goal =
      some (.ok layout) := rfl
  obtain ⟨⟨-, tiles, -⟩, loaded, judged⟩ :=
    mirror_symmetry (.drawn drawing) (by decide) (by decide)
  have corner : Cell.mirrored layout.width ⟨2, 1⟩ = ⟨0, 1⟩ := by decide
  have free := tiles ⟨2, 1⟩
  rw [corner] at free
  have respelled : Source.exchangeTurns "++>+=".toList = "++<+=".toList := by decide
  refine ⟨.drawn drawing, by decide, by decide, loaded, free, ?_⟩
  rw [← respelled, judged]
  decide

end Layout

/-! ### Walls around the grid -/

/-- A cell moved to the right and down. -/
def Cell.moved (columns rows : Nat) (c : Cell) : Cell :=
  ⟨(c.column + columns : Int), (c.row + rows : Int)⟩

/-- A cell moved to the left and up. -/
def Cell.movedBack (columns rows : Nat) (c : Cell) : Cell :=
  ⟨(c.column - columns : Int), (c.row - rows : Int)⟩

theorem Cell.movedBack_moved (columns rows : Nat) (c : Cell) :
    (c.moved columns rows).movedBack columns rows = c := by
  ext1 <;> simp only [moved, movedBack, Int32.ofInt_add, Int32.ofInt_sub, Int32.ofInt_toInt] <;> grind

theorem Cell.moved_movedBack (columns rows : Nat) (c : Cell) :
    (c.movedBack columns rows).moved columns rows = c := by
  ext1 <;> simp only [moved, movedBack, Int32.ofInt_add, Int32.ofInt_sub, Int32.ofInt_toInt] <;> grind

theorem Cell.moved_add_offset (columns rows : Nat) (c : Cell) (h : Heading) :
    (c + h.offset).moved columns rows = c.moved columns rows + h.offset := by
  ext1 <;> simp only [moved, column_add, row_add, Int32.ofInt_add, Int32.ofInt_toInt] <;> grind

def Robot.moved (columns rows : Nat) (r : Robot) : Robot :=
  { r with position := r.position.moved columns rows }

/-- Moving a grid to the right and down. -/
def Symmetry.moving (columns rows : Nat) : Symmetry where
  cell :=
    { toFun := Cell.moved columns rows
      invFun := Cell.movedBack columns rows
      left_inv := Cell.movedBack_moved columns rows
      right_inv := Cell.moved_movedBack columns rows }
  heading := id
  mirrored := false
  cell_add_offset := Cell.moved_add_offset columns rows
  heading_turnLeft _ := rfl

namespace Layout

/-- The layout with rows and columns of walls around it. -/
def enlarged (above below left right : Nat) (layout : Layout) : Layout :=
  (Symmetry.moving left above).image (layout.width + left + right) (layout.height + above + below)
    layout

variable {above below left right : Nat} {layout : Layout}

theorem inside_enlarged (width : layout.width + left + right ≤ 0x7fffffff)
    (height : layout.height + above + below ≤ 0x7fffffff) {c : Cell} (inside : layout.Inside c) :
    (layout.enlarged above below left right).Inside (c.moved left above) := by
  obtain ⟨⟨west, east⟩, north, south⟩ := inside
  have columns : (Int32.ofInt (c.column + left)).toInt = c.column + left :=
    Int32.toInt_ofInt_of_le (by omega) (by omega)
  have rows : (Int32.ofInt (c.row + above)).toInt = c.row + above :=
    Int32.toInt_ofInt_of_le (by omega) (by omega)
  simp only [Inside, enlarged, Symmetry.image, Cell.moved]
  omega

/-- The cells that do not come from the layout are walls. -/
theorem tile?_enlarged_of_new {c : Cell} (shown : (layout.enlarged above below left right).Inside c)
    (new : ∀ old, layout.Inside old → old.moved left above ≠ c) :
    (layout.enlarged above below left right).tile? c = some .wall := by
  have outside : ¬layout.Inside ((Symmetry.moving left above).cell.symm c) := by
    intro inside
    exact new _ inside ((Symmetry.moving left above).cell.apply_symm_apply c)
  have seen := Symmetry.tile?_image shown
  rwa [look_of_outside outside] at seen

/-- What is outside the grid is as good as a wall. With rows of walls added above and below and columns of
    walls on the left and on the right, and with start and goal moved along, a layout is still one that
    a loader gives out, and the verdict on each text is the same under all limits, but for the robot,
    which is left so many rows and columns further. -/
theorem outside_is_as_good_as_wall (loaded : layout.Loaded) (above below left right : Nat)
    (width : layout.width + left + right ≤ 0x7fffffff)
    (height : layout.height + above + below ≤ 0x7fffffff) :
    let enlarged := layout.enlarged above below left right
    ((enlarged.width = layout.width + left + right ∧
        enlarged.height = layout.height + above + below) ∧
      (∀ c, layout.Inside c → enlarged.tile? (c.moved left above) = layout.tile? c) ∧
      (∀ c, enlarged.Inside c → (∀ old, layout.Inside old → old.moved left above ≠ c) →
        enlarged.tile? c = some .wall) ∧
      enlarged.start = layout.start.moved left above ∧ enlarged.goal = layout.goal.moved left above) ∧
    enlarged.Loaded ∧
    ∀ limits text, (Arena.mk limits enlarged).judge text =
      ((Arena.mk limits layout).judge text).mapRobot (Robot.moved left above) := by
  intro enlarged
  have covers : ∀ c, layout.Inside c → enlarged.Inside (c.moved left above) := by
    intro c inside
    exact inside_enlarged width height inside
  refine ⟨⟨⟨rfl, rfl⟩, ?_, ?_, rfl, rfl⟩, ?_, ?_⟩
  · intro c inside
    exact Symmetry.tile?_image_cell loaded.wellFormed inside (covers c inside)
  · intro c shown new
    exact tile?_enlarged_of_new shown new
  · exact Symmetry.loaded_image loaded covers width height
  · intro limits text
    exact (Symmetry.depicts_image covers).judge_of_not_mirrored rfl limits text

/-- Two cells walled in unevenly: a step off the grid and a step into the wall. -/
theorem outside_is_as_good_as_wall_pair :
    let layout : Layout := ⟨2, 1, #[.free, .free], ⟨⟨0, 0⟩, .left⟩, ⟨1, 0⟩⟩
    let enlarged := layout.enlarged 1 0 2 1
    layout.Loaded ∧ layout.width + 2 + 1 ≤ 0x7fffffff ∧ layout.height + 1 + 0 ≤ 0x7fffffff ∧
      enlarged.Loaded ∧ enlarged.tile? ⟨3, 1⟩ = some .free ∧ enlarged.tile? ⟨1, 1⟩ = some .wall ∧
      (Arena.mk {} enlarged).judge "+".toList =
        .completed ⟨.wallHit, 1, ⟨⟨2, 1⟩, .left⟩⟩ false := by
  intro layout enlarged
  have drawing : load? [[' ', ' ']] layout.start layout.goal = some (.ok layout) := rfl
  obtain ⟨⟨-, tiles, walls, -⟩, loaded, judged⟩ :=
    outside_is_as_good_as_wall (.drawn drawing) 1 0 2 1 (by decide) (by decide)
  have corner : Cell.moved 2 1 ⟨1, 0⟩ = ⟨3, 1⟩ := rfl
  have free := tiles ⟨1, 0⟩ (by decide)
  rw [corner] at free
  refine ⟨.drawn drawing, by decide, by decide, loaded, free, ?_, ?_⟩
  · refine walls ⟨1, 1⟩ (by decide) ?_
    rintro old ⟨⟨first, last⟩, -⟩ moved
    have last : old.column.toInt < 2 := last
    have column : Int32.ofInt (old.column + 2) = 1 := congrArg Cell.column moved
    have sum : (Int32.ofInt (old.column + 2)).toInt = old.column + 2 :=
      Int32.toInt_ofInt_of_le (by omega) (by omega)
    rw [column] at sum
    have one : (1 : Int32).toInt = 1 := rfl
    omega
  · rw [judged]
    decide

end Layout

end Labyrinth
