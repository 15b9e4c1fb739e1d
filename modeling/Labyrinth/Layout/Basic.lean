import Labyrinth.Robot
import Labyrinth.Text.Quoted
import Labyrinth.Tile

/-!
# Layouts

A layout is a grid of tiles stored row by row, with the robot's start and the goal cell. Looking at
a cell outside the grid shows a wall. `Layout.WellFormed` is what every loader promises: the grid is
not empty, it has one tile a cell, and start and goal lie on free floor. `Layout.checked` refuses
everything else and names the first fault.
-/

namespace Labyrinth

/-- A grid of tiles, where the robot starts, and where it is to get to. -/
structure Layout where
  width : Nat
  height : Nat
  tiles : Array Tile
  start : Robot
  goal : Cell
  deriving DecidableEq

/-- The two cells of a layout that must lie on free floor. -/
inductive Landmark where
  | start | goal
  deriving DecidableEq

def Landmark.name : Landmark → String
  | .start => "start"
  | .goal => "goal"

/-- Why a layout is refused. -/
inductive LayoutError where
  | empty
  | tileCount (found expected : Nat)
  | raggedRow (row found expected : Nat)
  | unknownTile (tile : Char) (row column : Nat)
  | outside (what : Landmark) (cell : Cell)
  | walled (what : Landmark) (cell : Cell)
  deriving DecidableEq

namespace LayoutError

/-- A cell in the words of a message: row first. -/
def place (cell : Cell) : String :=
  "(row " ++ toString cell.row ++ ", column " ++ toString cell.column ++ ")"

def message : LayoutError → String
  | .empty => "layout has no rows"
  | .tileCount found expected =>
    "layout has " ++ toString found ++ " tiles, expected " ++ toString expected
  | .raggedRow row found expected =>
    "row " ++ toString row ++ " is " ++ toString found ++ " tiles wide, expected " ++
      toString expected
  | .unknownTile tile row column =>
    "unknown tile " ++ Text.quoted tile ++ " at row " ++ toString row ++ ", column " ++
      toString column
  | .outside what cell => what.name ++ " cell " ++ place cell ++ " lies outside the grid"
  | .walled what cell => what.name ++ " cell " ++ place cell ++ " is a wall"

end LayoutError

namespace Layout

/-- The number of cells of the grid. -/
def area (layout : Layout) : Nat := layout.width * layout.height

/-- Whether `cell` is one of the cells of the grid. -/
def Inside (layout : Layout) (cell : Cell) : Prop :=
  (0 ≤ cell.column.toInt ∧ cell.column.toInt < layout.width) ∧
    0 ≤ cell.row.toInt ∧ cell.row.toInt < layout.height

instance (layout : Layout) (cell : Cell) : Decidable (layout.Inside cell) :=
  inferInstanceAs (Decidable (_ ∧ _))

/-- Where the tile of a cell of the grid is stored: rows one after the other. -/
def index (layout : Layout) (cell : Cell) : Nat :=
  cell.row.toInt.toNat * layout.width + cell.column.toInt.toNat

/-- The tile of a cell, or nothing outside the grid. -/
def tile? (layout : Layout) (cell : Cell) : Option Tile :=
  if layout.Inside cell then layout.tiles[layout.index cell]? else none

/-- What a robot sees on a cell: outside the grid there is wall. -/
def look (layout : Layout) (cell : Cell) : Tile := (layout.tile? cell).getD .wall

/-- Whether a robot may not enter a cell. -/
def isWall (layout : Layout) (cell : Cell) : Bool := layout.look cell = .wall

/-- What every loader promises of a layout. -/
structure WellFormed (layout : Layout) : Prop where
  width_pos : 0 < layout.width
  height_pos : 0 < layout.height
  size_tiles : layout.tiles.size = layout.area
  start_free : layout.tile? layout.start.position = some .free
  goal_free : layout.tile? layout.goal = some .free

/-- The largest number of tiles that a message can name: counts are words of 64 bits. -/
def largestCount : Nat := 0xffffffffffffffff

/-- Refuses a landmark that lies outside the grid or on a wall. -/
def checkFree (layout : Layout) (what : Landmark) (cell : Cell) : Except LayoutError Unit :=
  match layout.tile? cell with
  | none => .error (.outside what cell)
  | some .wall => .error (.walled what cell)
  | some .free => .ok ()

/-- The layout itself if it is well formed, and else the first fault: size, tiles, start, goal. -/
def checked (layout : Layout) : Except LayoutError Layout :=
  if layout.area = 0 then .error .empty
  else if layout.tiles.size ≠ layout.area then
    .error (.tileCount layout.tiles.size (min layout.area largestCount))
  else do
    layout.checkFree .start layout.start.position
    layout.checkFree .goal layout.goal
    return layout

/-! ### What is seen on a cell -/

theorem inside_of_tile? {layout : Layout} {cell : Cell} {tile : Tile}
    (h : layout.tile? cell = some tile) : layout.Inside cell := by
  unfold tile? at h
  split at h
  · next inside => exact inside
  · cases h

/-- A robot may enter exactly the cells of the grid with free floor. -/
theorem isWall_eq_false_iff {layout : Layout} {cell : Cell} :
    layout.isWall cell = false ↔ layout.tile? cell = some .free := by
  unfold isWall look
  cases layout.tile? cell with
  | none => simp
  | some tile => cases tile <;> simp

/-! ### What passes the check -/

theorem checkFree_eq_ok_iff {layout : Layout} {what : Landmark} {cell : Cell} :
    layout.checkFree what cell = .ok () ↔ layout.tile? cell = some .free := by
  unfold checkFree
  split <;> simp [*]

/-- A layout passes exactly when it is well formed, and then unchanged. -/
theorem checked_eq_ok_iff {layout result : Layout} :
    layout.checked = .ok result ↔ result = layout ∧ layout.WellFormed := by
  unfold checked
  split
  · next empty =>
    refine ⟨nofun, fun ⟨_, h⟩ => ?_⟩
    exact absurd empty (Nat.ne_of_gt (Nat.mul_pos h.width_pos h.height_pos))
  · next area =>
    split
    · next size => exact ⟨nofun, fun ⟨_, h⟩ => absurd h.size_tiles size⟩
    · next size =>
      constructor
      · intro passed
        match start : layout.checkFree .start layout.start.position,
          goal : layout.checkFree .goal layout.goal with
        | .ok (), .ok () =>
          rw [start, goal] at passed
          cases passed
          exact ⟨rfl, Nat.pos_of_mul_pos_right (Nat.pos_of_ne_zero area),
            Nat.pos_of_mul_pos_left (Nat.pos_of_ne_zero area), Decidable.not_not.1 size,
            checkFree_eq_ok_iff.1 start, checkFree_eq_ok_iff.1 goal⟩
        | .ok (), .error _ => rw [start, goal] at passed; cases passed
        | .error _, _ => rw [start] at passed; cases passed
      · rintro ⟨rfl, h⟩
        rw [checkFree_eq_ok_iff.2 h.start_free, checkFree_eq_ok_iff.2 h.goal_free]
        rfl

end Layout

end Labyrinth
