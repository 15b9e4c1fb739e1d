import Labyrinth.Layout.Basic

/-!
# Coordinates wrap around

A coordinate is a word, so the plane is closed: one step past the last column is the first one. A step
therefore leads to the next cell or across the seam (`Cell.adjacent_or_across`). No grid is on both
sides of it, because one of them is negative (`Cell.Across.not_both_inside`): a robot that steps from
cell to cell inside a grid only ever comes to the next one (`Layout.Inside.adjacent`). A grid whose sides
are signed words does not touch the seam at all (`Cell.Across.not_inside`).
-/

namespace Labyrinth

/-! ### Sums of words -/

namespace Coordinate

theorem bounds (x : Int32) : -0x80000000 ≤ x.toInt ∧ x.toInt ≤ 0x7fffffff :=
  ⟨x.le_toInt, Int.le_of_lt_add_one x.toInt_lt⟩

/-- A sum of words is right up to turns around the plane. -/
theorem exists_toInt_add (x y : Int32) :
    ∃ turns : Int, (x + y).toInt = x.toInt + y.toInt + 0x100000000 * turns := by
  have split : (x.toInt + y.toInt).bmod (2 ^ 32) + 0x100000000 * (x.toInt + y.toInt).bdiv (2 ^ 32) =
      x.toInt + y.toInt := Int.bmod_add_bdiv _ (2 ^ 32)
  rw [← Int32.toInt_add] at split
  exact ⟨-(x.toInt + y.toInt).bdiv (2 ^ 32), by omega⟩

theorem ofNat_toNat {x : Int32} (positive : 0 ≤ x.toInt) : Int32.ofNat x.toInt.toNat = x := by
  rw [← Int32.ofInt_eq_ofNat, Int.toNat_of_nonneg positive, Int32.ofInt_toInt]

/-- After the last coordinate comes the first. -/
theorem toInt_add_one (x : Int32) :
    (x + 1).toInt = x.toInt + 1 ∨ x.toInt = 0x7fffffff ∧ (x + 1).toInt = -0x80000000 := by
  obtain ⟨turns, sum⟩ := exists_toInt_add x 1
  have one : (1 : Int32).toInt = 1 := rfl
  have here := bounds x
  have there := bounds (x + 1)
  omega

/-- Before the first coordinate comes the last. -/
theorem toInt_add_neg_one (x : Int32) :
    (x + -1).toInt = x.toInt - 1 ∨ x.toInt = -0x80000000 ∧ (x + -1).toInt = 0x7fffffff := by
  obtain ⟨turns, sum⟩ := exists_toInt_add x (-1)
  have one : (-1 : Int32).toInt = -1 := rfl
  have here := bounds x
  have there := bounds (x + -1)
  omega

/-- The coordinate that is as far from the end of a row of cells as `x` is from its start. -/
def opposite (n : Nat) (x : Int32) : Int32 := (n - 1 - x : Int)

theorem opposite_opposite (n : Nat) (x : Int32) : opposite n (opposite n x) = x := by
  simp only [opposite, Int32.ofInt_sub, Int32.ofInt_toInt]
  grind

/-- One step is one step the other way there. -/
theorem opposite_add (n : Nat) (x y : Int32) : opposite n (x + y) = opposite n x + -y := by
  simp only [opposite, Int32.ofInt_sub, Int32.ofInt_toInt]
  grind

/-- In a row of cells that is not too long, it is exactly that far from the end. -/
theorem toInt_opposite {n : Nat} {x : Int32} (fits : n ≤ 0x7fffffff)
    (within : 0 ≤ x.toInt ∧ x.toInt < n) : (opposite n x).toInt = n - 1 - x.toInt :=
  Int32.toInt_ofInt_of_le (by omega) (by omega)

theorem within_opposite {n : Nat} {x : Int32} (fits : n ≤ 0x7fffffff)
    (within : 0 ≤ x.toInt ∧ x.toInt < n) :
    0 ≤ (opposite n x).toInt ∧ (opposite n x).toInt < n := by
  rw [toInt_opposite fits within]
  omega

/-- Counted from the end, the coordinates of a row of cells are the same. -/
theorem within_opposite_iff {n : Nat} (fits : n ≤ 0x7fffffff) (x : Int32) :
    (0 ≤ (opposite n x).toInt ∧ (opposite n x).toInt < n) ↔ 0 ≤ x.toInt ∧ x.toInt < n := by
  refine ⟨fun within => ?_, within_opposite fits⟩
  have back := within_opposite fits within
  rwa [opposite_opposite] at back

/-- A number that fits is the sum that it looks like. -/
theorem eq_add_one {x y : Int32} (next : y.toInt = x.toInt + 1) : y = x + 1 := by
  refine Int32.toInt_inj.1 ?_
  have here := bounds y
  have sum := toInt_add_one x
  omega

theorem eq_add_neg_one {x y : Int32} (next : y.toInt = x.toInt - 1) : y = x + -1 := by
  refine Int32.toInt_inj.1 ?_
  have here := bounds y
  have sum := toInt_add_neg_one x
  omega

/-- The last coordinate and the first, in either order. -/
def AcrossSeam (x y : Int32) : Prop :=
  x.toInt = 0x7fffffff ∧ y.toInt = -0x80000000 ∨ x.toInt = -0x80000000 ∧ y.toInt = 0x7fffffff

end Coordinate

/-! ### The next cell -/

/-- A step is one column or one row long. -/
theorem Heading.offset_bounds (h : Heading) :
    (-1 ≤ h.offset.column.toInt ∧ h.offset.column.toInt ≤ 1) ∧
      -1 ≤ h.offset.row.toInt ∧ h.offset.row.toInt ≤ 1 := by
  cases h <;> decide

namespace Cell

open Coordinate

/-- One cell apart in one direction and not in the other. -/
def Adjacent (a b : Cell) : Prop :=
  b.row = a.row ∧
      (b.column.toInt = a.column.toInt + 1 ∨ b.column.toInt = a.column.toInt - 1) ∨
    b.column = a.column ∧ (b.row.toInt = a.row.toInt + 1 ∨ b.row.toInt = a.row.toInt - 1)

/-- On both sides of the seam in one direction, and not apart in the other. -/
def Across (a b : Cell) : Prop :=
  b.row = a.row ∧ AcrossSeam a.column b.column ∨ b.column = a.column ∧ AcrossSeam a.row b.row

/-- No sum of two coordinates is too large or too small for a word. -/
def SumFits (a b : Cell) : Prop :=
  (-0x80000000 ≤ a.column.toInt + b.column.toInt ∧ a.column.toInt + b.column.toInt ≤ 0x7fffffff) ∧
    -0x80000000 ≤ a.row.toInt + b.row.toInt ∧ a.row.toInt + b.row.toInt ≤ 0x7fffffff

/-- A step leads to the next cell or across the seam. -/
theorem adjacent_or_across (c : Cell) (h : Heading) :
    c.Adjacent (c + h.offset) ∨ c.Across (c + h.offset) := by
  cases h with
  | up =>
    rcases toInt_add_neg_one c.row with next | seam
    · exact .inl (.inr ⟨Int32.add_zero _, .inr next⟩)
    · exact .inr (.inr ⟨Int32.add_zero _, .inr seam⟩)
  | down =>
    rcases toInt_add_one c.row with next | seam
    · exact .inl (.inr ⟨Int32.add_zero _, .inl next⟩)
    · exact .inr (.inr ⟨Int32.add_zero _, .inl seam⟩)
  | left =>
    rcases toInt_add_neg_one c.column with next | seam
    · exact .inl (.inl ⟨Int32.add_zero _, .inr next⟩)
    · exact .inr (.inl ⟨Int32.add_zero _, .inr seam⟩)
  | right =>
    rcases toInt_add_one c.column with next | seam
    · exact .inl (.inl ⟨Int32.add_zero _, .inl next⟩)
    · exact .inr (.inl ⟨Int32.add_zero _, .inl seam⟩)

@[simp] theorem add_offset_opposite (c : Cell) (h : Heading) :
    c + h.offset + h.opposite.offset = c := by
  cases h <;> ext1 <;> simp only [Heading.offset, Heading.opposite, column_add, row_add] <;> grind

/-- One side of the seam is negative, so a grid is never on both. -/
theorem Across.not_both_inside {a b : Cell} {layout other : Layout} (across : a.Across b)
    (here : layout.Inside a) (there : other.Inside b) : False := by
  obtain ⟨⟨left, -⟩, top, -⟩ := here
  obtain ⟨⟨left_there, -⟩, top_there, -⟩ := there
  rcases across with ⟨-, columns⟩ | ⟨-, rows⟩
  · unfold AcrossSeam at columns
    omega
  · unfold AcrossSeam at rows
    omega

/-- A grid whose sides are signed words does not even touch the seam. -/
theorem Across.not_inside {a b : Cell} {layout : Layout} (across : a.Across b)
    (width : layout.width ≤ 0x7fffffff) (height : layout.height ≤ 0x7fffffff) :
    ¬layout.Inside b := by
  rintro ⟨⟨left, right⟩, top, bottom⟩
  rcases across with ⟨-, columns⟩ | ⟨-, rows⟩
  · unfold AcrossSeam at columns
    omega
  · unfold AcrossSeam at rows
    omega

end Cell

/-- From cell to cell inside a grid, however large it is, a step leads to the next cell. -/
theorem Layout.Inside.adjacent {layout : Layout} {c : Cell} {h : Heading} (here : layout.Inside c)
    (there : layout.Inside (c + h.offset)) : c.Adjacent (c + h.offset) :=
  (c.adjacent_or_across h).resolve_right fun across => across.not_both_inside here there

end Labyrinth
