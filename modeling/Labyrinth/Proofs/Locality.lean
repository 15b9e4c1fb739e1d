import Mathlib.Tactic.IntervalCases
import Labyrinth.Proofs.Indexing
import Labyrinth.Proofs.RoundTrip

/-!
# How far a run can see

With each instruction a robot moves by one cell at most and looks at a cell next to it. So what a run
does is settled by the goal and by the cells that its budget lets it come near: in two layouts that
agree on these, every instruction does the same (`AgreesNear.execute_eq`), and it leads one cell further
from the start at most (`Machine.distance_execute_le`). Together this keeps the two runs in step, with the
distance gone and the budget left in balance (`AgreesNear.lockstep`).
-/

namespace Labyrinth

/-! ### Distances -/

/-- How many steps apart two cells are, walls aside. -/
def Cell.distance (a b : Cell) : Nat :=
  (a.column.toInt - b.column.toInt).natAbs + (a.row.toInt - b.row.toInt).natAbs

@[simp] theorem Cell.distance_self (a : Cell) : a.distance a = 0 := by simp [distance]

variable {layout other : Layout} {center : Cell} {radius : Nat}

/-- The next cell is one step further at most. -/
theorem Cell.Adjacent.distance_le {a b : Cell} (adjacent : a.Adjacent b) (center : Cell) :
    b.distance center ≤ a.distance center + 1 := by
  unfold Cell.distance
  rcases adjacent with ⟨row, column⟩ | ⟨column, row⟩
  · rw [row]
    omega
  · rw [column]
    omega

/-- In a grid whose sides are signed words, a move leads one step further at most. -/
theorem Robot.distance_perform_le (sides : layout.width ≤ 0x7fffffff ∧ layout.height ≤ 0x7fffffff)
    (center : Cell) (r : Robot) (m : Move) :
    (r.perform layout m).2.position.distance center ≤ r.position.distance center + 1 := by
  rcases r.position_perform layout m with same | ⟨toward, goes, entered⟩
  · rw [same]
    exact Nat.le_succ _
  · rw [goes]
    have adjacent := (r.position.adjacent_or_across toward).resolve_right fun across =>
      across.not_inside sides.1 sides.2 entered
    exact adjacent.distance_le center

/-- And so does an instruction. -/
theorem Machine.distance_execute_le
    (sides : layout.width ≤ 0x7fffffff ∧ layout.height ≤ 0x7fffffff) (center : Cell) (m : Machine)
    (instruction : Instruction) :
    (m.execute layout instruction).2.robot.position.distance center ≤
      m.robot.position.distance center + 1 := by
  cases instruction with
  | move move => exact m.robot.distance_perform_le sides center move
  | jump target => exact Nat.le_succ _
  | jumpIf sensed target => exact Nat.le_succ _

/-! ### Layouts that agree near a cell -/

/-- The same goal, and the same walls on the cells that are at most so far from a cell, in grids whose
    sides are signed words. -/
structure Layout.AgreesNear (center : Cell) (radius : Nat) (layout other : Layout) : Prop where
  sides : layout.width ≤ 0x7fffffff ∧ layout.height ≤ 0x7fffffff
  other_sides : other.width ≤ 0x7fffffff ∧ other.height ≤ 0x7fffffff
  goal : other.goal = layout.goal
  isWall : ∀ c : Cell, c.distance center ≤ radius → other.isWall c = layout.isWall c

namespace Layout.AgreesNear

/-- One step from a cell that is nearer than that they still agree. -/
theorem isWall_add_offset (agrees : AgreesNear center radius layout other) {c : Cell}
    (within : c.distance center < radius) (toward : Heading) :
    other.isWall (c + toward.offset) = layout.isWall (c + toward.offset) := by
  rcases c.adjacent_or_across toward with adjacent | across
  · exact agrees.isWall _ (Nat.le_trans (adjacent.distance_le center) within)
  · -- what is across the seam lies outside of both grids
    have outside := across.not_inside agrees.sides.1 agrees.sides.2
    have outside_too := across.not_inside agrees.other_sides.1 agrees.other_sides.2
    rw [Layout.isWall, Layout.isWall, Layout.look_of_outside outside,
      Layout.look_of_outside outside_too]

theorem look_add_offset (agrees : AgreesNear center radius layout other) {c : Cell}
    (within : c.distance center < radius) (toward : Heading) :
    other.look (c + toward.offset) = layout.look (c + toward.offset) := by
  have same := agrees.isWall_add_offset within toward
  simp only [Layout.isWall] at same
  cases here : layout.look (c + toward.offset) <;> cases there : other.look (c + toward.offset) <;>
    simp [here, there] at same ⊢

theorem step_eq (agrees : AgreesNear center radius layout other) {r : Robot}
    (within : r.position.distance center < radius) (toward : Heading) :
    r.step other toward = r.step layout toward := by
  simp only [Robot.step, agrees.isWall_add_offset within toward, agrees.goal]

theorem perform_eq (agrees : AgreesNear center radius layout other) {r : Robot}
    (within : r.position.distance center < radius) (m : Move) :
    r.perform other m = r.perform layout m := by
  cases m with
  | forward => exact agrees.step_eq within r.heading
  | backward => exact agrees.step_eq within r.heading.opposite
  | turnLeft => rfl
  | turnRight => rfl

/-- What an instruction does is settled by the cells next to the robot. -/
theorem execute_eq (agrees : AgreesNear center radius layout other) {m : Machine}
    (within : m.robot.position.distance center < radius) (instruction : Instruction) :
    m.execute other instruction = m.execute layout instruction := by
  cases instruction with
  | move move => simp only [Machine.execute, agrees.perform_eq within move]
  | jump target => rfl
  | jumpIf sensed target =>
    have seen : other.look m.robot.ahead = layout.look m.robot.ahead :=
      agrees.look_add_offset within m.robot.heading
    simp only [Machine.execute, seen]

/-- The runs of a program in both layouts stay in step for as long as the distance gone and the budget
    left do not exceed the radius together. -/
theorem lockstep (agrees : AgreesNear center radius layout other) (program : Program) :
    Program.Lockstep program program layout other
      (fun left m n => n = m ∧ m.robot.position.distance center + left ≤ radius) where
  ended := by
    rintro left _ m ⟨rfl, -⟩ gone
    exact gone
  stepped := by
    rintro left _ m instruction ⟨rfl, within⟩ fetched
    have further := m.distance_execute_le agrees.sides center instruction
    have same := agrees.execute_eq (show m.robot.position.distance center < radius by omega) instruction
    exact ⟨instruction, fetched, by rw [same], by rw [same], by omega⟩

theorem run_eq (agrees : AgreesNear center radius layout other) (program : Program) {r : Robot}
    {limit : Nat} (within : r.position.distance center + limit ≤ radius) :
    program.run other r limit = program.run layout r limit := by
  have record := Program.recorded program layout limit 0 ⟨0, r⟩
  obtain ⟨_, last, _, ⟨rfl, -⟩, left_there, run⟩ :=
    (agrees.lockstep program).runFrom record ⟨rfl, within⟩
  rw [← left_there] at run
  exact run

end Layout.AgreesNear

/-- What cannot be reached cannot matter. Take two layouts of any size, with the same start and the same
    goal, and with the same walls on all cells at most `radius` steps from the start. Under limits of at
    most `radius` steps the verdict on every text is the same in both. -/
theorem Arena.verdicts_are_local
    (sides : layout.width ≤ 0x7fffffff ∧ layout.height ≤ 0x7fffffff)
    (other_sides : other.width ≤ 0x7fffffff ∧ other.height ≤ 0x7fffffff)
    (start : other.start = layout.start) (goal : other.goal = layout.goal)
    (near : ∀ c : Cell, c.distance layout.start.position ≤ radius → other.isWall c = layout.isWall c)
    (limits : Limits) (steps : limits.steps ≤ radius) (submitted : Source) :
    (Arena.mk limits other).judge submitted = (Arena.mk limits layout).judge submitted := by
  have agrees : Layout.AgreesNear layout.start.position radius layout other :=
    ⟨sides, other_sides, goal, near⟩
  have within : layout.start.position.distance layout.start.position + limits.steps ≤ radius := by
    rwa [Cell.distance_self, Nat.zero_add]
  simp only [judge, start, agrees.run_eq _ within]

/-- A long corridor and a room with a corner that differ from three steps on: two steps do not get there. -/
theorem Arena.verdicts_are_local_corner :
    let corridor : Layout := ⟨4, 1, #[.free, .free, .free, .free], ⟨⟨0, 0⟩, .right⟩, ⟨3, 0⟩⟩
    let room : Layout := ⟨5, 2, #[.free, .free, .free, .free, .free, .wall, .wall, .free, .free, .free],
      ⟨⟨0, 0⟩, .right⟩, ⟨3, 0⟩⟩
    (∀ c : Cell, c.distance corridor.start.position ≤ 2 → room.isWall c = corridor.isWall c) ∧
    room.isWall ⟨2, 1⟩ ≠ corridor.isWall ⟨2, 1⟩ ∧
    (Arena.mk ⟨8, 2⟩ room).judge "+?->+".toList =
      (Arena.mk ⟨8, 2⟩ corridor).judge "+?->+".toList ∧
    (Arena.mk ⟨8, 2⟩ room).judge "+?->+".toList = .completed ⟨.cutOff, 2, ⟨⟨1, 0⟩, .right⟩⟩ false := by
  intro corridor room
  have near : ∀ c : Cell, c.distance corridor.start.position ≤ 2 →
      room.isWall c = corridor.isWall c := by
    rintro ⟨column, row⟩ close
    rw [← Int32.ofInt_toInt column, ← Int32.ofInt_toInt row]
    have origin : corridor.start.position = ⟨0, 0⟩ := rfl
    simp only [Cell.distance, origin, Int32.toInt_zero] at close
    generalize column.toInt = x at close ⊢
    generalize row.toInt = y at close ⊢
    obtain ⟨left, right, top, bottom⟩ : -2 ≤ x ∧ x ≤ 2 ∧ -2 ≤ y ∧ y ≤ 2 := by omega
    interval_cases x <;> interval_cases y <;> revert close <;> decide
  have same := @verdicts_are_local corridor room 2 (by decide) (by decide) rfl rfl near ⟨8, 2⟩
    (Nat.le_refl 2) "+?->+".toList
  exact ⟨near, by decide, same, same.trans rfl⟩

end Labyrinth
