import Labyrinth.Program.Run

/-!
# What becomes of a step

A move is a turn, or it is a step in some direction, which a wall stops and any other cell admits:
`Robot.perform_cases` says so of every move, and `Machine.execute_cases` of every instruction. What is
proved of the cells that a robot comes to rests on these two.
-/

namespace Labyrinth

/-- The way that a move goes from a heading, if it goes anywhere. -/
def Move.course? (h : Heading) : Move → Option Heading
  | .forward => some h
  | .backward => some h.opposite
  | .turnLeft | .turnRight => none

/-- The move that an instruction makes, if it is one. -/
def Instruction.move? : Instruction → Option Move
  | .move m => some m
  | .jump _ | .jumpIf _ _ => none

namespace Robot

variable {layout : Layout} {r : Robot} {m : Move} {toward : Heading}

theorem perform_of_course (course : m.course? r.heading = some toward) :
    r.perform layout m = r.step layout toward := by
  cases m <;> cases course <;> rfl

theorem perform_of_no_course (course : m.course? r.heading = none) :
    (r.perform layout m).1 = .clear ∧ (r.perform layout m).2.position = r.position := by
  cases m with
  | forward => cases course
  | backward => cases course
  | turnLeft => exact ⟨rfl, rfl⟩
  | turnRight => exact ⟨rfl, rfl⟩

/-- What becomes of a move: without a course it is clear and stays on its cell, towards a wall it leaves
    the robot as it was, and otherwise it enters the next cell. -/
theorem perform_cases (layout : Layout) (r : Robot) (m : Move) :
    (m.course? r.heading = none ∧ (r.perform layout m).1 = .clear ∧
        (r.perform layout m).2.position = r.position) ∨
      ∃ toward, m.course? r.heading = some toward ∧
        (layout.isWall (r.position + toward.offset) = true ∧ r.perform layout m = (.wallHit, r) ∨
          layout.isWall (r.position + toward.offset) = false ∧
            r.perform layout m =
              (if r.position + toward.offset = layout.goal then .goalReached else .clear,
                ⟨r.position + toward.offset, r.heading⟩)) := by
  cases course : m.course? r.heading with
  | none => exact .inl ⟨rfl, perform_of_no_course course⟩
  | some toward =>
    refine .inr ⟨toward, rfl, ?_⟩
    rw [perform_of_course course]
    cases wall : layout.isWall (r.position + toward.offset) with
    | true => exact .inl ⟨rfl, step_of_wall wall⟩
    | false => exact .inr ⟨rfl, step_of_free wall⟩

end Robot

namespace Machine

variable {m : Machine} {i : Instruction} {cell : Cell}

/-- The cell that an instruction is to enter, if it is a step. -/
def destination? (m : Machine) (i : Instruction) : Option Cell :=
  (i.move?.bind (·.course? m.robot.heading)).map (m.robot.position + ·.offset)

/-- Only a step is to enter a cell. -/
theorem isStep_of_destination? (enters : m.destination? i = some cell) :
    i = .move .forward ∨ i = .move .backward := by
  cases i with
  | move move =>
    cases move with
    | forward => exact .inl rfl
    | backward => exact .inr rfl
    | turnLeft => cases enters
    | turnRight => cases enters
  | jump target => cases enters
  | jumpIf sensed target => cases enters

/-- What becomes of an instruction: one that is to enter no cell is clear and leaves the robot on its
    own, a step towards a wall leaves it as it was, and every other step enters its cell. -/
theorem execute_cases (layout : Layout) (m : Machine) (i : Instruction) :
    (m.destination? i = none ∧ (m.execute layout i).1 = .clear ∧
        (m.execute layout i).2.robot.position = m.robot.position) ∨
      ∃ cell, m.destination? i = some cell ∧
        (layout.isWall cell = true ∧
            m.execute layout i = (.wallHit, ⟨m.pointer + 1, m.robot⟩) ∨
          layout.isWall cell = false ∧
            m.execute layout i = (if cell = layout.goal then .goalReached else .clear,
              ⟨m.pointer + 1, cell, m.robot.heading⟩)) := by
  cases i with
  | jump target => exact .inl ⟨rfl, rfl, rfl⟩
  | jumpIf sensed target => exact .inl ⟨rfl, rfl, rfl⟩
  | move move =>
    rcases m.robot.perform_cases layout move with ⟨course, clear, same⟩ | ⟨toward, course, there⟩
    · refine .inl ⟨?_, clear, same⟩
      simp only [destination?, Instruction.move?, Option.bind_some, course, Option.map_none]
    · refine .inr ⟨m.robot.position + toward.offset, ?_, ?_⟩
      · simp only [destination?, Instruction.move?, Option.bind_some, course, Option.map_some]
      · rcases there with ⟨wall, stays⟩ | ⟨free, goes⟩
        · exact .inl ⟨wall, by rw [execute, stays]⟩
        · exact .inr ⟨free, by rw [execute, goes]⟩

end Machine

end Labyrinth
