import Labyrinth.Proofs.Coordinates
import Labyrinth.Proofs.Loaders
import Labyrinth.Proofs.Runs
import Labyrinth.Proofs.Steps

/-!
# A robot stays on free floor

Whatever is asked of a maze, by single moves or by whole programs, its robot stands on free floor
inside the grid, and a step takes it to the next cell or nowhere. The invariant is `OnFloor`: the
start of a loaded layout has it, and a step only ever enters a cell that is no wall. Where the sum of
coordinates wraps around, it leads out of the grid, so no such step is made. In a grid whose sides are
signed words of 32 bits, the sum ahead of a robot does not even wrap around.
-/

namespace Labyrinth

namespace Robot

variable {layout : Layout} {r : Robot}

/-- The robot after two quarter turns to the left. -/
def halfTurned (r : Robot) : Robot := r.turnLeft.turnLeft

@[simp] theorem position_halfTurned (r : Robot) : r.halfTurned.position = r.position := rfl

@[simp] theorem heading_halfTurned (r : Robot) : r.halfTurned.heading = r.heading.opposite :=
  Heading.turnLeft_two r.heading

/-- A step backward is a step forward between two half turns. -/
theorem perform_backward (layout : Layout) (r : Robot) :
    r.perform layout .backward =
      ((r.halfTurned.perform layout .forward).1,
        (r.halfTurned.perform layout .forward).2.halfTurned) := by
  simp only [perform, heading_halfTurned]
  cases wall : layout.isWall (r.position + r.heading.opposite.offset) with
  | true =>
    rw [step_of_wall wall, step_of_wall (r := r.halfTurned) wall]
    exact Prod.ext rfl (by ext1 <;> simp)
  | false =>
    rw [step_of_free wall, step_of_free (r := r.halfTurned) wall]
    exact Prod.ext rfl (by ext1 <;> simp)

/-- A move takes a robot one step further into the grid or leaves it where it is. -/
theorem position_perform (layout : Layout) (r : Robot) (m : Move) :
    (r.perform layout m).2.position = r.position ∨
      ∃ toward : Heading, (r.perform layout m).2.position = r.position + toward.offset ∧
        layout.Inside (r.position + toward.offset) := by
  rcases r.perform_cases layout m with ⟨-, -, same⟩ | ⟨toward, -, ⟨-, stays⟩ | ⟨free, goes⟩⟩
  · exact .inl same
  · rw [stays]
    exact .inl rfl
  · rw [goes]
    exact .inr ⟨toward, rfl, Layout.inside_of_tile? (Layout.isWall_eq_false_iff.1 free)⟩

/-! ### The invariant -/

/-- A robot on free floor inside the grid. -/
structure OnFloor (layout : Layout) (r : Robot) : Prop where
  inside : layout.Inside r.position
  free : layout.tile? r.position = some .free

theorem onFloor_of_tile? (h : layout.tile? r.position = some .free) : r.OnFloor layout :=
  ⟨Layout.inside_of_tile? h, h⟩

/-- Every move keeps a robot on free floor: a step only enters a cell that is no wall. -/
theorem OnFloor.perform (standing : r.OnFloor layout) (m : Move) :
    (r.perform layout m).2.OnFloor layout := by
  rcases r.perform_cases layout m with ⟨-, -, same⟩ | ⟨toward, -, ⟨-, stays⟩ | ⟨free, goes⟩⟩
  · exact onFloor_of_tile? (same ▸ standing.free)
  · rwa [stays]
  · rw [goes]
    exact onFloor_of_tile? (Layout.isWall_eq_false_iff.1 free)

/-- A move from free floor leads to the next cell, if it leads anywhere. -/
theorem OnFloor.position_perform (standing : r.OnFloor layout) (m : Move) :
    (r.perform layout m).2.position = r.position ∨
      r.position.Adjacent (r.perform layout m).2.position := by
  refine (r.position_perform layout m).imp_right fun ⟨toward, same, entered⟩ => ?_
  rw [same]
  exact standing.inside.adjacent entered

/-- A step across the seam meets a wall: what is there lies outside the grid. -/
theorem OnFloor.step_of_across {toward : Heading} (standing : r.OnFloor layout)
    (across : r.position.Across (r.position + toward.offset)) :
    r.step layout toward = (.wallHit, r) := by
  refine step_of_wall (Bool.of_not_eq_false fun free => ?_)
  have entered := Layout.inside_of_tile? (Layout.isWall_eq_false_iff.1 free)
  exact across.not_both_inside standing.inside entered

/-- In a grid that is not too large, the sum ahead of a robot does not wrap around. -/
theorem OnFloor.sumFits (standing : r.OnFloor layout) (width : layout.width ≤ 0x7fffffff)
    (height : layout.height ≤ 0x7fffffff) (toward : Heading) : r.position.SumFits toward.offset := by
  obtain ⟨⟨left, right⟩, top, bottom⟩ := standing.inside
  obtain ⟨⟨west, east⟩, north, south⟩ := toward.offset_bounds
  unfold Cell.SumFits
  omega

end Robot

/-! ### Everything that can be asked of a maze -/

/-- What can be asked of a maze: a move, a look ahead, or to run a program. -/
inductive Operation where
  | move (m : Move)
  | lookAhead
  | run (program : Program) (limit : Nat)
  deriving DecidableEq

namespace Maze

/-- The maze after an operation. -/
def operate (maze : Maze) : Operation → Maze
  | .move m => (maze.perform m).2
  | .lookAhead => maze
  | .run program limit => (maze.run program limit).2

/-- The maze after some operations, one after the other. -/
def operateAll (maze : Maze) (operations : List Operation) : Maze :=
  operations.foldl operate maze

/-- The states in which the robot of a maze is seen: where it stands, and at each step of a program
    that is run from there. -/
inductive Shows (maze : Maze) : Robot → Prop where
  | standing : Shows maze maze.robot
  | running {program : Program} {limit : Nat} {e : Execution}
      (step : e ∈ program.trace maze.layout maze.robot limit) : Shows maze e.robot

/-- A maze of the layout whose robot stands on free floor. -/
structure StandsIn (layout : Layout) (maze : Maze) : Prop where
  layout_eq : maze.layout = layout
  onFloor : maze.robot.OnFloor layout

variable {layout : Layout} {maze : Maze}

theorem standsIn_enter (loaded : layout.Loaded) : StandsIn layout (enter layout) :=
  ⟨rfl, Robot.onFloor_of_tile? loaded.wellFormed.start_free⟩

theorem StandsIn.operate (stands : StandsIn layout maze) (operation : Operation) :
    StandsIn layout (maze.operate operation) := by
  obtain ⟨rfl, floor⟩ := stands
  cases operation with
  | move m => exact ⟨rfl, floor.perform m⟩
  | lookAhead => exact ⟨rfl, floor⟩
  | run program limit =>
    have record := Program.recorded program maze.layout limit 0 ⟨0, maze.robot⟩
    exact ⟨rfl, (record.keeps (fun _ move standing => standing.perform move) floor).1⟩

theorem StandsIn.operateAll (stands : StandsIn layout maze) (operations : List Operation) :
    StandsIn layout (maze.operateAll operations) := by
  induction operations generalizing maze with
  | nil => exact stands
  | cons operation rest ih => exact ih (stands.operate operation)

/-- Wherever the robot is seen, it stands on free floor. -/
theorem StandsIn.shows {r : Robot} (stands : StandsIn layout maze) (shown : maze.Shows r) :
    r.OnFloor layout := by
  obtain ⟨rfl, floor⟩ := stands
  cases shown with
  | standing => exact floor
  | @running program limit e step =>
    have record := Program.recorded program maze.layout limit 0 ⟨0, maze.robot⟩
    exact (record.keeps (fun _ move standing => standing.perform move) floor).2 e step

/-- The robot of a loaded layout never leaves free floor, whatever is asked of its maze: wherever it is
    seen, it stands on free floor inside the grid, a move takes it to the next cell or leaves it where
    it is, a step for which a coordinate wraps around meets a wall, and a step backward is a step forward
    between half turns. If the sides of the grid are signed words, neither the sum of coordinates ahead
    of it nor the one behind it wraps around. -/
theorem robot_never_leaves_free_floor {layout : Layout} (loaded : layout.Loaded)
    (operations : List Operation) :
    let maze := (enter layout).operateAll operations
    maze.layout = layout ∧
    ∀ r, maze.Shows r →
      (layout.Inside r.position ∧ layout.tile? r.position = some .free) ∧
      (∀ m, (r.perform layout m).2.position = r.position ∨
        r.position.Adjacent (r.perform layout m).2.position) ∧
      (∀ toward : Heading, r.position.Across (r.position + toward.offset) →
        r.step layout toward = (.wallHit, r)) ∧
      r.perform layout .backward =
        ((r.halfTurned.perform layout .forward).1,
          (r.halfTurned.perform layout .forward).2.halfTurned) ∧
      (layout.width ≤ 0x7fffffff → layout.height ≤ 0x7fffffff →
        r.position.SumFits r.heading.offset ∧
          r.halfTurned.position.SumFits r.halfTurned.heading.offset) := by
  intro maze
  have stands : StandsIn layout maze := (standsIn_enter loaded).operateAll operations
  refine ⟨stands.layout_eq, fun r shown => ?_⟩
  have floor := stands.shows shown
  refine ⟨⟨floor.inside, floor.free⟩, floor.position_perform, fun _ => floor.step_of_across,
    Robot.perform_backward layout r, fun width height => ?_⟩
  exact ⟨floor.sumFits width height r.heading, floor.sumFits width height r.halfTurned.heading⟩

/-- Two free cells in front of a wall, a program that jumps out, and a step back into the border. -/
theorem robot_never_leaves_free_floor_corridor :
    let layout : Layout := ⟨3, 1, #[.free, .free, .wall], ⟨⟨0, 0⟩, .right⟩, ⟨1, 0⟩⟩
    let program : Program := ⟨[.jumpIf .wall 0, .move .forward, .jump 99]⟩
    let operations : List Operation := [.run program 9, .lookAhead, .move .backward, .move .backward]
    let maze := (enter layout).operateAll operations
    layout.Loaded ∧ layout.tile? maze.robot.position = some .free ∧
      maze.robot.position.SumFits maze.robot.heading.offset ∧ maze.robot = ⟨⟨0, 0⟩, .right⟩ := by
  intro layout program operations maze
  have drawing : Layout.load? [[' ', ' ', '#']] layout.start layout.goal = some (.ok layout) := rfl
  have all := robot_never_leaves_free_floor (.drawn drawing) operations
  obtain ⟨⟨-, free⟩, -, -, -, fits⟩ := all.2 maze.robot .standing
  exact ⟨.drawn drawing, free, (fits (by decide) (by decide)).1, by decide⟩

end Maze

end Labyrinth
