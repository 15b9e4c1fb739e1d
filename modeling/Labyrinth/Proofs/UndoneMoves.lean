import Labyrinth.Proofs.FreeFloor

/-!
# Moves can be undone

Every move has an inverse: the step the other way, or the quarter turn the other way. A step that met no
wall is undone by its inverse because the cell it came from is free, which is what `OnFloor` keeps of
every robot. A sequence of moves is undone from its end, the last move first.
-/

namespace Labyrinth

namespace Move

/-- The move that takes another one back. -/
def inverse : Move → Move
  | .forward => .backward
  | .backward => .forward
  | .turnLeft => .turnRight
  | .turnRight => .turnLeft

/-- The moves that take others back, the last one first. -/
def inverses (moves : List Move) : List Move := (moves.map inverse).reverse

theorem inverses_cons (m : Move) (rest : List Move) :
    inverses (m :: rest) = inverses rest ++ [m.inverse] := by
  rw [inverses, inverses, List.map_cons, List.reverse_cons]

/-- The inverse of a step goes the opposite way. -/
theorem course?_inverse {m : Move} {h toward : Heading} (course : m.course? h = some toward) :
    m.inverse.course? h = some toward.opposite := by
  cases m with
  | forward =>
    cases course
    rfl
  | backward =>
    cases course
    rw [Heading.opposite_opposite]
    rfl
  | turnLeft => cases course
  | turnRight => cases course

end Move

namespace Robot

variable {layout : Layout} {r : Robot} {toward : Heading} {m : Move}

/-- Three quarter turns to the left make one to the right. -/
theorem turnLeft_three (r : Robot) : r.turnLeft.turnLeft.turnLeft = r.turnRight :=
  Robot.ext rfl (Heading.turnLeft_three r.heading)

/-- A step meets a wall just if there is one in the next cell. -/
theorem step_eq_wallHit_iff :
    (r.step layout toward).1 = .wallHit ↔ layout.isWall (r.position + toward.offset) = true := by
  cases wall : layout.isWall (r.position + toward.offset) with
  | true => exact iff_of_true (by rw [step_of_wall wall]) rfl
  | false =>
    refine iff_of_false (fun hit => ?_) Bool.false_ne_true
    rw [step_of_free wall] at hit
    split at hit <;> cases hit

theorem heading_step (layout : Layout) (r : Robot) (toward : Heading) :
    (r.step layout toward).2.heading = r.heading := by
  cases wall : layout.isWall (r.position + toward.offset) with
  | true => rw [step_of_wall wall]
  | false => rw [step_of_free wall]

/-- A move that meets a wall leaves the robot as it was. -/
theorem perform_of_wallHit (hit : (r.perform layout m).1 = .wallHit) :
    (r.perform layout m).2 = r := by
  cases course : m.course? r.heading with
  | none =>
    rw [(perform_of_no_course course).1] at hit
    cases hit
  | some toward =>
    rw [perform_of_course course] at hit ⊢
    rw [step_of_wall (step_eq_wallHit_iff.1 hit)]

/-- A move that met no wall is undone by its inverse: the cell that a step left is free. -/
theorem OnFloor.perform_inverse (floor : r.OnFloor layout)
    (through : (r.perform layout m).1 ≠ .wallHit) :
    ((r.perform layout m).2.perform layout m.inverse).1 ≠ .wallHit ∧
      ((r.perform layout m).2.perform layout m.inverse).2 = r := by
  cases course : m.course? r.heading with
  | none =>
    cases m with
    | forward => cases course
    | backward => cases course
    | turnLeft =>
      exact ⟨MoveResult.noConfusion, Robot.ext rfl (Heading.turnRight_turnLeft r.heading)⟩
    | turnRight =>
      exact ⟨MoveResult.noConfusion, Robot.ext rfl (Heading.turnLeft_turnRight r.heading)⟩
  | some toward =>
    rw [perform_of_course course] at through ⊢
    have ahead : layout.isWall (r.position + toward.offset) = false :=
      Bool.eq_false_iff.2 fun wall => through (step_eq_wallHit_iff.2 wall)
    let next : Robot := ⟨r.position + toward.offset, r.heading⟩
    have entered : (r.step layout toward).2 = next := by rw [step_of_free ahead]
    have back : m.inverse.course? next.heading = some toward.opposite := Move.course?_inverse course
    have left : next.position + toward.opposite.offset = r.position :=
      Cell.add_offset_opposite r.position toward
    have behind : layout.isWall (next.position + toward.opposite.offset) = false := by
      rw [left]
      exact Layout.isWall_eq_false_iff.2 floor.free
    -- the step back is to enter the cell that was left, on which the robot stood
    rw [entered, perform_of_course back]
    refine ⟨fun hit => ?_, ?_⟩
    · exact Bool.false_ne_true (behind.symm.trans (step_eq_wallHit_iff.1 hit))
    · rw [step_of_free behind, left]

end Robot

namespace Maze

variable {layout : Layout} {maze : Maze}

/-- What becomes of some moves, one after the other, and the maze after the last of them. -/
def performAll (maze : Maze) : List Move → List MoveResult × Maze
  | [] => ([], maze)
  | m :: rest =>
    let (result, next) := maze.perform m
    let (results, last) := next.performAll rest
    (result :: results, last)

theorem performAll_cons (maze : Maze) (m : Move) (rest : List Move) :
    maze.performAll (m :: rest) =
      ((maze.perform m).1 :: ((maze.perform m).2.performAll rest).1,
        ((maze.perform m).2.performAll rest).2) := rfl

theorem performAll_append (maze : Maze) (first second : List Move) :
    maze.performAll (first ++ second) =
      ((maze.performAll first).1 ++ ((maze.performAll first).2.performAll second).1,
        ((maze.performAll first).2.performAll second).2) := by
  induction first generalizing maze with
  | nil => rfl
  | cons m rest ih => rw [List.cons_append, performAll_cons, performAll_cons, ih, List.cons_append]

/-- A move of the robot that met no wall is undone by its inverse. -/
theorem StandsIn.perform_inverse {m : Move} (stands : StandsIn layout maze)
    (through : (maze.perform m).1 ≠ .wallHit) :
    ((maze.perform m).2.perform m.inverse).1 ≠ .wallHit ∧
      ((maze.perform m).2.perform m.inverse).2 = maze := by
  obtain ⟨rfl, floor⟩ := stands
  obtain ⟨free, same⟩ := floor.perform_inverse through
  exact ⟨free, congrArg (Maze.mk maze.layout) same⟩

/-- Moves that met no wall are undone by their inverses, the last move first. -/
theorem StandsIn.performAll_inverses {moves : List Move} (stands : StandsIn layout maze)
    (through : .wallHit ∉ (maze.performAll moves).1) :
    .wallHit ∉ ((maze.performAll moves).2.performAll (Move.inverses moves)).1 ∧
      ((maze.performAll moves).2.performAll (Move.inverses moves)).2 = maze := by
  induction moves generalizing maze with
  | nil => exact ⟨List.not_mem_nil, rfl⟩
  | cons m rest ih =>
    simp only [performAll_cons, List.mem_cons, not_or] at through
    obtain ⟨first, later⟩ := through
    have next : StandsIn layout (maze.perform m).2 := stands.operate (.move m)
    -- the later moves are undone first, which leads back to where the first one led
    obtain ⟨free, same⟩ := ih next later
    obtain ⟨lastFree, lastSame⟩ := stands.perform_inverse (Ne.symm first)
    simp only [performAll_cons, Move.inverses_cons, performAll_append, same]
    refine ⟨fun hit => ?_, lastSame⟩
    rcases List.mem_append.1 hit with earlier | last
    · exact free earlier
    · exact lastFree (List.mem_singleton.1 last).symm

/-- A turn to the right is three to the left. -/
theorem performAll_turnRight (maze : Maze) :
    maze.performAll [.turnLeft, .turnLeft, .turnLeft] =
      ([.clear, .clear, .clear], (maze.perform .turnRight).2) :=
  Prod.ext rfl (congrArg (Maze.mk maze.layout) maze.robot.turnLeft_three)

/-- A step backward is one forward between half turns, and what becomes of it is what becomes of that. -/
theorem performAll_backward (maze : Maze) :
    maze.performAll [.turnLeft, .turnLeft, .forward, .turnLeft, .turnLeft] =
      ([.clear, .clear, (maze.perform .backward).1, .clear, .clear], (maze.perform .backward).2) := by
  simp only [perform, Robot.perform_backward]
  rfl

/-- Wherever the robot of a loaded layout is seen, moves that meet no wall can be undone: the inverse
    moves in the reverse order meet no wall either and take it back to where it was, facing as it did.
    A move that meets a wall changes nothing, and a step backward never changes the heading. A turn to
    the right is three to the left, and a step backward is one forward between half turns. -/
theorem moves_can_be_undone {layout : Layout} (loaded : layout.Loaded) (operations : List Operation) :
    ∀ r, ((enter layout).operateAll operations).Shows r →
      let maze : Maze := ⟨layout, r⟩
      (∀ moves, .wallHit ∉ (maze.performAll moves).1 →
        .wallHit ∉ ((maze.performAll moves).2.performAll (Move.inverses moves)).1 ∧
          ((maze.performAll moves).2.performAll (Move.inverses moves)).2 = maze) ∧
      (∀ m, (maze.perform m).1 = .wallHit → (maze.perform m).2 = maze) ∧
      (maze.perform .backward).2.robot.heading = r.heading ∧
      maze.performAll [.turnLeft, .turnLeft, .turnLeft] =
        ([.clear, .clear, .clear], (maze.perform .turnRight).2) ∧
      maze.performAll [.turnLeft, .turnLeft, .forward, .turnLeft, .turnLeft] =
        ([.clear, .clear, (maze.perform .backward).1, .clear, .clear],
          (maze.perform .backward).2) := by
  intro r shown maze
  have floor : r.OnFloor layout := ((standsIn_enter loaded).operateAll operations).shows shown
  have stands : StandsIn layout maze := ⟨rfl, floor⟩
  refine ⟨fun moves through => stands.performAll_inverses through, fun m hit => ?_, ?_,
    performAll_turnRight maze, performAll_backward maze⟩
  · exact congrArg (Maze.mk layout) (Robot.perform_of_wallHit hit)
  · exact Robot.heading_step layout r r.heading.opposite

/-- A walk around a corner and back, after a program has been run that ends against the wall. -/
theorem moves_can_be_undone_around_corner :
    let layout : Layout :=
      ⟨3, 2, #[.free, .free, .wall, .wall, .free, .free], ⟨⟨0, 0⟩, .right⟩, ⟨2, 1⟩⟩
    let operations : List Operation := [.lookAhead, .run ⟨[.move .forward, .move .forward]⟩ 9]
    let moves : List Move := [.turnRight, .forward, .turnRight, .backward]
    let maze := (enter layout).operateAll operations
    layout.Loaded ∧ maze = ⟨layout, ⟨1, 0⟩, .right⟩ ∧
      maze.performAll moves =
        ([.clear, .clear, .clear, .goalReached], ⟨layout, ⟨2, 1⟩, .left⟩) ∧
      Move.inverses moves = [.forward, .turnLeft, .backward, .turnLeft] ∧
      ((maze.performAll moves).2.performAll (Move.inverses moves)).2 = maze ∧
      (maze.perform .forward).1 = .wallHit ∧ (maze.perform .forward).2 = maze := by
  intro layout operations moves maze
  have drawing : Layout.load? [[' ', ' ', '#'], ['#', ' ', ' ']] layout.start layout.goal =
      some (.ok layout) := rfl
  have loaded : layout.Loaded := .drawn drawing
  have there : maze = ⟨layout, ⟨1, 0⟩, .right⟩ := by decide
  have robot : maze.robot = ⟨⟨1, 0⟩, .right⟩ := congrArg Maze.robot there
  have shown : maze.Shows ⟨⟨1, 0⟩, .right⟩ := robot ▸ .standing
  obtain ⟨undone, stopped, -⟩ := moves_can_be_undone loaded operations _ shown
  rw [there]
  refine ⟨loaded, rfl, by decide, by decide, ?_, by decide, stopped .forward (by decide)⟩
  exact (undone moves (by decide)).2

end Maze

end Labyrinth
