import Mathlib.Logic.Equiv.Defs
import Labyrinth.Proofs.Indexing
import Labyrinth.Proofs.RoundTrip
import Labyrinth.Proofs.Substitution

/-!
# The same maze seen another way

A symmetry sends cells to cells and headings to headings so that one step ahead stays one step ahead; a
mirrored one exchanges the quarter turns. A layout that shows another one through a symmetry
(`Symmetry.Depicts`) cannot be told from it by a robot: every move has the same result and leads to the
image of the robot (`Depicts.perform`), so runs stay in step (`Depicts.lockstep`) and the verdicts agree up
to where the robot is left (`Depicts.judge`). `Symmetry.image` is such a layout, for every grid that
the symmetry sends the cells of the old one into.
-/

namespace Labyrinth

/-- The report of a run whose robot was seen another way. -/
def Report.mapRobot (f : Robot → Robot) (report : Report) : Report :=
  { report with robot := f report.robot }

/-- The verdict on a run whose robot was seen another way. -/
def Verdict.mapRobot (f : Robot → Robot) : Verdict → Verdict
  | .rejected reason => .rejected reason
  | .completed report unusedAnchor => .completed (report.mapRobot f) unusedAnchor

/-- A way to see the plane: where cells and headings are sent, and whether the turns are exchanged. -/
structure Symmetry where
  cell : Cell ≃ Cell
  heading : Heading → Heading
  mirrored : Bool
  /-- A step ahead is sent to a step ahead. -/
  cell_add_offset : ∀ c h, cell (c + h.offset) = cell c + (heading h).offset
  heading_turnLeft : ∀ h, heading h.turnLeft =
    if mirrored then (heading h).turnRight else (heading h).turnLeft

namespace Symmetry

/-- Where a robot is sent. -/
def robot (s : Symmetry) (r : Robot) : Robot := ⟨s.cell r.position, s.heading r.heading⟩

/-- What a move is sent to. -/
def move (s : Symmetry) (m : Move) : Move := if s.mirrored then m.mirrored else m

/-- Where a machine is sent: the place in the program stays. -/
def machine (s : Symmetry) (m : Machine) : Machine := ⟨m.pointer, s.robot m.robot⟩

theorem heading_turnRight (s : Symmetry) (h : Heading) :
    s.heading h.turnRight =
      if s.mirrored then (s.heading h).turnLeft else (s.heading h).turnRight := by
  -- a right turn is what a left turn undoes
  have back := s.heading_turnLeft h.turnRight
  rw [Heading.turnLeft_turnRight] at back
  rw [back]
  cases s.mirrored <;> simp

theorem heading_opposite (s : Symmetry) (h : Heading) :
    s.heading h.opposite = (s.heading h).opposite := by
  rw [← Heading.turnLeft_two, s.heading_turnLeft, s.heading_turnLeft]
  cases s.mirrored <;> cases s.heading h <;> rfl

/-- A robot that turned left is seen to have turned right in a mirror. -/
theorem robot_turnLeft (s : Symmetry) (r : Robot) :
    s.robot r.turnLeft = if s.mirrored then (s.robot r).turnRight else (s.robot r).turnLeft := by
  simp only [robot, Robot.turnLeft, Robot.turnRight, s.heading_turnLeft]
  cases s.mirrored <;> rfl

theorem robot_turnRight (s : Symmetry) (r : Robot) :
    s.robot r.turnRight = if s.mirrored then (s.robot r).turnLeft else (s.robot r).turnRight := by
  simp only [robot, Robot.turnLeft, Robot.turnRight, s.heading_turnRight]
  cases s.mirrored <;> rfl

@[simp] theorem move_forward (s : Symmetry) : s.move .forward = .forward := by
  simp [move, Move.mirrored]

@[simp] theorem move_backward (s : Symmetry) : s.move .backward = .backward := by
  simp [move, Move.mirrored]

theorem ahead_robot (s : Symmetry) (r : Robot) : (s.robot r).ahead = s.cell r.ahead :=
  (s.cell_add_offset r.position r.heading).symm

/-- The image shows the layout: the same on each cell, with the start and the goal in their places. -/
structure Depicts (s : Symmetry) (layout image : Layout) : Prop where
  look : ∀ c, image.look (s.cell c) = layout.look c
  start : image.start = s.robot layout.start
  goal : image.goal = s.cell layout.goal

namespace Depicts

variable {s : Symmetry} {layout image : Layout}

theorem isWall (depicts : s.Depicts layout image) (c : Cell) :
    image.isWall (s.cell c) = layout.isWall c := by
  simp only [Layout.isWall, depicts.look]

/-- A step has the same result, and leads to the image of where it led. -/
theorem step (depicts : s.Depicts layout image) (toward : Heading) (r : Robot) :
    (s.robot r).step image (s.heading toward) =
      ((r.step layout toward).1, s.robot (r.step layout toward).2) := by
  have next : (s.robot r).position + (s.heading toward).offset =
      s.cell (r.position + toward.offset) := (s.cell_add_offset r.position toward).symm
  have same := depicts.isWall (r.position + toward.offset)
  rw [← next] at same
  cases wall : layout.isWall (r.position + toward.offset) with
  | true =>
    rw [wall] at same
    rw [Robot.step_of_wall same, Robot.step_of_wall wall]
  | false =>
    rw [wall] at same
    rw [Robot.step_of_free same, Robot.step_of_free wall, next, depicts.goal]
    -- different cells stay different, so only the goal is taken for the goal
    simp only [s.cell.apply_eq_iff_eq]
    rfl

/-- A move has the same result, and leads to the image of where it led. -/
theorem perform (depicts : s.Depicts layout image) (r : Robot) (m : Move) :
    (s.robot r).perform image (s.move m) =
      ((r.perform layout m).1, s.robot (r.perform layout m).2) := by
  cases m with
  | forward =>
    rw [s.move_forward]
    exact depicts.step r.heading r
  | backward =>
    rw [s.move_backward]
    have back := depicts.step r.heading.opposite r
    rwa [s.heading_opposite] at back
  | turnLeft =>
    cases turns : s.mirrored <;>
      simp [move, turns, Move.mirrored, Robot.perform, s.robot_turnLeft]
  | turnRight =>
    cases turns : s.mirrored <;>
      simp [move, turns, Move.mirrored, Robot.perform, s.robot_turnRight]

/-- An instruction has the same result, and the machines after it are sent to each other. -/
theorem execute (depicts : s.Depicts layout image) (m : Machine) (i : Instruction) :
    (s.machine m).execute image (i.mapMove s.move) =
      ((m.execute layout i).1, s.machine (m.execute layout i).2) := by
  cases i with
  | move moved =>
    have performed := depicts.perform m.robot moved
    simp only [Machine.execute, Instruction.mapMove, machine, performed]
  | jump target => rfl
  | jumpIf sensed target =>
    have seen : image.look (s.robot m.robot).ahead = layout.look m.robot.ahead := by
      rw [s.ahead_robot, depicts.look]
    simp only [Machine.execute, Instruction.mapMove, machine, seen]

/-- The runs stay in step when the moves are exchanged with the turns. -/
theorem lockstep (depicts : s.Depicts layout image) (program : Program) :
    Program.Lockstep program (program.mapMoves s.move) layout image
      (fun _ m n => n = s.machine m) where
  ended := by
    rintro left m _ rfl gone
    simp [Program.get?_mapMoves, machine, gone]
  stepped := by
    rintro left m _ i rfl fetched
    have executed := depicts.execute m i
    refine ⟨i.mapMove s.move, ?_, ?_, ?_⟩
    · simp [Program.get?_mapMoves, machine, fetched]
    · rw [executed]
    · rw [executed]

/-- Running the program in the image gives the same report, with the image of the robot. -/
theorem run (depicts : s.Depicts layout image) (program : Program) (r : Robot) (limit : Nat) :
    (program.mapMoves s.move).run image (s.robot r) limit =
      (program.run layout r limit).mapRobot s.robot := by
  have record := Program.recorded program layout limit 0 ⟨0, r⟩
  obtain ⟨_, last, _, rfl, left_there, run⟩ := (depicts.lockstep program).runFrom record rfl
  have report : (program.run layout r limit).robot = last.robot := left_there
  rw [Report.mapRobot, report]
  exact run

/-- The verdict in the image on a text with its turns exchanged is the verdict on the text, with the
    image of the robot. -/
theorem judge (depicts : s.Depicts layout image) (σ : Source.Substitution) (moves : σ.move = s.move)
    (limits : Limits) (text : Source) :
    (Arena.mk limits image).judge (σ.respell text) =
      ((Arena.mk limits layout).judge text).mapRobot s.robot := by
  rw [Arena.judge, Arena.judge, σ.dropTrailingEquals_respell]
  rcases σ.accept_respell (Source.dropTrailingEquals text) limits with
    ⟨reason, rejected, rejected_too⟩ | ⟨original, respelled, accepted, accepted_too, program, shape⟩
  · rw [rejected, rejected_too]
    rfl
  · rw [accepted, accepted_too]
    simp only [program, moves, shape, depicts.start, depicts.run, Verdict.mapRobot]

/-- Where no turns are exchanged, the text stays as it is. -/
theorem judge_of_not_mirrored (depicts : s.Depicts layout image) (same : s.mirrored = false)
    (limits : Limits) (text : Source) :
    (Arena.mk limits image).judge text =
      ((Arena.mk limits layout).judge text).mapRobot s.robot := by
  have moves : Source.Substitution.same.move = s.move := by
    funext m
    simp [move, same, Source.Substitution.same]
  have judged := depicts.judge Source.Substitution.same moves limits text
  rwa [Source.Substitution.respell_same] at judged

end Depicts

/-! ### The layout that shows another one -/

/-- A grid that shows the layout; what lies outside the layout is shown as wall. -/
def image (s : Symmetry) (width height : Nat) (layout : Layout) : Layout where
  width
  height
  tiles := Array.ofFn fun i : Fin (width * height) =>
    layout.look (s.cell.symm (Layout.cellAt width i))
  start := s.robot layout.start
  goal := s.cell layout.goal

section Image

variable {s : Symmetry} {width height : Nat} {layout : Layout}

/-- The cells of the grid show what was seen on the cells they come from. -/
theorem tile?_image {c : Cell} (inside : (s.image width height layout).Inside c) :
    (s.image width height layout).tile? c = some (layout.look (s.cell.symm c)) := by
  have place : Layout.cellAt width ((s.image width height layout).index c) = c :=
    Layout.cellAt_index inside
  have index_lt : (s.image width height layout).index c < width * height :=
    Layout.index_lt_area inside
  rw [Layout.tile?, if_pos inside]
  simp only [image] at index_lt place ⊢
  simp [index_lt, place]

/-- A cell of the layout that lies in the grid after the symmetry keeps its tile. -/
theorem tile?_image_cell {c : Cell} (wellFormed : layout.WellFormed) (inside : layout.Inside c)
    (shown : (s.image width height layout).Inside (s.cell c)) :
    (s.image width height layout).tile? (s.cell c) = layout.tile? c := by
  rw [tile?_image shown, Equiv.symm_apply_apply, wellFormed.tile?_eq_look inside]

/-- In a grid that has no other cells, every cell keeps its tile, or has none as before. -/
theorem tile?_image_of_inside_iff (wellFormed : layout.WellFormed)
    (fits : ∀ c, (s.image width height layout).Inside (s.cell c) ↔ layout.Inside c) (c : Cell) :
    (s.image width height layout).tile? (s.cell c) = layout.tile? c := by
  by_cases inside : layout.Inside c
  · exact tile?_image_cell wellFormed inside ((fits c).2 inside)
  · rw [Layout.tile?, Layout.tile?, if_neg inside, if_neg (mt (fits c).1 inside)]

/-- A grid large enough for the cells of the layout shows the layout. -/
theorem depicts_image
    (covers : ∀ c, layout.Inside c → (s.image width height layout).Inside (s.cell c)) :
    s.Depicts layout (s.image width height layout) where
  look := by
    intro c
    by_cases shown : (s.image width height layout).Inside (s.cell c)
    · rw [Layout.look, tile?_image shown, Equiv.symm_apply_apply, Option.getD_some]
    · -- the cell was not in the layout either, and nothing but wall is seen on both
      have outside : ¬layout.Inside c := fun inside => shown (covers c inside)
      rw [Layout.look_of_outside shown, Layout.look_of_outside outside]
  start := rfl
  goal := rfl

/-- A layout that shows a well-formed one is well formed if it has a tile for each cell. -/
theorem Depicts.wellFormed {image : Layout} (depicts : s.Depicts layout image)
    (wellFormed : layout.WellFormed) (size : image.tiles.size = image.area) : image.WellFormed := by
  have kept : ∀ c, layout.tile? c = some .free → image.tile? (s.cell c) = some .free := by
    intro c free
    rw [← Layout.isWall_eq_false_iff] at free ⊢
    rw [depicts.isWall, free]
  have goal_free : image.tile? image.goal = some .free := by
    rw [depicts.goal]
    exact kept layout.goal wellFormed.goal_free
  have start_free : image.tile? image.start.position = some .free := by
    rw [depicts.start]
    exact kept layout.start.position wellFormed.start_free
  obtain ⟨⟨left, right⟩, top, bottom⟩ := Layout.inside_of_tile? goal_free
  exact ⟨by omega, by omega, size, start_free, goal_free⟩

/-- A grid that shows a layout is given out by a loader if its sides are not too long. -/
theorem loaded_image (loaded : layout.Loaded)
    (covers : ∀ c, layout.Inside c → (s.image width height layout).Inside (s.cell c))
    (width_le : width ≤ 0x7fffffff) (height_le : height ≤ 0x7fffffff) :
    (s.image width height layout).Loaded := by
  have wellFormed : (s.image width height layout).WellFormed := by
    refine (depicts_image covers).wellFormed loaded.wellFormed ?_
    simp [image, Layout.area]
  exact Wire.loaded_of_sides width_le height_le wellFormed

end Image

end Symmetry

end Labyrinth
