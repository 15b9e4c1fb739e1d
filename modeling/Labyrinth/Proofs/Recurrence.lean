import Mathlib.Data.Finset.Card
import Labyrinth.Proofs.FreeFloor
import Labyrinth.Proofs.Indexing

/-!
# When a run is known to go on for ever

A machine that can still make a step has its place in the program and its robot on free floor, so
there are only so many of them: `configurations` lists them. A run that makes more steps than that has
been at the same machine twice, and since a step depends on nothing else, it goes round from there for
ever: it is cut off under every limit.
-/

namespace Labyrinth

namespace Layout

variable {layout : Layout} {cell : Cell}

/-- The free cells of a grid, read off the places where their tiles are stored. -/
def freeCells (layout : Layout) : List Cell :=
  (layout.tiles.toList.zipIdx.filter (·.1 = .free)).map fun stored => cellAt layout.width stored.2

/-- There are as many of them as free tiles. -/
theorem length_freeCells (layout : Layout) :
    layout.freeCells.length = layout.tiles.count .free := by
  have tiles : layout.tiles.toList.zipIdx.map Prod.fst = layout.tiles.toList :=
    List.zipIdx_map_fst 0 layout.tiles.toList
  rw [freeCells, List.length_map, ← List.countP_eq_length_filter, ← Array.count_toList, ← tiles,
    List.count, List.countP_map, tiles]
  exact List.countP_congr fun stored _ => by simp

theorem mem_freeCells (free : layout.tile? cell = some .free) : cell ∈ layout.freeCells := by
  have inside := inside_of_tile? free
  rw [tile?, if_pos inside, ← Array.getElem?_toList] at free
  refine List.mem_map.2 ⟨(.free, layout.index cell), ?_, cellAt_index inside⟩
  exact List.mem_filter.2 ⟨List.mk_mem_zipIdx_iff_getElem?.2 free, rfl⟩

end Layout

namespace Program

variable {program : Program} {layout : Layout} {m next last : Machine} {steps more : Nat}

/-! ### The steps a run can make -/

/-- The machine after a step that does not end the run. -/
def next? (program : Program) (layout : Layout) (m : Machine) : Option Machine :=
  match (program.get? m.pointer).map (m.execute layout) with
  | some (.clear, next) => some next
  | _ => none

/-- The machine after some such steps. -/
def after? (program : Program) (layout : Layout) : Nat → Machine → Option Machine
  | 0, m => some m
  | steps + 1, m => (program.next? layout m).bind (program.after? layout steps)

theorem next?_eq_some_iff : program.next? layout m = some next ↔
    ∃ instruction, program.get? m.pointer = some instruction ∧
      m.execute layout instruction = (.clear, next) := by
  unfold next?
  cases program.get? m.pointer with
  | none => simp
  | some instruction =>
    rcases executed : m.execute layout instruction with ⟨result, after⟩
    cases result <;> simp [executed]

theorem after?_add (program : Program) (layout : Layout) (steps more : Nat) (m : Machine) :
    program.after? layout (steps + more) m =
      (program.after? layout steps m).bind (program.after? layout more) := by
  induction steps generalizing m with
  | zero => rw [Nat.zero_add]; rfl
  | succ steps ih =>
    rw [Nat.succ_add]
    simp only [after?, ih, Option.bind_assoc]

/-- A run that can make some steps can make fewer. -/
theorem isSome_after?_of_le (fewer : steps ≤ more)
    (goes : (program.after? layout more m).isSome = true) :
    (program.after? layout steps m).isSome = true := by
  obtain ⟨rest, rfl⟩ := Nat.exists_eq_add_of_le fewer
  rw [after?_add] at goes
  exact Option.isSome_of_isSome_bind goes

/-- A run is cut off exactly if it can make as many steps as it may. -/
theorem Recorded.outcome_eq_cutOff_iff {budget step : Nat} {trace : List Execution}
    {report : Report} (record : Recorded program layout budget step m trace report) :
    report.outcome = .cutOff ↔ (program.after? layout budget m).isSome = true := by
  induction record with
  | cutOff => exact ⟨fun _ => rfl, fun _ => rfl⟩
  | ended left => simp [after?, next?, left]
  | @stopped budget step m last instruction result outcome fetched executed stops =>
    cases result with
    | clear => cases stops
    | wallHit => cases stops; simp [after?, next?, fetched, executed]
    | goalReached => cases stops; simp [after?, next?, fetched, executed]
  | stepped fetched executed rest ih =>
    rw [after?, next?_eq_some_iff.2 ⟨_, fetched, executed⟩, Option.bind_some]
    exact ih

/-! ### There are only so many machines -/

/-- The machines with a place in the program and a robot on a free cell. -/
def configurations (program : Program) (layout : Layout) : List Machine :=
  (List.range program.size).flatMap fun pointer =>
    layout.freeCells.flatMap fun cell => Heading.all.map fun heading => ⟨pointer, ⟨cell, heading⟩⟩

theorem length_configurations (program : Program) (layout : Layout) :
    (program.configurations layout).length = 4 * layout.tiles.count .free * program.size := by
  have headings : Heading.all.length = 4 := rfl
  simp only [configurations, List.length_flatMap, List.length_map, headings, List.map_const',
    List.sum_replicate_nat, List.length_range, Layout.length_freeCells]
  rw [Nat.mul_comm 4, Nat.mul_comm]

/-- A machine on free floor that can make a step is one of them. -/
theorem mem_configurations (floor : m.robot.OnFloor layout)
    (goes : program.next? layout m = some next) : m ∈ program.configurations layout := by
  obtain ⟨instruction, fetched, -⟩ := next?_eq_some_iff.1 goes
  have within := lt_size_of_get? fetched
  refine List.mem_flatMap.2 ⟨m.pointer, List.mem_range.2 within, ?_⟩
  refine List.mem_flatMap.2 ⟨m.robot.position, Layout.mem_freeCells floor.free, ?_⟩
  exact List.mem_map.2 ⟨m.robot.heading, Heading.mem_all _, rfl⟩

/-- A step keeps the robot on free floor. -/
theorem onFloor_of_next? (floor : m.robot.OnFloor layout)
    (goes : program.next? layout m = some next) : next.robot.OnFloor layout := by
  obtain ⟨instruction, -, executed⟩ := next?_eq_some_iff.1 goes
  have kept := execute_keeps (fun _ move standing => standing.perform move) m instruction floor
  rwa [executed] at kept

theorem onFloor_of_after? (floor : m.robot.OnFloor layout)
    (goes : program.after? layout steps m = some last) : last.robot.OnFloor layout := by
  induction steps generalizing m with
  | zero => cases goes; exact floor
  | succ steps ih =>
    obtain ⟨next, first, rest⟩ := Option.bind_eq_some_iff.1 goes
    exact ih (onFloor_of_next? floor first) rest

/-- Before each of its steps a run is at one of them. -/
theorem exists_mem_configurations (floor : m.robot.OnFloor layout)
    (goes : (program.after? layout (steps + 1) m).isSome = true) :
    ∃ here ∈ program.configurations layout, program.after? layout steps m = some here := by
  obtain ⟨last, goes⟩ := Option.isSome_iff_exists.1 goes
  rw [after?_add] at goes
  obtain ⟨here, reached, goes⟩ := Option.bind_eq_some_iff.1 goes
  obtain ⟨next, step, -⟩ := Option.bind_eq_some_iff.1 goes
  exact ⟨here, mem_configurations (onFloor_of_after? floor reached) step, reached⟩

/-! ### A machine that comes back goes round for ever -/

/-- A run that makes a step more than there are machines has been at one of them twice. -/
theorem exists_repeated (floor : m.robot.OnFloor layout)
    (long : (program.after? layout ((program.configurations layout).length + 1) m).isSome = true) :
    ∃ first later, first < later ∧ (program.after? layout later m).isSome = true ∧
      program.after? layout later m = program.after? layout first m := by
  let visits := Finset.range ((program.configurations layout).length + 1)
  let machines := ((program.configurations layout).map some).toFinset
  have few : machines.card < visits.card := by
    rw [Finset.card_range, Nat.lt_succ_iff, ← List.length_map some]
    exact List.toFinset_card_le _
  have goes : ∀ step ∈ visits, (program.after? layout step m).isSome = true := fun step early =>
    isSome_after?_of_le (Nat.le_of_lt (Finset.mem_range.1 early)) long
  have visited : ∀ step ∈ visits, program.after? layout step m ∈ machines := by
    intro step early
    obtain ⟨here, listed, reached⟩ :=
      exists_mem_configurations floor (isSome_after?_of_le (Finset.mem_range.1 early) long)
    rw [reached]
    exact List.mem_toFinset.2 (List.mem_map_of_mem listed)
  obtain ⟨a, a_early, b, b_early, different, same⟩ :=
    Finset.exists_ne_map_eq_of_card_lt_of_maps_to few visited
  rcases Nat.lt_or_gt_of_ne different with before | before
  · exact ⟨a, b, before, goes b b_early, same.symm⟩
  · exact ⟨b, a, before, goes a a_early, same⟩

/-- A run that is where it was before can make any number of steps. -/
theorem isSome_after?_of_repeated {first later : Nat} (before : first < later)
    (goes : (program.after? layout later m).isSome = true)
    (again : program.after? layout later m = program.after? layout first m) (steps : Nat) :
    (program.after? layout steps m).isSome = true := by
  induction steps using Nat.strong_induction_on with
  | _ steps ih =>
    rcases Nat.le_total steps later with within | beyond
    · exact isSome_after?_of_le within goes
    · -- What comes after the later visit came after the first, fewer steps from the start.
      obtain ⟨rest, rfl⟩ := Nat.exists_eq_add_of_le beyond
      rw [after?_add, again, ← after?_add]
      exact ih (first + rest) (Nat.add_lt_add_right before rest)

end Program

namespace Maze

/-- A run in a loaded layout that can make four steps for each free tile and each instruction, and one
    more, goes on for ever: from the same state of the maze it is cut off under every limit. -/
theorem run_goes_on_for_ever {layout : Layout} (loaded : layout.Loaded)
    (operations : List Operation) (program : Program) :
    let maze := (enter layout).operateAll operations
    let known := 4 * layout.tiles.count .free * program.size + 1
    (maze.run program known).1.outcome = .cutOff →
      ∀ limit, (maze.run program limit).1.outcome = .cutOff := by
  intro maze known cut limit
  obtain ⟨same, floor⟩ : StandsIn layout maze := (standsIn_enter loaded).operateAll operations
  have cut_iff : ∀ limit, (maze.run program limit).1.outcome = .cutOff ↔
      (program.after? layout limit ⟨0, maze.robot⟩).isSome = true := fun limit =>
    same ▸ (program.recorded maze.layout limit 0 ⟨0, maze.robot⟩).outcome_eq_cutOff_iff
  have long : (program.after? layout ((program.configurations layout).length + 1)
      ⟨0, maze.robot⟩).isSome = true := by
    rw [Program.length_configurations]
    exact (cut_iff known).1 cut
  obtain ⟨first, later, before, goes, again⟩ := Program.exists_repeated floor long
  exact (cut_iff limit).2 (Program.isSome_after?_of_repeated before goes again limit)

/-- A robot that turns on the spot on the one free cell of its grid. -/
theorem run_goes_on_for_ever_turning :
    let layout : Layout := ⟨1, 1, #[.free], ⟨⟨0, 0⟩, .up⟩, ⟨0, 0⟩⟩
    let program : Program := ⟨[.move .turnLeft, .jump 0]⟩
    let maze := (enter layout).operateAll [.lookAhead, .move .turnRight]
    layout.Loaded ∧ (maze.run program (4 * 1 * 2 + 1)).1.outcome = .cutOff ∧
      (maze.run program 1000000).1.outcome = .cutOff := by
  intro layout program maze
  have drawing : Layout.load? [[' ']] layout.start layout.goal = some (.ok layout) := rfl
  have cut : (maze.run program (4 * 1 * 2 + 1)).1.outcome = .cutOff := by decide
  have goes_on := run_goes_on_for_ever (.drawn drawing) [.lookAhead, .move .turnRight] program cut
  exact ⟨.drawn drawing, cut, goes_on 1000000⟩

end Maze

end Labyrinth
