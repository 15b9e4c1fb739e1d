import Mathlib.Data.Nat.Find
import Mathlib.Order.Bounds.Defs
import Labyrinth.Proofs.FreeFloor
import Labyrinth.Proofs.MoveTexts

/-!
# Which goals can be reached

A goal can be reached by some program exactly when a walk over free floor leads to it. A run that
reaches the goal has walked there, and with every step of the walk it spent one of its own
(`Recorded.exists_walk`). Back from a walk to a program: the robot turns to the next cell, which takes
two turns at most, and steps (`Walk.exists_moves`), so a text of moves will do.
-/

namespace Labyrinth

/-- A walk over free floor in so many steps, each to a cell next to the last. -/
inductive Layout.Walk (layout : Layout) : Nat → Cell → Cell → Prop where
  | stay {a : Cell} (free : layout.tile? a = some .free) : Walk layout 0 a a
  | step {n : Nat} {a b c : Cell} (free : layout.tile? a = some .free) (adjacent : a.Adjacent b)
      (rest : Walk layout n b c) : Walk layout (n + 1) a c

/-- A walk of `n` steps, one at least, leads from the start to the goal. -/
def Layout.Connected (layout : Layout) (n : Nat) : Prop :=
  1 ≤ n ∧ layout.Walk n layout.start.position layout.goal

/-- The text runs in the arena, and its run ends on the goal with this report. -/
def Arena.Reaches (arena : Arena) (submitted : Source) (report : Report) : Prop :=
  (∃ unused, arena.judge submitted = .completed report unused) ∧ report.outcome = .goalReached

variable {layout : Layout}

/-! ### From a run to a walk -/

/-- A cell of the grid that an instruction is to enter is next to the one where the robot is. -/
theorem Machine.adjacent_of_destination? {m : Machine} {instruction : Instruction} {cell : Cell}
    (here : layout.Inside m.robot.position) (there : layout.Inside cell)
    (enters : m.destination? instruction = some cell) : m.robot.position.Adjacent cell := by
  obtain ⟨toward, -, rfl⟩ := Option.map_eq_some_iff.1 enters
  exact here.adjacent there

/-- An instruction that no wall stops leaves the robot on its cell, or it enters free floor on the next
    one, and notices whether that is the goal. -/
theorem Machine.execute_enters {m next : Machine} {instruction : Instruction} {result : MoveResult}
    (here : layout.Inside m.robot.position)
    (executed : m.execute layout instruction = (result, next)) (passes : result ≠ .wallHit) :
    result = .clear ∧ next.robot.position = m.robot.position ∨
      m.robot.position.Adjacent next.robot.position ∧
        layout.tile? next.robot.position = some .free ∧
        (result = .goalReached ↔ next.robot.position = layout.goal) := by
  rcases m.execute_cases layout instruction with
    ⟨-, clear, same⟩ | ⟨cell, enters, ⟨-, stays⟩ | ⟨free, goes⟩⟩
  · rw [executed] at clear same
    exact .inl ⟨clear, same⟩
  · cases executed.symm.trans stays
    exact absurd rfl passes
  · cases executed.symm.trans goes
    have entered := Layout.isWall_eq_false_iff.1 free
    refine .inr ⟨adjacent_of_destination? here (Layout.inside_of_tile? entered) enters, entered, ?_⟩
    dsimp only
    split <;> simp [*]

/-- A run that reaches the goal has walked there, in no more steps than it counts. -/
theorem Program.Recorded.exists_walk {program : Program} {budget step : Nat} {m : Machine}
    {trace : List Execution} {report : Report}
    (record : Recorded program layout budget step m trace report)
    (free : layout.tile? m.robot.position = some .free) (reached : report.outcome = .goalReached) :
    ∃ n, 1 ≤ n ∧ step + n ≤ report.steps ∧ layout.Walk n m.robot.position layout.goal := by
  induction record with
  | cutOff => cases reached
  | ended left => cases reached
  | @stopped budget step m last instruction result outcome fetched executed stops =>
    have here := Layout.inside_of_tile? free
    obtain rfl : result = .goalReached := by
      cases reached
      cases result <;> cases stops
      rfl
    rcases Machine.execute_enters here executed (by decide) with
      ⟨clear, -⟩ | ⟨adjacent, entered, goal⟩
    · cases clear
    · have arrived := goal.1 rfl
      rw [arrived] at adjacent entered
      exact ⟨1, Nat.le_refl 1, Nat.le_refl _, .step free adjacent (.stay entered)⟩
  | @stepped budget step m next instruction trace report fetched executed rest ih =>
    have here := Layout.inside_of_tile? free
    rcases Machine.execute_enters here executed (by decide) with
      ⟨-, same⟩ | ⟨adjacent, entered, -⟩
    · rw [same] at ih
      obtain ⟨n, positive, short, walk⟩ := ih free reached
      exact ⟨n, positive, by omega, walk⟩
    · obtain ⟨n, positive, short, walk⟩ := ih entered reached
      exact ⟨n + 1, by omega, by omega, .step free adjacent walk⟩

/-! ### From a walk to moves -/

/-- The next cell lies ahead in one of the four headings. -/
theorem Cell.exists_offset_of_adjacent {a b : Cell} (adjacent : a.Adjacent b) :
    ∃ toward : Heading, b = a + toward.offset := by
  rcases adjacent with ⟨row, column | column⟩ | ⟨column, row | row⟩
  · refine ⟨.right, Cell.ext (Coordinate.eq_add_one column) ?_⟩
    rw [row]
    exact (Int32.add_zero _).symm
  · refine ⟨.left, Cell.ext (Coordinate.eq_add_neg_one column) ?_⟩
    rw [row]
    exact (Int32.add_zero _).symm
  · refine ⟨.down, Cell.ext ?_ (Coordinate.eq_add_one row)⟩
    rw [column]
    exact (Int32.add_zero _).symm
  · refine ⟨.up, Cell.ext ?_ (Coordinate.eq_add_neg_one row)⟩
    rw [column]
    exact (Int32.add_zero _).symm

/-- The turns from one heading to another. -/
def Heading.turnsTo (h toward : Heading) : List Move :=
  if toward = h then []
  else if toward = h.turnLeft then [.turnLeft]
  else if toward = h.turnRight then [.turnRight]
  else [.turnLeft, .turnLeft]

theorem Heading.length_turnsTo_le (h toward : Heading) : (h.turnsTo toward).length ≤ 2 := by
  cases h <;> cases toward <;> decide

/-- Turning first does not keep a robot from the goal. -/
theorem Robot.Arrives.turn {r : Robot} {toward : Heading} {moves : List Move}
    (arrives : Robot.Arrives layout ⟨r.position, toward⟩ moves) :
    r.Arrives layout (r.heading.turnsTo toward ++ moves) := by
  obtain ⟨position, heading⟩ := r
  cases heading <;> cases toward <;>
    first
    | exact arrives
    | exact .later rfl arrives
    | exact .later rfl (.later rfl arrives)

theorem Layout.Walk.free {n : Nat} {a b : Cell} (walk : layout.Walk n a b) :
    layout.tile? a = some .free := by
  cases walk <;> assumption

/-- Wherever a robot faces, it can follow a walk to the goal with three moves a step. -/
theorem Layout.Walk.exists_moves {n : Nat} {a b : Cell} (walk : layout.Walk n a b)
    (goal : b = layout.goal) (positive : 1 ≤ n) (heading : Heading) :
    ∃ moves : List Move, moves.length ≤ 3 * n ∧ Robot.Arrives layout ⟨a, heading⟩ moves := by
  induction walk generalizing heading with
  | stay free => cases positive
  | @step n a b c free adjacent rest ih =>
    obtain ⟨toward, rfl⟩ := Cell.exists_offset_of_adjacent adjacent
    have no_wall := Layout.isWall_eq_false_iff.2 rest.free
    have stepped : Robot.perform layout ⟨a, toward⟩ .forward = _ := Robot.step_of_free no_wall
    have turns := heading.length_turnsTo_le toward
    by_cases here : a + toward.offset = layout.goal
    · -- the walk may touch the goal before its end, and then the run is over
      rw [if_pos here] at stepped
      refine ⟨heading.turnsTo toward ++ [.forward], ?_, Robot.Arrives.turn (.now stepped)⟩
      rw [List.length_append, List.length_singleton]
      omega
    · rw [if_neg here] at stepped
      have more : 1 ≤ n := by
        cases rest with
        | stay => exact absurd goal here
        | step => exact Nat.le_add_left 1 _
      obtain ⟨moves, short, arrives⟩ := ih goal more toward
      refine ⟨heading.turnsTo toward ++ .forward :: moves, ?_,
        Robot.Arrives.turn (.later stepped arrives)⟩
      rw [List.length_append, List.length_cons]
      omega

/-! ### Programs and walks -/

theorem Arena.reaches_iff {arena : Arena} {submitted : Source} {report : Report} :
    arena.Reaches submitted report ↔
      ∃ accepted, (Source.dropTrailingEquals submitted).accept arena.limits = .ok accepted ∧
        report = accepted.program.run arena.layout arena.layout.start arena.limits.steps ∧
        report.outcome = .goalReached := by
  constructor
  · rintro ⟨⟨unused, completed⟩, reached⟩
    obtain ⟨accepted, accept, run, -⟩ := Arena.judge_eq_completed_iff.1 completed
    exact ⟨accepted, accept, run, reached⟩
  · rintro ⟨accepted, accept, run, reached⟩
    exact ⟨⟨_, Arena.judge_eq_completed_iff.2 ⟨accepted, accept, run, rfl⟩⟩, reached⟩

/-- Where a text reaches the goal, a walk leads there that is no longer than the run. -/
theorem Arena.Reaches.exists_connected {arena : Arena} (loaded : arena.layout.Loaded)
    {submitted : Source} {report : Report} (reaches : arena.Reaches submitted report) :
    ∃ n, arena.layout.Connected n ∧ n ≤ report.steps := by
  obtain ⟨accepted, -, rfl, reached⟩ := Arena.reaches_iff.1 reaches
  have record := Program.recorded accepted.program arena.layout arena.limits.steps 0
    ⟨0, arena.layout.start⟩
  obtain ⟨n, positive, short, walk⟩ := record.exists_walk loaded.wellFormed.start_free reached
  rw [Nat.zero_add] at short
  exact ⟨n, ⟨positive, walk⟩, short⟩

/-- Where a walk leads to the goal, a text of moves reaches it that takes three symbols a step. -/
theorem Layout.Connected.exists_text {n : Nat} (connected : layout.Connected n) :
    ∃ text : Source, text.length ≤ 3 * n ∧
      ∀ limits : Limits, 3 * n ≤ limits.sourceLength → 3 * n ≤ limits.steps →
        ∃ report, (⟨limits, layout⟩ : Arena).Reaches text report := by
  obtain ⟨positive, walk⟩ := connected
  obtain ⟨moves, short, arrives⟩ := walk.exists_moves rfl positive layout.start.heading
  refine ⟨Move.text moves, by rwa [Move.text, List.length_map], fun limits length steps => ?_⟩
  obtain ⟨accepted, accept, program⟩ := Move.accept_text (Nat.le_trans short length)
  refine ⟨_, Arena.reaches_iff.2 ⟨accepted, ?_, rfl, ?_⟩⟩
  · rwa [Move.dropTrailingEquals_text]
  · rw [program]
    exact arrives.outcome_runFrom 0 rfl (Nat.le_trans short steps)

/-- The goal of a loaded layout can be reached by a text, under some limits, exactly when a walk over
    free floor leads to it. A run that reaches it takes at least as many steps as the shortest walk, and
    for a walk of `n` steps there is a text of at most `3 * n` characters that reaches the goal under
    all limits that allow as many characters and steps. -/
theorem Layout.goal_reachable_iff_connected (loaded : layout.Loaded) :
    ((∃ limits submitted report, (⟨limits, layout⟩ : Arena).Reaches submitted report) ↔
      ∃ n, layout.Connected n) ∧
    (∀ limits submitted report, (⟨limits, layout⟩ : Arena).Reaches submitted report →
      ∃ shortest, IsLeast {n | layout.Connected n} shortest ∧ shortest ≤ report.steps) ∧
    ∀ n, layout.Connected n →
      ∃ text : Source, text.length ≤ 3 * n ∧
        ∀ limits : Limits, 3 * n ≤ limits.sourceLength → 3 * n ≤ limits.steps →
          ∃ report, (⟨limits, layout⟩ : Arena).Reaches text report := by
  refine ⟨⟨?_, ?_⟩, ?_, fun n connected => connected.exists_text⟩
  · rintro ⟨limits, submitted, report, reaches⟩
    obtain ⟨n, connected, -⟩ := reaches.exists_connected loaded
    exact ⟨n, connected⟩
  · rintro ⟨n, connected⟩
    obtain ⟨text, -, all_limits⟩ := connected.exists_text
    obtain ⟨report, reaches⟩ :=
      all_limits ⟨3 * n, 3 * n⟩ (Nat.le_refl _) (Nat.le_refl _)
    exact ⟨_, text, report, reaches⟩
  · intro limits submitted report reaches
    obtain ⟨n, connected, short⟩ := reaches.exists_connected loaded
    classical
    have some_walk : ∃ n, layout.Connected n := ⟨n, connected⟩
    refine ⟨Nat.find some_walk, ⟨Nat.find_spec some_walk, fun m => Nat.find_min' some_walk⟩, ?_⟩
    exact Nat.le_trans (Nat.find_min' some_walk connected) short

/-- A robot that starts on the goal, facing a wall, has to leave it and to come back: a walk of two
    steps, so a text of at most six characters. -/
theorem Layout.goal_reachable_iff_connected_there_and_back :
    let layout : Layout := ⟨2, 1, #[.free, .free], ⟨⟨0, 0⟩, .up⟩, ⟨0, 0⟩⟩
    layout.Loaded ∧ layout.Connected 2 ∧
      (∃ limits submitted report, (⟨limits, layout⟩ : Arena).Reaches submitted report) ∧
      ∃ text : Source, text.length ≤ 6 ∧
        ∃ report, (⟨⟨6, 6⟩, layout⟩ : Arena).Reaches text report := by
  intro layout
  have drawing : Layout.load? [[' ', ' ']] layout.start layout.goal = some (.ok layout) := rfl
  have there : Cell.Adjacent ⟨0, 0⟩ ⟨1, 0⟩ := by unfold Cell.Adjacent; decide
  have back : Cell.Adjacent ⟨1, 0⟩ ⟨0, 0⟩ := by unfold Cell.Adjacent; decide
  have walk : layout.Walk 2 ⟨0, 0⟩ ⟨0, 0⟩ := .step rfl there (.step rfl back (.stay rfl))
  have connected : layout.Connected 2 := ⟨by decide, walk⟩
  obtain ⟨reachable, -, short⟩ := Layout.goal_reachable_iff_connected (.drawn drawing)
  obtain ⟨text, length, all_limits⟩ := short 2 connected
  exact ⟨.drawn drawing, connected, reachable.2 ⟨2, connected⟩, text, length,
    all_limits ⟨6, 6⟩ (Nat.le_refl _) (Nat.le_refl _)⟩

end Labyrinth
