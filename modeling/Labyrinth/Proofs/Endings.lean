import Labyrinth.Proofs.Budget
import Labyrinth.Proofs.FreeFloor
import Labyrinth.Proofs.Transcript

/-!
# What each outcome means

Only a step can end a run on the goal or at a wall, and what becomes of a step is settled by the cell it
is to enter: `Execution.Became` says so of every executed instruction. Along a run it follows that all
steps but the last entered free cells other than the goal, and that the last one tells the outcome
(`Recorded.ends_with_last_or_clear`). A run that does not end with the goal reached is not on the goal,
unless it started there (`Recorded.position_ne_goal`).
-/

namespace Labyrinth

/-! ### What becomes of one instruction -/

namespace Execution

variable {layout : Layout} {e : Execution}

/-- What became of the executed instruction. -/
def result (layout : Layout) (e : Execution) : MoveResult :=
  (e.toMachine.execute layout e.instruction).1

/-- The cell that the executed instruction was to enter, if it was a step. -/
def destination? (e : Execution) : Option Cell := e.toMachine.destination? e.instruction

/-- The executed instruction was no step, or one that entered a free cell other than the goal. -/
def Uneventful (layout : Layout) (e : Execution) : Prop :=
  ∀ cell, e.destination? = some cell → layout.isWall cell = false ∧ cell ≠ layout.goal

theorem robot_execute (layout : Layout) (e : Execution) :
    (e.toMachine.execute layout e.instruction).2.robot = e.nextRobot layout := by
  rw [execute_eq]

/-- What became of an executed instruction, for each of its results. -/
inductive Became (layout : Layout) (e : Execution) : MoveResult → Prop where
  | clear (uneventful : e.Uneventful layout)
      (stays_away : e.robot.position ≠ layout.goal →
        (e.nextRobot layout).position ≠ layout.goal) : Became layout e .clear
  | wallHit {cell : Cell} (enters : e.destination? = some cell) (wall : layout.isWall cell = true)
      (same : e.nextRobot layout = e.robot) : Became layout e .wallHit
  | goalReached (enters : e.destination? = some layout.goal)
      (arrived : (e.nextRobot layout).position = layout.goal) : Became layout e .goalReached

theorem became (layout : Layout) (e : Execution) : e.Became layout (e.result layout) := by
  rcases e.toMachine.execute_cases layout e.instruction with
    ⟨none, clear, same⟩ | ⟨cell, enters, ⟨wall, stays⟩ | ⟨free, goes⟩⟩
  · rw [robot_execute] at same
    rw [result, clear]
    refine .clear (fun cell enters => ?_) fun away => same.symm ▸ away
    cases enters.symm.trans none
  · rw [result, stays]
    exact .wallHit enters wall (by rw [← robot_execute, stays])
  · have arrived : (e.nextRobot layout).position = cell := by rw [← robot_execute, goes]
    rw [result, goes]
    by_cases goal : cell = layout.goal
    · rw [if_pos goal]
      rw [goal] at enters arrived
      exact .goalReached enters arrived
    · rw [if_neg goal]
      refine .clear (fun other found => ?_) fun _ => arrived.symm ▸ goal
      obtain rfl : cell = other := Option.some.inj (enters.symm.trans found)
      exact ⟨free, goal⟩

theorem uneventful_of_clear (clear : e.result layout = .clear) : e.Uneventful layout := by
  have became := e.became layout
  rw [clear] at became
  cases became with
  | clear uneventful => exact uneventful

/-- Without the goal reached, a robot is only on the goal if it was there. -/
theorem position_of_ne_goalReached (other : e.result layout ≠ .goalReached)
    (away : e.robot.position ≠ layout.goal) : (e.nextRobot layout).position ≠ layout.goal := by
  have became := e.became layout
  generalize e.result layout = result at became other
  cases became with
  | clear uneventful stays_away => exact stays_away away
  | wallHit enters wall same => rwa [same]
  | goalReached => exact absurd rfl other

end Execution

/-! ### What becomes of a run -/

namespace Program

variable {program : Program} {layout : Layout} {budget step : Nat} {m : Machine}
  {trace : List Execution} {report : Report}

/-- A run stops with its last instruction, or all its instructions were clear. -/
theorem Recorded.ends_with_last_or_clear
    (record : Recorded program layout budget step m trace report) :
    (∃ earlier last, trace = earlier ++ [last] ∧ (∀ e ∈ earlier, e.result layout = .clear) ∧
        (last.result layout).outcome? = some report.outcome ∧
        report.robot = last.nextRobot layout) ∨
      (report.outcome = .programEnded ∨ report.outcome = .cutOff) ∧
        ∀ e ∈ trace, e.result layout = .clear := by
  induction record with
  | cutOff => exact .inr ⟨.inr rfl, nofun⟩
  | ended left => exact .inr ⟨.inl rfl, nofun⟩
  | @stopped budget step m last instruction result outcome fetched executed stops =>
    refine .inl ⟨[], ⟨m, step, instruction⟩, rfl, nofun, ?_, ?_⟩
    · rw [Execution.result, executed]
      exact stops
    · rw [← Execution.robot_execute, executed]
  | @stepped budget step m next instruction trace report fetched executed rest ih =>
    have clear : Execution.result layout ⟨m, step, instruction⟩ = .clear := by
      rw [Execution.result, executed]
    rcases ih with ⟨earlier, last, rfl, earlier_clear, stops, left⟩ | ⟨outcome, all_clear⟩
    · exact .inl ⟨_ :: earlier, last, rfl, List.forall_mem_cons.2 ⟨clear, earlier_clear⟩, stops, left⟩
    · exact .inr ⟨outcome, List.forall_mem_cons.2 ⟨clear, all_clear⟩⟩

/-- The last step of a run that stopped tells why, and those before it tell nothing. -/
theorem Recorded.exists_last (record : Recorded program layout budget step m trace report)
    (stopped : report.outcome = .goalReached ∨ report.outcome = .wallHit) :
    ∃ earlier last, trace = earlier ++ [last] ∧
      (last.instruction = .move .forward ∨ last.instruction = .move .backward) ∧
      (∀ e ∈ earlier, e.Uneventful layout) ∧
      (report.outcome = .goalReached →
        report.robot.position = layout.goal ∧ last.destination? = some layout.goal) ∧
      (report.outcome = .wallHit → report.robot = last.robot ∧
        ∃ cell, last.destination? = some cell ∧ layout.isWall cell = true) := by
  rcases record.ends_with_last_or_clear with ⟨earlier, last, shown, clear, tells, left⟩ | ⟨other, -⟩
  · have uneventful : ∀ e ∈ earlier, e.Uneventful layout :=
      fun e member => Execution.uneventful_of_clear (clear e member)
    have became := last.became layout
    generalize last.result layout = result at became tells
    cases became with
    | clear => cases tells
    | wallHit enters wall same =>
      have hit : report.outcome = .wallHit := (Option.some.inj tells).symm
      refine ⟨earlier, last, shown, Machine.isStep_of_destination? enters, uneventful, ?_, ?_⟩
      · exact fun reached => nomatch hit.symm.trans reached
      · exact fun _ => ⟨left.trans same, _, enters, wall⟩
    | goalReached enters arrived =>
      have reached : report.outcome = .goalReached := (Option.some.inj tells).symm
      refine ⟨earlier, last, shown, Machine.isStep_of_destination? enters, uneventful, ?_, ?_⟩
      · exact fun _ => ⟨left ▸ arrived, enters⟩
      · exact fun hit => nomatch reached.symm.trans hit
  · rcases other with other | other <;> rw [other] at stopped <;> simp at stopped

/-- All steps of a run that did not stop entered free cells other than the goal. -/
theorem Recorded.uneventful (record : Recorded program layout budget step m trace report)
    (other : report.outcome = .programEnded ∨ report.outcome = .cutOff) :
    ∀ e ∈ trace, e.Uneventful layout := by
  rcases record.ends_with_last_or_clear with ⟨-, last, -, -, stops, -⟩ | ⟨-, clear⟩
  · rcases MoveResult.eq_or_eq_of_outcome? stops with outcome | outcome <;>
      rw [outcome] at other <;> simp at other
  · exact fun e member => Execution.uneventful_of_clear (clear e member)

/-- A run that starts away from the goal and does not reach it, does not end there. -/
theorem Recorded.position_ne_goal (record : Recorded program layout budget step m trace report)
    (away : m.robot.position ≠ layout.goal) (other : report.outcome ≠ .goalReached) :
    report.robot.position ≠ layout.goal := by
  induction record with
  | cutOff => exact away
  | ended left => exact away
  | @stopped budget step m last instruction result outcome fetched executed stops =>
    have after := @Execution.position_of_ne_goalReached layout ⟨m, step, instruction⟩
    rw [← Execution.robot_execute, Execution.result, executed] at after
    refine after (fun reached => ?_) away
    subst reached
    cases stops
    exact other rfl
  | @stepped budget step m next instruction trace report fetched executed rest ih =>
    have after := @Execution.position_of_ne_goalReached layout ⟨m, step, instruction⟩
    rw [← Execution.robot_execute, Execution.result, executed] at after
    exact ih (after nofun away) other

/-- A run that is cut off has spent all it had. -/
theorem Recorded.steps_of_cutOff (record : Recorded program layout budget step m trace report)
    (cut : report.outcome = .cutOff) : report.steps = step + budget := by
  induction record with
  | cutOff => rfl
  | ended left => cases cut
  | stopped fetched executed stops =>
    rcases MoveResult.eq_or_eq_of_outcome? stops with rfl | rfl <;> cases cut
  | stepped fetched executed rest ih => rw [ih cut, Nat.add_right_comm, Nat.add_assoc]

/-- The robot after a run is where the moves among its instructions lead, one after the other. -/
theorem Recorded.robot_eq (record : Recorded program layout budget step m trace report) :
    report.robot = (trace.filterMap (·.instruction.move?)).foldl
      (fun r move => (r.perform layout move).2) m.robot := by
  induction record with
  | cutOff => rfl
  | ended left => rfl
  | @stopped budget step m last instruction result outcome fetched executed stops =>
    obtain rfl : (m.execute layout instruction).2 = last := congrArg Prod.snd executed
    cases instruction <;> rfl
  | @stepped budget step m next instruction trace report fetched executed rest ih =>
    obtain rfl : (m.execute layout instruction).2 = next := congrArg Prod.snd executed
    rw [ih]
    cases instruction <;> rfl

end Program

namespace Maze

/-- Moves that are asked of a maze are made by its robot, one after the other. -/
theorem operateAll_moves (maze : Maze) (moves : List Move) :
    maze.operateAll (moves.map .move) = { maze with
      robot := moves.foldl (fun r move => (r.perform maze.layout move).2) maze.robot } := by
  induction moves generalizing maze with
  | nil => rfl
  | cons move moves ih => exact ih (maze.operate (.move move))

/-- What the report of a run tells, whatever the program, the state of the maze and the limit. Its robot is
    the one that is left in the maze, and that is where the executed moves lead. There are as many steps
    as it counts, and no more than the limit. If the run did not start on the goal, it ended there
    exactly if the goal was reached. If the goal was reached or a wall was hit, then by the last step,
    and all steps before it entered free cells other than the goal; a wall that was hit is on the cell that
    this step was to enter, and it left the robot as it was. In the other two cases all steps entered such
    cells, and there was a unit left to find the end of the program, or none was left. -/
theorem what_an_outcome_tells (maze : Maze) (program : Program) (limit : Nat) :
    let layout := maze.layout
    let report := (maze.run program limit).1
    let after := (maze.run program limit).2
    let trace := program.trace layout maze.robot limit
    (report.robot = after.robot ∧
      after = maze.operateAll ((trace.filterMap (·.instruction.move?)).map .move)) ∧
    (report.steps = trace.length ∧ report.steps ≤ limit) ∧
    (maze.robot.position ≠ layout.goal →
      (report.robot.position = layout.goal ↔ report.outcome = .goalReached)) ∧
    (report.outcome = .goalReached ∨ report.outcome = .wallHit →
      1 ≤ report.steps ∧ ∃ earlier last, trace = earlier ++ [last] ∧
        (last.instruction = .move .forward ∨ last.instruction = .move .backward) ∧
        (∀ e ∈ earlier, e.Uneventful layout) ∧
        (report.outcome = .goalReached →
          report.robot.position = layout.goal ∧ last.destination? = some layout.goal) ∧
        (report.outcome = .wallHit → report.robot = last.robot ∧
          ∃ cell, last.destination? = some cell ∧ layout.isWall cell = true)) ∧
    (report.outcome = .programEnded → report.steps < limit ∧ ∀ e ∈ trace, e.Uneventful layout) ∧
    (report.outcome = .cutOff → report.steps = limit ∧ ∀ e ∈ trace, e.Uneventful layout) := by
  intro layout report after trace
  have record : program.Recorded layout limit 0 ⟨0, maze.robot⟩ trace report := Program.recorded ..
  have count : report.steps = trace.length := by rw [← record.chronicle.length_eq, Nat.zero_add]
  have cost : report.cost ≤ limit := Nat.zero_add limit ▸ record.cost_le
  have led : after = maze.operateAll ((trace.filterMap (·.instruction.move?)).map .move) := by
    rw [operateAll_moves, ← record.robot_eq]
    rfl
  refine ⟨⟨rfl, led⟩, ⟨count, Nat.le_trans (Nat.le_add_right _ _) cost⟩, ?_⟩
  refine ⟨fun away => ⟨fun there => ?_, fun reached => ?_⟩, fun stopped => ?_, fun ended => ?_,
    fun cut => ?_⟩
  · exact Decidable.byContradiction fun other => record.position_ne_goal away other there
  · obtain ⟨_, _, -, -, -, goal, -⟩ := record.exists_last (.inl reached)
    exact (goal reached).1
  · obtain ⟨earlier, last, shown, rest⟩ := record.exists_last stopped
    refine ⟨?_, earlier, last, shown, rest⟩
    rw [count, shown, List.length_append]
    exact Nat.le_add_left 1 _
  · rw [Report.cost_of_programEnded ended] at cost
    exact ⟨cost, record.uneventful (.inl ended)⟩
  · exact ⟨Nat.zero_add limit ▸ record.steps_of_cutOff cut, record.uneventful (.inr cut)⟩

/-- A robot that turns away from the border and back, and then steps backward against it. -/
theorem what_an_outcome_tells_at_border :
    let layout : Layout := ⟨2, 1, #[.free, .free], ⟨⟨0, 0⟩, .right⟩, ⟨1, 0⟩⟩
    let program : Program := ⟨[.move .turnLeft, .move .turnRight, .move .backward]⟩
    let report := ((enter layout).run program 9).1
    report = ⟨.wallHit, 3, ⟨⟨0, 0⟩, .right⟩⟩ ∧
      ∃ earlier last, program.trace layout layout.start 9 = earlier ++ [last] ∧
        (∀ e ∈ earlier, e.Uneventful layout) ∧ report.robot = last.robot ∧
        ∃ cell, last.destination? = some cell ∧ layout.isWall cell = true := by
  intro layout program report
  obtain ⟨-, -, -, stopped, -⟩ := what_an_outcome_tells (enter layout) program 9
  have left : report = ⟨.wallHit, 3, ⟨⟨0, 0⟩, .right⟩⟩ := by decide
  have hit : report.outcome = .wallHit := congrArg Report.outcome left
  obtain ⟨-, earlier, last, shown, -, uneventful, -, wall⟩ := stopped (.inr hit)
  exact ⟨left, earlier, last, shown, uneventful, wall hit⟩

end Maze

end Labyrinth
