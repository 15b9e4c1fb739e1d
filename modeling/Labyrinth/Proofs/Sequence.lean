import Labyrinth.Proofs.Runs

/-!
# One program after another

A program is put behind another by moving its jump targets on by the size of the first
(`Program.andThen`). A run that has come to the second part goes on as that program would alone
(`Recorded.runFrom_andThen_second`). If no jump of the first program leads further than just past its
end, the joint run is the run of the first, and where that ends, the run of the second with what is
left of the budget (`Recorded.runFrom_andThen`).
-/

namespace Labyrinth

/-- The same instruction with its jump target, if it has one, moved on by `distance` places. -/
def Instruction.moveTarget (distance : Nat) : Instruction → Instruction
  | .move m => .move m
  | .jump target => .jump (target + distance)
  | .jumpIf sensed target => .jumpIf sensed (target + distance)

/-- The same robot, with the pointer moved on by `distance` places. -/
def Machine.moveOn (distance : Nat) (m : Machine) : Machine := ⟨m.pointer + distance, m.robot⟩

/-- The same end of a run, after `steps` steps more. -/
def Report.delay (report : Report) (steps : Nat) : Report :=
  { report with steps := report.steps + steps }

/-- Moving the targets and moving the machine come to the same. -/
theorem Machine.execute_moveOn (layout : Layout) (distance : Nat) (m : Machine)
    (instruction : Instruction) :
    (m.moveOn distance).execute layout (instruction.moveTarget distance) =
      ((m.execute layout instruction).1, (m.execute layout instruction).2.moveOn distance) := by
  cases instruction with
  | move move =>
    simp only [execute, Instruction.moveTarget, moveOn, Nat.add_right_comm]
  | jump target => rfl
  | jumpIf sensed target =>
    by_cases seen : layout.look m.robot.ahead = sensed <;>
      simp [execute, Instruction.moveTarget, moveOn, seen, Nat.add_right_comm]

namespace Program

/-- The instructions of a program, and after them those of another. -/
def andThen (first second : Program) : Program :=
  ⟨first.instructions ++ second.instructions.map (Instruction.moveTarget first.size)⟩

/-- No jump leads further than just past the end. -/
def Closed (program : Program) : Prop :=
  ∀ i ∈ program.instructions, ∀ target, i.target? = some target → target ≤ program.size

variable {first second program : Program} {layout : Layout} {budget step : Nat} {m : Machine}

/-! ### The instructions of both -/

theorem get?_andThen_of_lt {place : Nat} (inside : place < first.size) :
    (first.andThen second).get? place = first.get? place :=
  List.getElem?_append_left inside

theorem get?_andThen_add (first second : Program) (place : Nat) :
    (first.andThen second).get? (place + first.size) =
      (second.get? place).map (Instruction.moveTarget first.size) := by
  show (first.instructions ++ second.instructions.map _)[place + first.instructions.length]? = _
  rw [List.getElem?_append_right (Nat.le_add_left _ _), Nat.add_sub_cancel, List.getElem?_map, get?]

theorem get?_andThen_of_get? (first : Program) {place : Nat} {instruction : Instruction}
    (fetched : second.get? place = some instruction) :
    (first.andThen second).get? (place + first.size) =
      some (instruction.moveTarget first.size) := by
  rw [get?_andThen_add, fetched, Option.map_some]

/-- An instruction of a closed program leads to a place in it or just past its end. -/
theorem Closed.pointer_execute_le (closed : program.Closed) (layout : Layout)
    {instruction : Instruction} (fetched : program.get? m.pointer = some instruction) :
    (m.execute layout instruction).2.pointer ≤ program.size := by
  have inside := lt_size_of_get? fetched
  have target_le := closed instruction (List.mem_of_getElem? fetched)
  cases instruction with
  | move move => exact inside
  | jump target => exact target_le target rfl
  | jumpIf sensed target =>
    simp only [Machine.execute]
    split
    · exact target_le target rfl
    · exact inside

/-! ### The runs of both -/

variable {trace : List Execution} {report : Report}

/-- The steps made before a run only add to those it counts. -/
theorem Recorded.runFrom_add_step (record : Recorded program layout budget step m trace report)
    (steps : Nat) :
    program.runFrom layout budget (step + steps) m = report.delay steps := by
  induction record with
  | cutOff => rfl
  | ended left => rw [runFrom_ended left, Report.delay]
  | stopped fetched executed stops =>
    rw [runFrom_stopped fetched executed stops, Report.delay, Nat.add_right_comm]
  | stepped fetched executed rest ih =>
    rw [runFrom_stepped fetched executed, Nat.add_right_comm, ih]

/-- In the second part the joint program does what the second program does. -/
theorem Recorded.runFrom_andThen_second (first : Program)
    (record : Recorded second layout budget step m trace report) :
    (first.andThen second).runFrom layout budget step (m.moveOn first.size) = report := by
  induction record with
  | cutOff => rfl
  | @ended budget step m left =>
    have left_joint := get?_andThen_add first second m.pointer
    rw [left] at left_joint
    rw [runFrom_ended left_joint, Machine.moveOn]
  | @stopped budget step m last instruction result outcome fetched executed stops =>
    have executed_joint := Machine.execute_moveOn layout first.size m instruction
    rw [executed] at executed_joint
    rw [runFrom_stopped (get?_andThen_of_get? first fetched) executed_joint stops, Machine.moveOn]
  | @stepped budget step m next instruction trace report fetched executed rest ih =>
    have executed_joint := Machine.execute_moveOn layout first.size m instruction
    rw [executed] at executed_joint
    rw [runFrom_stepped (get?_andThen_of_get? first fetched) executed_joint, ih]

/-- The joint run is that of the first program, and where that ends, that of the second goes on with
    what is left of the budget. -/
theorem Recorded.runFrom_andThen (second : Program) (closed : first.Closed)
    (record : Recorded first layout budget step m trace report) (inside : m.pointer ≤ first.size) :
    (first.andThen second).runFrom layout budget step m =
      if report.outcome = .programEnded then
        second.runFrom layout (step + budget - report.steps) report.steps ⟨0, report.robot⟩
      else report := by
  induction record with
  | cutOff => rfl
  | @ended budget step m left =>
    -- the first program ends just past its last instruction, where the second one starts
    have past := get?_eq_none_iff.1 left
    have start : m = (⟨0, m.robot⟩ : Machine).moveOn first.size := by
      ext1
      · exact (Nat.le_antisymm inside past).trans (Nat.zero_add _).symm
      · rfl
    have goes_on :=
      (recorded second layout (budget + 1) step ⟨0, m.robot⟩).runFrom_andThen_second first
    rw [← start] at goes_on
    rw [goes_on, if_pos rfl, Nat.add_sub_cancel_left]
  | @stopped budget step m last instruction result outcome fetched executed stops =>
    have within := lt_size_of_get? fetched
    have ends : outcome ≠ .programEnded := by
      rcases MoveResult.eq_or_eq_of_outcome? stops with rfl | rfl <;> nofun
    rw [runFrom_stopped ((get?_andThen_of_lt within).trans fetched) executed stops, if_neg ends]
  | @stepped budget step m next instruction trace report fetched executed rest ih =>
    have within := lt_size_of_get? fetched
    have leads := closed.pointer_execute_le layout fetched
    rw [executed] at leads
    rw [runFrom_stepped ((get?_andThen_of_lt within).trans fetched) executed, ih leads,
      Nat.add_right_comm step 1 budget, Nat.add_assoc step budget 1]

/-- Running two programs as one: if the first ends, the second takes over its robot and what is left
    of the limit, and its steps are added; in every other case the run of the first is the whole run. -/
theorem run_andThen (closed : first.Closed) (robot : Robot) (limit : Nat) :
    (first.andThen second).run layout robot limit =
      let report := first.run layout robot limit
      if report.outcome = .programEnded then
        (second.run layout report.robot (limit - report.steps)).delay report.steps
      else report := by
  have joint :=
    (recorded first layout limit 0 ⟨0, robot⟩).runFrom_andThen second closed (Nat.zero_le _)
  rw [Nat.zero_add] at joint
  rw [run, joint]
  dsimp only [run]
  rw [← (recorded second ..).runFrom_add_step, Nat.zero_add]

end Program

end Labyrinth
