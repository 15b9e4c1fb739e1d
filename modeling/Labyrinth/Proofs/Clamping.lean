import Labyrinth.Proofs.Transcript

/-!
# Jumps past the end

The targets of a program that was decoded may be any numbers, and all of them that lie past the end do the
same: the run ends there. So nothing changes if they are led to the end itself (`Program.clamped`). After
such a jump the two runs are at different places, but neither has an instruction there; until then they
are at the same places, with the same robot (`Recorded.clamped`).
-/

namespace Labyrinth

/-- The same instruction, led no further than to `size`. -/
def Instruction.clamp (size : Nat) : Instruction → Instruction
  | .move m => .move m
  | .jump target => .jump (min target size)
  | .jumpIf sensed target => .jumpIf sensed (min target size)

/-- The same machine, at most at the place `size`. -/
def Machine.clamp (size : Nat) (m : Machine) : Machine := ⟨min m.pointer size, m.robot⟩

/-- The same step of the same machine, with its instruction led no further than to `size`. -/
def Execution.clamp (size : Nat) (e : Execution) : Execution :=
  { e with instruction := e.instruction.clamp size }

/-- The same program, with every target past the end led to the end. -/
def Program.clamped (program : Program) : Program :=
  ⟨program.instructions.map (Instruction.clamp program.size)⟩

/-- The execution jumps to its target, or it goes on at the next place, which is `size` at most. -/
def Execution.GoesOnWithin (size : Nat) (layout : Layout) (e : Execution) : Prop :=
  e.pointer + 1 ≤ size ∧
    (e.nextPointer layout = e.pointer + 1 ∨ e.instruction.target? = some (e.nextPointer layout))

namespace Machine

variable {size : Nat} {layout : Layout} {m : Machine}

theorem clamp_of_lt (inside : m.pointer < size) : m.clamp size = m := by
  rw [clamp, Nat.min_eq_left (Nat.le_of_lt inside)]

/-- From a place in the program, the clamped instruction leads where the other one does, or to the end
    if that is past it. -/
theorem execute_clamp (layout : Layout) (inside : m.pointer < size) (i : Instruction) :
    m.execute layout (i.clamp size) =
      ((m.execute layout i).1, (m.execute layout i).2.clamp size) := by
  have next : min (m.pointer + 1) size = m.pointer + 1 := Nat.min_eq_left inside
  cases i with
  | move move => simp only [Instruction.clamp, execute, clamp, next]
  | jump target => rfl
  | jumpIf sensed target =>
    by_cases seen : layout.look m.robot.ahead = sensed <;>
      simp [Instruction.clamp, execute, clamp, seen, next]

end Machine

/-- An instruction leads to the next place or to its target. -/
theorem Execution.nextPointer_eq (layout : Layout) (e : Execution) :
    e.nextPointer layout = e.pointer + 1 ∨ e.instruction.target? = some (e.nextPointer layout) := by
  unfold nextPointer
  split
  · exact .inl rfl
  · next jumps => exact .inr (by rw [jumps]; rfl)
  · next jumps =>
    split
    · exact .inr (by rw [jumps]; rfl)
    · exact .inl rfl
  · next jumps =>
    split
    · exact .inl rfl
    · exact .inr (by rw [jumps]; rfl)

namespace Program

variable {program : Program} {layout : Layout} {budget step : Nat} {m : Machine}
  {trace : List Execution} {report : Report}

@[simp] theorem size_clamped (program : Program) : program.clamped.size = program.size :=
  List.length_map _

theorem get?_clamped (program : Program) (place : Nat) :
    program.clamped.get? place = (program.get? place).map (Instruction.clamp program.size) :=
  List.getElem?_map

/-- The clamped program makes the same run, step by step and with the same report. -/
theorem Recorded.clamped (record : Recorded program layout budget step m trace report) :
    Recorded program.clamped layout budget step (m.clamp program.size)
      (trace.map (Execution.clamp program.size)) report := by
  induction record with
  | cutOff => exact .cutOff
  | @ended budget step m left =>
    have past := get?_eq_none_iff.1 left
    refine .ended (get?_eq_none_iff.2 ?_)
    rw [size_clamped]
    exact Nat.le_min.2 ⟨past, Nat.le_refl _⟩
  | @stopped budget step m last instruction result outcome fetched executed stops =>
    have inside := lt_size_of_get? fetched
    have executed_too := Machine.execute_clamp layout inside instruction
    rw [executed] at executed_too
    rw [Machine.clamp_of_lt inside]
    show Recorded _ _ _ _ _ _ ⟨outcome, step + 1, (last.clamp program.size).robot⟩
    exact .stopped (by rw [get?_clamped, fetched]; rfl) executed_too stops
  | @stepped budget step m next instruction trace report fetched executed rest ih =>
    have inside := lt_size_of_get? fetched
    have executed_too := Machine.execute_clamp layout inside instruction
    rw [executed] at executed_too
    rw [Machine.clamp_of_lt inside]
    exact .stepped (by rw [get?_clamped, fetched]; rfl) executed_too ih

/-- Wherever a run executes an instruction, it goes on within the program or jumps. -/
theorem Recorded.goesOnWithin (record : Recorded program layout budget step m trace report) :
    ∀ e ∈ trace, e.GoesOnWithin program.size layout := fun e member =>
  ⟨lt_size_of_get? (record.chronicle.fetched e member), e.nextPointer_eq layout⟩

/-- Jumps past the end are all alike. For every program, whatever its targets, in every state of a maze
    and under every limit: with all targets past the end led to the end, the program has the same
    report and leaves the maze in the same state, and its steps are the same but for these targets. And in
    both runs every step goes on at a next place that is no further than the end, or jumps. -/
theorem clamping_changes_nothing (program : Program) (maze : Maze) (limit : Nat) :
    let size := program.size
    let trace := program.trace maze.layout maze.robot limit
    let clampedTrace := program.clamped.trace maze.layout maze.robot limit
    maze.run program.clamped limit = maze.run program limit ∧
    clampedTrace = trace.map (Execution.clamp size) ∧
    (∀ e ∈ trace, e.GoesOnWithin size maze.layout) ∧
    ∀ e ∈ clampedTrace, e.GoesOnWithin size maze.layout := by
  intro size trace clampedTrace
  have record : program.Recorded maze.layout limit 0 ⟨0, maze.robot⟩ trace _ := recorded ..
  have image := record.clamped
  have start : (⟨0, maze.robot⟩ : Machine).clamp program.size = ⟨0, maze.robot⟩ := by
    rw [Machine.clamp, Nat.zero_min]
  rw [start] at image
  have same : program.clamped.run maze.layout maze.robot limit =
      program.run maze.layout maze.robot limit := image.report_eq.symm
  refine ⟨?_, image.trace_eq.symm, record.goesOnWithin, ?_⟩
  · rw [Maze.run, Maze.run, same]
  · rw [show size = program.clamped.size from program.size_clamped.symm]
    exact (recorded ..).goesOnWithin

/-- The largest target there is leads to the end of a program of one instruction. -/
example : (Program.mk [.jump 0xffffffffffffffff]).clamped = ⟨[.jump 1]⟩ := rfl

end Program

end Labyrinth
