import Labyrinth.Log
import Labyrinth.Proofs.Acceptance
import Labyrinth.Proofs.Runs

/-!
# What a transcript shows

A transcript tells the whole run: one event for each step that the report counts, numbered from zero,
the first at the start, and each at the place and with the robot that the one before leads to.
`Chronicle` says this of a list of executions, `Recorded.chronicle` that every trace is one, and the
last theorem what a log holds besides, whatever the verdict.
-/

namespace Labyrinth

namespace Execution

/-- The place that the executed instruction leads to. -/
def nextPointer (layout : Layout) (e : Execution) : Nat :=
  match e.instruction with
  | .move _ => e.pointer + 1
  | .jump target => target
  | .jumpIf .wall target => if layout.isWall e.robot.ahead then target else e.pointer + 1
  | .jumpIf .free target => if layout.isWall e.robot.ahead then e.pointer + 1 else target

/-- The robot that the executed instruction leaves. -/
def nextRobot (layout : Layout) (e : Execution) : Robot :=
  match e.instruction with
  | .move m => (e.robot.perform layout m).2
  | .jump _ | .jumpIf _ _ => e.robot

/-- The machine goes where the execution leads. -/
theorem execute_eq (layout : Layout) (e : Execution) :
    (e.toMachine.execute layout e.instruction).2 = ⟨e.nextPointer layout, e.nextRobot layout⟩ := by
  obtain ⟨m, step, instruction⟩ := e
  cases instruction with
  | move move => rfl
  | jump target => rfl
  | jumpIf sensed target =>
    cases sensed <;> cases seen : layout.look m.robot.ahead <;>
      simp [Machine.execute, nextPointer, nextRobot, Layout.isWall, seen]

end Execution

/-- The executions of a run from the machine `m`, which has made `step` steps, up to its report. -/
structure Chronicle (program : Program) (layout : Layout) (step : Nat) (m : Machine)
    (report : Report) (executions : List Execution) : Prop where
  /-- There are as many as the report counts steps. -/
  length_eq : step + executions.length = report.steps
  /-- They are numbered one by one. -/
  numbered : ∀ (i : Nat) (e : Execution), executions[i]? = some e → e.step = step + i
  /-- Each executes the instruction at its place. -/
  fetched : ∀ e ∈ executions, program.get? e.pointer = some e.instruction
  /-- The first is that of the machine. -/
  starts : ∀ e, executions.head? = some e → e.toMachine = m
  /-- Each is where the one before it leads. -/
  follows : ∀ (i : Nat) (e next : Execution), executions[i]? = some e →
    executions[i + 1]? = some next →
    next.pointer = e.nextPointer layout ∧ next.robot = e.nextRobot layout
  /-- The report has the robot that the last one leaves. -/
  ends : report.robot =
    match executions.getLast? with
    | none => m.robot
    | some e => e.nextRobot layout

namespace Chronicle

variable {program : Program} {layout : Layout} {step : Nat} {m next : Machine} {report : Report}
  {executions : List Execution} {instruction : Instruction}

/-- A run that is over before a step. -/
theorem nil (outcome : Outcome) : Chronicle program layout step m ⟨outcome, step, m.robot⟩ [] where
  length_eq := rfl
  numbered i e found := by cases found
  fetched e member := by cases member
  starts e found := by cases found
  follows i e later found := by cases found
  ends := rfl

/-- One more step in front of a run. -/
theorem cons (at_place : program.get? m.pointer = some instruction)
    (executed : (m.execute layout instruction).2 = next)
    (rest : Chronicle program layout (step + 1) next report executions) :
    Chronicle program layout step m report (⟨m, step, instruction⟩ :: executions) where
  length_eq := by
    rw [List.length_cons, ← rest.length_eq]
    omega
  numbered i e found := by
    cases i with
    | zero => cases found; rfl
    | succ i =>
      rw [rest.numbered i e found]
      omega
  fetched := List.forall_mem_cons.2 ⟨at_place, rest.fetched⟩
  starts e found := by cases found; rfl
  follows i e later at_i after := by
    cases i with
    | zero =>
      cases at_i
      -- what comes after the new step is the first of the rest, which starts at the next machine
      have leads := Execution.execute_eq layout ⟨m, step, instruction⟩
      rw [executed, ← rest.starts later (by simpa [List.head?_eq_getElem?] using after)] at leads
      exact ⟨congrArg Machine.pointer leads, congrArg Machine.robot leads⟩
    | succ i => exact rest.follows i e later at_i after
  ends := by
    rw [rest.ends]
    cases last : executions.getLast? with
    | none =>
      obtain rfl := List.getLast?_eq_none_iff.1 last
      rw [← executed]
      exact congrArg Machine.robot (Execution.execute_eq layout ⟨m, step, instruction⟩)
    | some e => rw [List.getLast?_cons, last]; rfl

end Chronicle

/-- The trace of a run is a chronicle of it. -/
theorem Program.Recorded.chronicle {program : Program} {layout : Layout} {budget step : Nat}
    {m : Machine} {trace : List Execution} {report : Report}
    (record : Program.Recorded program layout budget step m trace report) :
    Chronicle program layout step m report trace := by
  induction record with
  | cutOff => exact .nil .cutOff
  | ended left => exact .nil .programEnded
  | @stopped _ _ _ _ _ _ outcome fetched executed stops =>
    exact .cons fetched (by rw [executed]) (.nil outcome)
  | stepped fetched executed rest ih => exact .cons fetched (by rw [executed]) ih

/-- The log of a judgement: a rejected text leaves its rejection and nothing else; a text that ran
    leaves that it was compiled, the chronicle of its run, and how the run finished. -/
theorem Arena.transcript_shows_judgement (arena : Arena) (submitted : Source) :
    let source := Source.dropTrailingEquals submitted
    match arena.judge submitted with
    | .rejected reason => arena.transcript submitted = [.rejected source reason]
    | .completed report _ =>
      ∃ program executions,
        source.compile? = some program ∧
        arena.transcript submitted =
          .compiled source program.size :: executions.map .executed ++ [.finished report] ∧
        Chronicle program arena.layout 0 ⟨0, arena.layout.start⟩ report executions := by
  intro source
  cases judged : arena.judge submitted with
  | rejected reason =>
    have rejected := judge_eq_rejected_iff.1 judged
    simp only [transcript, rejected, source]
  | completed report unused =>
    obtain ⟨accepted, accept, rfl, -⟩ := judge_eq_completed_iff.1 judged
    have same := (Source.accept_eq_ok_iff.1 accept).1
    refine ⟨accepted.program, _, ?_, ?_, (Program.recorded ..).chronicle⟩
    · rw [← accepted.compile?_text, same]
    · simp only [transcript, accept]
      rfl

end Labyrinth
