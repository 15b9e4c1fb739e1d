import Labyrinth.Program.Run

/-!
# What a run can do

The report and the trace of a run are two recursions over one budget. `Recorded` says what both do in
one step, with one case for each way a run goes on or ends, and `recorded` that it holds of every
run. What is true of all runs is proved from it by induction on the record: what every move keeps a run
keeps (`Recorded.keeps`), and two runs whose steps match end alike (`Lockstep.runFrom`).
-/

namespace Labyrinth

/-- The outcome of a run that stops after a move with this result. -/
def MoveResult.outcome? : MoveResult → Option Outcome
  | .clear => none
  | .wallHit => some .wallHit
  | .goalReached => some .goalReached

/-- A move stops a run only on the goal or at a wall. -/
theorem MoveResult.eq_or_eq_of_outcome? {result : MoveResult} {outcome : Outcome}
    (stops : result.outcome? = some outcome) : outcome = .goalReached ∨ outcome = .wallHit := by
  cases result with
  | clear => cases stops
  | wallHit => cases stops; exact .inr rfl
  | goalReached => cases stops; exact .inl rfl

namespace Program

/-- The trace and the report of a run with `budget` units left from a machine that has made `step`
    steps. -/
inductive Recorded (program : Program) (layout : Layout) :
    Nat → Nat → Machine → List Execution → Report → Prop where
  | cutOff {step : Nat} {m : Machine} : Recorded program layout 0 step m [] ⟨.cutOff, step, m.robot⟩
  | ended {budget step : Nat} {m : Machine} (left : program.get? m.pointer = none) :
      Recorded program layout (budget + 1) step m [] ⟨.programEnded, step, m.robot⟩
  | stopped {budget step : Nat} {m last : Machine} {instruction : Instruction}
      {result : MoveResult} {outcome : Outcome}
      (fetched : program.get? m.pointer = some instruction)
      (executed : m.execute layout instruction = (result, last))
      (stops : result.outcome? = some outcome) :
      Recorded program layout (budget + 1) step m [⟨m, step, instruction⟩]
        ⟨outcome, step + 1, last.robot⟩
  | stepped {budget step : Nat} {m next : Machine} {instruction : Instruction}
      {trace : List Execution} {report : Report}
      (fetched : program.get? m.pointer = some instruction)
      (executed : m.execute layout instruction = (.clear, next))
      (rest : Recorded program layout budget (step + 1) next trace report) :
      Recorded program layout (budget + 1) step m (⟨m, step, instruction⟩ :: trace) report

/-- Every run is recorded by its trace and its report. -/
theorem recorded (program : Program) (layout : Layout) (budget step : Nat) (m : Machine) :
    Recorded program layout budget step m (program.traceFrom layout budget step m)
      (program.runFrom layout budget step m) := by
  induction budget generalizing step m with
  | zero => exact .cutOff
  | succ budget ih =>
    unfold traceFrom runFrom
    cases fetched : program.get? m.pointer with
    | none => exact .ended fetched
    | some instruction =>
      rcases executed : m.execute layout instruction with ⟨result, next⟩
      cases result with
      | clear => simpa only [executed] using .stepped fetched executed (ih (step + 1) next)
      | wallHit => simpa only [executed] using .stopped fetched executed rfl
      | goalReached => simpa only [executed] using .stopped fetched executed rfl

/-! ### A run, one step at a time -/

section Steps

variable {program : Program} {layout : Layout} {budget step : Nat} {m next last : Machine}
  {instruction : Instruction} {result : MoveResult} {outcome : Outcome}

/-- A run ends where the program has no instruction. -/
theorem runFrom_ended (left : program.get? m.pointer = none) :
    program.runFrom layout (budget + 1) step m = ⟨.programEnded, step, m.robot⟩ := by
  simp only [runFrom, left]

/-- A run stops with a move that is not clear. -/
theorem runFrom_stopped (fetched : program.get? m.pointer = some instruction)
    (executed : m.execute layout instruction = (result, last))
    (stops : result.outcome? = some outcome) :
    program.runFrom layout (budget + 1) step m = ⟨outcome, step + 1, last.robot⟩ := by
  cases result with
  | clear => cases stops
  | wallHit => cases stops; simp only [runFrom, fetched, executed]
  | goalReached => cases stops; simp only [runFrom, fetched, executed]

/-- A run goes on where a clear instruction leads. -/
theorem runFrom_stepped (fetched : program.get? m.pointer = some instruction)
    (executed : m.execute layout instruction = (.clear, next)) :
    program.runFrom layout (budget + 1) step m =
      program.runFrom layout budget (step + 1) next := by
  simp only [runFrom, fetched, executed]

end Steps

/-! ### What all runs have in common -/

variable {program : Program} {layout : Layout} {budget step : Nat} {m : Machine}
  {trace : List Execution} {report : Report}

/-- A record has the report of its run. -/
theorem Recorded.report_eq (record : Recorded program layout budget step m trace report) :
    report = program.runFrom layout budget step m := by
  induction record with
  | cutOff => rfl
  | ended left => exact (runFrom_ended left).symm
  | stopped fetched executed stops => exact (runFrom_stopped fetched executed stops).symm
  | stepped fetched executed rest ih => rw [runFrom_stepped fetched executed, ← ih]

/-- And it has the trace of its run. -/
theorem Recorded.trace_eq (record : Recorded program layout budget step m trace report) :
    trace = program.traceFrom layout budget step m := by
  induction record with
  | cutOff => rfl
  | ended left => simp only [traceFrom, left]
  | @stopped budget step m last instruction result outcome fetched executed stops =>
    cases result with
    | clear => cases stops
    | wallHit => simp only [traceFrom, fetched, executed]
    | goalReached => simp only [traceFrom, fetched, executed]
  | stepped fetched executed rest ih => simp only [traceFrom, fetched, executed, ← ih]

/-- What every move keeps of a robot, every instruction keeps. -/
theorem execute_keeps {P : Robot → Prop} (keep : ∀ r move, P r → P (r.perform layout move).2)
    (m : Machine) (instruction : Instruction) (start : P m.robot) :
    P (m.execute layout instruction).2.robot := by
  cases instruction with
  | move move => exact keep m.robot move start
  | jump target => exact start
  | jumpIf sensed target => exact start

/-- What every move keeps of a robot, a whole run keeps: at each of its steps and in its report. -/
theorem Recorded.keeps {P : Robot → Prop}
    (record : Recorded program layout budget step m trace report)
    (keep : ∀ r move, P r → P (r.perform layout move).2) (start : P m.robot) :
    P report.robot ∧ ∀ e ∈ trace, P e.robot := by
  induction record with
  | cutOff => exact ⟨start, nofun⟩
  | ended left => exact ⟨start, nofun⟩
  | @stopped budget step m last instruction result outcome fetched executed stops =>
    have after := execute_keeps keep m instruction start
    rw [executed] at after
    exact ⟨after, List.forall_mem_singleton.2 start⟩
  | @stepped budget step m next instruction trace report fetched executed rest ih =>
    have after := execute_keeps keep m instruction start
    rw [executed] at after
    obtain ⟨atEnd, along⟩ := ih after
    exact ⟨atEnd, List.forall_mem_cons.2 ⟨start, along⟩⟩

/-! ### Two runs side by side -/

/-- What keeps two runs in step, by a relation between their machines and the budget that is left:
    related machines leave their programs together, or execute instructions with the same result and are
    related again with one unit less. -/
structure Lockstep (program other : Program) (layout image : Layout)
    (R : Nat → Machine → Machine → Prop) : Prop where
  ended : ∀ {left m n}, R (left + 1) m n → program.get? m.pointer = none → other.get? n.pointer = none
  stepped : ∀ {left m n instruction}, R (left + 1) m n → program.get? m.pointer = some instruction →
    ∃ counterpart, other.get? n.pointer = some counterpart ∧
      (n.execute image counterpart).1 = (m.execute layout instruction).1 ∧
      R left (m.execute layout instruction).2 (n.execute image counterpart).2

/-- Two runs that are kept in step end alike after as many steps, and leave related robots. -/
theorem Lockstep.runFrom {other : Program} {image : Layout} {R : Nat → Machine → Machine → Prop}
    {n : Machine} (lockstep : Lockstep program other layout image R)
    (record : Recorded program layout budget step m trace report) (related : R budget m n) :
    ∃ left last counterpart, R left last counterpart ∧ report.robot = last.robot ∧
      other.runFrom image budget step n = ⟨report.outcome, report.steps, counterpart.robot⟩ := by
  induction record generalizing n with
  | @cutOff step m => exact ⟨0, m, n, related, rfl, rfl⟩
  | @ended budget step m gone =>
    exact ⟨budget + 1, m, n, related, rfl, runFrom_ended (lockstep.ended related gone)⟩
  | @stopped budget step m last instruction result outcome fetched executed stops =>
    obtain ⟨i, fetched_too, alike, after⟩ := lockstep.stepped related fetched
    rw [executed] at alike after
    refine ⟨budget, last, (n.execute image i).2, after, rfl, ?_⟩
    exact runFrom_stopped fetched_too (Prod.ext alike rfl) stops
  | @stepped budget step m next instruction trace report fetched executed rest ih =>
    obtain ⟨i, fetched_too, alike, after⟩ := lockstep.stepped related fetched
    rw [executed] at alike after
    obtain ⟨left, last, counterpart, last_related, same, run⟩ := ih after
    refine ⟨left, last, counterpart, last_related, same, ?_⟩
    rw [← run]
    exact runFrom_stepped fetched_too (Prod.ext alike rfl)

end Program

end Labyrinth
