import Labyrinth.Proofs.Runs

/-!
# A limit only cuts runs short

A run that comes to its end by itself takes a certain budget, its `Report.cost`: a unit for each step,
and one more if it has to find that the program has ended. Under every limit that allows as much it ends
in the same way, and under every smaller one it is cut off when the limit is spent. Both are proved
along the record of the run, for every budget that might be left.
-/

namespace Labyrinth

/-- What a run takes of its budget: its steps, and the look that finds that the program has ended. -/
def Report.cost (report : Report) : Nat :=
  report.steps + if report.outcome = .programEnded then 1 else 0

/-- The report of a run that spent its whole limit and was cut off. -/
def Report.CutOffAfter (limit : Nat) (report : Report) : Prop :=
  report.outcome = .cutOff ∧ report.steps = limit

namespace Report

theorem cost_of_programEnded {report : Report} (ended : report.outcome = .programEnded) :
    report.cost = report.steps + 1 := by
  rw [cost, if_pos ended]

theorem cost_of_ne_programEnded {report : Report} (other : report.outcome ≠ .programEnded) :
    report.cost = report.steps := by
  rw [cost, if_neg other, Nat.add_zero]

end Report

namespace Program

variable {program : Program} {layout : Layout} {budget other step : Nat} {m : Machine}
  {trace : List Execution} {report : Report}

theorem cost_programEnded (step : Nat) (robot : Robot) :
    (⟨.programEnded, step, robot⟩ : Report).cost = step + 1 := rfl

/-- The report of a run that a move stops costs the steps that were made. -/
theorem cost_of_outcome? {result : MoveResult} {outcome : Outcome}
    (stops : result.outcome? = some outcome) (robot : Robot) :
    (⟨outcome, step, robot⟩ : Report).cost = step := by
  rcases MoveResult.eq_or_eq_of_outcome? stops with rfl | rfl <;> rfl

/-- No run costs more than it has. -/
theorem Recorded.cost_le (record : Recorded program layout budget step m trace report) :
    report.cost ≤ step + budget := by
  induction record with
  | cutOff => exact Nat.le_refl _
  | ended left =>
    rw [cost_programEnded]
    omega
  | stopped fetched executed stops =>
    rw [cost_of_outcome? stops]
    omega
  | stepped fetched executed rest ih => omega

/-- A run that ends by itself costs something. -/
theorem Recorded.lt_cost (record : Recorded program layout budget step m trace report)
    (finished : report.outcome ≠ .cutOff) : step < report.cost := by
  induction record with
  | cutOff => exact absurd rfl finished
  | ended left => exact Nat.lt_succ_self _
  | stopped fetched executed stops =>
    rw [cost_of_outcome? stops]
    exact Nat.lt_succ_self _
  | stepped fetched executed rest ih => exact Nat.lt_of_succ_lt (ih finished)

/-- What a run costs is enough to make it. -/
theorem Recorded.runFrom_of_cost_le (record : Recorded program layout budget step m trace report)
    (finished : report.outcome ≠ .cutOff) (enough : report.cost ≤ step + other) :
    program.runFrom layout other step m = report := by
  have positive := record.lt_cost finished
  obtain ⟨other, rfl⟩ : ∃ less, other = less + 1 := ⟨other - 1, by omega⟩
  induction record generalizing other with
  | cutOff => exact absurd rfl finished
  | ended left => exact runFrom_ended left
  | stopped fetched executed stops => exact runFrom_stopped fetched executed stops
  | stepped fetched executed rest ih =>
    have later := rest.lt_cost finished
    obtain ⟨other, rfl⟩ : ∃ less, other = less + 1 := ⟨other - 1, by omega⟩
    rw [runFrom_stepped fetched executed]
    exact ih finished later other (by omega)

/-- With less a run spends all it has and is cut off. -/
theorem Recorded.runFrom_of_lt_cost (record : Recorded program layout budget step m trace report)
    (short : step + other < report.cost) :
    (program.runFrom layout other step m).CutOffAfter (step + other) := by
  induction record generalizing other with
  | cutOff => exact absurd short (Nat.not_lt.2 (Nat.le_add_right _ _))
  | ended left =>
    rw [cost_programEnded] at short
    obtain rfl : other = 0 := by omega
    exact ⟨rfl, rfl⟩
  | stopped fetched executed stops =>
    rw [cost_of_outcome? stops] at short
    obtain rfl : other = 0 := by omega
    exact ⟨rfl, rfl⟩
  | @stepped budget step m next instruction trace report fetched executed rest ih =>
    cases other with
    | zero => exact ⟨rfl, rfl⟩
    | succ other =>
      have spent : step + (other + 1) = step + 1 + other := by omega
      rw [runFrom_stepped fetched executed, spent]
      exact ih (spent ▸ short)

/-- A limit only cuts runs short. If a run ends on the goal or at a wall, then it ends so under every
    limit of at least its steps, and under every smaller limit it is cut off with the limit spent. If
    its program ends, the same holds with one unit more, which finds the end. So a larger limit changes
    no report but that of a run that was cut off. -/
theorem limit_only_truncates (program : Program) (layout : Layout) (robot : Robot) (known : Nat) :
    let report := program.run layout robot known
    (report.outcome = .goalReached ∨ report.outcome = .wallHit →
      (∀ limit, report.steps ≤ limit → program.run layout robot limit = report) ∧
        ∀ limit < report.steps, (program.run layout robot limit).CutOffAfter limit) ∧
    (report.outcome = .programEnded →
      (∀ limit, report.steps + 1 ≤ limit → program.run layout robot limit = report) ∧
        ∀ limit ≤ report.steps, (program.run layout robot limit).CutOffAfter limit) ∧
    (report.outcome ≠ .cutOff →
      ∀ limit, known ≤ limit → program.run layout robot limit = report) := by
  intro report
  have record : program.Recorded layout known 0 ⟨0, robot⟩ _ report := recorded ..
  have enough : report.outcome ≠ .cutOff → ∀ limit, report.cost ≤ limit →
      program.run layout robot limit = report := fun finished limit cost =>
    record.runFrom_of_cost_le finished (by rwa [Nat.zero_add])
  have short : ∀ limit, limit < report.cost →
      (program.run layout robot limit).CutOffAfter limit := by
    intro limit cost
    rw [← Nat.zero_add limit] at cost
    have cut := record.runFrom_of_lt_cost cost
    rwa [Nat.zero_add] at cut
  refine ⟨fun stopped => ?_, fun ended => ?_, fun finished limit more => enough finished limit ?_⟩
  · have finished : report.outcome ≠ .cutOff ∧ report.outcome ≠ .programEnded := by
      rcases stopped with goal | wall
      · rw [goal]; decide
      · rw [wall]; decide
    rw [← Report.cost_of_ne_programEnded finished.2]
    exact ⟨enough finished.1, short⟩
  · have finished : report.outcome ≠ .cutOff := by rw [ended]; decide
    refine ⟨?_, fun limit within => short limit ?_⟩
    · rw [← Report.cost_of_programEnded ended]
      exact enough finished
    · rw [Report.cost_of_programEnded ended]
      exact Nat.lt_succ_of_le within
  · have cost := record.cost_le
    rw [Nat.zero_add] at cost
    exact Nat.le_trans cost more

/-- A turn and the end of the program: two units make the run, one is spent before the end is found. -/
theorem limit_only_truncates_turn :
    let program : Program := ⟨[.move .turnLeft]⟩
    let layout : Layout := ⟨1, 1, #[.free], ⟨⟨0, 0⟩, .up⟩, ⟨0, 0⟩⟩
    let report := program.run layout layout.start 2
    report = ⟨.programEnded, 1, ⟨⟨0, 0⟩, .left⟩⟩ ∧
      program.run layout layout.start 99 = report ∧
      (program.run layout layout.start 1).CutOffAfter 1 := by
  intro program layout report
  obtain ⟨-, ended, -⟩ := limit_only_truncates program layout layout.start 2
  obtain ⟨enough, short⟩ := ended rfl
  exact ⟨rfl, enough 99 (by decide), short 1 (by decide)⟩

end Program

end Labyrinth
