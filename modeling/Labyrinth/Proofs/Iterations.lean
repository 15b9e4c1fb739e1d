import Labyrinth.Proofs.Concatenation
import Labyrinth.Proofs.Transcript

/-!
# Where the iterations of a run stand

A run goes round once for each instruction, and once more if it finds that the program has ended.
`Program.iterations` lists the machines it starts each round from: those of its trace, and behind them
the one that ended the program, if that is how the run ended (`Recorded.iterationsFrom_eq`). In a closed
program no round starts past the first place behind the last instruction, so that is where every program
of a text ends.
-/

namespace Labyrinth

namespace Program

/-- The machines that the rounds of a run start from, for `budget` rounds at most: also the one for
    which there is no instruction. -/
def iterationsFrom (program : Program) (layout : Layout) : Nat → Machine → List Machine
  | 0, _ => []
  | budget + 1, m =>
    m ::
      match program.get? m.pointer with
      | none => []
      | some instruction =>
        match m.execute layout instruction with
        | (.clear, next) => iterationsFrom program layout budget next
        | _ => []

/-- The machines that the rounds of `Program.run` start from, in order. -/
def iterations (program : Program) (layout : Layout) (robot : Robot) (limit : Nat) : List Machine :=
  program.iterationsFrom layout limit ⟨0, robot⟩

variable {program : Program} {layout : Layout} {budget step : Nat} {m : Machine}
  {trace : List Execution} {report : Report}

/-- The rounds of a run are the steps of its trace, and after them the round that ends the program, if
    the run ends so. -/
theorem Recorded.iterationsFrom_eq (record : Recorded program layout budget step m trace report) :
    ∃ last, program.iterationsFrom layout budget m = trace.map Execution.toMachine ++ last ∧
      (report.outcome = .programEnded →
        ∃ place, program.size ≤ place ∧ last = [⟨place, report.robot⟩]) ∧
      (report.outcome ≠ .programEnded → last = []) := by
  induction record with
  | cutOff => exact ⟨[], rfl, nofun, fun _ => rfl⟩
  | @ended budget step m left =>
    refine ⟨[m], ?_, fun _ => ⟨m.pointer, get?_eq_none_iff.1 left, rfl⟩, fun no_end => absurd rfl no_end⟩
    simp only [iterationsFrom, left]
    rfl
  | @stopped budget step m last instruction result outcome fetched executed stops =>
    have only : program.iterationsFrom layout (budget + 1) m = [m] := by
      cases result with
      | clear => cases stops
      | wallHit => simp only [iterationsFrom, fetched, executed]
      | goalReached => simp only [iterationsFrom, fetched, executed]
    refine ⟨[], only, ?_, fun _ => rfl⟩
    rcases MoveResult.eq_or_eq_of_outcome? stops with rfl | rfl <;> nofun
  | @stepped budget step m next instruction trace report fetched executed rest ih =>
    obtain ⟨last, rounds, ended, other⟩ := ih
    refine ⟨last, ?_, ended, other⟩
    simp only [iterationsFrom, fetched, executed, rounds]
    rfl

/-- What every instruction keeps, holds in every round. -/
theorem forall_mem_iterationsFrom {P : Machine → Prop}
    (keep : ∀ m instruction, P m → program.get? m.pointer = some instruction →
      P (m.execute layout instruction).2)
    (start : P m) : ∀ round ∈ program.iterationsFrom layout budget m, P round := by
  induction budget generalizing m with
  | zero => nofun
  | succ budget ih =>
    rw [iterationsFrom]
    refine List.forall_mem_cons.2 ⟨start, ?_⟩
    split
    · nofun
    · next instruction fetched =>
      have after := keep m instruction start fetched
      split
      · next executed =>
        rw [executed] at after
        exact ih after
      · nofun

/-- In a closed program no round starts further than just past the end. -/
theorem Closed.pointer_iterationsFrom_le (closed : program.Closed) (inside : m.pointer ≤ program.size) :
    ∀ round ∈ program.iterationsFrom layout budget m, round.pointer ≤ program.size :=
  forall_mem_iterationsFrom (fun _ _ _ fetched => closed.pointer_execute_le layout fetched) inside

end Program

namespace Source

/-- A condition jumps over the next instruction, at most to the end. -/
theorem target_of_jumpIf (accepted : Accepted) {here target : Nat} {sensed : Tile}
    (fetched : accepted.program.get? here = some (.jumpIf sensed target)) :
    target = min (here + 2) accepted.program.size := by
  rw [get?_eq_bind accepted.compile?_text] at fetched
  obtain ⟨c, -, means⟩ := Option.bind_eq_some_iff.1 fetched
  rw [size_program]
  exact (meaning?_eq_jumpIf_iff.1 means).2.symm

/-- The pointer stays within the program of an accepted text, in every layout, for every robot and under
    every limit. No jump leads further than just past the end, and no round starts there. A condition
    that is executed leads to the next place, or to the one after it if there is one and else to the end.
    And the rounds are the steps of the trace, which are as many as the report counts; only if the program
    has ended there is one more, and that starts exactly at the end. -/
theorem pointer_stays_within_program (accepted : Accepted) (layout : Layout) (robot : Robot)
    (limit : Nat) :
    let program := accepted.program
    let report := program.run layout robot limit
    let trace := program.trace layout robot limit
    let rounds := program.iterations layout robot limit
    (∀ i ∈ program.instructions, ∀ target, i.target? = some target → target ≤ program.size) ∧
    (∀ round ∈ rounds, round.pointer ≤ program.size) ∧
    (∀ e ∈ trace, program.get? e.pointer = some e.instruction ∧
      ∀ sensed target, e.instruction = .jumpIf sensed target →
        let next := (e.toMachine.execute layout e.instruction).2
        next.pointer = e.pointer + 1 ∨ next.pointer = min (e.pointer + 2) program.size) ∧
    trace.length = report.steps ∧
    (report.outcome = .programEnded →
      rounds = trace.map Execution.toMachine ++ [⟨program.size, report.robot⟩]) ∧
    (report.outcome ≠ .programEnded → rounds = trace.map Execution.toMachine) := by
  intro program report trace rounds
  have closed : program.Closed := closed_program accepted
  have record : program.Recorded layout limit 0 ⟨0, robot⟩ trace report := Program.recorded ..
  have within : ∀ round ∈ rounds, round.pointer ≤ program.size :=
    closed.pointer_iterationsFrom_le (Nat.zero_le _)
  obtain ⟨last, shown, ended, other⟩ := record.iterationsFrom_eq
  change rounds = trace.map Execution.toMachine ++ last at shown
  refine ⟨closed, within, fun e step => ?_, ?_, fun outcome => ?_, fun outcome => ?_⟩
  · have fetched := record.chronicle.fetched e step
    refine ⟨fetched, fun sensed target condition => ?_⟩
    rw [condition] at fetched ⊢
    rw [← target_of_jumpIf accepted fetched]
    simp only [Machine.execute]
    split
    · exact .inr rfl
    · exact .inl rfl
  · rw [← record.chronicle.length_eq, Nat.zero_add]
  · obtain ⟨place, past, rfl⟩ := ended outcome
    -- the last round starts past the instructions, and no round starts further than that
    have among : ⟨place, report.robot⟩ ∈ rounds := by simp [shown]
    rw [← Nat.le_antisymm (within _ among) past]
    exact shown
  · rw [shown, other outcome, List.append_nil]

/-- A condition with nothing but an anchor behind it: it jumps to the end, which is the next place. -/
theorem pointer_stays_within_program_at_end :
    let text : Source := ['+', '?', 'a']
    let layout : Layout := ⟨3, 1, #[.free, .free, .free], ⟨⟨0, 0⟩, .right⟩, ⟨2, 0⟩⟩
    ∃ accepted : Accepted, accepted.text = text ∧
      accepted.program = ⟨[.move .forward, .jumpIf .free 2]⟩ ∧
      accepted.program.run layout layout.start 9 = ⟨.programEnded, 2, ⟨⟨1, 0⟩, .right⟩⟩ ∧
      accepted.program.iterations layout layout.start 9 =
        [⟨0, ⟨⟨0, 0⟩, .right⟩⟩, ⟨1, ⟨⟨1, 0⟩, .right⟩⟩, ⟨2, ⟨⟨1, 0⟩, .right⟩⟩] := by
  intro text layout
  have symbols : ∀ c ∈ text, isSymbol c = true := List.all_eq_true.1 (by decide)
  have accept : text.accept {} = .ok ⟨text, symbols, by decide⟩ :=
    accept_eq_ok_iff.2 ⟨rfl, by decide⟩
  have compile : text.compile? = some ⟨[.move .forward, .jumpIf .free 2]⟩ := by decide
  obtain ⟨-, -, -, -, ended, -⟩ :=
    pointer_stays_within_program ⟨text, symbols, by decide⟩ layout layout.start 9
  rw [program_eq_of_accept accept compile] at ended
  have ran : Program.run ⟨[.move .forward, .jumpIf .free 2]⟩ layout layout.start 9 =
      ⟨.programEnded, 2, ⟨⟨1, 0⟩, .right⟩⟩ := by decide
  refine ⟨_, rfl, program_eq_of_accept accept compile, ?_, ?_⟩
  · rw [program_eq_of_accept accept compile, ran]
  · rw [program_eq_of_accept accept compile, ended (congrArg Report.outcome ran), ran]
    decide

end Source

end Labyrinth
