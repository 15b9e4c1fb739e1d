import Labyrinth.Proofs.Acceptance
import Labyrinth.Proofs.Placement
import Labyrinth.Proofs.Runs

/-!
# Texts of moves

A list of moves is written with one sign for each. Such a text has neither letters nor conditions, so
it is accepted whenever it is short enough, and its program is the list itself (`accept_text`). If the
moves, made one after the other, lead to the goal (`Robot.Arrives`), so does the run of the program
under every budget that allows as many steps.
-/

namespace Labyrinth

namespace Move

/-- The sign that a move is written with. -/
def symbol : Move → Char
  | .forward => '+'
  | .backward => '-'
  | .turnLeft => '<'
  | .turnRight => '>'

/-- The text that makes some moves in order. -/
def text (moves : List Move) : Source := moves.map symbol

theorem isSymbol_symbol (m : Move) : Source.isSymbol m.symbol = true := by cases m <;> decide

theorem emits_symbol (m : Move) : Source.emits m.symbol = true := by cases m <;> decide

theorem isLower_symbol (m : Move) : m.symbol.isLower = false := by cases m <;> decide

theorem isUpper_symbol (m : Move) : m.symbol.isUpper = false := by cases m <;> decide

theorem symbol_not_mem_conditions (m : Move) : m.symbol ∉ Source.conditions := by
  cases m <;> decide

/-- The sign of a move means that move, wherever it stands. -/
theorem meaning?_symbol (text : Source) (m : Move) (here : Nat) :
    text.meaning? m.symbol here = some (.move m) := by
  cases m <;> rfl

variable {moves : List Move}

theorem exists_symbol_of_mem {c : Char} (member : c ∈ text moves) : ∃ m : Move, c = m.symbol := by
  obtain ⟨m, -, rfl⟩ := List.mem_map.1 member
  exact ⟨m, rfl⟩

/-- With signs of moves alone there is nothing that could not fit together. -/
theorem coherent_text (moves : List Move) : Source.Coherent (text moves) where
  anchors_once first second c _ at_first _ := by
    obtain ⟨m, rfl⟩ := exists_symbol_of_mem (List.mem_of_getElem? at_first)
    exact isLower_symbol m
  conditions_apart place a b _ after _ := by
    obtain ⟨m, rfl⟩ := exists_symbol_of_mem (List.mem_of_getElem? after)
    exact symbol_not_mem_conditions m
  not_dangling c last := by
    obtain ⟨m, rfl⟩ := exists_symbol_of_mem (List.mem_of_getLast? last)
    exact symbol_not_mem_conditions m
  anchored c member upper := by
    obtain ⟨m, rfl⟩ := exists_symbol_of_mem member
    rw [isUpper_symbol m] at upper
    cases upper

theorem mapM_meaning?_text (whole : Source) (moves : List Move) (start : Nat) :
    ((text moves).zipIdx start).mapM (fun (c, here) => whole.meaning? c here) =
      some (moves.map .move) := by
  induction moves generalizing start with
  | nil => rfl
  | cons m rest ih =>
    exact Source.mapM_cons_eq_some_iff.2 ⟨_, meaning?_symbol whole m start, _, ih _, rfl⟩

/-- The program of a text of moves makes these moves. -/
theorem compile?_text (moves : List Move) :
    Source.compile? (text moves) = some ⟨moves.map .move⟩ := by
  have all_emit : (text moves).filter Source.emits = text moves := by
    refine List.filter_eq_self.2 fun c member => ?_
    obtain ⟨m, rfl⟩ := exists_symbol_of_mem member
    exact emits_symbol m
  rw [Source.compile?, all_emit, mapM_meaning?_text, Option.map_some]

/-- The text of some moves does not end with the sign that is dropped. -/
theorem dropTrailingEquals_text (moves : List Move) :
    Source.dropTrailingEquals (text moves) = text moves := by
  refine Source.dropTrailingEquals_of_symbols fun c member => ?_
  obtain ⟨m, rfl⟩ := exists_symbol_of_mem member
  exact isSymbol_symbol m

/-- A text of moves is accepted if it is short enough, and then its program makes these moves. -/
theorem accept_text {limits : Limits} (short : moves.length ≤ limits.sourceLength) :
    ∃ accepted, (text moves).accept limits = .ok accepted ∧
      accepted.program = ⟨moves.map .move⟩ := by
  have allowed : ∀ c ∈ text moves, Source.Allowed c := by
    intro c member
    obtain ⟨m, rfl⟩ := exists_symbol_of_mem member
    exact Source.isSymbol_iff.1 (isSymbol_symbol m)
  have length : (text moves).length ≤ limits.sourceLength := by
    rwa [text, List.length_map]
  obtain ⟨accepted, accept⟩ := Source.accept_eq_ok_of allowed length (coherent_text moves)
  exact ⟨accepted, accept, Source.program_eq_of_accept accept (compile?_text moves)⟩

end Move

variable {layout : Layout} {r next : Robot} {program : Program} {pointer : Nat} {m : Move}

theorem Machine.execute_move {result : MoveResult}
    (performed : r.perform layout m = (result, next)) :
    Machine.execute layout ⟨pointer, r⟩ (.move m) = (result, ⟨pointer + 1, next⟩) := by
  simp only [Machine.execute, performed]

/-- Where a program goes on with some moves, it makes the first and goes on with the others. -/
theorem Program.get?_of_drop {rest : List Move}
    (code : program.instructions.drop pointer = (m :: rest).map .move) :
    program.get? pointer = some (.move m) ∧
      program.instructions.drop (pointer + 1) = rest.map .move := by
  constructor
  · rw [Program.get?, ← List.head?_drop, code]
    rfl
  · rw [← List.tail_drop, code]
    rfl

/-- Making the moves in order, the robot comes to the goal, at the latest with the last of them. -/
inductive Robot.Arrives (layout : Layout) : Robot → List Move → Prop where
  | now {r last : Robot} {m : Move} {rest : List Move}
      (performed : r.perform layout m = (.goalReached, last)) : Arrives layout r (m :: rest)
  | later {r next : Robot} {m : Move} {rest : List Move}
      (performed : r.perform layout m = (.clear, next)) (arrives : Arrives layout next rest) :
      Arrives layout r (m :: rest)

/-- The program of some moves reaches the goal where the moves do. -/
theorem Robot.Arrives.outcome_runFrom {moves : List Move} (arrives : r.Arrives layout moves)
    {budget : Nat} (step : Nat) (code : program.instructions.drop pointer = moves.map .move)
    (enough : moves.length ≤ budget) :
    (program.runFrom layout budget step ⟨pointer, r⟩).outcome = .goalReached := by
  induction arrives generalizing pointer budget step with
  | now performed =>
    obtain ⟨budget, rfl⟩ := Nat.exists_eq_add_of_le' (Nat.le_of_add_left_le enough)
    obtain ⟨fetched, -⟩ := Program.get?_of_drop code
    rw [Program.runFrom_stopped fetched (Machine.execute_move performed) rfl]
  | later performed arrives ih =>
    obtain ⟨budget, rfl⟩ := Nat.exists_eq_add_of_le' (Nat.le_of_add_left_le enough)
    obtain ⟨fetched, code_rest⟩ := Program.get?_of_drop code
    rw [Program.runFrom_stepped fetched (Machine.execute_move performed)]
    exact ih (step + 1) code_rest (Nat.le_of_succ_le_succ enough)

end Labyrinth
