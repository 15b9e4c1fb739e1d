import Labyrinth.Program.Run
import Labyrinth.Proofs.Placement

/-!
# Running a text without compiling it

A text can be obeyed as it stands: a reader walks along it, passes over anchors, does what each other
symbol says, goes back or ahead to the anchor that a reference asks for, and reads past one symbol
when a condition holds. This gives the same report as the program that the text is compiled to. The
proof is a simulation: the pointer of the machine is always the number of instructions emitted before
the place of the reader.
-/

namespace Labyrinth.Source

/-! ### The reader of a text -/

/-- Someone who obeys a text: the place to read on from, and the maze of the robot. -/
structure Reader where
  place : Nat
  maze : Maze
  deriving DecidableEq

/-- The first character from a place on that is no anchor, and where it stands. -/
def nextSymbol? (text : Source) (place : Nat) : Option (Char × Nat) :=
  (text.zipIdx.drop place).find? fun (c, _) => !isAnchor c

/-- The place just after the next symbol from a place on, or the end of the text. -/
def afterNextSymbol (text : Source) (place : Nat) : Nat :=
  match nextSymbol? text place with
  | some (_, here) => here + 1
  | none => text.length

/-- Makes a move at the place `here` and reads on from the next place. -/
def Reader.makeMove (maze : Maze) (here : Nat) (m : Move) : MoveResult × Reader :=
  let (result, maze) := maze.perform m
  (result, ⟨here + 1, maze⟩)

/-- Does what the symbol at the place `here` says. -/
def obey (text : Source) (maze : Maze) (here : Nat) : Char → MoveResult × Reader
  | '+' => Reader.makeMove maze here .forward
  | '-' => Reader.makeMove maze here .backward
  | '<' => Reader.makeMove maze here .turnLeft
  | '>' => Reader.makeMove maze here .turnRight
  | '?' => (.clear, ⟨if maze.wallAhead then here + 1 else afterNextSymbol text (here + 1), maze⟩)
  | '!' => (.clear, ⟨if maze.wallAhead then afterNextSymbol text (here + 1) else here + 1, maze⟩)
  | c => (.clear, ⟨text.idxOf (anchorOf c), maze⟩)

/-- The report of obeying a text with `budget` units left after `step` steps. -/
def runTextFrom (text : Source) : Nat → Nat → Reader → Report
  | 0, step, reader => ⟨.cutOff, step, reader.maze.robot⟩
  | budget + 1, step, reader =>
    match nextSymbol? text reader.place with
    | none => ⟨.programEnded, step, reader.maze.robot⟩
    | some (c, here) =>
      match obey text reader.maze here c with
      | (.clear, next) => runTextFrom text budget (step + 1) next
      | (.wallHit, last) => ⟨.wallHit, step + 1, last.maze.robot⟩
      | (.goalReached, last) => ⟨.goalReached, step + 1, last.maze.robot⟩

/-- Obeys a text from its start where the robot of a maze stands, for at most `limit` steps. -/
def runText (text : Source) (maze : Maze) (limit : Nat) : Report :=
  runTextFrom text limit 0 ⟨0, maze⟩

variable {text : Source} {place here : Nat} {c : Char}

/-! ### The next symbol -/

theorem nextSymbol?_eq_some (h : nextSymbol? text place = some (c, here)) :
    place ≤ here ∧ text[here]? = some c ∧ emits c = true ∧
      ∀ i d, place ≤ i → i < here → text[i]? = some d → emits d = false := by
  obtain ⟨emitting, offset, inside, found, anchors⟩ := List.find?_eq_some_iff_getElem.1 h
  simp only [List.getElem_drop, List.getElem_zipIdx, Nat.zero_add, Prod.mk.injEq] at found
  obtain ⟨rfl, rfl⟩ := found
  refine ⟨Nat.le_add_right _ _, List.getElem?_eq_getElem _, emitting, fun i d low high at_i => ?_⟩
  obtain ⟨earlier, rfl⟩ := Nat.exists_eq_add_of_le low
  obtain ⟨_, rfl⟩ := List.getElem?_eq_some_iff.1 at_i
  simpa [emits] using anchors earlier (by omega)

theorem nextSymbol?_eq_none (h : nextSymbol? text place = none) :
    ∀ i d, place ≤ i → text[i]? = some d → emits d = false := by
  intro i d low at_i
  have member : (d, i) ∈ text.zipIdx.drop place := by
    obtain ⟨offset, rfl⟩ := Nat.exists_eq_add_of_le low
    refine List.mem_of_getElem? (i := offset) ?_
    rw [List.getElem?_drop, List.getElem?_zipIdx, at_i]
    simp
  simpa [emits] using List.find?_eq_none.1 h _ member

/-- Passing over anchors emits nothing. -/
theorem emittedBefore_nextSymbol? (h : nextSymbol? text place = some (c, here)) :
    emittedBefore text here = emittedBefore text place := by
  obtain ⟨low, -, -, anchors⟩ := nextSymbol?_eq_some h
  exact (emittedBefore_eq_of_anchors low anchors).symm

theorem emittedBefore_of_nextSymbol?_eq_none (h : nextSymbol? text place = none) :
    emittedBefore text place = emitted text := by
  rcases Nat.le_total place text.length with inside | past
  · rw [emittedBefore_eq_of_anchors inside fun i d low _ => nextSymbol?_eq_none h i d low,
      emittedBefore_of_length_le (Nat.le_refl _)]
  · exact emittedBefore_of_length_le past

/-- Reading past one symbol passes over one instruction, if there is one. -/
theorem emittedBefore_afterNextSymbol (text : Source) (place : Nat) :
    emittedBefore text (afterNextSymbol text place) =
      min (emittedBefore text place + 1) (emitted text) := by
  unfold afterNextSymbol
  split
  · next c here found =>
    obtain ⟨-, present, emitting, -⟩ := nextSymbol?_eq_some found
    have room := emittedBefore_lt present emitting
    rw [emittedBefore_succ present, if_pos emitting, ← emittedBefore_nextSymbol? found]
    omega
  · next found =>
    rw [emittedBefore_of_length_le (Nat.le_refl _), emittedBefore_of_nextSymbol?_eq_none found]
    omega

/-! ### The simulation -/

/-- The machine that stands for a reader of the text. -/
def Reader.machine (text : Source) (reader : Reader) : Machine :=
  ⟨emittedBefore text reader.place, reader.maze.robot⟩

/-- What a step of the machine and a step of the reader have in common: the result, the machine that
    stands for the reader, and that the layout stays. -/
def Agree (text : Source) (layout : Layout) (machine : MoveResult × Machine)
    (reader : MoveResult × Reader) : Prop :=
  machine = (reader.1, reader.2.machine text) ∧ reader.2.maze.layout = layout

/-- A move takes both to the next place. -/
theorem agree_makeMove {maze : Maze} (m : Move) (present : text[here]? = some c)
    (emitting : emits c = true) :
    Agree text maze.layout
      (Machine.execute maze.layout ⟨emittedBefore text here, maze.robot⟩ (.move m))
      (Reader.makeMove maze here m) := by
  refine ⟨?_, rfl⟩
  simp only [Machine.execute, Reader.makeMove, Maze.perform, Reader.machine,
    emittedBefore_succ present, if_pos emitting]

/-- A condition takes both to the next place, or past the next symbol. -/
theorem agree_condition {maze : Maze} (sensed : Tile) (present : text[here]? = some c)
    (emitting : emits c = true) {next : Nat}
    (skips : maze.layout.look maze.robot.ahead = sensed → next = afterNextSymbol text (here + 1))
    (stays : maze.layout.look maze.robot.ahead ≠ sensed → next = here + 1) :
    Agree text maze.layout
      (Machine.execute maze.layout ⟨emittedBefore text here, maze.robot⟩
        (.jumpIf sensed (min (emittedBefore text here + 2) (emitted text))))
      (.clear, ⟨next, maze⟩) := by
  refine ⟨?_, rfl⟩
  have moved : emittedBefore text (here + 1) = emittedBefore text here + 1 := by
    rw [emittedBefore_succ present, if_pos emitting]
  by_cases seen : maze.layout.look maze.robot.ahead = sensed
  · rw [skips seen]
    simp only [Machine.execute, if_pos seen, Reader.machine, emittedBefore_afterNextSymbol, moved]
  · rw [stays seen]
    simp only [Machine.execute, if_neg seen, Reader.machine, moved]

/-- A symbol that emits, and is neither a condition nor a move, is a reference. -/
theorem isReference_of_symbol (symbol : isSymbol c = true) (emitting : emits c = true)
    (unsensed : sensed? c = none) (unmoving : Move.ofSymbol? c = none) : isReference c = true := by
  have no_anchor : isAnchor c = false := by simpa [emits] using emitting
  simpa [isSymbol, isCondition, no_anchor, unsensed, unmoving] using symbol

/-- The instruction of the symbol `c` does to the machine what the symbol does to the reader. -/
theorem agree_obey (accepted : Accepted) (maze : Maze) (present : accepted.text[here]? = some c)
    (emitting : emits c = true) :
    ∃ instruction,
      accepted.program.get? (emittedBefore accepted.text here) = some instruction ∧
      Agree accepted.text maze.layout
        (Machine.execute maze.layout ⟨emittedBefore accepted.text here, maze.robot⟩ instruction)
        (obey accepted.text maze here c) := by
  rw [get?_of_compile? accepted.compile?_text present emitting]
  unfold obey
  split
  · exact ⟨_, rfl, agree_makeMove .forward present emitting⟩
  · exact ⟨_, rfl, agree_makeMove .backward present emitting⟩
  · exact ⟨_, rfl, agree_makeMove .turnLeft present emitting⟩
  · exact ⟨_, rfl, agree_makeMove .turnRight present emitting⟩
  · refine ⟨_, rfl, agree_condition .free present emitting ?_ ?_⟩ <;> intro seen
    · simp [Maze.wallAhead, Layout.isWall, seen]
    · cases tile : maze.layout.look maze.robot.ahead <;>
        simp_all [Maze.wallAhead, Layout.isWall]
  · refine ⟨_, rfl, agree_condition .wall present emitting ?_ ?_⟩ <;> intro seen <;>
      simp [Maze.wallAhead, Layout.isWall, seen]
  · next no_forward no_backward no_left no_right no_free no_wall =>
    -- what is left of the symbols that emit are the references
    have unsensed : sensed? c = none := by
      unfold sensed?
      split <;> simp_all
    have unmoving : Move.ofSymbol? c = none := by
      unfold Move.ofSymbol?
      split <;> simp_all
    have member := List.mem_of_getElem? present
    have reference := isReference_of_symbol (accepted.symbols c member) emitting unsensed unmoving
    exact ⟨_, meaning?_of_isReference accepted member reference _, rfl, rfl⟩

/-- A run of the compiled program and a run along the text stay together. -/
theorem runFrom_eq_runTextFrom (accepted : Accepted) (budget step : Nat) (reader : Reader) :
    accepted.program.runFrom reader.maze.layout budget step (reader.machine accepted.text) =
      runTextFrom accepted.text budget step reader := by
  induction budget generalizing step reader with
  | zero => rfl
  | succ budget ih =>
    unfold Program.runFrom runTextFrom
    cases found : nextSymbol? accepted.text reader.place with
    | none =>
      have ended : accepted.program.get? (emittedBefore accepted.text reader.place) = none := by
        rw [emittedBefore_of_nextSymbol?_eq_none found]
        exact get?_emitted accepted.compile?_text
      simp only [Reader.machine, ended]
    | some symbol =>
      obtain ⟨c, here⟩ := symbol
      obtain ⟨-, present, emitting, -⟩ := nextSymbol?_eq_some found
      obtain ⟨instruction, fetched, executed, layout⟩ :=
        agree_obey accepted reader.maze present emitting
      -- the reader has passed over anchors to get here, the machine has not moved
      rw [emittedBefore_nextSymbol? found] at fetched executed
      simp only [Reader.machine, fetched, executed]
      generalize obey accepted.text reader.maze here c = obeyed at layout ⊢
      obtain ⟨result, next⟩ := obeyed
      cases result with
      | clear => rw [← layout]; exact ih (step + 1) next
      | wallHit => rfl
      | goalReached => rfl

/-- The program of an accepted text does in every maze what obeying the text does. -/
theorem run_program_eq_runText {text : Source} {limits : Limits} {accepted : Accepted}
    (h : text.accept limits = .ok accepted) (maze : Maze) (limit : Nat) :
    (maze.run accepted.program limit).1 = text.runText maze limit := by
  obtain ⟨rfl, -⟩ := Source.accept_eq_ok_iff.1 h
  exact runFrom_eq_runTextFrom accepted limit 0 ⟨0, maze⟩

/-- A condition that skips, a jump ahead and a jump back: along a corridor the goal is reached. -/
theorem run_program_eq_runText_corridor :
    let text : Source := ['?', 'a', '+', 'B', '-', '!', 'b', 'A']
    let maze := Maze.enter ⟨4, 1, #[.free, .free, .free, .free], ⟨⟨0, 0⟩, .right⟩, ⟨3, 0⟩⟩
    ∃ accepted, text.accept {} = .ok accepted ∧
      (maze.run accepted.program 40).1 = text.runText maze 40 ∧
      text.runText maze 40 = ⟨.goalReached, 10, ⟨⟨3, 0⟩, .right⟩⟩ := by
  intro text maze
  have symbols : ∀ c ∈ text, isSymbol c = true := List.all_eq_true.1 (by decide)
  have accept : text.accept {} = .ok ⟨text, symbols, by decide⟩ :=
    Source.accept_eq_ok_iff.2 ⟨rfl, by decide⟩
  exact ⟨_, accept, run_program_eq_runText accept maze 40, by decide⟩

end Labyrinth.Source
