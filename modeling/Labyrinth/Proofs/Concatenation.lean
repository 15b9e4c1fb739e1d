import Labyrinth.Proofs.Letters
import Labyrinth.Proofs.Placement
import Labyrinth.Proofs.Sequence

/-!
# Texts written one after the other

Two accepted texts that share no anchor can be written one after the other, if the first does not end
with a condition that would skip into the second. The joint text is accepted (`Coherent.append`), and
its program is the program of the first text and then that of the second (`program_append`): places in
the first text keep their numbers, places in the second are moved on by what the first emits. So the
two run in turn.
-/

namespace Labyrinth.Source

variable {first second text : Source} {c anchor : Char}

/-! ### Where symbols and anchors stand -/

theorem emitted_append (first second : Source) :
    emitted (first ++ second) = emitted first + emitted second :=
  List.countP_append

/-- An anchor of the first text stands where it stood. -/
theorem placeOf?_append_of_mem (member : anchor ∈ first) :
    placeOf? anchor (first ++ second) = placeOf? anchor first := by
  induction first with
  | nil => cases member
  | cons c rest ih =>
    by_cases same : c = anchor
    · simp only [List.cons_append, placeOf?, if_pos same]
    · have later : anchor ∈ rest := (List.mem_cons.1 member).resolve_left (Ne.symm same)
      simp only [List.cons_append, placeOf?, if_neg same, ih later]

/-- An anchor that the first text does not have stands behind all that it emits. -/
theorem placeOf?_append_of_not_mem (absent : anchor ∉ first) :
    placeOf? anchor (first ++ second) = (placeOf? anchor second).map (· + emitted first) := by
  induction first with
  | nil => simp [emitted]
  | cons c rest ih =>
    obtain ⟨other, later⟩ := not_or.1 (mt List.mem_cons.2 absent)
    simp only [List.cons_append, placeOf?, if_neg (Ne.symm other), ih later, Option.map_map,
      Function.comp_def, emitted_cons, Nat.add_assoc]

/-! ### What symbols mean in the joint text -/

/-- A symbol of the first text means what it meant, if a condition has a symbol of that text to skip. -/
theorem meaning?_append_left {here : Nat}
    (anchored : isReference c = true → anchorOf c ∈ first)
    (room : isCondition c = true → here + 2 ≤ emitted first) :
    meaning? (first ++ second) c here = meaning? first c here := by
  unfold meaning?
  cases sensed : sensed? c with
  | some tile =>
    have skipped := room (by rw [isCondition, sensed]; rfl)
    have skipped_joint : here + 2 ≤ emitted (first ++ second) := by
      rw [emitted_append]
      exact Nat.le_add_right_of_le skipped
    simp only [Nat.min_eq_left skipped, Nat.min_eq_left skipped_joint]
  | none =>
    by_cases reference : isReference c = true
    · simp only [if_pos reference, placeOf?_append_of_mem (anchored reference)]
    · simp only [if_neg reference]

/-- A symbol of the second text means what it meant, with its target moved on by what the first text
    emits. -/
theorem meaning?_append_right {here : Nat}
    (apart : isReference c = true → anchorOf c ∉ first) :
    meaning? (first ++ second) c (here + emitted first) =
      (meaning? second c here).map (Instruction.moveTarget (emitted first)) := by
  unfold meaning?
  cases sensed : sensed? c with
  | some tile =>
    have moved : min (here + emitted first + 2) (emitted (first ++ second)) =
        min (here + 2) (emitted second) + emitted first := by
      rw [emitted_append]
      omega
    simp only [moved, Option.map_some, Instruction.moveTarget]
  | none =>
    by_cases reference : isReference c = true
    · simp only [if_pos reference, placeOf?_append_of_not_mem (apart reference), Option.map_map,
        Function.comp_def, Instruction.moveTarget]
    · simp only [if_neg reference, Option.map_map, Function.comp_def, Instruction.moveTarget]

/-! ### The program of the joint text -/

/-- The program of a text is closed. -/
theorem closed_program (accepted : Accepted) : accepted.program.Closed := by
  intro i member target leads
  obtain ⟨here, fetched⟩ := List.mem_iff_getElem?.1 member
  have means := get?_eq_bind accepted.compile?_text here
  rw [Program.get?, fetched] at means
  obtain ⟨c, -, means⟩ := Option.bind_eq_some_iff.1 means.symm
  rw [size_program]
  exact target_le_of_meaning? means leads

/-- A condition that is not the last symbol to emit has a symbol to skip. -/
theorem room_of_condition {here : Nat} (found : (first.filter emits)[here]? = some c)
    (condition : isCondition c = true)
    (ends : ∀ d, (first.filter emits).getLast? = some d → d ∉ conditions) :
    here + 2 ≤ emitted first := by
  obtain ⟨inside, -⟩ := List.getElem?_eq_some_iff.1 found
  have later : here ≠ (first.filter emits).length - 1 := by
    rintro rfl
    exact ends c (List.getLast?_eq_getElem? ▸ found) (isCondition_iff.1 condition)
  rw [emitted, List.countP_eq_length_filter]
  omega

/-- The program of a joint text is the program of the first and then that of the second. -/
theorem program_append {one two joint : Accepted} (text : joint.text = one.text ++ two.text)
    (apart : ∀ c ∈ one.text, c.isLower = true → c ∉ two.text)
    (ends : ∀ c, (one.text.filter emits).getLast? = some c → c ∉ conditions) :
    joint.program = one.program.andThen two.program := by
  refine Program.ext (List.ext_getElem? fun here => ?_)
  show joint.program.get? here = (one.program.andThen two.program).get? here
  have length : (one.text.filter emits).length = one.program.size := by
    rw [size_program, emitted, List.countP_eq_length_filter]
  rw [get?_eq_bind joint.compile?_text, text, List.filter_append]
  rcases Nat.lt_or_ge here one.program.size with inside | past
  · rw [Program.get?_andThen_of_lt inside, get?_eq_bind one.compile?_text,
      List.getElem?_append_left (length ▸ inside)]
    cases found : (one.text.filter emits)[here]? with
    | none => rfl
    | some c =>
      have member := (List.mem_filter.1 (List.mem_of_getElem? found)).1
      exact meaning?_append_left (anchorOf_mem one member)
        fun condition => room_of_condition found condition ends
  · obtain ⟨place, rfl⟩ := Nat.exists_eq_add_of_le' past
    rw [Program.get?_andThen_add, get?_eq_bind two.compile?_text,
      List.getElem?_append_right (length ▸ past), length, Nat.add_sub_cancel]
    cases found : (two.text.filter emits)[place]? with
    | none => rfl
    | some c =>
      have member := (List.mem_filter.1 (List.mem_of_getElem? found)).1
      rw [size_program]
      refine meaning?_append_right fun reference shared => ?_
      exact apart _ shared (isAnchor_anchorOf reference) (anchorOf_mem two member reference)

/-! ### The joint text is accepted -/

/-- Two coherent texts without a common anchor are coherent together. -/
theorem Coherent.append (one : Coherent first) (two : Coherent second)
    (apart : ∀ c ∈ first, c.isLower = true → c ∉ second) : Coherent (first ++ second) where
  anchors_once i j c order at_i at_j := by
    rcases Nat.lt_or_ge j first.length with inside | past
    · rw [List.getElem?_append_left inside] at at_j
      rw [List.getElem?_append_left (Nat.lt_trans order inside)] at at_i
      exact one.anchors_once i j c order at_i at_j
    · rw [List.getElem?_append_right past] at at_j
      rcases Nat.lt_or_ge i first.length with before | behind
      · rw [List.getElem?_append_left before] at at_i
        refine Bool.eq_false_iff.2 fun lower => ?_
        exact apart c (List.mem_of_getElem? at_i) lower (List.mem_of_getElem? at_j)
      · rw [List.getElem?_append_right behind] at at_i
        exact two.anchors_once _ _ c (Nat.sub_lt_sub_right behind order) at_i at_j
  conditions_apart place a b at_place after condition := by
    rcases Nat.lt_or_ge place first.length with inside | past
    · rw [List.getElem?_append_left inside] at at_place
      rcases Nat.lt_or_ge (place + 1) first.length with within | behind
      · rw [List.getElem?_append_left within] at after
        exact one.conditions_apart place a b at_place after condition
      · -- the first text would end with a condition
        have last : place = first.length - 1 := by omega
        rw [last, ← List.getLast?_eq_getElem?] at at_place
        exact absurd condition (one.not_dangling a at_place)
    · rw [List.getElem?_append_right past] at at_place
      rw [List.getElem?_append_right (Nat.le_succ_of_le past), Nat.succ_sub past] at after
      exact two.conditions_apart _ a b at_place after condition
  not_dangling c last := by
    rw [List.getLast?_append] at last
    rcases Option.or_eq_some_iff.1 last with last | ⟨-, last⟩
    · exact two.not_dangling c last
    · exact one.not_dangling c last
  anchored c member upper := by
    rcases List.mem_append.1 member with member | member
    · exact List.mem_append_left _ (one.anchored c member upper)
    · exact List.mem_append_right _ (two.anchored c member upper)

/-- Two accepted texts without a common anchor, the first of which does not end with a condition and
    anchors, are accepted together. -/
theorem accept_append {limits : Limits} {one two : Accepted}
    (accept_first : first.accept limits = .ok one) (accept_second : second.accept limits = .ok two)
    (apart : ∀ c ∈ first, c.isLower = true → c ∉ second)
    (short : first.length + second.length ≤ limits.sourceLength) :
    ∃ joint, (first ++ second).accept limits = .ok joint := by
  obtain ⟨rfl, -⟩ := accept_eq_ok_iff.1 accept_first
  obtain ⟨rfl, -⟩ := accept_eq_ok_iff.1 accept_second
  refine accept_eq_ok_of ?_ (by rwa [List.length_append]) (one.coherent.append two.coherent apart)
  intro c member
  rcases List.mem_append.1 member with member | member
  · exact isSymbol_iff.1 (one.symbols c member)
  · exact isSymbol_iff.1 (two.symbols c member)

/-- Texts written one after the other run in turn. If two accepted texts have no anchor in common,
    are short enough together, and the last symbol of the first that is no anchor is no condition, then
    the joint text is accepted; its program is that of the first text and then that of the second with
    each target moved on by the size of the first; and in every maze and under every limit it does what
    the first program does and, if that ends, what the second does from there with what is left of the
    limit, the steps of the first added. -/
theorem concatenation_runs_in_turn {limits : Limits} {one two : Accepted}
    (accept_first : first.accept limits = .ok one) (accept_second : second.accept limits = .ok two)
    (apart : ∀ c ∈ first, c.isLower = true → c ∉ second)
    (short : first.length + second.length ≤ limits.sourceLength)
    (ends : ∀ c, (first.filter emits).getLast? = some c → c ∉ conditions) :
    ∃ joint, (first ++ second).accept limits = .ok joint ∧
      joint.program.instructions = one.program.instructions ++
        two.program.instructions.map (Instruction.moveTarget one.program.size) ∧
      ∀ (maze : Maze) (limit : Nat),
        let (report, left) := maze.run one.program limit
        (maze.run joint.program limit).1 =
          if report.outcome = .programEnded then
            (left.run two.program (limit - report.steps)).1.delay report.steps
          else report := by
  obtain ⟨joint, accept_joint⟩ := accept_append accept_first accept_second apart short
  obtain ⟨rfl, -⟩ := accept_eq_ok_iff.1 accept_first
  obtain ⟨rfl, -⟩ := accept_eq_ok_iff.1 accept_second
  have program := program_append (accept_eq_ok_iff.1 accept_joint).1 apart ends
  refine ⟨joint, accept_joint, congrArg Program.instructions program, fun maze limit => ?_⟩
  show joint.program.run maze.layout maze.robot limit = _
  rw [program]
  exact Program.run_andThen (closed_program one) maze.robot limit

/-- The first text jumps to its own end, where the second one starts: along a corridor the two reach the
    goal together. -/
theorem concatenation_runs_in_turn_corridor :
    let first : Source := ['?', 'A', '+', 'a']
    let second : Source := ['b', '+', 'B']
    let maze := Maze.enter ⟨4, 1, #[.free, .free, .free, .free], ⟨⟨0, 0⟩, .right⟩, ⟨3, 0⟩⟩
    ∃ one two joint, first.accept {} = .ok one ∧ second.accept {} = .ok two ∧
      (∀ c ∈ first, c.isLower = true → c ∉ second) ∧
      (∀ c, (first.filter emits).getLast? = some c → c ∉ conditions) ∧
      (first ++ second).accept {} = .ok joint ∧
      joint.program.instructions =
        [.jumpIf .free 2, .jump 3, .move .forward, .move .forward, .jump 3] ∧
      (maze.run one.program 9).1 = ⟨.programEnded, 2, ⟨⟨1, 0⟩, .right⟩⟩ ∧
      (maze.run joint.program 9).1 = ⟨.goalReached, 5, ⟨⟨3, 0⟩, .right⟩⟩ := by
  intro first second maze
  have symbols_first : ∀ c ∈ first, isSymbol c = true := List.all_eq_true.1 (by decide)
  have symbols_second : ∀ c ∈ second, isSymbol c = true := List.all_eq_true.1 (by decide)
  have accept_first : first.accept {} = .ok ⟨first, symbols_first, by decide⟩ :=
    accept_eq_ok_iff.2 ⟨rfl, by decide⟩
  have accept_second : second.accept {} = .ok ⟨second, symbols_second, by decide⟩ :=
    accept_eq_ok_iff.2 ⟨rfl, by decide⟩
  have apart : ∀ c ∈ first, c.isLower = true → c ∉ second := by simp [first, second]
  have ends : ∀ c, (first.filter emits).getLast? = some c → c ∉ conditions := by
    rintro c ⟨⟩
    decide
  obtain ⟨joint, accept_joint, instructions, runs⟩ :=
    concatenation_runs_in_turn accept_first accept_second apart (by decide) ends
  have alone := runs maze 9
  have compile_first : first.compile? = some ⟨[.jumpIf .free 2, .jump 3, .move .forward]⟩ := by decide
  have compile_second : second.compile? = some ⟨[.move .forward, .jump 0]⟩ := by decide
  rw [program_eq_of_accept accept_first compile_first,
    program_eq_of_accept accept_second compile_second] at instructions alone
  refine ⟨_, _, joint, accept_first, accept_second, apart, ends, accept_joint, instructions, ?_⟩
  rw [program_eq_of_accept accept_first compile_first, alone]
  decide

end Labyrinth.Source
