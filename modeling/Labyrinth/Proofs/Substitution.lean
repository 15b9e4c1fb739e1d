import Mathlib.Data.List.Basic
import Mathlib.Logic.Function.Basic
import Labyrinth.Proofs.Letters
import Labyrinth.Proofs.Placement

/-!
# Other characters for the same shape

A substitution puts other characters in the place of those of a text: letters for letters, so that a
reference still asks for its own anchor, moves for moves, and conditions stay. Different characters stay
different, and what is no symbol stays as it is. Then nothing is left that the shape of a text could tell
the difference by (`shape_respell`), the text is accepted or rejected as before (`accept_respell`), and its
program is the same but for the moves (`compile?_respell`).
-/

namespace Labyrinth

/-- The move as it looks in a mirror. -/
def Move.mirrored : Move → Move
  | .turnLeft => .turnRight
  | .turnRight => .turnLeft
  | .forward => .forward
  | .backward => .backward

/-- The same instruction with another move, if it is a move. -/
def Instruction.mapMove (f : Move → Move) : Instruction → Instruction
  | .move m => .move (f m)
  | .jump target => .jump target
  | .jumpIf sensed target => .jumpIf sensed target

/-- The same program with other moves. -/
def Program.mapMoves (f : Move → Move) (program : Program) : Program :=
  ⟨program.instructions.map (Instruction.mapMove f)⟩

theorem Program.get?_mapMoves (f : Move → Move) (program : Program) (place : Nat) :
    (program.mapMoves f).get? place = (program.get? place).map (Instruction.mapMove f) :=
  List.getElem?_map

theorem Instruction.mapMove_id : Instruction.mapMove id = id := by
  funext i
  cases i <;> rfl

@[simp] theorem Program.mapMoves_id (program : Program) : program.mapMoves id = program := by
  rw [mapMoves, Instruction.mapMove_id, List.map_id]

namespace Source

/-- Other characters of the same kind for the characters of a text, and the moves they stand for. -/
structure Substitution where
  char : Char → Char
  move : Move → Move
  injective : Function.Injective char
  isAnchor_char : ∀ c, isAnchor (char c) = isAnchor c
  isReference_char : ∀ c, isReference (char c) = isReference c
  sensed?_char : ∀ c, sensed? (char c) = sensed? c
  ofSymbol?_char : ∀ c, Move.ofSymbol? (char c) = (Move.ofSymbol? c).map move
  /-- A reference asks for its own anchor. -/
  anchorOf_char : ∀ c, isReference c = true → anchorOf (char c) = char (anchorOf c)
  referenceTo_char : ∀ c, isAnchor c = true → referenceTo (char c) = char (referenceTo c)
  char_of_no_symbol : ∀ c, isSymbol c = false → char c = c

namespace Substitution

variable {σ : Substitution} {text before : Source} {c : Char}

/-- The text with other characters. -/
def respell (σ : Substitution) (text : Source) : Source := text.map σ.char

/-- Every character for itself. -/
def same : Substitution where
  char := id
  move := id
  injective := Function.injective_id
  isAnchor_char _ := rfl
  isReference_char _ := rfl
  sensed?_char _ := rfl
  ofSymbol?_char _ := (congrFun Option.map_id _).symm
  anchorOf_char _ _ := rfl
  referenceTo_char _ _ := rfl
  char_of_no_symbol _ _ := rfl

@[simp] theorem respell_same (text : Source) : same.respell text = text := List.map_id text

/-! ### Kinds of characters -/

theorem isCondition_char (σ : Substitution) (c : Char) : isCondition (σ.char c) = isCondition c := by
  simp only [isCondition, σ.sensed?_char]

theorem isSymbol_char (σ : Substitution) (c : Char) : isSymbol (σ.char c) = isSymbol c := by
  simp only [isSymbol, σ.isAnchor_char, σ.isReference_char, σ.isCondition_char, σ.ofSymbol?_char,
    Option.isSome_map]

theorem emits_char (σ : Substitution) (c : Char) : emits (σ.char c) = emits c := by
  simp only [emits, σ.isAnchor_char]

theorem char_mem_respell_iff : σ.char c ∈ σ.respell text ↔ c ∈ text :=
  List.mem_map_of_injective σ.injective

/-! ### The shape -/

theorem offenceAt?_respell (σ : Substitution) (before : Source) (c : Char) :
    offenceAt? (σ.respell before) (σ.char c) = offenceAt? before c := by
  have last : (σ.respell before).head?.any isCondition = before.head?.any isCondition := by
    cases before <;> simp [respell, σ.isCondition_char]
  simp only [offenceAt?, σ.isAnchor_char, List.contains_iff_mem, char_mem_respell_iff,
    σ.isCondition_char, last, Bool.and_eq_true]

theorem offence?_respell (σ : Substitution) (before text : Source) :
    offence? (σ.respell before) (σ.respell text) = offence? before text := by
  induction text generalizing before with
  | nil => rfl
  | cons c rest ih =>
    have later := ih (c :: before)
    simp only [respell, List.map_cons] at later ⊢
    rw [offence?, offence?, later]
    exact congrArg (Option.or · _) (offenceAt?_respell σ before c)

theorem isAnchored_respell (σ : Substitution) (text : Source) :
    isAnchored (σ.respell text) = isAnchored text := by
  rw [isAnchored, isAnchored, respell, List.all_map, ← respell]
  refine congrArg (List.all text) (funext fun c => ?_)
  cases reference : isReference c with
  | false => simp [σ.isReference_char, reference]
  | true => simp [σ.isReference_char, reference, σ.anchorOf_char c reference, char_mem_respell_iff]

theorem isReferenced_respell (σ : Substitution) (text : Source) :
    isReferenced (σ.respell text) = isReferenced text := by
  rw [isReferenced, isReferenced, respell, List.all_map, ← respell]
  refine congrArg (List.all text) (funext fun c => ?_)
  cases anchor : isAnchor c with
  | false => simp [σ.isAnchor_char, anchor]
  | true => simp [σ.isAnchor_char, anchor, σ.referenceTo_char c anchor, char_mem_respell_iff]

/-- The shape of a text does not depend on which characters of a kind it is written in. -/
theorem shape_respell (σ : Substitution) (text : Source) : shape (σ.respell text) = shape text := by
  have scan : offence? [] (σ.respell text) = offence? [] text := offence?_respell σ [] text
  have last : (σ.respell text).getLast?.any isCondition = text.getLast?.any isCondition := by
    rw [respell, List.getLast?_map]
    cases text.getLast? <;> simp [σ.isCondition_char]
  simp only [shape, scan, last, isAnchored_respell, isReferenced_respell]

/-! ### The program -/

theorem emitted_respell (σ : Substitution) (text : Source) : emitted (σ.respell text) = emitted text := by
  simp only [emitted, respell, List.countP_map, Function.comp_def, σ.emits_char]

/-- The anchor in its place stands where the anchor stood. -/
theorem placeOf?_respell (σ : Substitution) (anchor : Char) (text : Source) :
    placeOf? (σ.char anchor) (σ.respell text) = placeOf? anchor text := by
  induction text with
  | nil => rfl
  | cons c rest ih =>
    simp only [respell, List.map_cons] at ih ⊢
    simp only [placeOf?, ih, σ.injective.eq_iff, σ.emits_char]

/-- A character in the place of a symbol means the same, but for the move. -/
theorem meaning?_respell (σ : Substitution) (text : Source) (c : Char) (here : Nat) :
    meaning? (σ.respell text) (σ.char c) here =
      (meaning? text c here).map (Instruction.mapMove σ.move) := by
  simp only [meaning?, σ.sensed?_char, emitted_respell, σ.isReference_char, σ.ofSymbol?_char]
  cases sensed? c with
  | some tile => rfl
  | none =>
    by_cases reference : isReference c = true
    · simp only [if_pos reference, σ.anchorOf_char c reference, placeOf?_respell, Option.map_map]
      rfl
    · simp only [if_neg reference, Option.map_map]
      rfl

theorem mapM_map_option {α β γ : Type} (f : α → Option β) (g : β → γ) (xs : List α) :
    xs.mapM (fun x => (f x).map g) = (xs.mapM f).map (List.map g) := by
  induction xs with
  | nil => rfl
  | cons x rest ih =>
    simp only [List.mapM_cons, ih]
    cases f x <;> cases rest.mapM f <;> rfl

/-- The program of a text depends on its characters in the moves only. -/
theorem compile?_respell (σ : Substitution) (text : Source) :
    compile? (σ.respell text) = (compile? text).map (Program.mapMoves σ.move) := by
  have kept : (σ.respell text).filter emits = (text.filter emits).map σ.char := by
    simp only [respell, List.filter_map, Function.comp_def, σ.emits_char]
  rw [compile?, compile?, kept, List.zipIdx_map, List.mapM_map]
  simp only [Function.comp_def, Prod.map_fst, Prod.map_snd, id_eq, meaning?_respell, mapM_map_option,
    Option.map_map]
  rfl

/-! ### Acceptance -/

theorem checkSymbolsFrom_respell (σ : Substitution) (position : Nat) (text : Source) :
    checkSymbolsFrom position (σ.respell text) = checkSymbolsFrom position text := by
  induction text generalizing position with
  | nil => rfl
  | cons c rest ih =>
    have later := ih (position + 1)
    simp only [respell, List.map_cons] at later ⊢
    rw [checkSymbolsFrom, checkSymbolsFrom, isSymbol_char, later]
    cases symbol : isSymbol c with
    | true => rfl
    | false =>
      -- the character that is named in the rejection is no symbol
      rw [σ.char_of_no_symbol c symbol]

theorem checks_respell (σ : Substitution) (text : Source) (limits : Limits) :
    ((σ.respell text).accept limits).map (fun _ => ()) = (text.accept limits).map fun _ => () := by
  have symbols : checkSymbols (σ.respell text) = checkSymbols text := checkSymbolsFrom_respell σ 0 text
  have length : checkLength (σ.respell text) limits.sourceLength =
      checkLength text limits.sourceLength := by
    simp only [checkLength, respell, List.length_map]
  have form : checkShape (σ.respell text) = checkShape text := by
    simp only [checkShape, shape_respell]
  rw [map_accept, map_accept, symbols, length, form]

/-- The text with other characters is rejected for the same reason, or has the same shape and the same
    program but for the moves. -/
theorem accept_respell (σ : Substitution) (text : Source) (limits : Limits) :
    (∃ reason, text.accept limits = .error reason ∧ (σ.respell text).accept limits = .error reason) ∨
      ∃ original replaced, text.accept limits = .ok original ∧
        (σ.respell text).accept limits = .ok replaced ∧
        replaced.program = original.program.mapMoves σ.move ∧ replaced.shape = original.shape := by
  have checks := checks_respell σ text limits
  cases accept : text.accept limits with
  | error reason =>
    cases accept_replaced : (σ.respell text).accept limits with
    | error other =>
      rw [accept, accept_replaced] at checks
      cases checks
      exact .inl ⟨reason, rfl, rfl⟩
    | ok replaced =>
      rw [accept, accept_replaced] at checks
      cases checks
  | ok original =>
    cases accept_replaced : (σ.respell text).accept limits with
    | error other =>
      rw [accept, accept_replaced] at checks
      cases checks
    | ok replaced =>
      obtain ⟨text_original, -⟩ := accept_eq_ok_iff.1 accept
      obtain ⟨text_replaced, -⟩ := accept_eq_ok_iff.1 accept_replaced
      refine .inr ⟨original, replaced, rfl, rfl, ?_, ?_⟩
      · refine program_eq_of_accept accept_replaced ?_
        rw [compile?_respell, ← text_original, original.compile?_text, Option.map_some]
      · rw [Accepted.shape, Accepted.shape, text_original, text_replaced, shape_respell]

theorem dropTrailingEquals_respell (σ : Substitution) (text : Source) :
    dropTrailingEquals (σ.respell text) = σ.respell (dropTrailingEquals text) := by
  have stays : σ.char '=' = '=' := σ.char_of_no_symbol '=' (by decide)
  have last : (σ.respell text).getLast? = some '=' ↔ text.getLast? = some '=' := by
    rw [respell, List.getLast?_map, Option.map_eq_some_iff]
    constructor
    · rintro ⟨c, found, same⟩
      rw [← stays] at same
      rw [found, σ.injective same]
    · intro found
      exact ⟨'=', found, stays⟩
  rw [dropTrailingEquals, dropTrailingEquals]
  by_cases trailing : text.getLast? = some '='
  · rw [if_pos trailing, if_pos (last.2 trailing), respell, respell,
      List.map_dropLast]
  · rw [if_neg trailing, if_neg (mt last.1 trailing)]

end Substitution

/-! ### Exchanging the turns -/

/-- The other turn in the place of a turn. -/
def exchangeTurn : Char → Char
  | '<' => '>'
  | '>' => '<'
  | c => c

/-- The text with its turns exchanged. -/
def exchangeTurns (text : Source) : Source := text.map exchangeTurn

theorem exchangeTurn_cases (c : Char) :
    c = '<' ∨ c = '>' ∨ (c ≠ '<' ∧ c ≠ '>') ∧ exchangeTurn c = c := by
  by_cases left : c = '<'
  · exact .inl left
  · by_cases right : c = '>'
    · exact .inr (.inl right)
    · refine .inr (.inr ⟨⟨left, right⟩, ?_⟩)
      unfold exchangeTurn
      split <;> simp_all

/-- A function that makes no difference between the turns does not see the exchange. -/
theorem apply_exchangeTurn {α : Type} {f : Char → α} (same : f '<' = f '>') (c : Char) :
    f (exchangeTurn c) = f c := by
  rcases exchangeTurn_cases c with rfl | rfl | ⟨-, kept⟩
  · exact same.symm
  · exact same
  · rw [kept]

theorem exchangeTurn_exchangeTurn (c : Char) : exchangeTurn (exchangeTurn c) = c := by
  rcases exchangeTurn_cases c with rfl | rfl | ⟨-, kept⟩
  · rfl
  · rfl
  · rw [kept, kept]

/-- Nothing but turns is exchanged. -/
theorem exchangeTurn_of_no_move {c : Char} (no_move : Move.ofSymbol? c = none) : exchangeTurn c = c := by
  rcases exchangeTurn_cases c with rfl | rfl | ⟨-, kept⟩
  · cases no_move
  · cases no_move
  · exact kept

theorem ofSymbol?_exchangeTurn (c : Char) :
    Move.ofSymbol? (exchangeTurn c) = (Move.ofSymbol? c).map Move.mirrored := by
  rcases exchangeTurn_cases c with rfl | rfl | ⟨⟨no_left, no_right⟩, kept⟩
  · rfl
  · rfl
  · rw [kept]
    unfold Move.ofSymbol?
    split <;> simp_all [Move.mirrored]

/-- Exchanging the turns keeps the shape of a text and mirrors its moves. -/
def exchangingTurns : Substitution where
  char := exchangeTurn
  move := Move.mirrored
  injective := Function.LeftInverse.injective exchangeTurn_exchangeTurn
  isAnchor_char := apply_exchangeTurn rfl
  isReference_char := apply_exchangeTurn rfl
  sensed?_char := apply_exchangeTurn rfl
  ofSymbol?_char := ofSymbol?_exchangeTurn
  anchorOf_char := by
    intro c reference
    obtain ⟨i, rfl⟩ := isReference_iff.1 reference
    rw [exchangeTurn_of_no_move (ofSymbol?_referenceAt i), anchorOf_referenceAt,
      exchangeTurn_of_no_move (ofSymbol?_anchorAt i)]
  referenceTo_char := by
    intro c anchor
    obtain ⟨i, rfl⟩ := isAnchor_iff.1 anchor
    rw [exchangeTurn_of_no_move (ofSymbol?_anchorAt i), referenceTo_anchorAt,
      exchangeTurn_of_no_move (ofSymbol?_referenceAt i)]
  char_of_no_symbol := by
    intro c foreign
    simp only [isSymbol, Bool.or_eq_false_iff, Option.isSome_eq_false_iff] at foreign
    exact exchangeTurn_of_no_move (Option.isNone_iff_eq_none.1 foreign.2)


end Source

end Labyrinth
