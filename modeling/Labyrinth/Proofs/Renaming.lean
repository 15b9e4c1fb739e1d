import Mathlib.Logic.Equiv.Defs
import Labyrinth.Proofs.Letters
import Labyrinth.Proofs.Substitution

/-!
# Other letters for the same program

A permutation of the alphabet renames the anchors of a text together with the references to them, and
leaves every other character alone. Nothing that is said of a text depends on the names: its shape,
its program and the verdict on it stay the same, rejections included. What makes it so is that renaming
is a substitution that keeps all moves (`renamingOf`): a renamed character is of the same kind
(`isAnchor_renameLetter` and those after it), different characters stay different, and a reference still
asks for its own anchor.
-/

namespace Labyrinth.Source

/-- The letter that takes the place of a letter, in lower or in upper case; other characters stay. -/
def renameLetter (σ : Equiv.Perm (Fin 26)) (c : Char) : Char :=
  if isAnchor c then anchorAt (σ (Fin.ofNat 26 (c.toNat - 'a'.toNat)))
  else if isReference c then referenceAt (σ (Fin.ofNat 26 (c.toNat - 'A'.toNat)))
  else c

/-- The text with all its letters renamed. -/
def rename (σ : Equiv.Perm (Fin 26)) (text : Source) : Source := text.map (renameLetter σ)

variable {σ : Equiv.Perm (Fin 26)} {c : Char}

/-! ### Renaming a character -/

@[simp] theorem renameLetter_anchorAt (σ : Equiv.Perm (Fin 26)) (i : Fin 26) :
    renameLetter σ (anchorAt i) = anchorAt (σ i) := by
  have place : Fin.ofNat 26 ((anchorAt i).toNat - 'a'.toNat) = i := by decide +revert
  rw [renameLetter, if_pos (isAnchor_anchorAt i), place]

@[simp] theorem renameLetter_referenceAt (σ : Equiv.Perm (Fin 26)) (i : Fin 26) :
    renameLetter σ (referenceAt i) = referenceAt (σ i) := by
  have place : Fin.ofNat 26 ((referenceAt i).toNat - 'A'.toNat) = i := by decide +revert
  rw [renameLetter, isAnchor_referenceAt, if_neg Bool.false_ne_true,
    if_pos (isReference_referenceAt i), place]

/-- Only letters are renamed. -/
theorem renameLetter_of_no_letter (σ : Equiv.Perm (Fin 26)) (no_anchor : isAnchor c = false)
    (no_reference : isReference c = false) : renameLetter σ c = c := by
  simp [renameLetter, no_anchor, no_reference]

/-- A function that makes no difference between anchors, nor between references, does not see that a
    character was renamed. -/
theorem apply_renameLetter {α : Type} {f : Char → α} {a r : α} (anchors : ∀ i, f (anchorAt i) = a)
    (references : ∀ i, f (referenceAt i) = r) (σ : Equiv.Perm (Fin 26)) (c : Char) :
    f (renameLetter σ c) = f c := by
  rcases letter_cases c with ⟨i, rfl⟩ | ⟨i, rfl⟩ | ⟨no_anchor, no_reference⟩
  · rw [renameLetter_anchorAt, anchors, anchors]
  · rw [renameLetter_referenceAt, references, references]
  · rw [renameLetter_of_no_letter σ no_anchor no_reference]

@[simp] theorem isAnchor_renameLetter (σ : Equiv.Perm (Fin 26)) (c : Char) :
    isAnchor (renameLetter σ c) = isAnchor c :=
  apply_renameLetter isAnchor_anchorAt isAnchor_referenceAt σ c

@[simp] theorem isReference_renameLetter (σ : Equiv.Perm (Fin 26)) (c : Char) :
    isReference (renameLetter σ c) = isReference c :=
  apply_renameLetter isReference_anchorAt isReference_referenceAt σ c

@[simp] theorem sensed?_renameLetter (σ : Equiv.Perm (Fin 26)) (c : Char) :
    sensed? (renameLetter σ c) = sensed? c :=
  apply_renameLetter sensed?_anchorAt sensed?_referenceAt σ c

@[simp] theorem ofSymbol?_renameLetter (σ : Equiv.Perm (Fin 26)) (c : Char) :
    Move.ofSymbol? (renameLetter σ c) = Move.ofSymbol? c :=
  apply_renameLetter ofSymbol?_anchorAt ofSymbol?_referenceAt σ c

/-- A renamed reference asks for the renamed anchor. -/
theorem anchorOf_renameLetter (reference : isReference c = true) :
    anchorOf (renameLetter σ c) = renameLetter σ (anchorOf c) := by
  obtain ⟨i, rfl⟩ := isReference_iff.1 reference
  simp

theorem referenceTo_renameLetter (anchor : isAnchor c = true) :
    referenceTo (renameLetter σ c) = renameLetter σ (referenceTo c) := by
  obtain ⟨i, rfl⟩ := isAnchor_iff.1 anchor
  simp

/-- Renaming back gives the character back. -/
theorem renameLetter_symm (σ : Equiv.Perm (Fin 26)) (c : Char) :
    renameLetter σ.symm (renameLetter σ c) = c := by
  rcases letter_cases c with ⟨i, rfl⟩ | ⟨i, rfl⟩ | ⟨no_anchor, no_reference⟩
  · simp
  · simp
  · rw [renameLetter_of_no_letter σ no_anchor no_reference,
      renameLetter_of_no_letter σ.symm no_anchor no_reference]

/-- Different characters stay different. -/
theorem renameLetter_injective (σ : Equiv.Perm (Fin 26)) : Function.Injective (renameLetter σ) :=
  Function.LeftInverse.injective (renameLetter_symm σ)

/-- What is no symbol is not renamed. -/
theorem renameLetter_of_no_symbol (foreign : isSymbol c = false) : renameLetter σ c = c := by
  simp only [isSymbol, Bool.or_eq_false_iff] at foreign
  exact renameLetter_of_no_letter σ foreign.1.1.1 foreign.1.1.2

/-! ### Renaming a text -/

/-- Renaming puts letters in the place of letters, and keeps every move. -/
def renamingOf (σ : Equiv.Perm (Fin 26)) : Substitution where
  char := renameLetter σ
  move := id
  injective := renameLetter_injective σ
  isAnchor_char := isAnchor_renameLetter σ
  isReference_char := isReference_renameLetter σ
  sensed?_char := sensed?_renameLetter σ
  ofSymbol?_char c := (ofSymbol?_renameLetter σ c).trans (congrFun Option.map_id _).symm
  anchorOf_char _ := anchorOf_renameLetter
  referenceTo_char _ := referenceTo_renameLetter
  char_of_no_symbol _ := renameLetter_of_no_symbol

/-- The shape of a text does not depend on its letters. -/
theorem shape_rename (σ : Equiv.Perm (Fin 26)) (text : Source) :
    shape (rename σ text) = shape text :=
  (renamingOf σ).shape_respell text

/-- A renamed text is rejected for the same reason, or has the same program and the same shape. -/
theorem accept_rename (σ : Equiv.Perm (Fin 26)) (text : Source) (limits : Limits) :
    (∃ reason, text.accept limits = .error reason ∧ (rename σ text).accept limits = .error reason) ∨
      ∃ original renamed, text.accept limits = .ok original ∧
        (rename σ text).accept limits = .ok renamed ∧
        renamed.program = original.program ∧ renamed.shape = original.shape := by
  rcases (renamingOf σ).accept_respell text limits with
    rejected | ⟨original, renamed, accepted, accepted_too, program, shape⟩
  · exact .inl rejected
  · have no_move_changes : original.program.mapMoves (renamingOf σ).move = original.program :=
      original.program.mapMoves_id
    exact .inr ⟨original, renamed, accepted, accepted_too, program.trans no_move_changes, shape⟩

theorem dropTrailingEquals_rename (σ : Equiv.Perm (Fin 26)) (text : Source) :
    dropTrailingEquals (rename σ text) = rename σ (dropTrailingEquals text) :=
  (renamingOf σ).dropTrailingEquals_respell text

end Labyrinth.Source

namespace Labyrinth.Arena

theorem judge_rename (σ : Equiv.Perm (Fin 26)) (arena : Arena) (text : Source) :
    arena.judge (text.rename σ) = arena.judge text := by
  rw [judge, judge, Source.dropTrailingEquals_rename]
  rcases Source.accept_rename σ (Source.dropTrailingEquals text) arena.limits with
    ⟨reason, rejected, rejected_too⟩ | ⟨original, renamed, accepted, accepted_too, program, shape⟩
  · rw [rejected, rejected_too]
  · rw [accepted, accepted_too]
    simp only [program, shape]

/-- The names of the labels do not matter: under every permutation of the alphabet a text keeps its
    shape and the verdict on it, whether it is rejected or runs, and it is accepted with the same
    program. -/
theorem names_do_not_matter (σ : Equiv.Perm (Fin 26)) (arena : Arena) (text : Source) :
    Source.shape (text.rename σ) = Source.shape text ∧
      arena.judge (text.rename σ) = arena.judge text ∧
      ((text.rename σ).accept arena.limits).map Accepted.program =
        (text.accept arena.limits).map Accepted.program := by
  refine ⟨Source.shape_rename σ text, judge_rename σ arena text, ?_⟩
  rcases Source.accept_rename σ text arena.limits with
    ⟨reason, rejected, rejected_too⟩ | ⟨original, renamed, accepted, accepted_too, program, -⟩
  · rw [rejected, rejected_too]
  · rw [accepted, accepted_too]
    exact congrArg Except.ok program

end Labyrinth.Arena
