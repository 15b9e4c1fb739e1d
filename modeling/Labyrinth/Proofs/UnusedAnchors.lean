import Labyrinth.Proofs.Letters
import Labyrinth.Proofs.Placement

/-!
# Anchors that nothing asks for

A new anchor that is written into an accepted text changes nothing but the shape. It emits no instruction,
so every symbol keeps its place in the program and every other anchor the place that it names
(`program_insert`). It stands at no offence, whatever it stands between, since it is no condition and the
text does not have it (`Coherent.insert`); and no reference asks for it, or the text would have had it.
-/

namespace Labyrinth

namespace Source

variable {before after : Source} {x c anchor : Char}

/-! ### The text with one character more -/

/-- A character of the longer text is the new one, or it stood there, or one place earlier. -/
theorem getElem?_insert_cases {place : Nat} (found : (before ++ x :: after)[place]? = some c) :
    (place < before.length ∧ (before ++ after)[place]? = some c) ∨
      (place = before.length ∧ x = c) ∨
        ∃ old, place = old + 1 ∧ before.length ≤ old ∧ (before ++ after)[old]? = some c := by
  rcases Nat.lt_trichotomy place before.length with front | rfl | behind
  · rw [List.getElem?_append_left front] at found
    exact .inl ⟨front, by rwa [List.getElem?_append_left front]⟩
  · rw [List.getElem?_append_right (Nat.le_refl _), Nat.sub_self, List.getElem?_cons_zero] at found
    exact .inr (.inl ⟨rfl, Option.some.inj found⟩)
  · obtain ⟨old, rfl⟩ := Nat.exists_eq_add_of_lt behind
    rw [List.getElem?_append_right (by omega), show before.length + old + 1 - before.length = old + 1 by
      omega, List.getElem?_cons_succ] at found
    refine .inr (.inr ⟨before.length + old, rfl, Nat.le_add_right _ _, ?_⟩)
    rwa [List.getElem?_append_right (Nat.le_add_right _ _), Nat.add_sub_cancel_left]

theorem mem_insert_iff : c ∈ before ++ x :: after ↔ c = x ∨ c ∈ before ++ after := by
  simp only [List.mem_append, List.mem_cons]
  exact or_left_comm

/-- The last character is the last one that was there, or the new one. -/
theorem getLast?_insert (found : (before ++ x :: after).getLast? = some c) :
    c = x ∨ (before ++ after).getLast? = some c := by
  cases after with
  | nil =>
    rw [List.getLast?_concat] at found
    exact .inl (Option.some.inj found).symm
  | cons d rest =>
    rw [List.getLast?_append, List.getLast?_cons_cons, ← List.getLast?_append] at found
    exact .inr found

/-- A new anchor leaves a coherent text coherent, wherever it is written. -/
theorem Coherent.insert (coherent : Coherent (before ++ after)) (lower : x.isLower = true)
    (fresh : x ∉ before ++ after) : Coherent (before ++ x :: after) := by
  have no_condition : x ∉ conditions := by
    intro condition
    have silent := not_isAnchor_of_isCondition (isCondition_iff.2 condition)
    rw [isAnchor, lower] at silent
    cases silent
  have other : ∀ {place : Nat}, (before ++ after)[place]? ≠ some x := fun found =>
    fresh (List.mem_of_getElem? found)
  refine ⟨?_, ?_, ?_, ?_⟩
  · intro first second c order at_first at_second
    rcases getElem?_insert_cases at_first with ⟨front, old⟩ | ⟨rfl, rfl⟩ | ⟨old_first, rfl, low, old⟩
    · rcases getElem?_insert_cases at_second with
        ⟨-, also⟩ | ⟨-, rfl⟩ | ⟨old_second, rfl, high, also⟩
      · exact coherent.anchors_once first second c order old also
      · exact absurd old other
      · exact coherent.anchors_once first old_second c (by omega) old also
    · rcases getElem?_insert_cases at_second with ⟨high, -⟩ | ⟨rfl, -⟩ | ⟨old_second, rfl, -, also⟩
      · omega
      · omega
      · exact absurd also other
    · rcases getElem?_insert_cases at_second with ⟨high, -⟩ | ⟨rfl, -⟩ | ⟨old_second, rfl, -, also⟩
      · omega
      · omega
      · exact coherent.anchors_once old_first old_second c (by omega) old also
  · intro place a b at_place next condition
    rcases getElem?_insert_cases at_place with ⟨front, old⟩ | ⟨-, rfl⟩ | ⟨old_place, rfl, low, old⟩
    · rcases getElem?_insert_cases next with ⟨-, also⟩ | ⟨-, rfl⟩ | ⟨old_next, same, high, -⟩
      · exact coherent.conditions_apart place a b old also condition
      · exact no_condition
      · omega
    · exact absurd condition no_condition
    · rcases getElem?_insert_cases next with ⟨high, -⟩ | ⟨same, -⟩ | ⟨old_next, same, -, also⟩
      · omega
      · omega
      · obtain rfl : old_next = old_place + 1 := by omega
        exact coherent.conditions_apart old_place a b old also condition
  · intro c last
    rcases getLast?_insert last with rfl | last
    · exact no_condition
    · exact coherent.not_dangling c last
  · intro c member upper
    rcases mem_insert_iff.1 member with rfl | member
    · rw [← isReference, isReference_of_isAnchor lower] at upper
      cases upper
    · exact mem_insert_iff.2 (.inr (coherent.anchored c member upper))

/-- Nothing asks for a letter that a coherent text does not have. -/
theorem Coherent.toUpper_not_mem {text : Source} (coherent : Coherent text) (lower : x.isLower = true)
    (fresh : x ∉ text) : x.toUpper ∉ text := by
  obtain ⟨i, rfl⟩ := isAnchor_iff.1 lower
  intro asked
  have reference : referenceTo (anchorAt i) = referenceAt i := referenceTo_anchorAt i
  rw [referenceTo] at reference
  rw [reference] at asked
  have anchored := coherent.anchored _ asked (isReference_referenceAt i)
  rw [← anchorOf, anchorOf_referenceAt] at anchored
  exact fresh anchored

/-! ### The program stays the same -/

theorem filter_emits_insert (silent : emits x = false) :
    (before ++ x :: after).filter emits = (before ++ after).filter emits := by
  simp [List.filter_append, silent]

theorem emitted_insert (silent : emits x = false) :
    emitted (before ++ x :: after) = emitted (before ++ after) := by
  simp [emitted, silent]

/-- The other anchors name the places that they named. -/
theorem placeOf?_insert (silent : emits x = false) (other : anchor ≠ x) :
    placeOf? anchor (before ++ x :: after) = placeOf? anchor (before ++ after) := by
  induction before with
  | nil =>
    rw [List.nil_append, placeOf?, if_neg (Ne.symm other), silent]
    simp
  | cons c rest ih => simp only [List.cons_append, placeOf?, ih]

/-- A symbol that does not ask for the new anchor means what it meant. -/
theorem meaning?_insert (silent : emits x = false)
    (other : isReference c = true → anchorOf c ≠ x) (here : Nat) :
    meaning? (before ++ x :: after) c here = meaning? (before ++ after) c here := by
  unfold meaning?
  rw [emitted_insert silent]
  by_cases reference : isReference c = true
  · rw [placeOf?_insert silent (other reference)]
  · simp only [if_neg reference]

/-- The program of an accepted text is also that of the text with a new anchor in it. -/
theorem program_insert {plain marked : Accepted} (text : plain.text = before ++ after)
    (marked_text : marked.text = before ++ x :: after) (lower : x.isLower = true)
    (fresh : x ∉ before ++ after) : marked.program = plain.program := by
  have silent : emits x = false := by rw [emits, isAnchor, lower, Bool.not_true]
  refine Program.ext (List.ext_getElem? fun here => ?_)
  show marked.program.get? here = plain.program.get? here
  rw [get?_eq_bind marked.compile?_text, get?_eq_bind plain.compile?_text, text, marked_text,
    filter_emits_insert silent]
  cases found : ((before ++ after).filter emits)[here]? with
  | none => rfl
  | some c =>
    have member := (List.mem_filter.1 (List.mem_of_getElem? found)).1
    refine meaning?_insert silent (fun reference same => fresh ?_) here
    rw [← text] at member ⊢
    exact same ▸ anchorOf_mem plain member reference

/-- A new anchor that is written into an accepted text is accepted with it, as unused. -/
theorem accept_insert {limits : Limits} {plain : Accepted}
    (accept : (before ++ after).accept limits = .ok plain)
    (room : (before ++ after).length + 1 ≤ limits.sourceLength) (lower : x.isLower = true)
    (fresh : x ∉ before ++ after) :
    ∃ marked, (before ++ x :: after).accept limits = .ok marked ∧ marked.shape = .unusedAnchor := by
  obtain ⟨text, -⟩ := accept_eq_ok_iff.1 accept
  have coherent : Coherent (before ++ after) := text ▸ plain.coherent
  have length : (before ++ x :: after).length ≤ limits.sourceLength := by
    rw [List.length_append] at room ⊢
    exact room
  have allowed : ∀ c ∈ before ++ x :: after, Allowed c := by
    intro c member
    rcases mem_insert_iff.1 member with rfl | member
    · exact .inr (.inl (isLower_iff.1 lower))
    · exact isSymbol_iff.1 (plain.symbols c (text ▸ member))
  have longer := coherent.insert lower fresh
  obtain ⟨marked, accept_marked⟩ := accept_eq_ok_of allowed length longer
  refine ⟨marked, accept_marked, ?_⟩
  rw [Accepted.shape, (accept_eq_ok_iff.1 accept_marked).1]
  refine (shape_eq_unusedAnchor_iff longer).2 ⟨x, mem_insert_iff.2 (.inl rfl), lower, ?_⟩
  intro asked
  rcases mem_insert_iff.1 asked with same | asked
  · -- the new letter is no reference, so it does not ask for itself
    have reference : isReference (referenceTo x) = true := isReference_referenceTo lower
    rw [referenceTo, same, isReference_of_isAnchor lower] at reference
    cases reference
  · exact coherent.toUpper_not_mem lower fresh asked

end Source

namespace Arena

variable {before after : Source} {x : Char} {limits : Limits}

/-- An accepted text is judged by the run of its program. -/
theorem judge_of_accept {arena : Arena} {text : Source} {accepted : Accepted}
    (accept : text.accept arena.limits = .ok accepted) :
    arena.judge text = .completed
      (accepted.program.run arena.layout arena.layout.start arena.limits.steps)
      (accepted.shape = .unusedAnchor) := by
  obtain ⟨rfl, -⟩ := Source.accept_eq_ok_iff.1 accept
  rw [judge, Source.dropTrailingEquals_of_symbols accepted.symbols, accept]

/-- An anchor that nothing asks for changes nothing. If a text is accepted and there is room for one
    character more, a lower-case letter that it does not have may be written anywhere into it, also in
    front and at the end: the longer text is accepted with an unused anchor and has the same program, so
    on every layout both texts run, with the same report, and of the longer one it is said that an anchor
    is unused. -/
theorem unused_anchor_changes_nothing {plain : Accepted}
    (accept : (before ++ after).accept limits = .ok plain)
    (room : (before ++ after).length + 1 ≤ limits.sourceLength) (lower : x.isLower = true)
    (fresh : x ∉ before ++ after) :
    ∃ marked, (before ++ x :: after).accept limits = .ok marked ∧
      marked.shape = .unusedAnchor ∧ marked.program = plain.program ∧
      ∀ layout, ∃ report unused,
        (Arena.mk limits layout).judge (before ++ after) = .completed report unused ∧
        (Arena.mk limits layout).judge (before ++ x :: after) = .completed report true := by
  obtain ⟨marked, accept_marked, shape⟩ := Source.accept_insert accept room lower fresh
  have program : marked.program = plain.program :=
    Source.program_insert (Source.accept_eq_ok_iff.1 accept).1
      (Source.accept_eq_ok_iff.1 accept_marked).1 lower fresh
  refine ⟨marked, accept_marked, shape, program, fun layout => ⟨_, _, judge_of_accept accept, ?_⟩⟩
  rw [judge_of_accept accept_marked, program, shape]
  rfl

/-- An anchor between a condition and the step that it skips, in a text with a loop. -/
theorem unused_anchor_changes_nothing_behind_condition :
    let before : Source := ['a', '!']
    let after : Source := ['+', 'A']
    let layout : Layout := ⟨3, 1, #[.free, .free, .free], ⟨⟨0, 0⟩, .right⟩, ⟨2, 0⟩⟩
    ∃ plain marked, (before ++ after).accept {} = .ok plain ∧
      (before ++ 'b' :: after).accept {} = .ok marked ∧
      plain.shape = .sound ∧ marked.shape = .unusedAnchor ∧
      marked.program = ⟨[.jumpIf .wall 2, .move .forward, .jump 0]⟩ ∧
      (Arena.mk {} layout).judge (before ++ 'b' :: after) =
        .completed ⟨.goalReached, 5, ⟨⟨2, 0⟩, .right⟩⟩ true := by
  intro before after layout
  have symbols : ∀ c ∈ before ++ after, Source.isSymbol c = true := List.all_eq_true.1 (by decide)
  have accept : (before ++ after).accept {} = .ok ⟨before ++ after, symbols, by decide⟩ :=
    Source.accept_eq_ok_iff.2 ⟨rfl, by decide⟩
  have compile : (before ++ after).compile? =
      some ⟨[.jumpIf .wall 2, .move .forward, .jump 0]⟩ := by decide
  have plain_program := Source.program_eq_of_accept accept compile
  obtain ⟨marked, accept_marked, shape, program, judged⟩ :=
    unused_anchor_changes_nothing (x := 'b') accept (by decide) (by decide) (by simp [before, after])
  obtain ⟨report, unused, alone, longer⟩ := judged layout
  rw [judge_of_accept accept, plain_program] at alone
  obtain ⟨rfl, -⟩ := Verdict.completed.inj alone
  refine ⟨_, marked, accept, accept_marked, ?_, shape, program.trans plain_program, longer⟩
  show Source.shape (before ++ after) = .sound
  decide

end Arena

end Labyrinth
