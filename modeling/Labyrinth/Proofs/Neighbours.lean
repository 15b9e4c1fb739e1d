import Labyrinth.Proofs.Concatenation

/-!
# Conditions side by side

A condition passes over one instruction. In an accepted text no condition stands right behind another,
but an anchor between the two is enough to keep them apart there, and it emits nothing: in the program
they then stand side by side, and the first passes over the second. This happens exactly where the text
has a condition, one or more anchors, and a condition again (`adjacent_conditions_iff`).
-/

namespace Labyrinth

/-- The instruction at a place is a conditional jump. -/
def Program.ConditionAt (program : Program) (place : Nat) : Prop :=
  ∃ sensed target, program.get? place = some (.jumpIf sensed target)

namespace Source

variable {text : Source} {c : Char} {first second place : Nat}

/-- Two conditions of a text with anchors between them, at least one, and nothing else. -/
structure Bridged (text : Source) (first second : Nat) : Prop where
  apart : first + 1 < second
  opens : ∃ c ∈ conditions, text[first]? = some c
  closes : ∃ c ∈ conditions, text[second]? = some c
  anchors : ∀ i, first < i → i < second → ∃ c, text[i]? = some c ∧ c.isLower = true

/-! ### Places of a text and places of its program -/

theorem emittedBefore_mono (h : first ≤ second) :
    emittedBefore text first ≤ emittedBefore text second :=
  (List.take_sublist_take_left h).countP_le

/-- Where nothing is emitted there are only anchors. -/
theorem emits_eq_false_of_emittedBefore_eq (same : emittedBefore text first = emittedBefore text second)
    (low : first ≤ place) (high : place < second) (found : text[place]? = some c) :
    emits c = false := by
  refine Bool.eq_false_iff.2 fun emitting => ?_
  have before : emittedBefore text first ≤ emittedBefore text place := emittedBefore_mono low
  have after : emittedBefore text (place + 1) ≤ emittedBefore text second := emittedBefore_mono high
  rw [emittedBefore_succ found, if_pos emitting] at after
  omega

/-- What is left of a text without its anchors was there, behind as many symbols that emit. -/
theorem exists_place_of_getElem?_filter {here : Nat} (found : (text.filter emits)[here]? = some c) :
    ∃ place, text[place]? = some c ∧ emittedBefore text place = here := by
  induction text generalizing here with
  | nil => cases found
  | cons d rest ih =>
    by_cases emitting : emits d = true
    · rw [List.filter_cons_of_pos emitting] at found
      cases here with
      | zero => exact ⟨0, found, rfl⟩
      | succ here =>
        obtain ⟨place, present, rfl⟩ := ih found
        refine ⟨place + 1, present, ?_⟩
        rw [emittedBefore, List.take_succ_cons, emitted_cons, if_pos emitting, emittedBefore]
    · rw [List.filter_cons_of_neg emitting] at found
      obtain ⟨place, present, rfl⟩ := ih found
      refine ⟨place + 1, present, ?_⟩
      rw [emittedBefore, List.take_succ_cons, emitted_cons, if_neg emitting, Nat.add_zero, emittedBefore]

theorem emits_of_mem_conditions (condition : c ∈ conditions) : emits c = true := by
  simp only [conditions, List.mem_cons, List.not_mem_nil, or_false] at condition
  rcases condition with rfl | rfl <;> decide

/-! ### Conditions of the text and of the program -/

/-- The conditional jumps of a program are those of the conditions of its text. -/
theorem conditionAt_iff (accepted : Accepted) {here : Nat} :
    accepted.program.ConditionAt here ↔
      ∃ place, (∃ c ∈ conditions, accepted.text[place]? = some c) ∧
        emittedBefore accepted.text place = here := by
  constructor
  · rintro ⟨sensed, target, fetched⟩
    rw [get?_eq_bind accepted.compile?_text] at fetched
    obtain ⟨c, found, means⟩ := Option.bind_eq_some_iff.1 fetched
    obtain ⟨place, present, rfl⟩ := exists_place_of_getElem?_filter found
    have condition : isCondition c = true := by
      rw [isCondition, (meaning?_eq_jumpIf_iff.1 means).1, Option.isSome_some]
    exact ⟨place, ⟨c, isCondition_iff.1 condition, present⟩, rfl⟩
  · rintro ⟨place, ⟨c, condition, present⟩, rfl⟩
    obtain ⟨tile, sensed⟩ := Option.isSome_iff_exists.1 (isCondition_iff.2 condition)
    have emitting := emits_of_mem_conditions condition
    have fetched := get?_of_compile? accepted.compile?_text present emitting
    exact ⟨tile, _, fetched.trans (meaning?_eq_jumpIf_iff.2 ⟨sensed, rfl⟩)⟩

/-- Behind a condition of a program there is a condition again exactly where in the text there are
    anchors and then a condition behind it. -/
theorem adjacent_conditions_iff (accepted : Accepted) {here : Nat} :
    accepted.program.ConditionAt here ∧ accepted.program.ConditionAt (here + 1) ↔
      ∃ first second, Bridged accepted.text first second ∧
        emittedBefore accepted.text first = here := by
  constructor
  · rintro ⟨one, two⟩
    obtain ⟨first, ⟨a, opens, at_first⟩, rfl⟩ := (conditionAt_iff accepted).1 one
    obtain ⟨second, ⟨b, closes, at_second⟩, next⟩ := (conditionAt_iff accepted).1 two
    have behind : emittedBefore accepted.text (first + 1) = emittedBefore accepted.text second := by
      rw [emittedBefore_succ at_first, if_pos (emits_of_mem_conditions opens), next]
    have later : first + 1 ≤ second := by
      refine Nat.lt_of_not_le fun order => ?_
      have counted : emittedBefore accepted.text second ≤ emittedBefore accepted.text first :=
        emittedBefore_mono order
      omega
    -- were they side by side in the text, it would not be coherent
    have apart : first + 1 ≠ second := by
      rintro rfl
      exact accepted.coherent.conditions_apart first a b at_first at_second opens closes
    refine ⟨first, second, ⟨by omega, ⟨a, opens, at_first⟩, ⟨b, closes, at_second⟩, ?_⟩, rfl⟩
    intro i low high
    obtain ⟨inside, -⟩ := List.getElem?_eq_some_iff.1 at_second
    have found := List.getElem?_eq_getElem (Nat.lt_trans high inside)
    have silent := emits_eq_false_of_emittedBefore_eq behind low high found
    exact ⟨_, found, by simpa [emits, isAnchor] using silent⟩
  · rintro ⟨first, second, bridged, rfl⟩
    obtain ⟨a, opens, at_first⟩ := bridged.opens
    refine ⟨(conditionAt_iff accepted).2 ⟨first, bridged.opens, rfl⟩,
      (conditionAt_iff accepted).2 ⟨second, bridged.closes, ?_⟩⟩
    have silent : ∀ i c, first + 1 ≤ i → i < second → accepted.text[i]? = some c →
        emits c = false := by
      intro i c low high found
      obtain ⟨d, present, lower⟩ := bridged.anchors i low high
      obtain rfl : c = d := Option.some.inj (found.symm.trans present)
      simp [emits, isAnchor, lower]
    rw [← emittedBefore_eq_of_anchors (Nat.le_of_lt bridged.apart) silent,
      emittedBefore_succ at_first, if_pos (emits_of_mem_conditions opens)]

/-- In the program of an accepted text a condition never stands right behind a condition, if in the text
    none does behind a condition and anchors, and only then. -/
theorem conditions_apart_iff (accepted : Accepted) :
    (∀ here, accepted.program.ConditionAt here → ¬accepted.program.ConditionAt (here + 1)) ↔
      ∀ first second, ¬Bridged accepted.text first second := by
  constructor
  · intro never first second bridged
    obtain ⟨one, two⟩ := (adjacent_conditions_iff accepted).2 ⟨first, second, bridged, rfl⟩
    exact never _ one two
  · intro never here one two
    obtain ⟨first, second, bridged, -⟩ := (adjacent_conditions_iff accepted).1 ⟨one, two⟩
    exact never first second bridged

/-- A text of sound shape with an anchor between two conditions: in its program the second stands right
    behind the first, which passes over it where the cell ahead is free. -/
theorem condition_passes_over_condition :
    let text : Source := ['?', 'a', '!', '+', 'A']
    let layout : Layout := ⟨2, 1, #[.free, .free], ⟨⟨0, 0⟩, .right⟩, ⟨1, 0⟩⟩
    ∃ accepted : Accepted, accepted.text = text ∧ accepted.shape = .sound ∧
      accepted.program =
        ⟨[.jumpIf .free 2, .jumpIf .wall 3, .move .forward, .jump 1]⟩ ∧
      ¬(∀ here, accepted.program.ConditionAt here → ¬accepted.program.ConditionAt (here + 1)) ∧
      (accepted.program.trace layout layout.start 9).map (fun e => e.pointer) = [0, 2] := by
  intro text layout
  have symbols : ∀ c ∈ text, isSymbol c = true := List.all_eq_true.1 (by decide)
  have accept : text.accept {} = .ok ⟨text, symbols, by decide⟩ :=
    accept_eq_ok_iff.2 ⟨rfl, by decide⟩
  have program := program_eq_of_accept accept
    (show text.compile? = some ⟨[.jumpIf .free 2, .jumpIf .wall 3, .move .forward, .jump 1]⟩ by decide)
  refine ⟨⟨text, symbols, by decide⟩, rfl, ?_, program, ?_, ?_⟩
  · show Source.shape text = .sound
    decide
  · rw [program]
    exact fun never => never 0 ⟨.free, 2, rfl⟩ ⟨.wall, 3, rfl⟩
  · rw [program]
    rfl

end Source

end Labyrinth
