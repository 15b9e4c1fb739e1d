import Labyrinth.Proofs.Concatenation
import Labyrinth.Source.Passes

/-!
# What a text is compiled to

The three passes make the program of every accepted text, and `Renders` says what that is, symbol by
symbol. `Drafted` is the invariant of the first pass: the instructions so far stand for the symbols that
emit, the slots that wait are those of the references, and the anchors name the places they have in the
text. It needs that no anchor stands twice. The second pass then changes conditions only and the third
references only, so the slots that are filled are never those that were led back.
-/

namespace Labyrinth.Source

variable {text : Source} {draft : Draft} {c : Char} {i : Instruction}

/-! ### Reading one character more -/

/-- The instruction that a symbol first stands for at a place: a reference leads to its own slot. -/
def provisional? (c : Char) (here : Nat) : Option Instruction :=
  match sensed? c with
  | some tile => some (.jumpIf tile (here + 2))
  | none => if isReference c then some (.jump here) else (Move.ofSymbol? c).map .move

/-- What a draft holds of the text that was read. -/
structure Drafted (text : Source) (draft : Draft) : Prop where
  length_eq : draft.instructions.length = emitted text
  /-- Each symbol that emits has its provisional instruction. -/
  instruction : ∀ {here c}, (text.filter emits)[here]? = some c →
    ∃ i, provisional? c here = some i ∧ draft.instructions[here]? = some i
  /-- The slots of the references wait, each for its anchor. -/
  references : ∀ {slot anchor}, (slot, anchor) ∈ draft.references ↔
    ∃ c, (text.filter emits)[slot]? = some c ∧ isReference c = true ∧ anchorOf c = anchor
  /-- The anchors of the text are written down with their places. -/
  anchors : ∀ {anchor}, isAnchor anchor = true → draft.anchors.lookup anchor = placeOf? anchor text

theorem drafted_nil : Drafted [] {} where
  length_eq := rfl
  instruction found := nomatch found
  references := by simp
  anchors _ := rfl

theorem getElem?_concat_eq_some_iff {α : Type} {xs : List α} {x y : α} {place : Nat} :
    (xs ++ [x])[place]? = some y ↔ xs[place]? = some y ∨ place = xs.length ∧ x = y := by
  rcases Nat.lt_trichotomy place xs.length with inside | rfl | past
  · simp [List.getElem?_append_left inside, Nat.ne_of_lt inside]
  · simp
  · rw [List.getElem?_append_right (Nat.le_of_lt past), List.getElem?_eq_none (Nat.le_of_lt past),
      List.getElem?_eq_none (by simp; omega)]
    simp [Nat.ne_of_gt past]

theorem placeOf?_concat_of_ne {anchor : Char} (other : c ≠ anchor) :
    placeOf? anchor (text ++ [c]) = placeOf? anchor text := by
  induction text with
  | nil => simp [placeOf?, other]
  | cons d rest ih => simp only [List.cons_append, placeOf?, ih]

/-- A symbol that emits appends its provisional instruction, and makes its slot wait if it is a
    reference. -/
theorem Drafted.emit (drafted : Drafted text draft) (emitting : emits c = true)
    (means : provisional? c draft.instructions.length = some i) :
    Drafted (text ++ [c]) { draft.emit i with
      references := draft.references ++
        if isReference c then [(draft.instructions.length, anchorOf c)] else [] } := by
  have filtered : (text ++ [c]).filter emits = text.filter emits ++ [c] := by
    simp [List.filter_append, emitting]
  have size : draft.instructions.length = (text.filter emits).length := by
    rw [drafted.length_eq, emitted, List.countP_eq_length_filter]
  refine ⟨?_, ?_, ?_, ?_⟩
  · simp [Draft.emit, drafted.length_eq, emitted, emitting]
  · intro here d found
    rw [filtered] at found
    rcases getElem?_concat_eq_some_iff.1 found with before | ⟨rfl, rfl⟩
    · obtain ⟨j, stands_for, there⟩ := drafted.instruction before
      exact ⟨j, stands_for, getElem?_concat_eq_some_iff.2 (.inl there)⟩
    · exact ⟨i, size ▸ means, getElem?_concat_eq_some_iff.2 (.inr ⟨size.symm, rfl⟩)⟩
  · intro slot anchor
    simp only [List.mem_append, drafted.references, filtered, getElem?_concat_eq_some_iff, ← size]
    constructor
    · rintro (⟨d, found, reference, rfl⟩ | last)
      · exact ⟨d, .inl found, reference, rfl⟩
      · split at last
        · next reference =>
          obtain ⟨rfl, rfl⟩ : slot = _ ∧ anchor = _ := by simpa using last
          exact ⟨c, .inr ⟨rfl, rfl⟩, reference, rfl⟩
        · cases last
    · rintro ⟨d, before | ⟨rfl, rfl⟩, reference, rfl⟩
      · exact .inl ⟨d, before, reference, rfl⟩
      · exact .inr (by simp [reference])
  · intro anchor is_anchor
    have other : c ≠ anchor := by
      rintro rfl
      simp [emits, is_anchor] at emitting
    rw [placeOf?_concat_of_ne other]
    exact drafted.anchors is_anchor

/-- An anchor that was not there before is written down with the number of instructions so far. -/
theorem Drafted.note (drafted : Drafted text draft) (is_anchor : isAnchor c = true)
    (fresh : c ∉ text) :
    Drafted (text ++ [c])
      { draft with anchors := (c, draft.instructions.length) :: draft.anchors } := by
  have filtered : (text ++ [c]).filter emits = text.filter emits := by
    simp [List.filter_append, emits, is_anchor]
  refine ⟨?_, ?_, ?_, ?_⟩
  · simp [drafted.length_eq, emitted, emits, is_anchor]
  · rw [filtered]
    exact drafted.instruction
  · rw [filtered]
    exact drafted.references
  · intro anchor other_anchor
    by_cases same : c = anchor
    · subst same
      rw [List.lookup_cons_self, placeOf?_append_of_not_mem fresh, drafted.length_eq]
      simp [placeOf?]
    · rw [placeOf?_concat_of_ne same, List.lookup_cons, beq_false_of_ne (Ne.symm same)]
      exact drafted.anchors other_anchor

/-- Every symbol but the anchors has a provisional instruction. -/
theorem exists_provisional? (symbol : isSymbol c = true) (emitting : emits c = true) (here : Nat) :
    ∃ i, provisional? c here = some i := by
  have no_anchor : isAnchor c = false := by simpa [emits] using emitting
  unfold provisional?
  cases sensed : sensed? c with
  | some tile => exact ⟨_, rfl⟩
  | none =>
    by_cases reference : isReference c = true
    · exact ⟨_, if_pos reference⟩
    · have moves : (Move.ofSymbol? c).isSome = true := by
        simpa [isSymbol, isCondition, no_anchor, sensed, reference] using symbol
      obtain ⟨move, moves⟩ := Option.isSome_iff_exists.1 moves
      exact ⟨.move move, by simp only [if_neg reference, moves, Option.map_some]⟩

/-- Reading a symbol with a provisional instruction appends it. -/
theorem read_of_emits (emitting : emits c = true)
    (means : provisional? c draft.instructions.length = some i) :
    draft.read c = .ok { draft.emit i with
      references := draft.references ++
        if isReference c then [(draft.instructions.length, anchorOf c)] else [] } := by
  have no_anchor : isAnchor c = false := by simpa [emits] using emitting
  unfold provisional? at means
  cases sensed : sensed? c with
  | some tile =>
    have no_reference : ¬isReference c = true := by
      intro reference
      rw [sensed?_of_isReference reference] at sensed
      cases sensed
    simp only [sensed, Option.some.injEq] at means
    simp [Draft.read, Draft.emit, sensed, no_reference, ← means]
  | none =>
    simp only [sensed] at means
    by_cases reference : isReference c = true
    · simp only [if_pos reference, Option.some.injEq] at means
      simp [Draft.read, Draft.emit, sensed, no_anchor, reference, ← means]
    · rw [if_neg reference] at means
      obtain ⟨move, moves, rfl⟩ := Option.map_eq_some_iff.1 means
      simp [Draft.read, Draft.emit, sensed, no_anchor, reference, moves]

/-- Every symbol can be read, if it is no anchor for the second time. -/
theorem Drafted.read (drafted : Drafted text draft) (symbol : isSymbol c = true)
    (fresh : isAnchor c = true → c ∉ text) :
    ∃ next, draft.read c = .ok next ∧ Drafted (text ++ [c]) next := by
  cases is_anchor : isAnchor c with
  | true =>
    have unsensed : sensed? c = none := by
      obtain ⟨k, rfl⟩ := isAnchor_iff.1 is_anchor
      exact sensed?_anchorAt k
    refine ⟨_, ?_, drafted.note is_anchor (fresh is_anchor)⟩
    simp only [Draft.read, unsensed, is_anchor, if_true]
  | false =>
    have emitting : emits c = true := by simp [emits, is_anchor]
    obtain ⟨i, means⟩ := exists_provisional? symbol emitting draft.instructions.length
    exact ⟨_, read_of_emits emitting means, drafted.emit emitting means⟩

/-! ### Reading a whole text -/

/-- A text of symbols in which no anchor stands twice can be read to its end. -/
theorem Drafted.readAll {rest : Source} (drafted : Drafted text draft)
    (symbols : ∀ c ∈ rest, isSymbol c = true)
    (once : ∀ (first second : Nat) (c : Char), first < second → (text ++ rest)[first]? = some c →
      (text ++ rest)[second]? = some c → c.isLower = false) :
    ∃ last, rest.foldlM Draft.read draft = .ok last ∧ Drafted (text ++ rest) last := by
  induction rest generalizing text draft with
  | nil => exact ⟨draft, rfl, by rwa [List.append_nil]⟩
  | cons c rest ih =>
    obtain ⟨symbol, later⟩ := List.forall_mem_cons.1 symbols
    have fresh : isAnchor c = true → c ∉ text := by
      intro is_anchor member
      obtain ⟨earlier, inside, found⟩ := List.mem_iff_getElem.1 member
      have lower := once earlier text.length c inside
        (by rw [List.getElem?_append_left inside, List.getElem?_eq_getElem inside, found])
        (by simp)
      rw [isAnchor, lower] at is_anchor
      cases is_anchor
    obtain ⟨next, read, drafted_next⟩ := drafted.read symbol fresh
    rw [List.append_cons] at once ⊢
    obtain ⟨last, read_rest, drafted_last⟩ := ih drafted_next later once
    refine ⟨last, ?_, drafted_last⟩
    rw [List.foldlM_cons, read]
    exact read_rest

/-! ### The later passes -/

/-- The slots are filled to a list that has the place of its anchor in each slot that waits, and in all
    other slots what was there. -/
theorem fillSlots_eq_ok {anchors : List (Char × Nat)} {references : List (Nat × Char)}
    {instructions final : List Instruction} (length : instructions.length = final.length)
    (waiting : ∀ slot anchor, (slot, anchor) ∈ references →
      ∃ place, anchors.lookup anchor = some place ∧ final[slot]? = some (.jump place))
    (others : ∀ slot, instructions[slot]? = final[slot]? ∨ ∃ anchor, (slot, anchor) ∈ references) :
    fillSlots anchors references instructions = .ok final := by
  induction references generalizing instructions with
  | nil =>
    have same : instructions = final :=
      List.ext_getElem? fun slot => (others slot).resolve_right (by simp)
    rw [fillSlots, same]
  | cons reference rest ih =>
    obtain ⟨slot, anchor⟩ := reference
    obtain ⟨place, found, filled⟩ := waiting slot anchor List.mem_cons_self
    have inside : slot < instructions.length := by
      rw [length]
      exact (List.getElem?_eq_some_iff.1 filled).1
    simp only [fillSlots, found]
    refine ih (by rw [List.length_set, length]) ?_ fun other => ?_
    · intro slot anchor member
      exact waiting slot anchor (List.mem_cons_of_mem _ member)
    · by_cases same : slot = other
      · subst same
        exact .inl (by rw [filled, List.getElem?_set_self inside])
      · rw [List.getElem?_set_ne same]
        rcases others other with kept | ⟨waits_for, member⟩
        · exact .inl kept
        · rcases List.mem_cons.1 member with here | later
          · exact absurd (congrArg Prod.fst here).symm same
          · exact .inr ⟨waits_for, later⟩

/-- Led back to the end, the provisional instruction of a symbol is what it means, unless it is a
    reference. -/
theorem map_leadBack_provisional? {here : Nat} (no_reference : ¬isReference c = true) :
    (provisional? c here).map (Instruction.leadBack (emitted text)) = meaning? text c here := by
  unfold provisional? meaning?
  cases sensed? c with
  | some tile => rfl
  | none =>
    simp only [if_neg no_reference]
    cases Move.ofSymbol? c <;> rfl

/-- A draft of an accepted text, led back and filled, is its program. -/
theorem Drafted.fillSlots_leadBack {accepted : Accepted} (drafted : Drafted accepted.text draft) :
    fillSlots draft.anchors draft.references draft.leadBack =
      .ok accepted.program.instructions := by
  have size : accepted.program.instructions.length = emitted accepted.text := size_program accepted
  refine fillSlots_eq_ok ?_ ?_ ?_
  · rw [Draft.leadBack, List.length_map, drafted.length_eq, size]
  · intro slot anchor waits
    obtain ⟨c, found, reference, rfl⟩ := drafted.references.1 waits
    have member := (List.mem_filter.1 (List.mem_of_getElem? found)).1
    have place := placeOf?_of_mem (anchorOf_mem accepted member reference)
    refine ⟨_, (drafted.anchors (isAnchor_anchorOf reference)).trans place, ?_⟩
    show accepted.program.get? slot = _
    rw [get?_eq_bind accepted.compile?_text, found, Option.bind_some]
    exact meaning?_of_isReference accepted member reference slot
  · intro slot
    have fetched : accepted.program.instructions[slot]? = _ :=
      get?_eq_bind accepted.compile?_text slot
    cases found : (accepted.text.filter emits)[slot]? with
    | none =>
      have past : emitted accepted.text ≤ slot := by
        rw [emitted, List.countP_eq_length_filter]
        exact List.getElem?_eq_none_iff.1 found
      left
      rw [fetched, found, Option.bind_none, List.getElem?_eq_none]
      rwa [Draft.leadBack, List.length_map, drafted.length_eq]
    | some c =>
      by_cases reference : isReference c = true
      · exact .inr ⟨_, drafted.references.2 ⟨c, found, reference, rfl⟩⟩
      · obtain ⟨i, stands_for, there⟩ := drafted.instruction found
        left
        rw [fetched, found, Option.bind_some, Draft.leadBack, List.getElem?_map, there,
          drafted.length_eq, ← map_leadBack_provisional? reference, stands_for]

/-- The three passes make the program of an accepted text. -/
theorem compileInPasses_eq_ok (accepted : Accepted) :
    compileInPasses accepted.text = .ok accepted.program := by
  obtain ⟨draft, read, drafted⟩ :=
    drafted_nil.readAll accepted.symbols accepted.coherent.anchors_once
  rw [List.nil_append] at drafted
  rw [compileInPasses, read]
  show Program.mk <$> fillSlots draft.anchors draft.references draft.leadBack = _
  rw [drafted.fillSlots_leadBack]
  rfl

/-! ### The program, symbol by symbol -/

/-- The instruction that a character of a text stands for, at the place `here` of its program. -/
inductive Renders (text : Source) (here : Nat) : Char → Instruction → Prop where
  | turnLeft : Renders text here '<' (.move .turnLeft)
  | turnRight : Renders text here '>' (.move .turnRight)
  | forward : Renders text here '+' (.move .forward)
  | backward : Renders text here '-' (.move .backward)
  | ifFree : Renders text here '?'
      (.jumpIf .free (min (here + 2) (emittedBefore text text.length)))
  | ifWall : Renders text here '!'
      (.jumpIf .wall (min (here + 2) (emittedBefore text text.length)))
  | reference {c : Char} {place : Nat} (upper : c.isUpper = true)
      (stands : text[place]? = some c.toLower)
      (alone : ∀ other, text[other]? = some c.toLower → other = place) :
      Renders text here c (.jump (emittedBefore text place))

/-- An anchor of a coherent text stands at one place only. -/
theorem Coherent.place_eq (coherent : Coherent text) {first second : Nat} (lower : c.isLower = true)
    (at_first : text[first]? = some c) (at_second : text[second]? = some c) : first = second := by
  rcases Nat.lt_trichotomy first second with before | same | after
  · rw [coherent.anchors_once first second c before at_first at_second] at lower
    cases lower
  · exact same
  · rw [coherent.anchors_once second first c after at_second at_first] at lower
    cases lower

/-- Every symbol but the anchors has an instruction, where it stands for it. -/
theorem exists_renders (accepted : Accepted) {place : Nat} (found : accepted.text[place]? = some c)
    (emitting : emits c = true) :
    ∃ i, accepted.program.get? (emittedBefore accepted.text place) = some i ∧
      Renders accepted.text (emittedBefore accepted.text place) c i := by
  have member := List.mem_of_getElem? found
  have size := emittedBefore_of_length_le (Nat.le_refl accepted.text.length)
  rw [get?_of_compile? accepted.compile?_text found emitting]
  rcases isSymbol_iff.1 (accepted.symbols c member) with sign | lower | upper
  · simp only [List.mem_cons, List.not_mem_nil, or_false] at sign
    rcases sign with rfl | rfl | rfl | rfl | rfl | rfl
    · exact ⟨_, rfl, .turnLeft⟩
    · exact ⟨_, rfl, .turnRight⟩
    · exact ⟨_, rfl, .forward⟩
    · exact ⟨_, rfl, .backward⟩
    · exact ⟨_, rfl, size ▸ .ifFree⟩
    · exact ⟨_, rfl, size ▸ .ifWall⟩
  · rw [emits, isAnchor, isLower_iff.2 lower] at emitting
    cases emitting
  · have reference : isReference c = true := isUpper_iff.2 upper
    have stands := List.getElem?_eq_some_iff.2
      ⟨List.idxOf_lt_length_of_mem (anchorOf_mem accepted member reference), List.getElem_idxOf _⟩
    refine ⟨_, meaning?_of_isReference accepted member reference _, ?_⟩
    refine .reference reference stands fun other also => ?_
    exact accepted.coherent.place_eq (isAnchor_anchorOf reference) also stands

/-- What an accepted text is compiled to. The three passes find a meaning for every character and an
    anchor for every reference; the program has one instruction for each character that is no anchor;
    and the instruction of such a character stands at the number of those before it and is the one that
    it renders: a move, a condition over the next instruction but not past the end, or a jump to where
    the one anchor of the reference stands. -/
theorem compilation_renders_text (accepted : Accepted) :
    let text := accepted.text
    let program := accepted.program
    compileInPasses text = .ok program ∧
    program.size = emittedBefore text text.length ∧
    ∀ place c, text[place]? = some c → c.isLower = false →
      ∃ i, program.get? (emittedBefore text place) = some i ∧
        Renders text (emittedBefore text place) c i := by
  intro text program
  refine ⟨compileInPasses_eq_ok accepted, ?_, fun place c found no_anchor => ?_⟩
  · rw [emittedBefore_of_length_le (Nat.le_refl _)]
    exact size_program accepted
  · exact exists_renders accepted found (by rw [emits, isAnchor, no_anchor, Bool.not_false])

/-- A condition at the end is led back to it, and the anchor behind it names the end. -/
example : compileInPasses ['A', '+', '?', 'a'] =
    .ok ⟨[.jump 3, .move .forward, .jumpIf .free 3]⟩ := rfl

end Labyrinth.Source
