import Labyrinth.Source.Shape

/-!
# Offences in a text

The scan for the shape of a text keeps the text it has read, reversed. Here its verdict is said by
places instead: `Repeats` and `Clashes` name the two offences of a place. What a scan finds is the
offence of the first place that has one (`offence?_eq_some_iff`), and a scan without a find is a text
without an offence (`offence?_eq_none_iff`). With it a text may run exactly when it is `Coherent`, and
of such a text the shape tells whether every anchor is asked for.
-/

namespace Labyrinth.Source

variable {text : Source} {place : Nat} {c : Char} {s : Shape}

/-- The two signs that look ahead. -/
def conditions : List Char := ['?', '!']

theorem isCondition_iff : isCondition c = true ↔ c ∈ conditions := by
  unfold isCondition sensed?
  split <;> simp_all [conditions]

/-! ### The offences of a place -/

/-- The character at a place is an anchor that the text has before. -/
def Repeats (text : Source) (place : Nat) : Prop :=
  ∃ c, text[place]? = some c ∧ c.isLower = true ∧ ∃ earlier < place, text[earlier]? = some c

/-- The characters at a place and just before it are both conditions. -/
def Clashes (text : Source) (place : Nat) : Prop :=
  ∃ before a b, place = before + 1 ∧ text[before]? = some a ∧ text[place]? = some b ∧
    a ∈ conditions ∧ b ∈ conditions

/-- No offence at a place. -/
def Clean (text : Source) (place : Nat) : Prop := ¬Repeats text place ∧ ¬Clashes text place

theorem mem_take_iff : c ∈ text.take place ↔ ∃ earlier < place, text[earlier]? = some c := by
  rw [List.mem_iff_getElem?]
  constructor
  · rintro ⟨i, found⟩
    rw [List.getElem?_take] at found
    split at found
    · next low => exact ⟨i, low, found⟩
    · cases found
  · rintro ⟨i, low, found⟩
    exact ⟨i, by rw [List.getElem?_take_of_lt low, found]⟩

/-- The last character of what was read stands just before the next one. -/
theorem getLast?_take_eq_some_iff {d : Char} (h : place < text.length) :
    (text.take place).getLast? = some d ↔ ∃ before, place = before + 1 ∧ text[before]? = some d := by
  cases place with
  | zero => simp
  | succ before =>
    have inside : before < text.length := Nat.lt_of_succ_lt h
    simp [List.getLast?_take, List.getElem?_eq_getElem inside]

theorem repeats_iff (found : text[place]? = some c) :
    Repeats text place ↔ (isAnchor c && (text.take place).reverse.contains c) = true := by
  rw [Bool.and_eq_true, List.contains_reverse, List.contains_iff_mem, mem_take_iff]
  constructor
  · rintro ⟨d, here, lower, earlier⟩
    obtain rfl : c = d := Option.some.inj (found.symm.trans here)
    exact ⟨lower, earlier⟩
  · rintro ⟨lower, earlier⟩
    exact ⟨c, found, lower, earlier⟩

theorem clashes_iff (found : text[place]? = some c) :
    Clashes text place ↔
      (isCondition c && (text.take place).reverse.head?.any isCondition) = true := by
  obtain ⟨inside, -⟩ := List.getElem?_eq_some_iff.1 found
  rw [Bool.and_eq_true, List.head?_reverse, isCondition_iff, Option.any_eq_true]
  constructor
  · rintro ⟨before, a, b, step, present, here, first, second⟩
    obtain rfl : c = b := Option.some.inj (found.symm.trans here)
    exact ⟨second, a, (getLast?_take_eq_some_iff inside).2 ⟨before, step, present⟩,
      isCondition_iff.2 first⟩
  · rintro ⟨second, a, last, first⟩
    obtain ⟨before, step, present⟩ := (getLast?_take_eq_some_iff inside).1 last
    exact ⟨before, a, c, step, present, found, isCondition_iff.1 first, second⟩

/-- No condition is an anchor. -/
theorem not_isAnchor_of_isCondition (condition : isCondition c = true) : isAnchor c = false := by
  rcases List.mem_cons.1 (isCondition_iff.1 condition) with rfl | rest
  · rfl
  · obtain rfl := List.mem_singleton.1 rest
    rfl

/-- The scan objects to a character for one of the two offences of its place. -/
theorem offenceAt?_reverse_eq_none_iff (found : text[place]? = some c) :
    offenceAt? (text.take place).reverse c = none ↔ Clean text place := by
  rw [Clean, repeats_iff found, clashes_iff found, offenceAt?]
  split
  · next repeated => exact iff_of_false nofun fun clean => clean.1 repeated
  · next fresh =>
    split
    · next clash => exact iff_of_false nofun fun clean => clean.2 clash
    · next apart => exact iff_of_true rfl ⟨fresh, apart⟩

/-- The offence that a place is found to have. -/
theorem offenceAt?_reverse_eq_some_iff (found : text[place]? = some c) :
    offenceAt? (text.take place).reverse c = some s ↔
      Repeats text place ∧ s = .repeatedAnchor ∨ Clashes text place ∧ s = .adjacentConditions := by
  rw [offenceAt?]
  split
  · next repeated =>
    have apart : ¬Clashes text place := by
      rw [clashes_iff found, Bool.and_eq_true]
      rintro ⟨condition, -⟩
      rw [not_isAnchor_of_isCondition condition] at repeated
      cases repeated
    simp [(repeats_iff found).2 repeated, apart, eq_comm]
  · next fresh =>
    have single := mt (repeats_iff found).1 fresh
    split
    · next clash => simp [single, (clashes_iff found).2 clash, eq_comm]
    · next apart => simp [single, mt (clashes_iff found).1 apart]

/-! ### The first offence -/

/-- A scan finds nothing exactly when it objects to no character after those before it. -/
theorem offence?_eq_none_iff_offenceAt? {before : List Char} :
    offence? before text = none ↔
      ∀ i c, text[i]? = some c → offenceAt? ((text.take i).reverse ++ before) c = none := by
  induction text generalizing before with
  | nil => simp [offence?]
  | cons c rest ih =>
    rw [offence?, Option.or_eq_none_iff, ih]
    constructor
    · rintro ⟨here, later⟩ i d found
      cases i with
      | zero =>
        obtain rfl : c = d := by simpa using found
        simpa using here
      | succ i => simpa using later i d (by simpa using found)
    · intro all
      refine ⟨by simpa using all 0 c, fun i d found => ?_⟩
      simpa using all (i + 1) d (by simpa using found)

/-- A text passes the scan exactly when none of its places has an offence. -/
theorem offence?_eq_none_iff :
    offence? [] text = none ↔ ∀ place, Clean text place := by
  rw [offence?_eq_none_iff_offenceAt?]
  constructor
  · intro passes place
    cases found : text[place]? with
    | none =>
      refine ⟨?_, ?_⟩
      · rintro ⟨c, present, -⟩
        rw [found] at present
        cases present
      · rintro ⟨-, -, b, -, -, present, -⟩
        rw [found] at present
        cases present
    | some c =>
      exact (offenceAt?_reverse_eq_none_iff found).1 (by simpa using passes place c found)
  · intro clean i c found
    rw [List.append_nil]
    exact (offenceAt?_reverse_eq_none_iff found).2 (clean i)

/-- What a scan finds is what it objects to first. -/
theorem offence?_eq_some_iff_offenceAt? {before : List Char} :
    offence? before text = some s ↔ ∃ i c, text[i]? = some c ∧
      offenceAt? ((text.take i).reverse ++ before) c = some s ∧
      ∀ j < i, ∀ d, text[j]? = some d → offenceAt? ((text.take j).reverse ++ before) d = none := by
  induction text generalizing before with
  | nil => simp [offence?]
  | cons c rest ih =>
    rw [offence?, Option.or_eq_some_iff, ih]
    constructor
    · rintro (here | ⟨none_here, i, d, found, offends, earlier⟩)
      · exact ⟨0, c, rfl, here, nofun⟩
      · refine ⟨i + 1, d, found, by simpa using offends, fun j less e present => ?_⟩
        cases j with
        | zero => cases present; exact none_here
        | succ j => simpa using earlier j (Nat.lt_of_succ_lt_succ less) e present
    · rintro ⟨i, d, found, offends, earlier⟩
      cases i with
      | zero => cases found; exact .inl offends
      | succ i =>
        refine .inr ⟨earlier 0 (Nat.zero_lt_succ i) c rfl, i, d, found, by simpa using offends, ?_⟩
        intro j less e present
        simpa using earlier (j + 1) (Nat.succ_lt_succ less) e present

/-- The first offence of a text is that of the first place that has one. -/
theorem offence?_eq_some_iff :
    offence? [] text = some s ↔ ∃ place, (∀ earlier < place, Clean text earlier) ∧
      (Repeats text place ∧ s = .repeatedAnchor ∨ Clashes text place ∧ s = .adjacentConditions) := by
  rw [offence?_eq_some_iff_offenceAt?]
  simp only [List.append_nil]
  constructor
  · rintro ⟨place, c, found, offends, earlier⟩
    refine ⟨place, fun j less => ?_, (offenceAt?_reverse_eq_some_iff found).1 offends⟩
    obtain ⟨inside, -⟩ := List.getElem?_eq_some_iff.1 found
    have present := List.getElem?_eq_getElem (Nat.lt_trans less inside)
    exact (offenceAt?_reverse_eq_none_iff present).1 (earlier j less _ present)
  · rintro ⟨place, earlier, here⟩
    obtain ⟨c, found⟩ : ∃ c, text[place]? = some c := by
      rcases here with ⟨⟨c, found, -⟩, -⟩ | ⟨⟨-, -, c, -, -, found, -⟩, -⟩ <;> exact ⟨c, found⟩
    refine ⟨place, c, found, (offenceAt?_reverse_eq_some_iff found).2 here, fun j less d present => ?_⟩
    exact (offenceAt?_reverse_eq_none_iff present).2 (earlier j less)

/-! ### Texts that may run -/

/-- A text whose anchors, references and conditions fit together. -/
structure Coherent (text : Source) : Prop where
  /-- No anchor stands at two places. -/
  anchors_once : ∀ (first second : Nat) (c : Char), first < second → text[first]? = some c →
    text[second]? = some c → c.isLower = false
  /-- No condition follows a condition. -/
  conditions_apart : ∀ (place : Nat) (a b : Char), text[place]? = some a → text[place + 1]? = some b →
    a ∈ conditions → b ∉ conditions
  /-- The last character is no condition. -/
  not_dangling : ∀ c, text.getLast? = some c → c ∉ conditions
  /-- Every reference has its anchor. -/
  anchored : ∀ c ∈ text, c.isUpper = true → c.toLower ∈ text

theorem isAnchored_iff :
    isAnchored text = true ↔ ∀ c ∈ text, c.isUpper = true → c.toLower ∈ text := by
  simp [isAnchored, isReference, anchorOf, ← Bool.not_eq_true, ← Decidable.imp_iff_not_or]

theorem isAnchored_eq_false_iff :
    isAnchored text = false ↔ ∃ c ∈ text, c.isUpper = true ∧ c.toLower ∉ text := by
  simp [isAnchored, isReference, anchorOf]

theorem isReferenced_iff :
    isReferenced text = true ↔ ∀ c ∈ text, c.isLower = true → c.toUpper ∈ text := by
  simp [isReferenced, isAnchor, referenceTo, ← Bool.not_eq_true, ← Decidable.imp_iff_not_or]

theorem isReferenced_eq_false_iff :
    isReferenced text = false ↔ ∃ c ∈ text, c.isLower = true ∧ c.toUpper ∉ text := by
  simp [isReferenced, isAnchor, referenceTo]

theorem dangling_iff :
    text.getLast?.any isCondition = true ↔ ∃ c, text.getLast? = some c ∧ c ∈ conditions := by
  cases text.getLast? <;> simp [isCondition_iff]

theorem not_dangling_iff :
    ¬text.getLast?.any isCondition = true ↔ ∀ c, text.getLast? = some c → c ∉ conditions := by
  simp only [dangling_iff, not_exists, not_and]

/-- The parts of a text that fit together leave only the anchors that nothing asks for. -/
theorem shape_of_coherent (coherent : Coherent text) :
    shape text = if isReferenced text then .sound else .unusedAnchor := by
  have clean : offence? [] text = none := by
    refine offence?_eq_none_iff.2 fun place => ⟨?_, ?_⟩
    · rintro ⟨c, at_place, lower, earlier, order, at_earlier⟩
      rw [coherent.anchors_once earlier place c order at_earlier at_place] at lower
      cases lower
    · rintro ⟨before, a, b, rfl, at_before, at_place, first, second⟩
      exact coherent.conditions_apart before a b at_before at_place first second
  have tail := not_dangling_iff.2 coherent.not_dangling
  have anchored := isAnchored_iff.2 coherent.anchored
  simp only [shape, clean, if_neg tail, anchored]
  cases isReferenced text <;> rfl

/-- A text may run exactly when it is coherent. -/
theorem isFatal_shape_eq_false_iff : (shape text).isFatal = false ↔ Coherent text := by
  constructor
  · intro runs
    have anchored := isAnchored_of_shape runs
    unfold shape at runs
    split at runs
    · next found => rw [isFatal_of_offence? found] at runs; cases runs
    · next none_found =>
      have clean := offence?_eq_none_iff.1 none_found
      split at runs
      · cases runs
      · next tail =>
        refine ⟨?_, ?_, not_dangling_iff.1 tail, isAnchored_iff.1 anchored⟩
        · intro first second c order at_first at_second
          refine Bool.eq_false_iff.2 fun lower => ?_
          exact (clean second).1 ⟨c, at_second, lower, first, order, at_first⟩
        · intro place a b at_place after first second
          exact (clean (place + 1)).2 ⟨place, a, b, rfl, at_place, after, first, second⟩
  · intro coherent
    rw [shape_of_coherent coherent]
    cases isReferenced text <;> rfl

/-- A text that may run has an unused anchor exactly when nothing asks for one of its anchors. -/
theorem shape_eq_unusedAnchor_iff (coherent : Coherent text) :
    shape text = .unusedAnchor ↔ ∃ c ∈ text, c.isLower = true ∧ c.toUpper ∉ text := by
  rw [shape_of_coherent coherent, ← isReferenced_eq_false_iff]
  cases isReferenced text <;> decide

end Labyrinth.Source
