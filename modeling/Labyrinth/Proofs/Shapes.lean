import Labyrinth.Proofs.Letters
import Labyrinth.Source.Scan

/-!
# The shape of every text

`Shaped` tells the shape of a text by its places and its letters alone: the first place with an offence
decides, and without one the last character, then the references, and then the anchors. Every text has
exactly one such shape, which is the one that is found (`shape_eq_iff`). A scan that keeps only the
letters it has seen and the last condition in mind finds it too: `Minds` is what it knows of the text it
has read, and one character more keeps that (`Minds.read`).
-/

namespace Labyrinth.Source

variable {text : Source} {s : Shape}

/-! ### Every text has one shape -/

/-- The shape that a text has, told by its places and its letters. The first offence decides; without
    one it is the last character, then the references, and then the anchors. -/
inductive Shaped (text : Source) : Shape → Prop where
  | repeating {place : Nat} (first : ∀ earlier < place, Clean text earlier)
      (here : Repeats text place) : Shaped text .repeatedAnchor
  | clashing {place : Nat} (first : ∀ earlier < place, Clean text earlier)
      (here : Clashes text place) : Shaped text .adjacentConditions
  | dangling {c : Char} (clean : ∀ place, Clean text place) (last : text.getLast? = some c)
      (condition : c ∈ conditions) : Shaped text .danglingCondition
  | missing {c : Char} (clean : ∀ place, Clean text place)
      (closed : ∀ c, text.getLast? = some c → c ∉ conditions)
      (member : c ∈ text) (upper : c.isUpper = true) (absent : c.toLower ∉ text) :
      Shaped text .missingAnchor
  | unused {c : Char} (clean : ∀ place, Clean text place)
      (closed : ∀ c, text.getLast? = some c → c ∉ conditions)
      (anchored : ∀ c ∈ text, c.isUpper = true → c.toLower ∈ text)
      (member : c ∈ text) (lower : c.isLower = true) (absent : c.toUpper ∉ text) :
      Shaped text .unusedAnchor
  | sound (clean : ∀ place, Clean text place)
      (closed : ∀ c, text.getLast? = some c → c ∉ conditions)
      (anchored : ∀ c ∈ text, c.isUpper = true → c.toLower ∈ text)
      (referenced : ∀ c ∈ text, c.isLower = true → c.toUpper ∈ text) : Shaped text .sound

/-- The shape that is found is one that the text has. -/
theorem shaped_shape (text : Source) : Shaped text (shape text) := by
  unfold shape
  split
  · next found =>
    obtain ⟨place, first, ⟨here, rfl⟩ | ⟨here, rfl⟩⟩ := offence?_eq_some_iff.1 found
    · exact .repeating first here
    · exact .clashing first here
  · next none_found =>
    have clean : ∀ place, Clean text place := offence?_eq_none_iff.1 none_found
    split
    · next tail =>
      obtain ⟨c, last, condition⟩ := dangling_iff.1 tail
      exact .dangling clean last condition
    · next tail =>
      have closed := not_dangling_iff.1 tail
      cases anchored : isAnchored text with
      | false =>
        obtain ⟨c, member, upper, absent⟩ := isAnchored_eq_false_iff.1 anchored
        exact .missing clean closed member upper absent
      | true =>
        have anchored := isAnchored_iff.1 anchored
        cases referenced : isReferenced text with
        | false =>
          obtain ⟨c, member, lower, absent⟩ := isReferenced_eq_false_iff.1 referenced
          exact .unused clean closed anchored member lower absent
        | true => exact .sound clean closed anchored (isReferenced_iff.1 referenced)

/-- It is the only shape that the text has. -/
theorem shape_eq_iff : shape text = s ↔ Shaped text s := by
  refine ⟨fun same => same ▸ shaped_shape text, fun shaped => ?_⟩
  cases shaped with
  | repeating first here =>
    simp only [shape, offence?_eq_some_iff.2 ⟨_, first, .inl ⟨here, rfl⟩⟩]
  | clashing first here =>
    simp only [shape, offence?_eq_some_iff.2 ⟨_, first, .inr ⟨here, rfl⟩⟩]
  | dangling clean last condition =>
    simp only [shape, offence?_eq_none_iff.2 clean, if_pos (dangling_iff.2 ⟨_, last, condition⟩)]
  | missing clean closed member upper absent =>
    have missing := isAnchored_eq_false_iff.2 ⟨_, member, upper, absent⟩
    simp only [shape, offence?_eq_none_iff.2 clean, if_neg (not_dangling_iff.2 closed), missing]
    rfl
  | unused clean closed anchored member lower absent =>
    have unused := isReferenced_eq_false_iff.2 ⟨_, member, lower, absent⟩
    simp only [shape, offence?_eq_none_iff.2 clean, if_neg (not_dangling_iff.2 closed),
      isAnchored_iff.2 anchored, unused]
    rfl
  | sound clean closed anchored referenced =>
    simp only [shape, offence?_eq_none_iff.2 clean, if_neg (not_dangling_iff.2 closed),
      isAnchored_iff.2 anchored, isReferenced_iff.2 referenced]
    rfl

/-! ### One scan finds it -/

/-- What a scan keeps in mind after the text whose reverse is `before`. -/
structure Minds (before : List Char) (scan : Scan) : Prop where
  mem_letters : ∀ c, c ∈ scan.letters ↔ c ∈ before ∧ (isAnchor c || isReference c) = true
  afterCondition_eq : scan.afterCondition = before.head?.any isCondition

namespace Minds

variable {before : List Char} {scan : Scan}

theorem nil : Minds [] {} := ⟨fun c => by simp, rfl⟩

/-- What is written down of a character. -/
theorem note (minds : Minds before scan) (c : Char) :
    ((scan.note c).1 && isAnchor c) = (isAnchor c && before.contains c) ∧
      (scan.note c).2.afterCondition = before.head?.any isCondition ∧
      ∀ d, d ∈ (scan.note c).2.letters ↔ d ∈ c :: before ∧ (isAnchor d || isReference d) = true := by
  have known : (isAnchor c || isReference c) = true →
      scan.letters.contains c = before.contains c := by
    intro letter
    rw [Bool.eq_iff_iff, List.contains_iff_mem, List.contains_iff_mem, minds.mem_letters]
    exact and_iff_left letter
  by_cases letter : (isAnchor c || isReference c) = true
  · rw [Scan.note, if_pos letter, known letter]
    refine ⟨Bool.and_comm _ _, minds.afterCondition_eq, fun d => ?_⟩
    rw [List.mem_insert_iff, List.mem_cons, minds.mem_letters]
    constructor
    · rintro (rfl | ⟨member, letter⟩)
      · exact ⟨.inl rfl, letter⟩
      · exact ⟨.inr member, letter⟩
    · rintro ⟨rfl | member, letter⟩
      · exact .inl rfl
      · exact .inr ⟨member, letter⟩
  · obtain ⟨no_anchor, -⟩ := Bool.or_eq_false_iff.1 (Bool.eq_false_iff.2 letter)
    rw [Scan.note, if_neg letter]
    refine ⟨by rw [no_anchor]; rfl, minds.afterCondition_eq, fun d => ?_⟩
    rw [minds.mem_letters, List.mem_cons, or_and_right]
    refine (or_iff_right ?_).symm
    rintro ⟨rfl, letter⟩
    contradiction

/-- A character is read with its offence, or it is kept in mind. -/
theorem read (minds : Minds before scan) (c : Char) :
    match offenceAt? before c with
    | some offence => scan.read c = .error offence
    | none => ∃ next, scan.read c = .ok next ∧ Minds (c :: before) next := by
  obtain ⟨old, last, letters⟩ := minds.note c
  simp only [Scan.read, offenceAt?, old, last]
  by_cases repeated : (isAnchor c && before.contains c) = true
  · rw [if_pos repeated, if_pos repeated]
  · rw [if_neg repeated, if_neg repeated]
    cases condition : isCondition c with
    | false => exact ⟨_, rfl, letters, condition.symm⟩
    | true =>
      cases before.head?.any isCondition with
      | true => rfl
      | false => exact ⟨_, rfl, letters, condition.symm⟩

/-- A scan stops at the first offence, or keeps the whole text in mind. -/
theorem foldlM_read (minds : Minds before scan) (text : Source) :
    match offence? before text with
    | some offence => text.foldlM Scan.read scan = .error offence
    | none => ∃ last, text.foldlM Scan.read scan = .ok last ∧ Minds (text.reverse ++ before) last := by
  induction text generalizing before scan with
  | nil => exact ⟨scan, rfl, minds⟩
  | cons c rest ih =>
    have here := minds.read c
    rw [offence?, List.foldlM_cons]
    cases offends : offenceAt? before c with
    | some offence =>
      rw [offends] at here
      simp only [here]
      rfl
    | none =>
      rw [offends] at here
      obtain ⟨next, read, kept⟩ := here
      simp only [read, List.reverse_cons, List.append_assoc, List.singleton_append]
      exact ih kept

/-- Whether a letter of some kind lacks its partner can be asked of the letters that were noted. -/
theorem any_lacks (minds : Minds text.reverse scan) (kind : Char → Bool) (partner : Char → Char)
    (letter : ∀ c, kind c = true → (isAnchor c || isReference c) = true)
    (partner_letter : ∀ c, kind c = true → (isAnchor (partner c) || isReference (partner c)) = true) :
    (scan.letters.any fun c => kind c && !scan.letters.contains (partner c)) =
      !text.all fun c => !kind c || text.contains (partner c) := by
  have noted : ∀ c, (isAnchor c || isReference c) = true → (c ∈ scan.letters ↔ c ∈ text) := by
    intro c letter
    rw [minds.mem_letters, List.mem_reverse]
    exact and_iff_left letter
  rw [List.not_all_eq_any_not, Bool.eq_iff_iff, List.any_eq_true, List.any_eq_true]
  refine exists_congr fun c => ?_
  cases of_kind : kind c with
  | false => simp
  | true =>
    rw [noted c (letter c of_kind)]
    simp [noted (partner c) (partner_letter c of_kind)]

/-- What is kept in mind of a whole text tells its shape. -/
theorem shape_eq (minds : Minds text.reverse scan) :
    scan.shape = if text.getLast?.any isCondition then .danglingCondition
      else if !isAnchored text then .missingAnchor
      else if !isReferenced text then .unusedAnchor
      else .sound := by
  have missing := minds.any_lacks isReference anchorOf
    (fun c reference => by rw [reference, Bool.or_true])
    (fun c reference => by rw [isAnchor_anchorOf reference, Bool.true_or])
  have unused := minds.any_lacks isAnchor referenceTo
    (fun c anchor => by rw [anchor, Bool.true_or])
    (fun c anchor => by rw [isReference_referenceTo anchor, Bool.or_true])
  rw [Scan.shape, minds.afterCondition_eq, List.head?_reverse, missing, unused]
  rfl

end Minds

/-- The scan finds the shape of every text. -/
theorem shapeInOneScan_eq_shape (text : Source) : shapeInOneScan text = shape text := by
  have scanned := Minds.nil.foldlM_read text
  unfold shapeInOneScan shape
  cases found : offence? [] text with
  | some offence =>
    rw [found] at scanned
    simp only [scanned]
  | none =>
    rw [found] at scanned
    obtain ⟨last, read, minds⟩ := scanned
    rw [List.append_nil] at minds
    simp only [read, minds.shape_eq]

/-- The shape of a text, whatever characters it has: that of its first offence, or else what its last
    character, its references and its anchors make of it. It is found in one scan. -/
theorem shape_exact (text : Source) :
    (∀ s, shape text = s ↔ Shaped text s) ∧ shapeInOneScan text = shape text :=
  ⟨fun _ => shape_eq_iff, shapeInOneScan_eq_shape text⟩

/-- Of two offences the first one decides. -/
example : shape ['a', '!', '?', 'a'] = .adjacentConditions ∧
    shape ['a', 'a', '!', '?'] = .repeatedAnchor := by decide

end Labyrinth.Source
