import Labyrinth.Proofs.Acceptance

/-!
# The letters of the alphabet

Each of the twenty-six letters is an anchor and a reference. Numbered by their places in the alphabet
they are `anchorAt` and `referenceAt`; what is said of a letter is said of these two, and is then a
matter of twenty-six cases.
-/

namespace Labyrinth.Source

/-- The anchor at a place of the alphabet. -/
def anchorAt (i : Fin 26) : Char := Char.ofNat ('a'.toNat + i)

/-- The reference at a place of the alphabet. -/
def referenceAt (i : Fin 26) : Char := Char.ofNat ('A'.toNat + i)

variable {c : Char}

/-! ### The two letters of a place -/

@[simp] theorem isAnchor_anchorAt (i : Fin 26) : isAnchor (anchorAt i) = true := by decide +revert

@[simp] theorem isReference_anchorAt (i : Fin 26) : isReference (anchorAt i) = false := by
  decide +revert

@[simp] theorem isAnchor_referenceAt (i : Fin 26) : isAnchor (referenceAt i) = false := by
  decide +revert

@[simp] theorem isReference_referenceAt (i : Fin 26) : isReference (referenceAt i) = true := by
  decide +revert

@[simp] theorem anchorOf_referenceAt (i : Fin 26) : anchorOf (referenceAt i) = anchorAt i := by
  decide +revert

@[simp] theorem referenceTo_anchorAt (i : Fin 26) : referenceTo (anchorAt i) = referenceAt i := by
  decide +revert

/-- No letter is a condition. -/
@[simp] theorem sensed?_anchorAt (i : Fin 26) : sensed? (anchorAt i) = none := by decide +revert

@[simp] theorem sensed?_referenceAt (i : Fin 26) : sensed? (referenceAt i) = none := by
  decide +revert

/-- No letter is a move. -/
@[simp] theorem ofSymbol?_anchorAt (i : Fin 26) : Move.ofSymbol? (anchorAt i) = none := by
  decide +revert

@[simp] theorem ofSymbol?_referenceAt (i : Fin 26) : Move.ofSymbol? (referenceAt i) = none := by
  decide +revert

/-! ### Which characters are letters -/

theorem isAnchor_iff : isAnchor c = true ↔ ∃ i, c = anchorAt i := by
  constructor
  · intro lower
    obtain ⟨low, high⟩ := isLower_iff.1 lower
    have low : 97 ≤ c.toNat := low
    have high : c.toNat ≤ 122 := high
    refine ⟨⟨c.toNat - 97, by omega⟩, ?_⟩
    have back : 'a'.toNat + (c.toNat - 97) = c.toNat := Nat.add_sub_cancel' low
    rw [anchorAt, back, Char.ofNat_toNat]
  · rintro ⟨i, rfl⟩
    exact isAnchor_anchorAt i

theorem isReference_iff : isReference c = true ↔ ∃ i, c = referenceAt i := by
  constructor
  · intro upper
    obtain ⟨low, high⟩ := isUpper_iff.1 upper
    have low : 65 ≤ c.toNat := low
    have high : c.toNat ≤ 90 := high
    refine ⟨⟨c.toNat - 65, by omega⟩, ?_⟩
    have back : 'A'.toNat + (c.toNat - 65) = c.toNat := Nat.add_sub_cancel' low
    rw [referenceAt, back, Char.ofNat_toNat]
  · rintro ⟨i, rfl⟩
    exact isReference_referenceAt i

/-- A character is an anchor, a reference, or no letter. -/
theorem letter_cases (c : Char) :
    (∃ i, c = anchorAt i) ∨ (∃ i, c = referenceAt i) ∨ isAnchor c = false ∧ isReference c = false := by
  cases anchor : isAnchor c with
  | true => exact .inl (isAnchor_iff.1 anchor)
  | false =>
    cases reference : isReference c with
    | true => exact .inr (.inl (isReference_iff.1 reference))
    | false => exact .inr (.inr ⟨rfl, rfl⟩)

/-- No anchor is a reference. -/
theorem isReference_of_isAnchor (anchor : isAnchor c = true) : isReference c = false := by
  obtain ⟨i, rfl⟩ := isAnchor_iff.1 anchor
  exact isReference_anchorAt i

/-- What a reference asks for is an anchor. -/
theorem isAnchor_anchorOf (reference : isReference c = true) : isAnchor (anchorOf c) = true := by
  obtain ⟨i, rfl⟩ := isReference_iff.1 reference
  rw [anchorOf_referenceAt, isAnchor_anchorAt]

/-- What asks for an anchor is a reference. -/
theorem isReference_referenceTo (anchor : isAnchor c = true) :
    isReference (referenceTo c) = true := by
  obtain ⟨i, rfl⟩ := isAnchor_iff.1 anchor
  rw [referenceTo_anchorAt, isReference_referenceAt]

end Labyrinth.Source
