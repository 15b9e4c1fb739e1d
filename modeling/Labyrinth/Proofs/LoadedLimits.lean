import Labyrinth.Proofs.Filling
import Labyrinth.Proofs.RoundTrip

/-!
# Limits that are loaded

Limits are loaded from an object that has both, one, or neither of them among members of any other name.
What becomes of a text depends on the two members only: each is a count if it is written as one
(`WritesCount`), and then the limits are what the members give (`GivesLimits`), with the default for what
is not there. A limit of no steps is refused after that, and whatever else stands for a limit before.
-/

namespace Labyrinth.Wire

open Json (Codec Entry Form Holds Item Joins Key Numeral Reading Route Spells maxWord ofDigits printText
  separated spellsString_printText)

/-- A count as it is written: digits without sign, point and exponent, for a number that fits in a word. -/
inductive WritesCount : Reading → Nat → Prop where
  | digits {digits : List Char} (word : ofDigits digits ≤ maxWord) :
      WritesCount (.number ⟨false, digits, [], none⟩) (ofDigits digits)

/-- What members give for a limit: the count that stands for its name, or else its default. -/
def Gives (members : List (Key × Reading)) (name : String) (default n : Nat) : Prop :=
  (∃ reading, (.text (some name), reading) ∈ members ∧ WritesCount reading n) ∨
    (∀ reading, (.text (some name), reading) ∉ members) ∧ n = default

/-- Limits that members give, with the default for each that is not there. -/
structure GivesLimits (members : List (Key × Reading)) (limits : Limits) : Prop where
  sourceLength : Gives members "max_source_len" 32 limits.sourceLength
  steps : Gives members "step_limit" 10000 limits.steps

/-- What stands for a limit among the members is written as a count. -/
def WellTyped (members : List (Key × Reading)) : Prop :=
  ∀ name ∈ ["max_source_len", "step_limit"], ∀ reading, (.text (some name), reading) ∈ members →
    ∃ n, WritesCount reading n

/-- Among the members there is a limit of no steps. -/
def GivesNoSteps (members : List (Key × Reading)) : Prop :=
  ∃ reading, (.text (some "step_limit"), reading) ∈ members ∧ WritesCount reading 0

/-- Members whose keys have names, no two the same. -/
structure Distinct (members : List (Key × Reading)) : Prop where
  named : ∀ member ∈ members, ∃ name, member.1 = .text (some name)
  once : (members.map Prod.fst).Nodup

variable {members : List (Key × Reading)} {name : String} {default n m : Nat} {reading : Reading}
  {limits : Limits} {text : List Char}

/-! ### Counts -/

theorem WritesCount.eq (first : WritesCount reading n) (second : WritesCount reading m) : n = m := by
  cases first
  cases second
  rfl

/-- A numeral for an integer that is not negative is written as a count: minus zero is no integer. -/
theorem writesCount_of_whole? {numeral : Numeral} {i : Int} (whole : numeral.whole? = some i)
    (natural : 0 ≤ i) : WritesCount (.number numeral) i.toNat := by
  obtain ⟨negative, digits, fraction, exponent⟩ := numeral
  rw [Numeral.whole?] at whole
  dsimp only at whole
  split at whole
  · cases whole
  · next plain =>
    obtain ⟨rfl, rfl⟩ : fraction = [] ∧ exponent = none := by simpa using plain
    cases negative with
    | true =>
      rw [if_pos rfl, Option.ite_none_right_eq_some] at whole
      obtain ⟨sizes, below⟩ := whole
      have positive : 0 < ofDigits digits := of_decide_eq_true (Bool.and_eq_true_iff.1 sizes).1
      have same : -(ofDigits digits : Int) = i := Option.some.inj below
      omega
    | false =>
      rw [if_neg Bool.false_ne_true, Option.ite_none_right_eq_some] at whole
      obtain ⟨word, same⟩ := whole
      cases same
      exact .digits word

/-- What is decoded as a count is written as one. -/
theorem decode_count_eq_ok_iff {route : Route} :
    Codec.count.decode route reading = .ok n ↔ WritesCount reading n := by
  refine Json.map_eq_ok_iff.trans ⟨?_, ?_⟩
  · rintro ⟨i, decoded, rfl⟩
    cases reading with
    | number numeral =>
      simp only [Codec.intBetween] at decoded
      split at decoded
      · next whole =>
        split at decoded
        · next inside =>
          cases decoded
          exact writesCount_of_whole? whole inside.1
        · cases decoded
      · cases decoded
    | _ => cases decoded
  · rintro @⟨digits, word⟩
    have whole : (Numeral.mk false digits [] none).whole? = some (ofDigits digits : Int) := by
      simp [Numeral.whole?, word]
    refine ⟨ofDigits digits, ?_, Int.toNat_natCast _⟩
    simp only [Codec.intBetween, whole]
    exact if_pos ⟨Int.natCast_nonneg _, Int.ofNat_le.2 word⟩

/-! ### Members -/

/-- Where no key is repeated, a field with a default is filled by what the members give. -/
theorem filledBy_optional_iff {β : Type} {rest : Form β} {values : β} (distinct : Distinct members) :
    (optional name .count default rest).FilledBy .inOrder members (n, values) ↔
      Gives members name default n ∧ rest.FilledBy .inOrder members values := by
  rw [optional, Form.FilledBy]
  refine and_congr_left fun _ => ⟨?_, ?_⟩
  · rintro (⟨absent, fallback⟩ | ⟨-, reading, only, decoded⟩)
    · refine .inr ⟨fun reading present => ?_, (Option.some.inj fallback).symm⟩
      have entry := Json.mem_entriesOf_iff.2 present
      rw [absent] at entry
      cases entry
    · have present := Json.mem_entriesOf_iff.1 (only ▸ List.mem_singleton_self reading)
      exact .inl ⟨reading, present, decode_count_eq_ok_iff.1 decoded⟩
  · rintro (⟨reading, present, written⟩ | ⟨absent, rfl⟩)
    · exact .inr ⟨rfl, reading, Json.entriesOf_of_mem distinct.once present,
        decode_count_eq_ok_iff.2 written⟩
    · refine .inl ⟨Json.entriesOf_eq_nil ?_, rfl⟩
      rintro ⟨key, reading⟩ present rfl
      exact absent reading present

/-- An object is decoded to the limits that its members give, whatever else it holds. -/
theorem decodeText_limits_eq_ok_iff (holds : Holds text (.object members .closed))
    (distinct : Distinct members) :
    Wire.limits.decodeText .inOrder text = .ok limits ↔ GivesLimits members limits := by
  rw [holds.decodeText_eq]
  refine Json.map_eq_ok_iff.trans ⟨?_, fun gives => ?_⟩
  · rintro ⟨⟨sourceLength, steps, ⟨⟩⟩, filled, rfl⟩
    obtain ⟨-, -, given⟩ := (Form.fill_eq_ok_iff (by decide)).1 filled
    rw [filledBy_optional_iff distinct, filledBy_optional_iff distinct] at given
    exact ⟨given.1, given.2.1⟩
  · refine ⟨(limits.sourceLength, limits.steps, ()), (Form.fill_eq_ok_iff (by decide)).2 ?_, rfl⟩
    refine ⟨rfl, fun member present => ?_, ?_⟩
    · obtain ⟨name, named⟩ := distinct.named member present
      exact ⟨name, named, fun _ => holds.skim_member member present⟩
    · rw [filledBy_optional_iff distinct, filledBy_optional_iff distinct]
      exact ⟨gives.sourceLength, gives.steps, trivial⟩

/-! ### What members give -/

theorem Distinct.eq_of_mem (distinct : Distinct members) {key : Key} {other : Reading}
    (present : (key, reading) ∈ members) (also : (key, other) ∈ members) : reading = other := by
  have only := Json.entriesOf_of_mem distinct.once present
  rw [Json.entriesOf_of_mem distinct.once also] at only
  exact (List.cons.inj only).1.symm

/-- A limit is given by distinct members unless something else than a count stands for it. -/
theorem Distinct.exists_gives_iff (distinct : Distinct members) :
    (∃ n, Gives members name default n) ↔
      ∀ reading, (.text (some name), reading) ∈ members → ∃ n, WritesCount reading n := by
  constructor
  · rintro ⟨n, ⟨reading, present, written⟩ | ⟨absent, -⟩⟩ other also
    · exact ⟨n, distinct.eq_of_mem present also ▸ written⟩
    · exact absurd also (absent other)
  · intro typed
    by_cases present : ∃ reading, (.text (some name), reading) ∈ members
    · obtain ⟨reading, present⟩ := present
      obtain ⟨n, written⟩ := typed reading present
      exact ⟨n, .inl ⟨reading, present, written⟩⟩
    · exact ⟨default, .inr ⟨not_exists.1 present, rfl⟩⟩

theorem Distinct.exists_givesLimits_iff (distinct : Distinct members) :
    (∃ limits, GivesLimits members limits) ↔ WellTyped members := by
  rw [WellTyped, List.forall_mem_cons, List.forall_mem_singleton, ← distinct.exists_gives_iff,
    ← distinct.exists_gives_iff]
  constructor
  · rintro ⟨limits, sourceLength, steps⟩
    exact ⟨⟨_, sourceLength⟩, _, steps⟩
  · rintro ⟨⟨sourceLength, first⟩, steps, second⟩
    exact ⟨⟨sourceLength, steps⟩, first, second⟩

/-- No steps are given only if they are among the members: the default is another. -/
theorem GivesLimits.givesNoSteps_iff (gives : GivesLimits members limits) (distinct : Distinct members) :
    GivesNoSteps members ↔ limits.steps = 0 := by
  obtain ⟨reading, present, written⟩ | ⟨absent, other⟩ := gives.steps
  · constructor
    · rintro ⟨none, also, zero⟩
      exact written.eq (distinct.eq_of_mem also present ▸ zero)
    · intro zero
      exact ⟨reading, present, zero ▸ written⟩
  · constructor
    · rintro ⟨none, also, -⟩
      exact absurd also (absent none)
    · intro zero
      rw [other] at zero
      cases zero

/-! ### Loading -/

theorem loadLimits_of_ok (decoded : Wire.limits.decodeText .inOrder text = .ok limits) :
    loadLimits text = if limits.steps = 0 then .error (.unfit .noSteps) else .ok limits := by
  rw [loadLimits, decoded]
  dsimp only
  by_cases none : limits.steps = 0
  · rw [Limits.checked, if_pos none, if_pos none]
  · rw [Limits.checked, if_neg none, if_neg none]

theorem loadLimits_of_error {failure : Json.Failure}
    (failed : Wire.limits.decodeText .inOrder text = .error failure) :
    loadLimits text = .error (.unreadable failure) := by
  rw [loadLimits, failed]

/-- Limits are loaded if they are decoded and leave a run at least one step. -/
theorem loadLimits_eq_ok_iff :
    loadLimits text = .ok limits ↔
      Wire.limits.decodeText .inOrder text = .ok limits ∧ limits.steps ≠ 0 := by
  cases decoded : Wire.limits.decodeText .inOrder text with
  | error failure => simp [loadLimits_of_error decoded]
  | ok found =>
    rw [loadLimits_of_ok decoded]
    constructor
    · intro loaded
      split at loaded
      · cases loaded
      · next some => cases loaded; exact ⟨rfl, some⟩
    · rintro ⟨same, some⟩
      cases same
      exact if_neg some

/-- Limits are unfit if they are decoded and leave a run no step. -/
theorem loadLimits_eq_unfit_iff :
    loadLimits text = .error (.unfit .noSteps) ↔
      ∃ limits, Wire.limits.decodeText .inOrder text = .ok limits ∧ limits.steps = 0 := by
  cases decoded : Wire.limits.decodeText .inOrder text with
  | error failure => simp [loadLimits_of_error decoded]
  | ok found => simp [loadLimits_of_ok decoded]

/-- A text is unreadable if no limits are decoded from it. -/
theorem loadLimits_eq_unreadable_iff :
    (∃ failure, loadLimits text = .error (.unreadable failure)) ↔
      ¬∃ limits, Wire.limits.decodeText .inOrder text = .ok limits := by
  cases decoded : Wire.limits.decodeText .inOrder text with
  | error failure => simp [loadLimits_of_error decoded]
  | ok found =>
    rw [loadLimits_of_ok decoded]
    refine iff_of_false ?_ (not_not_intro ⟨found, rfl⟩)
    rintro ⟨failure, unreadable⟩
    split at unreadable <;> cases unreadable

/-- Loading looks only at the two limits of a well-formed object. It succeeds if they are well typed and
    there is no limit of no steps, with what the members give and the default for the rest; it finds the
    limits unfit if they are well typed and there is one; and the text is unreadable if they are not well
    typed. So limits that are written out are loaded again, and none that are loaded leave a run no step. -/
theorem limits_load_exactly :
    (∀ text members, Holds text (.object members .closed) → Distinct members →
      ((∃ limits, loadLimits text = .ok limits) ↔ WellTyped members ∧ ¬GivesNoSteps members) ∧
      (∀ limits, loadLimits text = .ok limits ↔ GivesLimits members limits ∧ limits.steps ≠ 0) ∧
      (loadLimits text = .error (.unfit .noSteps) ↔ WellTyped members ∧ GivesNoSteps members) ∧
      ((∃ failure, loadLimits text = .error (.unreadable failure)) ↔ ¬WellTyped members)) ∧
    (∀ limits : Limits, limits.FitsWords → 1 ≤ limits.steps →
      loadLimits (Wire.limits.encodeText limits) = .ok limits) ∧
    ∀ text limits, loadLimits text = .ok limits → limits.steps ≠ 0 := by
  refine ⟨fun text members holds distinct => ?_, fun limits fits some => ?_, fun text limits loaded => ?_⟩
  · have decoded : ∀ limits, Wire.limits.decodeText .inOrder text = .ok limits ↔
        GivesLimits members limits := fun _ => decodeText_limits_eq_ok_iff holds distinct
    simp only [loadLimits_eq_ok_iff, loadLimits_eq_unfit_iff, loadLimits_eq_unreadable_iff, decoded]
    refine ⟨?_, fun _ => trivial, ?_, not_congr distinct.exists_givesLimits_iff⟩
    · rw [← distinct.exists_givesLimits_iff, ← exists_and_right]
      exact exists_congr fun limits => and_congr_right fun gives =>
        not_congr (gives.givesNoSteps_iff distinct).symm
    · rw [← distinct.exists_givesLimits_iff, ← exists_and_right]
      exact exists_congr fun limits => and_congr_right fun gives =>
        (gives.givesNoSteps_iff distinct).symm
  · have decoded : Wire.limits.decodeText .inOrder (Wire.limits.encodeText limits) = .ok limits :=
      faithful_limits.decodeText_encodeText .inOrder fits
    exact loadLimits_eq_ok_iff.2 ⟨decoded, Nat.ne_of_gt some⟩
  · exact (loadLimits_eq_ok_iff.1 loaded).2

/-- Limits among members of other names: blanks, a numeral past all doubles, half a surrogate pair, and a
    limit of no steps further in. -/
theorem limits_load_exactly_among_others :
    let far : Numeral := ⟨false, ['1'], [], some ⟨false, ['9', '9', '9']⟩⟩
    let inner : Reading := .object [(.text (some "step_limit"), .number ⟨false, ['0'], [], none⟩)] .closed
    let members : List (Key × Reading) :=
      [(.text (some "more"), .array [.number far, .text none, inner] .closed),
        (.text (some "step_limit"), .number ⟨false, ['7'], [], none⟩)]
    let text := " \x7b\"more\": [1E999 ,\"\\uD800\", \x7b\"step_limit\":0\x7d],\n\"step_limit\" : 7\x7d".toList
    Holds text (.object members .closed) ∧ Distinct members ∧ loadLimits text = .ok ⟨32, 7⟩ ∧
      loadLimits (Wire.limits.encodeText ⟨32, 7⟩) = .ok ⟨32, 7⟩ := by
  intro far inner members text
  have far_spelled : Spells (.number far) "1E999".toList :=
    .number (.parts (.inr ⟨⟨by decide, List.all_eq_true.1 rfl⟩, by decide⟩) .none
      (.power (by decide) .none ⟨by decide, List.all_eq_true.1 rfl⟩))
  have alone : ∀ cs, ¬Joins [.unit 0xd800] cs := by
    rintro cs (_ | _ | ⟨no_half, -⟩)
    omega
  have half : Spells (.text none) "\"\\uD800\"".toList :=
    .text (.torn (.cons (.unit (by decide)) .nil) alone)
  have plain : Json.Value.Plain 1 (.object [("step_limit", .int 0)]) :=
    .object (List.forall_mem_singleton.2 (.int (by decide)))
  have inner_spelled : Spells inner "\x7b\"step_limit\":0\x7d".toList := plain.spells_print
  let items : List Item :=
    [⟨.number far, [], "1E999".toList, [' '], by decide, by decide⟩,
      ⟨.text none, [], "\"\\uD800\"".toList, [], by decide, by decide⟩,
      ⟨inner, [' '], "\x7b\"step_limit\":0\x7d".toList, [], by decide, by decide⟩]
  have array := @Spells.array items (List.cons_ne_nil _ _) (List.forall_mem_cons.2 ⟨far_spelled,
    List.forall_mem_cons.2 ⟨half, List.forall_mem_singleton.2 inner_spelled⟩⟩)
  have seven : Spells (.number ⟨false, ['7'], [], none⟩) ['7'] :=
    .number (Numeral.spells_ofInt 7)
  let more : Entry :=
    ⟨⟨.array (items.map Item.value) .closed, [' '], '[' :: (separated (items.map Item.chars) ++ [']']),
      [], by decide, by decide⟩, some "more", [], printText "more", [], by decide, by decide,
      spellsString_printText "more"⟩
  let steps : Entry :=
    ⟨⟨.number ⟨false, ['7'], [], none⟩, [' '], ['7'], [], by decide, by decide⟩, some "step_limit",
      ['\n'], printText "step_limit", [' '], by decide, by decide, spellsString_printText "step_limit"⟩
  have object := @Spells.object [more, steps] (List.cons_ne_nil _ _)
    (List.forall_mem_cons.2 ⟨array, List.forall_mem_singleton.2 seven⟩)
  let root : Item :=
    ⟨.object members .closed, [' '],
      '\x7b' :: (separated ([more, steps].map Entry.chars) ++ ['\x7d']), [], by decide, by decide⟩
  have same : root.chars = text := by decide +kernel
  have holds : Holds text (.object members .closed) := same ▸ @Holds.alone root object
  have distinct : Distinct members := ⟨by simp [members], by decide⟩
  obtain ⟨exactly, again, -⟩ := limits_load_exactly
  have gives : GivesLimits members ⟨32, 7⟩ :=
    ⟨.inr ⟨by simp [members], rfl⟩,
      .inl ⟨_, List.mem_cons_of_mem _ List.mem_cons_self, .digits (by decide)⟩⟩
  exact ⟨holds, distinct, ((exactly text members holds distinct).2.1 ⟨32, 7⟩).2 ⟨gives, by decide⟩,
    again ⟨32, 7⟩ ⟨by decide, by decide⟩ (by decide)⟩

end Labyrinth.Wire
