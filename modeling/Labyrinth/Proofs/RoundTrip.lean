import Labyrinth.Proofs.Choices
import Labyrinth.Proofs.FreeFloor

/-!
# What is written is read back

Each type that crosses the border has a codec, and each of them is faithful to the values whose numbers
are words of 64 bits; coordinates are words already. A layout has to be well formed besides, as every
layout is that a loader gives out. So decoding the text of such a value gives the value back on both
routes (`json_round_trip`), and whatever a text decodes to is such a value.
-/

namespace Labyrinth

open Json (maxWord)

/-- The target of the instruction, if it is a jump, is a word. -/
def Instruction.FitsWord (i : Instruction) : Prop := ∀ target, i.target? = some target → target ≤ maxWord

/-- All jump targets are words. -/
def Program.FitsWords (program : Program) : Prop := ∀ i ∈ program.instructions, i.FitsWord

/-- The steps are a word. -/
def Report.FitsWords (report : Report) : Prop := report.steps ≤ maxWord

/-- The numbers that a rejection names are words. -/
def Rejection.FitsWords : Rejection → Prop
  | .disallowed _ position => position ≤ maxWord
  | .tooLong length limit => length ≤ maxWord ∧ limit ≤ maxWord
  | .malformed _ => True

/-- The numbers of the rejection or of the report are words. -/
def Verdict.FitsWords : Verdict → Prop
  | .rejected reason => reason.FitsWords
  | .completed report _ => report.FitsWords

/-- Both limits are words. -/
def Limits.FitsWords (limits : Limits) : Prop :=
  limits.sourceLength ≤ maxWord ∧ limits.steps ≤ maxWord

/-- Both sides are words. -/
def Layout.FitsWords (layout : Layout) : Prop := layout.width ≤ maxWord ∧ layout.height ≤ maxWord

namespace Wire

open Json (Codec Form Value Variant)

variable {α β : Type} {room : Nat} {name : String} {codec : Codec α} {rest : Form β}
  {Fits : α → Prop} {FitsRest : β → Prop}

theorem faithful_required (own : codec.Faithful Fits room) (others : rest.Faithful FitsRest room) :
    (required name codec rest).Faithful (fun values => Fits values.1 ∧ FitsRest values.2) room :=
  .field own nofun nofun others

theorem faithful_optional {fallback : α} (own : codec.Faithful Fits room) (fits : Fits fallback)
    (others : rest.Faithful FitsRest room) :
    (optional name codec fallback rest).Faithful (fun values => Fits values.1 ∧ FitsRest values.2)
      room :=
  .field own (fun _ same => Option.some.inj same ▸ fits) nofun others

/-! ### Grid and layout -/

theorem faithful_tile : tile.Faithful (fun _ => True) (room + 1) :=
  Codec.faithful_named (fun t => by cases t <;> decide)
    (by rintro ⟨⟩ ⟨⟩ <;> simp [Tile.name])

theorem faithful_heading : heading.Faithful (fun _ => True) (room + 1) :=
  Codec.faithful_named Heading.mem_all (by rintro ⟨⟩ ⟨⟩ <;> simp [Heading.name])

theorem faithful_cell : cell.Faithful (fun _ => True) (room + 1) :=
  Codec.faithful_tuple
    (faithful_required Codec.faithful_coordinate (faithful_required Codec.faithful_coordinate .nil))
    (fun _ => rfl) (fun _ => rfl) (by simp)

theorem faithful_robot : robot.Faithful (fun _ => True) (room + 2) :=
  Codec.faithful_record
    (faithful_required faithful_cell (faithful_required faithful_heading .nil)) ⟨rfl, rfl, trivial⟩
    (by decide) (fun _ => rfl) (fun _ => rfl) (by simp)

theorem faithful_layoutFields : layoutFields.Faithful Layout.FitsWords (room + 3) :=
  Codec.faithful_record
    (faithful_required Codec.faithful_count <| faithful_required Codec.faithful_count <|
      faithful_required (Codec.Faithful.list faithful_tile) <| faithful_required faithful_robot <|
      faithful_required faithful_cell .nil)
    ⟨rfl, rfl, rfl, rfl, rfl, trivial⟩ (by decide) (fun _ => rfl) (fun _ => rfl)
    (by simp [Layout.FitsWords])

/-- The check of a layout keeps the well-formed ones and changes none. -/
theorem faithful_layout :
    layout.Faithful (fun layout => layout.FitsWords ∧ layout.WellFormed) (room + 3) := by
  have fields : layoutFields.Faithful Layout.FitsWords (room + 3) := faithful_layoutFields
  refine (fields.refine fun _ _ passed => (Layout.mapError_checked_eq_ok_iff.1 passed).1).congr fun _ => ?_
  simp [Layout.mapError_checked_eq_ok_iff]

/-! ### Programs and runs -/

theorem faithful_moveResult : moveResult.Faithful (fun _ => True) (room + 1) :=
  Codec.faithful_named (fun r => by cases r <;> decide)
    (by rintro ⟨⟩ ⟨⟩ <;> simp [MoveResult.name])

theorem faithful_instruction : instruction.Faithful Instruction.FitsWord (room + 1) := by
  have count : Codec.count.Faithful (· ≤ maxWord) room := Codec.faithful_count
  refine Codec.faithful_choice (fun i fits => ?_) ?_
  · cases i with
    | move m => cases m <;> exact .name rfl
    | jump target => exact .holding count rfl (fits target rfl)
    | jumpIf sensed target =>
      cases sensed <;> exact .holding count rfl (fits target rfl)
  · have of_plain : ∀ m route reading i,
        (Variant.plain (.move m)).decode route reading = .ok i → Instruction.FitsWord i := by
      intro m route reading i decoded
      rw [← Codec.eq_of_plain decoded]
      nofun
    have of_holding : ∀ make : Nat → Instruction, (∀ n, (make n).target? = some n) →
        ∀ route reading i, (Variant.holding .count make).decode route reading = .ok i →
          Instruction.FitsWord i := by
      intro make target route reading i decoded
      obtain ⟨n, word, rfl⟩ := Codec.fits_of_holding count decoded
      rw [Instruction.FitsWord, target]
      rintro _ ⟨⟩
      exact word
    simp only [List.forall_mem_cons]
    exact ⟨of_plain _, of_plain _, of_plain _, of_plain _, of_holding _ fun _ => rfl,
      of_holding _ fun _ => rfl, of_holding _ fun _ => rfl, nofun⟩

theorem faithful_program : program.Faithful Program.FitsWords (room + 3) :=
  Codec.faithful_record (faithful_required faithful_instruction.list .nil) ⟨rfl, trivial⟩
    (by decide) (fun _ => rfl) (fun _ => rfl) (by simp [Program.FitsWords])

theorem faithful_outcome : outcome.Faithful (fun _ => True) (room + 1) :=
  Codec.faithful_named (fun o => by cases o <;> decide)
    (by rintro ⟨⟩ ⟨⟩ <;> simp [Outcome.name])

theorem faithful_report : report.Faithful Report.FitsWords (room + 3) :=
  Codec.faithful_record
    (faithful_required faithful_outcome <| faithful_required Codec.faithful_count <|
      faithful_required faithful_robot .nil)
    ⟨rfl, rfl, rfl, trivial⟩ (by decide) (fun _ => rfl) (fun _ => rfl) (by simp [Report.FitsWords])

/-! ### Texts and verdicts -/

theorem faithful_shape : shape.Faithful (fun _ => True) (room + 1) :=
  Codec.faithful_named (fun s => by cases s <;> decide)
    (by rintro ⟨⟩ ⟨⟩ <;> simp [Shape.name])

theorem faithful_disallowedFields :
    disallowedFields.Faithful (fun values => True ∧ values.2.1 ≤ maxWord ∧ True) room :=
  faithful_required Codec.faithful_character <| faithful_required Codec.faithful_count .nil

theorem faithful_tooLongFields :
    tooLongFields.Faithful (fun values => values.1 ≤ maxWord ∧ values.2.1 ≤ maxWord ∧ True) room :=
  faithful_required Codec.faithful_count <| faithful_required Codec.faithful_count .nil

theorem faithful_rejection : rejection.Faithful Rejection.FitsWords (room + 2) := by
  have disallowed := @faithful_disallowedFields room
  have tooLong := @faithful_tooLongFields room
  have shape := @faithful_shape room
  refine Codec.faithful_choice (fun reason fits => ?_) ?_
  · cases reason with
    | disallowed character position =>
      exact .fields disallowed ⟨rfl, rfl, trivial⟩ (by decide) rfl
        ⟨trivial, fits, trivial⟩ rfl
    | tooLong length limit =>
      exact .fields tooLong ⟨rfl, rfl, trivial⟩ (by decide) rfl
        ⟨fits.1, fits.2, trivial⟩ rfl
    | malformed s => exact .holding shape rfl trivial
  · simp only [List.forall_mem_cons]
    refine ⟨?_, ?_, ?_, nofun⟩
    · intro route reading reason decoded
      obtain ⟨values, fits, rfl⟩ := Codec.fits_of_fields disallowed decoded
      exact fits.2.1
    · intro route reading reason decoded
      obtain ⟨values, fits, rfl⟩ := Codec.fits_of_fields tooLong decoded
      exact ⟨fits.1, fits.2.1⟩
    · intro route reading reason decoded
      obtain ⟨s, -, rfl⟩ := Codec.fits_of_holding shape decoded
      trivial

theorem faithful_completedFields :
    completedFields.Faithful (fun values => values.1.FitsWords ∧ True ∧ True) (room + 3) :=
  faithful_required faithful_report <| faithful_required Codec.faithful_bool .nil

theorem faithful_verdict : verdict.Faithful Verdict.FitsWords (room + 5) := by
  have rejection := @faithful_rejection (room + 2)
  have completed := @faithful_completedFields room
  refine Codec.faithful_choice (fun v fits => ?_) ?_
  · cases v with
    | rejected reason => exact .holding rejection rfl fits
    | completed report unused =>
      exact .fields completed ⟨rfl, rfl, trivial⟩ (by decide) rfl
        ⟨fits, trivial, trivial⟩ rfl
  · simp only [List.forall_mem_cons]
    refine ⟨?_, ?_, nofun⟩
    · intro route reading v decoded
      obtain ⟨reason, fits, rfl⟩ := Codec.fits_of_holding rejection decoded
      exact fits
    · intro route reading v decoded
      obtain ⟨values, fits, rfl⟩ := Codec.fits_of_fields completed decoded
      exact fits.1

/-! ### Limits -/

theorem faithful_limits : limits.Faithful Limits.FitsWords (room + 1) :=
  Codec.faithful_record
    (faithful_optional Codec.faithful_count (by decide) <|
      faithful_optional Codec.faithful_count (by decide) .nil)
    ⟨rfl, rfl, trivial⟩ (by decide) (fun _ => rfl) (fun _ => rfl) (by simp [Limits.FitsWords])

/-! ### All of them -/

/-- Whatever fits is read back from its compact text on both routes, and so is whatever any text decodes
    to. -/
def RoundTrips {α : Type} (codec : Codec α) (Fits : α → Prop) : Prop :=
  (∀ a, Fits a → ∀ route, codec.decodeText route (codec.encodeText a) = .ok a) ∧
  ∀ route text a, codec.decodeText route text = .ok a →
    Fits a ∧ ∀ again, codec.decodeText again (codec.encodeText a) = .ok a

theorem roundTrips_of_faithful (faithful : codec.Faithful Fits Json.Reading.deepest) :
    RoundTrips codec Fits := by
  refine ⟨fun a fits route => faithful.decodeText_encodeText route fits, ?_⟩
  intro route text a decoded
  have fits := faithful.fits_of_decodeText decoded
  exact ⟨fits, fun again => faithful.decodeText_encodeText again fits⟩

/-- A well-formed layout whose numbers are words is given out by a loader: its own text is decoded to
    it. -/
theorem loaded_of_fitsWords {layout : Layout} (fits : layout.FitsWords)
    (wellFormed : layout.WellFormed) : layout.Loaded := by
  have faithful : Wire.layout.Faithful _ Json.Reading.deepest := faithful_layout
  exact .decoded (faithful.decodeText_encodeText .inOrder ⟨fits, wellFormed⟩)

/-- A well-formed layout whose sides are signed words is given out by a loader. -/
theorem loaded_of_sides {layout : Layout} (width : layout.width ≤ 0x7fffffff)
    (height : layout.height ≤ 0x7fffffff) (wellFormed : layout.WellFormed) : layout.Loaded := by
  refine loaded_of_fitsWords ⟨?_, ?_⟩ wellFormed
  · exact Nat.le_trans width (by decide)
  · exact Nat.le_trans height (by decide)

theorem roundTrips_layout : RoundTrips layout fun layout => layout.Loaded ∧ layout.FitsWords := by
  have faithful : Wire.layout.Faithful _ Json.Reading.deepest := faithful_layout
  refine roundTrips_of_faithful (faithful.congr fun layout => ?_)
  constructor
  · rintro ⟨loaded, fits⟩
    exact ⟨fits, loaded.wellFormed⟩
  · rintro ⟨fits, wellFormed⟩
    exact ⟨loaded_of_fitsWords fits wellFormed, fits⟩

/-- Every type that crosses the border survives its JSON form: what is written for a value whose numbers
    are words, and in case of a layout that a loader gave out, is read back on both routes, and so is
    whatever any text decodes to. -/
theorem json_round_trip :
    RoundTrips tile (fun _ => True) ∧
    RoundTrips heading (fun _ => True) ∧
    RoundTrips moveResult (fun _ => True) ∧
    RoundTrips robot (fun _ => True) ∧
    RoundTrips layout (fun layout => layout.Loaded ∧ layout.FitsWords) ∧
    RoundTrips instruction Instruction.FitsWord ∧
    RoundTrips program Program.FitsWords ∧
    RoundTrips outcome (fun _ => True) ∧
    RoundTrips report Report.FitsWords ∧
    RoundTrips shape (fun _ => True) ∧
    RoundTrips rejection Rejection.FitsWords ∧
    RoundTrips verdict Verdict.FitsWords ∧
    RoundTrips limits Limits.FitsWords :=
  ⟨roundTrips_of_faithful faithful_tile, roundTrips_of_faithful faithful_heading,
    roundTrips_of_faithful faithful_moveResult, roundTrips_of_faithful faithful_robot,
    roundTrips_layout, roundTrips_of_faithful faithful_instruction,
    roundTrips_of_faithful faithful_program, roundTrips_of_faithful faithful_outcome,
    roundTrips_of_faithful faithful_report, roundTrips_of_faithful faithful_shape,
    roundTrips_of_faithful faithful_rejection, roundTrips_of_faithful faithful_verdict,
    roundTrips_of_faithful faithful_limits⟩

/-- A control character without a letter of its own, the largest counts, and the reference layout. -/
theorem json_round_trip_extremes :
    let reason : Rejection := .disallowed '\x1f' maxWord
    let program : Program := ⟨[.jumpIf .free maxWord, .move .backward]⟩
    reason.FitsWords ∧ program.FitsWords ∧ Layout.reference.Loaded ∧ Layout.reference.FitsWords ∧
      rejection.decodeText .whole (rejection.encodeText reason) = .ok reason ∧
      Wire.program.decodeText .inOrder (Wire.program.encodeText program) = .ok program ∧
      layout.decodeText .whole (layout.encodeText .reference) = .ok .reference := by
  intro reason program
  obtain ⟨-, -, -, -, layouts, -, programs, -, -, -, rejections, -⟩ := json_round_trip
  have reason_fits : reason.FitsWords := Nat.le_refl maxWord
  have program_fits : program.FitsWords := by
    simp [program, Program.FitsWords, Instruction.FitsWord, Instruction.target?]
  have reference_fits : Layout.reference.FitsWords := by
    unfold Layout.FitsWords
    decide
  exact ⟨reason_fits, program_fits, .reference, reference_fits, rejections.1 reason reason_fits .whole,
    programs.1 program program_fits .inOrder,
    layouts.1 .reference ⟨.reference, reference_fits⟩ .whole⟩

end Wire

end Labyrinth
