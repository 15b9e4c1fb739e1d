import Labyrinth.Proofs.Choices

/-!
# Both routes give the same value

A decoder that reads a text in order may do otherwise than one that gets the whole value: it takes arrays
where only objects are expected, and refuses a field that comes twice. But it never gives another value,
and fails on a value that the whole route accepts only if a key is repeated (`Codec.Agrees`). The ways to
put codecs together keep this up, and so it holds of every type that crosses the border.
-/

namespace Labyrinth.Json

variable {α β γ : Type} {room : Nat}

/-- A result bears out a value if it is this value, or a failure that is excused. -/
inductive BearsOut (excuse : Prop) (a : α) : Except Failure α → Prop where
  | found : BearsOut excuse a (.ok a)
  | failed {failure : Failure} (excused : excuse) : BearsOut excuse a (.error failure)

namespace BearsOut

variable {excuse more : Prop} {a : α} {b : β} {result : Except Failure α}

theorem mono (bears : BearsOut excuse a result) (weaker : excuse → more) : BearsOut more a result := by
  cases bears with
  | found => exact .found
  | failed excused => exact .failed (weaker excused)

theorem bind {next : α → Except Failure β} (first : BearsOut excuse a result)
    (later : BearsOut excuse b (next a)) : BearsOut excuse b (result >>= next) := by
  cases first with
  | found => exact later
  | failed excused => exact .failed excused

theorem map {f : α → β} (bears : BearsOut excuse a result) :
    BearsOut excuse (f a) (result.map f) := by
  cases bears with
  | found => exact .found
  | failed excused => exact .failed excused

theorem eq_ok (bears : BearsOut excuse a result) (strict : ¬excuse) : result = .ok a := by
  cases bears with
  | found => rfl
  | failed excused => exact absurd excused strict

theorem eq_of_ok {other : α} (bears : BearsOut excuse a result) (found : result = .ok other) :
    other = a := by
  cases bears with
  | found => exact (Except.ok.inj found).symm
  | failed => cases found

/-- Results for the first item of an array and for the others are joined to one for all items. -/
theorem items {item : Reading} {rest : List Reading} {others : Except Failure β}
    (join : α → β → γ) (first : BearsOut (¬item.keysOnce) a result)
    (later : BearsOut (¬∀ item ∈ rest, item.keysOnce) b others) :
    BearsOut (¬∀ each ∈ item :: rest, each.keysOnce) (join a b)
      (do return join (← result) (← others)) := by
  rw [List.forall_mem_cons]
  exact (first.mono (mt And.left)).bind ((later.mono (mt And.right)).bind .found)

end BearsOut

/-- What is decoded in order bears out what is decoded from the whole value, and is excused only by a
    repeated key. -/
def DecodesAlike (decode : Route → Reading → Except Failure α) : Prop :=
  ∀ ⦃room : Nat⦄ ⦃reading : Reading⦄ ⦃value : Value⦄ ⦃a : α⦄, reading.value? room = .ok value →
    decode .whole value.reading = .ok a → BearsOut (¬reading.keysOnce) a (decode .inOrder reading)

theorem DecodesAlike.map {decode : Route → Reading → Except Failure α} (alike : DecodesAlike decode)
    (make : α → β) : DecodesAlike fun route reading => (decode route reading).map make := by
  intro room reading value b found decoded
  obtain ⟨a, read, rfl⟩ := map_eq_ok_iff.1 decoded
  exact (alike found read).map

/-- The routes agree on what the codec decodes. -/
def Codec.Agrees (codec : Codec α) : Prop := DecodesAlike codec.decode

/-! ### Single values and lists -/

namespace Codec

/-- A decoder that takes neither arrays nor objects and does not ask for the route agrees with itself. -/
theorem agrees_of_scalar {codec : Codec α}
    (same : ∀ reading, codec.decode .inOrder reading = codec.decode .whole reading)
    (no_array : ∀ items closing a, codec.decode .whole (.array items closing) ≠ .ok a)
    (no_object : ∀ members closing a, codec.decode .whole (.object members closing) ≠ .ok a) :
    codec.Agrees := by
  intro room reading value a found decoded
  rw [same]
  cases Reading.settles_of_value? found with
  | null | bool | number | text =>
    rw [Value.reading] at decoded
    rw [decoded]
    exact .found
  | array => exact absurd decoded (no_array _ _ _)
  | object => exact absurd decoded (no_object _ _ _)

theorem agrees_bool : bool.Agrees := agrees_of_scalar (fun _ => rfl) nofun nofun

theorem agrees_intBetween (low high : Int) : (intBetween low high).Agrees :=
  agrees_of_scalar (fun _ => rfl) nofun nofun

theorem agrees_character : character.Agrees := agrees_of_scalar (fun _ => rfl) nofun nofun

theorem Agrees.map {codec : Codec α} (agrees : codec.Agrees) {make : α → β} {back : β → α} :
    (codec.map make back).Agrees :=
  DecodesAlike.map agrees make

theorem agrees_count : count.Agrees := (agrees_intBetween 0 maxWord).map

theorem agrees_coordinate : coordinate.Agrees := (agrees_intBetween (-0x80000000) 0x7fffffff).map

theorem Agrees.refine {codec : Codec α} (agrees : codec.Agrees) (check : α → Except String α) :
    (codec.refine check).Agrees := by
  intro room reading value a found decoded
  obtain ⟨raw, read, passed⟩ := decode_refine_eq_ok_iff.1 decoded
  refine (agrees found read).bind ?_
  rw [passed]
  exact .found

theorem Agrees.mapM {codec : Codec α} (agrees : codec.Agrees) {items : List Reading}
    {values : List Value} (each : items.Forall₂ (fun item value => item.value? room = .ok value) values)
    {decoded : List α} (read : (readingItems values).mapM (codec.decode .whole) = .ok decoded) :
    BearsOut (¬∀ item ∈ items, item.keysOnce) decoded (items.mapM (codec.decode .inOrder)) := by
  induction each generalizing decoded with
  | nil => cases read; exact .found
  | @cons item value items values first _ ih =>
    rw [readingItems, List.mapM_cons] at read
    obtain ⟨a, head, rest⟩ := bind_eq_ok_iff.1 read
    obtain ⟨others, tail, same⟩ := bind_eq_ok_iff.1 rest
    cases same
    rw [List.mapM_cons]
    exact (agrees first head).items List.cons (ih tail)

theorem Agrees.list {codec : Codec α} (agrees : codec.Agrees) : (Codec.list codec).Agrees := by
  intro room reading value decoded found read
  cases Reading.settles_of_value? found with
  | array each =>
    obtain ⟨values, read, ended⟩ := bind_eq_ok_iff.1 read
    cases ended
    exact ((agrees.mapM each read).mono (mt Reading.keysOnce_array_iff.1)).bind .found
  | _ => cases read

end Codec

/-! ### Records -/

namespace Form

/-- The routes agree on every field. -/
inductive Agrees : {α : Type} → Form α → Prop where
  | nil : Agrees .nil
  | field {α β : Type} {name : String} {codec : Codec α} {fallback given : Option α} {rest : Form β}
      (own : codec.Agrees) (others : rest.Agrees) : Agrees (.field name codec fallback given rest)

variable {form : Form α} {values : α}

theorem Agrees.fillInOrder (agrees : form.Agrees) {items : List Reading} {contents : List Value}
    (each : items.Forall₂ (fun item value => item.value? room = .ok value) contents)
    (filled : form.fillInOrder .whole .closed (readingItems contents) = .ok values) :
    BearsOut (¬∀ item ∈ items, item.keysOnce) values (form.fillInOrder .inOrder .closed items) := by
  induction agrees generalizing items contents with
  | nil =>
    cases each with
    | nil => exact .found
    | cons => cases filled
  | @field α β name codec fallback given rest own others ih =>
    cases each with
    | nil =>
      obtain ⟨_, -, ended⟩ := bind_eq_ok_iff.1 filled
      cases fallback with
      | none => cases ended
      | some a =>
        obtain ⟨more, later, same⟩ := bind_eq_ok_iff.1 ended
        cases same
        exact (ih .nil later).bind .found
    | @cons item value items contents first each =>
      obtain ⟨a, head, ended⟩ := bind_eq_ok_iff.1 filled
      obtain ⟨more, tail, same⟩ := bind_eq_ok_iff.1 ended
      cases same
      exact (own first head).items Prod.mk (ih each tail)

section Members

variable {members : List (Key × Reading)} {entries : List (String × Value)}

/-- Where no key is repeated, the members fill in the form as the settled ones do. -/
theorem Agrees.filledBy (agrees : form.Agrees)
    (each : members.Forall₂ (Reading.SettlesMember room) entries)
    (once : (entries.map Prod.fst).Nodup) (each_once : ∀ member ∈ members, member.2.keysOnce)
    (filled : form.FilledBy .whole (readingMembers (Reading.settle entries)) values) :
    form.FilledBy .inOrder members values := by
  induction agrees with
  | nil => trivial
  | @field α β name codec fallback given rest own others ih =>
    obtain ⟨a, values⟩ := values
    refine ⟨?_, ih filled.2⟩
    have here := filled.1
    rw [Reading.entriesOf_readingMembers, Reading.entriesOf_settle_of_nodup once] at here
    have entries_match := Reading.forall₂_entriesOf each name
    have entries_once : ∀ reading ∈ entriesOf (.text (some name)) members, reading.keysOnce :=
      fun reading present => each_once _ (mem_entriesOf_iff.1 present)
    rcases here with ⟨no_entry, known⟩ | ⟨unknown, content, only, read⟩
    · rw [List.map_eq_nil_iff.1 no_entry] at entries_match
      exact .inl ⟨List.forall₂_nil_right_iff.1 entries_match, known⟩
    · obtain ⟨value, only_value, rfl⟩ := List.map_eq_singleton_iff.1 only
      rw [only_value] at entries_match
      obtain ⟨reading, found, same⟩ := forall₂_singleton_right_iff.1 entries_match
      have once_here : reading.keysOnce := entries_once reading (same ▸ List.mem_cons_self)
      have read_in_order := (own found read).eq_ok (not_not.2 once_here)
      exact .inr ⟨unknown, reading, same, read_in_order⟩

/-- What the members fill in is what the settled ones fill in. -/
theorem Agrees.values_eq (agrees : form.Agrees) {others : α}
    (each : members.Forall₂ (Reading.SettlesMember room) entries)
    (filled : form.FilledBy .whole (readingMembers (Reading.settle entries)) values)
    (in_order : form.FilledBy .inOrder members others) : others = values := by
  induction agrees with
  | nil => rfl
  | @field α β name codec fallback given rest own others ih =>
    obtain ⟨a, values⟩ := values
    obtain ⟨b, more⟩ := others
    obtain ⟨here, filled⟩ := filled
    obtain ⟨here_in_order, in_order⟩ := in_order
    obtain rfl : more = values := ih filled in_order
    rw [Reading.entriesOf_readingMembers, Reading.entriesOf_settle] at here
    have entries_match := Reading.forall₂_entriesOf each name
    rcases here_in_order with ⟨no_entry, known⟩ | ⟨unknown, reading, only, read⟩
    · rw [no_entry] at entries_match
      rw [List.forall₂_nil_left_iff.1 entries_match] at here
      rcases here with ⟨-, also_known⟩ | ⟨-, _, entry, -⟩
      · rw [Option.some.inj (known.symm.trans also_known)]
      · cases entry
    · rw [only] at entries_match
      obtain ⟨value, found, same⟩ := forall₂_singleton_left_iff.1 entries_match
      rw [same] at here
      rcases here with ⟨no_entry, -⟩ | ⟨-, _, entry, whole⟩
      · cases no_entry
      · cases entry
        rw [(own found whole).eq_of_ok read]

theorem Agrees.fill (agrees : form.Agrees) (distinct : form.names.Nodup)
    (each : members.Forall₂ (Reading.SettlesMember room) entries)
    (filled : form.fill .whole .closed (readingMembers (Reading.settle entries)) = .ok values) :
    BearsOut (¬(Reading.object members .closed).keysOnce) values
      (form.fill .inOrder .closed members) := by
  obtain ⟨-, -, filled_by⟩ := (fill_eq_ok_iff distinct).1 filled
  by_cases keys : (Reading.object members .closed).keysOnce
  · obtain ⟨once, each_once⟩ := Reading.keysOnce_object_iff.1 keys
    rw [Reading.namesOf_eq each] at once
    have in_order := agrees.filledBy each once each_once filled_by
    rw [(fill_eq_ok_iff distinct).2 ⟨rfl, form.admits_of_forall₂ each, in_order⟩]
    exact .found
  · cases result : form.fill .inOrder .closed members with
    | error failure => exact .failed keys
    | ok others =>
      obtain ⟨-, -, in_order⟩ := (fill_eq_ok_iff distinct).1 result
      rw [agrees.values_eq each filled_by in_order]
      exact .found

end Members

theorem decode_of_decodeObject {route : Route} {reading : Reading}
    (decoded : form.decodeObject route reading = .ok values) :
    form.decode route reading = .ok values := by
  cases reading with
  | array => cases decoded
  | _ => exact decoded

/-- A form that is read as an array. -/
theorem Agrees.decodeArray (agrees : form.Agrees) : DecodesAlike fun route => form.decodeArray route := by
  intro room reading value values found decoded
  cases Reading.settles_of_value? found with
  | array each => exact (agrees.fillInOrder each decoded).mono (mt Reading.keysOnce_array_iff.1)
  | _ => cases decoded

/-- A form that is read as an object or as an array. -/
theorem Agrees.decode (agrees : form.Agrees) (distinct : form.names.Nodup) :
    DecodesAlike fun route => form.decode route := by
  intro room reading value values found decoded
  cases Reading.settles_of_value? found with
  | array => exact agrees.decodeArray found decoded
  | object each => exact agrees.fill distinct each decoded
  | _ => cases decoded

end Form

namespace Codec

variable {form : Form α} {make : α → β} {fields : β → α}

theorem agrees_record (agrees : form.Agrees) (distinct : form.names.Nodup) :
    (record form make fields).Agrees :=
  (agrees.decode distinct).map make

theorem agrees_tuple (agrees : form.Agrees) : (tuple form make fields).Agrees :=
  agrees.decodeArray.map make

end Codec

/-! ### Choices -/

/-- The routes agree on what the variant holds. -/
def Variant.Agrees (variant : Variant α) : Prop := DecodesAlike fun route => variant.decode route

namespace Variant

theorem agrees_plain (a : α) : (plain a).Agrees := by
  intro room reading value b found decoded
  cases Reading.settles_of_value? found with
  | null => cases decoded; exact .found
  | _ => cases decoded

theorem agrees_holding {codec : Codec β} (agrees : codec.Agrees) (make : β → α) :
    (holding codec make).Agrees :=
  DecodesAlike.map agrees make

theorem agrees_fields {form : Form β} (agrees : form.Agrees) (distinct : form.names.Nodup)
    (make : β → α) : (fields form make).Agrees := by
  intro room reading value a found decoded
  obtain ⟨values, read, rfl⟩ := map_eq_ok_iff.1 decoded
  exact (agrees.decode distinct found (Form.decode_of_decodeObject read)).map

end Variant

namespace Codec

variable {variants : List (String × Variant α)} {encode : α → Value}

theorem agrees_choice (each : ∀ entry ∈ variants, entry.2.Agrees) :
    (choice variants encode).Agrees := by
  intro room reading value a found decoded
  cases Reading.settles_of_value? found with
  | text name =>
    have same : decodeChoice variants .inOrder (.text (some name)) = .ok a := decoded
    change BearsOut _ a (decodeChoice variants .inOrder (.text (some name)))
    rw [same]
    exact .found
  | @object room members entries matched =>
    have tagged : decodeChoice variants .whole
        (.object (readingMembers (Reading.settle entries)) .closed) = .ok a := decoded
    change BearsOut _ a (decodeChoice variants .inOrder (.object members .closed))
    obtain ⟨name, content, variant, only, known, read⟩ := tagged_of_decodeChoice tagged
    by_cases once : (entries.map Prod.fst).Nodup
    · obtain ⟨reading, value, rfl, held, rfl⟩ := Reading.eq_singleton_of_settle matched once only
      rw [decodeChoice_tagged known]
      obtain ⟨entry, among, rfl⟩ := mem_of_variantOf known
      refine (each entry among held read).mono (mt fun keys => ?_)
      exact (Reading.keysOnce_object_iff.1 keys).2 _ List.mem_cons_self
    · -- the settled members are fewer than the text has, so in order there is one too many
      cases result : decodeChoice variants .inOrder (.object members .closed) with
      | error failure =>
        refine .failed fun keys => once ?_
        rw [← Reading.namesOf_eq matched]
        exact (Reading.keysOnce_object_iff.1 keys).1
      | ok b =>
        obtain ⟨_, _, _, rfl, -, -⟩ := tagged_of_decodeChoice result
        obtain ⟨entry, -, rfl⟩ := forall₂_singleton_left_iff.1 matched
        exact absurd (List.pairwise_singleton _ _) once
  | _ => cases decoded

theorem agrees_named (all : List α) (name : α → String) : (named all name).Agrees :=
  agrees_choice (List.forall_mem_map.2 fun a _ => Variant.agrees_plain a)

/-- What a text is decoded to in order bears out what it is decoded to from the whole value. -/
theorem Agrees.decodeText {codec : Codec α} (agrees : codec.Agrees) {text : List Char} {a : α}
    (decoded : codec.decodeText .whole text = .ok a) :
    BearsOut (¬(Document.ofText text).root.keysOnce) a (codec.decodeText .inOrder text) := by
  obtain ⟨_, offered, read⟩ := decodeText_eq_ok_iff.1 decoded
  cases offered with
  | whole alone found =>
    have in_order : codec.decodeText .inOrder text =
        codec.decode .inOrder (Document.ofText text).root := by
      unfold Codec.decodeText
      dsimp only
      rw [alone]
      cases codec.decode .inOrder (Document.ofText text).root <;> rfl
    rw [in_order]
    exact agrees found read

end Codec

end Labyrinth.Json

/-! ### The types that cross the border -/

namespace Labyrinth.Wire

open Json (BearsOut Codec Document Form Value Variant)

variable {α β : Type} {name : String} {codec : Codec α} {rest : Form β}

theorem agrees_required (own : codec.Agrees) (others : rest.Agrees) :
    (required name codec rest).Agrees :=
  .field own others

theorem agrees_optional {fallback : α} (own : codec.Agrees) (others : rest.Agrees) :
    (optional name codec fallback rest).Agrees :=
  .field own others

theorem agrees_tile : tile.Agrees := Codec.agrees_named _ _

theorem agrees_heading : heading.Agrees := Codec.agrees_named _ _

theorem agrees_cell : cell.Agrees :=
  Codec.agrees_tuple <|
    agrees_required Codec.agrees_coordinate <| agrees_required Codec.agrees_coordinate .nil

theorem agrees_robot : robot.Agrees :=
  Codec.agrees_record (agrees_required agrees_cell <| agrees_required agrees_heading .nil) (by decide)

theorem agrees_layout : layout.Agrees := by
  refine Codec.Agrees.refine (Codec.agrees_record ?_ (by decide)) _
  exact agrees_required Codec.agrees_count <| agrees_required Codec.agrees_count <|
    agrees_required agrees_tile.list <| agrees_required agrees_robot <|
    agrees_required agrees_cell .nil

theorem agrees_moveResult : moveResult.Agrees := Codec.agrees_named _ _

theorem agrees_instruction : instruction.Agrees := by
  refine Codec.agrees_choice ?_
  have plain := fun m : Move => Variant.agrees_plain (Instruction.move m)
  have holding := fun make : Nat → Instruction => Variant.agrees_holding Codec.agrees_count make
  simp only [List.forall_mem_cons]
  exact ⟨plain _, plain _, plain _, plain _, holding _, holding _, holding _, nofun⟩

theorem agrees_program : program.Agrees :=
  Codec.agrees_record (agrees_required agrees_instruction.list .nil) (by decide)

theorem agrees_outcome : outcome.Agrees := Codec.agrees_named _ _

theorem agrees_report : report.Agrees := by
  refine Codec.agrees_record ?_ (by decide)
  exact agrees_required agrees_outcome <| agrees_required Codec.agrees_count <|
    agrees_required agrees_robot .nil

theorem agrees_shape : shape.Agrees := Codec.agrees_named _ _

theorem agrees_rejection : rejection.Agrees := by
  have disallowed : disallowedFields.Agrees :=
    agrees_required Codec.agrees_character <| agrees_required Codec.agrees_count .nil
  have tooLong : tooLongFields.Agrees :=
    agrees_required Codec.agrees_count <| agrees_required Codec.agrees_count .nil
  refine Codec.agrees_choice ?_
  simp only [List.forall_mem_cons]
  exact ⟨Variant.agrees_fields disallowed (by decide) _, Variant.agrees_fields tooLong (by decide) _,
    Variant.agrees_holding agrees_shape _, nofun⟩

theorem agrees_verdict : verdict.Agrees := by
  have completed : completedFields.Agrees :=
    agrees_required agrees_report <| agrees_required Codec.agrees_bool .nil
  refine Codec.agrees_choice ?_
  simp only [List.forall_mem_cons]
  exact ⟨Variant.agrees_holding agrees_rejection _, Variant.agrees_fields completed (by decide) _, nofun⟩

theorem agrees_limits : limits.Agrees := by
  refine Codec.agrees_record ?_ (by decide)
  exact agrees_optional Codec.agrees_count <| agrees_optional Codec.agrees_count .nil

/-- In a text that repeats no key, what is decoded from the whole value is decoded in order too. And in
    whatever text both routes find a value, it is the same. -/
def RoutesAgree (codec : Codec α) : Prop :=
  (∀ text a, (Document.ofText text).root.keysOnce → codec.decodeText .whole text = .ok a →
    codec.decodeText .inOrder text = .ok a) ∧
  ∀ text a b, codec.decodeText .whole text = .ok a → codec.decodeText .inOrder text = .ok b → a = b

theorem routesAgree_of_agrees (agrees : codec.Agrees) : RoutesAgree codec := by
  constructor
  · intro text a once whole
    exact (agrees.decodeText whole).eq_ok (not_not.2 once)
  · intro text a b whole in_order
    exact ((agrees.decodeText whole).eq_of_ok in_order).symm

theorem eq_ok_of_toOption {ε : Type} {found : Except ε α} {a : α} (known : found.toOption = some a) :
    found = .ok a := by
  cases found with
  | error => cases known
  | ok b => exact congrArg _ (Option.some.inj known)

/-- For every type that crosses the border, the two routes agree on what a text holds: without repeated
    keys the route in order finds whatever the whole route finds, and they never find different values. -/
theorem routes_agree :
    RoutesAgree tile ∧ RoutesAgree heading ∧ RoutesAgree moveResult ∧ RoutesAgree robot ∧
    RoutesAgree layout ∧ RoutesAgree instruction ∧ RoutesAgree program ∧ RoutesAgree outcome ∧
    RoutesAgree report ∧ RoutesAgree shape ∧ RoutesAgree rejection ∧ RoutesAgree verdict ∧
    RoutesAgree limits :=
  ⟨routesAgree_of_agrees agrees_tile, routesAgree_of_agrees agrees_heading,
    routesAgree_of_agrees agrees_moveResult, routesAgree_of_agrees agrees_robot,
    routesAgree_of_agrees agrees_layout, routesAgree_of_agrees agrees_instruction,
    routesAgree_of_agrees agrees_program, routesAgree_of_agrees agrees_outcome,
    routesAgree_of_agrees agrees_report, routesAgree_of_agrees agrees_shape,
    routesAgree_of_agrees agrees_rejection, routesAgree_of_agrees agrees_verdict,
    routesAgree_of_agrees agrees_limits⟩

/-- Members that limits do not have are passed over on both routes, in whatever order the keys stand, and
    also where a key is repeated. -/
theorem routes_agree_limits :
    let unsorted := "\x7b\"step_limit\":5,\"x\":\x7b\"b\":[],\"a\":1\x7d,\"max_source_len\":7\x7d".toList
    let repeated := "\x7b\"a\":1,\"\\u0061\":2\x7d".toList
    (Document.ofText unsorted).root.keysOnce ∧ ¬(Document.ofText repeated).root.keysOnce ∧
      limits.decodeText .whole unsorted = .ok ⟨7, 5⟩ ∧
      limits.decodeText .inOrder unsorted = .ok ⟨7, 5⟩ ∧
      limits.decodeText .whole repeated = .ok {} ∧ limits.decodeText .inOrder repeated = .ok {} := by
  intro unsorted repeated
  obtain ⟨-, -, -, -, -, -, -, -, -, -, -, -, same, never_other⟩ := routes_agree
  have once : (Document.ofText unsorted).root.keysOnce ∧ ¬(Document.ofText repeated).root.keysOnce := by
    unfold unsorted repeated
    decide +kernel
  have whole : (limits.decodeText .whole unsorted).toOption = some ⟨7, 5⟩ ∧
      (limits.decodeText .whole repeated).toOption = some {} := by
    unfold unsorted repeated
    decide +kernel
  have in_order : (limits.decodeText .inOrder repeated).toOption.isSome := by
    unfold repeated
    decide +kernel
  have unsorted_whole := eq_ok_of_toOption whole.1
  have repeated_whole := eq_ok_of_toOption whole.2
  obtain ⟨found, known⟩ := Option.isSome_iff_exists.1 in_order
  have repeated_in_order := eq_ok_of_toOption known
  obtain rfl := never_other _ _ _ repeated_whole repeated_in_order
  exact ⟨once.1, once.2, unsorted_whole, same _ _ once.1 unsorted_whole, repeated_whole,
    repeated_in_order⟩

end Labyrinth.Wire
