import Labyrinth.Proofs.Forms

/-!
# Choices that lose nothing

A value of a type with variants is written by its variant: as a name, or as an object with one member
(`Codec.WrittenAs`). Sorting moves nothing in such an object, so both routes come to the same variant,
and a choice is faithful if what its variants hold is (`Codec.faithful_choice`).
-/

namespace Labyrinth.Json.Codec

variable {α β : Type} {room : Nat} {Fits : α → Prop}
variable {variants : List (String × Variant α)} {encode : α → Value}

/-- How a value of a choice is written: by the name of its variant, with what the variant holds if it
    holds anything. -/
inductive WrittenAs (variants : List (String × Variant α)) (room : Nat) (a : α) : Value → Prop where
  | name {name : String} (found : variantOf variants name = .ok (.plain a)) :
      WrittenAs variants room a (.text name)
  | tagged {name : String} {variant : Variant α} {content : Value}
      (found : variantOf variants name = .ok variant) (plain : content.Plain room)
      (reads : ∀ route, variant.decode route (content.arranged route).reading = .ok a) :
      WrittenAs variants room a (.object [(name, content)])

theorem Route.arrange_singleton (route : Route) (member : String × Value) :
    route.arrange [member] = [member] := by
  cases route <;> rfl

theorem mem_of_variantOf {name : String} {variant : Variant α}
    (found : variantOf variants name = .ok variant) : ∃ entry ∈ variants, entry.2 = variant := by
  unfold variantOf at found
  split at found
  · next entry first =>
    cases found
    exact ⟨entry, List.mem_of_find?_eq_some first, rfl⟩
  · cases found

/-- An object with one member is decoded by the variant that its key names. -/
theorem decodeChoice_tagged {route : Route} {name : String} {variant : Variant α}
    (found : variantOf variants name = .ok variant) (content : Reading) :
    decodeChoice variants route (.object [(.text (some name), content)] .closed) =
      variant.decode route content := by
  rw [decodeChoice]
  simp only [Key.name, flawed, bind, Except.bind, found, Closing.check, ne_eq, not_true_eq_false,
    and_false, if_false]
  cases variant.decode route content <;> rfl

/-- What a choice decodes from an object, it decodes by a variant from the object's only member. -/
theorem tagged_of_decodeChoice {route : Route} {members : List (Key × Reading)} {closing : Closing}
    {a : α} (decoded : decodeChoice variants route (.object members closing) = .ok a) :
    ∃ name content variant, members = [(.text (some name), content)] ∧
      variantOf variants name = .ok variant ∧ variant.decode route content = .ok a := by
  cases members with
  | nil => cases route <;> cases decoded
  | cons member rest =>
    obtain ⟨key, content⟩ := member
    rw [decodeChoice] at decoded
    split at decoded
    · cases decoded
    · obtain ⟨name, spelt, chosen⟩ := bind_eq_ok_iff.1 decoded
      obtain rfl := Key.name_eq_ok_iff.1 (flawed_eq_ok_iff.1 spelt)
      cases found : variantOf variants name with
      | error failure => rw [found] at chosen; cases chosen
      | ok variant =>
        rw [found] at chosen
        obtain ⟨value, read, ended⟩ := bind_eq_ok_iff.1 chosen
        split at ended
        · cases ended
        · next alone =>
          obtain rfl : rest = [] := not_not.1 alone
          obtain ⟨_, -, same⟩ := bind_eq_ok_iff.1 ended
          cases same
          exact ⟨name, content, variant, rfl, found, read⟩

theorem WrittenAs.plain {a : α} {v : Value} (written : WrittenAs variants room a v) :
    v.Plain (room + 1) := by
  cases written with
  | name found => exact .text
  | tagged found plain reads => exact .object (List.forall_mem_singleton.2 plain)

theorem WrittenAs.decodeChoice_eq {a : α} {v : Value} (written : WrittenAs variants room a v)
    (route : Route) : decodeChoice variants route (v.arranged route).reading = .ok a := by
  cases written with
  | name found => simp only [Value.arranged, Value.reading, decodeChoice, found]
  | @tagged name variant content found plain reads =>
    rw [Value.arranged, arrangedMembers, arrangedMembers, Route.arrange_singleton, Value.reading,
      readingMembers, readingMembers, decodeChoice_tagged found, reads route]

/-- What a choice decodes was decoded by one of its variants. -/
theorem exists_variant_of_decodeChoice {route : Route} {reading : Reading} {a : α}
    (decoded : decodeChoice variants route reading = .ok a) :
    ∃ entry ∈ variants, ∃ content, entry.2.decode route content = .ok a := by
  cases reading with
  | text s =>
    cases s with
    | none => cases decoded
    | some name =>
      rw [decodeChoice] at decoded
      split at decoded
      · next found =>
        cases decoded
        obtain ⟨entry, among, plain⟩ := mem_of_variantOf found
        exact ⟨entry, among, .null, by rw [plain]; rfl⟩
      · cases decoded
      · cases decoded
  | object members closing =>
    obtain ⟨name, content, variant, -, found, read⟩ := tagged_of_decodeChoice decoded
    obtain ⟨entry, among, rfl⟩ := mem_of_variantOf found
    exact ⟨entry, among, content, read⟩
  | _ => cases decoded

/-- A choice is faithful if it writes its values by their variants, and if what its variants read fits. -/
theorem faithful_choice (written : ∀ a, Fits a → WrittenAs variants room a (encode a))
    (fits : ∀ entry ∈ variants, ∀ route reading a,
      entry.2.decode route reading = .ok a → Fits a) :
    (choice variants encode).Faithful Fits (room + 1) where
  plain a fits := (written a fits).plain
  reads a fits route := (written a fits).decodeChoice_eq route
  fits route reading a decoded := by
    obtain ⟨entry, among, content, read⟩ := exists_variant_of_decodeChoice decoded
    exact fits entry among route content a read

/-- A type that has a different name for each of its values is written by these names. -/
theorem faithful_named {all : List α} {name : α → String} (complete : ∀ a, a ∈ all)
    (distinct : ∀ a b, name a = name b → a = b) :
    (named all name).Faithful (fun _ => True) (room + 1) := by
  refine faithful_choice (fun a _ => .name ?_) fun _ _ _ _ _ _ => trivial
  have first : all.find? (fun b => name b = name a) = some a := by
    have named_so : (all.find? fun b => name b = name a).isSome = true :=
      List.find?_isSome.2 ⟨a, complete a, decide_eq_true rfl⟩
    obtain ⟨b, found⟩ := Option.isSome_iff_exists.1 named_so
    rw [found, distinct b a (by simpa using List.find?_some found)]
  rw [variantOf, List.find?_map]
  simp only [Function.comp_def, first, Option.map_some]

section Variants

variable {FitsContent : β → Prop} {route : Route} {reading : Reading} {make : β → α} {a : α}
  {name : String}

theorem eq_of_plain {b : α} (decoded : (Variant.plain b).decode route reading = .ok a) : b = a := by
  cases reading with
  | null => cases decoded; rfl
  | _ => cases decoded

/-- What a variant holds is written by the codec of what it holds. -/
theorem WrittenAs.holding {codec : Codec β} (faithful : codec.Faithful FitsContent room)
    (found : variantOf variants name = .ok (.holding codec make)) {content : β}
    (fits : FitsContent content) :
    WrittenAs variants room (make content) (.object [(name, codec.encode content)]) :=
  .tagged found (faithful.plain content fits) fun route =>
    map_eq_ok_iff.2 ⟨content, faithful.reads content fits route, rfl⟩

theorem fits_of_holding {codec : Codec β} (faithful : codec.Faithful FitsContent room)
    (decoded : (Variant.holding codec make).decode route reading = .ok a) :
    ∃ content, FitsContent content ∧ make content = a := by
  obtain ⟨content, read, same⟩ := map_eq_ok_iff.1 decoded
  exact ⟨content, faithful.fits _ _ _ read, same⟩

/-- The fields of a variant are written as an object. -/
theorem WrittenAs.fields {form : Form β} (faithful : form.Faithful FitsContent room)
    (blank : form.Blank) (distinct : form.names.Nodup)
    (found : variantOf variants name = .ok (.fields form make)) {values : β}
    (fits : FitsContent values) (made : make values = a) :
    WrittenAs variants (room + 1) a (.object [(name, .object (form.members values))]) := by
  refine .tagged found (faithful.plain_members fits) fun route => ?_
  have read : form.decodeObject route
      ((Value.object (form.members values)).arranged route).reading = .ok values :=
    faithful.decodeObject_eq blank distinct fits
  cases route <;> exact map_eq_ok_iff.2 ⟨values, read, made⟩

theorem fits_of_fields {form : Form β} (faithful : form.Faithful FitsContent room)
    (decoded : (Variant.fields form make).decode route reading = .ok a) :
    ∃ values, FitsContent values ∧ make values = a := by
  cases route with
  | inOrder =>
    obtain ⟨values, read, same⟩ := map_eq_ok_iff.1 decoded
    exact ⟨values, faithful.fits_of_decode read, same⟩
  | whole =>
    obtain ⟨values, read, same⟩ := map_eq_ok_iff.1 decoded
    exact ⟨values, faithful.fits_of_decodeObject read, same⟩

end Variants

end Labyrinth.Json.Codec
