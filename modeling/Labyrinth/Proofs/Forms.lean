import Labyrinth.Proofs.Filling

/-!
# Records that lose nothing

A record is faithful if its fields are (`Codec.faithful_record`). On the whole route its members come
sorted by key, so the order in which a form is filled in must not matter: whatever it is, a form that
`Awaits` its members is filled in by them (`Awaits.fill_eq`).
-/

namespace Labyrinth.Json

variable {α β : Type} {room : Nat} {Fits : α → Prop}

namespace Form

/-- No field is given yet. -/
def Blank : {α : Type} → Form α → Prop
  | _, .nil => True
  | _, .field _ _ _ given rest => given = none ∧ rest.Blank

/-- Every field is faithful to its values, and what is given or fallen back on fits. -/
inductive Faithful : {α : Type} → Form α → (α → Prop) → Nat → Prop where
  | nil {room : Nat} : Faithful .nil (fun _ => True) room
  | field {α β : Type} {name : String} {codec : Codec α} {fallback given : Option α} {rest : Form β}
      {Fits : α → Prop} {FitsRest : β → Prop} {room : Nat} (own : codec.Faithful Fits room)
      (fallback_fits : ∀ a, fallback = some a → Fits a) (given_fits : ∀ a, given = some a → Fits a)
      (others : rest.Faithful FitsRest room) :
      Faithful (.field name codec fallback given rest) (fun values => Fits values.1 ∧ FitsRest values.2)
        room

/-- Each field has its value already, or finds it among the members. -/
def Awaits (route : Route) (members : List (String × Value)) : {α : Type} → Form α → α → Prop
  | _, .nil, _ => True
  | _, .field name codec _ given rest, (a, values) =>
    (given = some a ∧ name ∉ members.map Prod.fst ∨
      given = none ∧ ∃ v, (name, v) ∈ members ∧ codec.decode route v.reading = .ok a) ∧
    rest.Awaits route members values

variable {route : Route} {members : List (String × Value)}

/-- What a form awaits fills it in. -/
theorem Awaits.filledBy {form : Form α} {values : α} (once : (members.map Prod.fst).Nodup)
    (awaits : form.Awaits route members values) :
    form.FilledBy route (readingMembers members) values := by
  induction form with
  | nil => trivial
  | field name codec fallback given rest ih =>
    obtain ⟨a, values⟩ := values
    refine ⟨?_, ih awaits.2⟩
    rw [Reading.entriesOf_readingMembers]
    rcases awaits.1 with ⟨rfl, absent⟩ | ⟨unknown, v, present, read⟩
    · have no_entry : entriesOf name members = [] := entriesOf_eq_nil fun member present same =>
        absent (List.mem_map.2 ⟨member, present, same⟩)
      exact .inl ⟨congrArg _ no_entry, Option.some_or⟩
    · exact .inr ⟨unknown, v.reading, congrArg _ (entriesOf_of_mem once present), read⟩

/-- Whatever the order of the members, a form that awaits them is filled. -/
theorem Awaits.fill_eq {form : Form α} {values : α} (distinct : form.names.Nodup)
    (once : (members.map Prod.fst).Nodup) (awaits : form.Awaits route members values) :
    form.fill route .closed (readingMembers members) = .ok values :=
  (fill_eq_ok_iff distinct).2 ⟨rfl, form.admits_readingMembers members, awaits.filledBy once⟩

/-! ### Faithful forms -/

variable {form : Form α}

/-- The members that are written for the values of a blank form are what it awaits. -/
theorem Faithful.awaits (faithful : form.Faithful Fits room) (blank : form.Blank) {values : α}
    (fits : Fits values)
    (written : ∀ member ∈ arrangedMembers route (form.members values), member ∈ members) :
    form.Awaits route members values := by
  induction faithful with
  | nil => trivial
  | @field α β name codec fallback given rest Fits FitsRest room own _ _ others ih =>
    obtain ⟨a, values⟩ := values
    rw [Form.members, arrangedMembers] at written
    obtain ⟨here, later⟩ := List.forall_mem_cons.1 written
    exact ⟨.inr ⟨blank.1, _, here, own.reads a fits.1 route⟩, ih blank.2 fits.2 later⟩

theorem map_fst_arrangedMembers (members : List (String × Value)) :
    (arrangedMembers route members).map Prod.fst = members.map Prod.fst := by
  induction members with
  | nil => rfl
  | cons member members ih =>
    obtain ⟨key, value⟩ := member
    rw [arrangedMembers, List.map_cons, List.map_cons, ih]

theorem map_fst_members (form : Form α) (values : α) :
    (form.members values).map Prod.fst = form.names := by
  induction form with
  | nil => rfl
  | field name codec fallback given rest ih =>
    obtain ⟨a, values⟩ := values
    rw [Form.members, List.map_cons, names, ih]

/-- What is written for the values of a blank form is read back, in whatever order a route meets it. -/
theorem Faithful.decodeObject_eq (faithful : form.Faithful Fits room) (blank : form.Blank)
    (distinct : form.names.Nodup) {values : α} (fits : Fits values) :
    form.decodeObject route ((Value.object (form.members values)).arranged route).reading =
      .ok values := by
  have once : ((arrangedMembers route (form.members values)).map Prod.fst).Nodup := by
    rwa [map_fst_arrangedMembers, map_fst_members]
  have moved := route.perm_arrange once
  have awaits : form.Awaits route (route.arrange (arrangedMembers route (form.members values))) values :=
    faithful.awaits blank fits fun member present => moved.mem_iff.2 present
  exact awaits.fill_eq distinct ((moved.map Prod.fst).nodup_iff.2 once)

theorem Faithful.plain_members (faithful : form.Faithful Fits room) {values : α} (fits : Fits values) :
    (Value.object (form.members values)).Plain (room + 1) := by
  refine .object ?_
  induction faithful with
  | nil => nofun
  | @field α β name codec fallback given rest Fits FitsRest room own _ _ others ih =>
    obtain ⟨a, values⟩ := values
    exact List.forall_mem_cons.2 ⟨own.plain a fits.1, ih fits.2⟩

/-- A form that takes a member stays faithful. -/
theorem Faithful.put (faithful : form.Faithful Fits room) {name : String} {reading : Reading}
    {filled : Form α} (put : form.put route name reading = .ok filled) :
    filled.Faithful Fits room := by
  induction faithful with
  | nil =>
    unfold Form.put at put
    split at put
    · cases put; exact .nil
    · cases put
  | @field α β own_name codec fallback given rest Fits FitsRest room own fallback_fits given_fits others ih =>
    by_cases same : own_name = name
    · subst same
      obtain ⟨-, a, decoded, rfl⟩ := put_self_eq_ok_iff.1 put
      exact .field own fallback_fits (fun _ same => Option.some.inj same ▸ own.fits _ _ _ decoded) others
    · obtain ⟨more, passed_on, rfl⟩ := (put_other_eq_ok_iff same).1 put
      exact .field own fallback_fits given_fits (ih passed_on)

theorem Faithful.fits_of_values (faithful : form.Faithful Fits room) {values : α}
    (taken : form.values = .ok values) : Fits values := by
  induction faithful with
  | nil => trivial
  | @field α β name codec fallback given rest Fits FitsRest room own fallback_fits given_fits others ih =>
    rw [Form.values] at taken
    split at taken
    · next a here =>
      obtain ⟨more, later, same⟩ := bind_eq_ok_iff.1 taken
      cases same
      refine ⟨?_, ih later⟩
      rcases Option.or_eq_some_iff.1 here with known | ⟨-, fallen_back⟩
      · exact given_fits a known
      · exact fallback_fits a fallen_back
    · cases taken

theorem Faithful.fits_of_fill (faithful : form.Faithful Fits room) {closing : Closing}
    {readings : List (Key × Reading)} {values : α}
    (filled : form.fill route closing readings = .ok values) : Fits values := by
  induction readings generalizing form with
  | nil =>
    obtain ⟨_, -, taken⟩ := bind_eq_ok_iff.1 filled
    exact faithful.fits_of_values taken
  | cons member readings ih =>
    obtain ⟨key, reading⟩ := member
    obtain ⟨name, -, rest⟩ := bind_eq_ok_iff.1 filled
    split at rest
    · next put => exact ih (faithful.put put) rest
    · cases rest

theorem Faithful.fits_of_fillInOrder (faithful : form.Faithful Fits room) {closing : Closing}
    {items : List Reading} {values : α}
    (filled : form.fillInOrder route closing items = .ok values) : Fits values := by
  induction faithful generalizing items with
  | nil => trivial
  | @field α β name codec fallback given rest Fits FitsRest room own fallback_fits given_fits others ih =>
    cases items with
    | nil =>
      obtain ⟨_, -, rest⟩ := bind_eq_ok_iff.1 filled
      cases fallback with
      | none => cases rest
      | some a =>
        obtain ⟨more, later, same⟩ := bind_eq_ok_iff.1 rest
        cases same
        exact ⟨fallback_fits a rfl, ih later⟩
    | cons item items =>
      obtain ⟨a, decoded, rest⟩ := bind_eq_ok_iff.1 filled
      obtain ⟨more, later, same⟩ := bind_eq_ok_iff.1 rest
      cases same
      exact ⟨own.fits _ _ _ decoded, ih later⟩

theorem Faithful.fits_of_decodeObject (faithful : form.Faithful Fits room) {reading : Reading}
    {values : α} (decoded : form.decodeObject route reading = .ok values) : Fits values := by
  cases reading with
  | object readings closing => exact faithful.fits_of_fill decoded
  | _ => cases decoded

theorem Faithful.fits_of_decodeArray (faithful : form.Faithful Fits room) {reading : Reading}
    {values : α} (decoded : form.decodeArray route reading = .ok values) : Fits values := by
  cases reading with
  | array items closing => exact faithful.fits_of_fillInOrder decoded
  | _ => cases decoded

theorem Faithful.fits_of_decode (faithful : form.Faithful Fits room) {reading : Reading}
    {values : α} (decoded : form.decode route reading = .ok values) : Fits values := by
  cases reading with
  | array items closing => exact faithful.fits_of_fillInOrder decoded
  | object readings closing => exact faithful.fits_of_fill decoded
  | _ => cases decoded

/-- The values of a form are read back from an array of what is written for them. -/
theorem Faithful.decodeArray_eq (faithful : form.Faithful Fits room) {values : α} (fits : Fits values) :
    form.decodeArray route
        ((Value.array ((form.members values).map Prod.snd)).arranged route).reading = .ok values := by
  rw [Value.arranged, Value.reading, decodeArray]
  induction faithful with
  | nil => rfl
  | @field α β name codec fallback given rest Fits FitsRest room own _ _ others ih =>
    obtain ⟨a, values⟩ := values
    rw [Form.members, List.map_cons, arrangedItems, readingItems, fillInOrder, own.reads a fits.1 route,
      ih fits.2]
    rfl

end Form

/-! ### Records -/

namespace Codec

variable {form : Form α} {make : α → β} {fields : β → α} {FitsWhole : β → Prop}

/-- A record is faithful to what has faithful fields, in whatever order they are met. -/
theorem faithful_record (faithful : form.Faithful Fits room) (blank : form.Blank)
    (distinct : form.names.Nodup) (make_fields : ∀ b, make (fields b) = b)
    (fields_make : ∀ a, fields (make a) = a) (same : ∀ b, FitsWhole b ↔ Fits (fields b)) :
    (record form make fields).Faithful FitsWhole (room + 1) where
  plain b fits := faithful.plain_members ((same b).1 fits)
  reads b fits route :=
    map_eq_ok_iff.2
      ⟨fields b, faithful.decodeObject_eq blank distinct ((same b).1 fits), make_fields b⟩
  fits route reading b decoded := by
    obtain ⟨values, read, rfl⟩ := map_eq_ok_iff.1 decoded
    rw [same, fields_make]
    exact faithful.fits_of_decode read

theorem faithful_tuple (faithful : form.Faithful Fits room)
    (make_fields : ∀ b, make (fields b) = b) (fields_make : ∀ a, fields (make a) = a)
    (same : ∀ b, FitsWhole b ↔ Fits (fields b)) :
    (tuple form make fields).Faithful FitsWhole (room + 1) where
  plain b fits := by
    cases faithful.plain_members ((same b).1 fits) with
    | object each =>
      refine .array fun v present => ?_
      obtain ⟨member, among, rfl⟩ := List.mem_map.1 present
      exact each member among
  reads b fits route :=
    map_eq_ok_iff.2 ⟨fields b, faithful.decodeArray_eq ((same b).1 fits), make_fields b⟩
  fits route reading b decoded := by
    obtain ⟨values, read, rfl⟩ := map_eq_ok_iff.1 decoded
    rw [same, fields_make]
    exact faithful.fits_of_decodeArray read

end Codec

end Labyrinth.Json
