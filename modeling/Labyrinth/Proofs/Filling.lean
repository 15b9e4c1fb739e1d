import Labyrinth.Json.Codec.Record
import Labyrinth.Proofs.Members

/-!
# What a form is filled in with

Members come to a form one by one, each to the field of its name or past all fields. In the end the order
did not matter: each field has its only entry among the members or what it falls back on
(`Form.FilledBy`), and no member stopped the reader (`Form.Admits`). That is all there is to filling in a
form from an object (`Form.fill_eq_ok_iff`), on either route.
-/

namespace Labyrinth.Json.Form

/-- The names of the fields in order. -/
def names : {α : Type} → Form α → List String
  | _, .nil => []
  | _, .field name _ _ _ rest => name :: rest.names

/-- The member has a name, and if the form has no such field, nothing in it stops a reader that passes over
    it. -/
def Admits {α : Type} (form : Form α) (member : Key × Reading) : Prop :=
  ∃ name, member.1 = .text (some name) ∧ (name ∉ form.names → member.2.skim = .ok ())

/-- A field without an entry among the members was given or falls back on its value; any other field was
    not given, and has one entry, which is decoded to its value. -/
def FilledBy (route : Route) (members : List (Key × Reading)) : {α : Type} → Form α → α → Prop
  | _, .nil, _ => True
  | _, .field name codec fallback given rest, (a, values) =>
    (entriesOf (.text (some name)) members = [] ∧ given.or fallback = some a ∨
      given = none ∧ ∃ reading, entriesOf (.text (some name)) members = [reading] ∧
        codec.decode route reading = .ok a) ∧
    rest.FilledBy route members values

/-- Nothing in a value stops a reader, whatever the form. -/
theorem admits_readingMembers {α : Type} (form : Form α) (members : List (String × Value)) :
    ∀ member ∈ readingMembers members, form.Admits member := by
  rw [readingMembers_eq_map]
  refine List.forall_mem_map.2 fun member _ => ?_
  exact ⟨member.1, rfl, fun _ => member.2.skim_reading⟩

/-- No member stops a reader if there is a whole value. -/
theorem admits_of_forall₂ {α : Type} (form : Form α) {room : Nat} {members : List (Key × Reading)}
    {entries : List (String × Value)}
    (each : members.Forall₂ (Reading.SettlesMember room) entries) :
    ∀ member ∈ members, form.Admits member := by
  induction each with
  | nil => nofun
  | cons first _ ih =>
    exact List.forall_mem_cons.2 ⟨⟨_, first.key, fun _ => Reading.skim_of_value? first.value⟩, ih⟩

theorem admits_congr {α : Type} {form other : Form α} (same : other.names = form.names)
    {member : Key × Reading} : other.Admits member ↔ form.Admits member := by
  rw [Admits, Admits, same]

variable {α β : Type} {route : Route} {name own : String} {reading : Reading}
  {members : List (Key × Reading)} {form : Form α}

/-! ### One member -/

section Put

variable {codec : Codec α} {fallback given : Option α} {rest : Form β} {filled : Form (α × β)}

theorem put_self_eq_ok_iff :
    (field name codec fallback given rest).put route name reading = .ok filled ↔
      given = none ∧ ∃ a, codec.decode route reading = .ok a ∧
        filled = .field name codec fallback (some a) rest := by
  unfold put
  rw [if_pos rfl]
  cases given with
  | some b => simp
  | none => cases codec.decode route reading <;> simp [eq_comm]

theorem put_other_eq_ok_iff (other : own ≠ name) :
    (field own codec fallback given rest).put route name reading = .ok filled ↔
      ∃ more, rest.put route name reading = .ok more ∧
        filled = .field own codec fallback given more := by
  rw [put.eq_def]
  dsimp only
  rw [if_neg other]
  cases rest.put route name reading <;> simp [eq_comm]

end Put

theorem names_of_put {filled : Form α} (put : form.put route name reading = .ok filled) :
    filled.names = form.names := by
  induction form with
  | nil =>
    unfold Form.put at put
    split at put
    · cases put; rfl
    · cases put
  | field own codec fallback given rest ih =>
    by_cases same : own = name
    · subst same
      obtain ⟨-, a, -, rfl⟩ := put_self_eq_ok_iff.1 put
      rfl
    · obtain ⟨more, later, rfl⟩ := (put_other_eq_ok_iff same).1 put
      rw [names, names, ih later]

/-- A member of another name adds nothing to a field. -/
theorem filledBy_cons_iff {values : α} (other : name ∉ form.names) :
    form.FilledBy route ((.text (some name), reading) :: members) values ↔
      form.FilledBy route members values := by
  induction form with
  | nil => exact Iff.rfl
  | field own codec fallback given rest ih =>
    obtain ⟨a, values⟩ := values
    obtain ⟨differ, other⟩ := not_or.1 (List.mem_cons.not.1 other)
    have differ : Key.text (some name) ≠ .text (some own) := by simpa using differ
    rw [FilledBy, FilledBy, entriesOf_cons_of_ne differ, ih other]

/-- A form takes a member and is then filled by the others exactly if it is filled by all of them, and the
    reader is not stopped if no field has the name. -/
theorem exists_put_iff {values : α} (distinct : form.names.Nodup) :
    (∃ filled, form.put route name reading = .ok filled ∧ filled.FilledBy route members values) ↔
      (name ∉ form.names → reading.skim = .ok ()) ∧
        form.FilledBy route ((.text (some name), reading) :: members) values := by
  induction form with
  | nil =>
    unfold put
    cases reading.skim <;> simp [names, FilledBy]
  | field own codec fallback given rest ih =>
    obtain ⟨a, values⟩ := values
    obtain ⟨fresh, distinct⟩ := List.nodup_cons.1 distinct
    by_cases same : own = name
    · subst same
      rw [FilledBy, entriesOf_cons_self, filledBy_cons_iff fresh]
      constructor
      · rintro ⟨_, put, filled⟩
        obtain ⟨rfl, b, decoded, rfl⟩ := put_self_eq_ok_iff.1 put
        obtain ⟨here, later⟩ := filled
        refine ⟨fun absent => absurd List.mem_cons_self absent, .inr ⟨rfl, reading, ?_⟩, later⟩
        obtain ⟨no_more, same⟩ | ⟨known, -⟩ := here
        · cases same
          exact ⟨congrArg _ no_more, decoded⟩
        · cases known
      · rintro ⟨-, ⟨no_entry, -⟩ | ⟨rfl, _, only, decoded⟩, later⟩
        · cases no_entry
        · obtain ⟨rfl, no_more⟩ := List.cons.inj only
          exact ⟨_, put_self_eq_ok_iff.2 ⟨rfl, a, decoded, rfl⟩, .inl ⟨no_more, rfl⟩, later⟩
    · have differ : Key.text (some name) ≠ .text (some own) := by simpa using Ne.symm same
      have others : name ∉ names (.field own codec fallback given rest) ↔ name ∉ rest.names := by
        simp [names, Ne.symm same]
      rw [FilledBy, entriesOf_cons_of_ne differ, others, and_left_comm, ← ih distinct]
      constructor
      · rintro ⟨_, put, filled⟩
        obtain ⟨more, passed_on, rfl⟩ := (put_other_eq_ok_iff same).1 put
        exact ⟨filled.1, more, passed_on, filled.2⟩
      · rintro ⟨here, more, put, later⟩
        exact ⟨_, (put_other_eq_ok_iff same).2 ⟨more, put, rfl⟩, here, later⟩

/-! ### All members -/

/-- Without members, every field was given or falls back. -/
theorem values_eq_ok_iff {values : α} :
    form.values = .ok values ↔ form.FilledBy route [] values := by
  induction form with
  | nil => exact iff_of_true rfl trivial
  | field name codec fallback given rest ih =>
    obtain ⟨a, values⟩ := values
    rw [Form.values, FilledBy]
    cases known : given.or fallback with
    | none => simp
    | some b =>
      refine bind_eq_ok_iff.trans ?_
      constructor
      · rintro ⟨others, later, same⟩
        cases same
        exact ⟨.inl ⟨rfl, rfl⟩, ih.1 later⟩
      · rintro ⟨⟨-, same⟩ | ⟨-, _, present, -⟩, later⟩
        · cases same
          exact ⟨values, ih.2 later, rfl⟩
        · cases present

theorem fill_cons_eq_ok_iff {key : Key} {closing : Closing} {values : α} :
    form.fill route closing ((key, reading) :: members) = .ok values ↔
      ∃ name, key = .text (some name) ∧ ∃ filled, form.put route name reading = .ok filled ∧
        filled.fill route closing members = .ok values := by
  rw [fill, bind_eq_ok_iff]
  refine exists_congr fun name => and_congr ?_ ?_
  · rw [flawed_eq_ok_iff, Key.name_eq_ok_iff]
  · cases form.put route name reading <;> simp

/-- A form is filled in from an object exactly if the object is closed, no member stops the reader, and
    each field is filled by the members. -/
theorem fill_eq_ok_iff {values : α} {closing : Closing} (distinct : form.names.Nodup) :
    form.fill route closing members = .ok values ↔
      closing = .closed ∧ (∀ member ∈ members, form.Admits member) ∧
        form.FilledBy route members values := by
  induction members generalizing form with
  | nil =>
    rw [fill]
    cases closing with
    | closed => simpa [flawed, Closing.check, bind, Except.bind] using values_eq_ok_iff
    | cut flaw => simp [flawed, Closing.check, bind, Except.bind]
  | cons member members ih =>
    obtain ⟨key, reading⟩ := member
    rw [fill_cons_eq_ok_iff, List.forall_mem_cons]
    constructor
    · rintro ⟨name, rfl, filled, put, rest⟩
      have same_names : filled.names = form.names := names_of_put put
      obtain ⟨closed, admitted, later⟩ := (ih (same_names ▸ distinct)).1 rest
      obtain ⟨skimmed, filled_by⟩ := (exists_put_iff distinct).1 ⟨filled, put, later⟩
      refine ⟨closed, ⟨⟨name, rfl, skimmed⟩, fun member present => ?_⟩, filled_by⟩
      exact (admits_congr same_names).1 (admitted member present)
    · rintro ⟨closed, ⟨⟨name, rfl, skimmed⟩, admitted⟩, filled_by⟩
      obtain ⟨filled, put, later⟩ := (exists_put_iff distinct).2 ⟨skimmed, filled_by⟩
      have same_names : filled.names = form.names := names_of_put put
      have still_admitted : ∀ member ∈ members, filled.Admits member := fun member present =>
        (admits_congr same_names).2 (admitted member present)
      exact ⟨name, rfl, filled, put, (ih (same_names ▸ distinct)).2 ⟨closed, still_admitted, later⟩⟩

end Labyrinth.Json.Form
