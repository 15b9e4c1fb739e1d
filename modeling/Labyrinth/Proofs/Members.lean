import Mathlib.Data.List.Forall2
import Labyrinth.Proofs.Codecs

/-!
# Members and their keys

What stands for a key among the members of an object is a list (`entriesOf`), since a key can be repeated.
Settling the members of a whole value keeps the last entry of each key and drops the others
(`entriesOf_settle`), which changes nothing where no key is repeated (`Reading.keysOnce`). How a reading
and its whole value fit together is said case by case by `Reading.Settles`.
-/

namespace Labyrinth.Json

/-! ### The entries of a key -/

section Entries

variable {κ β : Type} [DecidableEq κ] {key other : κ} {value : β} {members : List (κ × β)}

/-- What stands for a key among the members, in order. -/
def entriesOf (key : κ) (members : List (κ × β)) : List β :=
  members.filterMap fun member => if member.1 = key then some member.2 else none

@[simp] theorem entriesOf_nil (key : κ) : entriesOf key ([] : List (κ × β)) = [] := rfl

@[simp] theorem entriesOf_cons_self (key : κ) (value : β) (members : List (κ × β)) :
    entriesOf key ((key, value) :: members) = value :: entriesOf key members :=
  List.filterMap_cons_some (if_pos rfl)

theorem entriesOf_cons_of_ne (ne : other ≠ key) (value : β) (members : List (κ × β)) :
    entriesOf key ((other, value) :: members) = entriesOf key members :=
  List.filterMap_cons_none (if_neg ne)

theorem entriesOf_eq_nil (absent : ∀ member ∈ members, member.1 ≠ key) :
    entriesOf key members = [] :=
  List.filterMap_eq_nil_iff.2 fun member present => if_neg (absent member present)

theorem mem_entriesOf_iff : value ∈ entriesOf key members ↔ (key, value) ∈ members := by
  simp only [entriesOf, List.mem_filterMap, Option.ite_none_right_eq_some, Option.some.injEq]
  constructor
  · rintro ⟨⟨_, _⟩, present, rfl, rfl⟩
    exact present
  · exact fun present => ⟨_, present, rfl, rfl⟩

/-- Where no key is repeated, a member is the only one of its key. -/
theorem entriesOf_of_mem (once : (members.map Prod.fst).Nodup) (present : (key, value) ∈ members) :
    entriesOf key members = [value] := by
  induction members with
  | nil => cases present
  | cons first members ih =>
    obtain ⟨other, entry⟩ := first
    obtain ⟨fresh, once⟩ := List.nodup_cons.1 once
    have differ : ∀ member ∈ members, member.1 ≠ other := fun member later same =>
      fresh (List.mem_map.2 ⟨member, later, same⟩)
    rcases List.mem_cons.1 present with same | later
    · cases same
      rw [entriesOf_cons_self, entriesOf_eq_nil differ]
    · rw [entriesOf_cons_of_ne (differ _ later).symm, ih once later]

end Entries

section Related

variable {α β : Type} {R : α → β → Prop} {a : α} {b : β}

theorem forall₂_singleton_left_iff {bs : List β} : List.Forall₂ R [a] bs ↔ ∃ b, R a b ∧ bs = [b] := by
  simp [List.forall₂_cons_left_iff]

theorem forall₂_singleton_right_iff {as : List α} : List.Forall₂ R as [b] ↔ ∃ a, R a b ∧ as = [a] := by
  simp [List.forall₂_cons_right_iff]

end Related

theorem flawed_eq_ok_iff {α : Type} {found : Except Flaw α} {a : α} :
    flawed found = .ok a ↔ found = .ok a := by
  cases found <;> simp [flawed]

theorem Key.name_eq_ok_iff {key : Key} {name : String} :
    key.name = .ok name ↔ key = .text (some name) := by
  rcases key with (_ | _) | _ <;> simp [Key.name]

theorem Closing.check_eq_ok_iff {closing : Closing} : closing.check = .ok () ↔ closing = .closed := by
  cases closing <;> simp [Closing.check]

/-! ### Settled members -/

namespace Reading

variable {key name : String} {value : Value} {members sorted : List (String × Value)}

/-- Members in the order of their keys, each key once. -/
def Sorted (members : List (String × Value)) : Prop := members.Pairwise fun a b => a.1 < b.1

theorem mem_of_mem_insertMember {member : String × Value}
    (present : member ∈ insertMember key value sorted) : member = (key, value) ∨ member ∈ sorted := by
  induction sorted with
  | nil => exact .inl (List.mem_singleton.1 present)
  | cons first sorted ih =>
    obtain ⟨k, v⟩ := first
    rw [insertMember] at present
    split at present
    · exact List.mem_cons.1 present
    · split at present
      · exact (List.mem_cons.1 present).imp_right (List.mem_cons_of_mem _)
      · rcases List.mem_cons.1 present with rfl | later
        · exact .inr List.mem_cons_self
        · exact (ih later).imp_right (List.mem_cons_of_mem _)

/-- Putting a member in its place keeps the order. -/
theorem Sorted.insertMember (ordered : Sorted sorted) (key : String) (value : Value) :
    Sorted (insertMember key value sorted) := by
  induction sorted with
  | nil => exact List.pairwise_singleton _ _
  | cons first sorted ih =>
    obtain ⟨k, v⟩ := first
    obtain ⟨below, rest⟩ := List.pairwise_cons.1 ordered
    rw [Reading.insertMember]
    split
    · next less =>
      refine List.pairwise_cons.2 ⟨List.forall_mem_cons.2 ⟨less, fun member later => ?_⟩, ordered⟩
      exact String.lt_trans less (below member later)
    · next not_less =>
      split
      · next same =>
        subst same
        exact List.pairwise_cons.2 ⟨below, rest⟩
      · next differ =>
        have greater : k < key := Std.lt_of_le_of_ne (String.not_lt.1 not_less) (Ne.symm differ)
        refine List.pairwise_cons.2 ⟨fun member present => ?_, ih rest⟩
        rcases mem_of_mem_insertMember present with rfl | later
        · exact greater
        · exact below member later

/-- A key has the entry that was put in for it last, and no other; the other keys keep theirs. -/
theorem Sorted.entriesOf_insertMember (ordered : Sorted sorted) (key : String) (value : Value) :
    entriesOf name (Reading.insertMember key value sorted) =
      if key = name then [value] else entriesOf name sorted := by
  induction sorted with
  | nil => by_cases same : key = name <;> simp [Reading.insertMember, same, entriesOf_cons_of_ne]
  | cons first sorted ih =>
    obtain ⟨k, v⟩ := first
    obtain ⟨below, rest⟩ := List.pairwise_cons.1 ordered
    -- behind the first member there are only greater keys
    have none_later : ∀ {low : String}, low ≤ k → entriesOf low sorted = [] := fun le =>
      entriesOf_eq_nil fun member later same =>
        absurd (Std.lt_of_le_of_lt le (below member later)) (same ▸ String.lt_irrefl _)
    rw [Reading.insertMember]
    split
    · next less =>
      by_cases same : key = name
      · subst same
        rw [if_pos rfl, entriesOf_cons_self, entriesOf_cons_of_ne (Std.ne_of_lt less).symm,
          none_later (Std.le_of_lt less)]
      · rw [if_neg same, entriesOf_cons_of_ne same]
    · split
      · next same_key =>
        subst same_key
        by_cases same : key = name
        · subst same
          rw [if_pos rfl, entriesOf_cons_self, none_later (Std.le_refl key)]
        · rw [if_neg same, entriesOf_cons_of_ne same, entriesOf_cons_of_ne same]
      · next differ =>
        by_cases here : k = name
        · subst here
          rw [if_neg differ, entriesOf_cons_self, entriesOf_cons_self, ih rest, if_neg differ]
        · rw [entriesOf_cons_of_ne here, entriesOf_cons_of_ne here, ih rest]

/-- Each key has its last entry, or if it has none, what it had before. -/
theorem Sorted.entriesOf_foldl (ordered : Sorted sorted) :
    entriesOf name (members.foldl
        (fun sorted member => Reading.insertMember member.1 member.2 sorted) sorted) =
      match (entriesOf name members).getLast? with
      | some last => [last]
      | none => entriesOf name sorted := by
  induction members generalizing sorted with
  | nil => rfl
  | cons member members ih =>
    obtain ⟨key, value⟩ := member
    rw [List.foldl_cons, ih (ordered.insertMember key value), ordered.entriesOf_insertMember]
    by_cases same : key = name
    · subst same
      rw [if_pos rfl, entriesOf_cons_self, List.getLast?_cons]
      cases (entriesOf key members).getLast? <;> rfl
    · rw [if_neg same, entriesOf_cons_of_ne same]

/-- Settled members have the last entry of each key. -/
theorem entriesOf_settle (name : String) (members : List (String × Value)) :
    entriesOf name (settle members) = (entriesOf name members).getLast?.toList := by
  rw [settle, Sorted.entriesOf_foldl List.Pairwise.nil]
  cases (entriesOf name members).getLast? <;> rfl

/-- Where no key is repeated, settled members have the entries that they had before. -/
theorem entriesOf_settle_of_nodup (once : (members.map Prod.fst).Nodup) (name : String) :
    entriesOf name (settle members) = entriesOf name members := by
  rw [entriesOf_settle]
  cases entries : entriesOf name members with
  | nil => rfl
  | cons value rest =>
    have present : (name, value) ∈ members := mem_entriesOf_iff.1 (entries ▸ List.mem_cons_self)
    rw [← entries, entriesOf_of_mem once present]
    rfl

/-! ### Readings and their whole values -/

/-- The member of an object as it stands in the text and in the whole value: its key spells the name, and
    what stands for it has the value. -/
structure SettlesMember (room : Nat) (member : Key × Reading) (entry : String × Value) : Prop where
  key : member.1 = .text (some entry.1)
  value : member.2.value? room = .ok entry.2

/-- A reading and its whole value: the same scalars, the same items, and the members settled. -/
inductive Settles : Nat → Reading → Value → Prop where
  | null {room : Nat} : Settles room .null .null
  | bool {room : Nat} (b : Bool) : Settles room (.bool b) (.bool b)
  | number {room : Nat} (n : Numeral) : Settles room (.number n) (.number n)
  | text {room : Nat} (s : String) : Settles room (.text (some s)) (.text s)
  | array {room : Nat} {items : List Reading} {values : List Value}
      (each : items.Forall₂ (fun item value => item.value? room = .ok value) values) :
      Settles (room + 1) (.array items .closed) (.array values)
  | object {room : Nat} {members : List (Key × Reading)} {entries : List (String × Value)}
      (each : members.Forall₂ (SettlesMember room) entries) :
      Settles (room + 1) (.object members .closed) (.object (settle entries))

variable {room : Nat} {reading : Reading}

theorem forall₂_of_values? {items : List Reading} {values : List Value}
    (found : values? room items = .ok values) :
    items.Forall₂ (fun item value => item.value? room = .ok value) values := by
  induction items generalizing values with
  | nil => cases found; exact .nil
  | cons item items ih =>
    obtain ⟨value, first, rest⟩ := bind_eq_ok_iff.1 found
    obtain ⟨others, later, same⟩ := bind_eq_ok_iff.1 rest
    cases same
    exact .cons first (ih later)

theorem forall₂_of_members? {members : List (Key × Reading)} {entries : List (String × Value)}
    (found : members? room members = .ok entries) : members.Forall₂ (SettlesMember room) entries := by
  induction members generalizing entries with
  | nil => cases found; exact .nil
  | cons member members ih =>
    obtain ⟨key, reading⟩ := member
    obtain ⟨name, spelt, rest⟩ := bind_eq_ok_iff.1 found
    obtain ⟨value, first, rest⟩ := bind_eq_ok_iff.1 rest
    obtain ⟨others, later, same⟩ := bind_eq_ok_iff.1 rest
    cases same
    exact .cons ⟨Key.name_eq_ok_iff.1 spelt, first⟩ (ih later)

theorem settles_of_value? {value : Value} (found : reading.value? room = .ok value) :
    Settles room reading value := by
  cases reading with
  | null => cases found; exact .null
  | bool b => cases found; exact .bool b
  | number n =>
    rw [value?] at found
    split at found
    · cases found
    · cases found; exact .number n
  | text s =>
    cases s with
    | none => cases found
    | some s => cases found; exact .text s
  | array items closing =>
    cases room with
    | zero => cases found
    | succ room =>
      obtain ⟨values, each, rest⟩ := bind_eq_ok_iff.1 found
      obtain ⟨_, closed, same⟩ := bind_eq_ok_iff.1 rest
      cases same
      obtain rfl := Closing.check_eq_ok_iff.1 closed
      exact .array (forall₂_of_values? each)
  | object members closing =>
    cases room with
    | zero => cases found
    | succ room =>
      obtain ⟨entries, each, rest⟩ := bind_eq_ok_iff.1 found
      obtain ⟨_, closed, same⟩ := bind_eq_ok_iff.1 rest
      cases same
      obtain rfl := Closing.check_eq_ok_iff.1 closed
      exact .object (forall₂_of_members? each)
  | broken fault => cases found

mutual

/-- Nothing in the text of a whole value stops a reader that passes over it. -/
theorem skim_of_value? {room : Nat} : ∀ {reading : Reading} {value : Value},
    reading.value? room = .ok value → reading.skim = .ok ()
  | .null, _, _ | .bool _, _, _ | .number _, _, _ | .text _, _, _ => rfl
  | .array items closing, _, found => by
    cases settles_of_value? found with
    | array each =>
      rw [skim, skimItems_of_forall₂ each]
      rfl
  | .object members closing, _, found => by
    cases settles_of_value? found with
    | object each =>
      rw [skim, skimMembers_of_forall₂ each]
      rfl

theorem skimItems_of_forall₂ {room : Nat} : ∀ {items : List Reading} {values : List Value},
    items.Forall₂ (fun item value => item.value? room = .ok value) values → skimItems items = .ok ()
  | [], _, _ => rfl
  | item :: rest, _, .cons first later => by
    rw [skimItems, skim_of_value? first]
    exact skimItems_of_forall₂ later

theorem skimMembers_of_forall₂ {room : Nat} :
    ∀ {members : List (Key × Reading)} {entries : List (String × Value)},
    members.Forall₂ (SettlesMember room) entries → skimMembers members = .ok ()
  | [], _, _ => rfl
  | (key, reading) :: rest, _, .cons ⟨spelt, first⟩ later => by
    obtain rfl : key = _ := spelt
    rw [skimMembers, skim_of_value? first]
    exact skimMembers_of_forall₂ later

end

/-! ### Repeated keys -/

/-- The names that the keys of members spell; a key without characters spells none. -/
def namesOf (members : List (Key × Reading)) : List String :=
  members.filterMap fun member => member.1.name.toOption

mutual

/-- Whether no object in the reading has two members whose keys spell the same name. -/
def keysOnce : Reading → Bool
  | .null | .bool _ | .number _ | .text _ | .broken _ => true
  | .array items _ => keysOnceInItems items
  | .object members _ => decide (namesOf members).Nodup && keysOnceInMembers members

/-- Whether no object in any of the items repeats a key. -/
def keysOnceInItems : List Reading → Bool
  | [] => true
  | item :: rest => keysOnce item && keysOnceInItems rest

/-- Whether no object in the value of any of the members repeats a key. -/
def keysOnceInMembers : List (Key × Reading) → Bool
  | [] => true
  | (_, value) :: rest => keysOnce value && keysOnceInMembers rest

end

theorem keysOnce_array_iff {items : List Reading} {closing : Closing} :
    (array items closing).keysOnce ↔ ∀ item ∈ items, item.keysOnce := by
  rw [keysOnce]
  induction items with
  | nil => simp [keysOnceInItems]
  | cons item items ih => rw [keysOnceInItems, Bool.and_eq_true, ih, List.forall_mem_cons]

theorem keysOnceInMembers_iff {members : List (Key × Reading)} :
    keysOnceInMembers members ↔ ∀ member ∈ members, member.2.keysOnce := by
  induction members with
  | nil => simp [keysOnceInMembers]
  | cons member members ih =>
    rw [keysOnceInMembers, Bool.and_eq_true, ih, List.forall_mem_cons]

theorem keysOnce_object_iff {members : List (Key × Reading)} {closing : Closing} :
    (object members closing).keysOnce ↔
      (namesOf members).Nodup ∧ ∀ member ∈ members, member.2.keysOnce := by
  rw [keysOnce, Bool.and_eq_true, decide_eq_true_iff, keysOnceInMembers_iff]

section Settled

variable {members : List (Key × Reading)} {entries : List (String × Value)}

theorem namesOf_eq (each : members.Forall₂ (SettlesMember room) entries) :
    namesOf members = entries.map Prod.fst := by
  induction each with
  | nil => rfl
  | @cons member entry members entries first _ ih =>
    rw [namesOf, List.filterMap_cons, first.key, List.map_cons, ← ih]
    rfl

/-- What stands for a key in the text is what stands for it in the whole value. -/
theorem forall₂_entriesOf (each : members.Forall₂ (SettlesMember room) entries) (name : String) :
    (entriesOf (.text (some name)) members).Forall₂
      (fun reading value => reading.value? room = .ok value) (entriesOf name entries) := by
  induction each with
  | nil => exact .nil
  | @cons member entry members entries first _ ih =>
    obtain ⟨key, reading⟩ := member
    obtain ⟨other, value⟩ := entry
    obtain ⟨rfl, found⟩ := first
    by_cases same : other = name
    · subst same
      rw [entriesOf_cons_self, entriesOf_cons_self]
      exact .cons found ih
    · have differ : Key.text (some other) ≠ .text (some name) := by simpa using same
      rwa [entriesOf_cons_of_ne same, entriesOf_cons_of_ne differ]

end Settled

/-- The entries of a key in a value, as they would be read. -/
theorem entriesOf_readingMembers (name : String) (members : List (String × Value)) :
    entriesOf (.text (some name)) (readingMembers members) =
      (entriesOf name members).map Value.reading := by
  induction members with
  | nil => rfl
  | cons member members ih =>
    obtain ⟨other, value⟩ := member
    rw [readingMembers]
    by_cases same : other = name
    · subst same
      rw [entriesOf_cons_self, entriesOf_cons_self, List.map_cons, ih]
    · have differ : Key.text (some other) ≠ .text (some name) := by simpa using same
      rw [entriesOf_cons_of_ne same, entriesOf_cons_of_ne differ, ih]

/-- Where no key is repeated, an object whose whole value has a single member has a single member. -/
theorem eq_singleton_of_settle {members : List (Key × Reading)} {entries : List (String × Value)}
    (each : members.Forall₂ (SettlesMember room) entries) (once : (entries.map Prod.fst).Nodup)
    {content : Reading}
    (only : readingMembers (settle entries) = [(.text (some name), content)]) :
    ∃ reading value, members = [(.text (some name), reading)] ∧ reading.value? room = .ok value ∧
      value.reading = content := by
  rw [readingMembers_eq_map] at only
  obtain ⟨⟨other, value⟩, settled, same⟩ := List.map_eq_singleton_iff.1 only
  cases same
  have moved : (settle entries).Perm entries := Route.whole.perm_arrange once
  rw [settled] at moved
  obtain rfl := List.singleton_perm.1 moved
  obtain ⟨⟨key, reading⟩, ⟨spelt, found⟩, rfl⟩ := forall₂_singleton_right_iff.1 each
  obtain rfl : key = _ := spelt
  exact ⟨reading, value, rfl, found, rfl⟩

end Reading
end Labyrinth.Json
