import Mathlib.Data.List.Perm.Basic
import Labyrinth.Json.Codec.Document
import Labyrinth.Proofs.Tokens

/-!
# The reading of a printed value

A printed value is a well-formed text (`Value.Plain.spells_print`), so it is read back to that value
(`Value.Plain.holds_print`). In order the decoder meets its members as they were written; on the whole
route each object is sorted first (`Value.arranged`), which moves members about but neither loses nor adds
one when no key repeats (`Route.perm_arrange`).
-/

namespace Labyrinth.Json

/-- A value as it is written for the types of the language: its numerals are whole numbers that fit in
    a word, and its arrays and objects are nested at most so deep. -/
inductive Value.Plain : Nat → Value → Prop where
  | null {room : Nat} : Plain room .null
  | bool {room : Nat} {b : Bool} : Plain room (.bool b)
  | int {room : Nat} {i : Int} (word : i.natAbs ≤ maxWord) : Plain room (.int i)
  | text {room : Nat} {s : String} : Plain room (.text s)
  | array {room : Nat} {items : List Value} (each : ∀ item ∈ items, Plain room item) :
      Plain (room + 1) (.array items)
  | object {room : Nat} {members : List (String × Value)}
      (each : ∀ member ∈ members, Plain room member.2) : Plain (room + 1) (.object members)

/-! ### Numerals are printed well-formed -/

/-- A number of several digits does not start with a zero. -/
theorem toDigits_of_head?_eq_zero {n : Nat} (zero : (Nat.toDigits 10 n).head? = some '0') :
    Nat.toDigits 10 n = ['0'] := by
  induction n using Nat.strongRecOn with
  | _ n ih =>
    by_cases small : n < 10
    · rw [Nat.toDigits_of_lt_base small] at zero ⊢
      rw [Option.some.inj zero]
    · have positive : n / 10 ≠ 0 := by omega
      rw [Nat.toDigits_of_base_le (by decide) (Nat.le_of_not_lt small), List.head?_append] at zero
      have front := ih (n / 10) (by omega) (by
        cases digits : Nat.toDigits 10 (n / 10) with
        | nil => exact absurd digits Nat.toDigits_ne_nil
        | cons d ds => rwa [digits] at zero)
      have value := congrArg (fun digits => Nat.ofDigitChars 10 digits 0) front
      rw [Nat.ofDigitChars_ten_toDigits] at value
      exact absurd value positive

theorem wholeDigits_toDigits (n : Nat) : WholeDigits (Nat.toDigits 10 n) := by
  by_cases zero : (Nat.toDigits 10 n).head? = some '0'
  · exact .inl (toDigits_of_head?_eq_zero zero)
  · have digit : ∀ c ∈ Nat.toDigits 10 n, c.isDigit = true := fun c member =>
      Nat.isDigit_of_mem_toDigits (by decide) (by decide) member
    exact .inr ⟨⟨Nat.toDigits_ne_nil, digit⟩, zero⟩

theorem Numeral.spells_ofInt (i : Int) : SpellsNumeral (ofInt i) (ofInt i).print := by
  have parts : SpellsNumeral (ofInt i) _ := .parts (wholeDigits_toDigits i.natAbs) .none .none
  simpa [print, ofInt] using parts

/-! ### Strings are printed well-formed -/

/-- The piece that a character is read as: one with neither letter nor sign of its own is written as a
    code unit. -/
def pieceOf (c : Char) : Piece :=
  if c.toNat < 32 ∧ controlLetter? c = none then .unit c.toNat else .char c

theorem codeUnit?_control {n : Nat} (small : n < 32) :
    codeUnit? '0' '0' (Nat.digitChar (n / 16)) (Nat.digitChar (n % 16)) = some n := by
  decide +revert

theorem spellsPiece_escape (c : Char) : SpellsPiece (pieceOf c) (escape c) := by
  unfold escape
  split
  · next quote =>
    subst quote
    exact .escape (by decide)
  · next no_quote =>
    split
    · next backslash =>
      subst backslash
      exact .escape (by decide)
    · next no_backslash =>
      split
      · next letter found =>
        unfold controlLetter? at found
        split at found <;> cases found <;> exact .escape (by decide)
      · next no_letter =>
        split
        · next small =>
          rw [pieceOf, if_pos ⟨small, no_letter⟩]
          exact .unit (codeUnit?_control small)
        · next large =>
          rw [pieceOf, if_neg fun control => large control.1]
          exact .plain (Nat.le_of_not_lt large) no_quote no_backslash

theorem spellsPieces_flatMap_escape (cs : List Char) :
    SpellsPieces (cs.map pieceOf) (cs.flatMap escape) := by
  induction cs with
  | nil => exact .nil
  | cons c cs ih => exact .cons (spellsPiece_escape c) ih

theorem joins_map_pieceOf (cs : List Char) : Joins (cs.map pieceOf) cs := by
  induction cs with
  | nil => exact .nil
  | cons c cs ih =>
    rw [List.map_cons, pieceOf]
    split
    · next control =>
      have single : Joins (.unit c.toNat :: cs.map pieceOf) (Char.ofNat c.toNat :: cs) :=
        .single (.inl (Nat.lt_trans control.1 (by decide))) ih
      rwa [Char.ofNat_toNat] at single
    · exact .char ih

theorem spellsString_printText (s : String) : SpellsString (some s) (printText s) := by
  have string := SpellsString.joined (spellsPieces_flatMap_escape s.toList) (joins_map_pieceOf s.toList)
  rwa [String.ofList_toList] at string

/-! ### Values are printed well-formed -/

/-- An item as it is printed, without blanks. -/
def Value.item (v : Value) : Item := ⟨v.reading, [], v.print, [], blanks_nil, blanks_nil⟩

@[simp] theorem Value.chars_item (v : Value) : v.item.chars = v.print := List.append_nil v.print

/-- A member as it is printed, without blanks. -/
def entryOf (key : String) (v : Value) : Entry :=
  ⟨v.item, some key, [], printText key, [], blanks_nil, blanks_nil, spellsString_printText key⟩

@[simp] theorem chars_entryOf (key : String) (v : Value) :
    (entryOf key v).chars = printText key ++ ':' :: v.print :=
  congrArg (fun text => printText key ++ ':' :: text) v.chars_item

theorem readingItems_eq_map (items : List Value) : readingItems items = items.map Value.reading := by
  induction items with
  | nil => rfl
  | cons item items ih => rw [readingItems, ih, List.map_cons]

theorem readingMembers_eq_map (members : List (String × Value)) :
    readingMembers members =
      members.map fun member => (.text (some member.1), member.2.reading) := by
  induction members with
  | nil => rfl
  | cons member members ih => rw [readingMembers, ih, List.map_cons]

theorem print_append_printItems (item : Value) (items : List Value) :
    item.print ++ printItems items =
      separated (((item :: items).map Value.item).map Item.chars) ++ [']'] := by
  induction items generalizing item with
  | nil => simp [printItems, separated]
  | cons next items ih =>
    have later := ih next
    simp only [List.map_cons, Value.chars_item] at later
    simp only [printItems, List.map_cons, separated_cons_cons, Value.chars_item, later,
      List.append_assoc, List.cons_append]

theorem print_append_printMembers (key : String) (v : Value) (members : List (String × Value)) :
    printText key ++ ':' :: (v.print ++ printMembers members) =
      separated ((((key, v) :: members).map fun member => entryOf member.1 member.2).map Entry.chars) ++
        ['\x7d'] := by
  induction members generalizing key v with
  | nil => simp [printMembers, separated]
  | cons next members ih =>
    obtain ⟨next_key, next_value⟩ := next
    have later := ih next_key next_value
    simp only [List.map_cons, chars_entryOf] at later
    simp only [printMembers, List.map_cons, separated_cons_cons, chars_entryOf, later,
      List.append_assoc, List.cons_append]

theorem Value.spells_array {items : List Value}
    (each : ∀ item ∈ items, Spells item.reading item.print) :
    Spells (Value.array items).reading (Value.array items).print := by
  rw [reading, readingItems_eq_map]
  cases items with
  | nil => exact .emptyArray blanks_nil
  | cons item items =>
    have nonempty : (item :: items).map Value.item ≠ [] := List.cons_ne_nil _ _
    have spelled := Spells.array nonempty (List.forall_mem_map.2 each)
    rw [← print_append_printItems, List.map_map] at spelled
    exact spelled

theorem Value.spells_object {members : List (String × Value)}
    (each : ∀ member ∈ members, Spells member.2.reading member.2.print) :
    Spells (Value.object members).reading (Value.object members).print := by
  rw [reading, readingMembers_eq_map]
  cases members with
  | nil => exact .emptyObject blanks_nil
  | cons member members =>
    obtain ⟨key, value⟩ := member
    have nonempty : ((key, value) :: members).map (fun member => entryOf member.1 member.2) ≠ [] :=
      List.cons_ne_nil _ _
    have spelled := Spells.object nonempty (List.forall_mem_map.2 each)
    rw [← print_append_printMembers, List.map_map] at spelled
    show Spells _ ('\x7b' :: printText key ++ ':' :: value.print ++ printMembers members)
    simp only [List.cons_append, List.append_assoc]
    exact spelled

/-- The compact text of a value is well formed. -/
theorem Value.Plain.spells_print {room : Nat} {v : Value} (plain : v.Plain room) :
    Spells v.reading v.print := by
  induction plain with
  | null => exact .null
  | @bool room b =>
    cases b with
    | true => exact .yes
    | false => exact .no
  | int => exact .number (Numeral.spells_ofInt _)
  | text => exact .text (spellsString_printText _)
  | array each ih => exact spells_array ih
  | object each ih => exact spells_object ih

/-- What the compact text of a value holds is that value. -/
theorem Value.Plain.holds_print {room : Nat} {v : Value} (plain : v.Plain room) :
    Holds v.print v.reading := by
  have holds : Holds v.item.chars v.reading := .alone plain.spells_print
  rwa [v.chars_item] at holds

/-! ### The reading as a whole value -/

/-- The order in which a route meets the members of an object: as they are written, or sorted. -/
def Route.arrange : Route → List (String × Value) → List (String × Value)
  | .inOrder, members => members
  | .whole, members => Reading.settle members

mutual

/-- A value as a route meets it. -/
def Value.arranged (route : Route) : Value → Value
  | .null => .null
  | .bool b => .bool b
  | .number n => .number n
  | .text s => .text s
  | .array items => .array (arrangedItems route items)
  | .object members => .object (route.arrange (arrangedMembers route members))

/-- The items of an array, each as a route meets it. -/
def arrangedItems (route : Route) : List Value → List Value
  | [] => []
  | item :: rest => item.arranged route :: arrangedItems route rest

/-- The members of an object in the order of the text, each with its value as a route meets it. -/
def arrangedMembers (route : Route) : List (String × Value) → List (String × Value)
  | [] => []
  | (key, value) :: rest => (key, value.arranged route) :: arrangedMembers route rest

end

theorem Value.Plain.arranged_inOrder {room : Nat} {v : Value} (plain : v.Plain room) :
    v.arranged .inOrder = v := by
  induction plain with
  | null | bool | int | text => rfl
  | @array room items each ih =>
    rw [arranged]
    congr 1
    induction items with
    | nil => rfl
    | cons item items more =>
      obtain ⟨head, tail⟩ := List.forall_mem_cons.1 ih
      rw [arrangedItems, head, more (List.forall_mem_cons.1 each).2 tail]
  | @object room members each ih =>
    rw [arranged, Route.arrange]
    congr 1
    induction members with
    | nil => rfl
    | cons member members more =>
      obtain ⟨head, tail⟩ := List.forall_mem_cons.1 ih
      rw [arrangedMembers, head, more (List.forall_mem_cons.1 each).2 tail]

theorem le_foldl_digits (digits : List Char) (n : Nat) :
    n ≤ digits.foldl (fun n c => 10 * n + (c.toNat - 48)) n := by
  induction digits generalizing n with
  | nil => exact Nat.le_refl n
  | cons c digits ih => exact Nat.le_trans (by omega) (ih (10 * n + (c.toNat - 48)))

/-- A number as it is met on the way to one that fits in a word fits itself. -/
theorem significand_of_le {n : Nat} {digits : List Char}
    (word : digits.foldl (fun n c => 10 * n + (c.toNat - 48)) n ≤ maxWord) :
    (Numeral.significand n digits).2 = 0 := by
  induction digits generalizing n with
  | nil => rfl
  | cons c digits ih =>
    have fits : 10 * n + (c.toNat - 48) ≤ maxWord := Nat.le_trans (le_foldl_digits digits _) word
    rw [Numeral.significand, if_pos fits, ih word]

theorem ofDigits_toDigits (n : Nat) : ofDigits (Nat.toDigits 10 n) = n := by
  have value := @Nat.ofDigitChars_ten_toDigits n
  rwa [Nat.ofDigitChars_eq_foldl] at value

/-- Whole numbers that fit in a word are not too large. -/
theorem Numeral.isTooLarge_ofInt {i : Int} (word : i.natAbs ≤ maxWord) :
    (ofInt i).isTooLarge = false := by
  have surplus : (significand 0 (Nat.toDigits 10 i.natAbs)).2 = 0 := by
    refine significand_of_le ?_
    rw [← ofDigits, ofDigits_toDigits]
    exact word
  simp [isTooLarge, scaled, ofInt, surplus, significand, shift]

theorem values?_readingItems {room : Nat} {items : List Value}
    (each : ∀ v ∈ items, v.reading.value? room = .ok (v.arranged .whole)) :
    Reading.values? room (readingItems items) = .ok (arrangedItems .whole items) := by
  induction items with
  | nil => rfl
  | cons item items ih =>
    obtain ⟨head, tail⟩ := List.forall_mem_cons.1 each
    rw [readingItems, Reading.values?, head, ih tail]
    rfl

theorem members?_readingMembers {room : Nat} {members : List (String × Value)}
    (each : ∀ member ∈ members, member.2.reading.value? room = .ok (member.2.arranged .whole)) :
    Reading.members? room (readingMembers members) = .ok (arrangedMembers .whole members) := by
  induction members with
  | nil => rfl
  | cons member members ih =>
    obtain ⟨head, tail⟩ := List.forall_mem_cons.1 each
    rw [readingMembers, Reading.members?, head, ih tail]
    rfl

/-- A value with room for its nesting is read as a whole value. -/
theorem Value.Plain.value?_reading {room : Nat} {v : Value} (plain : v.Plain room) :
    v.reading.value? room = .ok (v.arranged .whole) := by
  induction plain with
  | null | bool | text => rfl
  | int word =>
    rw [Value.int, reading, Reading.value?, Numeral.isTooLarge_ofInt word]
    rfl
  | array each ih =>
    rw [reading, Reading.value?, values?_readingItems ih]
    rfl
  | object each ih =>
    rw [reading, Reading.value?, members?_readingMembers ih]
    rfl

mutual

/-- Nothing in a value stops a reader that passes over it. -/
theorem Value.skim_reading : ∀ v : Value, v.reading.skim = .ok ()
  | .null | .bool _ | .number _ | .text _ => rfl
  | .array items => by
    rw [Value.reading, Reading.skim, skimItems_readingItems items]
    rfl
  | .object members => by
    rw [Value.reading, Reading.skim, skimMembers_readingMembers members]
    rfl

theorem skimItems_readingItems : ∀ items : List Value,
    Reading.skimItems (readingItems items) = .ok ()
  | [] => rfl
  | item :: rest => by
    rw [readingItems, Reading.skimItems, item.skim_reading]
    exact skimItems_readingItems rest

theorem skimMembers_readingMembers : ∀ members : List (String × Value),
    Reading.skimMembers (readingMembers members) = .ok ()
  | [] => rfl
  | (key, value) :: rest => by
    rw [readingMembers, Reading.skimMembers, value.skim_reading]
    exact skimMembers_readingMembers rest

end

/-! ### Sorting members -/

theorem perm_insertMember {key : String} (value : Value) {sorted : List (String × Value)}
    (fresh : key ∉ sorted.map Prod.fst) :
    (Reading.insertMember key value sorted).Perm ((key, value) :: sorted) := by
  induction sorted with
  | nil => exact .refl _
  | cons member sorted ih =>
    obtain ⟨k, v⟩ := member
    rw [List.map_cons, List.mem_cons, not_or] at fresh
    rw [Reading.insertMember, if_neg fresh.1]
    split
    · exact .refl _
    · exact ((ih fresh.2).cons _).trans (.swap _ _ _)

/-- Putting members in their places among sorted ones loses none, where no key repeats. -/
theorem perm_foldl_insertMember {members sorted : List (String × Value)}
    (once : ((members ++ sorted).map Prod.fst).Nodup) :
    (members.foldl (fun sorted member => Reading.insertMember member.1 member.2 sorted)
      sorted).Perm (members ++ sorted) := by
  induction members generalizing sorted with
  | nil => exact .refl _
  | cons member members ih =>
    obtain ⟨key, value⟩ := member
    have fresh : key ∉ sorted.map Prod.fst := by
      rw [List.cons_append, List.map_cons, List.nodup_cons, List.map_append, List.mem_append, not_or]
        at once
      exact once.1.2
    have moved : (members ++ Reading.insertMember key value sorted).Perm
        ((key, value) :: (members ++ sorted)) :=
      ((perm_insertMember value fresh).append_left members).trans List.perm_middle
    exact (ih ((moved.map Prod.fst).nodup_iff.2 once)).trans moved

/-- Where no key repeats, a route meets each member once. -/
theorem Route.perm_arrange (route : Route) {members : List (String × Value)}
    (once : (members.map Prod.fst).Nodup) : (route.arrange members).Perm members := by
  cases route with
  | inOrder => exact .refl _
  | whole =>
    have all := @perm_foldl_insertMember members [] (by rwa [List.append_nil])
    rwa [List.append_nil] at all

/-! ### Decoding a printed value -/

/-- In order, decoding a well-formed text is decoding what it holds. -/
theorem Holds.decodeText_eq {α : Type} {text : List Char} {r : Reading} (holds : Holds text r)
    (codec : Codec α) : codec.decodeText .inOrder text = codec.decode .inOrder r := by
  unfold Codec.decodeText
  rw [holds.ofText_eq]
  dsimp only
  cases codec.decode .inOrder r <;> rfl

/-- Decoding the compact text of a value is decoding the value as the route meets it. -/
theorem Codec.decodeText_print {α : Type} (codec : Codec α) (route : Route) {v : Value}
    (plain : v.Plain Reading.deepest) :
    codec.decodeText route v.print = codec.decode route (v.arranged route).reading := by
  cases route with
  | inOrder => rw [plain.holds_print.decodeText_eq, plain.arranged_inOrder]
  | whole =>
    unfold decodeText
    rw [plain.holds_print.ofText_eq]
    dsimp only
    rw [plain.value?_reading]
    rfl

end Labyrinth.Json
