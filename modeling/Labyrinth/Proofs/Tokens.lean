import Labyrinth.Json.Reading.Parser
import Labyrinth.Proofs.Scanning

/-!
# Well-formed texts are read

A well-formed text is cut into tokens, and its tokens are put together to the value that the text holds
(`Holds.ofText_eq`), however the value is written. Both steps are followed at once along the grammar: a
text yields tokens (`Yields`) if it is cut into them whatever is cut after it, and if they are read to its
value whatever follows them.
-/

namespace Labyrinth.Json

/-! ### Cutting a text -/

/-- A text that is cut into these tokens: blanks are passed over, and each token takes the characters in
    front. -/
inductive Cuts : List Char → List Token → Prop where
  | nil : Cuts [] []
  | blank {c : Char} {rest : List Char} {tokens : List Token} (blank : isBlank c = true)
      (cuts : Cuts rest tokens) : Cuts (c :: rest) tokens
  | token (c : Char) (front : List Char) {rest : List Char} {token : Token} {tokens : List Token}
      (scan : scanToken c (front ++ rest) = (token, rest)) (solid : isBlank c = false)
      (cuts : Cuts rest tokens) : Cuts (c :: (front ++ rest)) (token :: tokens)

theorem Cuts.tokensWith_eq {text : List Char} {tokens : List Token} (cuts : Cuts text tokens)
    {fuel : Nat} (enough : text.length ≤ fuel) : tokensWith fuel text = tokens := by
  induction cuts generalizing fuel with
  | nil => cases fuel <;> rfl
  | blank blank cuts ih =>
    rw [List.length_cons] at enough
    obtain ⟨fuel, rfl⟩ := Nat.exists_eq_add_of_le' (Nat.le_of_add_left_le enough)
    rw [tokensWith, if_pos blank, ih (Nat.le_of_add_le_add_right enough)]
  | @token c front rest token tokens scan solid cuts ih =>
    rw [List.length_cons, List.length_append] at enough
    obtain ⟨fuel, rfl⟩ := Nat.exists_eq_add_of_le' (Nat.le_of_add_left_le enough)
    have enough_rest : rest.length ≤ fuel := by omega
    rw [tokensWith, solid, scan]
    simp only [Bool.false_eq_true, if_false, ih enough_rest]

theorem Cuts.tokens_eq {text : List Char} {ts : List Token} (cuts : Cuts text ts) :
    tokens text = ts :=
  cuts.tokensWith_eq (Nat.le_refl _)

variable {written rest pad : List Char} {tokens : List Token}

theorem Cuts.openArray (cuts : Cuts rest tokens) : Cuts ('[' :: rest) (.openArray :: tokens) :=
  .token '[' [] rfl rfl cuts

theorem Cuts.closeArray (cuts : Cuts rest tokens) : Cuts (']' :: rest) (.closeArray :: tokens) :=
  .token ']' [] rfl rfl cuts

theorem Cuts.openObject (cuts : Cuts rest tokens) :
    Cuts ('\x7b' :: rest) (.openObject :: tokens) :=
  .token '\x7b' [] rfl rfl cuts

theorem Cuts.closeObject (cuts : Cuts rest tokens) :
    Cuts ('\x7d' :: rest) (.closeObject :: tokens) :=
  .token '\x7d' [] rfl rfl cuts

theorem Cuts.comma (cuts : Cuts rest tokens) : Cuts (',' :: rest) (.comma :: tokens) :=
  .token ',' [] rfl rfl cuts

theorem Cuts.colon (cuts : Cuts rest tokens) : Cuts (':' :: rest) (.colon :: tokens) :=
  .token ':' [] rfl rfl cuts

theorem Cuts.number {n : Numeral} (cuts : Cuts rest tokens) (numeral : SpellsNumeral n written)
    (follows : Follows rest) : Cuts (written ++ rest) (.number n :: tokens) := by
  have scan := numeral.scan follows
  obtain ⟨c, more, rfl, start⟩ := numeral.exists_cons
  have solid : isBlank c = false := by
    refine Bool.eq_false_iff.2 fun blank => ?_
    simp only [isBlank, Bool.or_eq_true, decide_eq_true_eq] at blank
    rcases blank with ((rfl | rfl) | rfl) | rfl <;> exact absurd start (by decide)
  exact .token c more (scanToken_of_numeral start scan) solid cuts

theorem Cuts.text {s : Option String} (cuts : Cuts rest tokens) (string : SpellsString s written) :
    Cuts (written ++ rest) (.text s :: tokens) := by
  obtain ⟨front, rfl, scan⟩ := string.scan
  exact .token '"' front (scan rest) rfl cuts

theorem isBlank_of_mem {c : Char} (blank : c ∈ [' ', '\t', '\n', '\r']) : isBlank c = true := by
  simpa [isBlank, or_assoc] using blank

theorem Cuts.blanks (cuts : Cuts rest tokens) (all : Blanks pad) :
    Cuts (pad ++ rest) tokens := by
  induction pad with
  | nil => exact cuts
  | cons c pad ih =>
    obtain ⟨head, tail⟩ := List.forall_mem_cons.1 all
    exact .blank (isBlank_of_mem head) (ih tail)

theorem Follows.blanks (follows : Follows rest) (all : Blanks pad) :
    Follows (pad ++ rest) := by
  cases pad with
  | nil => exact follows
  | cons c pad =>
    intro d head
    cases head
    exact List.mem_append_left [',', ']', '\x7d'] (all c List.mem_cons_self)

theorem follows_closeArray (rest : List Char) : Follows (']' :: rest) := by simp [Follows]

theorem follows_closeObject (rest : List Char) : Follows ('\x7d' :: rest) := by simp [Follows]

theorem follows_comma (rest : List Char) : Follows (',' :: rest) := by simp [Follows]

/-! ### Values -/

/-- A text that is cut into these tokens, whatever is cut after it, and tokens that are read to this value
    with three units of fuel for each, whatever follows them. -/
structure Yields (written : List Char) (tokens : List Token) (r : Reading) : Prop where
  cuts : ∀ {rest more}, Follows rest → Cuts rest more → Cuts (written ++ rest) (tokens ++ more)
  reads : ∀ {fuel} rest, 3 * tokens.length ≤ fuel → readValue fuel (tokens ++ rest) = (r, rest)
  opens : ∃ first more, tokens = first :: more ∧ first ≠ .closeArray

/-- A single token that is a value. -/
theorem Yields.single {token : Token} {r : Reading}
    (cuts : ∀ {rest more}, Follows rest → Cuts rest more → Cuts (written ++ rest) (token :: more))
    (reads : ∀ fuel rest, readValue (fuel + 1) (token :: rest) = (r, rest))
    (opens : token ≠ .closeArray) : Yields written [token] r where
  cuts := cuts
  reads {fuel} rest enough := by
    rw [List.length_singleton] at enough
    obtain ⟨fuel, rfl⟩ := Nat.exists_eq_add_of_le' (show 1 ≤ fuel by omega)
    exact reads fuel rest
  opens := ⟨token, [], rfl, opens⟩

/-- The blanks around a value do not matter. -/
theorem Yields.cuts_chars {item : Item} (yields : Yields item.text tokens item.value)
    {more : List Token} (follows : Follows rest) (cuts : Cuts rest more) :
    Cuts (item.chars ++ rest) (tokens ++ more) := by
  rw [Item.chars, List.append_assoc, List.append_assoc]
  refine .blanks ?_ item.blanks_before
  exact yields.cuts (follows.blanks item.blanks_after) (cuts.blanks item.blanks_after)

/-- The items of an array with commas between them, and the tokens of the items and of the end of the
    array. -/
structure YieldsItems (items : List Item) (tokens : List Token) : Prop where
  cuts : ∀ {rest more}, Cuts rest more →
    Cuts (separated (items.map Item.chars) ++ ']' :: rest) (tokens ++ more)
  reads : ∀ {fuel} rest, 3 * tokens.length ≤ fuel →
    readItems fuel (tokens ++ rest) = (items.map Item.value, .closed, rest)
  opens : ∃ first more, tokens = first :: more ∧ first ≠ .closeArray

theorem YieldsItems.last {item : Item} (yields : Yields item.text tokens item.value) :
    YieldsItems [item] (tokens ++ [.closeArray]) where
  cuts {rest more} cuts := by
    rw [List.append_assoc]
    exact yields.cuts_chars (follows_closeArray rest) cuts.closeArray
  reads {fuel} rest enough := by
    rw [List.length_append, List.length_singleton] at enough
    obtain ⟨fuel, rfl⟩ := Nat.exists_eq_add_of_le' (show 1 ≤ fuel by omega)
    rw [List.append_assoc, readItems, yields.reads _ (show _ ≤ fuel by omega)]
    rfl
  opens := by
    obtain ⟨first, more, rfl, opens⟩ := yields.opens
    exact ⟨first, _, rfl, opens⟩

theorem YieldsItems.cons {item next : Item} {items : List Item} {later : List Token}
    (yields : Yields item.text tokens item.value) (others : YieldsItems (next :: items) later) :
    YieldsItems (item :: next :: items) (tokens ++ .comma :: later) where
  cuts {rest more} cuts := by
    rw [List.map_cons, List.map_cons, separated_cons_cons, List.append_assoc, List.append_assoc]
    exact yields.cuts_chars (follows_comma _) (others.cuts cuts).comma
  reads {fuel} rest enough := by
    rw [List.length_append, List.length_cons] at enough
    obtain ⟨fuel, rfl⟩ := Nat.exists_eq_add_of_le' (show 1 ≤ fuel by omega)
    rw [List.append_assoc, readItems, yields.reads _ (show _ ≤ fuel by omega)]
    simp only [List.cons_append, others.reads rest (show _ ≤ fuel by omega), List.map_cons]
  opens := by
    obtain ⟨first, more, rfl, opens⟩ := yields.opens
    exact ⟨first, _, rfl, opens⟩

theorem exists_yieldsItems {items : List Item} (nonempty : items ≠ [])
    (each : ∀ item ∈ items, ∃ tokens, Yields item.text tokens item.value) :
    ∃ tokens, YieldsItems items tokens := by
  induction items with
  | nil => exact absurd rfl nonempty
  | cons item items ih =>
    obtain ⟨⟨tokens, yields⟩, tail⟩ := List.forall_mem_cons.1 each
    cases items with
    | nil => exact ⟨_, .last yields⟩
    | cons next items =>
      obtain ⟨later, others⟩ := ih (List.cons_ne_nil next items) tail
      exact ⟨_, .cons yields others⟩

/-- The members of an object with commas between them, and the tokens of the members and of the end of the
    object. -/
structure YieldsEntries (entries : List Entry) (tokens : List Token) : Prop where
  cuts : ∀ {rest more}, Cuts rest more →
    Cuts (separated (entries.map Entry.chars) ++ '\x7d' :: rest) (tokens ++ more)
  reads : ∀ {fuel} rest, 3 * tokens.length ≤ fuel →
    readMembers fuel (tokens ++ rest) = (entries.map Entry.member, .closed, rest)
  opens : ∃ first more, tokens = first :: more ∧ first ≠ .closeObject

section Entry

variable {entry : Entry} (yields : Yields entry.text tokens entry.value)

include yields

theorem Yields.cuts_entry {more : List Token} (follows : Follows rest) (cuts : Cuts rest more) :
    Cuts (entry.chars ++ rest) (.text entry.key :: .colon :: (tokens ++ more)) := by
  have value : Cuts (entry.toItem.chars ++ rest) (tokens ++ more) := yields.cuts_chars follows cuts
  have key := (value.colon.blanks entry.blanks_right).text entry.spelled
  simpa only [Entry.chars, List.append_assoc, List.cons_append] using key.blanks entry.blanks_left

theorem Yields.readMember_eq {fuel : Nat} (rest : List Token) (enough : 3 * tokens.length + 1 ≤ fuel) :
    readMember fuel (.text entry.key :: .colon :: (tokens ++ rest)) = (entry.member, rest) := by
  obtain ⟨fuel, rfl⟩ := Nat.exists_eq_add_of_le' (show 1 ≤ fuel by omega)
  rw [readMember, yields.reads rest (by omega), Entry.member]

theorem YieldsEntries.last :
    YieldsEntries [entry] (.text entry.key :: .colon :: (tokens ++ [.closeObject])) where
  cuts {rest more} cuts := by
    have whole := yields.cuts_entry (follows_closeObject rest) cuts.closeObject
    rwa [List.cons_append, List.cons_append, List.append_assoc]
  reads {fuel} rest enough := by
    simp only [List.length_cons, List.length_append] at enough
    obtain ⟨fuel, rfl⟩ := Nat.exists_eq_add_of_le' (show 1 ≤ fuel by omega)
    have member := yields.readMember_eq (.closeObject :: rest) (show _ ≤ fuel by omega)
    simp only [List.cons_append, List.append_assoc, List.nil_append, readMembers, member]
    rfl
  opens := ⟨_, _, rfl, Token.noConfusion⟩

theorem YieldsEntries.cons {next : Entry} {entries : List Entry} {later : List Token}
    (others : YieldsEntries (next :: entries) later) :
    YieldsEntries (entry :: next :: entries)
      (.text entry.key :: .colon :: (tokens ++ .comma :: later)) where
  cuts {rest more} cuts := by
    have whole := yields.cuts_entry (follows_comma _) (others.cuts cuts).comma
    rw [List.map_cons, List.map_cons, separated_cons_cons, List.append_assoc]
    rwa [List.cons_append, List.cons_append, List.cons_append, List.append_assoc]
  reads {fuel} rest enough := by
    simp only [List.length_cons, List.length_append] at enough
    obtain ⟨fuel, rfl⟩ := Nat.exists_eq_add_of_le' (show 1 ≤ fuel by omega)
    have member := yields.readMember_eq (.comma :: (later ++ rest)) (show _ ≤ fuel by omega)
    simp only [List.cons_append, List.append_assoc, readMembers, member,
      others.reads rest (show _ ≤ fuel by omega), List.map_cons]
  opens := ⟨_, _, rfl, Token.noConfusion⟩

end Entry

theorem exists_yieldsEntries {entries : List Entry} (nonempty : entries ≠ [])
    (each : ∀ entry ∈ entries, ∃ tokens, Yields entry.text tokens entry.value) :
    ∃ tokens, YieldsEntries entries tokens := by
  induction entries with
  | nil => exact absurd rfl nonempty
  | cons entry entries ih =>
    obtain ⟨⟨tokens, yields⟩, tail⟩ := List.forall_mem_cons.1 each
    cases entries with
    | nil => exact ⟨_, .last yields⟩
    | cons next entries =>
      obtain ⟨later, others⟩ := ih (List.cons_ne_nil next entries) tail
      exact ⟨_, .cons yields others⟩

/-- A text for a value is cut into tokens that are read to that value. -/
theorem Spells.exists_yields {r : Reading} (spelled : Spells r written) :
    ∃ tokens, Yields written tokens r := by
  induction spelled with
  | null =>
    exact ⟨_, .single (fun _ cuts => .token 'n' ['u', 'l', 'l'] rfl rfl cuts) (fun _ _ => rfl) nofun⟩
  | yes =>
    exact ⟨_, .single (fun _ cuts => .token 't' ['r', 'u', 'e'] rfl rfl cuts) (fun _ _ => rfl) nofun⟩
  | no =>
    exact ⟨_, .single (fun _ cuts => .token 'f' ['a', 'l', 's', 'e'] rfl rfl cuts) (fun _ _ => rfl)
      nofun⟩
  | number numeral =>
    exact ⟨_, .single (fun follows cuts => cuts.number numeral follows) (fun _ _ => rfl) nofun⟩
  | text string => exact ⟨_, .single (fun _ cuts => cuts.text string) (fun _ _ => rfl) nofun⟩
  | emptyArray blank =>
    refine ⟨[.openArray, .closeArray], fun _ cuts => ?_, fun rest enough => ?_, _, _, rfl, nofun⟩
    · rw [List.cons_append, List.append_assoc]
      exact (cuts.closeArray.blanks blank).openArray
    · obtain ⟨fuel, rfl⟩ := Nat.exists_eq_add_of_le' enough
      rfl
  | array nonempty each ih =>
    obtain ⟨tokens, yields⟩ := exists_yieldsItems nonempty ih
    refine ⟨.openArray :: tokens, fun _ cuts => ?_, @fun fuel rest enough => ?_, _, _, rfl, nofun⟩
    · rw [List.cons_append, List.append_assoc]
      exact (yields.cuts cuts).openArray
    · rw [List.length_cons] at enough
      obtain ⟨fuel, rfl⟩ := Nat.exists_eq_add_of_le' (show 1 ≤ fuel by omega)
      obtain ⟨first, more, rfl, opens⟩ := yields.opens
      have items := yields.reads rest (show _ ≤ fuel by omega)
      rw [List.cons_append, readValue, items]
      -- the array is not closed yet: its first item starts with some other token
      exact fun more closed => opens (List.cons.inj closed).1
  | emptyObject blank =>
    refine ⟨[.openObject, .closeObject], fun _ cuts => ?_, fun rest enough => ?_, _, _, rfl, nofun⟩
    · rw [List.cons_append, List.append_assoc]
      exact (cuts.closeObject.blanks blank).openObject
    · obtain ⟨fuel, rfl⟩ := Nat.exists_eq_add_of_le' enough
      rfl
  | object nonempty each ih =>
    obtain ⟨tokens, yields⟩ := exists_yieldsEntries nonempty ih
    refine ⟨.openObject :: tokens, fun _ cuts => ?_, @fun fuel rest enough => ?_, _, _, rfl, nofun⟩
    · rw [List.cons_append, List.append_assoc]
      exact (yields.cuts cuts).openObject
    · rw [List.length_cons] at enough
      obtain ⟨fuel, rfl⟩ := Nat.exists_eq_add_of_le' (show 1 ≤ fuel by omega)
      obtain ⟨first, more, rfl, opens⟩ := yields.opens
      have members := yields.reads rest (show _ ≤ fuel by omega)
      rw [List.cons_append, readValue, members]
      -- a member starts with its key, so the object is not closed yet
      exact fun more closed => opens (List.cons.inj closed).1

/-- A well-formed text holds what the reader finds in it, and nothing after that. -/
theorem Holds.ofText_eq {r : Reading} (holds : Holds written r) :
    Document.ofText written = ⟨r, false⟩ := by
  obtain @⟨item, spelled⟩ := holds
  obtain ⟨tokens, yields⟩ := spelled.exists_yields
  have cuts : Cuts (item.chars ++ []) (tokens ++ []) := yields.cuts_chars nofun .nil
  have read := yields.reads [] (Nat.le_add_right (3 * tokens.length) 3)
  rw [List.append_nil, List.append_nil] at cuts
  rw [List.append_nil] at read
  rw [Document.ofText, cuts.tokens_eq, read]
  rfl

/-! ### Passing over values -/

theorem skimItems_of_forall {items : List Reading} (each : ∀ item ∈ items, item.skim = .ok ()) :
    Reading.skimItems items = .ok () := by
  induction items with
  | nil => rfl
  | cons item items ih =>
    obtain ⟨head, tail⟩ := List.forall_mem_cons.1 each
    rw [Reading.skimItems, head]
    exact ih tail

theorem skimMembers_of_forall {entries : List Entry}
    (each : ∀ entry ∈ entries, entry.value.skim = .ok ()) :
    Reading.skimMembers (entries.map Entry.member) = .ok () := by
  induction entries with
  | nil => rfl
  | cons entry entries ih =>
    obtain ⟨head, tail⟩ := List.forall_mem_cons.1 each
    rw [List.map_cons, Entry.member, Reading.skimMembers, head]
    exact ih tail

/-- Nothing in a well-formed text stops a reader that passes over it. -/
theorem Spells.skim_eq {r : Reading} (spelled : Spells r written) : r.skim = .ok () := by
  induction spelled with
  | null | yes | no | number | text | emptyArray | emptyObject => rfl
  | array nonempty each ih =>
    rw [Reading.skim, skimItems_of_forall (List.forall_mem_map.2 ih)]
    rfl
  | object nonempty each ih =>
    rw [Reading.skim, skimMembers_of_forall ih]
    rfl

/-- No member of a well-formed object stops a reader that passes over its value. -/
theorem Holds.skim_member {members : List (Key × Reading)}
    (holds : Holds written (.object members .closed)) : ∀ member ∈ members, member.2.skim = .ok () := by
  generalize same : Reading.object members .closed = r at holds
  obtain @⟨item, spelled⟩ := holds
  rw [← same] at spelled
  generalize item.text = text at spelled
  cases spelled with
  | emptyObject => nofun
  | object nonempty each => exact List.forall_mem_map.2 fun entry present => (each entry present).skim_eq

end Labyrinth.Json
