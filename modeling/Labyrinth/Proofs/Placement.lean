import Labyrinth.Source.Accepted

/-!
# Where the instructions of a text stand

Only the symbols that are no anchors emit, one instruction each and in order, so the instruction of a
symbol stands at the number of symbols that emit before it. That number, `emittedBefore`, turns every
place of a text into a place of its program: it moves on by one at a symbol that emits, stands still
at an anchor, and ends at the size of the program. `get?_of_compile?` reads the program off the text,
and `placeOf?_of_mem` says that an anchor names the instruction after it.
-/

namespace Labyrinth.Source

/-- The number of instructions that a text emits before a place. -/
def emittedBefore (text : Source) (place : Nat) : Nat := emitted (text.take place)

variable {text : Source} {program : Program}

/-! ### Counting along a text -/

theorem emitted_cons (c : Char) (rest : Source) :
    emitted (c :: rest) = emitted rest + if emits c then 1 else 0 :=
  List.countP_cons

@[simp] theorem emittedBefore_zero (text : Source) : emittedBefore text 0 = 0 := rfl

theorem emittedBefore_succ {place : Nat} {c : Char} (h : text[place]? = some c) :
    emittedBefore text (place + 1) = emittedBefore text place + if emits c then 1 else 0 := by
  simp [emittedBefore, emitted, List.take_add_one, h, List.countP_cons]

theorem emittedBefore_of_length_le {place : Nat} (h : text.length ≤ place) :
    emittedBefore text place = emitted text := by
  rw [emittedBefore, List.take_of_length_le h]

theorem emittedBefore_le (text : Source) (place : Nat) : emittedBefore text place ≤ emitted text :=
  (List.take_sublist _ _).countP_le

/-- A symbol that emits leaves room for its instruction. -/
theorem emittedBefore_lt {place : Nat} {c : Char} (h : text[place]? = some c)
    (emitting : emits c = true) : emittedBefore text place < emitted text := by
  have later := emittedBefore_le text (place + 1)
  rw [emittedBefore_succ h, if_pos emitting] at later
  omega

/-- Nothing is emitted where there are only anchors. -/
theorem emittedBefore_eq_of_anchors {first second : Nat} (h : first ≤ second)
    (anchors : ∀ i c, first ≤ i → i < second → text[i]? = some c → emits c = false) :
    emittedBefore text first = emittedBefore text second := by
  induction h with
  | refl => rfl
  | @step second le ih =>
    have before := ih fun i c low high => anchors i c low (Nat.lt_succ_of_lt high)
    cases found : text[second]? with
    | none =>
      have past : text.length ≤ second := List.getElem?_eq_none_iff.1 found
      rw [before, emittedBefore_of_length_le past, emittedBefore_of_length_le (by omega)]
    | some c => simp [before, emittedBefore_succ found, anchors second c le (Nat.lt_succ_self _) found]

/-- What is left of a text without its anchors has each symbol where its instruction stands. -/
theorem getElem?_filter_emits {place : Nat} {c : Char} (h : text[place]? = some c)
    (emitting : emits c = true) : (text.filter emits)[emittedBefore text place]? = some c := by
  obtain ⟨low, rfl⟩ := List.getElem?_eq_some_iff.1 h
  have split : text = text.take place ++ text[place] :: text.drop (place + 1) := by simp
  have kept := congrArg (List.filter emits) split
  rw [List.filter_append, List.filter_cons_of_pos emitting] at kept
  rw [kept, emittedBefore, emitted, List.countP_eq_length_filter,
    List.getElem?_append_right (Nat.le_refl _), Nat.sub_self, List.getElem?_cons_zero]

/-- An anchor that a text has names the place it stands at. -/
theorem placeOf?_of_mem {anchor : Char} (h : anchor ∈ text) :
    placeOf? anchor text = some (emittedBefore text (text.idxOf anchor)) := by
  induction text with
  | nil => cases h
  | cons c rest ih =>
    by_cases same : c = anchor
    · rw [placeOf?, if_pos same, same, List.idxOf_cons_self, emittedBefore_zero]
    · have later : anchor ∈ rest := (List.mem_cons.1 h).resolve_left (Ne.symm same)
      have next : (c :: rest).idxOf anchor = rest.idxOf anchor + 1 := by
        rw [List.idxOf_cons, beq_false_of_ne same, cond_false]
      rw [placeOf?, if_neg same, ih later, next]
      simp only [emittedBefore, emitted, List.take_succ_cons, List.countP_cons, Option.map_some]

theorem placeOf?_le {anchor : Char} {place : Nat} (found : placeOf? anchor text = some place) :
    place ≤ emitted text := by
  induction text generalizing place with
  | nil => cases found
  | cons c rest ih =>
    rw [placeOf?] at found
    split at found
    · cases found
      exact Nat.zero_le _
    · obtain ⟨earlier, there, rfl⟩ := Option.map_eq_some_iff.1 found
      rw [emitted_cons]
      exact Nat.add_le_add_right (ih there) _

/-! ### The program of a text -/

theorem mapM_cons_eq_some_iff {α β : Type} {f : α → Option β} {x : α} {rest : List α}
    {ys : List β} :
    (x :: rest).mapM f = some ys ↔ ∃ y, f x = some y ∧ ∃ zs, rest.mapM f = some zs ∧ y :: zs = ys := by
  simp [List.mapM_cons, Option.bind_eq_some_iff]

/-- When every item has a result, each result stands where its item stood. -/
theorem getElem?_of_mapM {α β : Type} {f : α → Option β} {xs : List α} {ys : List β}
    (h : xs.mapM f = some ys) (i : Nat) : ys[i]? = xs[i]?.bind f := by
  induction xs generalizing ys i with
  | nil =>
    obtain rfl : ys = [] := by simpa using h.symm
    simp
  | cons x rest ih =>
    obtain ⟨y, hy, zs, hzs, rfl⟩ := mapM_cons_eq_some_iff.1 h
    cases i with
    | zero => simp [hy]
    | succ i => simpa using ih hzs i

theorem length_of_mapM {α β : Type} {f : α → Option β} {xs : List α} {ys : List β}
    (h : xs.mapM f = some ys) : ys.length = xs.length := by
  induction xs generalizing ys with
  | nil =>
    obtain rfl : ys = [] := by simpa using h.symm
    rfl
  | cons x rest ih =>
    obtain ⟨y, -, zs, hzs, rfl⟩ := mapM_cons_eq_some_iff.1 h
    rw [List.length_cons, List.length_cons, ih hzs]

/-- The program of a text, instruction by instruction. -/
theorem get?_eq_bind (h : compile? text = some program) (here : Nat) :
    program.get? here = (text.filter emits)[here]?.bind fun c => meaning? text c here := by
  obtain ⟨instructions, found, rfl⟩ := Option.map_eq_some_iff.1 h
  rw [Program.get?, getElem?_of_mapM found, List.getElem?_zipIdx]
  cases (text.filter emits)[here]? <;> simp

theorem get?_of_compile? (h : compile? text = some program) {place : Nat} {c : Char}
    (found : text[place]? = some c) (emitting : emits c = true) :
    program.get? (emittedBefore text place) = meaning? text c (emittedBefore text place) := by
  rw [get?_eq_bind h, getElem?_filter_emits found emitting, Option.bind_some]

/-- The program of an accepted text is whatever compiling finds. -/
theorem program_eq_of_accept {limits : Limits} {accepted : Accepted}
    (accept : text.accept limits = .ok accepted) (compile : text.compile? = some program) :
    accepted.program = program := by
  rw [← (accept_eq_ok_iff.1 accept).1] at compile
  exact Option.some.inj (accepted.compile?_text.symm.trans compile)

/-- The anchor of every reference is there in an accepted text. -/
theorem anchorOf_mem (accepted : Accepted) {c : Char} (member : c ∈ accepted.text)
    (reference : isReference c = true) : anchorOf c ∈ accepted.text := by
  have all := List.all_eq_true.1 (isAnchored_of_shape accepted.shape_not_fatal)
  simpa [reference] using all c member

theorem sensed?_of_isReference {c : Char} (reference : isReference c = true) :
    sensed? c = none := by
  unfold sensed?
  split
  · cases reference
  · cases reference
  · rfl

/-- A reference jumps to the place of its anchor. -/
theorem meaning?_of_isReference (accepted : Accepted) {c : Char} (member : c ∈ accepted.text)
    (reference : isReference c = true) (here : Nat) :
    meaning? accepted.text c here =
      some (.jump (emittedBefore accepted.text (accepted.text.idxOf (anchorOf c)))) := by
  have anchored := anchorOf_mem accepted member reference
  simp only [meaning?, sensed?_of_isReference reference, if_pos reference,
    placeOf?_of_mem anchored, Option.map_some]

/-- The symbols that mean a conditional jump are the conditions: over the next instruction, but not past
    the end. -/
theorem meaning?_eq_jumpIf_iff {c : Char} {here target : Nat} {sensed : Tile} :
    meaning? text c here = some (.jumpIf sensed target) ↔
      sensed? c = some sensed ∧ min (here + 2) (emitted text) = target := by
  unfold meaning?
  cases sensed? c with
  | some tile => simp
  | none =>
    by_cases reference : isReference c = true
    · simp [if_pos reference]
    · simp [if_neg reference]

/-- No symbol means a jump further than just past the end. -/
theorem target_le_of_meaning? {c : Char} {here target : Nat} {i : Instruction}
    (means : meaning? text c here = some i) (leads : i.target? = some target) :
    target ≤ emitted text := by
  unfold meaning? at means
  split at means
  · cases means
    cases leads
    exact Nat.min_le_right _ _
  · split at means
    · obtain ⟨place, found, rfl⟩ := Option.map_eq_some_iff.1 means
      cases leads
      exact placeOf?_le found
    · obtain ⟨move, -, rfl⟩ := Option.map_eq_some_iff.1 means
      cases leads

/-- A program has as many instructions as its text emits. -/
theorem size_program (accepted : Accepted) : accepted.program.size = emitted accepted.text := by
  obtain ⟨instructions, found, same⟩ := Option.map_eq_some_iff.1 accepted.compile?_text
  rw [← same, Program.size, length_of_mapM found, List.length_zipIdx, emitted,
    List.countP_eq_length_filter]

/-- The first place past the end of a program is the number of instructions that its text emits. -/
theorem get?_emitted (h : compile? text = some program) : program.get? (emitted text) = none := by
  rw [get?_eq_bind h, emitted, List.countP_eq_length_filter,
    List.getElem?_eq_none (Nat.le_refl _), Option.bind_none]

end Labyrinth.Source
