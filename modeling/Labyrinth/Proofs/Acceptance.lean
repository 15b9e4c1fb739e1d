import Labyrinth.Proofs.Offences
import Labyrinth.Verdict

/-!
# Which texts are accepted

The verdict on a text is read off the text alone, without the three checks: it runs exactly when it
is written in allowed characters, is short enough and is coherent, and else `Refused` names the one
reason that is given. Both hold of every submitted text and under all limits.
-/

namespace Labyrinth

namespace Source

variable {text : Source} {c : Char} {reason : Rejection}

/-- The characters that a program is written with. -/
def Allowed (c : Char) : Prop :=
  c ∈ ['<', '>', '+', '-', '?', '!'] ∨ ('a' ≤ c ∧ c ≤ 'z') ∨ ('A' ≤ c ∧ c ≤ 'Z')

/-- Why a text is refused when it may have `limit` characters: for the first character that is not
    allowed, else for its length, else for its shape. -/
inductive Refused (limit : Nat) (text : Source) : Rejection → Prop where
  | disallowed {before after : List Char} {c : Char} (split : text = before ++ c :: after)
      (allowed : ∀ d ∈ before, Allowed d) (foreign : ¬Allowed c) :
      Refused limit text (.disallowed c before.length)
  | tooLong (allowed : ∀ c ∈ text, Allowed c) (long : limit < text.length) :
      Refused limit text (.tooLong text.length limit)
  | malformed (allowed : ∀ c ∈ text, Allowed c) (short : text.length ≤ limit)
      (incoherent : ¬Coherent text) : Refused limit text (.malformed (shape text))

/-- One trailing `=` is dropped, and nothing else. -/
theorem dropTrailingEquals_spec (submitted : Source) :
    submitted = dropTrailingEquals submitted ++ ['='] ∨
      submitted = dropTrailingEquals submitted ∧ submitted.getLast? ≠ some '=' := by
  unfold dropTrailingEquals
  split
  · next last =>
    obtain ⟨front, rfl⟩ := List.getLast?_eq_some_iff.1 last
    exact .inl (by rw [List.dropLast_concat])
  · next last => exact .inr ⟨rfl, last⟩

/-- A text of symbols has no `=` to drop. -/
theorem dropTrailingEquals_of_symbols (symbols : ∀ c ∈ text, isSymbol c = true) :
    dropTrailingEquals text = text := by
  refine if_neg fun last => ?_
  have symbol := symbols '=' (List.mem_of_getLast? last)
  cases symbol

/-! ### The three checks -/

theorem isSome_ofSymbol?_iff : (Move.ofSymbol? c).isSome = true ↔ c ∈ ['+', '-', '<', '>'] := by
  unfold Move.ofSymbol?
  split <;> simp_all

theorem isLower_iff : c.isLower = true ↔ 'a' ≤ c ∧ c ≤ 'z' := by
  show (decide ('a' ≤ c) && decide (c ≤ 'z')) = true ↔ _
  rw [Bool.and_eq_true, decide_eq_true_eq, decide_eq_true_eq]

theorem isUpper_iff : c.isUpper = true ↔ 'A' ≤ c ∧ c ≤ 'Z' := decide_eq_true_iff

theorem isSymbol_iff : isSymbol c = true ↔ Allowed c := by
  simp only [isSymbol, isAnchor, isReference, Bool.or_eq_true, isLower_iff, isUpper_iff,
    isCondition_iff, isSome_ofSymbol?_iff, conditions, Allowed, List.mem_cons, List.not_mem_nil]
  grind

theorem checkSymbols_eq_ok_iff_allowed : checkSymbols text = .ok () ↔ ∀ c ∈ text, Allowed c := by
  simp only [checkSymbols_eq_ok_iff, isSymbol_iff]

/-- The check of the symbols stops at the first character that is not allowed. -/
theorem checkSymbolsFrom_eq_error_iff {position : Nat} :
    checkSymbolsFrom position text = .error reason ↔
      ∃ before c after, text = before ++ c :: after ∧ (∀ d ∈ before, Allowed d) ∧ ¬Allowed c ∧
        reason = .disallowed c (position + before.length) := by
  induction text generalizing position with
  | nil => simp [checkSymbolsFrom]
  | cons c rest ih =>
    rw [checkSymbolsFrom]
    by_cases symbol : isSymbol c = true
    · have allowed := isSymbol_iff.1 symbol
      rw [if_pos symbol, ih]
      constructor
      · rintro ⟨before, d, after, rfl, clean, foreign, rfl⟩
        exact ⟨c :: before, d, after, rfl, List.forall_mem_cons.2 ⟨allowed, clean⟩, foreign, by
          rw [List.length_cons, Nat.add_assoc, Nat.add_comm 1]⟩
      · rintro ⟨before, d, after, split, clean, foreign, rfl⟩
        cases before with
        | nil => cases split; exact absurd allowed foreign
        | cons e before =>
          cases split
          exact ⟨before, d, after, rfl, (List.forall_mem_cons.1 clean).2, foreign, by
            rw [List.length_cons, Nat.add_assoc, Nat.add_comm 1]⟩
    · have foreign : ¬Allowed c := fun allowed => symbol (isSymbol_iff.2 allowed)
      rw [if_neg symbol]
      constructor
      · intro stopped
        cases stopped
        exact ⟨[], c, rest, rfl, fun d member => absurd member List.not_mem_nil, foreign, rfl⟩
      · rintro ⟨before, d, after, split, clean, -, rfl⟩
        cases before with
        | nil => cases split; rfl
        | cons e before => cases split; exact absurd (List.forall_mem_cons.1 clean).1 foreign

theorem checkLength_eq_error_iff {limit : Nat} :
    checkLength text limit = .error reason ↔
      limit < text.length ∧ reason = .tooLong text.length limit := by
  by_cases short : text.length ≤ limit
  · simp [checkLength, short, Nat.not_lt.2 short]
  · simp [checkLength, short, Nat.lt_of_not_le short, eq_comm]

theorem checkShape_eq_error_iff :
    checkShape text = .error reason ↔ ¬Coherent text ∧ reason = .malformed (shape text) := by
  rw [← isFatal_shape_eq_false_iff, checkShape]
  cases (shape text).isFatal <;> simp [eq_comm]

/-! ### Acceptance -/

theorem accept_eq_ok_of {limits : Limits} (allowed : ∀ c ∈ text, Allowed c)
    (short : text.length ≤ limits.sourceLength) (coherent : Coherent text) :
    ∃ accepted, text.accept limits = .ok accepted := by
  have symbols : ∀ c ∈ text, isSymbol c = true := fun c member => isSymbol_iff.2 (allowed c member)
  exact ⟨⟨text, symbols, isFatal_shape_eq_false_iff.2 coherent⟩, accept_eq_ok_iff.2 ⟨rfl, short⟩⟩

/-- A text is not accepted exactly for the reason that refuses it. -/
theorem accept_eq_error_iff {limits : Limits} :
    text.accept limits = .error reason ↔ Refused limits.sourceLength text reason := by
  constructor
  · intro h
    unfold Source.accept at h
    split at h
    · next symbols =>
      cases h
      obtain ⟨before, c, after, split, allowed, foreign, rfl⟩ :=
        checkSymbolsFrom_eq_error_iff.1 symbols
      rw [Nat.zero_add]
      exact .disallowed split allowed foreign
    · next symbols =>
      have allowed := checkSymbols_eq_ok_iff_allowed.1 symbols
      split at h
      · next length =>
        cases h
        obtain ⟨long, rfl⟩ := checkLength_eq_error_iff.1 length
        exact .tooLong allowed long
      · next length =>
        split at h
        · next fatal =>
          cases h
          obtain ⟨incoherent, rfl⟩ := checkShape_eq_error_iff.1 fatal
          exact .malformed allowed (checkLength_eq_ok_iff.1 length) incoherent
        · cases h
  · intro refused
    unfold Source.accept
    cases refused with
    | disallowed split_text allowed foreign =>
      have stopped : checkSymbols text = .error (.disallowed _ _) :=
        checkSymbolsFrom_eq_error_iff.2 ⟨_, _, _, split_text, allowed, foreign, rfl⟩
      rw [Nat.zero_add] at stopped
      split
      · next symbols => rw [stopped] at symbols; cases symbols; rfl
      · next symbols => rw [stopped] at symbols; cases symbols
    | tooLong allowed long =>
      have passed := checkSymbols_eq_ok_iff_allowed.2 allowed
      have stopped := checkLength_eq_error_iff.2 ⟨long, rfl⟩
      split
      · next symbols => rw [passed] at symbols; cases symbols
      · rw [stopped]
    | malformed allowed short incoherent =>
      have passed := checkSymbols_eq_ok_iff_allowed.2 allowed
      have stopped := checkShape_eq_error_iff.2 ⟨incoherent, rfl⟩
      split
      · next symbols => rw [passed] at symbols; cases symbols
      · rw [checkLength_eq_ok_iff.2 short]
        simp only
        split
        · next fatal => rw [stopped] at fatal; cases fatal; rfl
        · next sound => rw [stopped] at sound; cases sound

/-- Whether a text is accepted, and if not why, is settled by the three checks. -/
theorem map_accept (text : Source) (limits : Limits) :
    (text.accept limits).map (fun _ => ()) =
      (do checkSymbols text; checkLength text limits.sourceLength; checkShape text) := by
  cases accept : text.accept limits with
  | ok accepted =>
    obtain ⟨rfl, short⟩ := accept_eq_ok_iff.1 accept
    rw [checkSymbols_eq_ok_iff.2 accepted.symbols, checkLength_eq_ok_iff.2 short,
      checkShape_eq_ok_iff.2 accepted.shape_not_fatal]
    rfl
  | error reason =>
    cases accept_eq_error_iff.1 accept with
    | disallowed split allowed foreign =>
      rw [checkSymbols, checkSymbolsFrom_eq_error_iff.2 ⟨_, _, _, split, allowed, foreign, rfl⟩,
        Nat.zero_add]
      rfl
    | tooLong allowed long =>
      rw [checkSymbols_eq_ok_iff_allowed.2 allowed, checkLength_eq_error_iff.2 ⟨long, rfl⟩]
      rfl
    | malformed allowed short incoherent =>
      rw [checkSymbols_eq_ok_iff_allowed.2 allowed, checkLength_eq_ok_iff.2 short,
        checkShape_eq_error_iff.2 ⟨incoherent, rfl⟩]
      rfl

end Source

/-- What is accepted is coherent. -/
theorem Accepted.coherent (accepted : Accepted) : Source.Coherent accepted.text :=
  Source.isFatal_shape_eq_false_iff.1 accepted.shape_not_fatal

namespace Arena

variable {arena : Arena} {submitted : Source}

/-! ### Verdicts -/

theorem judge_eq_rejected_iff {reason : Rejection} :
    arena.judge submitted = .rejected reason ↔
      (Source.dropTrailingEquals submitted).accept arena.limits = .error reason := by
  unfold judge
  cases (Source.dropTrailingEquals submitted).accept arena.limits <;> simp

/-- A completed verdict reports the run of the accepted text from the start. -/
theorem judge_eq_completed_iff {report : Report} {unused : Bool} :
    arena.judge submitted = .completed report unused ↔
      ∃ accepted, (Source.dropTrailingEquals submitted).accept arena.limits = .ok accepted ∧
        report = accepted.program.run arena.layout arena.layout.start arena.limits.steps ∧
        unused = decide (accepted.shape = .unusedAnchor) := by
  unfold judge
  cases (Source.dropTrailingEquals submitted).accept arena.limits <;> simp [eq_comm]

/-- A text runs exactly when it is written in allowed characters, short enough and coherent. -/
theorem exists_completed_iff :
    (∃ report unused, arena.judge submitted = .completed report unused) ↔
      (∀ c ∈ Source.dropTrailingEquals submitted, Source.Allowed c) ∧
        (Source.dropTrailingEquals submitted).length ≤ arena.limits.sourceLength ∧
        Source.Coherent (Source.dropTrailingEquals submitted) := by
  constructor
  · rintro ⟨report, unused, completed⟩
    obtain ⟨accepted, accept, -, -⟩ := judge_eq_completed_iff.1 completed
    obtain ⟨same, short⟩ := Source.accept_eq_ok_iff.1 accept
    have coherent := accepted.coherent
    rw [same] at coherent
    refine ⟨fun c member => ?_, short, coherent⟩
    exact Source.isSymbol_iff.1 (accepted.symbols c (same ▸ member))
  · rintro ⟨allowed, short, coherent⟩
    obtain ⟨accepted, accept⟩ := Source.accept_eq_ok_of allowed short coherent
    exact ⟨_, _, judge_eq_completed_iff.2 ⟨accepted, accept, rfl, rfl⟩⟩

/-- A completed verdict tells whether nothing asks for some anchor of the text. -/
theorem unused_iff {report : Report} {unused : Bool}
    (completed : arena.judge submitted = .completed report unused) :
    unused = true ↔ ∃ c ∈ Source.dropTrailingEquals submitted,
      c.isLower = true ∧ c.toUpper ∉ Source.dropTrailingEquals submitted := by
  obtain ⟨accepted, accept, -, rfl⟩ := judge_eq_completed_iff.1 completed
  obtain ⟨same, -⟩ := Source.accept_eq_ok_iff.1 accept
  rw [decide_eq_true_eq, Accepted.shape, Source.shape_eq_unusedAnchor_iff accepted.coherent, same]

theorem rejected_iff_refused {reason : Rejection} :
    arena.judge submitted = .rejected reason ↔
      Source.Refused arena.limits.sourceLength (Source.dropTrailingEquals submitted) reason := by
  rw [judge_eq_rejected_iff, Source.accept_eq_error_iff]

/-- No text is rejected for a shape that may run. -/
theorem isFatal_of_rejected {shape : Shape}
    (rejected : arena.judge submitted = .rejected (.malformed shape)) : shape.isFatal = true := by
  cases rejected_iff_refused.1 rejected with
  | malformed allowed short incoherent =>
    rw [← Bool.not_eq_false, Source.isFatal_shape_eq_false_iff]
    exact incoherent

/-- The verdict on a text, without its trailing `=`: it runs exactly when its characters are allowed,
    it is short enough and it is coherent, and then tells whether an anchor is unused; else it is
    rejected for the reason that refuses it, and the shape of a rejection is always fatal. -/
theorem judge_exact (arena : Arena) (submitted : Source) :
    let text := Source.dropTrailingEquals submitted
    let limit := arena.limits.sourceLength
    (submitted = text ++ ['='] ∨ submitted = text ∧ submitted.getLast? ≠ some '=') ∧
    ((∃ report unused, arena.judge submitted = .completed report unused) ↔
      (∀ c ∈ text, Source.Allowed c) ∧ text.length ≤ limit ∧ Source.Coherent text) ∧
    (∀ report unused, arena.judge submitted = .completed report unused →
      (unused = true ↔ ∃ c ∈ text, c.isLower = true ∧ c.toUpper ∉ text)) ∧
    (∀ reason, arena.judge submitted = .rejected reason ↔ Source.Refused limit text reason) ∧
    ∀ shape, arena.judge submitted = .rejected (.malformed shape) →
      shape ≠ .sound ∧ shape ≠ .unusedAnchor := by
  intro text limit
  refine ⟨Source.dropTrailingEquals_spec submitted, exists_completed_iff,
    fun _ _ completed => unused_iff completed, fun _ => rejected_iff_refused, ?_⟩
  intro shape rejected
  have fatal := isFatal_of_rejected rejected
  refine ⟨?_, ?_⟩
  · rintro rfl
    cases fatal
  · rintro rfl
    cases fatal

end Arena

end Labyrinth
