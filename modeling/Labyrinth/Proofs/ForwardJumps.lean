import Labyrinth.Proofs.Endings
import Labyrinth.Proofs.Neighbours
import Labyrinth.Proofs.Passes

/-!
# Programs that only jump forward

If every jump of a program leads behind its own place (`Program.Onward`), each step of a run goes on at a
later place than the one before, so a run has no more steps than there are instructions ahead of it, and
it ends by itself. The program of a text is one of these if every reference of the text stands before its
anchor: a condition always leads forward, also where it is led back to the end.
-/

namespace Labyrinth

namespace Program

/-- Every jump leads behind its own place. -/
def Onward (program : Program) : Prop :=
  ∀ here i target, program.get? here = some i → i.target? = some target → here < target

variable {program : Program} {layout : Layout} {budget step : Nat} {m : Machine}
  {instruction : Instruction} {trace : List Execution} {report : Report}

/-- Every instruction leads to a later place. -/
theorem Onward.pointer_lt_execute (onward : program.Onward) (layout : Layout)
    (fetched : program.get? m.pointer = some instruction) :
    m.pointer < (m.execute layout instruction).2.pointer := by
  have leads := onward m.pointer instruction
  cases instruction with
  | move move => exact Nat.lt_succ_self _
  | jump target => exact leads target fetched rfl
  | jumpIf sensed target =>
    simp only [Machine.execute]
    split
    · exact leads target fetched rfl
    · exact Nat.lt_succ_self _

/-- A run goes from place to later place. -/
theorem Onward.pairwise_pointer (onward : program.Onward)
    (record : Recorded program layout budget step m trace report) :
    (∀ e ∈ trace, m.pointer ≤ e.pointer) ∧ (trace.map fun e => e.pointer).Pairwise (· < ·) := by
  induction record with
  | cutOff => exact ⟨nofun, .nil⟩
  | ended left => exact ⟨nofun, .nil⟩
  | @stopped budget step m last instruction result outcome fetched executed stops =>
    exact ⟨List.forall_mem_singleton.2 (Nat.le_refl _), List.pairwise_singleton _ _⟩
  | @stepped budget step m next instruction trace report fetched executed rest ih =>
    obtain ⟨behind, later⟩ := ih
    have leads := onward.pointer_lt_execute layout fetched
    rw [executed] at leads
    have ahead : ∀ e ∈ trace, m.pointer < e.pointer := fun e member =>
      Nat.lt_of_lt_of_le leads (behind e member)
    refine ⟨List.forall_mem_cons.2 ⟨Nat.le_refl _, fun e member => Nat.le_of_lt (ahead e member)⟩, ?_⟩
    rw [List.map_cons]
    exact List.pairwise_cons.2 ⟨List.forall_mem_map.2 ahead, later⟩

/-- A run has no more steps than there are instructions from its first place on. -/
theorem Onward.steps_le (onward : program.Onward)
    (record : Recorded program layout budget step m trace report) :
    report.steps ≤ step + (program.size - m.pointer) := by
  induction record with
  | cutOff => exact Nat.le_add_right _ _
  | ended left => exact Nat.le_add_right _ _
  | stopped fetched executed stops =>
    have inside := lt_size_of_get? fetched
    dsimp only
    omega
  | stepped fetched executed rest ih =>
    have inside := lt_size_of_get? fetched
    have leads := onward.pointer_lt_execute layout fetched
    rw [executed] at leads
    dsimp only at leads
    omega

/-- With more budget than instructions ahead, a run ends by itself. -/
theorem Onward.outcome_ne_cutOff (onward : program.Onward)
    (record : Recorded program layout budget step m trace report)
    (enough : program.size - m.pointer < budget) : report.outcome ≠ .cutOff := by
  intro cut
  have spent := record.steps_of_cutOff cut
  have few := onward.steps_le record
  omega

end Program

namespace Source

/-- Every reference stands before its anchor. -/
def LooksAhead (text : Source) : Prop :=
  ∀ (reference anchor : Nat) (c : Char), text[reference]? = some c → c.isUpper = true →
    text[anchor]? = some c.toLower → reference < anchor

/-- A text without references has none behind its anchor. -/
theorem looksAhead_of_no_reference {text : Source} (none : ∀ c ∈ text, c.isUpper = false) :
    LooksAhead text := by
  intro reference anchor c found upper _
  rw [none c (List.mem_of_getElem? found)] at upper
  cases upper

/-- The program of a text that looks ahead jumps only forward. -/
theorem LooksAhead.onward_program {accepted : Accepted} (ahead : LooksAhead accepted.text) :
    accepted.program.Onward := by
  intro here i target fetched leads
  have inside := Program.lt_size_of_get? fetched
  have means := fetched
  rw [get?_eq_bind accepted.compile?_text] at means
  obtain ⟨c, found, -⟩ := Option.bind_eq_some_iff.1 means
  obtain ⟨place, present, rfl⟩ := exists_place_of_getElem?_filter found
  have emitting : emits c = true := (List.mem_filter.1 (List.mem_of_getElem? found)).2
  obtain ⟨same, there, renders⟩ := exists_renders accepted present emitting
  obtain rfl : i = same := Option.some.inj (fetched.symm.trans there)
  have size : accepted.program.size = emittedBefore accepted.text accepted.text.length := by
    rw [size_program, emittedBefore_of_length_le (Nat.le_refl _)]
  cases renders with
  | turnLeft | turnRight | forward | backward => cases leads
  | ifFree | ifWall =>
    -- the condition is not past the end itself, so neither of its two bounds leads back to it
    cases leads
    omega
  | @reference _ anchor upper stands alone =>
    cases leads
    have order := ahead place anchor c present upper stands
    have later : emittedBefore accepted.text (place + 1) ≤ emittedBefore accepted.text anchor :=
      emittedBefore_mono order
    rw [emittedBefore_succ present, if_pos emitting] at later
    exact later

/-- A text whose references all stand before their anchors, as they do in particular if it has none,
    always comes to an end: in every layout, for every robot and under every limit greater than the number
    of its symbols that are no anchors, its run is not cut off, executes every instruction behind the one
    before and so none twice, and has no more steps than there are such symbols. -/
theorem forward_references_always_end (accepted : Accepted) :
    let text := accepted.text
    let size := text.countP fun c => !c.isLower
    ((∀ c ∈ text, c.isUpper = false) → LooksAhead text) ∧
    (LooksAhead text → ∀ (layout : Layout) (robot : Robot) (limit : Nat), size < limit →
      let report := accepted.program.run layout robot limit
      let places := (accepted.program.trace layout robot limit).map fun e => e.pointer
      report.outcome ≠ .cutOff ∧ places.Pairwise (· < ·) ∧ places.Nodup ∧ report.steps ≤ size) := by
  intro text size
  refine ⟨looksAhead_of_no_reference, fun ahead layout robot limit enough => ?_⟩
  intro report places
  have onward : accepted.program.Onward := ahead.onward_program
  have count : accepted.program.size = size := size_program accepted
  have record : accepted.program.Recorded layout limit 0 ⟨0, robot⟩ _ report := Program.recorded ..
  have later : places.Pairwise (· < ·) := (onward.pairwise_pointer record).2
  refine ⟨onward.outcome_ne_cutOff record ?_, later, later.imp Nat.ne_of_lt, ?_⟩
  · rwa [Nat.sub_zero, count]
  · have few := onward.steps_le record
    rwa [Nat.zero_add, Nat.sub_zero, count] at few

/-- A condition passes over a jump to the end, and another one with only an anchor behind it leads there:
    five units are enough for the four symbols. -/
theorem forward_references_always_end_behind :
    let text : Source := ['?', 'A', '<', '!', 'a']
    let layout : Layout := ⟨2, 1, #[.free, .free], ⟨⟨0, 0⟩, .right⟩, ⟨1, 0⟩⟩
    ∃ accepted : Accepted, accepted.text = text ∧ LooksAhead text ∧
      (text.countP fun c => !c.isLower) < 5 ∧
      (accepted.program.run layout layout.start 5).outcome ≠ .cutOff ∧
      accepted.program.run layout layout.start 5 = ⟨.programEnded, 3, ⟨⟨0, 0⟩, .up⟩⟩ ∧
      ((accepted.program.trace layout layout.start 5).map fun e => e.pointer) = [0, 2, 3] := by
  intro text layout
  have symbols : ∀ c ∈ text, isSymbol c = true := List.all_eq_true.1 (by decide)
  have accept : text.accept {} = .ok ⟨text, symbols, by decide⟩ :=
    accept_eq_ok_iff.2 ⟨rfl, by decide⟩
  have compile : text.compile? =
      some ⟨[.jumpIf .free 2, .jump 4, .move .turnLeft, .jumpIf .wall 4]⟩ := by decide
  have few : (text.countP fun c => !c.isLower) < 5 := by decide
  have ahead : LooksAhead text := by
    intro reference anchor c found upper stands
    match reference with
    | 1 =>
      cases found
      -- the anchor is not at one of the first two places
      match anchor with
      | 0 | 1 => cases stands
      | anchor + 2 => exact Nat.le_add_left 2 anchor
    | 0 | 2 | 3 | 4 => cases found; cases upper
    | beyond + 5 => cases found
  obtain ⟨-, ends⟩ := forward_references_always_end ⟨text, symbols, by decide⟩
  refine ⟨⟨text, symbols, by decide⟩, rfl, ahead, few, (ends ahead layout layout.start 5 few).1, ?_⟩
  rw [program_eq_of_accept accept compile]
  exact ⟨by decide, by decide⟩

end Source

end Labyrinth
