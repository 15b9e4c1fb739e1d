import Labyrinth.Source.Shape

/-!
# From text to program

Anchors emit nothing and every other symbol emits one instruction, in order. A reference jumps to
the instruction that follows its anchor; a condition jumps over the next instruction, at most to the
end. A text of symbols whose references all have their anchors has a program.
-/

namespace Labyrinth

namespace Source

/-- The number of instructions that a text emits. -/
def emitted (text : Source) : Nat := text.countP emits

/-- The number of instructions emitted before an anchor, if the text has it. -/
def placeOf? (anchor : Char) : Source → Option Nat
  | [] => none
  | c :: rest =>
    if c = anchor then some 0
    else (placeOf? anchor rest).map (· + if emits c then 1 else 0)

/-- The instruction that the symbol `c` emits at place `here` of the program of `text`. -/
def meaning? (text : Source) (c : Char) (here : Nat) : Option Instruction :=
  match sensed? c with
  | some tile => some (.jumpIf tile (min (here + 2) (emitted text)))
  | none =>
    if isReference c then (placeOf? (anchorOf c) text).map .jump
    else (Move.ofSymbol? c).map .move

/-- The program of a text, if every symbol in it has a meaning. -/
def compile? (text : Source) : Option Program :=
  ((text.filter emits).zipIdx.mapM fun (c, here) => meaning? text c here).map Program.mk

/-! ### Which texts have a program -/

theorem isSome_placeOf? {anchor : Char} {text : Source} (h : anchor ∈ text) :
    (placeOf? anchor text).isSome = true := by
  induction text with
  | nil => cases h
  | cons c rest ih =>
    unfold placeOf?
    split
    · rfl
    · next ne =>
      rcases List.mem_cons.1 h with rfl | h
      · exact absurd rfl ne
      · simpa using ih h

/-- A symbol that emits has a meaning, if its anchor is there when it is a reference. -/
theorem isSome_meaning? {text : Source} {c : Char} (here : Nat) (symbol : isSymbol c = true)
    (emitting : emits c = true) (anchored : isReference c = true → anchorOf c ∈ text) :
    (meaning? text c here).isSome = true := by
  unfold meaning?
  split
  · rfl
  · next none_sensed =>
    split
    · next reference => simpa using isSome_placeOf? (anchored reference)
    · next no_reference =>
      simpa [isSymbol, isCondition, none_sensed, no_reference, show isAnchor c = false by
        simpa [emits] using emitting] using symbol

theorem isSome_mapM {α β : Type} {f : α → Option β} {xs : List α}
    (h : ∀ x ∈ xs, (f x).isSome = true) : (xs.mapM f).isSome = true := by
  induction xs with
  | nil => rfl
  | cons x rest ih =>
    obtain ⟨y, hy⟩ := Option.isSome_iff_exists.1 (h x List.mem_cons_self)
    obtain ⟨ys, hys⟩ := Option.isSome_iff_exists.1 (ih fun x hx => h x (List.mem_cons_of_mem _ hx))
    simp [List.mapM_cons, hy, hys]

/-- A text of symbols in which every reference has its anchor has a program. -/
theorem isSome_compile? {text : Source} (symbols : ∀ c ∈ text, isSymbol c = true)
    (anchored : isAnchored text = true) : (compile? text).isSome = true := by
  unfold compile?
  rw [Option.isSome_map]
  refine isSome_mapM fun (c, here) member => ?_
  obtain ⟨present, emitting⟩ := List.mem_filter.1 (List.fst_mem_of_mem_zipIdx member)
  refine isSome_meaning? here (symbols c present) emitting fun reference => ?_
  simpa [reference] using List.all_eq_true.1 anchored c present

end Source

end Labyrinth
