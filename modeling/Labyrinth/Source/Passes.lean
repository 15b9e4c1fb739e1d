import Labyrinth.Source.Compile

/-!
# Compiling in three passes

A program can also be put together while its text is read once. Every symbol but an anchor appends an
instruction; a condition leads two places on, even past the end, and a reference leads for the time
being to its own slot. Anchors are written down with the number of instructions so far, and so are the
slots that wait for an anchor. The second pass leads conditions back to the end, and the third fills
each slot with the place of its anchor. A character without a meaning and an anchor that was never
written down stop the work.
-/

namespace Labyrinth

/-- The same instruction, led back to `size` if it is a condition that leads further. -/
def Instruction.leadBack (size : Nat) : Instruction → Instruction
  | .jumpIf sensed target => .jumpIf sensed (min target size)
  | i => i

namespace Source

/-- What stops the passes. -/
inductive PassFault where
  /-- A character stands for no instruction. -/
  | meaningless (character : Char)
  /-- The anchor that a slot waits for was never written down. -/
  | missingAnchor (anchor : Char) (slot : Nat)
  deriving DecidableEq

/-- What has come of the text that was read. -/
structure Draft where
  instructions : List Instruction := []
  /-- The anchors and the places they name, the latest first. -/
  anchors : List (Char × Nat) := []
  /-- The slots that wait for an anchor, in order. -/
  references : List (Nat × Char) := []
  deriving DecidableEq

namespace Draft

/-- Appends an instruction. -/
def emit (draft : Draft) (i : Instruction) : Draft :=
  { draft with instructions := draft.instructions ++ [i] }

/-- Reads one character. -/
def read (draft : Draft) (c : Char) : Except PassFault Draft :=
  let here := draft.instructions.length
  match sensed? c with
  | some tile => .ok (draft.emit (.jumpIf tile (here + 2)))
  | none =>
    if isAnchor c then .ok { draft with anchors := (c, here) :: draft.anchors }
    else if isReference c then
      .ok { draft.emit (.jump here) with references := draft.references ++ [(here, anchorOf c)] }
    else
      match Move.ofSymbol? c with
      | some move => .ok (draft.emit (.move move))
      | none => .error (.meaningless c)

/-- Leads the conditions of the draft back to its end. -/
def leadBack (draft : Draft) : List Instruction :=
  draft.instructions.map (Instruction.leadBack draft.instructions.length)

end Draft

/-- Fills each slot with the place of the anchor that it waits for. -/
def fillSlots (anchors : List (Char × Nat)) :
    List (Nat × Char) → List Instruction → Except PassFault (List Instruction)
  | [], instructions => .ok instructions
  | (slot, anchor) :: rest, instructions =>
    match anchors.lookup anchor with
    | some place => fillSlots anchors rest (instructions.set slot (.jump place))
    | none => .error (.missingAnchor anchor slot)

/-- The program of a text, put together in three passes. -/
def compileInPasses (text : Source) : Except PassFault Program := do
  let draft ← text.foldlM Draft.read {}
  return ⟨← fillSlots draft.anchors draft.references draft.leadBack⟩

end Source

end Labyrinth
