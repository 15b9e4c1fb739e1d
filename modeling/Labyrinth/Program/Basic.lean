import Labyrinth.Tile

/-!
# Programs

What a robot can be told to do. A program is a list of instructions; jump targets are places in that
list, and every target at or past its end leaves the program.
-/

namespace Labyrinth

/-- The four ways to move: a step along or against the heading, or a quarter turn. -/
inductive Move where
  | forward | backward | turnLeft | turnRight
  deriving DecidableEq

namespace Move

def name : Move → String
  | .forward => "Forward"
  | .backward => "Backward"
  | .turnLeft => "TurnLeft"
  | .turnRight => "TurnRight"

/-- The move that a symbol of the language stands for. -/
def ofSymbol? : Char → Option Move
  | '+' => some .forward
  | '-' => some .backward
  | '<' => some .turnLeft
  | '>' => some .turnRight
  | _ => none

end Move

/-- One instruction: a move, a jump, or a jump taken when the cell ahead looks like `sensed`. -/
inductive Instruction where
  | move (m : Move)
  | jump (target : Nat)
  | jumpIf (sensed : Tile) (target : Nat)
  deriving DecidableEq

namespace Instruction

/-- The name of the kind of instruction, without a target. -/
def name : Instruction → String
  | .move m => m.name
  | .jump _ => "Jump"
  | .jumpIf .wall _ => "JumpIfWall"
  | .jumpIf .free _ => "JumpIfNotWall"

/-- Where the instruction may jump to, if it is a jump of any kind. -/
def target? : Instruction → Option Nat
  | .move _ => none
  | .jump target => some target
  | .jumpIf _ target => some target

/-- The instruction in the words of the log. -/
def describe (i : Instruction) : String :=
  match i.target? with
  | none => i.name
  | some target => i.name ++ "(" ++ toString target ++ ")"

end Instruction

/-- The instructions of a program in order. -/
@[ext]
structure Program where
  instructions : List Instruction
  deriving DecidableEq

namespace Program

/-- The number of instructions, which is also the first place past the end. -/
def size (program : Program) : Nat := program.instructions.length

/-- The instruction at a place, or nothing past the end. -/
def get? (program : Program) (place : Nat) : Option Instruction := program.instructions[place]?

theorem get?_eq_none_iff {program : Program} {place : Nat} :
    program.get? place = none ↔ program.size ≤ place :=
  List.getElem?_eq_none_iff

/-- Where there is an instruction is a place of the program. -/
theorem lt_size_of_get? {program : Program} {place : Nat} {i : Instruction}
    (fetched : program.get? place = some i) : place < program.size :=
  (List.getElem?_eq_some_iff.1 fetched).1

end Program

end Labyrinth
